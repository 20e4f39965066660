import MappingPlan.Proofs.CacheTransparency

/-!
# What the key of a plan tells about names

The names of a mapping go into its key as one stream of bytes, each name followed by a
zero.  The zero is not reserved: a name may hold the null character, and in the stream this
character cannot be told from the end of a name.  So the stream tells the pieces between the
zeros and nothing more.  Names without a null character are their own pieces.

A compiler that is asked for plans one after the other gives, for a section, the plan of a
section that was asked for earlier if both have one key.  Unless a digest collides, that
section stands at the same path and its names have the same pieces.
-/

namespace MappingPlan

/-! ## The stream of names -/

/-- What stands between the zeros when names are written one after the other. -/
def namePieces (names : List String) : List String :=
  names.flatMap (Text.split '\x00')

/-- The text whose bytes are digested. -/
def namesText (names : List String) : String :=
  String.ofList (names.flatMap fun name => name.toList ++ ['\x00'])

theorem namesText_cons (name : String) (rest : List String) :
    namesText (name :: rest) = name ++ String.ofList ['\x00'] ++ namesText rest := by
  rw [namesText, List.flatMap_cons, String.ofList_append, String.ofList_append,
    String.ofList_toList]
  rfl

theorem utf8_namesText (names : List String) :
    (namesText names).toUTF8.data.toList = nameBytes names := by
  induction names with
  | nil => rfl
  | cons name rest ih =>
      have hzero : (String.ofList ['\x00']).toUTF8.data.toList = [0] := by rfl
      have hbytes : nameBytes (name :: rest) =
          name.toUTF8.data.toList ++ [0] ++ nameBytes rest := rfl
      rw [namesText_cons, hbytes, ← ih, ← hzero]
      simp [String.toUTF8, String.toByteArray_append, ByteArray.data_append]

theorem split_namesText (names : List String) :
    Text.split '\x00' (namesText names) = namePieces names ++ [""] := by
  induction names with
  | nil => rfl
  | cons name rest ih =>
      have hsplit : Text.split '\x00' (namesText (name :: rest)) =
          Text.split '\x00' name ++ Text.split '\x00' (namesText rest) := by
        have hchars : (namesText (name :: rest)).toList =
            name.toList ++ '\x00' :: (namesText rest).toList := by
          simp [namesText_cons]
        rw [Text.split, Text.split, Text.split, hchars, Text.splitChars_append_separator,
          List.map_append]
      rw [hsplit, ih, namePieces, namePieces, List.flatMap_cons, List.append_assoc]

theorem Text.flatMap_splitChars (separator : Char) (text : List Char) :
    (splitChars separator text).flatMap (· ++ [separator]) = text ++ [separator] := by
  induction text with
  | nil => rfl
  | cons c rest ih =>
      by_cases hc : c = separator
      · subst hc
        rw [splitChars_separator, List.flatMap_cons, ih]
        rfl
      · simp only [splitChars, if_neg hc]
        cases hpieces : splitChars separator rest with
        | nil => exact absurd hpieces (splitChars_ne_nil separator rest)
        | cons piece pieces =>
            rw [hpieces, List.flatMap_cons] at ih
            simp only [List.flatMap_cons, List.cons_append, ih]

theorem Text.split_injective (separator : Char) : Function.Injective (split separator) := by
  intro text other hsplit
  have hpieces : splitChars separator text.toList = splitChars separator other.toList :=
    List.map_injective_iff.mpr (fun _ _ => String.ofList_injective) hsplit
  have hchars : text.toList ++ [separator] = other.toList ++ [separator] := by
    rw [← flatMap_splitChars, ← flatMap_splitChars, hpieces]
  exact String.toList_injective (List.append_cancel_right hchars)

theorem nameBytes_eq_iff {names others : List String} :
    nameBytes names = nameBytes others ↔ namePieces names = namePieces others := by
  constructor
  · intro hbytes
    rw [← utf8_namesText, ← utf8_namesText] at hbytes
    have htext : namesText names = namesText others :=
      String.toByteArray_inj.mp (ByteArray.ext (Array.toList_inj.mp hbytes))
    have hsplit := split_namesText names
    rw [htext, split_namesText] at hsplit
    exact (List.append_cancel_right hsplit).symm
  · intro hpieces
    have htext : namesText names = namesText others := by
      apply Text.split_injective '\x00'
      rw [split_namesText, split_namesText, hpieces]
    rw [← utf8_namesText, ← utf8_namesText, htext]

theorem namePieces_eq_self_iff {names : List String} :
    namePieces names = names ↔ ∀ name ∈ names, '\x00' ∉ name.toList := by
  constructor
  · intro hself name hname
    rw [← hself, namePieces, List.mem_flatMap] at hname
    obtain ⟨whole, _, hpiece⟩ := hname
    obtain ⟨chars, hchars, rfl⟩ := List.mem_map.mp hpiece
    rw [String.toList_ofList]
    exact Text.not_mem_of_mem_splitChars hchars
  · intro hplain
    induction names with
    | nil => rfl
    | cons name rest ih =>
        rw [List.forall_mem_cons] at hplain
        rw [namePieces, List.flatMap_cons, Text.split_of_not_mem hplain.1, List.singleton_append]
        exact congrArg _ (ih hplain.2)

/-! ## Requests for plans -/

/-- A section that a plan is asked for, and the format of the plan. -/
structure PlanRequest where
  format : OutputFormat
  event : ShapeId
  record : ShapeId
  node : Section

namespace PlanRequest

/-- The names that are digested: of the columns, or of the fields of an object. -/
def names (request : PlanRequest) : Result (List String) :=
  match request.format with
  | .rows => RowMapping.columnNames request.node
  | .json => request.node.children.map fun children => children.map Prod.fst

structure SamePlace (request other : PlanRequest) : Prop where
  format : request.format = other.format
  event : request.event = other.event
  record : request.record = other.record
  path : request.node.path = other.node.path

end PlanRequest

namespace Compiler

variable (compiler : Compiler)

def requestKey (request : PlanRequest) : Result PlanKey :=
  compiler.keyFor request.format request.event request.record request.node

def requestedPlan (request : PlanRequest) : Result CachedPlan :=
  compiler.freshPlan request.format request.event request.record request.node

def serve (request : PlanRequest) (cache : PlanCache) : Result CachedPlan × PlanCache :=
  match request.format with
  | .rows =>
      let (plan, cache) := compiler.compileRows request.event request.record request.node cache
      (plan.map .rows, cache)
  | .json =>
      let (plan, cache) :=
        compiler.compileDocument request.event request.record request.node cache
      (plan.map .document, cache)

/-- The cache after requests in turn, the latest first. -/
def cacheAfter : List PlanRequest → PlanCache
  | [] => .empty
  | request :: earlier => (compiler.serve request (cacheAfter earlier)).2

/-- No two streams of names of these requests have one digest. -/
def Separates (requests : List PlanRequest) : Prop :=
  ∀ request ∈ requests, ∀ other ∈ requests, ∀ names others,
    request.names = .ok names → other.names = .ok others →
      compiler.digest (nameBytes names) = compiler.digest (nameBytes others) →
        nameBytes names = nameBytes others

variable {compiler} {request : PlanRequest} {cache : PlanCache} {key : PlanKey}
  {plan : CachedPlan}

theorem of_requestKey_eq_ok (hkey : compiler.requestKey request = .ok key) :
    ∃ names, request.names = .ok names ∧
      key = ⟨request.event, request.record, request.node.path, request.format,
        compiler.digest (nameBytes names)⟩ := by
  obtain ⟨format, event, record, node⟩ := request
  cases format with
  | rows =>
      simp only [requestKey, keyFor, rowKey, Outcome.bind_eq_ok_iff,
        Outcome.pure_eq_ok_iff] at hkey
      obtain ⟨_, _, names, hnames, rfl⟩ := hkey
      exact ⟨names, hnames, rfl⟩
  | json =>
      simp only [requestKey, keyFor, documentKey, Outcome.bind_eq_ok_iff,
        Outcome.pure_eq_ok_iff] at hkey
      obtain ⟨children, hchildren, rfl⟩ := hkey
      refine ⟨children.map Prod.fst, ?_, rfl⟩
      simp only [PlanRequest.names, hchildren]
      rfl

theorem samePlace_of_requestKey {other : PlanRequest}
    (hkey : compiler.requestKey request = .ok key)
    (hother : compiler.requestKey other = .ok key) : other.SamePlace request := by
  obtain ⟨hformat, hevent, hrecord, hpath⟩ := of_keyFor_eq_ok hkey
  obtain ⟨hotherFormat, hotherEvent, hotherRecord, hotherPath⟩ := of_keyFor_eq_ok hother
  constructor
  · rw [← hotherFormat, hformat]
  · rw [← hotherEvent, hevent]
  · rw [← hotherRecord, hrecord]
  · rw [← hotherPath, hpath]

/-! ## One request -/

/-- What is compiled for a request under its key. -/
def compiledUnder (compiler : Compiler) (request : PlanRequest) (key : PlanKey) :
    Result CachedPlan :=
  match request.format with
  | .rows =>
      (compiler.freshRows request.event request.record request.node).map fun plan =>
        .rows ⟨key, plan⟩
  | .json =>
      (compiler.freshDocument request.event request.record request.node).map fun plan =>
        .document ⟨key, plan⟩

theorem requestedPlan_eq (hkey : compiler.requestKey request = .ok key) :
    compiler.requestedPlan request = compiler.compiledUnder request key := by
  obtain ⟨format, event, record, node⟩ := request
  cases format with
  | rows =>
      have hrows : compiler.rowKey event record node = .ok key := hkey
      simp only [requestedPlan, freshPlan, compileRows_empty, hrows, compiledUnder]
      cases compiler.freshRows event record node <;> rfl
  | json =>
      have hdocument : compiler.documentKey event record node = .ok key := hkey
      simp only [requestedPlan, freshPlan, compileDocument_empty, hdocument, compiledUnder]
      cases compiler.freshDocument event record node <;> rfl

theorem serve_snd (compiler : Compiler) (request : PlanRequest) (cache : PlanCache) :
    (compiler.serve request cache).2 =
      (planFor (compiler.requestKey request) (compiler.compiledUnder request) cache).2 := by
  obtain ⟨format, event, record, node⟩ := request
  cases format <;> rfl

theorem planFor_of_serve (hserve : (compiler.serve request cache).1 = .ok plan) :
    (planFor (compiler.requestKey request) (compiler.compiledUnder request) cache).1 =
      .ok plan := by
  obtain ⟨format, event, record, node⟩ := request
  cases format with
  | rows =>
      simp only [serve, compileRows, Outcome.map_eq_ok_iff, Outcome.bind_eq_ok_iff] at hserve
      obtain ⟨shared, ⟨found, hfound, hshared⟩, rfl⟩ := hserve
      cases found with
      | rows kept =>
          obtain rfl : kept = shared := Outcome.pure_eq_ok_iff.mp hshared
          exact hfound
      | document kept => cases hshared
  | json =>
      simp only [serve, compileDocument, Outcome.map_eq_ok_iff, Outcome.bind_eq_ok_iff] at hserve
      obtain ⟨shared, ⟨found, hfound, hshared⟩, rfl⟩ := hserve
      cases found with
      | rows kept => cases hshared
      | document kept =>
          obtain rfl : kept = shared := Outcome.pure_eq_ok_iff.mp hshared
          exact hfound

/-- A request fails and leaves the cache alone, is given what the cache has, or adds what is
compiled for it. -/
theorem found_or_compiled {wanted : Result PlanKey} {compile : PlanKey → Result CachedPlan}
    (hplan : (planFor wanted compile cache).1 = .ok plan) :
    ∃ key, wanted = .ok key ∧ (cache.get? key = some plan ∨ compile key = .ok plan) := by
  rcases planFor_cases wanted compile cache with
    ⟨error, _, hfailed⟩ | ⟨key, given, hkey, ⟨hget, hgiven⟩ | ⟨hcompile, hgiven⟩⟩
  · rw [hfailed] at hplan
    cases hplan
  · rw [hgiven] at hplan
    obtain rfl : given = plan := Except.ok.inj hplan
    exact ⟨key, hkey, .inl hget⟩
  · rw [hgiven] at hplan
    obtain rfl : given = plan := Except.ok.inj hplan
    exact ⟨key, hkey, .inr hcompile⟩

theorem get?_planFor {wanted : Result PlanKey} {compile : PlanKey → Result CachedPlan}
    (hget : (planFor wanted compile cache).2.get? key = some plan) :
    cache.get? key = some plan ∨ (wanted = .ok key ∧ compile key = .ok plan) := by
  rcases planFor_cases wanted compile cache with
    ⟨error, _, hfailed⟩ | ⟨own, given, hown, ⟨_, hgiven⟩ | ⟨hcompile, hgiven⟩⟩
  · rw [hfailed] at hget
    exact .inl hget
  · rw [hgiven] at hget
    exact .inl hget
  · rw [hgiven] at hget
    by_cases hkey : key = own
    · subst hkey
      rw [PlanCache.get?_insert_self] at hget
      obtain rfl : given = plan := Option.some.inj hget
      exact .inr ⟨hown, hcompile⟩
    · rw [PlanCache.get?_insert_of_ne hkey] at hget
      exact .inl hget

/-! ## Requests in turn -/

/-- Whatever is in the cache was compiled for one of the requests, under its key. -/
def Explains (compiler : Compiler) (requests : List PlanRequest) (cache : PlanCache) : Prop :=
  ∀ key plan, cache.get? key = some plan →
    ∃ source ∈ requests, compiler.requestKey source = .ok key ∧
      compiler.requestedPlan source = .ok plan

theorem Explains.serve {requests : List PlanRequest}
    (hcache : compiler.Explains requests cache) (request : PlanRequest) :
    compiler.Explains (request :: requests) (compiler.serve request cache).2 := by
  intro key plan hget
  rw [serve_snd] at hget
  rcases get?_planFor hget with hkept | ⟨hkey, hcompiled⟩
  · obtain ⟨source, hsource, horigin⟩ := hcache key plan hkept
    exact ⟨source, List.mem_cons_of_mem _ hsource, horigin⟩
  · refine ⟨request, List.mem_cons_self, hkey, ?_⟩
    rw [requestedPlan_eq hkey, hcompiled]

theorem explains_cacheAfter (compiler : Compiler) (requests : List PlanRequest) :
    compiler.Explains requests (compiler.cacheAfter requests) := by
  induction requests with
  | nil =>
      intro key plan hget
      cases hget
  | cons request earlier ih => exact ih.serve request

theorem exists_source_of_serve {earlier : List PlanRequest}
    (hserve : (compiler.serve request (compiler.cacheAfter earlier)).1 = .ok plan) :
    ∃ key, compiler.requestKey request = .ok key ∧
      ∃ source ∈ request :: earlier, compiler.requestKey source = .ok key ∧
        compiler.requestedPlan source = .ok plan := by
  obtain ⟨key, hkey, hplan⟩ := found_or_compiled (planFor_of_serve hserve)
  refine ⟨key, hkey, ?_⟩
  rcases hplan with hkept | hcompiled
  · obtain ⟨source, hsource, horigin⟩ := explains_cacheAfter compiler earlier key plan hkept
    exact ⟨source, List.mem_cons_of_mem _ hsource, horigin⟩
  · refine ⟨request, List.mem_cons_self, hkey, ?_⟩
    rw [requestedPlan_eq hkey, hcompiled]

section Separated

variable {requests : List PlanRequest} {other : PlanRequest} {names others : List String}

/-- Where digests do not collide, a key tells the place of a section and the pieces of its
names. -/
theorem Separates.requestKey_eq_iff (hdigest : compiler.Separates requests)
    (hmem : request ∈ requests) (hother : other ∈ requests)
    (hnames : request.names = .ok names) (hothers : other.names = .ok others)
    {otherKey : PlanKey} (hkey : compiler.requestKey request = .ok key)
    (hotherKey : compiler.requestKey other = .ok otherKey) :
    key = otherKey ↔ other.SamePlace request ∧ namePieces others = namePieces names := by
  obtain ⟨listed, hlisted, hkeyParts⟩ := of_requestKey_eq_ok hkey
  obtain ⟨otherListed, hotherListed, hotherParts⟩ := of_requestKey_eq_ok hotherKey
  obtain rfl : listed = names := Except.ok.inj (hlisted.symm.trans hnames)
  obtain rfl : otherListed = others := Except.ok.inj (hotherListed.symm.trans hothers)
  rw [← nameBytes_eq_iff]
  constructor
  · intro hsame
    subst hsame
    refine ⟨samePlace_of_requestKey hkey hotherKey, ?_⟩
    apply hdigest other hother request hmem _ _ hothers hnames
    rw [hkeyParts] at hotherParts
    exact (congrArg PlanKey.signature hotherParts).symm
  · rintro ⟨⟨hformat, hevent, hrecord, hpath⟩, hbytes⟩
    rw [hkeyParts, hotherParts, hformat, hevent, hrecord, hpath, hbytes]

end Separated

/-- The stream of names tells their pieces, which are the names if no name holds a null
character.  Unless digests collide, two requests have one key exactly if they are about the
same place and their names have the same pieces, and a plan that is served was compiled for
a section of the same place whose names have the same pieces. -/
theorem plans_tell_namePieces (compiler : Compiler) {earlier : List PlanRequest}
    {request : PlanRequest} (hdigest : compiler.Separates (request :: earlier)) :
    (∀ names others, nameBytes names = nameBytes others ↔
        namePieces names = namePieces others) ∧
    (∀ names, namePieces names = names ↔ ∀ name ∈ names, '\x00' ∉ name.toList) ∧
    (∀ other ∈ request :: earlier, ∀ names others key otherKey,
      request.names = .ok names → other.names = .ok others →
        compiler.requestKey request = .ok key → compiler.requestKey other = .ok otherKey →
          (key = otherKey ↔ other.SamePlace request ∧ namePieces others = namePieces names)) ∧
    ∀ plan, (compiler.serve request (compiler.cacheAfter earlier)).1 = .ok plan →
      ∃ source ∈ request :: earlier, ∃ names others,
        request.names = .ok names ∧ source.names = .ok others ∧
        source.SamePlace request ∧ namePieces others = namePieces names ∧
        compiler.requestedPlan source = .ok plan := by
  refine ⟨fun _ _ => nameBytes_eq_iff, fun _ => namePieces_eq_self_iff, ?_, ?_⟩
  · intro other hother names others key otherKey hnames hothers hkey hotherKey
    exact hdigest.requestKey_eq_iff List.mem_cons_self hother hnames hothers hkey hotherKey
  · intro plan hserve
    obtain ⟨key, hkey, source, hsource, hsourceKey, hplan⟩ := exists_source_of_serve hserve
    obtain ⟨names, hnames, _⟩ := of_requestKey_eq_ok hkey
    obtain ⟨others, hothers, _⟩ := of_requestKey_eq_ok hsourceKey
    have hsame := (hdigest.requestKey_eq_iff List.mem_cons_self hsource hnames hothers hkey
      hsourceKey).mp rfl
    exact ⟨source, hsource, names, others, hnames, hothers, hsame.1, hsame.2, hplan⟩

/-- A compiler for documents of constants, whose digests do not collide. -/
def ofConstants : Compiler where
  resolver := fun _ _ => none

def fieldsRequest (document : Document) : PlanRequest :=
  ⟨.json, ⟨"Event"⟩, ⟨"Order"⟩, document.rootSection⟩

def constantOps (fields : List (String × String)) : List Op :=
  .beginObject :: fields.zipIdx.flatMap (fun ((name, value), index) =>
    [.propertyName name (index == 0), .emitValue (.constant (.string value))]) ++ [.endObject]

def constantPlan (fields : List (String × String)) : CachedPlan :=
  .document ⟨⟨⟨"Event"⟩, ⟨"Order"⟩, .root, .json, nameBytes (fields.map Prod.fst)⟩,
    ⟨constantOps fields⟩⟩

/-- Two documents whose names differ only in where a name ends have different keys, and the
second is not given the plan of the first. -/
theorem plans_tell_namePieces_boundary :
    ∃ first second,
      Document.parse "first" "\x7b\"ab\":\"const.x\"\x7d" = .ok first ∧
      Document.parse "second" "\x7b\"a\":\"const.x\",\"b\":\"const.y\"\x7d" = .ok second ∧
      ofConstants.requestKey (fieldsRequest second) ≠
        ofConstants.requestKey (fieldsRequest first) ∧
      (ofConstants.serve (fieldsRequest second)
          (ofConstants.cacheAfter [fieldsRequest first])).1 =
        ofConstants.requestedPlan (fieldsRequest second) := by
  let first : Document := ⟨.object [("ab", .string "const.x")]⟩
  let second : Document := ⟨.object [("a", .string "const.x"), ("b", .string "const.y")]⟩
  have hdigest : ofConstants.Separates [fieldsRequest second, fieldsRequest first] :=
    fun _ _ _ _ _ _ _ _ hequal => hequal
  have hpieces : namePieces ["ab"] ≠ namePieces ["a", "b"] := by decide
  have hserve : (ofConstants.serve (fieldsRequest second)
      (ofConstants.cacheAfter [fieldsRequest first])).1 =
        .ok (constantPlan [("a", "x"), ("b", "y")]) := by decide +kernel
  obtain ⟨_, _, hkeys, hserved⟩ := plans_tell_namePieces ofConstants hdigest
  refine ⟨first, second, rfl, rfl, ?_, ?_⟩
  · intro hsame
    have hkey := hkeys (fieldsRequest first) (by simp) ["a", "b"] ["ab"] _ _ rfl rfl rfl
      hsame.symm
    exact hpieces (hkey.mp rfl).2
  · obtain ⟨source, hsource, names, others, hnames, hothers, _, hsame, hplan⟩ :=
      hserved _ hserve
    rw [hserve]
    rcases List.mem_cons.mp hsource with rfl | hfirst
    · exact hplan.symm
    · obtain rfl : source = fieldsRequest first := by simpa using hfirst
      obtain rfl : ["a", "b"] = names := Except.ok.inj hnames
      obtain rfl : ["ab"] = others := Except.ok.inj hothers
      exact absurd hsame hpieces

/-- A null character inside a name reads as the end of the name.  Two documents with
different names have one key, and the second is given the plan of the first, although the
digest tells all streams apart. -/
theorem plan_shared_by_null_character :
    ∃ first second,
      Document.parse "first" "\x7b\"a\\u0000b\":\"const.x\"\x7d" = .ok first ∧
      Document.parse "second" "\x7b\"a\":\"const.x\",\"b\":\"const.y\"\x7d" = .ok second ∧
      (fieldsRequest first).names = .ok ["a\x00b"] ∧
      (fieldsRequest second).names = .ok ["a", "b"] ∧
      nameBytes ["a\x00b"] = nameBytes ["a", "b"] ∧
      ofConstants.requestKey (fieldsRequest second) =
        ofConstants.requestKey (fieldsRequest first) ∧
      (ofConstants.serve (fieldsRequest second)
        (ofConstants.cacheAfter [fieldsRequest first])).1 =
          .ok (constantPlan [("a\x00b", "x")]) ∧
      ofConstants.requestedPlan (fieldsRequest second) =
        .ok (constantPlan [("a", "x"), ("b", "y")]) ∧
      constantPlan [("a\x00b", "x")] ≠ constantPlan [("a", "x"), ("b", "y")] := by
  refine ⟨⟨.object [("a\x00b", .string "const.x")]⟩,
    ⟨.object [("a", .string "const.x"), ("b", .string "const.y")]⟩,
    rfl, rfl, rfl, rfl, rfl, ?_, ?_, ?_, ?_⟩
  all_goals decide +kernel

end Compiler

end MappingPlan
