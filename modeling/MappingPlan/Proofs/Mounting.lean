import Mathlib.Data.List.Infix
import MappingPlan.Document.Catalog
import MappingPlan.Proofs.Outcome

/-!
# Mounting trees under chains of keys

A chain of keys leads to a node of a tree.  Mounting puts a new tree at the end of a chain
and makes the objects on the way where there are none.  It succeeds exactly if nothing
stands at the end of the chain yet and only objects stand on the way.  Afterwards the new
tree is found at the end, objects are found on the way, and whatever lies off the chain is
what it was.

Mounting goes into objects without asking where they came from, so it could also go into
a tree that was mounted before.  It never does if no chain begins with an earlier one.
What has been mounted then determines the whole tree: every node lies in a mounted tree
or on the way to one.
-/

namespace MappingPlan

theorem Pairs.put_of_lookup_eq_none {α β : Type} [DecidableEq α] {key : α} {value : β}
    {table : List (α × β)} (habsent : table.lookup key = none) :
    put key value table = table ++ [(key, value)] := by
  induction table with
  | nil => rfl
  | cons pair rest ih =>
      obtain ⟨name, old⟩ := pair
      rw [List.lookup_cons] at habsent
      by_cases hname : name = key
      · simp [hname] at habsent
      · have hbeq : (key == name) = false := by simpa using Ne.symm hname
        rw [hbeq] at habsent
        rw [put, if_neg hname, ih habsent, List.cons_append]

/-! ## Chains -/

namespace Json

def follow? : List String → Json → Option Json
  | [], tree => some tree
  | key :: rest, tree => (tree.member? key).bind (follow? rest)

/-- Nothing stands at the end of the chain, and only objects stand on the way. -/
def Free (keys : List String) (tree : Json) : Prop :=
  ∀ chain node, chain ≠ [] → chain <+: keys → tree.follow? chain = some node →
    chain ≠ keys ∧ ∃ members, node = .object members

@[simp] theorem follow?_nil (tree : Json) : tree.follow? [] = some tree := rfl

@[simp] theorem follow?_cons (key : String) (rest : List String) (tree : Json) :
    tree.follow? (key :: rest) = (tree.member? key).bind (follow? rest) := rfl

@[simp] theorem member?_object (key : String) (members : List (String × Json)) :
    (object members).member? key = members.lookup key := rfl

theorem follow?_append (before after : List String) (tree : Json) :
    tree.follow? (before ++ after) = (tree.follow? before).bind (follow? after) := by
  induction before generalizing tree with
  | nil => rfl
  | cons key rest ih =>
      rw [List.cons_append, follow?_cons, follow?_cons]
      cases tree.member? key with
      | none => rfl
      | some node => exact ih node

theorem exists_follow?_above {before chain : List String} {tree node : Json}
    (hbegins : before <+: chain) (hchain : tree.follow? chain = some node) :
    ∃ outer, tree.follow? before = some outer := by
  obtain ⟨after, rfl⟩ := hbegins
  rw [follow?_append, Option.bind_eq_some_iff] at hchain
  obtain ⟨outer, houter, _⟩ := hchain
  exact ⟨outer, houter⟩

theorem free_nil (tree : Json) : tree.Free [] := by
  intro chain _ hnonempty hbegins _
  exact absurd (List.prefix_nil.mp hbegins) hnonempty

theorem free_empty (keys : List String) : (object []).Free keys := by
  intro chain node hnonempty _ hchain
  obtain ⟨first, others, rfl⟩ := List.exists_cons_of_ne_nil hnonempty
  simp at hchain

theorem free_cons_iff {key : String} {rest : List String} {members : List (String × Json)} :
    (object members).Free (key :: rest) ↔
      ∀ node, members.lookup key = some node →
        rest ≠ [] ∧ ∃ inner, node = .object inner ∧ (object inner).Free rest := by
  constructor
  · intro hfree node hnode
    have hfirst := hfree [key] node (by simp) (by simp) (by simp [hnode])
    obtain ⟨hrest, inner, rfl⟩ := hfirst
    refine ⟨by simpa [eq_comm] using hrest, inner, rfl, ?_⟩
    intro chain deeper hnonempty hbegins hdeeper
    have hlonger := hfree (key :: chain) deeper (by simp)
      (List.cons_prefix_cons.mpr ⟨rfl, hbegins⟩) (by simpa [hnode] using hdeeper)
    exact ⟨fun hsame => hlonger.1 (by rw [hsame]), hlonger.2⟩
  · intro hfirst chain node hnonempty hbegins hchain
    cases chain with
    | nil => exact absurd rfl hnonempty
    | cons first others =>
        obtain ⟨rfl, hothers⟩ := List.cons_prefix_cons.mp hbegins
        rw [follow?_cons, member?_object, Option.bind_eq_some_iff] at hchain
        obtain ⟨child, hchild, hdeeper⟩ := hchain
        obtain ⟨hrest, inner, rfl, hfree⟩ := hfirst child hchild
        by_cases hend : others = []
        · subst hend
          obtain rfl : .object inner = node := by simpa using hdeeper
          exact ⟨by simpa [eq_comm] using hrest, inner, rfl⟩
        · obtain ⟨hne, hobject⟩ := hfree others node hend hothers hdeeper
          exact ⟨by simpa using hne, hobject⟩

end Json

/-! ## One mounting -/

namespace Document

variable {file : String} {value : Json} {key : String} {keys chain rest : List String}
  {members result : List (String × Json)}

theorem mount_last_eq_ok_iff :
    mount file value [key] members = .ok result ↔
      members.lookup key = none ∧ result = Pairs.put key value members := by
  rw [mount]
  cases hlookup : members.lookup key with
  | none => simp [Pairs.put_of_lookup_eq_none hlookup, eq_comm]
  | some node => simp

/-- The object that a mounting goes into, which is made if it is not there. -/
theorem mount_below_eq_ok_iff (hrest : rest ≠ []) :
    mount file value (key :: rest) members = .ok result ↔
      ∃ inner next, (members.lookup key).getD (.object []) = .object inner ∧
        mount file value rest inner = .ok next ∧
        result = Pairs.put key (.object next) members := by
  obtain ⟨second, others, rfl⟩ := List.exists_cons_of_ne_nil hrest
  rw [mount]
  case x_2 => exact fun hsecond => absurd hsecond (List.cons_ne_nil _ _)
  cases hlookup : members.lookup key with
  | none =>
      simp only [Outcome.bind_eq_ok_iff, Outcome.pure_eq_ok_iff, Option.getD_none,
        Json.object.injEq, exists_and_left, exists_eq_left',
        Pairs.put_of_lookup_eq_none hlookup, eq_comm (a := result)]
  | some node =>
      cases node with
      | object inner =>
          simp only [Outcome.bind_eq_ok_iff, Outcome.pure_eq_ok_iff, Option.getD_some,
            Json.object.injEq, exists_and_left, exists_eq_left', eq_comm (a := result)]
      | _ => simp

theorem exists_mount_iff :
    (∃ result, mount file value keys members = .ok result) ↔
      (Json.object members).Free keys := by
  induction keys generalizing members with
  | nil => exact ⟨fun _ => Json.free_nil _, fun _ => ⟨members, rfl⟩⟩
  | cons key rest ih =>
      rw [Json.free_cons_iff]
      by_cases hrest : rest = []
      · subst hrest
        simp only [mount_last_eq_ok_iff, exists_and_left, exists_eq, and_true, ne_eq,
          not_true, false_and, imp_false, Option.eq_none_iff_forall_ne_some]
      · simp only [mount_below_eq_ok_iff hrest]
        constructor
        · rintro ⟨_, inner, next, hinner, hnext, _⟩ node hnode
          rw [hnode, Option.getD_some] at hinner
          exact ⟨hrest, inner, hinner, ih.mp ⟨next, hnext⟩⟩
        · intro hfree
          have hinner : ∃ inner, (members.lookup key).getD (.object []) = .object inner ∧
              (Json.object inner).Free rest := by
            cases hlookup : members.lookup key with
            | none => exact ⟨[], rfl, Json.free_empty rest⟩
            | some node => exact (hfree node hlookup).2
          obtain ⟨inner, hinner, hinnerFree⟩ := hinner
          obtain ⟨next, hnext⟩ := ih.mpr hinnerFree
          exact ⟨_, inner, next, hinner, hnext, rfl⟩

/-- The mounted tree is found at the end of its chain. -/
theorem follow?_mount_inside (hmount : mount file value keys members = .ok result)
    (hkeys : keys ≠ []) :
    (Json.object result).follow? keys = some value := by
  induction keys generalizing members result with
  | nil => exact absurd rfl hkeys
  | cons key rest ih =>
      rw [Json.follow?_cons, Json.member?_object]
      by_cases hrest : rest = []
      · subst hrest
        obtain ⟨_, rfl⟩ := mount_last_eq_ok_iff.mp hmount
        rw [Pairs.lookup_put_self, Option.bind_some, Json.follow?_nil]
      · obtain ⟨inner, next, _, hnext, rfl⟩ := (mount_below_eq_ok_iff hrest).mp hmount
        rw [Pairs.lookup_put_self, Option.bind_some]
        exact ih hnext hrest

theorem follow?_mount_above (hmount : mount file value keys members = .ok result)
    (hchain : chain <+: keys) (hne : chain ≠ keys) :
    ∃ inner, (Json.object result).follow? chain = some (.object inner) := by
  induction keys generalizing members result chain with
  | nil => exact absurd (List.prefix_nil.mp hchain) hne
  | cons key rest ih =>
      cases chain with
      | nil => exact ⟨result, rfl⟩
      | cons first others =>
          obtain ⟨rfl, hothers⟩ := List.cons_prefix_cons.mp hchain
          have hshorter : others ≠ rest := fun hsame => hne (by rw [hsame])
          have hrest : rest ≠ [] := by
            rintro rfl
            exact hshorter (List.prefix_nil.mp hothers)
          obtain ⟨inner, next, _, hnext, rfl⟩ := (mount_below_eq_ok_iff hrest).mp hmount
          rw [Json.follow?_cons, Json.member?_object, Pairs.lookup_put_self, Option.bind_some]
          exact ih hnext hothers hshorter

/-- Mounting leaves alone whatever is neither inside the mounted tree nor on the way to it. -/
theorem follow?_mount_outside (hmount : mount file value keys members = .ok result)
    (hinside : ¬ keys <+: chain) (habove : ¬ chain <+: keys) :
    (Json.object result).follow? chain = (Json.object members).follow? chain := by
  induction keys generalizing members result chain with
  | nil => exact absurd List.nil_prefix hinside
  | cons key rest ih =>
      cases chain with
      | nil => exact absurd List.nil_prefix habove
      | cons first others =>
          rw [Json.follow?_cons, Json.follow?_cons, Json.member?_object, Json.member?_object]
          by_cases hrest : rest = []
          · subst hrest
            have hfirst : first ≠ key := by
              rintro rfl
              exact hinside (by simp)
            obtain ⟨_, rfl⟩ := mount_last_eq_ok_iff.mp hmount
            rw [Pairs.lookup_put_of_ne hfirst]
          · obtain ⟨inner, next, hinner, hnext, rfl⟩ := (mount_below_eq_ok_iff hrest).mp hmount
            by_cases hfirst : first = key
            · subst hfirst
              rw [List.cons_prefix_cons, eq_self, true_and] at hinside habove
              rw [Pairs.lookup_put_self, Option.bind_some, ih hnext hinside habove, ← hinner]
              cases hlookup : members.lookup first with
              | some node => rfl
              | none =>
                  -- A missing object is made empty, so that nothing was or is found below it.
                  obtain ⟨second, deeper, rfl⟩ : ∃ second deeper, others = second :: deeper :=
                    List.exists_cons_of_ne_nil (by rintro rfl; exact habove List.nil_prefix)
                  rfl
            · rw [Pairs.lookup_put_of_ne hfirst]

end Document

/-! ## All files of a catalog -/

namespace MappingFile

/-- The file holds a text that writes the document. -/
def Reads (file : MappingFile) (document : Document) : Prop :=
  ∃ text, String.fromUTF8? file.content = some text ∧
    Document.parse file.path text = .ok document

/-- The file is what a mapping file has to be, whatever else there is. -/
def IsSound (file : MappingFile) : Prop :=
  (∀ key ∈ file.keys, ConfigPath.hasSeparator key = false) ∧ ∃ document, file.Reads document

/-- What has been mounted determines the members: each file is found where it was mounted,
and nothing else is there but the objects on the way. -/
structure Mounted (files : List MappingFile) (members : List (String × Json)) : Prop where
  found : ∀ file ∈ files, ∃ document, file.Reads document ∧
    (Json.object members).follow? file.keys = some document.root
  covered : ∀ chain node, chain ≠ [] → (Json.object members).follow? chain = some node →
    ∃ file ∈ files, file.keys <+: chain ∨
      chain <+: file.keys ∧ ∃ inner, node = .object inner

end MappingFile

namespace Document

variable {file : MappingFile} {files earlier : List MappingFile} {document : Document}
  {members result : List (String × Json)}

theorem ofContent_eq_ok_iff :
    ofContent file.path file.content = .ok document ↔ file.Reads document := by
  unfold ofContent MappingFile.Reads
  cases String.fromUTF8? file.content <;> simp

theorem mountFile_eq_ok_iff :
    mountFile members file = .ok result ↔
      (∀ key ∈ file.keys, ConfigPath.hasSeparator key = false) ∧
        ∃ document, file.Reads document ∧
          mount file.path document.root file.keys members = .ok result := by
  by_cases hplain : file.keys.any ConfigPath.hasSeparator = true
  · obtain ⟨key, hkey, hsep⟩ := List.any_eq_true.mp hplain
    rw [mountFile, if_pos hplain]
    simp only [reduceCtorEq, false_iff, not_and]
    intro hall
    exact absurd (hall key hkey) (by simp [hsep])
  · rw [mountFile, if_neg hplain]
    simp only [Outcome.bind_eq_ok_iff, ofContent_eq_ok_iff]
    simp only [List.any_eq_true, not_exists, not_and, Bool.not_eq_true] at hplain
    exact ⟨fun hmount => ⟨hplain, hmount⟩, And.right⟩

end Document

namespace MappingFile

variable {file : MappingFile} {files earlier : List MappingFile}
  {members result : List (String × Json)}

theorem mounted_nil : Mounted [] [] := by
  refine ⟨by simp, ?_⟩
  intro chain node hnonempty hchain
  obtain ⟨first, others, rfl⟩ := List.exists_cons_of_ne_nil hnonempty
  simp at hchain

namespace Mounted

/-- Where no chain begins with an earlier one, only a longer earlier chain is in the way. -/
theorem free_iff (hmounted : Mounted earlier members) (hkeys : file.keys ≠ [])
    (horder : ∀ other ∈ earlier, ¬ other.keys <+: file.keys) :
    (Json.object members).Free file.keys ↔ ∀ other ∈ earlier, ¬ file.keys <+: other.keys := by
  constructor
  · intro hfree other hother hbegins
    obtain ⟨document, _, hroot⟩ := hmounted.found other hother
    obtain ⟨node, hnode⟩ := Json.exists_follow?_above hbegins hroot
    exact (hfree file.keys node hkeys (List.prefix_refl _) hnode).1 rfl
  · intro hlonger chain node hnonempty hbegins hnode
    obtain ⟨other, hother, hinside | ⟨habove, hobject⟩⟩ :=
      hmounted.covered chain node hnonempty hnode
    · exact absurd (hinside.trans hbegins) (horder other hother)
    · refine ⟨?_, hobject⟩
      rintro rfl
      exact hlonger other hother habove

/-- Mounting one more file keeps what is known of the files before it. -/
theorem mountFile (hmounted : Mounted earlier members) (hkeys : file.keys ≠ [])
    (horder : ∀ other ∈ earlier, ¬ other.keys <+: file.keys)
    (hmount : Document.mountFile members file = .ok result) :
    Mounted (earlier ++ [file]) result := by
  obtain ⟨_, document, hreads, hroot⟩ := Document.mountFile_eq_ok_iff.mp hmount
  have hlonger : ∀ other ∈ earlier, ¬ file.keys <+: other.keys :=
    (hmounted.free_iff hkeys horder).mp (Document.exists_mount_iff.mp ⟨result, hroot⟩)
  constructor
  · intro other hother
    rcases List.mem_append.mp hother with hother | hother
    · rw [Document.follow?_mount_outside hroot (hlonger other hother) (horder other hother)]
      exact hmounted.found other hother
    · obtain rfl := List.mem_singleton.mp hother
      exact ⟨document, hreads, Document.follow?_mount_inside hroot hkeys⟩
  · intro chain node hnonempty hnode
    by_cases hinside : file.keys <+: chain
    · exact ⟨file, by simp, .inl hinside⟩
    by_cases habove : chain <+: file.keys
    · have hne : chain ≠ file.keys := by
        rintro rfl
        exact hinside (List.prefix_refl _)
      obtain ⟨inner, hinner⟩ := Document.follow?_mount_above hroot habove hne
      obtain rfl : .object inner = node := Option.some.inj (hinner.symm.trans hnode)
      exact ⟨file, by simp, .inr ⟨habove, inner, rfl⟩⟩
    · rw [Document.follow?_mount_outside hroot hinside habove] at hnode
      obtain ⟨other, hother, hcovers⟩ := hmounted.covered chain node hnonempty hnode
      exact ⟨other, List.mem_append_left _ hother, hcovers⟩

theorem exists_mountFile_iff (hmounted : Mounted earlier members) (hkeys : file.keys ≠ [])
    (horder : ∀ other ∈ earlier, ¬ other.keys <+: file.keys) :
    (∃ result, Document.mountFile members file = .ok result) ↔
      file.IsSound ∧ ∀ other ∈ earlier, ¬ file.keys <+: other.keys := by
  rw [← hmounted.free_iff hkeys horder]
  simp only [Document.mountFile_eq_ok_iff]
  constructor
  · rintro ⟨result, hplain, document, hreads, hmount⟩
    exact ⟨⟨hplain, document, hreads⟩, Document.exists_mount_iff.mp ⟨result, hmount⟩⟩
  · rintro ⟨⟨hplain, document, hreads⟩, hfree⟩
    obtain ⟨result, hmount⟩ := (@Document.exists_mount_iff file.path document.root _ _).mpr hfree
    exact ⟨result, hplain, document, hreads, hmount⟩

theorem foldlM (hmounted : Mounted earlier members) (hkeys : ∀ file ∈ files, file.keys ≠ [])
    (horder : (earlier ++ files).Pairwise fun first second => ¬ first.keys <+: second.keys)
    (hmount : files.foldlM Document.mountFile members = .ok result) :
    Mounted (earlier ++ files) result := by
  induction files generalizing earlier members with
  | nil =>
      rw [List.foldlM_nil, Outcome.pure_eq_ok_iff] at hmount
      rwa [List.append_nil, ← hmount]
  | cons file rest ih =>
      rw [List.foldlM_cons, Outcome.bind_eq_ok_iff] at hmount
      obtain ⟨next, hnext, hrest⟩ := hmount
      rw [List.forall_mem_cons] at hkeys
      have hearlier : ∀ other ∈ earlier, ¬ other.keys <+: file.keys := fun other hother =>
        (List.pairwise_append.mp horder).2.2 other hother file (by simp)
      rw [List.append_cons] at horder ⊢
      exact ih (hmounted.mountFile hkeys.1 hearlier hnext) hkeys.2 horder hrest

theorem exists_foldlM_iff (hmounted : Mounted earlier members)
    (hkeys : ∀ file ∈ files, file.keys ≠ [])
    (horder : (earlier ++ files).Pairwise fun first second => ¬ first.keys <+: second.keys) :
    (∃ result, files.foldlM Document.mountFile members = .ok result) ↔
      (∀ file ∈ files, file.IsSound) ∧
        (∀ file ∈ files, ∀ other ∈ earlier, ¬ file.keys <+: other.keys) ∧
        files.Pairwise fun first second => ¬ second.keys <+: first.keys := by
  induction files generalizing earlier members with
  | nil => simp [pure, Except.pure]
  | cons file rest ih =>
      rw [List.forall_mem_cons] at hkeys
      have hearlier : ∀ other ∈ earlier, ¬ other.keys <+: file.keys := fun other hother =>
        (List.pairwise_append.mp horder).2.2 other hother file (by simp)
      have hstep := hmounted.exists_mountFile_iff hkeys.1 hearlier
      rw [List.append_cons] at horder
      simp only [List.foldlM_cons, Outcome.bind_eq_ok_iff]
      rw [List.forall_mem_cons, List.forall_mem_cons, List.pairwise_cons]
      constructor
      · rintro ⟨result, next, hnext, hrest⟩
        obtain ⟨hsound, hlonger⟩ := hstep.mp ⟨next, hnext⟩
        obtain ⟨hsounds, hothers, hpairs⟩ :=
          (ih (hmounted.mountFile hkeys.1 hearlier hnext) hkeys.2 horder).mp ⟨result, hrest⟩
        simp only [List.forall_mem_append, List.forall_mem_singleton] at hothers
        exact ⟨⟨hsound, hsounds⟩, ⟨hlonger, fun later hlater => (hothers later hlater).1⟩,
          fun later hlater => (hothers later hlater).2, hpairs⟩
      · rintro ⟨⟨hsound, hsounds⟩, ⟨hlonger, hothers⟩, hfile, hpairs⟩
        obtain ⟨next, hnext⟩ := hstep.mpr ⟨hsound, hlonger⟩
        obtain ⟨result, hrest⟩ :=
          (ih (hmounted.mountFile hkeys.1 hearlier hnext) hkeys.2 horder).mpr ⟨hsounds, by
            simp only [List.forall_mem_append, List.forall_mem_singleton]
            exact fun later hlater => ⟨hothers later hlater, hfile later hlater⟩, hpairs⟩
        exact ⟨result, next, hnext, hrest⟩

end Mounted

/-- Among files none of which begins with an earlier one, no chain leads beyond another. -/
theorem pairwise_not_prefix_iff
    (horder : files.Pairwise fun first second => ¬ first.keys <+: second.keys) :
    (files.Pairwise fun first second => ¬ second.keys <+: first.keys) ↔
      ∀ file ∈ files, ∀ other ∈ files, file.keys <+: other.keys → file.keys = other.keys := by
  induction horder with
  | nil => simp
  | @cons file rest hfirst _ ih =>
      rw [List.pairwise_cons, ih]
      simp only [List.forall_mem_cons]
      constructor
      · rintro ⟨hlater, hrest⟩
        exact ⟨⟨fun _ => trivial, fun other hother hbegins => absurd hbegins (hfirst other hother)⟩,
          fun other hother => ⟨fun hbegins => absurd hbegins (hlater other hother),
            hrest other hother⟩⟩
      · rintro ⟨_, hrest⟩
        refine ⟨fun other hother hbegins => ?_, fun other hother => (hrest other hother).2⟩
        have hsame := (hrest other hother).1 hbegins
        exact hfirst other hother (hsame ▸ List.prefix_refl _)

theorem exists_foldlM_iff (hkeys : ∀ file ∈ files, file.keys ≠ [])
    (horder : files.Pairwise fun first second => ¬ first.keys <+: second.keys) :
    (∃ result, files.foldlM Document.mountFile [] = .ok result) ↔
      (∀ file ∈ files, file.IsSound) ∧
        ∀ file ∈ files, ∀ other ∈ files, file.keys <+: other.keys → file.keys = other.keys := by
  rw [mounted_nil.exists_foldlM_iff hkeys horder, pairwise_not_prefix_iff horder]
  simp

end MappingFile

end MappingPlan
