import Mathlib.Data.String.Basic
import MappingPlan.Proofs.Lookup
import MappingPlan.Proofs.Mounting
import MappingPlan.Proofs.PathAddress

/-!
# Loading a catalog

A mapping file is found by the chain of directories that leads to it and its stem, the
name before the extension.  The walk lists the mapping files of a directory tree, each
once, and never lists a file after one whose chain begins its own: a directory comes
before the file that has its name as stem, because a name comes before any longer name
that begins with it.

Loading therefore mounts no file into another, and fails only for a file that cannot be
read, has the path separator in a name on its chain, or stands beside a directory of its
stem with a mapping file below it.
-/

namespace MappingPlan

namespace FileTree

/-- A chain of names leads from a tree to a tree inside it. -/
inductive At : FileTree → List String → FileTree → Prop
  | here (tree : FileTree) : At tree [] tree
  | enter {entries : List (String × FileTree)} {name : String} {names : List String}
      {inner found : FileTree} (hentry : (name, inner) ∈ entries)
      (hinner : At inner names found) : At (.directory entries) (name :: names) found

/-- A directory at the end of the chain holds the mapping file of the stem. -/
def HasMapping (tree : FileTree) (parents : List String) (stem : String)
    (content : ByteArray) : Prop :=
  stem ≠ "" ∧ ∃ siblings, tree.At parents (.directory siblings) ∧
    (stem ++ ".json", .file content) ∈ siblings

/-- What the mapping file of a stem has to be, for itself and beside the other files. -/
structure Mountable (tree : FileTree) (source : String) (parents : List String) (stem : String)
    (content : ByteArray) : Prop where
  plain : ∀ name ∈ parents ++ [stem], ConfigPath.hasSeparator name = false
  readable : ∃ text document, String.fromUTF8? content = some text ∧
    Document.parse source text = .ok document
  alone : ∀ names other inner, ¬ tree.HasMapping (parents ++ stem :: names) other inner

/-- What a directory entry is called. -/
structure NameFits (name : String) (tree : FileTree) : Prop where
  nonempty : name ≠ ""
  notOnlyDots : ∀ stem content, tree = .file content → name = stem ++ ".json" → stem ≠ "" →
    ∃ c ∈ stem.toList, c ≠ '.'

/-- The trees in which names tell entries apart and no mapping file has a stem of points. -/
inductive WellNamed : FileTree → Prop
  | file (content : ByteArray) : WellNamed (.file content)
  | directory {entries : List (String × FileTree)}
      (hdistinct : (entries.map Prod.fst).Nodup)
      (hnames : ∀ entry ∈ entries, NameFits entry.1 entry.2)
      (hinner : ∀ entry ∈ entries, WellNamed entry.2) : WellNamed (.directory entries)

/-! ## Stems -/

theorem splitExtension?_eq_some_iff {name stem : String} {extension : List Char} :
    splitExtension? name = some (stem, extension) ↔
      name.toList = stem.toList ++ '.' :: extension ∧ '.' ∉ extension ∧ stem ≠ "" := by
  unfold splitExtension?
  constructor
  · intro hsplit
    have hlist := List.prefix_iff_eq_append.mp
      (List.takeWhile_prefix (· != '.') (l := name.toList.reverse))
    have habsent : '.' ∉ name.toList.reverse.takeWhile (· != '.') := fun hmem => by
      simpa using List.all_eq_true.mp List.all_takeWhile '.' hmem
    dsimp only at hsplit
    generalize name.toList.reverse.takeWhile (· != '.') = before at hsplit hlist habsent
    split at hsplit
    case h_2 => cases hsplit
    case h_1 after hdrop =>
      rw [hdrop] at hlist
      split at hsplit
      · cases hsplit
      · rename_i hnonempty
        simp only [Option.some.injEq, Prod.mk.injEq] at hsplit
        obtain ⟨rfl, rfl⟩ := hsplit
        refine ⟨?_, by simpa using habsent, by simpa using hnonempty⟩
        rw [← List.reverse_inj, ← hlist]
        simp
  · rintro ⟨hname, habsent, hnonempty⟩
    have hreversed : name.toList.reverse = extension.reverse ++ '.' :: stem.toList.reverse := by
      simp [hname]
    have htake : (extension.reverse ++ '.' :: stem.toList.reverse).takeWhile (· != '.') =
        extension.reverse := by
      have hkept : ∀ c ∈ extension.reverse, (c != '.') = true := by
        intro c hc
        rw [List.mem_reverse] at hc
        simpa using fun hdot : c = '.' => habsent (hdot ▸ hc)
      rw [List.takeWhile_append_of_pos hkept]
      simp
    have hstem : stem.toList.reverse.isEmpty = false := by simpa using hnonempty
    simp only [hreversed, htake, List.drop_left, hstem, Bool.false_eq_true, if_false,
      List.reverse_reverse, String.ofList_toList]

theorem mappingStem?_eq_some_iff {name stem : String} :
    mappingStem? name = some stem ↔ name = stem ++ ".json" ∧ stem ≠ "" := by
  have happend : name = stem ++ ".json" ↔
      name.toList = stem.toList ++ '.' :: mappingExtension := by
    rw [← String.toList_inj, String.toList_append]
    rfl
  have habsent : '.' ∉ mappingExtension := by decide
  rw [happend]
  simp only [mappingStem?, Option.bind_eq_bind, Option.bind_eq_some_iff, Prod.exists,
    splitExtension?_eq_some_iff]
  constructor
  · rintro ⟨found, extension, ⟨hname, _, hnonempty⟩, hkept⟩
    by_cases hextension : extension = mappingExtension
    · rw [if_pos hextension, Option.some.injEq] at hkept
      rw [← hkept, ← hextension]
      exact ⟨hname, hnonempty⟩
    · simp [hextension] at hkept
  · rintro ⟨hname, hnonempty⟩
    exact ⟨stem, mappingExtension, ⟨hname, habsent, hnonempty⟩, by simp⟩

/-- A stem is ordered before the name of its file. -/
theorem not_name_lt_stem (stem : String) : ¬ stem ++ ".json" < stem := by
  rw [String.lt_iff_toList_lt, String.toList_append, List.not_lt]
  exact List.le_append_left

/-! ## What the walk lists -/

variable {tree inner : FileTree} {entries : List (String × FileTree)} {path name stem : String}
  {parents names : List String} {content : ByteArray} {file : MappingFile}

theorem HasMapping.enter (hentry : (name, inner) ∈ entries)
    (hmapping : inner.HasMapping names stem content) :
    (directory entries).HasMapping (name :: names) stem content := by
  obtain ⟨hstem, siblings, hat, hmem⟩ := hmapping
  exact ⟨hstem, siblings, .enter hentry hat, hmem⟩

theorem keyOf_of_fits (hfits : NameFits name (.file content)) (hname : name = stem ++ ".json")
    (hstem : stem ≠ "") : keyOf stem = stem := by
  obtain ⟨c, hc, hdot⟩ := hfits.notOnlyDots stem content rfl hname hstem
  have hne : stem ≠ "." := by
    rintro rfl
    simp at hc
    exact hdot hc
  rw [keyOf, if_neg hne]

/-- The mapping files that the walk lists for one entry. -/
def filesOf (path : String) (parents : List String) (name : String) :
    FileTree → List MappingFile
  | .file content =>
      match mappingStem? name with
      | some stem => [⟨entryPath path name, parents ++ [keyOf stem], content⟩]
      | none => []
  | .directory entries =>
      mappingFiles (entryPath path name) (parents ++ [name]) (.directory entries)

theorem entryFiles_eq_map (path : String) (parents : List String)
    (entries : List (String × FileTree)) :
    entryFiles path parents entries =
      entries.map fun entry => (entry.1, filesOf path parents entry.1 entry.2) := by
  induction entries with
  | nil => rfl
  | cons entry rest ih =>
      obtain ⟨name, tree⟩ := entry
      cases tree <;> rw [entryFiles, ih] <;> rfl

theorem mem_mappingFiles_iff :
    file ∈ mappingFiles path parents (.directory entries) ↔
      ∃ entry ∈ entries, file ∈ filesOf path parents entry.1 entry.2 := by
  rw [mappingFiles, entryFiles_eq_map]
  simp only [List.mem_flatMap, List.mem_mergeSort, List.mem_map]
  constructor
  · rintro ⟨_, ⟨entry, hentry, rfl⟩, hfile⟩
    exact ⟨entry, hentry, hfile⟩
  · rintro ⟨entry, hentry, hfile⟩
    exact ⟨_, ⟨entry, hentry, rfl⟩, hfile⟩

theorem mem_filesOf_file_iff (hfits : NameFits name (.file content)) :
    file ∈ filesOf path parents name (.file content) ↔
      ∃ stem, stem ≠ "" ∧ name = stem ++ ".json" ∧
        file = ⟨entryPath path name, parents ++ [stem], content⟩ := by
  rw [filesOf]
  cases hfound : mappingStem? name with
  | none =>
      simp only [List.not_mem_nil, false_iff, not_exists, not_and]
      intro stem hstem hname
      rw [mappingStem?_eq_some_iff.mpr ⟨hname, hstem⟩] at hfound
      cases hfound
  | some stem =>
      obtain ⟨hname, hstem⟩ := mappingStem?_eq_some_iff.mp hfound
      simp only [keyOf_of_fits hfits hname hstem, List.mem_singleton]
      constructor
      · intro hfile
        exact ⟨stem, hstem, hname, hfile⟩
      · rintro ⟨other, _, hother, hfile⟩
        rw [hname, String.append_left_inj] at hother
        rw [hfile, hother]

/-- What the walk lists are the mapping files, with the chains that lead to them. -/
theorem hasMapping_of_mem (hnamed : tree.WellNamed)
    (hfile : file ∈ mappingFiles path parents tree) :
    ∃ names stem, tree.HasMapping names stem file.content ∧
      file.keys = parents ++ (names ++ [stem]) := by
  induction hnamed generalizing path parents with
  | file content => simp [mappingFiles] at hfile
  | directory hdistinct hnames hinner ih =>
      obtain ⟨⟨name, inner⟩, hentry, hfile⟩ := mem_mappingFiles_iff.mp hfile
      cases inner with
      | file content =>
          obtain ⟨stem, hstem, rfl, rfl⟩ := (mem_filesOf_file_iff (hnames _ hentry)).mp hfile
          exact ⟨[], stem, ⟨hstem, _, .here _, hentry⟩, rfl⟩
      | directory entries =>
          obtain ⟨names, stem, hmapping, hkeys⟩ := ih _ hentry hfile
          refine ⟨name :: names, stem, hmapping.enter hentry, ?_⟩
          rw [hkeys, List.append_assoc, List.singleton_append, List.cons_append]

theorem exists_mem_of_hasMapping (path : String) (parents : List String)
    (hnamed : tree.WellNamed) (hmapping : tree.HasMapping names stem content) :
    ∃ file ∈ mappingFiles path parents tree,
      file.keys = parents ++ (names ++ [stem]) ∧ file.content = content := by
  obtain ⟨hstem, siblings, hat, hmem⟩ := hmapping
  generalize hend : directory siblings = last at hat
  induction hat generalizing path parents with
  | here tree =>
      subst hend
      cases hnamed with
      | directory hdistinct hnames hinner =>
          have hfile : ⟨entryPath path (stem ++ ".json"), parents ++ [stem], content⟩ ∈
              filesOf path parents (stem ++ ".json") (.file content) :=
            (mem_filesOf_file_iff (hnames _ hmem)).mpr ⟨stem, hstem, rfl, rfl⟩
          exact ⟨_, mem_mappingFiles_iff.mpr ⟨_, hmem, hfile⟩, rfl, rfl⟩
  | @enter entries name names inner last hentry hinside ih =>
      cases hnamed with
      | directory hdistinct hnames hinner =>
          cases inner with
          | file content =>
              cases hinside
              cases hend
          | directory below =>
              obtain ⟨file, hfile, hkeys, hcontent⟩ :=
                ih (entryPath path name) (parents ++ [name]) (hinner _ hentry) hend
              refine ⟨file, mem_mappingFiles_iff.mpr ⟨_, hentry, hfile⟩, ?_, hcontent⟩
              rw [hkeys, List.append_assoc, List.singleton_append, List.cons_append]

/-! ## The order of the walk -/

/-- How the chains of the files listed for an entry go on after the directory around it. -/
theorem keys_of_mem_filesOf (hfits : NameFits name inner) (hinner : inner.WellNamed)
    (hfile : file ∈ filesOf path parents name inner) :
    ∃ key rest, file.keys = parents ++ key :: rest ∧
      (name = key ++ ".json" ∧ rest = [] ∨ name = key ∧ rest ≠ []) := by
  cases inner with
  | file content =>
      obtain ⟨stem, _, hname, rfl⟩ := (mem_filesOf_file_iff hfits).mp hfile
      exact ⟨stem, [], rfl, .inl ⟨hname, rfl⟩⟩
  | directory entries =>
      obtain ⟨names, stem, _, hkeys⟩ := hasMapping_of_mem hinner hfile
      refine ⟨name, names ++ [stem], ?_, .inr ⟨rfl, by simp⟩⟩
      rw [hkeys, List.append_assoc, List.singleton_append]

theorem not_prefix_of_lt {first second : String × FileTree} {earlier later : MappingFile}
    (hfirst : NameFits first.1 first.2) (hfirstInner : first.2.WellNamed)
    (hsecond : NameFits second.1 second.2) (hsecondInner : second.2.WellNamed)
    (hlt : first.1 < second.1) (hearlier : earlier ∈ filesOf path parents first.1 first.2)
    (hlater : later ∈ filesOf path parents second.1 second.2) :
    ¬ earlier.keys <+: later.keys := by
  intro hbegins
  obtain ⟨key, rest, hkeys, hkind⟩ := keys_of_mem_filesOf hfirst hfirstInner hearlier
  obtain ⟨other, deeper, hothers, hotherKind⟩ :=
    keys_of_mem_filesOf hsecond hsecondInner hlater
  rw [hkeys, hothers, List.prefix_append_right_inj, List.cons_prefix_cons] at hbegins
  obtain ⟨rfl, hrest⟩ := hbegins
  rcases hkind with ⟨hname, -⟩ | ⟨hname, hdeep⟩ <;>
    rcases hotherKind with ⟨hotherName, hshallow⟩ | ⟨hotherName, -⟩
  case inl.inl => exact absurd (hname.trans hotherName.symm) hlt.ne
  case inr.inr => exact absurd (hname.trans hotherName.symm) hlt.ne
  case inl.inr =>
    rw [hname, hotherName] at hlt
    exact not_name_lt_stem key hlt
  case inr.inl =>
    rw [hshallow] at hrest
    exact hdeep (List.prefix_nil.mp hrest)

theorem pairwise_sorted_lt {α : Type} {pairs : List (String × α)}
    (hdistinct : (pairs.map Prod.fst).Nodup) :
    (pairs.mergeSort fun a b => decide (a.1 ≤ b.1)).Pairwise fun a b => a.1 < b.1 := by
  have hsorted : (pairs.mergeSort fun a b => decide (a.1 ≤ b.1)).Pairwise
      fun a b => a.1 ≤ b.1 := by
    have hle := @List.pairwise_mergeSort (String × α) (fun a b => decide (a.1 ≤ b.1))
      (fun a b c => by simpa using le_trans) (fun a b => by simpa using le_total a.1 b.1) pairs
    simpa using hle
  have hpermuted : ((pairs.mergeSort fun a b => decide (a.1 ≤ b.1)).map Prod.fst).Nodup :=
    ((List.mergeSort_perm pairs _).map Prod.fst).nodup_iff.mpr hdistinct
  exact hsorted.imp₂ (fun a b hle hne => lt_of_le_of_ne hle hne)
    (List.pairwise_map.mp hpermuted)

/-- The walk lists no file after one whose chain begins its own. -/
theorem pairwise_mappingFiles (hnamed : tree.WellNamed) :
    (mappingFiles path parents tree).Pairwise
      fun earlier later => ¬ earlier.keys <+: later.keys := by
  induction hnamed generalizing path parents with
  | file content => simp [mappingFiles]
  | @directory entries hdistinct hnames hinner ih =>
      rw [mappingFiles, entryFiles_eq_map, List.pairwise_flatMap]
      simp only [List.mem_mergeSort, List.forall_mem_map]
      constructor
      · rintro ⟨name, inner⟩ hentry
        cases inner with
        | file content =>
            rw [filesOf]
            split <;> simp
        | directory below => exact ih _ hentry
      · refine List.Pairwise.imp_of_mem ?_ (pairwise_sorted_lt ?_)
        · intro first second hfirst hsecond hlt earlier hearlier later hlater
          rw [List.mem_mergeSort, List.mem_map] at hfirst hsecond
          obtain ⟨first, hfirst, rfl⟩ := hfirst
          obtain ⟨second, hsecond, rfl⟩ := hsecond
          exact not_prefix_of_lt (hnames _ hfirst) (hinner _ hfirst) (hnames _ hsecond)
            (hinner _ hsecond) hlt hearlier hlater
        · rw [List.map_map]
          exact hdistinct

end FileTree

/-! ## Finding what was mounted -/

theorem Text.joinWith_append_head (separator first more : String) (rest : List String) :
    joinWith separator ((first ++ more) :: rest) = first ++ joinWith separator (more :: rest) := by
  cases rest with
  | nil => rfl
  | cons next rest => simp only [joinWith, String.append_assoc]

/-- The path of a node reached by keys is the keys joined. -/
theorem ConfigPath.root_descend {key : String} (hkey : key ≠ "") (keys : List String) :
    root.descend (key :: keys) = ⟨Text.joinWith ":" (key :: keys)⟩ := by
  rw [descend_cons, root_child]
  induction keys generalizing key with
  | nil => rfl
  | cons next rest ih =>
      have hchild : (⟨key⟩ : ConfigPath).child next = ⟨key ++ ":" ++ next⟩ := by
        simp [child, isRoot, hkey]
      have hlonger : key ++ ":" ++ next ≠ "" := by simp
      rw [descend_cons, hchild, ih hlonger, Text.joinWith_append_head]
      rfl

theorem Section.follow?_eq_map (node : Section) {keys : List String}
    (hplain : ∀ key ∈ keys, ConfigPath.hasSeparator key = false) :
    node.follow? keys =
      (node.node.follow? keys).map fun found => ⟨node.path.descend keys, found⟩ := by
  induction keys generalizing node with
  | nil => rfl
  | cons key rest ih =>
      rw [List.forall_mem_cons] at hplain
      rw [follow?, List.foldlM_cons, get?, hplain.1, Json.follow?_cons]
      cases node.node.member? key with
      | none => rfl
      | some found => exact ih ⟨node.path.child key, found⟩ hplain.2

theorem Document.find_of_follow? {document : Document} {keys : List String} {found : Json}
    (hkeys : keys ≠ []) (hsegments : ∀ key ∈ keys, ConfigPath.IsSegment key)
    (hfollow : document.root.follow? keys = some found) :
    document.find (Text.joinWith ":" keys) = .ok ⟨⟨Text.joinWith ":" keys⟩, found⟩ := by
  obtain ⟨first, rest, rfl⟩ := List.exists_cons_of_ne_nil hkeys
  have hpath := ConfigPath.root_descend (hsegments first (by simp)).1 rest
  have hread : ConfigPath.segments ⟨Text.joinWith ":" (first :: rest)⟩ = first :: rest := by
    rw [← hpath, ConfigPath.segments_descend hsegments]
    rfl
  have hsection := Section.follow?_eq_map document.rootSection
    fun key hkey => (hsegments key hkey).2
  rw [find, Section.find, hread, hsection, rootSection, hfollow, Option.map_some, hpath]

/-! ## Catalogs -/

namespace FileTree

variable {tree : FileTree} {path source stem : String} {names parents : List String}
  {content : ByteArray}

theorem HasMapping.nonempty (hnamed : tree.WellNamed)
    (hmapping : tree.HasMapping names stem content) : ∀ name ∈ names ++ [stem], name ≠ "" := by
  obtain ⟨hstem, siblings, hat, _⟩ := hmapping
  simp only [List.forall_mem_append, List.forall_mem_singleton]
  refine ⟨?_, hstem⟩
  clear hstem
  generalize directory siblings = last at hat
  induction hat with
  | here => simp
  | enter hentry _ ih =>
      cases hnamed with
      | directory hdistinct hnames hinner =>
          exact List.forall_mem_cons.mpr ⟨(hnames _ hentry).nonempty, ih (hinner _ hentry)⟩

/-- Every listed file is sound if every mapping file is. -/
theorem sound_iff (hnamed : tree.WellNamed) (source : String) :
    (∀ file ∈ mappingFiles path [] tree, file.IsSound) ↔
      ∀ parents stem content, tree.HasMapping parents stem content →
        (∀ name ∈ parents ++ [stem], ConfigPath.hasSeparator name = false) ∧
          ∃ text document, String.fromUTF8? content = some text ∧
            Document.parse source text = .ok document := by
  constructor
  · intro hall parents stem content hmapping
    obtain ⟨file, hfile, hkeys, rfl⟩ := exists_mem_of_hasMapping path [] hnamed hmapping
    obtain ⟨hplain, document, text, htext, hparse⟩ := hall file hfile
    rw [hkeys, List.nil_append] at hplain
    rw [Document.parse_eq_ok_iff] at hparse
    exact ⟨hplain, text, document, htext, Document.parse_eq_ok_iff.mpr hparse⟩
  · intro hall file hfile
    obtain ⟨parents, stem, hmapping, hkeys⟩ := hasMapping_of_mem hnamed hfile
    obtain ⟨hplain, text, document, htext, hparse⟩ := hall parents stem _ hmapping
    rw [Document.parse_eq_ok_iff] at hparse
    refine ⟨?_, document, text, htext, Document.parse_eq_ok_iff.mpr hparse⟩
    rwa [hkeys, List.nil_append]

/-- The chain of a listed file begins another one exactly if a mapping file is below a
directory of its stem. -/
theorem alone_iff (hnamed : tree.WellNamed) :
    (∀ file ∈ mappingFiles path [] tree, ∀ other ∈ mappingFiles path [] tree,
        file.keys <+: other.keys → file.keys = other.keys) ↔
      ∀ parents stem content, tree.HasMapping parents stem content →
        ∀ names other inner, ¬ tree.HasMapping (parents ++ stem :: names) other inner := by
  constructor
  · intro hall parents stem content hmapping names other inner hbelow
    obtain ⟨file, hfile, hkeys, _⟩ := exists_mem_of_hasMapping path [] hnamed hmapping
    obtain ⟨deeper, hdeeper, hdeeperKeys, _⟩ := exists_mem_of_hasMapping path [] hnamed hbelow
    have hbegins : file.keys <+: deeper.keys := by
      rw [hkeys, hdeeperKeys]
      exact ⟨names ++ [other], by simp⟩
    have hlength := congrArg List.length (hall file hfile deeper hdeeper hbegins)
    rw [hkeys, hdeeperKeys] at hlength
    simp at hlength
  · intro hall file hfile deeper hdeeper hbegins
    obtain ⟨parents, stem, hmapping, hkeys⟩ := hasMapping_of_mem hnamed hfile
    obtain ⟨names, other, hbelow, hdeeperKeys⟩ := hasMapping_of_mem hnamed hdeeper
    rw [hkeys, hdeeperKeys, List.nil_append, List.nil_append] at hbegins ⊢
    rcases List.prefix_concat_iff.mp hbegins with hsame | ⟨rest, hrest⟩
    · exact hsame
    · have hsplit : names = parents ++ stem :: rest := by
        rw [← hrest, List.append_assoc, List.singleton_append]
      exact absurd (hsplit ▸ hbelow) (hall parents stem _ hmapping rest other _)

theorem hasMapping_directory_iff {entries : List (String × FileTree)} :
    (directory entries).HasMapping names stem content ↔
      names = [] ∧ stem ≠ "" ∧ (stem ++ ".json", .file content) ∈ entries ∨
        ∃ name inner rest, names = name :: rest ∧ (name, inner) ∈ entries ∧
          inner.HasMapping rest stem content := by
  constructor
  · rintro ⟨hstem, siblings, hat, hmem⟩
    cases hat with
    | here => exact .inl ⟨rfl, hstem, hmem⟩
    | enter hentry hinner =>
        exact .inr ⟨_, _, _, rfl, hentry, hstem, siblings, hinner, hmem⟩
  · rintro (⟨rfl, hstem, hmem⟩ | ⟨name, inner, rest, rfl, hentry, hinner⟩)
    · exact ⟨hstem, entries, .here _, hmem⟩
    · exact hinner.enter hentry

theorem not_hasMapping_file {bytes : ByteArray} : ¬ (file bytes).HasMapping names stem content := by
  rintro ⟨_, siblings, hat, _⟩
  cases hat

end FileTree

namespace Document

variable {entries : List (String × FileTree)} {path : String} {document : Document}

theorem ofDirectory_eq_ok_iff :
    ofDirectory path (.ok (.directory entries)) = .ok document ↔
      ∃ members, (FileTree.mappingFiles path [] (.directory entries)).foldlM mountFile [] =
        .ok members ∧ ⟨.object members⟩ = document := by
  simp only [ofDirectory, Outcome.bind_eq_ok_iff, Outcome.pure_eq_ok_iff]

theorem keys_ne_nil_of_mem {tree : FileTree} (hnamed : tree.WellNamed) :
    ∀ file ∈ FileTree.mappingFiles path [] tree, file.keys ≠ [] := by
  intro file hfile
  obtain ⟨parents, stem, _, hkeys⟩ := FileTree.hasMapping_of_mem hnamed hfile
  simp [hkeys]

theorem exists_ofDirectory_iff (hnamed : (FileTree.directory entries).WellNamed)
    (source : String) :
    (∃ document, ofDirectory path (.ok (.directory entries)) = .ok document) ↔
      ∀ parents stem content, (FileTree.directory entries).HasMapping parents stem content →
        (FileTree.directory entries).Mountable source parents stem content := by
  have hloads : (∃ document, ofDirectory path (.ok (.directory entries)) = .ok document) ↔
      ∃ members, (FileTree.mappingFiles path [] (.directory entries)).foldlM mountFile [] =
        .ok members := by
    simp only [ofDirectory_eq_ok_iff]
    exact ⟨fun ⟨_, members, hmembers, _⟩ => ⟨members, hmembers⟩,
      fun ⟨members, hmembers⟩ => ⟨_, members, hmembers, rfl⟩⟩
  rw [hloads, MappingFile.exists_foldlM_iff (keys_ne_nil_of_mem hnamed)
    (FileTree.pairwise_mappingFiles hnamed), FileTree.sound_iff hnamed source,
    FileTree.alone_iff hnamed]
  constructor
  · rintro ⟨hsound, halone⟩ parents stem content hmapping
    obtain ⟨hplain, hreadable⟩ := hsound parents stem content hmapping
    exact ⟨hplain, hreadable, halone parents stem content hmapping⟩
  · intro hall
    constructor
    · intro parents stem content hmapping
      have hmountable := hall parents stem content hmapping
      exact ⟨hmountable.plain, hmountable.readable⟩
    · intro parents stem content hmapping
      exact (hall parents stem content hmapping).alone

theorem mounted_of_ofDirectory (hnamed : (FileTree.directory entries).WellNamed)
    (hload : ofDirectory path (.ok (.directory entries)) = .ok document) :
    ∃ members, document.root = .object members ∧
      MappingFile.Mounted (FileTree.mappingFiles path [] (.directory entries)) members := by
  obtain ⟨members, hmount, rfl⟩ := ofDirectory_eq_ok_iff.mp hload
  exact ⟨members, rfl, MappingFile.mounted_nil.foldlM (keys_ne_nil_of_mem hnamed)
    (FileTree.pairwise_mappingFiles hnamed) hmount⟩

/-- Loading a directory succeeds exactly if each mapping file in it can be mounted.  Then
each file is found, unaltered, under its own chain, and nothing else is in the document but
the objects for the directories on the way. -/
theorem ofDirectory_mounts (hnamed : (FileTree.directory entries).WellNamed) (path : String)
    (source : String) :
    ((∃ document, ofDirectory path (.ok (.directory entries)) = .ok document) ↔
      ∀ parents stem content, (FileTree.directory entries).HasMapping parents stem content →
        (FileTree.directory entries).Mountable source parents stem content) ∧
    ∀ document, ofDirectory path (.ok (.directory entries)) = .ok document →
      (∀ parents stem content, (FileTree.directory entries).HasMapping parents stem content →
        ∃ text mounted, String.fromUTF8? content = some text ∧
          parse source text = .ok mounted ∧
          document.find (Text.joinWith ":" (parents ++ [stem])) =
            .ok ⟨⟨Text.joinWith ":" (parents ++ [stem])⟩, mounted.root⟩) ∧
      ∀ chain node, chain ≠ [] → document.root.follow? chain = some node →
        ∃ parents stem content,
          (FileTree.directory entries).HasMapping parents stem content ∧
            (parents ++ [stem] <+: chain ∨
              chain <+: parents ∧ ∃ members, node = .object members) := by
  refine ⟨exists_ofDirectory_iff hnamed source, ?_⟩
  intro document hload
  obtain ⟨members, hroot, hmounted⟩ := mounted_of_ofDirectory hnamed hload
  constructor
  · intro parents stem content hmapping
    have hmountable :=
      (exists_ofDirectory_iff hnamed source).mp ⟨document, hload⟩ parents stem content hmapping
    obtain ⟨file, hfile, hkeys, rfl⟩ := FileTree.exists_mem_of_hasMapping path [] hnamed hmapping
    obtain ⟨mounted, ⟨text, htext, hparse⟩, hfollow⟩ := hmounted.found file hfile
    rw [parse_eq_ok_iff] at hparse
    refine ⟨text, mounted, htext, parse_eq_ok_iff.mpr hparse, find_of_follow? (by simp) ?_ ?_⟩
    · intro name hname
      exact ⟨hmapping.nonempty hnamed name hname, hmountable.plain name hname⟩
    · rwa [hroot, ← List.nil_append (parents ++ [stem]), ← hkeys]
  · intro chain node hnonempty hnode
    rw [hroot] at hnode
    obtain ⟨file, hfile, hcovers⟩ := hmounted.covered chain node hnonempty hnode
    obtain ⟨parents, stem, hmapping, hkeys⟩ := FileTree.hasMapping_of_mem hnamed hfile
    rw [hkeys, List.nil_append] at hcovers
    refine ⟨parents, stem, _, hmapping, ?_⟩
    rcases hcovers with hinside | ⟨habove, hobject⟩
    · exact .inl hinside
    · rcases List.prefix_concat_iff.mp habove with rfl | habove
      · exact .inl (List.prefix_refl _)
      · exact .inr ⟨habove, hobject⟩

end Document

/-! ## A directory and a file of one name in different directories -/

namespace Shops

def entries : List (String × FileTree) :=
  [("orders.json", .file "[\"total\"]".toUTF8),
   ("shop", .directory [("orders.json", .file "null".toUTF8)])]

theorem stem_eq {stem : String} (hname : stem ++ ".json" = "orders.json") : stem = "orders" := by
  rwa [← String.append_left_inj ".json"]

theorem wellNamed : (FileTree.directory entries).WellNamed := by
  have hfile : ∀ content, FileTree.NameFits "orders.json" (.file content) := by
    refine fun content => ⟨by decide, fun stem _ _ hname _ => ?_⟩
    rw [stem_eq hname.symm]
    exact ⟨'o', by decide, by decide⟩
  have hshop : ∀ inner, FileTree.NameFits "shop" (.directory inner) :=
    fun inner => ⟨by decide, fun _ _ htree => nomatch htree⟩
  refine .directory (by decide) ?_ ?_
  · simpa [entries] using ⟨hfile _, hshop _⟩
  · simp only [entries, List.forall_mem_cons]
    exact ⟨.file _, .directory (by decide) (by simpa using hfile _) (by simpa using .file _),
      by simp⟩

theorem hasMapping_cases {parents : List String} {stem : String} {content : ByteArray}
    (hmapping : (FileTree.directory entries).HasMapping parents stem content) :
    stem = "orders" ∧ (parents = [] ∧ content = "[\"total\"]".toUTF8 ∨
      parents = ["shop"] ∧ content = "null".toUTF8) := by
  simp only [entries, FileTree.hasMapping_directory_iff, List.mem_cons, Prod.mk.injEq,
    List.not_mem_nil, or_false, FileTree.file.injEq, reduceCtorEq, and_false] at hmapping
  obtain ⟨rfl, _, hname, rfl⟩ | ⟨name, inner, rest, rfl, ⟨_, rfl⟩ | ⟨rfl, rfl⟩, hinner⟩ :=
    hmapping
  · exact ⟨stem_eq hname, .inl ⟨rfl, rfl⟩⟩
  · exact absurd hinner FileTree.not_hasMapping_file
  · rw [FileTree.hasMapping_directory_iff] at hinner
    obtain ⟨rfl, _, hmem⟩ | ⟨_, _, _, _, hmem, hinner⟩ := hinner
    · obtain ⟨hname, rfl⟩ : stem ++ ".json" = "orders.json" ∧ content = "null".toUTF8 := by
        simpa using hmem
      exact ⟨stem_eq hname, .inr ⟨rfl, rfl⟩⟩
    · obtain ⟨rfl, rfl⟩ := Prod.mk.inj (List.mem_singleton.mp hmem)
      exact absurd hinner FileTree.not_hasMapping_file

theorem mountable {parents : List String} {stem : String} {content : ByteArray}
    (hmapping : (FileTree.directory entries).HasMapping parents stem content) :
    (FileTree.directory entries).Mountable "shops" parents stem content := by
  obtain ⟨rfl, hfile⟩ := hasMapping_cases hmapping
  have halone : ∀ names other inner, ¬ (FileTree.directory entries).HasMapping
      (parents ++ "orders" :: names) other inner := by
    intro names other inner hbelow
    obtain ⟨_, ⟨hnil, _⟩ | ⟨hsingle, _⟩⟩ := hasMapping_cases hbelow
    · simp at hnil
    · rcases hfile with ⟨rfl, _⟩ | ⟨rfl, _⟩ <;> simp at hsingle
  rcases hfile with ⟨rfl, rfl⟩ | ⟨rfl, rfl⟩
  · exact ⟨by decide, ⟨"[\"total\"]", ⟨.array [.string "total"]⟩, by decide, by rfl⟩, halone⟩
  · exact ⟨by decide, ⟨"null", ⟨.null⟩, by decide, by rfl⟩, halone⟩

end Shops

theorem Document.ofDirectory_mounts_shops :
    (FileTree.directory Shops.entries).WellNamed ∧
      ∃ document, ofDirectory "shops" (.ok (.directory Shops.entries)) = .ok document ∧
        document.find "orders" = .ok ⟨⟨"orders"⟩, .array [.string "total"]⟩ ∧
        document.find "shop:orders" = .ok ⟨⟨"shop:orders"⟩, .null⟩ := by
  refine ⟨Shops.wellNamed, ?_⟩
  obtain ⟨hloads, hfinds⟩ := ofDirectory_mounts Shops.wellNamed "shops" "shops"
  obtain ⟨document, hload⟩ := hloads.mpr fun _ _ _ => Shops.mountable
  have hfind := (hfinds document hload).1
  refine ⟨document, hload, ?_, ?_⟩
  · obtain ⟨text, mounted, htext, hparse, hnode⟩ := hfind [] "orders" "[\"total\"]".toUTF8
      ⟨by decide, Shops.entries, .here _, List.mem_cons_self⟩
    obtain rfl : "[\"total\"]" = text := Option.some.inj htext
    obtain rfl : ⟨.array [.string "total"]⟩ = mounted := Except.ok.inj hparse
    exact hnode
  · obtain ⟨text, mounted, htext, hparse, hnode⟩ := hfind ["shop"] "orders" "null".toUTF8
      ⟨by decide, _, .enter (List.mem_cons_of_mem _ List.mem_cons_self) (.here _),
        List.mem_cons_self⟩
    obtain rfl : "null" = text := Option.some.inj htext
    obtain rfl : ⟨.null⟩ = mounted := Except.ok.inj hparse
    exact hnode

end MappingPlan
