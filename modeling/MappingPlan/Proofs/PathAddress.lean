import MappingPlan.Document.Section

/-!
# Paths address nodes

A section found by a path stands at the keys that lead to it.  No key on the way is empty
or holds the separator, so the keys can be read off the path of the section again, and two
sections of one document with the same path are the same section.

Only the segments of a path count, and those of a joined path are the segments of its parts.
So a section is found by a joined path exactly if it is found by the second part from where
the first part leads, however the parts are spelled, and the path of a found section leads
to that section once more.
-/

namespace MappingPlan

theorem Text.not_mem_of_mem_splitChars {separator : Char} {text piece : List Char}
    (hpiece : piece ∈ splitChars separator text) : separator ∉ piece := by
  induction text generalizing piece with
  | nil =>
      rw [splitChars_nil, List.mem_singleton] at hpiece
      simp [hpiece]
  | cons c rest ih =>
      by_cases hc : c = separator
      · subst hc
        rw [splitChars_separator, List.mem_cons] at hpiece
        rcases hpiece with rfl | hpiece
        · simp
        · exact ih hpiece
      · simp only [splitChars, if_neg hc] at hpiece
        cases hpieces : splitChars separator rest with
        | nil => exact absurd hpieces (splitChars_ne_nil separator rest)
        | cons first others =>
            rw [hpieces] at hpiece
            rcases List.mem_cons.mp hpiece with rfl | hother
            · have hfirst : separator ∉ first := ih (by simp [hpieces])
              simpa [Ne.symm hc] using hfirst
            · exact ih (by simp [hpieces, hother])

namespace ConfigPath

/-- A key that a path can be read back to. -/
def IsSegment (key : String) : Prop :=
  key ≠ "" ∧ hasSeparator key = false

theorem IsSegment.split {key : String} (hkey : IsSegment key) :
    Text.split separator key = [key] := by
  have habsent : separator ∉ key.toList := by simpa [hasSeparator] using hkey.2
  exact Text.split_of_not_mem habsent

theorem isSegment_of_mem_segments {path : ConfigPath} {key : String}
    (hmem : key ∈ path.segments) : IsSegment key := by
  simp only [segments, Text.split, List.mem_filter, List.mem_map] at hmem
  obtain ⟨⟨piece, hpiece, rfl⟩, hnonempty⟩ := hmem
  refine ⟨by simpa using hnonempty, ?_⟩
  simpa [hasSeparator] using Text.not_mem_of_mem_splitChars hpiece

theorem split_joined (before after : String) :
    Text.split separator (before ++ ":" ++ after) =
      Text.split separator before ++ Text.split separator after := by
  have hchars : (before ++ ":" ++ after).toList =
      before.toList ++ separator :: after.toList := by
    simp [separator]
  rw [Text.split, hchars, Text.splitChars_append_separator, List.map_append]
  rfl

theorem segments_joined (before after : String) :
    segments ⟨before ++ ":" ++ after⟩ = segments ⟨before⟩ ++ segments ⟨after⟩ := by
  rw [segments, split_joined, List.filter_append]
  rfl

theorem IsSegment.segments {key : String} (hkey : IsSegment key) : segments ⟨key⟩ = [key] := by
  rw [ConfigPath.segments, hkey.split]
  simpa using hkey.1

theorem segments_child (path : ConfigPath) {key : String} (hkey : IsSegment key) :
    (path.child key).segments = path.segments ++ [key] := by
  by_cases hroot : path.isRoot
  · obtain rfl : path = root := by
      cases path
      simpa [isRoot, root] using hroot
    rw [root_child, hkey.segments]
    rfl
  · rw [child, if_neg hroot, segments_joined, hkey.segments]

theorem segments_descend {keys : List String} (hkeys : ∀ key ∈ keys, IsSegment key)
    (path : ConfigPath) : (path.descend keys).segments = path.segments ++ keys := by
  induction keys generalizing path with
  | nil => simp
  | cons key rest ih =>
      rw [List.forall_mem_cons] at hkeys
      rw [descend_cons, ih hkeys.2, segments_child path hkeys.1, List.append_assoc,
        List.singleton_append]

end ConfigPath

theorem Section.path_of_follow? {self found : Section} {keys : List String}
    (hfollow : self.follow? keys = some found) : found.path = self.path.descend keys := by
  induction keys generalizing self with
  | nil => simp_all [follow?]
  | cons key rest ih =>
      simp only [follow?, List.foldlM_cons, Option.bind_eq_bind,
        Option.bind_eq_some_iff] at hfollow
      obtain ⟨child, hchild, hrest⟩ := hfollow
      have hpath : child.path = self.path.child key := by
        unfold get? at hchild
        split at hchild
        · cases hchild
        · obtain ⟨node, _, rfl⟩ := Option.map_eq_some_iff.mp hchild
          rfl
      rw [ih hrest, hpath, ConfigPath.descend_cons]

theorem Section.follow?_append (node : Section) (before after : List String) :
    node.follow? (before ++ after) = (node.follow? before).bind (follow? · after) := by
  simp only [follow?, List.foldlM_append]
  rfl

theorem Section.find_eq_ok_iff {node found : Section} {path : String} :
    node.find path = .ok found ↔
      node.follow? (ConfigPath.segments ⟨path⟩) = some found := by
  unfold find
  cases node.follow? (ConfigPath.segments ⟨path⟩) <;> simp

/-! ## The sections of a document -/

/-- The sections that paths lead to. -/
def Document.Holds (document : Document) (node : Section) : Prop :=
  ∃ keys : List String, (∀ key ∈ keys, ConfigPath.IsSegment key) ∧
    document.rootSection.follow? keys = some node

namespace Document

variable {document : Document} {node : Section}

theorem holds_of_find {path : String} (hfind : document.find path = .ok node) :
    document.Holds node :=
  ⟨_, fun _ => ConfigPath.isSegment_of_mem_segments, Section.find_eq_ok_iff.mp hfind⟩

/-- A section that paths lead to is found by its own path. -/
theorem Holds.find_path (hholds : document.Holds node) :
    document.find node.path.text = .ok node := by
  obtain ⟨keys, hkeys, hfollow⟩ := hholds
  have hsegments : node.path.segments = keys := by
    rw [Section.path_of_follow? hfollow, ConfigPath.segments_descend hkeys]
    rfl
  rw [find, Section.find_eq_ok_iff]
  show document.rootSection.follow? node.path.segments = some node
  rw [hsegments, hfollow]

theorem Holds.get? (hholds : document.Holds node) {child : Section} {key : String}
    (hkey : ConfigPath.IsSegment key) (hchild : node.get? key = some child) :
    document.Holds child := by
  obtain ⟨keys, hkeys, hfollow⟩ := hholds
  refine ⟨keys ++ [key], ?_, ?_⟩
  · simpa [or_imp, forall_and] using ⟨hkeys, hkey⟩
  · rw [Section.follow?] at hfollow
    simp [Section.follow?, List.foldlM_append, hfollow, hchild]

theorem Holds.eq_of_path_eq (hholds : document.Holds node) {other : Section}
    (hother : document.Holds other) (hpath : other.path = node.path) : other = node := by
  have hfound : document.find node.path.text = .ok other := hpath ▸ hother.find_path
  rw [hholds.find_path] at hfound
  exact (Except.ok.inj hfound).symm

end Document

/-! ## Joined paths -/

/-- Looking up a joined path is looking up its parts in turn, from any section and for any
spelling of the parts.  The path of a section that is found in a document finds it again. -/
theorem Section.find_joined :
    (∀ (node found : Section) (before after : String),
      node.find (before ++ ":" ++ after) = .ok found ↔
        ∃ middle, node.find before = .ok middle ∧ middle.find after = .ok found) ∧
    ∀ (document : Document) (path : String) (found : Section),
      document.rootSection.find path = .ok found →
        document.rootSection.find found.path.text = .ok found := by
  constructor
  · intro node found before after
    simp only [find_eq_ok_iff]
    rw [ConfigPath.segments_joined, follow?_append, Option.bind_eq_some_iff]
  · intro document path found hfind
    exact (Document.holds_of_find hfind).find_path

/-- A detached section with an odd path, in a tree with an empty key and a key that holds the
separator, looked up by parts with leading, trailing and doubled separators; and the same
tree as a document. -/
theorem Section.find_joined_detached :
    Section.find ⟨⟨"base:"⟩, .object [("a:b", .null), ("", .null),
        ("a", .object [("b", .string "event.Id")])]⟩ ("::a" ++ ":" ++ ":b:") =
      .ok ⟨⟨"base::a:b"⟩, .string "event.Id"⟩ ∧
    Section.find (Document.rootSection ⟨.object [("a:b", .null), ("", .null),
        ("a", .object [("b", .string "event.Id")])]⟩) "a:b" =
      .ok ⟨⟨"a:b"⟩, .string "event.Id"⟩ := by
  constructor
  · apply (find_joined.1 _ _ "::a" ":b:").mpr
    exact ⟨⟨⟨"base::a"⟩, .object [("b", .string "event.Id")]⟩, by rfl, by rfl⟩
  · have hfound : Section.find (Document.rootSection ⟨.object [("a:b", .null), ("", .null),
        ("a", .object [("b", .string "event.Id")])]⟩) "a::b:" =
        .ok ⟨⟨"a:b"⟩, .string "event.Id"⟩ := by rfl
    exact find_joined.2 _ "a::b:" _ hfound

end MappingPlan
