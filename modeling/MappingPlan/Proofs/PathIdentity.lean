import Mathlib.Data.List.Induction
import MappingPlan.Proofs.Lookup
import MappingPlan.Proofs.PathAddress
import MappingPlan.Proofs.StrictTree

/-!
# Which paths identify a node

The keys of a document hold no separator, so a path that begins with a key can be cut back
into its keys.  Only the empty key is lost.  At the front of a path it leaves no trace, and
a child under it has the path of its parent.  Further on it leaves a separator, which tells
the path from any other, but a path is looked up without its empty segments.

So two laws of paths depend on the empty key, in different ways: different nodes have
different paths exactly if the root has no empty key, and every node is found by its own
path exactly if no node has one.
-/

namespace MappingPlan

namespace ConfigPath

variable {path : ConfigPath} {key : String} {keys rest : List String}

theorem split_of_plain (hplain : hasSeparator key = false) :
    Text.split separator key = [key] := by
  have habsent : separator ∉ key.toList := by simpa [hasSeparator] using hplain
  exact Text.split_of_not_mem habsent

theorem split_child (hpath : path.text ≠ "") (hplain : hasSeparator key = false) :
    Text.split separator (path.child key).text = Text.split separator path.text ++ [key] := by
  have hnotRoot : ¬ path.isRoot := by simpa [isRoot] using hpath
  rw [child, if_neg hnotRoot, split_joined, split_of_plain hplain]

theorem split_descend (hpath : path.text ≠ "")
    (hplain : ∀ key ∈ keys, hasSeparator key = false) :
    Text.split separator (path.descend keys).text = Text.split separator path.text ++ keys := by
  induction keys generalizing path with
  | nil => simp
  | cons key rest ih =>
      rw [List.forall_mem_cons] at hplain
      have hnotRoot : ¬ path.isRoot := by simpa [isRoot] using hpath
      have hchild : (path.child key).text ≠ "" := by simp [child, hnotRoot]
      rw [descend_cons, ih hchild hplain.2, split_child hpath hplain.1, List.append_assoc,
        List.singleton_append]

theorem split_root_descend (hkey : key ≠ "")
    (hplain : ∀ name ∈ key :: rest, hasSeparator name = false) :
    Text.split separator (root.descend (key :: rest)).text = key :: rest := by
  rw [List.forall_mem_cons] at hplain
  rw [descend_cons, root_child, split_descend hkey hplain.2, split_of_plain hplain.1,
    List.singleton_append]

/-- A path that does not begin with the empty key tells the keys that it was made of. -/
theorem root_descend_injective {others : List String}
    (hplain : ∀ key ∈ keys, hasSeparator key = false)
    (hothers : ∀ key ∈ others, hasSeparator key = false)
    (hhead : keys.head? ≠ some "") (hotherHead : others.head? ≠ some "")
    (hpath : root.descend keys = root.descend others) : keys = others := by
  have hsplit := congrArg (fun path => Text.split separator path.text) hpath
  cases keys with
  | nil =>
      cases others with
      | nil => rfl
      | cons other rest =>
          have hother : other ≠ "" := by simpa using hotherHead
          rw [split_root_descend hother hothers] at hsplit
          have hempty : [""] = other :: rest := hsplit
          exact absurd (List.cons.inj hempty).1.symm hother
  | cons key rest =>
      have hkey : key ≠ "" := by simpa using hhead
      rw [split_root_descend hkey hplain] at hsplit
      cases others with
      | nil =>
          have hempty : key :: rest = [""] := hsplit
          exact absurd (List.cons.inj hempty).1 hkey
      | cons other more =>
          have hother : other ≠ "" := by simpa using hotherHead
          rw [split_root_descend hother hothers] at hsplit
          exact hsplit

theorem root_descend_empty (rest : List String) :
    root.descend ("" :: rest) = root.descend rest := by
  rw [descend_cons, root_child]
  rfl

theorem root_descend_of_empty (hempty : ∀ key ∈ keys, key = "") : root.descend keys = root := by
  induction keys with
  | nil => rfl
  | cons key rest ih =>
      rw [List.forall_mem_cons] at hempty
      rw [hempty.1, root_descend_empty, ih hempty.2]

/-- A path that ends with the empty key can be made without empty keys only if it is made
of nothing else. -/
theorem forall_empty_of_descend {kept : List String}
    (hplain : ∀ key ∈ keys, hasSeparator key = false) (hkept : ∀ key ∈ kept, IsSegment key)
    (hpath : root.descend (keys ++ [""]) = root.descend kept) : ∀ key ∈ keys, key = "" := by
  induction keys with
  | nil => simp
  | cons key rest ih =>
      rw [List.forall_mem_cons] at hplain
      by_cases hkey : key = ""
      · subst hkey
        rw [List.cons_append, root_descend_empty] at hpath
        exact List.forall_mem_cons.mpr ⟨rfl, ih hplain.2 hpath⟩
      · have hall : ∀ name ∈ key :: rest ++ [""], hasSeparator name = false := by
          simpa [or_imp, forall_and] using ⟨hplain.1, hplain.2, rfl⟩
        have hfirst : kept.head? ≠ some "" := by
          intro hhead
          exact (hkept "" (List.mem_of_mem_head? hhead)).1 rfl
        have hsame : key :: rest ++ [""] = kept :=
          root_descend_injective hall (fun name hname => (hkept name hname).2)
            (by simpa using hkey) hfirst hpath
        exact absurd rfl (hkept "" (hsame ▸ by simp)).1

end ConfigPath

/-! ## Sections that are reached from the root -/

/-- The sections that are reached from the root of a document, with the keys of the steps.
A step looks up a key, or takes a child from the list of children. -/
inductive Document.Reaches (document : Document) : List String → Section → Prop
  | root : Reaches document [] document.rootSection
  | lookup {keys : List String} {node child : Section} {key : String}
      (hnode : Reaches document keys node) (hchild : node.get? key = some child) :
      Reaches document (keys ++ [key]) child
  | listed {keys : List String} {node child : Section} {key : String}
      {children : List (String × Section)} (hnode : Reaches document keys node)
      (hchildren : node.children = .ok children) (hmem : (key, child) ∈ children) :
      Reaches document (keys ++ [key]) child

namespace Section

variable {node child : Section} {key : String}

/-- With distinct keys, a child in the list of children is the one that its key finds. -/
theorem get?_of_mem_children {room : Nat} (hstrict : node.node.Strict room)
    {children : List (String × Section)} (hchildren : node.children = .ok children)
    (hmem : (key, child) ∈ children) : node.get? key = some child := by
  obtain ⟨members, hmembers, hplain, rfl⟩ := children_eq_ok_iff.mp hchildren
  obtain ⟨⟨name, tree⟩, hmember, hpair⟩ := List.mem_map.mp hmem
  obtain ⟨rfl, rfl⟩ := Prod.mk.inj hpair
  obtain ⟨path, tree⟩ := node
  cases hstrict with
  | object hkeys _ =>
      obtain rfl := Option.some.inj hmembers
      rw [get?_of_plain (hplain _ hmember), Json.member?,
        Pairs.lookup_of_mem hkeys.distinct hmember]
      rfl
  | _ => cases hmembers

theorem follow?_cons (node : Section) (key : String) (rest : List String) :
    node.follow? (key :: rest) = (node.get? key).bind (follow? · rest) := rfl

theorem follow?_append_key (node : Section) (keys : List String) (key : String) :
    node.follow? (keys ++ [key]) = (node.follow? keys).bind (get? · key) := by
  rw [follow?_append]
  congr 1
  funext reached
  rw [follow?_cons]
  exact Option.bind_fun_some _

theorem follow?_below {parent : Section} {keys : List String}
    (hparent : node.follow? keys = some parent) (hchild : parent.get? key = some child) :
    node.follow? (keys ++ [key]) = some child := by
  rw [follow?_append_key, hparent, Option.bind_some, hchild]

theorem plain_of_follow? {keys : List String} (hfollow : node.follow? keys = some child) :
    ∀ key ∈ keys, ConfigPath.hasSeparator key = false := by
  induction keys generalizing node with
  | nil => simp
  | cons key rest ih =>
      rw [follow?_cons, Option.bind_eq_some_iff] at hfollow
      obtain ⟨next, hnext, hrest⟩ := hfollow
      refine List.forall_mem_cons.mpr ⟨?_, ih hrest⟩
      unfold get? at hnext
      split at hnext
      · cases hnext
      · next hplain => simpa using hplain

theorem sizeOf_follow?_le {keys : List String} (hfollow : node.follow? keys = some child) :
    sizeOf child.node ≤ sizeOf node.node := by
  induction keys generalizing node with
  | nil =>
      obtain rfl : node = child := Option.some.inj hfollow
      exact Nat.le_refl _
  | cons key rest ih =>
      rw [follow?_cons, Option.bind_eq_some_iff] at hfollow
      obtain ⟨next, hnext, hrest⟩ := hfollow
      have hbelow := sizeOf_get?_lt hnext
      have hlower := ih hrest
      omega

end Section

namespace Document

variable {document : Document} {keys : List String} {node child : Section} {room : Nat}

/-- In a strict document the reached sections are those that are found by looking up the
keys in turn. -/
theorem reaches_iff (hstrict : document.root.Strict room) :
    document.Reaches keys node ↔ document.rootSection.follow? keys = some node := by
  constructor
  · intro hreaches
    induction hreaches with
    | root => rfl
    | lookup _ hchild ih => exact Section.follow?_below ih hchild
    | listed _ hchildren hmem ih =>
        obtain ⟨inner, _, hinner⟩ := Section.strict_of_follow? hstrict ih
        exact Section.follow?_below ih (Section.get?_of_mem_children hinner hchildren hmem)
  · intro hfollow
    induction keys using List.reverseRecOn generalizing node with
    | nil =>
        obtain rfl : document.rootSection = node := Option.some.inj hfollow
        exact .root
    | append_singleton before key ih =>
        rw [Section.follow?_append_key, Option.bind_eq_some_iff] at hfollow
        obtain ⟨parent, hparent, hchild⟩ := hfollow
        exact (ih hparent).lookup hchild

theorem path_of_rootFollow? (hfollow : document.rootSection.follow? keys = some node) :
    node.path = ConfigPath.root.descend keys :=
  Section.path_of_follow? hfollow

theorem head?_ne_empty (hnone : document.rootSection.get? "" = none)
    (hfollow : document.rootSection.follow? keys = some node) : keys.head? ≠ some "" := by
  cases keys with
  | nil => simp
  | cons key rest =>
      rw [Section.follow?_cons, Option.bind_eq_some_iff] at hfollow
      obtain ⟨next, hnext, _⟩ := hfollow
      rintro hhead
      obtain rfl : key = "" := by simpa using hhead
      rw [hnone] at hnext
      cases hnext

/-- Different nodes of a document with no empty key at its root have different paths. -/
theorem eq_of_path_eq {others : List String} {other : Section}
    (hnone : document.rootSection.get? "" = none)
    (hfollow : document.rootSection.follow? keys = some node)
    (hother : document.rootSection.follow? others = some other)
    (hpath : node.path = other.path) : keys = others ∧ node = other := by
  rw [path_of_rootFollow? hfollow, path_of_rootFollow? hother] at hpath
  have hsame : keys = others :=
    ConfigPath.root_descend_injective (Section.plain_of_follow? hfollow)
      (Section.plain_of_follow? hother) (head?_ne_empty hnone hfollow)
      (head?_ne_empty hnone hother) hpath
  subst hsame
  exact ⟨rfl, Option.some.inj (hfollow.symm.trans hother)⟩

/-- A child under the empty key is not what its path leads to. -/
theorem find_path_empty (hfollow : document.rootSection.follow? keys = some node)
    (hchild : node.get? "" = some child) : document.find child.path.text ≠ .ok child := by
  intro hfind
  have hlonger : document.rootSection.follow? (keys ++ [""]) = some child :=
    Section.follow?_below hfollow hchild
  obtain ⟨kept, hkept, hfound⟩ := holds_of_find hfind
  have hpath : ConfigPath.root.descend (keys ++ [""]) = ConfigPath.root.descend kept := by
    rw [← path_of_rootFollow? hlonger, ← path_of_rootFollow? hfound]
  have hplain := Section.plain_of_follow? hfollow
  -- an empty key leaves nothing of the path only if there is nothing before it
  have hempty := ConfigPath.forall_empty_of_descend hplain hkept hpath
  have hroot : ConfigPath.root.descend kept = ConfigPath.root.descend [] := by
    rw [← hpath, ConfigPath.root_descend_of_empty (by simpa [or_imp, forall_and] using hempty),
      ConfigPath.descend_nil]
  have hnone : kept.head? ≠ some "" := fun hhead =>
    (hkept "" (List.mem_of_mem_head? hhead)).1 rfl
  obtain rfl : kept = [] :=
    ConfigPath.root_descend_injective (fun key hkey => (hkept key hkey).2) (by simp) hnone
      (by simp) hroot
  obtain rfl : document.rootSection = child := Option.some.inj hfound
  have hbelow := Section.sizeOf_get?_lt hchild
  have habove := Section.sizeOf_follow?_le hfollow
  omega

/-- In a document that is read strictly, different nodes have different paths exactly if the
root has no empty key, and each node is found by its path exactly if no node has one. -/
theorem path_identifies_iff {source text : String} {document : Document}
    (hparse : parse source text = .ok document) :
    ((∀ keys node others other, document.Reaches keys node → document.Reaches others other →
        node.path = other.path → keys = others ∧ node = other) ↔
      document.rootSection.get? "" = none) ∧
    ((∀ keys node, document.Reaches keys node → document.find node.path.text = .ok node) ↔
      ∀ keys node, document.Reaches keys node → node.get? "" = none) := by
  have hstrict : document.root.Strict Json.nestingLimit :=
    Json.strict_of_readStrict (parse_eq_ok_iff.mp hparse)
  simp only [reaches_iff hstrict]
  refine ⟨⟨?_, ?_⟩, ⟨?_, ?_⟩⟩
  · intro hdistinct
    cases hchild : document.rootSection.get? "" with
    | none => rfl
    | some child =>
        have hfollow : document.rootSection.follow? [""] = some child := by
          rw [Section.follow?_cons, hchild]
          rfl
        have hpath : child.path = document.rootSection.path := path_of_rootFollow? hfollow
        cases (hdistinct [""] child [] document.rootSection hfollow rfl hpath).1
  · intro hnone keys node others other hfollow hother hpath
    exact eq_of_path_eq hnone hfollow hother hpath
  · intro hfound keys node hfollow
    cases hchild : node.get? "" with
    | none => rfl
    | some child =>
        have hfind := hfound _ child (Section.follow?_below hfollow hchild)
        exact absurd hfind (find_path_empty hfollow hchild)
  · intro hnone keys node hfollow
    refine Holds.find_path ⟨keys, fun key hkey =>
      ⟨?_, Section.plain_of_follow? hfollow key hkey⟩, hfollow⟩
    rintro rfl
    obtain ⟨before, after, rfl⟩ := List.append_of_mem hkey
    rw [Section.follow?_append, Option.bind_eq_some_iff] at hfollow
    obtain ⟨parent, hparent, hrest⟩ := hfollow
    rw [Section.follow?_cons, hnone before parent hparent] at hrest
    cases hrest

/-- A document whose empty key is not at the root: its paths are different, but the node
under the empty key is not found by its path. -/
theorem path_identifies_orders :
    ∃ document, parse "orders" "\x7b\"orders\":\x7b\"\":\"event.Id\"\x7d\x7d" = .ok document ∧
      (∀ keys node others other, document.Reaches keys node → document.Reaches others other →
        node.path = other.path → keys = others ∧ node = other) ∧
      ¬ ∀ keys node, document.Reaches keys node → document.find node.path.text = .ok node := by
  have hparse : parse "orders" "\x7b\"orders\":\x7b\"\":\"event.Id\"\x7d\x7d" =
      .ok ⟨.object [("orders", .object [("", .string "event.Id")])]⟩ := by rfl
  obtain ⟨hdistinct, hfound⟩ := path_identifies_iff hparse
  refine ⟨_, hparse, hdistinct.mpr rfl, fun hall => ?_⟩
  cases hfound.mp hall ["orders"] _ (.lookup .root rfl)

/-- With an empty key at the root, a child has the path of the root, and the path leads to
the root. -/
theorem path_of_empty_key :
    ∃ document child, parse "fields" "\x7b\"\":\"event.Id\"\x7d" = .ok document ∧
      document.Reaches [] document.rootSection ∧ document.Reaches [""] child ∧
      child.path = document.rootSection.path ∧ child ≠ document.rootSection ∧
      document.find child.path.text = .ok document.rootSection := by
  refine ⟨⟨.object [("", .string "event.Id")]⟩, ⟨.root, .string "event.Id"⟩, rfl, .root,
    .lookup .root rfl, rfl, fun hsame => ?_, rfl⟩
  cases congrArg Section.node hsame

end Document

end MappingPlan
