import MappingPlan.Document.NodeVisitor
import MappingPlan.Proofs.KeyRule

/-!
# Reading and visiting

A document is read in one pass that refuses keys, but the tree is built by a visitor, which is
given a text in parts and rejects keys on its own.  On a text that can be read plainly, both
come to the same end: to the tree that the text writes, or to the error for the first key
that breaks the rule.  A plain visitor, which puts every member into its object, builds the same
tree if no key breaks the rule.

What the visitor has accepted when the reader refuses a key is what the reader holds then: it
keeps the rule, so the visitor passes it and goes down to the object of the key.
-/

namespace MappingPlan

open Json (uniqueKeys uniqueKeys_eq_none_iff ruled_array_iff ruled_object_iff)

namespace NodeVisitor

/-! ## What keeps the rule -/

theorem visitMembers_cons {path : ConfigPath} {object rest : List (String × Json)} {key : String}
    (hkey : uniqueKeys (object.map Prod.fst) key = none) (value : Json) :
    visitMembers path object ((key, value) :: rest) = (do
      let node ← visit (path.child key) value
      visitMembers path (object ++ [(key, node)]) rest) := by
  obtain ⟨hplain, hnew⟩ := uniqueKeys_eq_none_iff.mp hkey
  have hnone := Pairs.lookup_eq_none_iff_not_mem.mpr hnew
  rw [visitMembers, hplain, hnone]
  simp [Pairs.put_of_lookup_eq_none hnone]

theorem ruled_of_members_append {object rest : List (String × Json)} {key : String} {value : Json}
    (hruled : Json.RuledMembers (object ++ (key, value) :: rest)) :
    uniqueKeys (object.map Prod.fst) key = none ∧ value.Ruled := by
  have hkeys := hruled.keys
  rw [List.map_append] at hkeys
  refine ⟨uniqueKeys_eq_none_iff.mpr ⟨hkeys.plain key (by simp), fun hmem => ?_⟩,
    hruled.values (key, value) (by simp)⟩
  exact (List.nodup_append.mp hkeys.distinct).2.2 key hmem key (by simp) rfl

mutual

theorem visit_of_ruled :
    ∀ (tree : Json) (path : ConfigPath), tree.Ruled → visit path tree = .ok tree
  | .array items, path, hruled => by
      have hitems := visitItems_append items [] path [] (ruled_array_iff.mp hruled)
      rw [List.append_nil] at hitems
      rw [visit, hitems, visitItems]
      rfl
  | .object members, path, hruled => by
      have hmembers := visitMembers_append members [] path [] (ruled_object_iff.mp hruled)
      rw [List.append_nil] at hmembers
      rw [visit, hmembers, visitMembers]
      rfl
  | .null, path, _ | .bool _, path, _ | .integer _, path, _ | .fraction, path, _
  | .string _, path, _ => by rw [visit]

/-- The visitor takes items that keep the rule and goes on behind them. -/
theorem visitItems_append :
    ∀ (front rest : List Json) (path : ConfigPath) (items : List Json),
      (∀ item ∈ front, item.Ruled) →
      visitItems path items (front ++ rest) = visitItems path (items ++ front) rest
  | [], rest, path, items, _ => by rw [List.nil_append, List.append_nil]
  | item :: front, rest, path, items, hruled => by
      rw [List.forall_mem_cons] at hruled
      rw [List.cons_append, visitItems, visit_of_ruled item _ hruled.1, Outcome.ok_bind,
        visitItems_append front rest path _ hruled.2, List.append_assoc]
      rfl

theorem visitMembers_append :
    ∀ (front rest : List (String × Json)) (path : ConfigPath) (object : List (String × Json)),
      Json.RuledMembers (object ++ front) →
      visitMembers path object (front ++ rest) = visitMembers path (object ++ front) rest
  | [], rest, path, object, _ => by rw [List.nil_append, List.append_nil]
  | (key, value) :: front, rest, path, object, hruled => by
      obtain ⟨hkey, hvalue⟩ := ruled_of_members_append hruled
      have hsplit : object ++ (key, value) :: front = object ++ [(key, value)] ++ front := by
        rw [List.append_assoc, List.singleton_append]
      rw [hsplit] at hruled
      rw [List.cons_append, visitMembers_cons hkey, visit_of_ruled value _ hvalue,
        Outcome.ok_bind, visitMembers_append front rest path _ hruled, hsplit]

end

/-! ## What breaks the rule -/

section Refused

open Json.Reader

variable {root node : Json} {stack : List Json.Frame} {error : CompileError}

theorem descend_enclosing_cons (frame : Json.Frame) (stack : List Json.Frame) :
    ConfigPath.root.descend (enclosing (frame :: stack)) =
      (ConfigPath.root.descend (enclosing stack)).child frame.label := by
  have hlabels : enclosing (frame :: stack) = enclosing stack ++ [frame.label] := by
    simp [enclosing]
  rw [hlabels, ConfigPath.descend_append, ConfigPath.descend_cons, ConfigPath.descend_nil]

theorem ruledMembers_of_strict {room : Nat} {members : List (String × Json)}
    (hmembers : Json.StrictMembers room members) : Json.RuledMembers members :=
  ⟨hmembers.keys, fun member hmem => (hmembers.values member hmem).ruled⟩

/-- The visitor takes what a strict reader holds of an object. -/
theorem visit_object_append {room : Nat} {members : List (String × Json)}
    (hmembers : Json.StrictMembers room members) (path : ConfigPath)
    (rest : List (String × Json)) :
    visit path (.object (members.reverse ++ rest)) =
      (visitMembers path members.reverse rest).map .object := by
  have hruled := Json.RuledMembers.reverse_iff.mpr (ruledMembers_of_strict hmembers)
  rw [visit, visitMembers_append members.reverse rest path [] hruled, List.nil_append]
  cases visitMembers path members.reverse rest <;> rfl

/-- An error in a value for which a strict reader waits is the error of the whole visit. -/
theorem visit_of_encloses (hencloses : Encloses root stack node) {room : Nat}
    (hleaves : Leaves stack room)
    (herror : visit (ConfigPath.root.descend (enclosing stack)) node = .error error) :
    visit .root root = .error error := by
  induction hencloses generalizing room with
  | root => exact herror
  | @array stack items more node _ ih =>
      rw [descend_enclosing_cons, Json.Frame.label] at herror
      cases hleaves with
      | array houter hitems =>
          have hruled : ∀ item ∈ items.reverse, item.Ruled :=
            fun item hmem => (hitems item (List.mem_reverse.mp hmem)).ruled
          refine ih houter ?_
          rw [visit, visitItems_append _ _ _ _ hruled, List.nil_append, visitItems,
            List.length_reverse, herror]
          rfl
  | @object stack members more key node _ ih =>
      rw [descend_enclosing_cons, Json.Frame.label] at herror
      cases hleaves with
      | object houter hmembers hkey =>
          refine ih houter ?_
          have hreversed : uniqueKeys (members.reverse.map Prod.fst) key = none := by
            rwa [List.map_reverse, Json.uniqueKeys_reverse]
          rw [visit_object_append hmembers, visitMembers_cons hreversed, herror]
          rfl

/-- How a key is rejected in the object at a path. -/
def rejection (path : ConfigPath) (key : String) : Json.KeyFault → CompileError
  | .separator => .invalid path (.separatorInKey key)
  | .repeated => .invalid (path.child key) (.repeatedKey key)

theorem visitMembers_of_fault {path : ConfigPath} {object rest : List (String × Json)}
    {key : String} {fault : Json.KeyFault}
    (hfault : uniqueKeys (object.map Prod.fst) key = some fault) (value : Json) :
    visitMembers path object ((key, value) :: rest) = .error (rejection path key fault) := by
  unfold uniqueKeys at hfault
  split_ifs at hfault with hseparator hrepeated
  · cases hfault
    have hkey : ConfigPath.hasSeparator key = true := List.contains_iff_mem.mpr hseparator
    rw [visitMembers, hkey]
    rfl
  · cases hfault
    have hkey : ConfigPath.hasSeparator key = false := by
      simpa [ConfigPath.hasSeparator, ConfigPath.separator] using hseparator
    have hknown : (object.lookup key).isSome = true := by
      rw [Option.isSome_iff_ne_none]
      exact fun hnone => Pairs.lookup_eq_none_iff_not_mem.mp hnone hrepeated
    rw [visitMembers, hkey, hknown]
    rfl

theorem parse_of_refusal {text : String} {refusal : Json.Refusal}
    (hrefused : Json.readStrict text = .error (.refused refusal)) (source : String) :
    Document.parse source text =
      .error (rejection (ConfigPath.root.descend refusal.enclosing) refusal.key refusal.fault) := by
  rw [Document.parse, hrefused]
  cases refusal with
  | mk labels key fault => cases fault <;> rfl

/-- Where the reader refuses a key, the visitor rejects it. -/
theorem visit_of_refusal {text : String} {written : Json} {refusal : Json.Refusal}
    (hread : Json.read Json.anyKeys text = .ok written)
    (hrefused : Json.readStrict text = .error (.refused refusal)) :
    visit .root written =
      .error (rejection (ConfigPath.root.descend refusal.enclosing) refusal.key refusal.fault) := by
  obtain ⟨reader, c, members, node, more, hrefuses, hholds, hencloses⟩ :=
    Json.exists_refused_key hread hrefused
  obtain ⟨keyText, hmode, _⟩ := hrefuses.closes
  rw [hmode] at hholds
  obtain ⟨room, hleaves, hmembers⟩ := hholds
  have hfault : uniqueKeys (members.reverse.map Prod.fst) refusal.key = some refusal.fault := by
    rw [List.map_reverse, Json.uniqueKeys_reverse, hrefuses.fault]
  rw [hrefuses.enclosing_eq]
  refine visit_of_encloses hencloses hleaves ?_
  rw [visit_object_append hmembers, visitMembers_of_fault hfault]
  rfl

end Refused

/-! ## Both visitors -/

theorem strictKeys_append {keys : List String} {key : String} (hkeys : Json.StrictKeys keys)
    (hkey : uniqueKeys keys key = none) : Json.StrictKeys (keys ++ [key]) := by
  have hcons := (hkeys.reverse.cons (by rwa [Json.uniqueKeys_reverse])).reverse
  rwa [List.reverse_cons, List.reverse_reverse] at hcons

mutual

theorem ruled_of_visit :
    ∀ (tree node : Json) (path : ConfigPath), visit path tree = .ok node → tree.Ruled
  | .array items, node, path, hvisit => by
      simp only [visit, Outcome.bind_eq_ok_iff] at hvisit
      obtain ⟨nodes, hnodes, _⟩ := hvisit
      exact ruled_array_iff.mpr (ruled_of_visitItems items [] nodes path hnodes)
  | .object members, node, path, hvisit => by
      simp only [visit, Outcome.bind_eq_ok_iff] at hvisit
      obtain ⟨nodes, hnodes, _⟩ := hvisit
      obtain ⟨hkeys, hvalues⟩ := ruled_of_visitMembers members [] nodes path hnodes .nil
      exact ruled_object_iff.mpr ⟨hkeys, hvalues⟩
  | .null, node, path, _ | .bool _, node, path, _ | .integer _, node, path, _
  | .fraction, node, path, _ | .string _, node, path, _ => Json.ruled_scalar rfl

theorem ruled_of_visitItems :
    ∀ (rest items nodes : List Json) (path : ConfigPath),
      visitItems path items rest = .ok nodes → ∀ item ∈ rest, item.Ruled
  | [], items, nodes, path, _ => nofun
  | item :: rest, items, nodes, path, hvisit => by
      rw [visitItems, Outcome.bind_eq_ok_iff] at hvisit
      obtain ⟨node, hnode, hrest⟩ := hvisit
      rw [List.forall_mem_cons]
      exact ⟨ruled_of_visit item node _ hnode, ruled_of_visitItems rest _ nodes path hrest⟩

theorem ruled_of_visitMembers :
    ∀ (rest object nodes : List (String × Json)) (path : ConfigPath),
      visitMembers path object rest = .ok nodes → Json.StrictKeys (object.map Prod.fst) →
      Json.StrictKeys ((object ++ rest).map Prod.fst) ∧ ∀ member ∈ rest, member.2.Ruled
  | [], object, nodes, path, _, hkeys => ⟨by rwa [List.append_nil], nofun⟩
  | (key, value) :: rest, object, nodes, path, hvisit, hkeys => by
      cases hkey : uniqueKeys (object.map Prod.fst) key with
      | some fault =>
          rw [visitMembers_of_fault hkey] at hvisit
          cases hvisit
      | none =>
          rw [visitMembers_cons hkey, Outcome.bind_eq_ok_iff] at hvisit
          obtain ⟨node, hnode, hrest⟩ := hvisit
          have hlonger := strictKeys_append hkeys hkey
          obtain ⟨hall, hvalues⟩ := ruled_of_visitMembers rest (object ++ [(key, node)]) nodes path
            hrest (by rwa [List.map_append])
          refine ⟨?_, List.forall_mem_cons.mpr ⟨ruled_of_visit value node _ hnode, hvalues⟩⟩
          simpa using hall

end

/-- The visitor accepts the trees that keep the rule for keys, and builds of them what a plain
visitor builds. -/
theorem visit_eq_ok_iff {path : ConfigPath} {tree node : Json} :
    visit path tree = .ok node ↔ tree.Ruled ∧ tree.settle = node := by
  constructor
  · intro hvisit
    have hruled := ruled_of_visit tree node path hvisit
    rw [visit_of_ruled tree path hruled] at hvisit
    cases hvisit
    exact ⟨hruled, Json.settle_of_ruled tree hruled⟩
  · rintro ⟨hruled, rfl⟩
    rw [Json.settle_of_ruled tree hruled, visit_of_ruled tree path hruled]

end NodeVisitor

/-- On a text that can be read plainly, a document is what the visitor makes of the written
tree, the error included. -/
theorem Document.parse_eq_visit {text : String} {written : Json}
    (hread : Json.read Json.anyKeys text = .ok written) (source : String) :
    parse source text = (NodeVisitor.visit .root written).map Document.mk := by
  by_cases hruled : written.Ruled
  · rw [NodeVisitor.visit_of_ruled written .root hruled, parse,
      Json.readStrict_of_ruled hread hruled]
    rfl
  · obtain ⟨refusal, hrefused⟩ := Json.exists_refusal_of_not_ruled hread hruled
    rw [NodeVisitor.visit_of_refusal hread hrefused,
      NodeVisitor.parse_of_refusal hrefused source]
    rfl

end MappingPlan
