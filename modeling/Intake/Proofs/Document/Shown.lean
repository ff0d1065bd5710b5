import Intake.Document.Node
import Intake.Proofs.Json.Members
import Mathlib.Data.List.Forall2
import Mathlib.Data.Option.Basic

/-!
# Values shown by a document

A document shows a JSON value where it has the tree of the value, with the members of each object in
any order. `Node.Reads` says of a decoder that it makes a certain value of every node that shows a
certain JSON value; each of the decoders that settings are read with comes with its own law. The
tree of a value itself shows the value, by `Json.shows_toNode`.
-/

namespace Intake

namespace Node

/-- The node has the tree of a JSON value, with the members of objects in any order. -/
inductive Shows : Node → Json → Prop where
  | null : Shows (.scalar "null" .plain none) .null
  | bool (value : Bool) :
      Shows (.scalar (if value then "true" else "false") .plain none) (.bool value)
  | number (value : Number) : Shows (.scalar value.written .plain none) (.number value)
  | string (value : String) : Shows (.scalar value .quoted none) (.string value)
  | array {nodes : List Node} {items : List Json} (each : List.Forall₂ Shows nodes items) :
      Shows (.sequence nodes) (.array items)
  /-- Every entry is a name with the node and the value under it. -/
  | object {entries : List (String × Node × Json)} {members : List (String × Json)}
      (each : ∀ entry ∈ entries, Shows entry.2.1 entry.2.2)
      (same : (entries.map fun entry => (entry.1, entry.2.2)).Perm members) :
      Shows (.mapping (entries.map fun entry => (.scalar entry.1 .quoted none, entry.2.1)))
        (.object members)

variable {α β : Type} {decode : Node → Except Misfit α}

/-- The decoder makes a value of every node that shows a JSON value. -/
def Reads (decode : Node → Except Misfit α) (json : Json) (value : α) : Prop :=
  ∀ node : Node, node.Shows json → decode node = .ok value

/-! ## Single values and lists -/

theorem reads_text (value : String) : Reads text (.string value) value := by
  rintro _ ⟨⟩
  rfl

theorem reads_bool (value : Bool) : Reads bool (.bool value) value := by
  rintro _ ⟨⟩
  cases value <;> rfl

theorem reads_word {decode : String → Option α} {expected : List String} {name : String}
    {value : α} (named : decode name = some value) :
    Reads (word decode expected) (.string name) value := by
  rintro _ ⟨⟩
  simp [word, named]

/-- A text in quotes is never taken for null. -/
theorem Reads.optional_string {text : String} {value : α}
    (reads : Reads decode (.string text) value) :
    Reads (optional decode) (.string text) (some value) := by
  rintro _ ⟨⟩
  rw [optional, reads _ (.string text)]
  · rfl
  · nofun
  · nofun

theorem Reads.optional_array {items : List Json} {value : α}
    (reads : Reads decode (.array items) value) :
    Reads (optional decode) (.array items) (some value) := by
  intro node shown
  cases shown with
  | array each =>
    rw [optional, reads _ (.array each)]
    · rfl
    · nofun
    · nofun

theorem mapM_eq_ok {ε : Type} {step : α → Except ε β} {items : List α} {results : List β}
    (each : List.Forall₂ (fun item result => step item = .ok result) items results) :
    items.mapM step = .ok results := by
  induction each with
  | nil => rfl
  | cons first _ ih =>
    rw [List.mapM_cons, first, ih]
    rfl

/-- Values are decoded one after the other. -/
theorem reads_list {encode : α → Json} {values : List α}
    (each : ∀ value ∈ values, Reads decode (encode value) value) :
    Reads (list decode) (.array (values.map encode)) values := by
  intro node shown
  cases shown with
  | array shown =>
    have shown := (List.forall₂_map_right_iff.1 shown).flip
    have read := ((List.forall₂_and_left ..).2 ⟨each, shown⟩).flip
    exact mapM_eq_ok (read.imp fun node _ ⟨reads, shows⟩ => reads node shows)

/-! ## Fields -/

/-- The fields show the members of an object, in whatever order, and none where there is no value.
-/
def ShowFields (fields : List (String × Node)) (slots : List (String × Option Json)) : Prop :=
  ∀ name, Option.Rel Shows (fields.lookup name) (slots.lookup name).join

theorem rel_lookup {entries : List (String × Node × Json)}
    (each : ∀ entry ∈ entries, entry.2.1.Shows entry.2.2) (name : String) :
    Option.Rel Shows ((entries.map fun entry => (entry.1, entry.2.1)).lookup name)
      ((entries.map fun entry => (entry.1, entry.2.2)).lookup name) := by
  induction entries with
  | nil => exact .none
  | cons entry rest ih =>
    obtain ⟨first, others⟩ := List.forall_mem_cons.1 each
    simp only [List.map_cons, List.lookup_cons]
    cases name == entry.1 with
    | true => exact .some first
    | false => exact ih others

/-- A mapping whose keys are distinct texts has these fields. -/
theorem fields_mapping {fields : List (String × Node)} (distinct : (fields.map Prod.fst).Nodup)
    (known : List String) :
    (mapping (fields.map fun field => (.scalar field.1 .quoted none, field.2))).fields known =
      .ok fields := by
  have texts : (fields.map fun field => ((.scalar field.1 .quoted none : Node), field.2)).mapM
      (fun entry => do pure ((← entry.1.text), entry.2)) =
        (.ok fields : Except Misfit (List (String × Node))) :=
    mapM_eq_ok (List.forall₂_map_left_iff.2 (List.forall₂_same.2 fun _ _ => rfl))
  have once (name : String) : fields.countP (fun field => field.1 = name) ≤ 1 := by
    have count := List.nodup_iff_count_le_one.1 distinct name
    rwa [List.count, List.countP_map] at count
  have unrepeated : known.find? (fun name => 1 < fields.countP fun field => field.1 = name) =
      none :=
    List.find?_eq_none.2 fun name _ => by simpa using once name
  have next {α β : Type} (value : α) (rest : α → Except Misfit β) :
      (Except.ok value >>= rest) = rest value := rfl
  unfold Node.fields
  dsimp only
  rw [next, texts, next, unrepeated]

/-- The fields of an object whose members have distinct names are found, and none is given twice. -/
theorem exists_fields {slots : List (String × Option Json)}
    (distinct : (slots.map Prod.fst).Nodup) {node : Node}
    (shown : node.Shows (.ofMembers (givenMembers slots))) (known : List String) :
    ∃ fields, node.fields known = .ok fields ∧ ShowFields fields slots := by
  have distinctGiven := distinct_givenMembers distinct
  obtain ⟨sorted, isObject, sameMembers⟩ := Json.exists_ofMembers distinctGiven
  rw [isObject] at shown
  cases shown with
  | @object entries _ each same =>
    have same := same.trans sameMembers
    refine ⟨entries.map fun entry => (entry.1, entry.2.1), ?_, fun name => ?_⟩
    · have names := (same.map Prod.fst).nodup_iff.2 distinctGiven
      rw [List.map_map] at names
      have split := @fields_mapping (entries.map fun entry => (entry.1, entry.2.1))
        (by rwa [List.map_map]) known
      rwa [List.map_map] at split
    · rw [← lookup_givenMembers distinct, ← lookup_eq_of_perm distinctGiven same]
      exact rel_lookup each name

section

variable {fields : List (String × Node)} {slots : List (String × Option Json)}
  (shown : ShowFields fields slots) {name : String}
include shown

/-- A member of the object is read as a field. -/
theorem field?_of_some {json : Json} {value : α} (held : (slots.lookup name).join = some json)
    (reads : Reads decode json value) : field? decode fields name = .ok (some value) := by
  have found := shown name
  rw [held] at found
  unfold field?
  generalize fields.lookup name = there at found ⊢
  cases found with
  | some shows =>
    dsimp only
    rw [reads _ shows]
    rfl

theorem field?_of_none (absent : (slots.lookup name).join = none) :
    field? decode fields name = .ok none := by
  have found := shown name
  rw [absent] at found
  unfold field?
  generalize fields.lookup name = there at found ⊢
  cases found
  rfl

/-- A member that is left out where there is no value is read as the value, if there is one. -/
theorem field?_optional {encode : α → Json} {given : Option α}
    (held : (slots.lookup name).join = given.map encode)
    (reads : ∀ value, Reads (optional decode) (encode value) (some value)) :
    field? (optional decode) fields name = .ok (given.map some) := by
  cases given with
  | none => exact field?_of_none shown held
  | some value => exact field?_of_some shown held (reads value)

end

end Node

/-! ## The tree of a value -/

theorem memberNodes_eq_map (members : List (String × Json)) : memberNodes members =
    members.map fun member => (.scalar member.1 .quoted none, member.2.toNode) := by
  induction members with
  | nil => rfl
  | cons member rest ih => rw [memberNodes, ih, List.map_cons]

mutual

/-- The tree of a value shows the value. -/
theorem Json.shows_toNode : (value : Json) → value.toNode.Shows value
  | .null => .null
  | .bool value => .bool value
  | .number value => .number value
  | .string value => .string value
  | .array items => .array (shows_itemNodes items)
  | .object members => by
    have shown := @Node.Shows.object
      (members.map fun member => (member.1, member.2.toNode, member.2)) members
      (List.forall_mem_map.2 (shows_members members))
      (by rw [List.map_map]; exact .of_eq (List.map_id members))
    rw [List.map_map] at shown
    rw [Json.toNode, memberNodes_eq_map]
    exact shown

theorem shows_itemNodes : (items : List Json) → List.Forall₂ Node.Shows (itemNodes items) items
  | [] => .nil
  | item :: rest => .cons item.shows_toNode (shows_itemNodes rest)

theorem shows_members : (members : List (String × Json)) →
    ∀ member ∈ members, member.2.toNode.Shows member.2
  | [] => nofun
  | (_, value) :: rest => List.forall_mem_cons.2 ⟨value.shows_toNode, shows_members rest⟩

end

end Intake
