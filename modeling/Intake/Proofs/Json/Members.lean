import Intake.Json.Basic
import Mathlib.Data.List.Induction
import Mathlib.Data.List.Nodup

/-!
# The members of an object

An object is made of members in any order and keeps them sorted. Where the names of the members are
distinct none of them hides another: `Json.exists_ofMembers` says that the object has these members
and no others, and by `lookup_eq_of_perm` the order does not matter to what is found under a name.
Members that have no value may be left out: by `lookup_givenMembers` nothing else is lost with them.
-/

namespace Intake

variable {α : Type}

/-! ## Members put into a map -/

namespace NameMap

theorem entries_foldl (members : List (String × α)) (map : NameMap α) :
    (members.foldl (fun map member => map.insert member.1 member.2) map).entries =
      members.foldl (fun sorted member => insertEntry member.1 member.2 sorted) map.entries := by
  induction members generalizing map with
  | nil => rfl
  | cons member rest ih => exact ih _

theorem distinct (map : NameMap α) : (map.entries.map Prod.fst).Nodup :=
  List.pairwise_map.2 (map.ascending.imp String.ne_of_lt)

/-- What is put in under distinct names is all kept, in order of the names. -/
theorem perm_foldl {members : List (String × α)} (distinct : (members.map Prod.fst).Nodup) :
    (members.foldl (fun map member => map.insert member.1 member.2) empty).entries.Perm
      members := by
  -- By the members put in before the last one, whose name is new to them.
  induction members using List.reverseRecOn with
  | nil => exact .refl _
  | append_singleton members last ih =>
    rw [List.map_append, List.nodup_append] at distinct
    obtain ⟨distinct, -, apart⟩ := distinct
    have earlier := ih distinct
    rw [List.foldl_append]
    refine (insertEntry_perm ?_).trans ((earlier.cons last).trans ?_)
    · rw [Option.eq_none_iff_forall_not_mem]
      intro value held
      have inside := earlier.mem_iff.1 (find?_eq_some_iff.1 held)
      exact apart last.1 (List.mem_map.2 ⟨_, inside, rfl⟩) last.1 (List.mem_singleton_self _) rfl
    · exact (List.perm_append_singleton last members).symm

/-- What is put in under distinct names is found under these names. -/
theorem find?_foldl {members : List (String × α)} (distinct : (members.map Prod.fst).Nodup)
    {name : String} {value : α} (inside : (name, value) ∈ members) :
    (members.foldl (fun map member => map.insert member.1 member.2) empty).find? name =
      some value :=
  find?_eq_some_iff.2 ((perm_foldl distinct).mem_iff.2 inside)

end NameMap

/-- An object whose members have distinct names has these members and no others. -/
theorem Json.exists_ofMembers {members : List (String × Json)}
    (distinct : (members.map Prod.fst).Nodup) :
    ∃ sorted, Json.ofMembers members = .object sorted ∧ sorted.Perm members :=
  ⟨_, congrArg Json.object (NameMap.entries_foldl members .empty).symm, NameMap.perm_foldl distinct⟩

/-! ## Looking up -/

/-- Under distinct names a value is found exactly where it is listed. -/
theorem lookup_eq_some_iff_mem {members : List (String × α)}
    (distinct : (members.map Prod.fst).Nodup) {name : String} {value : α} :
    members.lookup name = some value ↔ (name, value) ∈ members := by
  induction members with
  | nil => simp
  | cons member rest ih =>
    obtain ⟨other, held⟩ := member
    obtain ⟨fresh, distinct⟩ := List.nodup_cons.1 distinct
    by_cases same : name = other
    · subst same
      have later : (name, value) ∉ rest := fun inside =>
        fresh (List.mem_map.2 ⟨_, inside, rfl⟩)
      simp [later, eq_comm]
    · simp [List.lookup_cons, beq_eq_false_iff_ne.2 same, same, ih distinct]

/-- The order of members with distinct names does not matter to what is found. -/
theorem lookup_eq_of_perm {members others : List (String × α)}
    (distinct : (members.map Prod.fst).Nodup) (same : others.Perm members) (name : String) :
    others.lookup name = members.lookup name := by
  have distinctOthers : (others.map Prod.fst).Nodup := (same.map Prod.fst).nodup_iff.2 distinct
  ext value
  rw [lookup_eq_some_iff_mem distinctOthers, lookup_eq_some_iff_mem distinct, same.mem_iff]

/-! ## Members that may be left out -/

/-- The members that have a value. -/
def givenMembers (slots : List (String × Option α)) : List (String × α) :=
  slots.filterMap fun slot => slot.2.map fun value => (slot.1, value)

theorem mem_givenMembers_iff {slots : List (String × Option α)} {name : String} {value : α} :
    (name, value) ∈ givenMembers slots ↔ (name, some value) ∈ slots := by
  simp [givenMembers]

theorem distinct_givenMembers {slots : List (String × Option α)}
    (distinct : (slots.map Prod.fst).Nodup) : ((givenMembers slots).map Prod.fst).Nodup := by
  refine List.Sublist.nodup ?_ distinct
  clear distinct
  induction slots with
  | nil => exact .slnil
  | cons slot rest ih =>
    obtain ⟨name, _ | value⟩ := slot
    · exact ih.cons name
    · exact ih.cons_cons name

/-- Under a name there is the value that the name was given, if it was given one. -/
theorem lookup_givenMembers {slots : List (String × Option α)}
    (distinct : (slots.map Prod.fst).Nodup) (name : String) :
    (givenMembers slots).lookup name = (slots.lookup name).join := by
  ext value
  rw [lookup_eq_some_iff_mem (distinct_givenMembers distinct), mem_givenMembers_iff,
    ← lookup_eq_some_iff_mem distinct, Option.join_eq_some_iff]

end Intake
