/-!
# Maps from names, in order

Entries are kept strictly ascending by name. Names are ordered by code point, which is also the
order of their UTF-8 bytes. Main statements: insertion keeps the order, and looking up after an
insertion finds the new value under its name and the old values elsewhere.
-/

namespace Intake

variable {α : Type}

/-- Entries in strictly ascending order of their names. -/
def Ascending (entries : List (String × α)) : Prop :=
  entries.Pairwise fun left right => left.1 < right.1

/-- Put an entry at its place, in place of an entry with the same name. -/
def insertEntry (name : String) (value : α) : List (String × α) → List (String × α)
  | [] => [(name, value)]
  | (other, held) :: rest =>
    if name < other then (name, value) :: (other, held) :: rest
    else if other < name then (other, held) :: insertEntry name value rest
    else (name, value) :: rest

/-- The value under a name. -/
def entryAt? (name : String) : List (String × α) → Option α
  | [] => none
  | (other, held) :: rest => if other = name then some held else entryAt? name rest

theorem eq_of_not_lt {left right : String} (below : ¬left < right) (above : ¬right < left) :
    left = right :=
  String.le_antisymm (String.not_lt.1 above) (String.not_lt.1 below)

/-- The names after an insertion are the new one and the old ones. -/
theorem mem_insertEntry {name : String} {value : α} {entries : List (String × α)}
    {entry : String × α} (held : entry ∈ insertEntry name value entries) :
    entry = (name, value) ∨ entry ∈ entries := by
  induction entries with
  | nil => simpa [insertEntry] using held
  | cons first rest ih =>
    obtain ⟨other, old⟩ := first
    unfold insertEntry at held
    split at held
    · simpa using held
    · split at held
      · rcases List.mem_cons.1 held with rfl | inside
        · simp
        · rcases ih inside with rfl | inside <;> simp_all
      · rcases List.mem_cons.1 held with rfl | inside <;> simp_all

/-- Insertion keeps the order. -/
theorem ascending_insertEntry {name : String} {value : α} {entries : List (String × α)}
    (sorted : Ascending entries) : Ascending (insertEntry name value entries) := by
  induction entries with
  | nil => simp [insertEntry, Ascending]
  | cons first rest ih =>
    obtain ⟨other, old⟩ := first
    obtain ⟨above, tail⟩ := List.pairwise_cons.1 sorted
    unfold insertEntry
    split
    · rename_i before
      refine List.pairwise_cons.2 ⟨?_, sorted⟩
      intro entry held
      rcases List.mem_cons.1 held with rfl | held
      · exact before
      · exact String.lt_trans before (above entry held)
    · split
      · rename_i after
        refine List.pairwise_cons.2 ⟨?_, ih tail⟩
        intro entry held
        rcases mem_insertEntry held with rfl | held
        · exact after
        · exact above entry held
      · rename_i below above'
        have same := eq_of_not_lt below above'
        subst same
        exact List.pairwise_cons.2 ⟨above, tail⟩

theorem entryAt?_insertEntry (name other : String) (value : α) (entries : List (String × α)) :
    entryAt? other (insertEntry name value entries) =
      if name = other then some value else entryAt? other entries := by
  induction entries with
  | nil => simp [insertEntry, entryAt?]
  | cons first rest ih =>
    obtain ⟨held, old⟩ := first
    unfold insertEntry
    split
    · simp [entryAt?]
    · split
      · rename_i after
        simp only [entryAt?, ih]
        by_cases here : held = other
        · subst here
          have differs : ¬name = held := fun same => String.lt_irrefl held (same ▸ after)
          simp [differs]
        · simp [here]
      · rename_i below above
        have same := eq_of_not_lt below above
        subst same
        by_cases here : name = other <;> simp [entryAt?, here]

/-- Drop the entry with a name, if there is one. -/
def eraseEntry (name : String) : List (String × α) → List (String × α)
  | [] => []
  | (other, held) :: rest => if other = name then rest else (other, held) :: eraseEntry name rest

theorem eraseEntry_sublist (name : String) (entries : List (String × α)) :
    (eraseEntry name entries).Sublist entries := by
  induction entries with
  | nil => exact List.Sublist.refl _
  | cons first rest ih =>
    unfold eraseEntry
    split
    · exact List.sublist_cons_self _ _
    · exact ih.cons_cons _

/-- What an erased entry leaves, with the entry, is what was there. -/
theorem perm_eraseEntry {name : String} {value : α} {entries : List (String × α)}
    (held : entryAt? name entries = some value) :
    entries.Perm ((name, value) :: eraseEntry name entries) := by
  induction entries with
  | nil => simp [entryAt?] at held
  | cons first rest ih =>
    obtain ⟨other, old⟩ := first
    unfold entryAt? at held
    split at held
    · rename_i same
      obtain rfl := Option.some.inj held
      simp [eraseEntry, same]
    · rename_i differs
      simp only [eraseEntry, differs, if_false]
      exact ((ih held).cons _).trans (List.Perm.swap _ _ _)

/-- Inserting a new name adds one entry and keeps the others. -/
theorem insertEntry_perm {name : String} {value : α} {entries : List (String × α)}
    (absent : entryAt? name entries = none) :
    (insertEntry name value entries).Perm ((name, value) :: entries) := by
  induction entries with
  | nil => exact List.Perm.refl _
  | cons first rest ih =>
    obtain ⟨other, old⟩ := first
    unfold entryAt? at absent
    split at absent
    · contradiction
    · rename_i differs
      unfold insertEntry
      split
      · exact List.Perm.refl _
      · split
        · exact ((ih absent).cons _).trans (List.Perm.swap _ _ _)
        · rename_i below above
          exact absurd (eq_of_not_lt below above).symm differs

/-- A name has a value exactly where an entry says so, names being distinct. -/
theorem entryAt?_eq_some_iff {name : String} {value : α} {entries : List (String × α)}
    (sorted : Ascending entries) :
    entryAt? name entries = some value ↔ (name, value) ∈ entries := by
  induction entries with
  | nil => simp [entryAt?]
  | cons first rest ih =>
    obtain ⟨other, old⟩ := first
    obtain ⟨above, tail⟩ := List.pairwise_cons.1 sorted
    unfold entryAt?
    split
    · rename_i same
      subst same
      have later : (other, value) ∉ rest := fun inside =>
        String.lt_irrefl other (above (other, value) inside)
      simp [later, eq_comm]
    · rename_i differs
      simp [ih tail, Ne.symm differs]

/-- A map from names to values. -/
structure NameMap (α : Type) where
  entries : List (String × α) := []
  ascending : Ascending entries := by exact List.Pairwise.nil

namespace NameMap

@[ext] theorem ext {left right : NameMap α} (same : left.entries = right.entries) :
    left = right := by
  cases left; cases right; simp_all

/-- No entries. -/
def empty : NameMap α := {}

instance : Inhabited (NameMap α) := ⟨empty⟩

/-- The value under a name. -/
def find? (map : NameMap α) (name : String) : Option α := entryAt? name map.entries

/-- There is a value under a name. -/
def contains (map : NameMap α) (name : String) : Bool := (map.find? name).isSome

/-- Put a value under a name. -/
def insert (map : NameMap α) (name : String) (value : α) : NameMap α :=
  ⟨insertEntry name value map.entries, ascending_insertEntry map.ascending⟩

/-- Drop the value under a name, if there is one. -/
def erase (map : NameMap α) (name : String) : NameMap α :=
  ⟨eraseEntry name map.entries, map.ascending.sublist (eraseEntry_sublist name map.entries)⟩

/-- The number of entries. -/
def size (map : NameMap α) : Nat := map.entries.length

/-- The names in order. -/
def names (map : NameMap α) : List String := map.entries.map (·.1)

@[simp] theorem find?_insert (map : NameMap α) (name other : String) (value : α) :
    (map.insert name value).find? other = if name = other then some value else map.find? other :=
  entryAt?_insertEntry name other value map.entries

@[simp] theorem find?_empty (name : String) : (empty : NameMap α).find? name = none := rfl

/-- A name has a value exactly where an entry says so. -/
theorem find?_eq_some_iff {map : NameMap α} {name : String} {value : α} :
    map.find? name = some value ↔ (name, value) ∈ map.entries :=
  entryAt?_eq_some_iff map.ascending

@[simp] theorem contains_insert (map : NameMap α) (name other : String) (value : α) :
    (map.insert name value).contains other = (decide (name = other) || map.contains other) := by
  unfold contains
  by_cases same : name = other <;> simp [same]

@[simp] theorem contains_empty (name : String) : (empty : NameMap α).contains name = false := rfl

end NameMap

end Intake
