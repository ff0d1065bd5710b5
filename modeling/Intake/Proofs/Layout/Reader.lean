import Intake.Layout.Reader

/-!
# What a reader with a memory reads

Whether a value is read at all depends on the layouts alone: `isSome_readField` says that the layout
remembered for a field can only read what some layout reads anyway. Which instant is read may depend
on it, since the remembered layout need not be the first that reads the value.
-/

namespace Intake.LayoutReader

variable {reader : LayoutReader} {cache : LayoutCache} {key value : String}

/-- The layout found is the one at its position, counted from where the search began. -/
theorem scanFrom_eq_some {zone : Zone} {start index : Nat} {layouts : List Layout}
    {instant : Instant} (found : scanFrom zone value start layouts = some (instant, index)) :
    ∃ offset layout, index = start + offset ∧ layouts[offset]? = some layout ∧
      layout.read? zone value = some instant := by
  induction layouts generalizing start with
  | nil => simp [scanFrom] at found
  | cons layout rest ih =>
    unfold scanFrom at found
    split at found
    · rename_i read
      obtain ⟨rfl, rfl⟩ := Prod.mk.inj (Option.some.inj found)
      exact ⟨0, layout, rfl, rfl, read⟩
    · obtain ⟨offset, other, position, held, read⟩ := ih found
      exact ⟨offset + 1, other, by omega, held, read⟩

/-- A search succeeds where some layout reads the value. -/
theorem isSome_scanFrom_iff {zone : Zone} {start : Nat} {layouts : List Layout} :
    (scanFrom zone value start layouts).isSome = true ↔
      ∃ layout ∈ layouts, (layout.read? zone value).isSome = true := by
  induction layouts generalizing start with
  | nil => simp [scanFrom]
  | cons layout rest ih =>
    unfold scanFrom
    cases read : layout.read? zone value with
    | some instant => simp [read]
    | none => simp [read, ih]

/-- What a scan finds is read by the layout that it names. -/
theorem scan_eq_some {instant : Instant} {index : Nat}
    (found : reader.scan value = some (instant, index)) :
    value ≠ "" ∧ ∃ layout, reader.layouts[index]? = some layout ∧
      layout.read? reader.zone value = some instant := by
  unfold scan at found
  split at found
  · contradiction
  · rename_i given
    obtain ⟨offset, layout, position, held, read⟩ := scanFrom_eq_some found
    obtain rfl : index = offset := by omega
    exact ⟨given, layout, held, read⟩

/-- A value is recognised where it is not empty and some layout reads it. -/
theorem recognises_iff : reader.recognises value = true ↔
    value ≠ "" ∧ ∃ layout ∈ reader.layouts, (layout.read? reader.zone value).isSome = true := by
  unfold recognises scan
  split
  · simp [*]
  · simp [*, isSome_scanFrom_iff]

/-- What the remembered layout reads, some layout of the list reads. -/
theorem recognises_of_readCached? {instant : Instant} (given : value ≠ "")
    (read : reader.readCached? cache key value = some instant) :
    reader.recognises value = true := by
  simp only [readCached?, Option.bind_eq_bind, Option.bind_eq_some_iff] at read
  obtain ⟨index, -, layout, held, read⟩ := read
  exact recognises_iff.2 ⟨given, layout, List.mem_of_getElem? held, by simp [read]⟩

/-- The remembered layout answers first, then the first layout that reads the value. -/
theorem readField_fst : (reader.readField cache key value).1 =
    (reader.readCached? cache key value).or ((reader.scan value).map Prod.fst) := by
  unfold readField
  cases reader.readCached? cache key value with
  | some instant => rfl
  | none => cases reader.scan value <;> rfl

/-- Reading a field may remember, for that field only, the first layout that reads its value. -/
theorem get?_readField {other : String} {index : Nat}
    (held : (reader.readField cache key value).2.get? other = some index) :
    cache.get? other = some index ∨
      other = key ∧ ∃ instant, reader.scan value = some (instant, index) := by
  unfold readField at held
  split at held
  · exact .inl held
  · split at held
    · rename_i instant found scanned
      dsimp only at held
      split at held
      · exact .inl held
      · rw [LayoutCache.get?_insert] at held
        split at held
        · rename_i same
          obtain rfl := Option.some.inj held
          exact .inr ⟨same, instant, scanned⟩
        · exact .inl held
    · exact .inl held

/-- Whether a value is read does not depend on what is remembered. -/
theorem isSome_readField (given : value ≠ "") :
    (reader.readField cache key value).1.isSome = reader.recognises value := by
  rw [readField_fst]
  cases read : reader.readCached? cache key value with
  | some instant => simp [recognises_of_readCached? given read]
  | none => simp [recognises]

@[simp] theorem readCached?_empty (reader : LayoutReader) (key value : String) :
    reader.readCached? .empty key value = none := rfl

/-- The first value of a field is read by the first layout that reads it, which is remembered. -/
theorem readField_empty {instant : Instant} {index : Nat}
    (scanned : reader.scan value = some (instant, index)) (key : String) :
    reader.readField .empty key value = (some instant, LayoutCache.empty.insert key index) := by
  have fresh : LayoutCache.empty.get? key ≠ some index := nofun
  simp [readField, scanned, fresh]

/-- A layout that is remembered and reads the value is the one that answers. -/
theorem readField_of_remembered {index : Nat} {layout : Layout} {instant : Instant}
    (remembered : cache.get? key = some index) (held : reader.layouts[index]? = some layout)
    (read : layout.read? reader.zone value = some instant) :
    (reader.readField cache key value).1 = some instant := by
  rw [readField_fst]
  simp [readCached?, remembered, held, read]

end Intake.LayoutReader
