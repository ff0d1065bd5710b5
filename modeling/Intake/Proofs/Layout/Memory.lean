import Intake.Proofs.Layout.Defaults
import Intake.Proofs.Layout.Footprint

/-!
# What is remembered of a field

A field is read by the layout remembered for it or, where that fails, by a scan of all layouts.
These two ways have guards of their own: only the scan looks whether the value is empty, and only
the layout remembered is looked up by its position. `LayoutReader.remembers_faithfully` says that
neither shows: whatever the layouts are and whatever was read before, every position that is
remembered is one of the list, and what is remembered never decides whether a value is read. It
decides which instant is read, and for that `defaults_unambiguous` and `historyFree_iff_steady` say
when it makes no difference.
-/

namespace Intake.LayoutReader

variable (reader : LayoutReader) (cache : LayoutCache) (key value : String)

/-- Whether a value is read at all does not depend on what is remembered, be it empty or not. -/
theorem isSome_readField_eq :
    (reader.readField cache key value).1.isSome = reader.recognises value := by
  by_cases given : value = ""
  · subst given
    rw [readField_fst, readCached?_empty_value]
    rfl
  · exact isSome_readField given

variable {reader cache key value}

/-- The layout that is remembered after a field was read is one that reads its value, as the instant
that was answered. -/
theorem cachedLayout?_readField {instant : Instant}
    (answered : (reader.readField cache key value).1 = some instant) :
    ∃ layout, reader.cachedLayout? (reader.readField cache key value).2 key = some layout ∧
      layout.read? reader.zone value = some instant := by
  unfold readField at answered ⊢
  cases read : reader.readCached? cache key value with
  | some found =>
    rw [read] at answered
    cases answered
    obtain ⟨index, remembered, read⟩ := Option.bind_eq_some_iff.1 read
    obtain ⟨layout, held, read⟩ := Option.bind_eq_some_iff.1 read
    exact ⟨layout, by simp [cachedLayout?, remembered, held], read⟩
  | none =>
    rw [read] at answered
    cases scanned : reader.scan value with
    | none =>
      rw [scanned] at answered
      cases answered
    | some found =>
      obtain ⟨first, index⟩ := found
      rw [scanned] at answered
      cases answered
      obtain ⟨-, layout, held, read⟩ := scan_eq_some scanned
      refine ⟨layout, ?_, read⟩
      dsimp only
      split
      · rename_i remembered
        simp [cachedLayout?, remembered, held]
      · simp [cachedLayout?, LayoutCache.get?_insert, held]

/-- Where no value is read, nothing new is remembered. -/
theorem readField_snd_of_none (answered : (reader.readField cache key value).1 = none) :
    (reader.readField cache key value).2 = cache := by
  unfold readField at answered ⊢
  cases read : reader.readCached? cache key value with
  | some found => rfl
  | none =>
    rw [read] at answered
    cases scanned : reader.scan value with
    | none => rfl
    | some found =>
      rw [scanned] at answered
      cases answered

/-- What is remembered for other fields stays as it was. -/
theorem get?_readField_of_ne {other : String} (differs : other ≠ key) :
    (reader.readField cache key value).2.get? other = cache.get? other := by
  unfold readField
  split
  · rfl
  · split
    · dsimp only
      split
      · rfl
      · rw [LayoutCache.get?_insert, if_neg differs]
    · rfl

/-- A field of which nothing is remembered is read as its value alone is. -/
theorem readField_of_fresh (fresh : cache.get? key = none) :
    (reader.readField cache key value).1 = (reader.read? value).map Prod.fst := by
  rw [readField_fst, map_fst_read?]
  simp [readCached?, fresh]

/-- Whatever was read before, under any list of layouts and in any zone, what is remembered of
fields is sound.

Every position that is remembered is one of the list of layouts. A field is read where its value is
recognised, so that what is remembered never decides whether a value is read. The instant that is
answered is the one that the layout remembered for the field from then on reads in the value, and
without an answer nothing changes. What is remembered for other fields never changes, and a field of
which nothing is remembered is read as its value alone is. -/
theorem remembers_faithfully (reader : LayoutReader) (calls : List (String × String)) :
    let cache := reader.rememberedAfter calls
    (∀ key index, cache.get? key = some index → index < reader.layouts.length) ∧
    ∀ key value,
      let answer := (reader.readField cache key value).1
      let after := (reader.readField cache key value).2
      answer.isSome = reader.recognises value ∧
      (∀ instant, answer = some instant →
        ∃ layout, reader.cachedLayout? after key = some layout ∧
          layout.read? reader.zone value = some instant) ∧
      (answer = none → after = cache) ∧
      (∀ other, other ≠ key → after.get? other = cache.get? other) ∧
      (cache.get? key = none → answer = (reader.read? value).map Prod.fst) := by
  intro cache
  refine ⟨fun key index held => ?_, fun key value => ⟨isSome_readField_eq reader cache key value,
    fun _ => cachedLayout?_readField, readField_snd_of_none, fun _ => get?_readField_of_ne,
    readField_of_fresh⟩⟩
  obtain ⟨earlier, instant, scanned⟩ := reader.earned_rememberedAfter calls key index held
  obtain ⟨-, layout, there, -⟩ := scan_eq_some scanned
  exact (List.getElem?_eq_some_iff.1 there).1

end Intake.LayoutReader
