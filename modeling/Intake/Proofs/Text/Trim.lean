import Intake.Text.Blank
import Mathlib.Data.List.TakeWhile

/-!
# Texts without the blanks around them

`stripped_trim` says what trimming leaves of a text: the name that stands between blanks and has
none at either end.
-/

namespace Intake

/-- A text is a name with blanks around it, and the name neither begins nor ends with a blank. -/
structure Stripped (text name : List Char) : Prop where
  around : ∃ before after, text = before ++ name ++ after ∧
    (∀ c ∈ before, isBlank c = true) ∧ ∀ c ∈ after, isBlank c = true
  begins : ∀ c ∈ name.head?, isBlank c = false
  ends : ∀ c ∈ name.getLast?, isBlank c = false

theorem exists_trimStart (text : List Char) :
    ∃ before, text = before ++ trimStart text ∧ ∀ c ∈ before, isBlank c = true :=
  ⟨text.takeWhile isBlank, List.takeWhile_append_dropWhile.symm, fun _ => List.mem_takeWhile_imp⟩

theorem isBlank_of_head?_trimStart (text : List Char) :
    ∀ c ∈ (trimStart text).head?, isBlank c = false := by
  intro c first
  have visible := List.head?_dropWhile_not isBlank text
  unfold trimStart at first
  rw [Option.mem_def.1 first] at visible
  exact visible

/-- What is left between the blanks at both ends. -/
theorem stripped_trim (text : List Char) : Stripped text (trim text) := by
  obtain ⟨before, front, blankBefore⟩ := exists_trimStart text
  obtain ⟨after, back, blankAfter⟩ := exists_trimStart (trimStart text).reverse
  have inner : trimStart text = trim text ++ after.reverse := by
    rw [trim, ← List.reverse_append, ← back, List.reverse_reverse]
  refine ⟨⟨before, after.reverse, ?_, blankBefore, fun c inside =>
    blankAfter c (List.mem_reverse.1 inside)⟩, fun c first => ?_, fun c last => ?_⟩
  · rw [List.append_assoc, ← inner, ← front]
  · refine isBlank_of_head?_trimStart text c ?_
    rw [inner, List.head?_append, Option.mem_def.1 first]
    rfl
  · rw [trim, List.getLast?_reverse] at last
    exact isBlank_of_head?_trimStart _ c last

/-- A text with no blank at either end is left as it is. -/
theorem trim_eq_self {text : List Char} (begins : ∀ c ∈ text.head?, isBlank c = false)
    (ends : ∀ c ∈ text.getLast?, isBlank c = false) : trim text = text := by
  have kept {text : List Char} (begins : ∀ c ∈ text.head?, isBlank c = false) :
      trimStart text = text := by
    cases text with
    | nil => rfl
    | cons c rest => simp [trimStart, begins c rfl]
  rw [trim, kept begins, kept, List.reverse_reverse]
  rwa [List.head?_reverse]

/-- Nothing is left of a text of blanks. -/
theorem trim_eq_nil_iff {text : List Char} : trim text = [] ↔ ∀ c ∈ text, isBlank c = true := by
  obtain ⟨before, after, whole, blankBefore, blankAfter⟩ := (stripped_trim text).around
  constructor
  · intro nothing
    rw [nothing, List.append_nil] at whole
    rw [whole]
    exact List.forall_mem_append.2 ⟨blankBefore, blankAfter⟩
  · intro all
    cases left : trim text with
    | nil => rfl
    | cons c rest =>
      have visible := (stripped_trim text).begins c (by rw [left]; rfl)
      rw [left] at whole
      rw [all c (by simp [whole])] at visible
      cases visible

end Intake
