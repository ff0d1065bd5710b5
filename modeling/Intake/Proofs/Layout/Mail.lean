import Intake.Proofs.Layout.Steps

/-!
# Mail dates and patterns

A mail date starts with a weekday, or with a day that a blank follows. No pattern that starts with a
day or a year and a visible mark reads such a text.
-/

namespace Intake

/-- A scanner that goes on after another. -/
theorem Scanner.bind_eq_some {α β : Type} {first : Scanner α} {next : α → Scanner β}
    {text rest : List Char} {result : β} : (first >>= next) text = some (result, rest) ↔
      ∃ value between, first text = some (value, between) ∧
        next value between = some (result, rest) := by
  simp only [bind, StateT.bind, Option.bind_eq_some_iff, Prod.exists]

variable {text rest : List Char} {fields result : Fields}

/-- The steps start with a year or a day and a visible mark. -/
def Item.leads : List Item → Bool
  | numeric kind :: literal mark :: _ =>
    (kind == .year || kind == .day) && !isDigit mark && !isBlank mark
  | _ => false

/-- Taking note takes nothing from the text. -/
theorem Scanner.noted_rest {note : Option Fields}
    (noted : (liftM note : Scanner Fields) text = some (result, rest)) : text = rest := by
  cases note with
  | none => cases noted
  | some fields =>
    cases noted
    rfl

namespace Rfc2822

theorem weekdayNames_lettered :
    (Scanner.weekdayNames.all fun name => name.1.head?.any isLetter) = true := by
  decide

/-- What a mail date starts with. -/
theorem start_of_reader (read : reader text = some (result, rest)) :
    (∃ c others, trimStart text = c :: others ∧ isLetter c = true) ∨
      ∃ day blank others, Scanner.number 1 (some 2) (trimStart text) = some (day, blank :: others) ∧
        isBlank blank = true := by
  obtain ⟨_, _, skipped, read⟩ := Scanner.bind_eq_some.1 read
  cases skipped
  obtain ⟨_, _, weekday, read⟩ := Scanner.bind_eq_some.1 read
  unfold Rfc2822.weekday at weekday
  split at weekday
  · rename_i named
    obtain ⟨c, others, same, letter⟩ :=
      Item.exists_letter_of_shortName weekdayNames_lettered named
    exact .inl ⟨c, others, same, letter⟩
  · cases weekday
  · cases weekday
    obtain ⟨_, _, skippedAgain, read⟩ := Scanner.bind_eq_some.1 read
    cases skippedAgain
    obtain ⟨day, afterDay, isDay, read⟩ := Scanner.bind_eq_some.1 read
    obtain ⟨_, _, noted, read⟩ := Scanner.bind_eq_some.1 read
    obtain ⟨_, _, spaced, -⟩ := Scanner.bind_eq_some.1 read
    rw [trimStart_idem] at isDay
    -- Taking note of the day leaves the text as it is.
    cases Scanner.noted_rest noted
    cases afterDay with
    | nil => cases spaced
    | cons blank others =>
      obtain ⟨isBlank, -⟩ := Option.ite_none_right_eq_some.1 spaced
      exact .inr ⟨day, blank, others, isDay, isBlank⟩

/-- No pattern that starts with a year or a day and a visible mark reads a mail date. -/
theorem not_both_of_leads {items : List Item} (leads : Item.leads items = true)
    (mail : reader text = some (result, rest)) {patternResult : Fields}
    (pattern : Item.scanAll items fields text = some (patternResult, [])) : False := by
  unfold Item.leads at leads
  split at leads
  · rename_i kind mark items
    simp only [Bool.and_eq_true, Bool.or_eq_true, beq_iff_eq, Bool.not_eq_true'] at leads
    obtain ⟨⟨dated, stop⟩, visible⟩ := leads
    obtain ⟨_, _, scannedNumber, pattern⟩ := Item.scanAll_cons_eq_some.1 pattern
    obtain ⟨afterMark, rfl, -⟩ := Item.scanAll_literal_eq_some.1 pattern
    obtain ⟨value, number, -⟩ := Item.scan_numeric_eq_some.1 scannedNumber
    rcases start_of_reader mail with ⟨c, others, same, letter⟩ | ⟨day, blank, others, isDay, spaced⟩
    · rw [same] at number
      exact Item.not_scan_letter letter number
    · have stopped : isDigit blank = false := by
        cases digit : isDigit blank with
        | false => rfl
        | true => simp [isBlank_of_isDigit digit] at spaced
      -- A day and a year take the digits of the day, and a blank is no visible mark.
      have same : some (value, mark :: afterMark) = some ((day : Int), blank :: others) := by
        rw [← number]
        rcases dated with rfl | rfl
        · exact Scanner.signedNumber_of_number isDay (by decide) (by decide) stopped
        · exact congrArg (Option.map _) isDay
      cases same
      exact absurd spaced (by simp [visible])
  · cases leads

end Rfc2822

end Intake
