import Intake.Layout.Pattern
import Mathlib.Algebra.Group.Nat.Defs

/-!
# Runs of digits

What a number takes from the front of a text: digits, as many as it may, and never a digit less than
the text offers. `number_eq_some_iff` says so exactly. A number that stops at a character that is no
digit is the same under every greater width.
-/

namespace Intake

theorem isDigit_iff {c : Char} : isDigit c = true ↔ 48 ≤ c.toNat ∧ c.toNat ≤ 57 := by
  simp only [isDigit, Bool.and_eq_true, decide_eq_true_eq, Char.le_def, UInt32.le_iff_toNat_le]
  exact Iff.rfl

theorem isBlank_of_isDigit {c : Char} (digit : isDigit c = true) : isBlank c = false := by
  have bounds := isDigit_iff.1 digit
  simp only [isBlank, Bool.or_eq_false_iff, Bool.and_eq_false_iff, decide_eq_false_iff_not,
    beq_eq_false_iff_ne]
  omega

/-- The value of digits is less than the power of ten that they have room for. -/
theorem digitsValue_lt {digits : List Char} (all : ∀ c ∈ digits, isDigit c = true) (high : Nat) :
    digitsValue digits high < (high + 1) * 10 ^ digits.length := by
  induction digits generalizing high with
  | nil => simp [digitsValue]
  | cons c digits ih =>
    have bound : digitValue c < 10 := by
      have bounds := isDigit_iff.1 (all c List.mem_cons_self)
      change c.toNat - 48 < 10
      omega
    calc digitsValue digits (high * 10 + digitValue c)
        < (high * 10 + digitValue c + 1) * 10 ^ digits.length :=
          ih (fun c inside => all c (List.mem_cons_of_mem _ inside)) _
      _ ≤ ((high + 1) * 10) * 10 ^ digits.length := Nat.mul_le_mul_right _ (by omega)
      _ = (high + 1) * 10 ^ (digits.length + 1) := by
          rw [Nat.mul_assoc, Nat.pow_succ, Nat.mul_comm 10]

/-- Digits of which there are at most so many. -/
theorem digitsValue_lt_pow {digits : List Char} {most : Nat}
    (all : ∀ c ∈ digits, isDigit c = true) (short : digits.length ≤ most) :
    digitsValue digits 0 < 10 ^ most :=
  calc digitsValue digits 0 < (0 + 1) * 10 ^ digits.length := digitsValue_lt all 0
    _ = 10 ^ digits.length := Nat.one_mul _
    _ ≤ 10 ^ most := Nat.pow_le_pow_right (by decide) short

/-- A text that does not start with a blank is left as it is. -/
@[simp] theorem trimStart_cons_of_not_blank {c : Char} {rest : List Char}
    (visible : isBlank c = false) : trimStart (c :: rest) = c :: rest := by
  simp [trimStart, visible]

namespace Scanner

/-- The longest run of at most so many digits is the digits in front of a text, where their number
is the greatest allowed or no digit follows. -/
theorem digitRun_append {most : Nat} {digits rest : List Char}
    (all : ∀ c ∈ digits, isDigit c = true) (short : digits.length ≤ most)
    (stops : digits.length = most ∨ ∀ c ∈ rest.head?, isDigit c = false) :
    digitRun (some most) (digits ++ rest) = digits := by
  have cut : (digits ++ rest).take most = digits ++ rest.take (most - digits.length) := by
    rw [List.take_append, List.take_of_length_le short]
  have none_left : (rest.take (most - digits.length)).takeWhile isDigit = [] := by
    rcases stops with full | stopped
    · simp [full]
    · cases rest with
      | nil => simp
      | cons c rest =>
        have := stopped c rfl
        cases most - digits.length <;> simp [this]
  simp only [digitRun, cut]
  rw [List.takeWhile_append_of_pos all, none_left, List.append_nil]

/-- A text falls into its run of digits and a rest. -/
theorem digitRun_spec (most : Nat) (text : List Char) :
    ∃ rest, text = digitRun (some most) text ++ rest ∧
      (∀ c ∈ digitRun (some most) text, isDigit c = true) ∧
      (digitRun (some most) text).length ≤ most ∧
      ((digitRun (some most) text).length = most ∨ ∀ c ∈ rest.head?, isDigit c = false) := by
  induction text generalizing most with
  | nil => exact ⟨[], by simp [digitRun], by simp [digitRun], by simp [digitRun], .inr (by simp)⟩
  | cons c text ih =>
    cases most with
    | zero => exact ⟨c :: text, by simp [digitRun]⟩
    | succ most =>
      cases digit : isDigit c with
      | false => exact ⟨c :: text, by simp [digitRun, digit]⟩
      | true =>
        obtain ⟨rest, whole, all, short, stops⟩ := ih most
        have longer : digitRun (some (most + 1)) (c :: text) = c :: digitRun (some most) text := by
          simp [digitRun, digit]
        refine ⟨rest, ?_, ?_, ?_, ?_⟩
        · rw [longer, List.cons_append, ← whole]
        · rw [longer]
          exact List.forall_mem_cons.2 ⟨digit, all⟩
        · rw [longer]
          exact Nat.succ_le_succ short
        · rw [longer, List.length_cons, Nat.add_right_cancel_iff]
          exact stops

/-- A number takes digits, as many as it may. -/
theorem number_eq_some_iff {least most value : Nat} {text rest : List Char} :
    number least (some most) text = some (value, rest) ↔
      ∃ digits, text = digits ++ rest ∧ (∀ c ∈ digits, isDigit c = true) ∧
        least ≤ digits.length ∧ digits.length ≤ most ∧
        (digits.length = most ∨ ∀ c ∈ rest.head?, isDigit c = false) ∧
        digitsValue digits 0 = value ∧ value < 0x8000000000000000 := by
  simp only [number, Option.ite_none_right_eq_some, Option.some.injEq, Prod.mk.injEq]
  constructor
  · rintro ⟨⟨long, small⟩, rfl, rfl⟩
    obtain ⟨rest, whole, all, short, stops⟩ := digitRun_spec most text
    have left : text.drop (digitRun (some most) text).length = rest := by
      have := congrArg (List.drop (digitRun (some most) text).length) whole
      rwa [List.drop_left] at this
    exact ⟨_, by rw [left]; exact whole, all, long, short, by rw [left]; exact stops, rfl, small⟩
  · rintro ⟨digits, rfl, all, long, short, stops, rfl, small⟩
    rw [digitRun_append all short stops]
    exact ⟨⟨long, small⟩, rfl, List.drop_left⟩

/-- A year that starts with a digit is a number without a sign. -/
theorem signedNumber_of_digit {most : Nat} {c : Char} {rest : List Char}
    (digit : isDigit c = true) : signedNumber most (c :: rest) =
      (number 1 (some most) (c :: rest)).map fun (value, rest) => ((value : Int), rest) := by
  unfold signedNumber
  split
  · rename_i same
    cases same
    exact absurd digit (by decide)
  · rename_i same
    cases same
    exact absurd digit (by decide)
  · rfl

/-- A number that stops at no digit is the same where more digits are allowed. -/
theorem signedNumber_of_number {least most wider value : Nat} {text rest : List Char} {c : Char}
    (taken : number least (some most) text = some (value, c :: rest)) (pos : 0 < least)
    (wide : most ≤ wider) (stop : isDigit c = false) :
    signedNumber wider text = some ((value : Int), c :: rest) := by
  obtain ⟨digits, rfl, all, long, short, -, isValue, small⟩ := number_eq_some_iff.1 taken
  have again : number 1 (some wider) (digits ++ c :: rest) = some (value, c :: rest) :=
    number_eq_some_iff.2 ⟨digits, rfl, all, by omega, by omega, .inr (by simpa using stop),
      isValue, small⟩
  cases digits with
  | nil => exact absurd (Nat.lt_of_lt_of_le pos long) (Nat.lt_irrefl 0)
  | cons first others =>
    rw [List.cons_append, signedNumber_of_digit (all first List.mem_cons_self), ← List.cons_append,
      again]
    rfl

/-- A number is less than the power of ten that its digits have room for. -/
theorem number_lt {least most value : Nat} {text rest : List Char}
    (scanned : number least (some most) text = some (value, rest)) : value < 10 ^ most := by
  obtain ⟨digits, -, all, -, short, -, rfl, -⟩ := number_eq_some_iff.1 scanned
  exact digitsValue_lt_pow all short

/-- A fraction is less than a second. -/
theorem fraction_lt {nano : Nat} {text rest : List Char}
    (scanned : fraction text = some (nano, rest)) : nano < nanosPerSecond := by
  simp only [fraction, Option.ite_none_left_eq_some, Option.some.injEq, Prod.mk.injEq] at scanned
  obtain ⟨-, rfl, -⟩ := scanned
  have all : ∀ c ∈ (text.takeWhile isDigit).take 9, isDigit c = true :=
    fun c inside => List.all_eq_true.1 List.all_takeWhile c (List.mem_of_mem_take inside)
  have short : ((text.takeWhile isDigit).take 9).length ≤ 9 := List.length_take_le ..
  have bound := digitsValue_lt all 0
  generalize (text.takeWhile isDigit).take 9 = digits at *
  calc digitsValue digits 0 * 10 ^ (9 - digits.length)
      < (0 + 1) * 10 ^ digits.length * 10 ^ (9 - digits.length) :=
        Nat.mul_lt_mul_of_pos_right bound (Nat.pow_pos (by decide))
    _ = nanosPerSecond := by
      rw [Nat.one_mul, ← Nat.pow_add, Nat.add_sub_cancel' short]
      rfl

end Scanner

end Intake
