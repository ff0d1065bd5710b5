import Intake.Proofs.Layout.Noted
import Mathlib.Logic.Basic

/-!
# The strict form and patterns

A date-time of the strict form is read by some patterns too. The steps of such a pattern take what
the strict reader takes, part by part, so both make the same instant of it.
-/

namespace Intake

namespace Rfc3339

variable {text rest : List Char}

theorem bind_eq_ok {α β : Type} {first : Reader α} {next : α → Reader β} {result : β} :
    (first >>= next) text = .ok (result, rest) ↔
      ∃ value between, first text = .ok (value, between) ∧
        next value between = .ok (result, rest) := by
  simp only [bind, StateT.bind]
  cases first text with
  | error fault => simp [Except.bind]
  | ok read =>
    obtain ⟨value, between⟩ := read
    simp only [Except.bind, Except.ok.injEq, Prod.mk.injEq]
    constructor
    · exact fun read => ⟨value, between, ⟨rfl, rfl⟩, read⟩
    · rintro ⟨_, _, ⟨rfl, rfl⟩, read⟩
      exact read

theorem oneOf_eq_ok {accepts : Char → Bool} {c : Char} :
    oneOf accepts text = .ok (c, rest) ↔ text = c :: rest ∧ accepts c = true := by
  cases text with
  | nil => simp [oneOf]
  | cons first others =>
    unfold oneOf
    by_cases accepted : accepts first = true
    · simp only [accepted, if_true, Except.ok.injEq, Prod.mk.injEq, List.cons.injEq]
      exact ⟨fun same => ⟨same, same.1 ▸ accepted⟩, And.left⟩
    · simp only [accepted, if_false, reduceCtorEq, List.cons.injEq, false_iff, not_and, and_imp]
      rintro rfl -
      exact accepted

/-- The digits that are read. -/
theorem exists_digits {width high value : Nat}
    (read : digits width high text = .ok (value, rest)) :
    ∃ run, text = run ++ rest ∧ run.length = width ∧ (∀ c ∈ run, isDigit c = true) ∧
      digitsValue run high = value := by
  induction width generalizing high text with
  | zero =>
    cases read
    exact ⟨[], rfl, rfl, by simp, rfl⟩
  | succ width ih =>
    obtain ⟨c, between, first, readRest⟩ := bind_eq_ok.1 read
    obtain ⟨rfl, digit⟩ := oneOf_eq_ok.1 first
    obtain ⟨run, rfl, size, all, isValue⟩ := ih readRest
    exact ⟨c :: run, rfl, by rw [List.length_cons, size], List.forall_mem_cons.2 ⟨digit, all⟩,
      isValue⟩

/-- Where a text starts with a digit, a number of a pattern has no sign. -/
theorem scan_of_isDigit {kind : Numeric} {most : Nat} (wide : kind.width = some most) {c : Char}
    (digit : isDigit c = true) :
    kind.scan (c :: rest) = (Scanner.number 1 (some most) (c :: rest)).map
      fun (value, rest) => ((value : Int), rest) := by
  cases kind with
  | year | isoYear =>
    cases wide
    exact Scanner.signedNumber_of_digit digit
  | _ =>
    rw [← wide]
    rfl

theorem width_le {kind : Numeric} {most : Nat} (wide : kind.width = some most) : most ≤ 9 := by
  cases kind <;> simp only [Numeric.width, Option.some.injEq, reduceCtorEq] at wide <;> omega

/-- A number of a pattern takes the digits that are read, if it may take as many. -/
theorem scan_of_digits {kind : Numeric} {width value : Nat} (wide : kind.width = some (width + 1))
    (read : digits (width + 1) 0 text = .ok (value, rest)) :
    kind.scan (trimStart text) = some ((value : Int), rest) := by
  obtain ⟨run, rfl, size, all, rfl⟩ := exists_digits read
  have small : digitsValue run 0 < 0x8000000000000000 :=
    Nat.lt_trans (digitsValue_lt_pow all (size ▸ width_le wide)) (by decide)
  have number : Scanner.number 1 (some (width + 1)) (run ++ rest) =
      some (digitsValue run 0, rest) :=
    Scanner.number_eq_some_iff.2 ⟨run, rfl, all, by omega, by omega, .inl size, rfl, small⟩
  cases run with
  | nil => cases size
  | cons c run =>
    have digit := all c List.mem_cons_self
    rw [List.cons_append] at number ⊢
    rw [trimStart_cons_of_not_blank (isBlank_of_isDigit digit), scan_of_isDigit wide digit, number]
    rfl

/-- A step for a number takes the digits that are read. -/
theorem scan_numeric_iff {kind : Numeric} {width value : Nat} (wide : kind.width = some (width + 1))
    (read : digits (width + 1) 0 text = .ok (value, rest)) {fields result : Fields}
    {after : List Char} : (Item.numeric kind).scan fields text = some (result, after) ↔
      kind.record? fields value = some result ∧ after = rest := by
  rw [Item.scan_numeric_eq_some, scan_of_digits wide read]
  simp only [Option.some.injEq, Prod.mk.injEq]
  constructor
  · rintro ⟨_, ⟨rfl, rfl⟩, noted⟩
    exact ⟨noted, rfl⟩
  · rintro ⟨noted, rfl⟩
    exact ⟨value, ⟨rfl, rfl⟩, noted⟩

/-- A step for a fraction takes the fraction that is read; without one it takes note of nothing. -/
theorem scan_fraction {nano : Nat} (read : fraction text = .ok (nano, rest))
    {fields result : Fields} {after : List Char}
    (scanned : Item.fraction.scan fields text = some (result, after)) :
    after = rest ∧ (fields.record? .nano nano = some result ∨ nano = 0 ∧ result = fields) := by
  rcases Item.scan_fraction_eq_some.1 scanned with
    ⟨inner, taken, rfl, isFraction, noted⟩ | ⟨noPoint, rfl, rfl⟩
  · simp only [fraction, isFraction, Except.ok.injEq, Prod.mk.injEq] at read
    obtain ⟨rfl, rfl⟩ := read
    exact ⟨rfl, .inl noted⟩
  · unfold fraction at read
    split at read
    · exact absurd rfl noPoint
    · cases read
      exact ⟨rfl, .inr ⟨rfl, rfl⟩⟩

theorem exists_lastTwoDigits {tens units : Nat}
    (read : lastTwoDigits text = .ok ((tens, units), rest)) :
    ∃ a b, text = a :: b :: rest ∧ isDigit a = true ∧ isDigit b = true ∧
      digitValue a = tens ∧ digitValue b = units := by
  unfold lastTwoDigits at read
  split at read
  · cases read
  · cases read
  · rename_i a b others
    split at read
    · rename_i both
      cases read
      exact ⟨a, b, rfl, both.1, both.2, rfl, rfl⟩
    · cases read

/-- What an offset is made of, unless it is the letter for none. -/
theorem exists_offset {seconds : Int} (read : offset text = .ok (seconds, rest)) :
    (∃ c others, text = c :: others ∧ (c = 'Z' ∨ c = 'z')) ∨
    ∃ negative a b c d,
      Scanner.offsetSign true text = some (negative, a :: b :: ':' :: c :: d :: rest) ∧
      isDigit a = true ∧ isDigit b = true ∧ isDigit c = true ∧ isDigit d = true ∧
      digitValue c ≤ 5 ∧ seconds = Scanner.signed negative
        ((digitValue a * 10 + digitValue b) * 3600 + (digitValue c * 10 + digitValue d) * 60) := by
  unfold offset at read
  split at read
  · cases read
  · exact .inl ⟨_, _, rfl, .inl rfl⟩
  · exact .inl ⟨_, _, rfl, .inr rfl⟩
  · split at read
    · cases read
    · rename_i negative others signed
      cases hours : lastTwoDigits others with
      | error fault =>
        rw [hours] at read
        cases read
      | ok pair =>
        obtain ⟨⟨_, _⟩, between⟩ := pair
        obtain ⟨a, b, rfl, digitA, digitB, rfl, rfl⟩ := exists_lastTwoDigits hours
        rw [hours] at read
        simp only [bind, Except.bind] at read
        split at read
        · cases read
        · rename_i others
          cases minutes : lastTwoDigits others with
          | error fault =>
            rw [minutes] at read
            cases read
          | ok pair =>
            obtain ⟨⟨_, _⟩, between⟩ := pair
            obtain ⟨c, d, rfl, digitC, digitD, rfl, rfl⟩ := exists_lastTwoDigits minutes
            rw [minutes] at read
            simp only at read
            split at read
            · cases read
            · cases read
              exact .inr ⟨negative, a, b, c, d, signed, digitA, digitB, digitC, digitD,
                by omega, rfl⟩
        · cases read

theorem twoDigits_eq_some {high a b : Char} (digitA : isDigit a = true) (low : a ≤ high)
    (digitB : isDigit b = true) : Scanner.twoDigits high (a :: b :: rest) =
      some (digitValue a * 10 + digitValue b, rest) :=
  if_pos ⟨digitA, low, digitB⟩

/-- The sign of an offset is the first character, and no blank. -/
theorem trimStart_of_offsetSign {minus negative : Bool}
    (signed : Scanner.offsetSign minus text = some (negative, rest)) : trimStart text = text := by
  unfold Scanner.offsetSign at signed
  split at signed
  · exact trimStart_cons_of_not_blank (by decide)
  · exact trimStart_cons_of_not_blank (by decide)
  · exact trimStart_cons_of_not_blank (by decide)
  · cases signed

/-- A pattern reads an offset that is written with a sign as the strict reader does. -/
theorem offset_of_parts {negative : Bool} {a b c d : Char}
    (signed : Scanner.offsetSign true text = some (negative, a :: b :: ':' :: c :: d :: rest))
    (digitA : isDigit a = true) (digitB : isDigit b = true) (digitC : isDigit c = true)
    (digitD : isDigit d = true) (small : digitValue c ≤ 5) :
    Scanner.offset Item.offsetForm text = some (Scanner.signed negative
      ((digitValue a * 10 + digitValue b) * 3600 + (digitValue c * 10 + digitValue d) * 60),
      rest) := by
  have highA : a ≤ '9' := by
    simp only [isDigit, Bool.and_eq_true, decide_eq_true_eq] at digitA
    exact digitA.2
  have highC : c ≤ '5' := by
    have bounds := isDigit_iff.1 digitC
    change c.toNat - 48 ≤ 5 at small
    rw [Char.le_def, UInt32.le_iff_toNat_le]
    change c.toNat ≤ 53
    omega
  have colon : (':' :: c :: d :: rest).dropWhile (fun c => c == ':' || isBlank c) =
      c :: d :: rest := by
    have notColon : c ≠ ':' := by
      rintro rfl
      exact absurd digitC (by decide)
    simp [isBlank_of_isDigit digitC, notColon]
  unfold Scanner.offset
  split
  · cases signed
  · cases signed
  · change (Scanner.offsetSign true text).bind _ = _
    rw [signed]
    change (Scanner.twoDigits '9' _).bind _ = _
    simp only [twoDigits_eq_some digitA highA digitB, Option.bind_some, Item.offsetForm, if_true,
      colon, Bool.false_eq_true, false_and, if_false]
    change (Scanner.twoDigits '5' _).bind _ = _
    rw [twoDigits_eq_some digitC highC digitD]
    rfl

/-- A step for an offset takes the offset that is read. -/
theorem scan_offset {seconds : Int} (read : offset text = .ok (seconds, rest))
    {fields result : Fields} {after : List Char}
    (scanned : Item.offset.scan fields text = some (result, after)) :
    after = rest ∧ fields.record? .offset seconds = some result := by
  obtain ⟨taken, isOffset, noted⟩ := Item.scan_offset_eq_some.1 scanned
  rcases exists_offset read with
    ⟨_, _, rfl, rfl | rfl⟩ |
      ⟨negative, a, b, c, d, signed, digitA, digitB, digitC, digitD, small, rfl⟩
  · cases isOffset
  · cases isOffset
  · rw [trimStart_of_offsetSign signed,
      offset_of_parts signed digitA digitB digitC digitD small] at isOffset
    cases isOffset
    exact ⟨rfl, noted⟩

/-- What a date-time is read from: the texts that are left after its parts, and their values. -/
structure Parts (text : List Char) (wall : WallTime) (seconds : Int) (rest : List Char) where
  year : Nat
  month : Nat
  day : Nat
  /-- What separates the date from the time. -/
  mark : Char
  hour : Nat
  minute : Nat
  second : Nat
  nano : Nat
  afterYear : List Char
  afterMonth : List Char
  afterMark : List Char
  afterHour : List Char
  afterMinute : List Char
  afterSecond : List Char
  afterNano : List Char
  readYear : digits 4 0 text = .ok (year, '-' :: afterYear)
  readMonth : digits 2 0 afterYear = .ok (month, '-' :: afterMonth)
  readDay : digits 2 0 afterMonth = .ok (day, mark :: afterMark)
  isDate : Date.ofYearMonthDay? year month day = some wall.date
  isMark : mark = 't' ∨ mark = 'T' ∨ mark = ' '
  readHour : digits 2 0 afterMark = .ok (hour, ':' :: afterHour)
  readMinute : digits 2 0 afterHour = .ok (minute, ':' :: afterMinute)
  readSecond : digits 2 0 afterMinute = .ok (second, afterSecond)
  readNano : fraction afterSecond = .ok (nano, afterNano)
  isClock : clock? hour minute second nano = some wall.clock
  readOffset : offset afterNano = .ok (seconds, rest)

/-- A number that a given character follows. -/
theorem exists_number_then {width : Nat} {expected : Char} {β : Type} {next : Nat → Char → Reader β}
    {result : β} (read : (digits width 0 >>= fun value =>
      oneOf (· == expected) >>= next value) text = .ok (result, rest)) :
    ∃ value after, digits width 0 text = .ok (value, expected :: after) ∧
      next value expected after = .ok (result, rest) := by
  obtain ⟨value, _, readValue, readMark⟩ := bind_eq_ok.1 read
  obtain ⟨c, after, first, readRest⟩ := bind_eq_ok.1 readMark
  obtain ⟨rfl, same⟩ := oneOf_eq_ok.1 first
  obtain rfl := beq_iff_eq.1 same
  exact ⟨value, after, readValue, readRest⟩

/-- A date-time that is read has its parts. -/
theorem exists_parts {wall : WallTime} {seconds : Int}
    (read : reader text = .ok ((wall, seconds), rest)) :
    Nonempty (Parts text wall seconds rest) := by
  obtain ⟨year, afterYear, readYear, read⟩ := exists_number_then read
  obtain ⟨month, afterMonth, readMonth, read⟩ := exists_number_then read
  obtain ⟨day, _, readDay, read⟩ := bind_eq_ok.1 read
  cases isDate : Date.ofYearMonthDay? year month day with
  | none =>
    simp only [isDate] at read
    cases read
  | some date =>
    simp only [isDate] at read
    obtain ⟨mark, afterMark, readMark, readClock⟩ := bind_eq_ok.1 read
    obtain ⟨rfl, isMark⟩ := oneOf_eq_ok.1 readMark
    obtain ⟨hour, afterHour, readHour, readClock⟩ := exists_number_then readClock
    obtain ⟨minute, afterMinute, readMinute, readClock⟩ := exists_number_then readClock
    obtain ⟨second, afterSecond, readSecond, readClock⟩ := bind_eq_ok.1 readClock
    obtain ⟨nano, afterNano, readNano, readClock⟩ := bind_eq_ok.1 readClock
    cases isClock : clock? hour minute second nano with
    | none =>
      simp only [isClock] at readClock
      cases readClock
    | some clock =>
      simp only [isClock] at readClock
      obtain ⟨_, _, readOffset, readNothing⟩ := bind_eq_ok.1 readClock
      cases readNothing
      have isMark : mark = 't' ∨ mark = 'T' ∨ mark = ' ' := by simpa [or_assoc] using isMark
      exact ⟨⟨year, month, day, mark, hour, minute, second, nano, afterYear, afterMonth, afterMark,
        afterHour, afterMinute, afterSecond, afterNano, readYear, readMonth, readDay, isDate,
        isMark, readHour, readMinute, readSecond, readNano, isClock, readOffset⟩⟩

end Rfc3339

namespace Rfc3339

variable {text rest after : List Char} {fields result : Fields} {items : List Item}

/-- The steps for a number and the mark after it. -/
theorem scan_number_then {kind : Numeric} {width value : Nat} {c : Char}
    (wide : kind.width = some (width + 1))
    (read : digits (width + 1) 0 text = .ok (value, c :: rest))
    (scanned : Item.scanAll (.numeric kind :: .literal c :: items) fields text =
      some (result, after)) :
    ∃ middle, kind.record? fields value = some middle ∧
      Item.scanAll items middle rest = some (result, after) := by
  obtain ⟨middle, between, number, scannedMark⟩ := Item.scanAll_cons_eq_some.1 scanned
  obtain ⟨noted, rfl⟩ := (scan_numeric_iff wide read).1 number
  obtain ⟨_, same, scannedRest⟩ := Item.scanAll_literal_eq_some.1 scannedMark
  cases same
  exact ⟨_, noted, scannedRest⟩

namespace Parts

variable {wall : WallTime} {seconds : Int}

/-- What is taken note of after the date. -/
def dateFields (parts : Parts text wall seconds rest) : Fields :=
  ((Fields.empty.note .year parts.year).note .month parts.month).note .day parts.day

/-- What is taken note of after the fraction, if there is one. -/
def clockFields (parts : Parts text wall seconds rest) (nano : Option Int) : Fields :=
  let whole := (((parts.dateFields.note .halfOfDay (parts.hour / 12 : Int)).note .hourOfHalf
    (parts.hour % 12 : Int)).note .minute parts.minute).note .second parts.second
  match nano with
  | some nano => whole.note .nano nano
  | none => whole

/-- The steps for a date take the date. -/
theorem scan_isoDate (parts : Parts text wall seconds rest)
    (scanned : Item.scanAll (Pattern.isoDate ++ items) .empty text = some (result, after)) :
    Item.scanAll items parts.dateFields (parts.mark :: parts.afterMark) = some (result, after) := by
  obtain ⟨withYear, year, scanned⟩ := scan_number_then rfl parts.readYear scanned
  obtain ⟨withMonth, month, scanned⟩ := scan_number_then rfl parts.readMonth scanned
  obtain ⟨withDay, _, dayScanned, scanned⟩ := Item.scanAll_cons_eq_some.1 scanned
  obtain ⟨day, rfl⟩ := (scan_numeric_iff rfl parts.readDay).1 dayScanned
  have year : Fields.empty.record? .year parts.year = some withYear := year
  have month : withYear.record? .month parts.month = some withMonth := month
  have day : withMonth.record? .day parts.day = some withDay := day
  obtain rfl := Fields.eq_note rfl year
  obtain rfl := Fields.eq_note rfl month
  obtain rfl := Fields.eq_note rfl day
  exact scanned

/-- The steps for a clock reading take the clock reading. -/
theorem scan_clock (parts : Parts text wall seconds rest)
    (scanned : Item.scanAll (Pattern.hourMinuteSecond ++ .fraction :: items) parts.dateFields
      parts.afterMark = some (result, after)) :
    ∃ nano : Option Int, nano.getD 0 = parts.nano ∧
      Item.scanAll items (parts.clockFields nano) parts.afterNano = some (result, after) := by
  obtain ⟨withHour, hour, scanned⟩ := scan_number_then rfl parts.readHour scanned
  obtain ⟨withMinute, minute, scanned⟩ := scan_number_then rfl parts.readMinute scanned
  obtain ⟨withSecond, _, secondScanned, scanned⟩ := Item.scanAll_cons_eq_some.1 scanned
  obtain ⟨second, rfl⟩ := (scan_numeric_iff rfl parts.readSecond).1 secondScanned
  have hour : parts.dateFields.recordHour? parts.hour = some withHour := hour
  have minute : withHour.record? .minute parts.minute = some withMinute := minute
  have second : withMinute.record? .second parts.second = some withSecond := second
  obtain rfl := Fields.eq_noteHour rfl rfl hour
  obtain rfl := Fields.eq_note rfl minute
  obtain rfl := Fields.eq_note rfl second
  obtain ⟨withNano, _, nano, scanned⟩ := Item.scanAll_cons_eq_some.1 scanned
  obtain ⟨rfl, noted | ⟨isZero, rfl⟩⟩ := scan_fraction parts.readNano nano
  · obtain rfl := Fields.eq_note rfl noted
    exact ⟨some parts.nano, rfl, scanned⟩
  · exact ⟨none, by simp [isZero], scanned⟩

/-- Patterns that go on after the date with the letter `T`. -/
theorem scan_after_letter (parts : Parts text wall seconds rest)
    (scanned : Item.scanAll (.literal 'T' :: items) parts.dateFields
      (parts.mark :: parts.afterMark) = some (result, after)) :
    Item.scanAll items parts.dateFields parts.afterMark = some (result, after) := by
  obtain ⟨_, same, scanned⟩ := Item.scanAll_literal_eq_some.1 scanned
  rw [(List.cons.inj same).2]
  exact scanned

/-- Patterns that go on after the date with a number. -/
theorem scan_after_blanks (parts : Parts text wall seconds rest) {kind : Numeric}
    (scanned : Item.scanAll (.numeric kind :: items) parts.dateFields
      (parts.mark :: parts.afterMark) = some (result, after)) :
    Item.scanAll (.numeric kind :: items) parts.dateFields parts.afterMark =
      some (result, after) := by
  obtain ⟨middle, between, number, scanned⟩ := Item.scanAll_cons_eq_some.1 scanned
  have noLetter : Rfc2822.isLetter parts.mark ≠ true := by
    intro letter
    obtain ⟨value, taken, -⟩ := Item.scan_numeric_eq_some.1 number
    rw [trimStart_cons_of_not_blank (Item.isLetter_apart letter).2] at taken
    exact Item.not_scan_letter letter taken
  have isBlank : parts.mark = ' ' := by
    rcases parts.isMark with isMark | isMark | isMark
    · exact absurd (by rw [isMark]; decide) noLetter
    · exact absurd (by rw [isMark]; decide) noLetter
    · exact isMark
  rw [isBlank] at number
  refine Item.scanAll_cons_eq_some.2 ⟨middle, between, ?_, scanned⟩
  rw [← Item.scan_trimStart rfl] at number ⊢
  exact number

/-- The strict form does not end with the date. -/
theorem not_scan_nil_after_date (parts : Parts text wall seconds rest)
    (scanned : Item.scanAll [] fields (parts.mark :: parts.afterMark) = some (result, [])) :
    False := by
  obtain ⟨-, ended⟩ := Item.scanAll_nil_eq_some.1 scanned
  cases ended

/-- The strict form does not end with the clock reading. -/
theorem not_scan_nil_after_clock (parts : Parts text wall seconds rest)
    (scanned : Item.scanAll [] fields parts.afterNano = some (result, [])) : False := by
  obtain ⟨-, ended⟩ := Item.scanAll_nil_eq_some.1 scanned
  have readOffset := parts.readOffset
  rw [← ended] at readOffset
  cases readOffset

/-- The step for an offset takes the offset. -/
theorem scan_offset (parts : Parts text wall seconds rest)
    (scanned : Item.scanAll [.offset] fields parts.afterNano = some (result, after))
    (fresh : fields.read .offset = none) : result = fields.note .offset seconds := by
  obtain ⟨_, _, offset, ended⟩ := Item.scanAll_cons_eq_some.1 scanned
  obtain ⟨rfl, rfl⟩ := Item.scanAll_nil_eq_some.1 ended
  exact Fields.eq_note fresh (Rfc3339.scan_offset parts.readOffset offset).2

/-- A pattern with slashes does not read the strict form. -/
theorem not_scan_slash (parts : Parts text wall seconds rest)
    (scanned : Item.scanAll (.numeric .year :: .literal '/' :: items) fields text =
      some (result, after)) : False := by
  obtain ⟨_, _, number, scanned⟩ := Item.scanAll_cons_eq_some.1 scanned
  obtain ⟨-, rfl⟩ := (scan_numeric_iff rfl parts.readYear).1 number
  obtain ⟨_, same, -⟩ := Item.scanAll_literal_eq_some.1 scanned
  cases same

/-- The strict form starts with a digit. -/
theorem exists_first_digit (parts : Parts text wall seconds rest) :
    ∃ first others, text = first :: others ∧ isDigit first = true := by
  obtain ⟨run, isText, size, all, -⟩ := exists_digits parts.readYear
  cases run with
  | nil => cases size
  | cons first others => exact ⟨first, _, isText, all first List.mem_cons_self⟩

/-- A number of at most two digits is followed by a third digit of the year. -/
theorem isDigit_after_day (parts : Parts text wall seconds rest) {day : Nat} {c : Char}
    {others : List Char}
    (taken : Scanner.number 1 (some 2) (trimStart text) = some (day, c :: others)) :
    isDigit c = true := by
  obtain ⟨run, isText, size, all, -⟩ := exists_digits parts.readYear
  obtain ⟨digits, isTrimmed, -, -, short, -⟩ := Scanner.number_eq_some_iff.1 taken
  have untrimmed : trimStart text = text := by
    obtain ⟨first, others, rfl, digit⟩ := parts.exists_first_digit
    exact trimStart_cons_of_not_blank (isBlank_of_isDigit digit)
  have position : text[digits.length]? = some c := by
    rw [← untrimmed, isTrimmed]
    simp
  rw [isText, List.getElem?_append_left (by omega)] at position
  exact all c (List.mem_of_getElem? position)

/-- A pattern that starts with a day does not read the strict form. -/
theorem not_scan_day (parts : Parts text wall seconds rest) {c : Char} (stop : isDigit c = false)
    (scanned : Item.scanAll (.numeric .day :: .literal c :: items) fields text =
      some (result, after)) : False := by
  obtain ⟨day, _, _, taken, -⟩ := (Item.scanAll_number_then_eq_some rfl).1 scanned
  exact absurd (parts.isDigit_after_day taken) (by simp [stop])

/-- What was noted makes the wall time that the strict reader made. -/
theorem atOffset?_of_toInstant? (parts : Parts text wall seconds rest) {nano : Option Int}
    (isNano : nano.getD 0 = parts.nano) {instant : Instant}
    (made : ((parts.clockFields nano).note .offset seconds).toInstant? = some instant) :
    wall.atOffset? seconds = some instant := by
  obtain ⟨fraction, isFraction, isFields⟩ : ∃ fraction : Option Nat,
      fraction.getD 0 = parts.nano ∧ parts.clockFields nano =
        (Fields.ofDate parts.year parts.month parts.day).noteClock parts.hour parts.minute
          parts.second fraction := by
    cases nano with
    | none => exact ⟨none, Int.ofNat.inj isNano, rfl⟩
    | some nano =>
      obtain rfl : nano = parts.nano := isNano
      exact ⟨some parts.nano, rfl, rfl⟩
  rw [isFields] at made
  obtain ⟨shown, ⟨isDate, isClock⟩, -, placed⟩ := Fields.toInstant?_note_offset.1 made
  have sameDate := Option.some.inj (parts.isDate.symm.trans isDate)
  have sameClock := Option.some.inj (parts.isClock.symm.trans (isFraction ▸ isClock))
  have same : wall = shown := by
    cases wall
    cases shown
    exact congrArg₂ WallTime.mk sameDate sameClock
  exact same ▸ placed

end Parts

end Rfc3339

end Intake
