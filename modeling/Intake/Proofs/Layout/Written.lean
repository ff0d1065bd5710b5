import Intake.Layout.Rfc3339
import Intake.Proofs.Calendar.Zone
import Mathlib.Algebra.Group.Nat.Defs

/-!
# The written form of instants

An instant is written in the strict form, and the strict reader reads it back
(`Rfc3339.instant_written`). That holds for the years from 0 to 9999, since other years carry a
sign, and for instants that are `Regular`: a leap second is written as the second after the one it
follows, so it must follow second 59 to be told from an ordinary second. The others have the written
form of an ordinary second, to which they are `settled`.
-/

namespace Intake

/-- A leap second follows the last second of a minute. -/
def Instant.Regular (instant : Instant) : Prop :=
  instant.nano < nanosPerSecond ∨ instant.seconds % 60 = 59

instance : DecidablePred Instant.Regular := fun _ => inferInstanceAs (Decidable (_ ∨ _))

/-- A leap second follows second 59 of the clock. -/
def Clock.Regular (clock : Clock) : Prop := clock.nano < nanosPerSecond ∨ clock.second = 59

/-- Walls in universal time show a regular instant with a regular clock reading. -/
theorem Instant.Regular.clock {instant : Instant} (regular : instant.Regular) :
    instant.toWallTime.clock.Regular := by
  refine regular.imp_right fun last => ?_
  simp only [toWallTime, Clock.second]
  omega

/-- A text has at least as many bytes as characters. -/
theorem length_le_utf8ByteSize (text : List Char) :
    text.length ≤ (String.ofList text).utf8ByteSize := by
  induction text with
  | nil => simp
  | cons c rest ih =>
    have pos := c.utf8Size_pos
    rw [String.ofList_cons, String.utf8ByteSize_append, String.utf8ByteSize_singleton,
      List.length_cons]
    omega

theorem isDigit_of_mem_fixedDigits {width value : Nat} {c : Char}
    (inside : c ∈ fixedDigits width value) : isDigit c = true := by
  induction width generalizing value with
  | zero => cases inside
  | succ width ih =>
    rcases List.mem_append.1 inside with before | last
    · exact ih before
    · rw [List.mem_singleton.1 last]
      exact isDigit_digitOf value

namespace Rfc3339

variable {rest : List Char}

theorem oneOf_cons {accepts : Char → Bool} {c : Char} (accepted : accepts c = true) :
    oneOf accepts (c :: rest) = .ok (c, rest) :=
  if_pos accepted

/-- Digits are read in order. -/
theorem digits_append {run : List Char} (all : ∀ c ∈ run, isDigit c = true) (high : Nat) :
    digits run.length high (run ++ rest) = .ok (digitsValue run high, rest) := by
  induction run generalizing high with
  | nil => rfl
  | cons c run ih =>
    obtain ⟨digit, others⟩ := List.forall_mem_cons.1 all
    simp only [List.length_cons, digits, bind, StateT.bind, List.cons_append, oneOf_cons digit]
    exact ih others _

/-- A numeral of fixed width is read back. -/
theorem digits_fixedDigits {width value : Nat} (fits : value < 10 ^ width) :
    digits width 0 (fixedDigits width value ++ rest) = .ok (value, rest) := by
  have all : ∀ c ∈ fixedDigits width value, isDigit c = true :=
    fun c inside => isDigit_of_mem_fixedDigits inside
  have read : digits _ 0 (fixedDigits width value ++ rest) = .ok (_, rest) := digits_append all 0
  rw [fixedDigits_length, digitsValue_fixedDigits, Nat.zero_mul, Nat.zero_add] at read
  rwa [Nat.pow_eq, Nat.mod_eq_of_lt fits] at read

/-- Digits after the point are read up to the mark for universal time. -/
theorem fraction_point {width value nano : Nat} (pos : 0 < width) (short : width ≤ 9)
    (fits : value < 10 ^ width) (isNano : value * 10 ^ (9 - width) = nano) :
    fraction ('.' :: (fixedDigits width value ++ 'Z' :: rest)) = .ok (nano, 'Z' :: rest) := by
  have all : ∀ c ∈ fixedDigits width value, isDigit c = true :=
    fun c inside => isDigit_of_mem_fixedDigits inside
  have size := fixedDigits_length width value
  have taken : (fixedDigits width value ++ 'Z' :: rest).takeWhile isDigit =
      fixedDigits width value := by
    rw [List.takeWhile_append_of_pos all]
    simp [isDigit]
  have some_digit : fixedDigits width value ≠ [] := by
    intro nothing
    rw [nothing] at size
    exact absurd size (Nat.ne_of_lt pos)
  have isValue : digitsValue (fixedDigits width value) 0 = value := by
    rw [digitsValue_fixedDigits, Nat.zero_mul, Nat.zero_add, Nat.pow_eq, Nat.mod_eq_of_lt fits]
  have scanned : Scanner.fraction (fixedDigits width value ++ 'Z' :: rest) =
      some (nano, 'Z' :: rest) := by
    simp only [Scanner.fraction, taken, some_digit, if_false,
      List.take_of_length_le (Nat.le_trans (Nat.le_of_eq size) short), isValue, size, Nat.pow_eq,
      isNano, List.drop_left' size]
  simp only [fraction, scanned]

/-- The written fraction is read back. -/
theorem fraction_written {nano : Nat} (small : nano < nanosPerSecond) :
    fraction ((writtenFraction nano).toList ++ 'Z' :: rest) = .ok (nano, 'Z' :: rest) := by
  unfold nanosPerSecond at small
  unfold writtenFraction
  split
  · rename_i zero
    rw [zero]
    rfl
  · split
    · rename_i millis
      have read : fraction ('.' :: (fixedDigits 3 (nano / 1000000) ++ 'Z' :: rest)) =
          .ok (nano, 'Z' :: rest) :=
        fraction_point (by decide) (by decide) (by omega)
          (Nat.div_mul_cancel (Nat.dvd_of_mod_eq_zero millis))
      simpa [String.toList_append] using read
    · split
      · rename_i micros
        have read : fraction ('.' :: (fixedDigits 6 (nano / 1000) ++ 'Z' :: rest)) =
            .ok (nano, 'Z' :: rest) :=
          fraction_point (by decide) (by decide) (by omega)
            (Nat.div_mul_cancel (Nat.dvd_of_mod_eq_zero micros))
        simpa [String.toList_append] using read
      · have read : fraction ('.' :: (fixedDigits 9 nano ++ 'Z' :: rest)) =
            .ok (nano, 'Z' :: rest) :=
          fraction_point (by decide) (by decide) small (Nat.mul_one nano)
        simpa [String.toList_append] using read

/-- The parts of a clock reading make it again. -/
theorem ofParts?_self {clock : Clock} (regular : clock.Regular) :
    Clock.ofParts? clock.hour clock.minute clock.second clock.nano = some clock := by
  obtain ⟨secondOfDay, nano, second_lt, nano_lt⟩ := clock
  have whole : secondOfDay / 3600 * 3600 + secondOfDay / 60 % 60 * 60 + secondOfDay % 60 =
      secondOfDay := by omega
  unfold secondsPerDay at second_lt
  simp only [Clock.Regular, Clock.hour, Clock.minute, Clock.second] at *
  rw [Clock.ofParts?, dif_pos ⟨by omega, by omega, by omega, nano_lt, regular⟩]
  simp only [whole]

/-- The parts of a clock reading that are written make it again. -/
theorem clock?_written {clock : Clock} (regular : clock.Regular) :
    clock? clock.hour clock.minute (if clock.isLeap then clock.second + 1 else clock.second)
      (if clock.isLeap then clock.nano - nanosPerSecond else clock.nano) = some clock := by
  have again := ofParts?_self regular
  by_cases leap : nanosPerSecond ≤ clock.nano
  · have isLeap : clock.isLeap = true := decide_eq_true leap
    have last : clock.second = 59 := regular.resolve_left (Nat.not_lt.2 leap)
    rw [last] at again
    simp only [isLeap, if_true, last, clock?, Nat.add_sub_cancel' leap]
    exact again
  · have isLeap : clock.isLeap = false := decide_eq_false leap
    have below : clock.second ≠ 60 := Nat.ne_of_lt (Nat.mod_lt _ (by decide))
    simp only [isLeap, Bool.false_eq_true, if_false, clock?, below]
    exact again

/-- A reader goes on after what it has read. -/
theorem bind_of_ok {α β : Type} {first : Reader α} {next : α → Reader β} {text : List Char}
    {value : α} (read : first text = .ok (value, rest)) :
    (first >>= next) text = next value rest := by
  simp only [bind, StateT.bind, read, Except.bind]

/-- The characters of a written instant of the years from 0 to 9999. -/
theorem toList_written {instant : Instant}
    (inYears : 0 ≤ instant.toWallTime.date.year ∧ instant.toWallTime.date.year ≤ 9999) :
    let date := instant.toWallTime.date
    let clock := instant.toWallTime.clock
    instant.written.toList =
      fixedDigits 4 date.year.toNat ++ '-' :: (fixedDigits 2 date.month ++ '-' ::
        (fixedDigits 2 date.dayOfMonth ++ 'T' :: (fixedDigits 2 clock.hour ++ ':' ::
          (fixedDigits 2 clock.minute ++ ':' ::
            (fixedDigits 2 (if clock.isLeap then clock.second + 1 else clock.second) ++
              ((writtenFraction (if clock.isLeap then clock.nano - nanosPerSecond
                else clock.nano)).toList ++ ['Z'])))))) := by
  simp [Instant.written, WallTime.written, Date.written, Clock.written, writtenYear, inYears,
    String.toList_append]

/-- The parts of a clock reading that are written have as many digits as they are given. -/
theorem clock_bounds (clock : Clock) : clock.hour < 10 ^ 2 ∧ clock.minute < 10 ^ 2 ∧
    (if clock.isLeap then clock.second + 1 else clock.second) < 10 ^ 2 ∧
    (if clock.isLeap then clock.nano - nanosPerSecond else clock.nano) < nanosPerSecond := by
  have bound := clock.second_lt
  have nanoBound := clock.nano_lt
  have secondBound : clock.second < 60 := Nat.mod_lt _ (by decide)
  have minuteBound : clock.minute < 60 := Nat.mod_lt _ (by decide)
  have hourBound : clock.hour < 24 := by
    unfold Clock.hour secondsPerDay at *
    omega
  by_cases leap : nanosPerSecond ≤ clock.nano
  · have isLeap : clock.isLeap = true := decide_eq_true leap
    simp only [isLeap, if_true]
    omega
  · have isLeap : clock.isLeap = false := decide_eq_false leap
    simp only [isLeap, Bool.false_eq_true, if_false]
    omega

/-- The written form of an instant is read back as what a wall in universal time shows. -/
theorem reader_written {instant : Instant} (regular : instant.Regular)
    (inYears : 0 ≤ instant.toWallTime.date.year ∧ instant.toWallTime.date.year ≤ 9999) :
    reader instant.written.toList = .ok ((instant.toWallTime, 0), []) := by
  have isDate := instant.toWallTime.date.ofYearMonthDay?_self
  obtain ⟨isMonth, isDay, -⟩ := instant.toWallTime.date.month_bounds
  have dayBound := instant.toWallTime.date.dayOfMonth_le
  have year : (instant.toWallTime.date.year.toNat : Int) = instant.toWallTime.date.year := by omega
  have isClock := clock?_written regular.clock
  obtain ⟨hour, minute, second, nano⟩ := clock_bounds instant.toWallTime.clock
  rw [toList_written inYears, reader, bind_of_ok (digits_fixedDigits (by omega)),
    bind_of_ok (oneOf_cons (by decide)), bind_of_ok (digits_fixedDigits (by omega)),
    bind_of_ok (oneOf_cons (by decide)), bind_of_ok (digits_fixedDigits (by omega))]
  simp only [year, isDate]
  rw [bind_of_ok (oneOf_cons (by decide)), bind_of_ok (digits_fixedDigits hour),
    bind_of_ok (oneOf_cons (by decide)), bind_of_ok (digits_fixedDigits minute),
    bind_of_ok (oneOf_cons (by decide)), bind_of_ok (digits_fixedDigits second),
    bind_of_ok (fraction_written nano)]
  simp only [isClock]
  rfl

/-- The written form of an instant is read back as the instant. -/
theorem instant_written {instant : Instant} (regular : instant.Regular)
    (inYears : 0 ≤ instant.toWallTime.date.year ∧ instant.toWallTime.date.year ≤ 9999) :
    Rfc3339.instant instant.written = .ok instant := by
  have long : ¬instant.written.utf8ByteSize < 19 := by
    have characters := length_le_utf8ByteSize instant.written.toList
    rw [String.ofList_toList, toList_written inYears] at characters
    simp only [List.length_append, List.length_cons, fixedDigits_length] at characters
    omega
  have placed : instant.toWallTime.atOffset? 0 = some instant := by
    rw [WallTime.atOffset?_zero, Instant.atUtc_toWallTime]
  have isRead : Rfc3339.read instant.written = .ok (instant.toWallTime, 0) := by
    simp only [Rfc3339.read, long, if_false, reader_written regular inYears]
    exact if_pos (by decide)
  simp only [Rfc3339.instant, isRead, bind, Except.bind, placed]

end Rfc3339

/-! ## Leap seconds in the middle of a minute -/

namespace Instant

variable {instant : Instant}

/-- The regular instant with the written form of an instant: a leap second in the middle of a minute
is taken for the second after the one it follows. -/
def settled (instant : Instant) : Instant :=
  if regular : instant.Regular then instant
  else
    { seconds := instant.seconds + 1
      nano := instant.nano - nanosPerSecond
      inRange := by
        have bounds := instant.inRange
        unfold Regular at regular
        unfold firstSecond lastSecond firstDay lastDay at *
        omega
      nano_lt := by
        have bound := instant.nano_lt
        omega }

theorem settled_of_regular (regular : instant.Regular) : instant.settled = instant :=
  dif_pos regular

theorem regular_settled (instant : Instant) : instant.settled.Regular := by
  by_cases regular : instant.Regular
  · rwa [settled_of_regular regular]
  · have bound := instant.nano_lt
    have ordinary : instant.nano - nanosPerSecond < nanosPerSecond := by omega
    rw [settled, dif_neg regular]
    exact .inl ordinary

theorem settled_eq_self_iff : instant.settled = instant ↔ instant.Regular :=
  ⟨fun same => same ▸ instant.regular_settled, settled_of_regular⟩

/-- Settling an instant keeps its minute. -/
theorem toWallTime_settled (irregular : ¬instant.Regular) :
    instant.settled.toWallTime.date = instant.toWallTime.date ∧
      instant.settled.toWallTime.clock.secondOfDay = instant.toWallTime.clock.secondOfDay + 1 ∧
      instant.toWallTime.clock.second < 59 := by
  have inside : instant.seconds % 60 ≠ 59 := (not_or.1 irregular).2
  rw [settled, dif_neg irregular]
  refine ⟨Date.ext ?_, ?_, ?_⟩ <;> simp only [toWallTime, Clock.second] <;> omega

theorem written_settled (instant : Instant) : instant.settled.written = instant.written := by
  by_cases regular : instant.Regular
  · rw [settled_of_regular regular]
  · obtain ⟨sameDate, later, inside⟩ := toWallTime_settled regular
    have leap : instant.toWallTime.clock.isLeap = true :=
      decide_eq_true (Nat.not_lt.1 (not_or.1 regular).1)
    have ordinary : instant.settled.toWallTime.clock.isLeap = false := by
      have bound := instant.nano_lt
      have below : instant.nano - nanosPerSecond < nanosPerSecond := by omega
      rw [settled, dif_neg regular]
      exact decide_eq_false (Nat.not_le.2 below)
    have nano : instant.settled.toWallTime.clock.nano =
        instant.toWallTime.clock.nano - nanosPerSecond := by
      rw [settled, dif_neg regular]
      rfl
    have parts : instant.settled.toWallTime.clock.hour = instant.toWallTime.clock.hour ∧
        instant.settled.toWallTime.clock.minute = instant.toWallTime.clock.minute ∧
        instant.settled.toWallTime.clock.second = instant.toWallTime.clock.second + 1 := by
      unfold Clock.second at inside
      unfold Clock.hour Clock.minute Clock.second
      rw [later]
      omega
    obtain ⟨hour, minute, second⟩ := parts
    simp only [written, WallTime.written, Clock.written, sameDate, leap, ordinary, hour, minute,
      second, nano, if_true, Bool.false_eq_true, if_false]

end Instant

end Intake
