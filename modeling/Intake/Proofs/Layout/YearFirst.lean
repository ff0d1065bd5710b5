import Intake.Proofs.Layout.Faithful
import Intake.Proofs.Layout.Memory
import Intake.Proofs.Record.Inference
import Intake.Proofs.Schema.Detection

/-!
# Dates that start with the year

Whether `01/02/2021` starts with the day or the month depends on who writes it, and the default
layouts are meant to leave such forms out. They do not leave out the forms that start with the year,
and a year need not have four digits: `01/02/21` is read as a date of the year 1.

`LayoutReader.defaults_numeric` says exactly which texts the default layouts read among those that
start with a number of one or two digits, a slash or a dash, and another digit. They are the ones
that are `YearFirst`: three numbers with the same mark between them name a date, the year first, and
nothing follows, or a time of day with or without an offset. All others remain texts.
-/

namespace Intake

/-! ## Texts -/

/-- The text starts with a year, a month and a day as numbers, with the same mark between them. The
month and the day may follow blanks. What a number takes is said by `Scanner.number_eq_some_iff`:
digits, as many as it may. -/
inductive StartsWithDate (mark : Char) (text : List Char) (date : Date) (rest : List Char) : Prop
  | intro {year month day : Nat} {afterYear afterMonth : List Char}
      (isYear : Scanner.number 1 (some 4) text = some (year, mark :: afterYear))
      (isMonth : Scanner.number 1 (some 2) (trimStart afterYear) = some (month, mark :: afterMonth))
      (isDay : Scanner.number 1 (some 2) (trimStart afterMonth) = some (day, rest))
      (isDate : Date.ofYearMonthDay? year month day = some date)

/-- The text starts with a point and a fraction of a second, or with something else. -/
inductive StartsWithFraction (text : List Char) : Option Nat → List Char → Prop
  | point {inner rest : List Char} {nano : Nat} (isText : text = '.' :: inner)
      (isNano : Scanner.fraction inner = some (nano, rest)) :
      StartsWithFraction text (some nano) rest
  | nothing (noPoint : text.head? ≠ some '.') : StartsWithFraction text none text

/-- The text starts with an hour, a minute and a second with colons between them, and with a
fraction of the second where there is one. -/
inductive StartsWithClock (text : List Char) (clock : Clock) (rest : List Char) : Prop
  | intro {hour minute second : Nat} {nano : Option Nat}
      {afterHour afterMinute afterSecond : List Char}
      (isHour : Scanner.number 1 (some 2) (trimStart text) = some (hour, ':' :: afterHour))
      (isMinute : Scanner.number 1 (some 2) (trimStart afterHour) =
        some (minute, ':' :: afterMinute))
      (isSecond : Scanner.number 1 (some 2) (trimStart afterMinute) = some (second, afterSecond))
      (isFraction : StartsWithFraction afterSecond nano rest)
      (isClock : Rfc3339.clock? hour minute second (nano.getD 0) = some clock)

/-! ## Steps -/

namespace Item

open Pattern

variable {fields result : Fields} {text rest : List Char} {items : List Item}

/-- A step for a number without a sign of which nothing was read before. -/
theorem scanAll_fresh_eq_some {kind : Numeric} {most : Nat} (component : Component)
    (unsigned : kind.scan (trimStart text) = (Scanner.number 1 (some most) (trimStart text)).map
      fun (value, rest) => ((value : Int), rest))
    (records : ∀ value, kind.record? fields value = fields.record? component value)
    (fresh : fields.read component = none) :
    scanAll (numeric kind :: items) fields text = some (result, rest) ↔
      ∃ value after, Scanner.number 1 (some most) (trimStart text) = some (value, after) ∧
        (component.range.1 ≤ value ∧ value ≤ component.range.2) ∧
        scanAll items (fields.note component value) after = some (result, rest) := by
  simp only [scanAll_number_eq_some unsigned, records, Fields.record?_iff_note fresh]
  constructor
  · rintro ⟨value, after, _, taken, ⟨inRange, rfl⟩, readItems⟩
    exact ⟨value, after, taken, inRange, readItems⟩
  · rintro ⟨value, after, taken, inRange, readItems⟩
    exact ⟨value, after, _, taken, ⟨inRange, rfl⟩, readItems⟩

/-- The steps for such a number and the mark after it. -/
theorem scanAll_fresh_then_eq_some {kind : Numeric} {most : Nat} {mark : Char}
    (component : Component)
    (unsigned : kind.scan (trimStart text) = (Scanner.number 1 (some most) (trimStart text)).map
      fun (value, rest) => ((value : Int), rest))
    (records : ∀ value, kind.record? fields value = fields.record? component value)
    (fresh : fields.read component = none) :
    scanAll (numeric kind :: literal mark :: items) fields text = some (result, rest) ↔
      ∃ value after, Scanner.number 1 (some most) (trimStart text) = some (value, mark :: after) ∧
        (component.range.1 ≤ value ∧ value ≤ component.range.2) ∧
        scanAll items (fields.note component value) after = some (result, rest) := by
  simp only [scanAll_number_then_eq_some unsigned, records, Fields.record?_iff_note fresh]
  constructor
  · rintro ⟨value, after, _, taken, ⟨inRange, rfl⟩, readItems⟩
    exact ⟨value, after, taken, inRange, readItems⟩
  · rintro ⟨value, after, taken, inRange, readItems⟩
    exact ⟨value, after, _, taken, ⟨inRange, rfl⟩, readItems⟩

/-- The steps for an hour and the colon after it. -/
theorem scanAll_hour_eq_some (freshHalf : fields.read .halfOfDay = none)
    (freshHour : fields.read .hourOfHalf = none) :
    scanAll (numeric .hour :: literal ':' :: items) fields text = some (result, rest) ↔
      ∃ hour after, Scanner.number 1 (some 2) (trimStart text) = some (hour, ':' :: after) ∧
        hour ≤ 23 ∧ scanAll items (fields.noteHour hour) after = some (result, rest) := by
  have unsigned : Numeric.hour.scan (trimStart text) =
      (Scanner.number 1 (some 2) (trimStart text)).map
        fun (value, rest) => ((value : Int), rest) := rfl
  simp only [scanAll_number_then_eq_some unsigned, Numeric.record?,
    Fields.recordHour?_iff_note freshHalf freshHour]
  constructor
  · rintro ⟨hour, after, _, taken, ⟨inRange, rfl⟩, readItems⟩
    exact ⟨hour, after, taken, inRange, readItems⟩
  · rintro ⟨hour, after, taken, inRange, readItems⟩
    exact ⟨hour, after, _, taken, ⟨inRange, rfl⟩, readItems⟩

/-- Year, month and day with a mark between them. -/
def yearFirst (mark : Char) : List Item :=
  [numeric .year, literal mark, numeric .month, literal mark, numeric .day]

/-- After a date, the steps take a whole text and come to a conclusion where the text goes on in a
given way. -/
def GoesOn (items : List Item) (concludes : Fields → Prop) (tail : Date → List Char → Prop) :
    Prop :=
  ∀ year month day text,
    (∃ result, scanAll items (Fields.ofDate year month day) text = some (result, []) ∧
      concludes result) ↔
    ∃ date, Date.ofYearMonthDay? year month day = some date ∧ tail date text

/-- What steps that start with the year make of a text that starts with a digit. -/
theorem GoesOn.exists_scanAll_iff {concludes : Fields → Prop} {tail : Date → List Char → Prop}
    (goesOn : GoesOn items concludes tail) {mark c : Char} (digit : isDigit c = true) :
    (∃ result, scanAll (yearFirst mark ++ items) .empty (c :: text) = some (result, []) ∧
      concludes result) ↔
    ∃ date after, StartsWithDate mark (c :: text) date after ∧ tail date after := by
  have trimmed : trimStart (c :: text) = c :: text :=
    trimStart_cons_of_not_blank (isBlank_of_isDigit digit)
  have unsigned : Numeric.year.scan (trimStart (c :: text)) =
      (Scanner.number 1 (some 4) (trimStart (c :: text))).map
        fun (value, rest) => ((value : Int), rest) := by
    rw [trimmed]
    exact Rfc3339.scan_of_isDigit rfl digit
  constructor
  · rintro ⟨result, scanned, concluded⟩
    obtain ⟨year, afterYear, isYear, -, scanned⟩ :=
      (scanAll_fresh_then_eq_some .year unsigned (fun _ => rfl) rfl).1 scanned
    obtain ⟨month, afterMonth, isMonth, -, scanned⟩ :=
      (scanAll_fresh_then_eq_some .month rfl (fun _ => rfl) (by rfl)).1 scanned
    obtain ⟨day, after, isDay, -, scanned⟩ :=
      (scanAll_fresh_eq_some .day rfl (fun _ => rfl) (by rfl)).1 scanned
    obtain ⟨date, isDate, isTail⟩ := (goesOn year month day after).1 ⟨result, scanned, concluded⟩
    exact ⟨date, after, .intro (trimmed ▸ isYear) isMonth isDay isDate, isTail⟩
  · rintro ⟨date, after, ⟨isYear, isMonth, isDay, isDate⟩, isTail⟩
    obtain ⟨result, scanned, concluded⟩ := (goesOn _ _ _ after).2 ⟨date, isDate, isTail⟩
    obtain ⟨monthRange, dayRange, -⟩ := Date.parts_of_ofYearMonthDay? isDate
    have yearRange := Scanner.number_lt isYear
    -- A year of four digits at most and the parts of a date are in the ranges of their components.
    refine ⟨result, (scanAll_fresh_then_eq_some .year unsigned (fun _ => rfl) rfl).2
      ⟨_, _, trimmed.symm ▸ isYear, ?_, (scanAll_fresh_then_eq_some .month rfl (fun _ => rfl) rfl).2
        ⟨_, _, isMonth, ?_, (scanAll_fresh_eq_some .day rfl (fun _ => rfl) rfl).2
          ⟨_, _, isDay, ?_, scanned⟩⟩⟩, concluded⟩ <;>
    · simp only [Component.range]
      omega

/-- The steps from a fraction on. -/
theorem scanAll_fraction_eq_some (fresh : fields.read .nano = none) :
    scanAll (fraction :: items) fields text = some (result, rest) ↔
      ∃ nano after, StartsWithFraction text nano after ∧
        scanAll items (fields.noteFraction nano) after = some (result, rest) := by
  rw [scanAll_cons_eq_some]
  constructor
  · rintro ⟨middle, after, scanned, readItems⟩
    rcases scan_fraction_eq_some.1 scanned with
      ⟨inner, nano, isText, isNano, noted⟩ | ⟨noPoint, rfl, rfl⟩
    · obtain rfl := Fields.eq_note fresh noted
      exact ⟨some nano, after, .point isText isNano, readItems⟩
    · exact ⟨none, _, .nothing noPoint, readItems⟩
  · rintro ⟨nano, after, ⟨isText, isNano⟩ | noPoint, readItems⟩
    · have small := Scanner.fraction_lt isNano
      unfold nanosPerSecond at small
      exact ⟨_, after, scan_fraction_eq_some.2 (.inl ⟨_, _, isText, isNano,
        (Fields.record?_iff_note fresh).2 ⟨by simp only [Component.range]; omega, rfl⟩⟩), readItems⟩
    · exact ⟨fields, text, scan_fraction_eq_some.2 (.inr ⟨noPoint, rfl, rfl⟩), readItems⟩

/-- Where the steps after a clock reading make something of a text. -/
theorem exists_scanAll_clock_iff
    (fresh : ∀ component ∈ clockComponents, fields.read component = none)
    {concludes : Fields → Prop} (tail : Clock → List Char → Prop)
    (tail_iff : ∀ hour minute second nano after,
      (∃ result, scanAll items (fields.noteClock hour minute second nano) after =
        some (result, []) ∧ concludes result) ↔
      ∃ clock, Rfc3339.clock? hour minute second (nano.getD 0) = some clock ∧ tail clock after) :
    (∃ result, scanAll (hourMinuteSecond ++ fraction :: items) fields text = some (result, []) ∧
      concludes result) ↔
    ∃ clock after, StartsWithClock text clock after ∧ tail clock after := by
  have freshHalf := fresh .halfOfDay (by decide)
  have freshHour := fresh .hourOfHalf (by decide)
  have freshMinute (hour : Nat) : (fields.noteHour hour).read .minute = none :=
    fresh .minute (by decide)
  have freshSecond (hour minute : Nat) :
      ((fields.noteHour hour).note .minute minute).read .second = none :=
    fresh .second (by decide)
  have freshNano (hour minute second : Nat) :
      (((fields.noteHour hour).note .minute minute).note .second second).read .nano = none :=
    fresh .nano (by decide)
  constructor
  · rintro ⟨result, scanned, concluded⟩
    obtain ⟨hour, afterHour, isHour, -, scanned⟩ :=
      (scanAll_hour_eq_some freshHalf freshHour).1 scanned
    obtain ⟨minute, afterMinute, isMinute, -, scanned⟩ :=
      (scanAll_fresh_then_eq_some .minute rfl (fun _ => rfl) (freshMinute hour)).1 scanned
    obtain ⟨second, afterSecond, isSecond, -, scanned⟩ :=
      (scanAll_fresh_eq_some .second rfl (fun _ => rfl) (freshSecond hour minute)).1 scanned
    obtain ⟨nano, after, isFraction, scanned⟩ :=
      (scanAll_fraction_eq_some (freshNano hour minute second)).1 scanned
    obtain ⟨clock, isClock, isTail⟩ :=
      (tail_iff hour minute second nano after).1 ⟨result, scanned, concluded⟩
    exact ⟨clock, after, .intro isHour isMinute isSecond isFraction isClock, isTail⟩
  · rintro ⟨clock, after, ⟨isHour, isMinute, isSecond, isFraction, isClock⟩, isTail⟩
    obtain ⟨result, scanned, concluded⟩ := (tail_iff _ _ _ _ after).2 ⟨clock, isClock, isTail⟩
    obtain ⟨hourRange, minuteRange, secondRange⟩ := Clock.bounds_of_clock? isClock
    refine ⟨result, (scanAll_hour_eq_some freshHalf freshHour).2 ⟨_, _, isHour, hourRange,
      (scanAll_fresh_then_eq_some .minute rfl (fun _ => rfl) (freshMinute _)).2 ⟨_, _, isMinute, ?_,
        (scanAll_fresh_eq_some .second rfl (fun _ => rfl) (freshSecond _ _)).2 ⟨_, _, isSecond, ?_,
          (scanAll_fraction_eq_some (freshNano _ _ _)).2 ⟨_, _, isFraction, scanned⟩⟩⟩⟩,
      concluded⟩ <;>
    · simp only [Component.range]
      omega

variable {zone : Zone} {instant : Instant}

/-- A date that nothing follows stands for its midnight. -/
theorem goesOn_midnight : GoesOn [] (Layout.Outcome.midnight.conclude? zone · = some instant)
    fun date text => text = [] ∧
      zone.localize? { date, clock := Clock.midnight } = some instant := by
  intro year month day text
  simp only [scanAll_nil_eq_some, Layout.Outcome.conclude?, Option.bind_eq_some_iff]
  constructor
  · rintro ⟨_, ⟨rfl, rfl⟩, date, isDate, placed⟩
    exact ⟨date, Fields.toDate_ofDate_eq_ok.1 (Layout.eq_ok_of_toOption isDate), rfl, placed⟩
  · rintro ⟨date, isDate, rfl, placed⟩
    exact ⟨_, ⟨rfl, rfl⟩, date, by rw [Fields.toDate_ofDate_eq_ok.2 isDate]; rfl, placed⟩

theorem fresh_ofDate {year month day : Nat} : ∀ component ∈ clockComponents,
    (Fields.ofDate year month day).read component = none := by
  simp [clockComponents, Fields.ofDate, Fields.read_note, Fields.empty]

/-- A clock reading after a date. -/
theorem goesOn_wall : GoesOn (hourMinuteSecond ++ [fraction])
    (Layout.Outcome.wallTime.conclude? zone · = some instant)
    fun date text => ∃ clock, StartsWithClock text clock [] ∧
      zone.localize? { date, clock } = some instant := by
  intro year month day text
  refine (exists_scanAll_clock_iff fresh_ofDate (fun clock after => after = [] ∧
    ∃ date, Date.ofYearMonthDay? year month day = some date ∧
      zone.localize? { date, clock } = some instant)
    fun hour minute second nano after => ?_).trans ?_
  · simp only [scanAll_nil_eq_some, Layout.Outcome.conclude?, Option.bind_eq_some_iff]
    constructor
    · rintro ⟨_, ⟨rfl, rfl⟩, wall, isWall, placed⟩
      obtain ⟨isDate, isClock⟩ := Fields.toWallTime?_noteClock.1 isWall
      exact ⟨wall.clock, isClock, rfl, wall.date, isDate, placed⟩
    · rintro ⟨clock, isClock, rfl, date, isDate, placed⟩
      exact ⟨_, ⟨rfl, rfl⟩, { date, clock },
        Fields.toWallTime?_noteClock.2 ⟨isDate, isClock⟩, placed⟩
  · constructor
    · rintro ⟨clock, _, isClock, rfl, date, isDate, placed⟩
      exact ⟨date, isDate, clock, isClock, placed⟩
    · rintro ⟨date, isDate, clock, isClock, placed⟩
      exact ⟨clock, [], isClock, rfl, date, isDate, placed⟩

/-- A clock reading and an offset after a date. -/
theorem goesOn_instant : GoesOn (hourMinuteSecond ++ [fraction, offset])
    (Layout.Outcome.instant.conclude? zone · = some instant)
    fun date text => ∃ clock after, StartsWithClock text clock after ∧ ∃ ahead : UtcOffset,
      Scanner.offset offsetForm (trimStart after) = some (ahead.seconds, []) ∧
        WallTime.atOffset? { date, clock } ahead.seconds = some instant := by
  intro year month day text
  refine (exists_scanAll_clock_iff fresh_ofDate (fun clock after => ∃ ahead : UtcOffset,
    Scanner.offset offsetForm (trimStart after) = some (ahead.seconds, []) ∧
    ∃ date, Date.ofYearMonthDay? year month day = some date ∧
      WallTime.atOffset? { date, clock } ahead.seconds = some instant)
    fun hour minute second nano after => ?_).trans ?_
  · simp only [scanAll_cons_eq_some, scanAll_nil_eq_some, scan_offset_eq_some,
      Layout.Outcome.conclude?]
    have fresh : ((Fields.ofDate year month day).noteClock hour minute second nano).read .offset =
        none := Fields.read_noteClock (by decide)
    constructor
    · rintro ⟨_, ⟨_, _, ⟨seconds, isOffset, noted⟩, rfl, rfl⟩, made⟩
      obtain rfl := Fields.eq_note fresh noted
      obtain ⟨wall, ⟨isDate, isClock⟩, small, placed⟩ := Fields.toInstant?_note_offset.1 made
      exact ⟨wall.clock, isClock, ⟨seconds, small⟩, isOffset, wall.date, isDate, placed⟩
    · rintro ⟨clock, isClock, ahead, isOffset, date, isDate, placed⟩
      have small := ahead.inRange
      have noted : Fields.record? _ .offset ahead.seconds = some _ :=
        (Fields.record?_iff_note fresh).2 ⟨by simp only [Component.range]; omega, rfl⟩
      exact ⟨_, ⟨_, _, ⟨ahead.seconds, isOffset, noted⟩, rfl, rfl⟩,
        Fields.toInstant?_note_offset.2 ⟨{ date, clock }, ⟨isDate, isClock⟩, small, placed⟩⟩
  · constructor
    · rintro ⟨clock, after, isClock, ahead, isOffset, date, isDate, placed⟩
      exact ⟨date, isDate, clock, after, isClock, ahead, isOffset, placed⟩
    · rintro ⟨date, isDate, clock, after, isClock, ahead, isOffset, placed⟩
      exact ⟨clock, after, isClock, ahead, isOffset, date, isDate, placed⟩

/-- A letter after a date, before what goes on. -/
theorem GoesOn.literal {concludes : Fields → Prop} {tail : Date → List Char → Prop}
    (goesOn : GoesOn items concludes tail) (c : Char) :
    GoesOn (.literal c :: items) concludes
      fun date text => ∃ after, text = c :: after ∧ tail date after := by
  intro year month day text
  simp only [scanAll_literal_eq_some]
  constructor
  · rintro ⟨result, ⟨after, isText, scanned⟩, concluded⟩
    obtain ⟨date, isDate, isTail⟩ := (goesOn year month day after).1 ⟨result, scanned, concluded⟩
    exact ⟨date, isDate, after, isText, isTail⟩
  · rintro ⟨date, isDate, after, isText, isTail⟩
    obtain ⟨result, scanned, concluded⟩ := (goesOn year month day after).2 ⟨date, isDate, isTail⟩
    exact ⟨result, ⟨after, isText, scanned⟩, concluded⟩

end Item

/-! ## Texts that start with the year -/

/-- The text says a moment with the year first: a date alone, which stands for its midnight, or a
date and a time of day, which may have an offset. The time of day may follow the letter `T` and have
an offset only where dashes mark the date. -/
inductive YearFirst (text : List Char) : Moment → Prop
  | midnight {mark : Char} {date : Date} (isMark : mark = '-' ∨ mark = '/')
      (isDate : StartsWithDate mark text date []) :
      YearFirst text (.wall { date, clock := Clock.midnight })
  | wall {mark : Char} {date : Date} {clock : Clock} {time : List Char}
      (isMark : mark = '-' ∨ mark = '/') (isDate : StartsWithDate mark text date time)
      (isClock : StartsWithClock time clock []) :
      YearFirst text (.wall { date, clock })
  | letterWall {date : Date} {clock : Clock} {time : List Char}
      (isDate : StartsWithDate '-' text date ('T' :: time))
      (isClock : StartsWithClock time clock []) :
      YearFirst text (.wall { date, clock })
  | instant {date : Date} {clock : Clock} {time after : List Char} {ahead : UtcOffset}
      {instant : Instant} (isDate : StartsWithDate '-' text date time)
      (isClock : StartsWithClock time clock after)
      (isOffset : Scanner.offset Item.offsetForm (trimStart after) = some (ahead.seconds, []))
      (isInstant : WallTime.atOffset? { date, clock } ahead.seconds = some instant) :
      YearFirst text (.instant instant)
  | letterInstant {date : Date} {clock : Clock} {time after : List Char} {ahead : UtcOffset}
      {instant : Instant} (isDate : StartsWithDate '-' text date ('T' :: time))
      (isClock : StartsWithClock time clock after)
      (isOffset : Scanner.offset Item.offsetForm (trimStart after) = some (ahead.seconds, []))
      (isInstant : WallTime.atOffset? { date, clock } ahead.seconds = some instant) :
      YearFirst text (.instant instant)

/-- A text that starts with a number of one or two digits, a slash or a dash, and another digit. -/
def NumericStart (text : List Char) : Prop :=
  ∃ digits mark next rest, text = digits ++ mark :: next :: rest ∧
    (∀ c ∈ digits, isDigit c = true) ∧ (1 ≤ digits.length ∧ digits.length ≤ 2) ∧
    (mark = '-' ∨ mark = '/') ∧ isDigit next = true

namespace NumericStart

variable {text : List Char} {zone : Zone} {instant : Instant}

theorem exists_first_digit (numeric : NumericStart text) :
    ∃ c others, text = c :: others ∧ isDigit c = true := by
  obtain ⟨digits, mark, next, rest, rfl, all, ⟨long, -⟩, -⟩ := numeric
  cases digits with
  | nil => exact absurd long (by decide)
  | cons c others => exact ⟨c, _, rfl, all c List.mem_cons_self⟩

/-- The number at the start is followed by a mark and a digit. -/
theorem exists_number (numeric : NumericStart text) : ∃ value mark next rest,
    Scanner.number 1 (some 2) (trimStart text) = some (value, mark :: next :: rest) ∧
      (mark = '-' ∨ mark = '/') ∧ isDigit next = true := by
  obtain ⟨c, others, isText, digit⟩ := numeric.exists_first_digit
  rw [isText, trimStart_cons_of_not_blank (isBlank_of_isDigit digit), ← isText]
  obtain ⟨digits, mark, next, rest, rfl, all, ⟨long, short⟩, isMark, isNext⟩ := numeric
  have stop : isDigit mark = false := by rcases isMark with rfl | rfl <;> decide
  have small : digitsValue digits 0 < 0x8000000000000000 :=
    Nat.lt_trans (digitsValue_lt_pow all short) (by decide)
  exact ⟨digitsValue digits 0, mark, next, rest, Scanner.number_eq_some_iff.2 ⟨digits, rfl, all,
    long, short, .inr (by simpa using stop), rfl, small⟩, isMark, isNext⟩

/-- Neither of the standard forms starts with a short number and a mark. -/
theorem not_standard (numeric : NumericStart text) {value : String} (isText : value.toList = text)
    {standard : Layout} (isStandard : standard = .rfc3339 ∨ standard = .rfc2822) :
    standard.read? zone value ≠ some instant := by
  subst isText
  intro read
  obtain ⟨number, mark, next, rest, isNumber, isMark, -⟩ := numeric.exists_number
  rcases isStandard with rfl | rfl
  · obtain ⟨wall, seconds, ⟨parts⟩, -⟩ := Layout.exists_parts_of_rfc3339 read
    have digit := parts.isDigit_after_day isNumber
    rcases isMark with rfl | rfl <;> exact absurd digit (by decide)
  · obtain ⟨fields, _, read⟩ := Layout.exists_reader_of_rfc2822 read
    -- A mail date starts with a letter, or with a day that a blank follows.
    rcases Rfc2822.start_of_reader read with
      ⟨c, others, isText, letter⟩ | ⟨day, blank, others, isDay, isBlank⟩
    · have front := Item.front_of_number (by decide) isNumber
      rw [isText] at front
      exact absurd ((Item.Front.ofChar_of_isLetter letter).symm.trans front) (by decide)
    · cases isNumber.symm.trans isDay
      rcases isMark with rfl | rfl <;> exact absurd isBlank (by decide)

open Item Pattern

/-- A digit follows the mark, so no pattern with the name of a month reads the text. -/
theorem not_month (numeric : NumericStart text) {items : List Item} {fields result : Fields}
    {mark : Char} :
    scanAll (.numeric .day :: .literal mark :: .month false :: items) fields text ≠
      some (result, []) := by
  intro scanned
  obtain ⟨number, _, next, rest, isNumber, -, digit⟩ := numeric.exists_number
  obtain ⟨day, after, _, isDay, -, scanned⟩ := (scanAll_number_then_eq_some rfl).1 scanned
  cases isNumber.symm.trans isDay
  obtain ⟨_, _, scanned, -⟩ := scanAll_cons_eq_some.1 scanned
  obtain ⟨_, named, -⟩ := scan_month_eq_some.1 scanned
  obtain ⟨c, others, same, letter⟩ := exists_letter_of_shortName monthNames_lettered named
  cases same
  exact absurd digit (by rw [(isLetter_apart letter).1]; decide)

end NumericStart

namespace Layout

open Item Pattern

variable {zone : Zone} {value : String} {text : List Char} {instant : Instant}

/-- A form takes a whole text and makes an instant of it. -/
def FormReads (zone : Zone) (text : List Char) (instant : Instant) (form : Outcome × List Item) :
    Prop :=
  ∃ result, scanAll form.2 .empty text = some (result, []) ∧
    form.1.conclude? zone result = some instant

theorem exists_default_of_form : ∀ form ∈ defaultForms, ∃ layout ∈ defaults,
    layout.form? = some form := by
  decide +kernel

/-- A default layout reads a value as an instant where a standard form or a pattern does. -/
theorem exists_default_reads_iff :
    (∃ layout ∈ defaults, layout.read? zone value = some instant) ↔
      (∃ standard, (standard = rfc3339 ∨ standard = rfc2822) ∧
        standard.read? zone value = some instant) ∨
      ∃ form ∈ defaultForms, FormReads zone value.toList instant form := by
  constructor
  · rintro ⟨layout, inside, read⟩
    rcases form?_of_mem_defaults layout inside with isStandard | isStandard | ⟨form, held, isForm⟩
    · exact .inl ⟨layout, .inl isStandard, read⟩
    · exact .inl ⟨layout, .inr isStandard, read⟩
    · exact .inr ⟨form, held, (read?_eq_some_iff isForm).1 read⟩
  · rintro (⟨standard, rfl | rfl, read⟩ | ⟨form, held, reads⟩)
    · exact ⟨rfc3339, standards_mem_defaults.1, read⟩
    · exact ⟨rfc2822, standards_mem_defaults.2, read⟩
    · obtain ⟨layout, inside, isForm⟩ := exists_default_of_form form held
      exact ⟨layout, inside, (read?_eq_some_iff isForm).2 reads⟩

/-- What the patterns read among the texts that start with a short number. -/
theorem exists_form_reads_iff (numeric : NumericStart text) :
    (∃ form ∈ defaultForms, FormReads zone text instant form) ↔
      ∃ moment, YearFirst text moment ∧ moment.inZone? zone = some instant := by
  obtain ⟨c, others, rfl, digit⟩ := numeric.exists_first_digit
  constructor
  · rintro ⟨form, inside, reads⟩
    simp only [defaultForms, List.mem_cons, List.not_mem_nil, or_false] at inside
    rcases inside with rfl | rfl | rfl | rfl | rfl | rfl | rfl | rfl | rfl
    · obtain ⟨date, _, isDate, time, rfl, clock, after, isClock, ahead, isOffset, placed⟩ :=
        ((goesOn_instant.literal 'T').exists_scanAll_iff digit).1 reads
      exact ⟨_, .letterInstant isDate isClock isOffset placed, rfl⟩
    · obtain ⟨date, time, isDate, clock, after, isClock, ahead, isOffset, placed⟩ :=
        (goesOn_instant.exists_scanAll_iff digit).1 reads
      exact ⟨_, .instant isDate isClock isOffset placed, rfl⟩
    · obtain ⟨date, _, isDate, time, rfl, clock, isClock, placed⟩ :=
        ((goesOn_wall.literal 'T').exists_scanAll_iff digit).1 reads
      exact ⟨_, .letterWall isDate isClock, placed⟩
    · obtain ⟨date, time, isDate, clock, isClock, placed⟩ :=
        (goesOn_wall.exists_scanAll_iff digit).1 reads
      exact ⟨_, .wall (.inl rfl) isDate isClock, placed⟩
    · obtain ⟨date, time, isDate, clock, isClock, placed⟩ :=
        (goesOn_wall.exists_scanAll_iff digit).1 reads
      exact ⟨_, .wall (.inr rfl) isDate isClock, placed⟩
    · -- The name of a month would stand where the text has a digit.
      obtain ⟨_, scanned, -⟩ := reads
      exact absurd scanned numeric.not_month
    · obtain ⟨date, _, isDate, rfl, placed⟩ :=
        (goesOn_midnight.exists_scanAll_iff digit).1 reads
      exact ⟨_, .midnight (.inl rfl) isDate, placed⟩
    · obtain ⟨date, _, isDate, rfl, placed⟩ :=
        (goesOn_midnight.exists_scanAll_iff digit).1 reads
      exact ⟨_, .midnight (.inr rfl) isDate, placed⟩
    · obtain ⟨_, scanned, -⟩ := reads
      exact absurd scanned numeric.not_month
  · -- Each kind of moment has a form for each mark that it allows.
    rintro ⟨moment, said, placed⟩
    cases said with
    | midnight isMark isDate =>
      have reads := (goesOn_midnight.exists_scanAll_iff digit).2 ⟨_, _, isDate, rfl, placed⟩
      rcases isMark with rfl | rfl
      · exact ⟨(.midnight, yearFirst '-'), by decide, reads⟩
      · exact ⟨(.midnight, yearFirst '/'), by decide, reads⟩
    | wall isMark isDate isClock =>
      have reads := (goesOn_wall.exists_scanAll_iff digit).2 ⟨_, _, isDate, _, isClock, placed⟩
      rcases isMark with rfl | rfl
      · exact ⟨(.wallTime, yearFirst '-' ++ (hourMinuteSecond ++ [fraction])), by decide, reads⟩
      · exact ⟨(.wallTime, yearFirst '/' ++ (hourMinuteSecond ++ [fraction])), by decide, reads⟩
    | letterWall isDate isClock =>
      exact ⟨(.wallTime, yearFirst '-' ++ literal 'T' :: (hourMinuteSecond ++ [fraction])),
        by decide, ((goesOn_wall.literal 'T').exists_scanAll_iff digit).2
          ⟨_, _, isDate, _, rfl, _, isClock, placed⟩⟩
    | instant isDate isClock isOffset isInstant =>
      cases placed
      exact ⟨(.instant, yearFirst '-' ++ (hourMinuteSecond ++ [fraction, offset])), by decide,
        (goesOn_instant.exists_scanAll_iff digit).2
          ⟨_, _, isDate, _, _, isClock, _, isOffset, isInstant⟩⟩
    | letterInstant isDate isClock isOffset isInstant =>
      cases placed
      exact ⟨(.instant, yearFirst '-' ++ literal 'T' :: (hourMinuteSecond ++ [fraction, offset])),
        by decide, ((goesOn_instant.literal 'T').exists_scanAll_iff digit).2
          ⟨_, _, isDate, _, rfl, _, _, isClock, _, isOffset, isInstant⟩⟩

/-- What the default layouts read among the values that start with a short number. -/
theorem exists_default_reads_numeric_iff (numeric : NumericStart value.toList) :
    (∃ layout ∈ defaults, layout.read? zone value = some instant) ↔
      ∃ moment, YearFirst value.toList moment ∧ moment.inZone? zone = some instant := by
  rw [exists_default_reads_iff, ← exists_form_reads_iff numeric]
  refine or_iff_right ?_
  rintro ⟨standard, isStandard, read⟩
  exact numeric.not_standard rfl isStandard read

end Layout

namespace LayoutReader

variable {zone : Zone} {value : String}

/-- The default layouts read a value as the only instant that any of them makes of it. -/
theorem map_fst_read?_defaults {instant : Instant} (given : value ≠ "") :
    (({ layouts := Layout.defaults, zone } : LayoutReader).read? value).map Prod.fst =
        some instant ↔
      ∃ layout ∈ Layout.defaults, layout.read? zone value = some instant := by
  rw [map_fst_read?, Option.map_eq_some_iff]
  constructor
  · rintro ⟨⟨_, index⟩, scanned, rfl⟩
    obtain ⟨-, layout, held, read⟩ := scan_eq_some scanned
    exact ⟨layout, List.mem_of_getElem? held, read⟩
  · rintro ⟨layout, inside, read⟩
    have recognised : ({ layouts := Layout.defaults, zone } : LayoutReader).recognises value =
        true := recognises_iff.2 ⟨given, layout, inside, by rw [read]; rfl⟩
    obtain ⟨⟨first, index⟩, scanned⟩ := Option.isSome_iff_exists.1 recognised
    obtain ⟨-, other, held, readFirst⟩ := scan_eq_some scanned
    exact ⟨_, scanned,
      Layout.agree_of_mem_defaults (List.mem_of_getElem? held) inside readFirst read⟩

/-- A text that is not recognised gives a date-time field the default, and nothing is remembered. -/
theorem getDateTime_default_iff (reader : LayoutReader) (given : value ≠ "") :
    (∀ (context : ReadContext) (record : Record) (key : String) (nullable : Bool)
      (cache : LayoutCache), context.reader = reader → record.find? key = some (.string value) →
      record.getDateTime context key nullable cache =
        (Record.orDefault nullable context.epoch none, cache)) ↔
    reader.recognises value = false := by
  constructor
  · intro unread
    have none_read := unread { reader } (Record.single "" (.string value)) "" true .empty rfl
      (Record.find?_single ..)
    rw [Record.getDateTime_text (Record.find?_single ..) given] at none_read
    rw [← isSome_readField_eq reader .empty "" value, none_read]
    rfl
  · rintro unread context record key nullable cache rfl held
    have answered : (context.reader.readField cache key value).1 = none := by
      rw [← Option.isSome_eq_false_iff.trans Option.isNone_iff_eq_none, isSome_readField_eq, unread]
    rw [Record.getDateTime_of_find? held, Json.toInstant?_string given, answered,
      readField_snd_of_none answered]

/-- What the default layouts make of a value that starts with a number of one or two digits, a slash
or a dash, and another digit.

They read it as the moment that it says with the year first. Exactly where it says none that occurs
in the zone, it is not recognised, it is inferred to be a text, and every date-time field that has
it gets the default, with nothing remembered. -/
theorem defaults_numeric (zone : Zone) (value : String) (numeric : NumericStart value.toList) :
    let reader : LayoutReader := { layouts := Layout.defaults, zone }
    let unread : Prop := ∀ moment, YearFirst value.toList moment → ¬moment.OccursIn zone
    (∀ instant, (reader.read? value).map Prod.fst = some instant ↔
      ∃ moment, YearFirst value.toList moment ∧ moment.inZone? zone = some instant) ∧
    (reader.recognises value = false ↔ unread) ∧
    ((Json.string value).detectType reader = .scalar .string ↔ unread) ∧
    ((∀ (context : ReadContext) (record : Record) (key : String) (nullable : Bool)
      (cache : LayoutCache), context.reader = reader → record.find? key = some (.string value) →
      record.getDateTime context key nullable cache =
        (Record.orDefault nullable context.epoch none, cache)) ↔ unread) := by
  intro reader unread
  have given : value ≠ "" := by
    rintro rfl
    obtain ⟨c, others, isText, -⟩ := numeric.exists_first_digit
    cases isText
  have reads (instant : Instant) : (reader.read? value).map Prod.fst = some instant ↔
      ∃ moment, YearFirst value.toList moment ∧ moment.inZone? zone = some instant :=
    (map_fst_read?_defaults given).trans (Layout.exists_default_reads_numeric_iff numeric)
  have recognised : reader.recognises value = true ↔
      ∃ moment, YearFirst value.toList moment ∧ moment.OccursIn zone := by
    rw [recognises, ← Option.isSome_map, ← map_fst_read?, Option.isSome_iff_exists]
    simp only [reads, ← Moment.isSome_inZone?_iff, Option.isSome_iff_exists]
    constructor
    · rintro ⟨instant, moment, said, placed⟩
      exact ⟨moment, said, instant, placed⟩
    · rintro ⟨moment, said, instant, placed⟩
      exact ⟨instant, moment, said, placed⟩
  have notRecognised : reader.recognises value = false ↔ unread := by
    rw [← Bool.not_eq_true, recognised]
    simp only [not_exists, not_and, unread]
  refine ⟨reads, notRecognised, ?_, (getDateTime_default_iff reader given).trans notRecognised⟩
  rw [← notRecognised]
  cases held : reader.recognises value <;> simp [Json.detectType, held]

/-- A date whose year comes last is no date to the default layouts. -/
theorem year_last_unread : NumericStart "01/02/2021".toList ∧
    ∀ moment, ¬YearFirst "01/02/2021".toList moment := by
  have numeric : NumericStart "01/02/2021".toList :=
    ⟨['0', '1'], '/', '0', "2/2021".toList, by decide +kernel, by simp [isDigit], by decide,
      .inr rfl, rfl⟩
  have unread := (defaults_numeric .utc "01/02/2021" numeric).2.1.1 (by decide +kernel)
  exact ⟨numeric, fun moment said => unread moment said moment.occursIn_utc⟩

/-- Where the year at the end is short, the text is read as a date of the first century. -/
theorem short_year_read : NumericStart "01/02/21".toList ∧
    (Json.string "01/02/21").detectType {} = .scalar .dateTime ∧
    ((Record.single "day" (.string "01/02/21")).getDateTime {} "day" true .empty).1.map
      Instant.written = some "0001-02-21T00:00:00Z" := by
  refine ⟨⟨['0', '1'], '/', '0', "2/21".toList, by decide +kernel, by simp [isDigit], by decide,
    .inr rfl, rfl⟩, ?_, ?_⟩
  · decide +kernel
  · decide +kernel

end LayoutReader

end Intake
