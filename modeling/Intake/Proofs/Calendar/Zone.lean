import Intake.Calendar.Zone
import Intake.Proofs.Calendar.Date
import Mathlib.Logic.Basic

/-!
# Which instant a wall time is read as

At each instant the walls of a zone show a wall time. A wall time that is read should be shown at
the instant that it is read as, and not before. `Zone.readsFirst_iff` says that this holds, and that
a wall time is left unread only where no wall ever shows it, with two exceptions in zones of hosts,
whose clocks are put forward and back: the second at which they are put forward, which is read
although it is skipped, and the time that they show twice, of which the second time is taken. That
is so for every rule by which they are put forward and back.
-/

namespace Intake

/-! ## Years -/

/-- The years of dates are supported as a whole. -/
theorem Date.year_bounds (date : Date) :
    firstDay ≤ yearStart date.year ∧ yearStart (date.year + 1) ≤ lastDay + 1 := by
  have within : yearStart date.year ≤ date.day ∧ date.day < yearStart (date.year + 1) :=
    yearStart_le_day date.day
  have inRange := date.inRange
  have first : yearStart (-262143) = firstDay := by decide
  have last : yearStart 262143 = lastDay + 1 := by decide
  constructor
  · by_cases order : -262143 ≤ date.year
    · exact first ▸ yearStart_le order
    · have := yearStart_le (show date.year + 1 ≤ -262143 by omega)
      omega
  · by_cases order : date.year + 1 ≤ 262143
    · exact last ▸ yearStart_le order
    · have := yearStart_le (show 262143 ≤ date.year by omega)
      omega

/-! ## Daylight time -/

namespace DaylightRule

/-- Daylight time is in force at a number of seconds from 1970: it has begun in this year of
universal time, and has not ended. -/
def IsDaylight (rule : DaylightRule) (seconds : Int) : Prop :=
  rule.begins.secondsIn (Date.yearOfDay (seconds / 86400)) - rule.standard ≤ seconds ∧
    seconds < rule.ends.secondsIn (Date.yearOfDay (seconds / 86400)) - rule.daylight

instance (rule : DaylightRule) : DecidablePred rule.IsDaylight :=
  fun _ => inferInstanceAs (Decidable (_ ∧ _))

/-- How many seconds walls run ahead of universal time at a number of seconds from 1970. -/
def offsetAt (rule : DaylightRule) (seconds : Int) : Int :=
  if rule.IsDaylight seconds then rule.daylight else rule.standard

/-- Whether daylight time is in force can be told in the year that walls show, which need not be
the year of universal time. -/
theorem isDaylight_iff (rule : DaylightRule) (year : Int) {seconds : Int}
    (low : yearStart year * 86400 - 86400 ≤ seconds)
    (high : seconds < yearStart (year + 1) * 86400 + 86400) :
    rule.IsDaylight seconds ↔
      rule.begins.secondsIn year - rule.standard ≤ seconds ∧
        seconds < rule.ends.secondsIn year - rule.daylight := by
  unfold IsDaylight
  have within := Date.yearStart_le_day (seconds / 86400)
  generalize Date.yearOfDay (seconds / 86400) = shown at within ⊢
  have standard_gt := rule.standard_gt
  have daylight_lt := rule.daylight_lt
  have ahead := rule.ahead
  rcases Int.lt_trichotomy shown year with before | rfl | after
  · have order := yearStart_le (show shown + 1 ≤ year by omega)
    have := rule.begins_ge year
    have := rule.ends_le shown
    omega
  · exact Iff.rfl
  · have order := yearStart_le (show year + 1 ≤ shown by omega)
    have := rule.begins_ge shown
    have := rule.ends_le year
    omega

/-- When walls show a wall time: on the standard clock before daylight time begins and from the
moment that it is put back, and on the daylight clock from the moment that it is put forward until
it ends. -/
theorem shows_iff (rule : DaylightRule) (wall : WallTime) (seconds : Int) :
    wall.seconds = seconds + rule.offsetAt seconds ↔
      (wall.seconds = seconds + rule.standard ∧
        (wall.seconds < rule.begins.secondsIn wall.date.year ∨
          rule.ends.secondsIn wall.date.year - (rule.daylight - rule.standard) ≤ wall.seconds)) ∨
      (wall.seconds = seconds + rule.daylight ∧
        rule.begins.secondsIn wall.date.year + (rule.daylight - rule.standard) ≤ wall.seconds ∧
        wall.seconds < rule.ends.secondsIn wall.date.year) := by
  have within : yearStart wall.date.year ≤ wall.date.day ∧
      wall.date.day < yearStart (wall.date.year + 1) := Date.yearStart_le_day wall.date.day
  have day := wall.seconds_div
  have ahead := rule.ahead
  have standard_gt := rule.standard_gt
  have daylight_lt := rule.daylight_lt
  by_cases near : wall.seconds - 86400 ≤ seconds ∧ seconds ≤ wall.seconds + 86400
  · unfold offsetAt
    rw [if_congr (rule.isDaylight_iff wall.date.year (by omega) (by omega)) rfl rfl]
    split <;> omega
  · -- Walls never run a day ahead or behind.
    unfold offsetAt
    split <;> omega

/-- The wall time is the second at which the clocks are put forward. -/
def PutForward (rule : DaylightRule) (wall : WallTime) : Prop :=
  wall.seconds = rule.begins.secondsIn wall.date.year

/-- The clocks show the wall time twice: before they are put back, and after it. -/
def Repeats (rule : DaylightRule) (wall : WallTime) : Prop :=
  rule.ends.secondsIn wall.date.year - (rule.daylight - rule.standard) ≤ wall.seconds ∧
    wall.seconds < rule.ends.secondsIn wall.date.year

/-- The wall time is skipped when daylight time begins. -/
def Skips (rule : DaylightRule) (wall : WallTime) : Prop :=
  rule.begins.secondsIn wall.date.year < wall.seconds ∧
    wall.seconds < rule.begins.secondsIn wall.date.year + (rule.daylight - rule.standard)

/-- A wall time that is not skipped is one of standard or of daylight time. -/
theorem offsetFor?_cases (rule : DaylightRule) (wall : WallTime) :
    rule.offsetFor? wall = none ∧ rule.Skips wall ∨
      ∃ offset, rule.offsetFor? wall = some offset ∧ ¬rule.Skips wall ∧
        (offset = rule.standard ∨ offset = rule.daylight) := by
  unfold offsetFor? Skips
  dsimp only
  split
  · rename_i before
    exact .inr ⟨_, rfl, fun skipped => absurd before (Int.not_le.2 skipped.1), .inl rfl⟩
  · rename_i after
    split
    · rename_i inside
      exact .inl ⟨rfl, Int.not_le.1 after, inside⟩
    · rename_i outside
      split
      · exact .inr ⟨_, rfl, fun skipped => outside skipped.2, .inr rfl⟩
      · exact .inr ⟨_, rfl, fun skipped => outside skipped.2, .inl rfl⟩

end DaylightRule

/-! ## What walls show -/

namespace Zone

/-- How many seconds walls of the zone run ahead of universal time at an instant. -/
def offsetAt : Zone → Instant → Int
  | utc, _ => 0
  | host rule, instant => rule.offsetAt instant.seconds
  | fixed offset, _ => offset.seconds

/-- What walls of the zone show at an instant, where there is a date for it: what walls in universal
time show as many seconds later as the zone is ahead. -/
def wallAt? (zone : Zone) (instant : Instant) : Option WallTime :=
  (Instant.ofSeconds? (instant.seconds + zone.offsetAt instant) instant.nano).map (·.toWallTime)

variable {zone : Zone} {instant : Instant} {wall : WallTime}

theorem wallAt?_eq_some_iff : zone.wallAt? instant = some wall ↔
    wall.seconds = instant.seconds + zone.offsetAt instant ∧ wall.clock.nano = instant.nano := by
  rw [wallAt?, Option.map_eq_some_iff]
  constructor
  · rintro ⟨shown, made, rfl⟩
    simp only [Instant.ofSeconds?, Option.dite_none_right_eq_some, Option.some.injEq] at made
    obtain ⟨-, rfl⟩ := made
    exact ⟨congrArg Instant.seconds (Instant.atUtc_toWallTime _), rfl⟩
  · rintro ⟨seconds, nano⟩
    refine ⟨wall.atUtc, ?_, wall.toWallTime_atUtc⟩
    rw [← seconds, ← nano, Instant.ofSeconds?, dif_pos ⟨wall.atUtc.inRange, wall.atUtc.nano_lt⟩]
    rfl

end Zone

theorem WallTime.atOffset?_eq_some_iff {wall : WallTime} {offset : Int} {instant : Instant} :
    wall.atOffset? offset = some instant ↔
      wall.seconds = instant.seconds + offset ∧ wall.clock.nano = instant.nano := by
  unfold atOffset? Instant.ofSeconds?
  rw [Option.dite_none_right_eq_some]
  constructor
  · rintro ⟨_, same⟩
    cases same
    exact ⟨(Int.sub_add_cancel ..).symm, rfl⟩
  · rintro ⟨seconds, nano⟩
    have isSeconds : wall.seconds - offset = instant.seconds := by omega
    refine ⟨⟨isSeconds ▸ instant.inRange, nano ▸ instant.nano_lt⟩, ?_⟩
    exact congrArg some (Instant.ext isSeconds nano)

/-- A wall that runs with universal time shows every wall time. -/
theorem WallTime.atOffset?_zero (wall : WallTime) : wall.atOffset? 0 = some wall.atUtc :=
  atOffset?_eq_some_iff.2 ⟨(Int.add_zero _).symm, rfl⟩

/-- A wall shows a wall time at some instant where the instant is supported. -/
theorem WallTime.isSome_atOffset?_iff {wall : WallTime} {offset : Int} :
    (wall.atOffset? offset).isSome = true ↔
      firstSecond ≤ wall.seconds - offset ∧ wall.seconds - offset ≤ lastSecond := by
  have nano := wall.clock.nano_lt
  unfold atOffset? Instant.ofSeconds?
  split
  · rename_i bounds
    exact iff_of_true rfl bounds.1
  · rename_i outside
    exact iff_of_false Bool.false_ne_true fun bounds => outside ⟨bounds, nano⟩

/-! ## The first instant that shows a wall time -/

/-- The instant comes before another. -/
def Instant.Before (instant other : Instant) : Prop :=
  instant.seconds < other.seconds ∨ instant.seconds = other.seconds ∧ instant.nano < other.nano

namespace Zone

variable {zone : Zone} {instant : Instant} {wall : WallTime}

/-- The zone reads a wall time as the first instant at which its walls show it, and leaves unread
only what its walls never show. -/
def ReadsFirst (zone : Zone) (wall : WallTime) : Prop :=
  (∀ instant, zone.localize? wall = some instant → zone.wallAt? instant = some wall ∧
    ∀ earlier : Instant, earlier.Before instant → zone.wallAt? earlier ≠ some wall) ∧
  (zone.localize? wall = none → ∀ instant, zone.wallAt? instant ≠ some wall)

/-- Where walls show a wall time at no more than one number of seconds, it suffices that it is read
with the offset that it is shown with. -/
theorem readsFirst_of_unique (offset : Int) (reads : zone.localize? wall = wall.atOffset? offset)
    (shows_iff : ∀ instant : Instant, wall.seconds = instant.seconds + zone.offsetAt instant ↔
      wall.seconds = instant.seconds + offset) : zone.ReadsFirst wall := by
  have same (instant : Instant) :
      zone.wallAt? instant = some wall ↔ zone.localize? wall = some instant := by
    rw [wallAt?_eq_some_iff, reads, WallTime.atOffset?_eq_some_iff, shows_iff]
  refine ⟨fun instant read => ⟨(same instant).2 read, fun earlier before shown => ?_⟩,
    fun unread instant shown => ?_⟩
  · obtain rfl := Option.some.inj (read.symm.trans ((same earlier).1 shown))
    rcases before with less | ⟨-, less⟩
    · exact Int.lt_irrefl _ less
    · exact Nat.lt_irrefl _ less
  · exact Option.some_ne_none _ (((same instant).1 shown).symm.trans unread)

theorem readsFirst_utc (wall : WallTime) : utc.ReadsFirst wall :=
  readsFirst_of_unique 0 wall.atOffset?_zero.symm fun _ => Iff.rfl

theorem readsFirst_fixed (offset : UtcOffset) (wall : WallTime) : (fixed offset).ReadsFirst wall :=
  readsFirst_of_unique _ rfl fun _ => Iff.rfl

section

variable {rule : DaylightRule}

/-- Between the moments at which daylight time begins and ends, every offset is one of a wall that
shows a wall time at some instant. -/
theorem exists_atOffset?_of_between
    (begun : rule.begins.secondsIn wall.date.year ≤ wall.seconds)
    (notEnded : wall.seconds < rule.ends.secondsIn wall.date.year) (offset : Int)
    (small : -172800 ≤ offset ∧ offset ≤ 172800) :
    ∃ instant, wall.atOffset? offset = some instant := by
  obtain ⟨firstYear, lastYear⟩ := wall.date.year_bounds
  have begins := rule.begins_ge wall.date.year
  have ends := rule.ends_le wall.date.year
  refine Option.isSome_iff_exists.1 (WallTime.isSome_atOffset?_iff.2 ?_)
  unfold firstSecond lastSecond
  omega

/-- The second at which the clocks are put forward is read as the instant of that second, at which
they show the later time that they are put to. -/
theorem localize?_of_putForward (forward : rule.PutForward wall) :
    ∃ instant shown, (host rule).localize? wall = some instant ∧
      (host rule).wallAt? instant = some shown ∧
      shown.seconds = wall.seconds + (rule.daylight - rule.standard) := by
  have begins := rule.begins_ge wall.date.year
  have lasts := rule.lasts wall.date.year
  have ends := rule.ends_le wall.date.year
  have ahead := rule.ahead
  have standard_gt := rule.standard_gt
  have daylight_lt := rule.daylight_lt
  unfold DaylightRule.PutForward at forward
  have begun := Int.le_of_eq forward.symm
  obtain ⟨instant, made⟩ := exists_atOffset?_of_between begun (by omega) rule.standard (by omega)
  obtain ⟨later, madeLater⟩ := exists_atOffset?_of_between begun (by omega)
    (-(rule.daylight - rule.standard)) (by omega)
  obtain ⟨seconds, nano⟩ := WallTime.atOffset?_eq_some_iff.1 made
  obtain ⟨secondsLater, nanoLater⟩ := WallTime.atOffset?_eq_some_iff.1 madeLater
  have isSeconds : later.toWallTime.seconds = later.seconds :=
    congrArg Instant.seconds (Instant.atUtc_toWallTime later)
  refine ⟨instant, later.toWallTime, ?_, ?_, by omega⟩
  · rw [← made, localize?, DaylightRule.offsetFor?]
    exact congrArg (Option.bind · wall.atOffset?) (if_pos (Int.le_of_eq forward))
  · have daylight : rule.offsetAt instant.seconds = rule.daylight :=
      if_pos ((rule.isDaylight_iff wall.date.year (by omega) (by omega)).2 ⟨by omega, by omega⟩)
    refine wallAt?_eq_some_iff.2 ⟨?_, nanoLater.symm.trans nano⟩
    rw [offsetAt, daylight]
    omega

/-- A wall time that the clocks show twice is read as the second instant. -/
theorem localize?_of_repeats (repeats : rule.Repeats wall) :
    ∃ early late : Instant, (host rule).localize? wall = some late ∧
      (host rule).wallAt? early = some wall ∧ (host rule).wallAt? late = some wall ∧
      late.seconds = early.seconds + (rule.daylight - rule.standard) := by
  have lasts := rule.lasts wall.date.year
  have ahead := rule.ahead
  have standard_gt := rule.standard_gt
  have daylight_lt := rule.daylight_lt
  obtain ⟨again, notEnded⟩ := repeats
  obtain ⟨late, madeLate⟩ := exists_atOffset?_of_between (by omega) notEnded rule.standard
    (by omega)
  obtain ⟨early, madeEarly⟩ := exists_atOffset?_of_between (by omega) notEnded rule.daylight
    (by omega)
  obtain ⟨secondsLate, nanoLate⟩ := WallTime.atOffset?_eq_some_iff.1 madeLate
  obtain ⟨secondsEarly, nanoEarly⟩ := WallTime.atOffset?_eq_some_iff.1 madeEarly
  refine ⟨early, late, ?_, wallAt?_eq_some_iff.2 ⟨(rule.shows_iff ..).2 ?_, nanoEarly⟩,
    wallAt?_eq_some_iff.2 ⟨(rule.shows_iff ..).2 ?_, nanoLate⟩, by omega⟩
  · rw [← madeLate, localize?, DaylightRule.offsetFor?, if_neg (by omega), if_neg (by omega),
      if_neg (by omega)]
    rfl
  · exact .inr ⟨secondsEarly, by omega, notEnded⟩
  · exact .inl ⟨secondsLate, .inr again⟩

/-- All other wall times are read as the only instant at which the clocks show them, or not at all
where there is none. -/
theorem readsFirst_of_ordinary (notForward : ¬rule.PutForward wall)
    (notRepeated : ¬rule.Repeats wall) : (host rule).ReadsFirst wall := by
  have lasts := rule.lasts wall.date.year
  have ahead := rule.ahead
  have shows_iff (instant : Instant) := rule.shows_iff wall instant.seconds
  have reads : (host rule).localize? wall = (rule.offsetFor? wall).bind wall.atOffset? := rfl
  unfold DaylightRule.offsetFor? at reads
  unfold DaylightRule.PutForward at notForward
  unfold DaylightRule.Repeats at notRepeated
  dsimp only at reads
  split at reads
  · exact readsFirst_of_unique _ reads fun instant => (shows_iff instant).trans (by omega)
  · split at reads
    · -- The clocks skip the wall time.
      refine ⟨fun instant read => absurd (reads.symm.trans read) (Option.some_ne_none instant).symm,
        fun _ instant shown => ?_⟩
      have shown := (shows_iff instant).1 (wallAt?_eq_some_iff.1 shown).1
      omega
    · split at reads
      · exact readsFirst_of_unique _ reads fun instant => (shows_iff instant).trans (by omega)
      · exact readsFirst_of_unique _ reads fun instant => (shows_iff instant).trans (by omega)

end

/-- A zone reads a wall time as the first instant at which its walls show it, and leaves unread only
what they never show, with two exceptions in the zone of a host.

The second at which the clocks are put forward is read, although no instant shows it: as the instant
at which they show the time that they are put to. A wall time that the clocks show twice is read as
the second of the two instants at which they show it. -/
theorem readsFirst_iff (zone : Zone) (wall : WallTime) :
    (zone.ReadsFirst wall ↔
      ∀ rule, zone = host rule → ¬rule.PutForward wall ∧ ¬rule.Repeats wall) ∧
    ∀ rule : DaylightRule,
      (rule.PutForward wall → ∃ instant shown, (host rule).localize? wall = some instant ∧
        (host rule).wallAt? instant = some shown ∧
        shown.seconds = wall.seconds + (rule.daylight - rule.standard)) ∧
      (rule.Repeats wall → ∃ early late : Instant, (host rule).localize? wall = some late ∧
        (host rule).wallAt? early = some wall ∧ (host rule).wallAt? late = some wall ∧
        late.seconds = early.seconds + (rule.daylight - rule.standard)) := by
  refine ⟨?_, fun rule => ⟨localize?_of_putForward, localize?_of_repeats⟩⟩
  cases zone with
  | utc => exact iff_of_true (readsFirst_utc wall) fun _ same => by cases same
  | fixed offset => exact iff_of_true (readsFirst_fixed offset wall) fun _ same => by cases same
  | host rule =>
    have ahead := rule.ahead
    constructor
    · rintro first _ ⟨⟩
      refine ⟨fun forward => ?_, fun repeats => ?_⟩
      · obtain ⟨instant, shown, read, shows, more⟩ := localize?_of_putForward forward
        obtain rfl : wall = shown := Option.some.inj ((first.1 instant read).1.symm.trans shows)
        omega
      · obtain ⟨early, late, read, shows, -, later⟩ := localize?_of_repeats repeats
        exact (first.1 late read).2 early (.inl (by omega)) shows
    · intro ordinary
      exact readsFirst_of_ordinary (ordinary rule rfl).1 (ordinary rule rfl).2

/-- Half past one in the night in which eastern clocks are put back is read as the instant at which
they show it again, an hour late. Two in the night in which they are put forward is read as an
instant at which they show three. -/
theorem half_past_one_read_late :
    let eastern := host .eastern
    (∃ late early : Instant,
      eastern.localize? ⟨⟨18938, by decide⟩, { secondOfDay := 5400, nano := 0 }⟩ = some late ∧
      early.Before late ∧
      eastern.wallAt? early = some ⟨⟨18938, by decide⟩, { secondOfDay := 5400, nano := 0 }⟩) ∧
    ∃ instant,
      eastern.localize? ⟨⟨18700, by decide⟩, { secondOfDay := 7200, nano := 0 }⟩ = some instant ∧
      eastern.wallAt? instant =
        some ⟨⟨18700, by decide⟩, { secondOfDay := 10800, nano := 0 }⟩ := by
  refine ⟨⟨{ seconds := 1636266600, nano := 0 }, { seconds := 1636263000, nano := 0 }, ?_, ?_, ?_⟩,
    { seconds := 1615705200, nano := 0 }, ?_, ?_⟩
  · decide +kernel
  · exact .inl (by decide)
  · decide +kernel
  · decide +kernel
  · decide +kernel

end Zone

end Intake
