import Intake.Proofs.Calendar.Date
import Intake.Proofs.Layout.Footprint

/-!
# Wall times against what was read

A wall time that is made of components shows each of them, whichever way it is made: from a date
and a clock reading, from both checked against a count of seconds, or from the count where they are
incomplete. `Fields.accounts_of_toWallTime?` is the main statement. Components that were read must
be in range for it, as they are after steps of a pattern.
-/

namespace Intake

/-- The components that a clock reading determines. -/
def clockComponents : List Component := [.halfOfDay, .hourOfHalf, .minute, .second, .nano]

theorem Component.mem_dateComponents {component : Component}
    (notClock : component ∉ clockComponents) (notCount : component ≠ .timestamp)
    (notOffset : component ≠ .offset) : component ∈ dateComponents := by
  cases component <;> simp [dateComponents, clockComponents] at *

/-- The value that a clock reading gives to a component. A leap second is second 60 after second 59,
and after no other second is there one. -/
def Clock.component? (clock : Clock) : Component → Option Int
  | .halfOfDay => some (clock.hour / 12 : Nat)
  | .hourOfHalf => some (clock.hour % 12 : Nat)
  | .minute => some clock.minute
  | .second =>
    if clock.isLeap then if clock.second = 59 then some 60 else none else some clock.second
  | .nano => some (clock.nano % nanosPerSecond : Nat)
  | _ => none

/-- The value that a wall time gives to a component of its date or of its clock reading. -/
def WallTime.component? (wall : WallTime) (component : Component) : Option Int :=
  if component ∈ clockComponents then wall.clock.component? component
  else wall.date.component? component

/-- A clock reading gives midnight's values where it is midnight. -/
theorem Clock.component?_midnight :
    ∀ component ∈ clockComponents, Clock.midnight.component? component = some 0 := by
  decide

/-- A second is below 60, or it is a leap second after second 59. -/
theorem Clock.component?_second {clock : Clock} {value : Int} :
    clock.component? .second = some value ↔
      clock.nano < nanosPerSecond ∧ value = clock.second ∨
      nanosPerSecond ≤ clock.nano ∧ clock.second = 59 ∧ value = 60 := by
  by_cases leap : nanosPerSecond ≤ clock.nano
  · by_cases last : clock.second = 59 <;>
      simp [component?, isLeap, leap, last, Nat.not_lt.2 leap, eq_comm]
  · simp [component?, isLeap, leap, Nat.lt_of_not_le leap, eq_comm]

/-- Clock readings that give the same values are the same. -/
theorem Clock.eq_of_component? {left right : Clock}
    (same : ∀ component ∈ clockComponents, ∃ value, left.component? component = some value ∧
      right.component? component = some value) : left = right := by
  obtain ⟨half, leftHalf, rightHalf⟩ := same .halfOfDay (by decide)
  obtain ⟨hour, leftHour, rightHour⟩ := same .hourOfHalf (by decide)
  obtain ⟨minute, leftMinute, rightMinute⟩ := same .minute (by decide)
  obtain ⟨second, leftSecond, rightSecond⟩ := same .second (by decide)
  obtain ⟨nano, leftNano, rightNano⟩ := same .nano (by decide)
  rw [component?_second] at leftSecond rightSecond
  have leftBound := left.nano_lt
  have rightBound := right.nano_lt
  cases left
  cases right
  simp only [component?, Clock.hour, Clock.minute, Clock.second, Option.some.injEq, nanosPerSecond,
    Clock.mk.injEq] at *
  omega

/-- A clock reading shows the parts that it is made of. -/
theorem Clock.parts_of_ofParts? {hour minute second nano : Nat} {clock : Clock}
    (made : Clock.ofParts? hour minute second nano = some clock) :
    clock.hour = hour ∧ clock.minute = minute ∧ clock.second = second ∧ clock.nano = nano := by
  simp only [Clock.ofParts?, Option.dite_none_right_eq_some, Option.some.injEq] at made
  obtain ⟨bounds, rfl⟩ := made
  simp only [Clock.hour, Clock.minute, Clock.second, and_true]
  omega

theorem Instant.seconds_of_ofSeconds? {seconds : Int} {nano : Nat} {instant : Instant}
    (made : Instant.ofSeconds? seconds nano = some instant) :
    instant.seconds = seconds ∧ instant.nano = nano := by
  simp only [Instant.ofSeconds?, Option.dite_none_right_eq_some, Option.some.injEq] at made
  obtain ⟨-, rfl⟩ := made
  exact ⟨rfl, rfl⟩

namespace Fields

variable {fields : Fields}

/-- What the time of day is made of. -/
theorem exists_of_toClock {clock : Clock} (isClock : fields.toClock = .ok clock) :
    ∃ half hour minute, fields.read .halfOfDay = some half ∧ fields.read .hourOfHalf = some hour ∧
      fields.read .minute = some minute ∧
      ∃ second nano,
        (if ((fields.read .second).getD 0).toNat = 60 then
          second = 59 ∧ nano = nanosPerSecond + ((fields.read .nano).getD 0).toNat
        else second = ((fields.read .second).getD 0).toNat ∧
          nano = ((fields.read .nano).getD 0).toNat) ∧
        Clock.ofParts? (half * 12 + hour).toNat minute.toNat second nano = some clock := by
  unfold toClock at isClock
  split at isClock
  · rename_i half hour minute isHalf isHour isMinute
    refine ⟨half, hour, minute, isHalf, isHour, isMinute, ?_⟩
    dsimp only at isClock
    split at isClock
    · cases isClock
    · split at isClock
      · rename_i made
        cases isClock
        split at made
        · rename_i leap
          exact ⟨_, _, by rw [if_pos leap]; exact ⟨rfl, rfl⟩, made⟩
        · rename_i whole
          exact ⟨_, _, by rw [if_neg whole]; exact ⟨rfl, rfl⟩, made⟩
      · cases isClock
  · cases isClock

theorem read_of_recordHour? {later : Fields} {hour : Int}
    (noted : fields.recordHour? hour = some later) :
    later.read .halfOfDay = some (hour / 12) ∧ later.read .hourOfHalf = some (hour % 12) := by
  simp only [recordHour?, Option.ite_none_right_eq_some] at noted
  obtain ⟨middle, half, ofHalf⟩ := Option.bind_eq_some_iff.1 noted.2
  exact ⟨(Gains.of_record? ofHalf).kept _ _ (read_of_record? half), read_of_record? ofHalf⟩

/-- The time of day that was read shows what was read, and zero for what was not. -/
theorem component?_of_toClock (inRange : fields.InRange) {clock : Clock}
    (isClock : fields.toClock = .ok clock) : ∀ component ∈ clockComponents,
      clock.component? component = some ((fields.read component).getD 0) := by
  obtain ⟨half, hour, minute, isHalf, isHour, isMinute, second, nano, rest, made⟩ :=
    exists_of_toClock isClock
  obtain ⟨hourIs, minuteIs, rfl, rfl⟩ := Clock.parts_of_ofParts? made
  have halfRange : 0 ≤ half ∧ half ≤ 1 := inRange _ _ isHalf
  have hourRange : 0 ≤ hour ∧ hour ≤ 11 := inRange _ _ isHour
  have minuteRange : 0 ≤ minute ∧ minute ≤ 59 := inRange _ _ isMinute
  have secondRange : 0 ≤ (fields.read .second).getD 0 ∧ (fields.read .second).getD 0 ≤ 60 := by
    cases second : fields.read .second with
    | none => decide
    | some value => exact inRange _ _ second
  have nanoRange : 0 ≤ (fields.read .nano).getD 0 ∧ (fields.read .nano).getD 0 ≤ 999999999 := by
    cases nano : fields.read .nano with
    | none => decide
    | some value => exact inRange _ _ nano
  have secondIs : clock.component? .second = some ((fields.read .second).getD 0) := by
    rw [Clock.component?_second]
    unfold nanosPerSecond at *
    split at rest <;> omega
  have nanoIs : ((clock.nano % nanosPerSecond : Nat) : Int) = (fields.read .nano).getD 0 := by
    unfold nanosPerSecond at *
    split at rest <;> omega
  intro component inside
  simp only [clockComponents, List.mem_cons, List.not_mem_nil, or_false] at inside
  rcases inside with rfl | rfl | rfl | rfl | rfl
  · simp only [Clock.component?, isHalf, Option.getD_some, Option.some.injEq]
    omega
  · simp only [Clock.component?, isHour, Option.getD_some, Option.some.injEq]
    omega
  · simp only [Clock.component?, isMinute, Option.getD_some, Option.some.injEq]
    omega
  · exact secondIs
  · exact congrArg some nanoIs

/-- The date that was read shows what was read. -/
theorem component?_of_toDate {date : Date} (isDate : fields.toDate = .ok date) :
    ∀ component ∈ dateComponents, ∀ value, fields.read component = some value →
      date.component? component = some value := by
  have agrees : fields.agreeWith date = true := by
    unfold toDate at isDate
    simp only [bind, Except.bind] at isDate
    split at isDate
    · cases isDate
    · split at isDate
      · split at isDate
        · cases isDate
          assumption
        · cases isDate
      · cases isDate
  intro component inside value held
  have agreesHere := List.all_eq_true.1 agrees component inside
  rw [held] at agreesHere
  exact (beq_iff_eq.1 agreesHere).symm

/-- A wall time of the date and the time of day that were read shows what was read. -/
theorem shown_of_parts (inRange : fields.InRange) {wall : WallTime}
    (isDate : fields.toDate = .ok wall.date) (isClock : fields.toClock = .ok wall.clock)
    {component : Component} {value : Int} (notCount : component ≠ .timestamp)
    (notOffset : component ≠ .offset) (held : fields.read component = some value) :
    wall.component? component = some value := by
  by_cases ofClock : component ∈ clockComponents
  · rw [WallTime.component?, if_pos ofClock, component?_of_toClock inRange isClock _ ofClock, held]
    rfl
  · rw [WallTime.component?, if_neg ofClock]
    exact component?_of_toDate isDate _
      (Component.mem_dateComponents ofClock notCount notOffset) _ held

/-- The wall time of what a wall shows, with what was read checked against it. A leap second that
was read stands for the second that the wall shows. -/
def settle? (fields : Fields) (shown : WallTime) : Option WallTime :=
  let noted? :=
    if fields.read .second = some 60 then some fields
    else fields.record? .second shown.clock.second
  noted?.bind fun fields => do
    let fields ← fields.record? .year shown.date.year
    let fields ← fields.record? .ordinal shown.date.ordinal
    let fields ← fields.recordHour? shown.clock.hour
    let fields ← fields.record? .minute shown.clock.minute
    match fields.toDate, fields.toClock with
    | .ok date, .ok clock => some { date := date, clock := clock }
    | _, _ => none

/-- What a wall time that is made from a count of seconds is made of: what a wall shows at the
count, or a second before it where a leap second was read. -/
theorem exists_of_ofTimestamp {count offset : Int} {wall : WallTime}
    (made : fields.ofTimestamp count offset = some wall) :
    ∃ base : Instant, fields.settle? base.toWallTime = some wall ∧
      (base.seconds = count + offset ∨
        fields.read .second = some 60 ∧ base.seconds = count + offset - 1) ∧
      (fields.read .second = some 60 → base.toWallTime.clock.second = 59) := by
  unfold ofTimestamp at made
  obtain ⟨-, -, made⟩ := Option.bind_eq_some_iff.1 made
  obtain ⟨total, isTotal, made⟩ := Option.bind_eq_some_iff.1 made
  obtain ⟨isTotal, -⟩ := Instant.seconds_of_ofSeconds? isTotal
  by_cases leap : fields.read .second = some 60
  · simp only [leap, beq_self_eq_true, if_true] at made
    split at made
    · rename_i last
      refine ⟨total, ?_, .inl isTotal, fun _ => last⟩
      rw [settle?, if_pos leap]
      exact made
    · rename_i notLast
      split at made
      · rename_i first
        obtain ⟨shown, isShown, made⟩ := Option.bind_eq_some_iff.1 made
        obtain ⟨before, isBefore, rfl⟩ := Option.map_eq_some_iff.1 isShown
        obtain ⟨isBefore, -⟩ := Instant.seconds_of_ofSeconds? isBefore
        refine ⟨before, ?_, .inr ⟨leap, isBefore⟩, fun _ => ?_⟩
        · rw [settle?, if_pos leap]
          exact made
        · simp only [Instant.toWallTime, Clock.second] at first ⊢
          omega
      · cases made
  · have whole : (fields.read .second == some 60) = false := by simpa using leap
    simp only [whole, Bool.false_eq_true, if_false] at made
    refine ⟨total, ?_, .inl isTotal, fun isLeap => absurd isLeap leap⟩
    rw [settle?, if_neg leap]
    exact made

/-- A wall time is settled by what was read and what a wall shows: both were taken note of together,
and the wall time is made of that. -/
structure Settled (fields later : Fields) (shown wall : WallTime) : Prop where
  kept : ∀ component value, fields.read component = some value → later.read component = some value
  inRange : fields.InRange → later.InRange
  year : later.read .year = some shown.date.year
  ordinal : later.read .ordinal = some (shown.date.ordinal : Int)
  halfOfDay : later.read .halfOfDay = some ((shown.clock.hour : Int) / 12)
  hourOfHalf : later.read .hourOfHalf = some ((shown.clock.hour : Int) % 12)
  minute : later.read .minute = some (shown.clock.minute : Int)
  second : fields.read .second = some 60 ∨ later.read .second = some (shown.clock.second : Int)
  isDate : later.toDate = .ok wall.date
  isClock : later.toClock = .ok wall.clock

theorem exists_settled {shown wall : WallTime} (settled : fields.settle? shown = some wall) :
    ∃ later, Settled fields later shown wall := by
  obtain ⟨noted, isNoted, settled⟩ := Option.bind_eq_some_iff.1 settled
  obtain ⟨withYear, isYear, settled⟩ := Option.bind_eq_some_iff.1 settled
  obtain ⟨withOrdinal, isOrdinal, settled⟩ := Option.bind_eq_some_iff.1 settled
  obtain ⟨withHour, isHour, settled⟩ := Option.bind_eq_some_iff.1 settled
  obtain ⟨later, isMinute, settled⟩ := Option.bind_eq_some_iff.1 settled
  have second : fields.Gains [.second] noted := by
    split at isNoted
    · cases isNoted
      exact .refl
    · exact .of_record? isNoted
  have fromHour := Gains.of_record? isMinute
  have fromOrdinal := (Gains.of_recordHour? isHour).trans fromHour
  have fromYear := (Gains.of_record? isOrdinal).trans fromOrdinal
  have fromSecond := (Gains.of_record? isYear).trans fromYear
  have gains := second.trans fromSecond
  obtain ⟨half, hour⟩ := read_of_recordHour? isHour
  split at settled
  · rename_i isDate isClock
    cases settled
    refine ⟨later, gains.kept, gains.inRange, fromYear.kept _ _ (read_of_record? isYear),
      fromOrdinal.kept _ _ (read_of_record? isOrdinal), fromHour.kept _ _ half,
      fromHour.kept _ _ hour, read_of_record? isMinute, ?_, isDate, isClock⟩
    split at isNoted
    · rename_i leap
      exact .inl leap
    · exact .inr (fromSecond.kept _ _ (read_of_record? isNoted))
  · cases settled

namespace Settled

variable {later : Fields} {shown wall : WallTime} (settled : Settled fields later shown wall)
include settled

/-- The wall time that is settled has the date that the wall shows. -/
theorem sameDate : wall.date = shown.date := by
  have year := component?_of_toDate settled.isDate .year (by decide) _ settled.year
  have ordinal := component?_of_toDate settled.isDate .ordinal (by decide) _ settled.ordinal
  exact Date.eq_of_ordinal (Option.some.inj year) (Int.ofNat.inj (Option.some.inj ordinal))

/-- The wall time that is settled has the second of the minute that the wall shows, and lies in the
leap second after it where one was read. -/
theorem sameSecond (inRange : fields.InRange)
    (last : fields.read .second = some 60 → shown.clock.second = 59) :
    wall.clock.second = shown.clock.second ∧
      (fields.read .second = some 60 → wall.clock.isLeap = true) := by
  have bound : shown.clock.second < 60 := Nat.mod_lt _ (by decide)
  have ownBound : wall.clock.second < 60 := Nat.mod_lt _ (by decide)
  have second := Clock.component?_second.1
    (component?_of_toClock (settled.inRange inRange) settled.isClock .second (by decide))
  by_cases leap : fields.read .second = some 60
  · rw [settled.kept _ _ leap, Option.getD_some] at second
    have isLast := last leap
    exact ⟨by omega, fun _ => decide_eq_true (by omega)⟩
  · rw [settled.second.resolve_left leap, Option.getD_some] at second
    exact ⟨by omega, fun isLeap => absurd isLeap leap⟩

/-- The wall time that is settled has the second of the day that the wall shows. -/
theorem sameSecondOfDay (inRange : fields.InRange)
    (sameSecond : wall.clock.second = shown.clock.second) :
    wall.clock.secondOfDay = shown.clock.secondOfDay := by
  have shows := component?_of_toClock (settled.inRange inRange) settled.isClock
  have sameHalf := shows .halfOfDay (by decide)
  have sameHour := shows .hourOfHalf (by decide)
  have sameMinute := shows .minute (by decide)
  rw [settled.halfOfDay] at sameHalf
  rw [settled.hourOfHalf] at sameHour
  rw [settled.minute] at sameMinute
  simp only [Clock.component?, Clock.hour, Clock.minute, Clock.second, Option.getD_some,
    Option.some.injEq] at sameHalf sameHour sameMinute sameSecond
  omega

end Settled

/-- What settles is the date and the second of the day that a wall shows, and it shows what was
read. -/
theorem shown_of_settle? (inRange : fields.InRange) {shown wall : WallTime}
    (last : fields.read .second = some 60 → shown.clock.second = 59)
    (settled : fields.settle? shown = some wall) :
    wall.seconds = shown.seconds ∧
      (fields.read .second = some 60 → wall.clock.isLeap = true) ∧
      ∀ component value, component ≠ .timestamp → component ≠ .offset →
        fields.read component = some value → wall.component? component = some value := by
  obtain ⟨later, settled⟩ := exists_settled settled
  obtain ⟨sameSecond, leap⟩ := settled.sameSecond inRange last
  refine ⟨?_, leap, fun component value notCount notOffset held => ?_⟩
  · simp only [WallTime.seconds, settled.sameDate, settled.sameSecondOfDay inRange sameSecond]
  · exact shown_of_parts (settled.inRange inRange) settled.isDate settled.isClock notCount notOffset
      (settled.kept _ _ held)

/-- What an instant is made of: a wall time with the offset that was read, or with none. -/
theorem exists_of_toInstant? {instant : Instant} (made : fields.toInstant? = some instant) :
    ∃ offset wall, fields.toWallTime? offset = some wall ∧ wall.atOffset? offset = some instant ∧
      (fields.read .offset = some offset ∨
        fields.read .offset = none ∧ fields.read .timestamp ≠ none ∧ offset = 0) := by
  cases isOffset : fields.read .offset with
  | some offset =>
    simp only [toInstant?, isOffset, Option.bind_eq_bind, Option.bind_some] at made
    obtain ⟨wall, isWall, made⟩ := Option.bind_eq_some_iff.1 made
    obtain ⟨-, -, placed⟩ := Option.bind_eq_some_iff.1 made
    exact ⟨offset, wall, isWall, placed, .inl rfl⟩
  | none =>
    cases isCount : fields.read .timestamp with
    | some count =>
      simp only [toInstant?, isOffset, isCount, Option.bind_eq_bind, Option.bind_some] at made
      obtain ⟨wall, isWall, made⟩ := Option.bind_eq_some_iff.1 made
      obtain ⟨-, -, placed⟩ := Option.bind_eq_some_iff.1 made
      exact ⟨0, wall, isWall, placed, .inr ⟨rfl, Option.some_ne_none count, rfl⟩⟩
    | none => simp [toInstant?, isOffset, isCount] at made

/-- A wall time, shown some seconds after the epoch, accounts for what was read. -/
structure Accounts (fields : Fields) (seconds : Int) (wall : WallTime) : Prop where
  /-- It shows every component of a date or of a time of day that was read. -/
  shown : ∀ component value, component ≠ .timestamp → component ≠ .offset →
    fields.read component = some value → wall.component? component = some value
  /-- Without a count of seconds, its date is the one that was read. -/
  dated : fields.read .timestamp = none → fields.toDate = .ok wall.date
  /-- Without a count of seconds, its time of day is zero in what was not read. -/
  zero : fields.read .timestamp = none → ∀ component ∈ clockComponents,
    fields.read component = none → wall.component? component = some 0
  /-- It is shown at the count of seconds that was read, or in the leap second before. -/
  counted : ∀ count, fields.read .timestamp = some count →
    count = seconds ∨ wall.clock.isLeap = true ∧ count = seconds + 1

/-- A wall time that is made of components accounts for them. -/
theorem accounts_of_toWallTime? (inRange : fields.InRange) {offset : Int} {wall : WallTime}
    (made : fields.toWallTime? offset = some wall) :
    fields.Accounts (wall.seconds - offset) wall := by
  unfold toWallTime? at made
  split at made
  · rename_i date clock isDate isClock noCount
    cases made
    refine ⟨fun _ _ => shown_of_parts inRange isDate isClock, fun _ => isDate,
      fun _ component inside unread => ?_, fun count isCount => by simp [noCount] at isCount⟩
    rw [WallTime.component?, if_pos inside, component?_of_toClock inRange isClock _ inside, unread]
    rfl
  · rename_i date clock count isDate isClock isCount
    obtain ⟨counted, same⟩ := Option.ite_none_right_eq_some.1 made
    cases same
    refine ⟨fun _ _ => shown_of_parts inRange isDate isClock, fun noCount => by
      simp [isCount] at noCount, fun noCount => by simp [isCount] at noCount, fun other held => ?_⟩
    rw [isCount] at held
    cases held
    exact counted
  · cases made
  · cases made
  · rename_i count isCount _ _ _
    obtain ⟨base, settled, isBase, last⟩ := exists_of_ofTimestamp made
    obtain ⟨sameSeconds, leap, shown⟩ := shown_of_settle? inRange last settled
    refine ⟨shown, fun noCount => by simp [isCount] at noCount, fun noCount => by
      simp [isCount] at noCount, fun other held => ?_⟩
    rw [isCount] at held
    cases held
    have isSeconds : base.toWallTime.seconds = base.seconds := by
      simp only [WallTime.seconds, Instant.toWallTime, secondsPerDay]
      omega
    rcases isBase with here | ⟨isLeap, before⟩
    · exact .inl (by omega)
    · exact .inr ⟨leap isLeap, by omega⟩
  · cases made

end Fields

end Intake
