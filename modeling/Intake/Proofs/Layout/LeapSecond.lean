import Intake.Proofs.Calendar.ZoneName
import Intake.Proofs.Layout.Defaults
import Intake.Proofs.Layout.Faithful
import Intake.Proofs.Layout.Written

/-!
# Leap seconds at the end of minutes

A clock reading is made with a leap second only after second 59. Offsets that are read are whole
minutes, so every instant that a layout makes in a zone of whole minutes is `Regular`:
`Layout.regular_of_read?` is the main statement. Zones that have a name are of this kind. A zone
with an offset of seconds has no name, and leap seconds that are read in it are not at the end of a
minute of universal time.
-/

namespace Intake

/-! ## Clock readings and wall times -/

theorem Clock.regular_of_ofParts? {hour minute second nano : Nat} {clock : Clock}
    (made : ofParts? hour minute second nano = some clock) : clock.Regular := by
  obtain ⟨-, -, sameSecond, sameNano⟩ := parts_of_ofParts? made
  rw [Regular, sameSecond, sameNano]
  simp only [ofParts?, Option.dite_none_right_eq_some] at made
  obtain ⟨bounds, -⟩ := made
  exact bounds.2.2.2.2

/-- A wall that runs whole minutes ahead shows a leap second at the end of a minute. -/
theorem WallTime.regular_of_atOffset? {wall : WallTime} {offset : Int} {instant : Instant}
    (regular : wall.clock.Regular) (whole : offset % 60 = 0)
    (placed : wall.atOffset? offset = some instant) : instant.Regular := by
  obtain ⟨sameSeconds, sameNano⟩ := Instant.seconds_of_ofSeconds? placed
  rw [Instant.Regular, sameSeconds, sameNano]
  refine regular.imp_right fun last => ?_
  simp only [Clock.second, WallTime.seconds, secondsPerDay] at *
  omega

namespace Fields

variable {fields : Fields}

theorem regular_of_toClock {clock : Clock} (isClock : fields.toClock = .ok clock) :
    clock.Regular := by
  obtain ⟨_, _, _, -, -, -, _, _, -, made⟩ := exists_of_toClock isClock
  exact Clock.regular_of_ofParts? made

/-- Wall times have clock readings that were read. -/
theorem regular_of_toWallTime? {offset : Int} {wall : WallTime}
    (made : fields.toWallTime? offset = some wall) : wall.clock.Regular := by
  unfold toWallTime? at made
  split at made
  · rename_i isClock _
    cases made
    exact regular_of_toClock isClock
  · rename_i isClock _
    obtain ⟨-, same⟩ := Option.ite_none_right_eq_some.1 made
    cases same
    exact regular_of_toClock isClock
  · cases made
  · cases made
  · obtain ⟨base, settled, -⟩ := exists_of_ofTimestamp made
    obtain ⟨_, settled⟩ := exists_settled settled
    exact regular_of_toClock settled.isClock
  · cases made

/-- The offset that was read, if any, is whole minutes. -/
def WholeOffset (fields : Fields) : Prop :=
  ∀ seconds, fields.read .offset = some seconds → seconds % 60 = 0

theorem WholeOffset.empty : Fields.empty.WholeOffset := fun _ held => nomatch held

/-- The instant of components whose offset is whole minutes. -/
theorem regular_of_toInstant? (whole : fields.WholeOffset) {instant : Instant}
    (made : fields.toInstant? = some instant) : instant.Regular := by
  obtain ⟨offset, wall, isWall, placed, isOffset⟩ := exists_of_toInstant? made
  refine WallTime.regular_of_atOffset? (regular_of_toWallTime? isWall) ?_ placed
  rcases isOffset with held | ⟨-, -, rfl⟩
  · exact whole offset held
  · rfl

end Fields

/-! ## Offsets -/

theorem Scanner.signed_whole {negative : Bool} {size : Nat} (whole : size % 60 = 0) :
    signed negative size % 60 = 0 := by
  cases negative <;> simp only [signed, if_true, Bool.false_eq_true, if_false] <;> omega

/-- An offset that is scanned is whole minutes. -/
theorem Scanner.offset_whole {form : OffsetForm} {text rest : List Char} {seconds : Int}
    (scanned : offset form text = some (seconds, rest)) : seconds % 60 = 0 := by
  unfold offset at scanned
  split at scanned
  · obtain ⟨-, same⟩ := Option.ite_none_right_eq_some.1 scanned
    cases same
    rfl
  · obtain ⟨-, same⟩ := Option.ite_none_right_eq_some.1 scanned
    cases same
    rfl
  · obtain ⟨⟨negative, afterSign⟩, -, scanned⟩ := Option.bind_eq_some_iff.1 scanned
    obtain ⟨⟨hours, afterHours⟩, -, scanned⟩ := Option.bind_eq_some_iff.1 scanned
    dsimp only at scanned
    generalize (if form.separated = true then _ else _) = between at scanned
    split at scanned
    · cases scanned
      exact signed_whole (by omega)
    · obtain ⟨⟨minutes, afterMinutes⟩, -, same⟩ := Option.bind_eq_some_iff.1 scanned
      cases same
      exact signed_whole (by omega)

/-- What one of two scanners makes of a text. -/
theorem Scanner.of_orElse {α : Type} {first second : Scanner α} {text : List Char}
    {found : α × List Char} (scanned : (first <|> second) text = some found) :
    first text = some found ∨ second text = some found := by
  change (first text <|> second text) = some found at scanned
  cases taken : first text with
  | none => exact .inr (by simpa [taken] using scanned)
  | some result => exact .inl (by simpa [taken] using scanned)

/-- A step of a pattern reads whole minutes. -/
theorem Item.scan_wholeOffset {item : Item} {fields later : Fields} {text rest : List Char}
    (whole : fields.WholeOffset) (scanned : item.scan fields text = some (later, rest)) :
    later.WholeOffset := by
  by_cases reads : .offset ∈ item.components
  · cases item with
    | offset | looseOffset =>
      rw [scan, scan_after_blanks] at scanned
      obtain ⟨seconds, isOffset, noted⟩ := scan_then_note.1 scanned
      intro other held
      rw [Fields.read_of_record? noted] at held
      cases held
      exact Scanner.offset_whole isOffset
    | namedOffset =>
      rw [scan, scan_after_blanks] at scanned
      obtain ⟨seconds, isOffset, noted⟩ := scan_then_note.1 scanned
      intro other held
      rw [Fields.read_of_record? noted] at held
      cases held
      rcases Scanner.of_orElse isOffset with named | scanned
      · obtain ⟨_, -, same⟩ := Option.bind_eq_some_iff.1 named
        cases same
        rfl
      · exact Scanner.offset_whole scanned
    | numeric kind => cases kind <;> simp [components, Numeric.components] at reads
    | _ => simp [components] at reads
  · intro seconds held
    rw [(scan_gains scanned).frame .offset reads] at held
    exact whole seconds held

theorem Item.scanAll_wholeOffset {items : List Item} {fields later : Fields}
    {text rest : List Char} (whole : fields.WholeOffset)
    (scanned : scanAll items fields text = some (later, rest)) : later.WholeOffset := by
  induction items generalizing fields text with
  | nil =>
    obtain ⟨rfl, -⟩ := scanAll_nil_eq_some.1 scanned
    exact whole
  | cons item items ih =>
    obtain ⟨middle, between, first, others⟩ := scanAll_cons_eq_some.1 scanned
    exact ih (scan_wholeOffset whole first) others

namespace Rfc2822

/-- Whatever a scanner makes of a text has a property. -/
def Makes {α : Type} (scanner : Scanner α) (property : α → Prop) : Prop :=
  ∀ text value rest, scanner text = some (value, rest) → property value

theorem Makes.bind {α β : Type} {first : Scanner α} {next : α → Scanner β} {property : β → Prop}
    (makes : ∀ value, Makes (next value) property) : Makes (first >>= next) property := by
  intro text value rest scanned
  obtain ⟨middle, between, -, scanned⟩ := Scanner.bind_eq_some.1 scanned
  exact makes middle between value rest scanned

/-- The zone of a mail date is whole minutes ahead. -/
theorem zone_whole {text rest : List Char} {seconds : Int}
    (scanned : zone text = some (seconds, rest)) : seconds % 60 = 0 := by
  unfold zone at scanned
  dsimp only at scanned
  split at scanned
  · exact Scanner.offset_whole scanned
  · obtain ⟨hours, -, same⟩ := Option.map_eq_some_iff.1 scanned
    cases same
    omega

/-- The last step of a mail date takes note of an offset of whole minutes. -/
theorem makes_wholeOffset (fields : Fields) :
    Makes (do fields.record? .offset (← zone)) Fields.WholeOffset := by
  intro text later rest scanned other held
  obtain ⟨seconds, isZone, noted⟩ := Item.scan_then_note.1 scanned
  rw [Fields.read_of_record? noted] at held
  cases held
  exact zone_whole isZone

/-- A mail date is read with an offset of whole minutes. -/
theorem reader_wholeOffset : Makes reader Fields.WholeOffset := by
  unfold reader
  repeat first
    | exact makes_wholeOffset _
    | refine .bind fun _ => ?_

end Rfc2822

/-! ## Zones -/

/-- The rule runs whole minutes ahead of universal time all year. -/
def DaylightRule.WholeMinutes (rule : DaylightRule) : Prop :=
  rule.standard % 60 = 0 ∧ rule.daylight % 60 = 0

/-- The zone runs whole minutes ahead of universal time. -/
def Zone.WholeMinutes : Zone → Prop
  | utc => True
  | host rule => rule.WholeMinutes
  | fixed offset => offset.seconds % 60 = 0

/-- Zones that have a name run whole minutes ahead, where the host does. -/
theorem Zone.Nameable.wholeMinutes {rule : DaylightRule} {zone : Zone}
    (nameable : zone.Nameable rule) (whole : rule.WholeMinutes) : zone.WholeMinutes := by
  cases nameable with
  | utc => trivial
  | host => exact whole
  | fixed wholeOffset => exact wholeOffset

/-- Wall times are read with whole minutes by a rule of whole minutes. -/
theorem DaylightRule.WholeMinutes.offset {rule : DaylightRule} (whole : rule.WholeMinutes)
    {wall : WallTime} {offset : Int} (isOffset : rule.offsetFor? wall = some offset) :
    offset % 60 = 0 := by
  rcases rule.offsetFor?_cases wall with ⟨never, -⟩ | ⟨shown, isShown, -, either⟩
  · exact absurd (never.symm.trans isOffset) nofun
  · obtain rfl := Option.some.inj (isOffset.symm.trans isShown)
    rcases either with rfl | rfl
    · exact whole.1
    · exact whole.2

/-- In a zone that runs whole minutes ahead a leap second ends a minute of universal time. -/
theorem Zone.regular_of_localize? {zone : Zone} (whole : zone.WholeMinutes) {wall : WallTime}
    (regular : wall.clock.Regular) {instant : Instant}
    (placed : zone.localize? wall = some instant) : instant.Regular := by
  cases zone with
  | utc =>
    cases placed
    exact WallTime.regular_of_atOffset? regular rfl (WallTime.atOffset?_zero wall)
  | host rule =>
    obtain ⟨offset, isOffset, placed⟩ := Option.bind_eq_some_iff.1 placed
    exact WallTime.regular_of_atOffset? regular (whole.offset isOffset) placed
  | fixed offset => exact WallTime.regular_of_atOffset? regular whole placed

/-- An offset of the strict form is whole minutes. -/
theorem Rfc3339.offset_whole {text rest : List Char} {seconds : Int}
    (read : offset text = .ok (seconds, rest)) : seconds % 60 = 0 := by
  rcases exists_offset read with
    ⟨c, others, rfl, rfl | rfl⟩ | ⟨_, _, _, _, _, -, -, -, -, -, -, rfl⟩
  · cases read
    rfl
  · cases read
    rfl
  · exact Scanner.signed_whole (by omega)

/-- Clock readings of the strict form have a leap second only after second 59. -/
theorem Rfc3339.regular_of_clock? {hour minute second nano : Nat} {clock : Clock}
    (made : clock? hour minute second nano = some clock) : clock.Regular := by
  unfold clock? at made
  split at made <;> exact Clock.regular_of_ofParts? made

namespace Layout

/-- Instants that layouts make are regular, in zones that run whole minutes ahead. -/
theorem regular_of_read? {layout : Layout} {zone : Zone} (whole : zone.WholeMinutes)
    {value : String} {instant : Instant} (read : layout.read? zone value = some instant) :
    instant.Regular := by
  cases layout with
  | rfc3339 =>
    obtain ⟨wall, seconds, ⟨parts⟩, placed⟩ := exists_parts_of_rfc3339 read
    exact WallTime.regular_of_atOffset? (Rfc3339.regular_of_clock? parts.isClock)
      (Rfc3339.offset_whole parts.readOffset) placed
  | rfc2822 =>
    obtain ⟨fields, isRead, made⟩ := Option.bind_eq_some_iff.1 read
    obtain ⟨⟨later, rest⟩, scanned, isRead⟩ := Option.bind_eq_some_iff.1 isRead
    obtain ⟨-, -, same⟩ := Option.bind_eq_some_iff.1 isRead
    cases same
    exact Fields.regular_of_toInstant? (Rfc2822.reader_wholeOffset _ _ _ scanned) made
  | zoned pattern =>
    obtain ⟨fields, isRead, made⟩ := Option.bind_eq_some_iff.1 read
    exact Fields.regular_of_toInstant?
      (Item.scanAll_wholeOffset .empty (scanAll_of_read? isRead)) made
  | naive pattern =>
    obtain ⟨fields, -, read⟩ := Option.bind_eq_some_iff.1 read
    obtain ⟨wall, isWall, placed⟩ := Option.bind_eq_some_iff.1 read
    exact Zone.regular_of_localize? whole (Fields.regular_of_toWallTime? isWall) placed
  | date pattern =>
    obtain ⟨fields, -, read⟩ := Option.bind_eq_some_iff.1 read
    obtain ⟨day, -, placed⟩ := Option.bind_eq_some_iff.1 read
    have midnight : Clock.midnight.Regular := .inl (by decide)
    exact Zone.regular_of_localize? whole midnight placed

end Layout

end Intake
