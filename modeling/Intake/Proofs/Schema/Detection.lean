import Intake.Proofs.Calendar.Zone
import Intake.Proofs.Layout.Reader
import Intake.Schema.Detect

/-!
# Inferred types and time zones

The type that is inferred for a value looks at the reader for one thing only: whether some layout
reads the text that the value is, or that an array begins with. A layout reads an instant or what a
wall shows, and no zone has a part in that; but a zone need not have the wall time. So the type of a
value depends on the zone, and `Json.detectType_zone_iff` says for which values: those whose text is
read as wall times alone, all of which one zone lacks while another has some. A zone lacks the wall
times that its clocks skip, and those whose instant is not supported.
-/

namespace Intake

/-!
## Wall times that a zone has
-/

namespace Zone

variable {zone : Zone} {wall : WallTime}

/-- How many seconds walls of a zone run ahead of universal time when they show a wall time, if they
ever show it. -/
def offset? : Zone → WallTime → Option Int
  | utc, _ => some 0
  | host rule, wall => rule.offsetFor? wall
  | fixed offset, _ => some offset.seconds

/-- Walls of the zone show the wall time at an instant that is supported. -/
def Has (zone : Zone) (wall : WallTime) : Prop :=
  ∃ offset, zone.offset? wall = some offset ∧
    firstSecond ≤ wall.seconds - offset ∧ wall.seconds - offset ≤ lastSecond

theorem has_utc (wall : WallTime) : utc.Has wall :=
  ⟨0, rfl, (Int.sub_zero wall.seconds).symm ▸ wall.atUtc.inRange⟩

/-- A wall time stands for an instant in the zones that have it. -/
theorem isSome_localize?_iff : (zone.localize? wall).isSome = true ↔ zone.Has wall := by
  cases zone with
  | utc => exact iff_of_true rfl (has_utc wall)
  | fixed offset =>
    rw [localize?, WallTime.isSome_atOffset?_iff]
    simp [Has, offset?]
  | host rule =>
    unfold localize? Has offset?
    simp only
    cases rule.offsetFor? wall with
    | none => simp
    | some offset =>
      rw [Option.bind_some, WallTime.isSome_atOffset?_iff]
      simp

/-- The zone can be had on a host with some rule: universal time, a constant offset, or the zone of
this host. -/
def OnHost (rule : DaylightRule) (zone : Zone) : Prop := ∀ own, zone = host own → own = rule

theorem onHost_host (rule : DaylightRule) : (host rule).OnHost rule := fun _ same =>
  (host.inj same).symm

theorem onHost_utc (rule : DaylightRule) : utc.OnHost rule := fun _ same => by cases same

theorem onHost_fixed (rule : DaylightRule) (offset : UtcOffset) : (fixed offset).OnHost rule :=
  fun _ same => by cases same

/-- Every zone on a host has the wall times that the host's rule does not skip and that lie a day
inside the supported years, and these are the only ones. -/
theorem has_everywhere_iff {rule : DaylightRule} :
    (∀ zone : Zone, zone.OnHost rule → zone.Has wall) ↔
      ¬rule.Skips wall ∧ firstSecond + 86399 ≤ wall.seconds ∧
        wall.seconds ≤ lastSecond - 86399 := by
  constructor
  · intro has
    obtain ⟨ahead, isAhead, earlier, -⟩ :=
      has (.fixed ⟨86399, by decide⟩) (onHost_fixed rule _)
    obtain ⟨behind, isBehind, -, later⟩ :=
      has (.fixed ⟨-86399, by decide⟩) (onHost_fixed rule _)
    obtain ⟨offset, shown, -⟩ := has (host rule) (onHost_host rule)
    obtain rfl : (86399 : Int) = ahead := Option.some.inj isAhead
    obtain rfl : (-86399 : Int) = behind := Option.some.inj isBehind
    refine ⟨fun skipped => ?_, by omega, by omega⟩
    rcases rule.offsetFor?_cases wall with ⟨never, -⟩ | ⟨_, -, kept, -⟩
    · exact Option.some_ne_none _ (shown.symm.trans never)
    · exact kept skipped
  · rintro ⟨kept, first, last⟩ zone onHost
    cases zone with
    | utc => exact has_utc wall
    | fixed offset =>
      have small := offset.inRange
      exact ⟨offset.seconds, rfl, by omega, by omega⟩
    | host own =>
      obtain rfl := onHost own rfl
      rcases own.offsetFor?_cases wall with ⟨-, skipped⟩ | ⟨offset, shown, -, either⟩
      · exact absurd skipped kept
      · have ahead := own.ahead
        have standard_gt := own.standard_gt
        have daylight_lt := own.daylight_lt
        refine ⟨offset, shown, ?_⟩
        rcases either with rfl | rfl <;> omega

end Zone

/-!
## What a layout reads before a zone is known
-/

/-- What a text says by itself: an instant, or what a wall shows. -/
inductive Moment where
  | instant (time : Instant)
  | wall (time : WallTime)

namespace Moment

/-- The instant that the moment is in a zone. -/
def inZone? (zone : Zone) : Moment → Option Instant
  | instant time => some time
  | wall time => zone.localize? time

/-- The moment occurs in a zone: always as an instant, and as a wall time if the zone has it. -/
def OccursIn (zone : Zone) : Moment → Prop
  | instant _ => True
  | wall time => zone.Has time

theorem isSome_inZone?_iff {zone : Zone} (moment : Moment) :
    (moment.inZone? zone).isSome = true ↔ moment.OccursIn zone := by
  cases moment with
  | instant time => exact iff_of_true rfl trivial
  | wall time => exact Zone.isSome_localize?_iff

theorem occursIn_utc (moment : Moment) : moment.OccursIn .utc := by
  cases moment with
  | instant time => trivial
  | wall time => exact Zone.has_utc time

end Moment

/-- The moment that a layout reads, before a zone is known. -/
def Layout.moment? (layout : Layout) (text : String) : Option Moment :=
  match layout with
  | rfc3339 => (Rfc3339.instant text).toOption.map .instant
  | rfc2822 => (Rfc2822.instant? text).map .instant
  | zoned pattern => ((Pattern.read? pattern text).bind Fields.toInstant?).map .instant
  | naive pattern => ((Pattern.read? pattern text).bind (Fields.toWallTime? · 0)).map .wall
  | date pattern =>
    ((Pattern.read? pattern text).bind (·.toDate.toOption)).map fun date =>
      .wall { date := date, clock := Clock.midnight }

/-- A layout reads a moment and then looks for it in the zone. -/
theorem Layout.read?_eq (layout : Layout) (zone : Zone) (text : String) :
    layout.read? zone text = (layout.moment? text).bind (Moment.inZone? zone) := by
  have whole (read : Option Instant) : read = (read.map .instant).bind (Moment.inZone? zone) := by
    cases read <;> rfl
  cases layout with
  | rfc3339 => exact whole _
  | rfc2822 => exact whole _
  | zoned pattern => exact whole _
  | naive pattern =>
    cases read : Pattern.read? pattern text with
    | none => simp [read?, moment?, read]
    | some fields =>
      cases shown : fields.toWallTime? 0 <;> simp [read?, moment?, read, shown, Moment.inZone?]
  | date pattern =>
    cases read : Pattern.read? pattern text with
    | none => simp [read?, moment?, read]
    | some fields =>
      cases shown : fields.toDate.toOption <;>
        simp [read?, moment?, read, shown, Moment.inZone?]

/-- The moments that layouts read. -/
def moments (layouts : List Layout) (text : String) : List Moment :=
  layouts.filterMap (·.moment? text)

/-- A reader recognises a text that says a moment which occurs in the reader's zone. -/
theorem LayoutReader.recognises_iff_moments {reader : LayoutReader} {text : String} :
    reader.recognises text = true ↔
      text ≠ "" ∧ ∃ moment ∈ moments reader.layouts text, moment.OccursIn reader.zone := by
  have reads (layout : Layout) : (layout.read? reader.zone text).isSome = true ↔
      ∃ moment, layout.moment? text = some moment ∧ moment.OccursIn reader.zone := by
    rw [layout.read?_eq]
    cases layout.moment? text with
    | none => simp
    | some moment => simp [← Moment.isSome_inZone?_iff]
  rw [recognises_iff]
  refine and_congr_right fun _ => ?_
  simp only [reads, moments, List.mem_filterMap]
  constructor
  · rintro ⟨layout, listed, moment, said, occurs⟩
    exact ⟨moment, ⟨layout, listed, said⟩, occurs⟩
  · rintro ⟨moment, ⟨layout, listed, said⟩, occurs⟩
    exact ⟨layout, listed, moment, said, occurs⟩

/-!
## Types
-/

namespace Json

/-- The text that a value is, or that an array begins with. -/
def leadingText? : Json → Option String
  | string text => some text
  | array (string text :: _) => some text
  | _ => none

/-- There are no arrays of arrays. -/
theorem arrayOf?_detectType_array (reader : LayoutReader) (items : List Json) :
    ((array items).detectType reader).arrayOf? = none := by
  cases items with
  | nil => rfl
  | cons first rest =>
    rw [detectType]
    cases first.detectType reader <;> rfl

/-- Readers infer the same type for a value where they both recognise its text or neither does. -/
theorem detectType_eq_iff {reader other : LayoutReader} (value : Json) :
    value.detectType reader = value.detectType other ↔
      ∀ text, value.leadingText? = some text →
        reader.recognises text = other.recognises text := by
  cases value with
  | null => simp [detectType, leadingText?]
  | bool => simp [detectType, leadingText?]
  | number => simp [detectType, leadingText?]
  | object => simp [detectType, leadingText?]
  | string text =>
    cases here : reader.recognises text <;> cases there : other.recognises text <;>
      simp [detectType, leadingText?, here, there]
  | array items =>
    cases items with
    | nil => simp [detectType, leadingText?]
    | cons first rest =>
      cases first with
      | null => simp [detectType, leadingText?]
      | bool => simp [detectType, leadingText?]
      | number => simp [detectType, leadingText?]
      | object => simp [detectType, leadingText?]
      | array inner =>
        rw [detectType, detectType, arrayOf?_detectType_array, arrayOf?_detectType_array]
        simp [leadingText?]
      | string text =>
        cases here : reader.recognises text <;> cases there : other.recognises text <;>
          simp [detectType, leadingText?, FieldType.arrayOf?, here, there]

section

variable {layouts : List Layout} {value : Json}

/-- Under the same layouts, zones agree on the type of a value where they agree on whether one of
the moments that the layouts read in its text occurs. -/
theorem detectType_eq_iff_moments {zone other : Zone} :
    value.detectType { layouts, zone } = value.detectType { layouts, zone := other } ↔
      ∀ text, value.leadingText? = some text → text ≠ "" →
        ((∃ moment ∈ moments layouts text, moment.OccursIn zone) ↔
          ∃ moment ∈ moments layouts text, moment.OccursIn other) := by
  rw [detectType_eq_iff]
  refine forall₂_congr fun text _ => ?_
  rw [Bool.eq_iff_iff, LayoutReader.recognises_iff_moments, LayoutReader.recognises_iff_moments]
  exact and_congr_right_iff

/-- All zones on a host agree on the type of a value where any moment that is read in its text comes
with one that occurs in every zone on the host. -/
theorem detectType_zone_free_iff {rule : DaylightRule} :
    (∀ zone other : Zone, zone.OnHost rule → other.OnHost rule →
      value.detectType { layouts, zone } = value.detectType { layouts, zone := other }) ↔
        ∀ text, value.leadingText? = some text → text ≠ "" → moments layouts text ≠ [] →
          ∀ zone : Zone, zone.OnHost rule → ∃ moment ∈ moments layouts text,
            moment.OccursIn zone := by
  simp only [detectType_eq_iff_moments]
  constructor
  · intro same text leads given read zone onHost
    -- Every moment occurs in universal time.
    obtain ⟨moment, inside⟩ := List.exists_mem_of_ne_nil _ read
    exact (same .utc zone (Zone.onHost_utc rule) onHost text leads given).1
      ⟨moment, inside, moment.occursIn_utc⟩
  · intro occurs zone other onHost otherOnHost text leads given
    have moves {one two : Zone} (onHost : two.OnHost rule)
        (found : ∃ moment ∈ moments layouts text, moment.OccursIn one) :
        ∃ moment ∈ moments layouts text, moment.OccursIn two := by
      obtain ⟨moment, inside, -⟩ := found
      exact occurs text leads given (List.ne_nil_of_mem inside) two onHost
    exact ⟨moves otherOnHost, moves onHost⟩

end

/-- The types that are inferred for a value in two zones, under the same layouts.

They are the same where the zones agree on whether any moment occurs that the layouts read in the
text of the value. All zones on a host infer the same type where any moment that is read comes, in
each of them, with one that occurs there. This is so if the wall times that are read lie a day
inside the supported years and are not skipped by the rule of the host. -/
theorem detectType_zone_iff (rule : DaylightRule) (layouts : List Layout) (value : Json) :
    (∀ zone other : Zone,
      value.detectType { layouts, zone } = value.detectType { layouts, zone := other } ↔
        ∀ text, value.leadingText? = some text → text ≠ "" →
          ((∃ moment ∈ moments layouts text, moment.OccursIn zone) ↔
            ∃ moment ∈ moments layouts text, moment.OccursIn other)) ∧
    ((∀ zone other : Zone, zone.OnHost rule → other.OnHost rule →
      value.detectType { layouts, zone } = value.detectType { layouts, zone := other }) ↔
        ∀ text, value.leadingText? = some text → text ≠ "" → moments layouts text ≠ [] →
          ∀ zone : Zone, zone.OnHost rule → ∃ moment ∈ moments layouts text,
            moment.OccursIn zone) ∧
    ((∀ text, value.leadingText? = some text → ∀ wall, .wall wall ∈ moments layouts text →
        ¬rule.Skips wall ∧ firstSecond + 86399 ≤ wall.seconds ∧
          wall.seconds ≤ lastSecond - 86399) →
      ∀ zone other : Zone, zone.OnHost rule → other.OnHost rule →
        value.detectType { layouts, zone } = value.detectType { layouts, zone := other }) := by
  refine ⟨fun zone other => detectType_eq_iff_moments, detectType_zone_free_iff, fun inside => ?_⟩
  apply detectType_zone_free_iff.2
  intro text leads _ read zone onHost
  obtain ⟨moment, said⟩ := List.exists_mem_of_ne_nil _ read
  refine ⟨moment, said, ?_⟩
  cases moment with
  | instant time => trivial
  | wall time => exact Zone.has_everywhere_iff.2 (inside text leads time said) zone onHost

/-- Half past two on a night on which eastern clocks skip that hour is a date-time in universal
time, and a text in the eastern zone. The first day of all is a date-time in universal time, and a
text in a zone ahead of it. -/
theorem skipped_detectType :
    (string "2021-03-14 02:30:00").detectType { zone := .utc } = .scalar .dateTime ∧
      (string "2021-03-14 02:30:00").detectType { zone := .host .eastern } = .scalar .string ∧
      (string "-262143-01-01").detectType { zone := .utc } = .scalar .dateTime ∧
      (string "-262143-01-01").detectType { zone := .fixed ⟨28800, by decide⟩ } =
        .scalar .string := by
  refine ⟨?_, ?_, ?_, ?_⟩ <;> decide +kernel

end Json

end Intake
