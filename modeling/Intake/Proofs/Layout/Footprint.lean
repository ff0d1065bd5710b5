import Intake.Proofs.Layout.Steps
import Mathlib.Data.Option.Basic

/-!
# What the steps of patterns take note of

Which components a step can take note of is seen from the step alone. A step leaves every other
component as it was, never changes a component that was read before, and keeps all of them within
their ranges; `Item.scan_gains` says so for one step and `Item.scanAll_gains` for a list of steps. A
step for an offset always takes note of one. For other steps nothing is said about what they must
take note of: a fraction, for example, may be missing. In the empty text a fraction is all that
steps can take note of, so no layout reads it (`Layout.read?_empty`).
-/

namespace Intake

namespace Fields

/-- Every component that was read lies in its range. -/
def InRange (fields : Fields) : Prop :=
  ∀ component value, fields.read component = some value →
    component.range.1 ≤ value ∧ value ≤ component.range.2

theorem InRange.empty : Fields.empty.InRange := fun _ _ read => nomatch read

/-- What was read first was also read later, and beyond it only some components were, within their
ranges. -/
structure Gains (components : List Component) (fields later : Fields) : Prop where
  kept : ∀ component value, fields.read component = some value → later.read component = some value
  frame : ∀ component, component ∉ components → later.read component = fields.read component
  inRange : fields.InRange → later.InRange

variable {fields later : Fields} {component : Component} {value : Int}

theorem record?_eq_some (noted : fields.record? component value = some later) :
    (component.range.1 ≤ value ∧ value ≤ component.range.2) ∧
      ∀ other, later.read other = if other = component then some value else fields.read other := by
  simp only [record?, Option.ite_none_right_eq_some] at noted
  obtain ⟨inRange, noted⟩ := noted
  refine ⟨inRange, fun other => ?_⟩
  split at noted
  · cases noted
    rfl
  · rename_i held
    simp only [Option.ite_none_right_eq_some, Option.some.injEq] at noted
    obtain ⟨rfl, rfl⟩ := noted
    split
    · rename_i same
      rw [same, held]
    · rfl

/-- A component that was taken note of was read. -/
theorem read_of_record? (noted : fields.record? component value = some later) :
    later.read component = some value := by
  simp [(record?_eq_some noted).2]

namespace Gains

variable {components others : List Component} {middle : Fields}

theorem refl : Gains components fields fields where
  kept _ _ read := read
  frame _ _ := rfl
  inRange := id

theorem trans (first : Gains components fields middle) (second : Gains others middle later) :
    Gains (components ++ others) fields later where
  kept component value read := second.kept component value (first.kept component value read)
  frame component outside := by
    rw [List.mem_append, not_or] at outside
    rw [second.frame component outside.2, first.frame component outside.1]
  inRange := second.inRange ∘ first.inRange

theorem of_record? (noted : fields.record? component value = some later) :
    Gains [component] fields later := by
  obtain ⟨inRange, read⟩ := record?_eq_some noted
  refine ⟨fun other earlier held => ?_, fun other outside => ?_,
    fun earlier other held isHeld => ?_⟩
  · -- Had another value been read before, it would not have been taken note of.
    rw [read]
    split
    · rename_i same
      simp only [record?, ← same, held, Option.ite_none_right_eq_some] at noted
      rw [noted.2.1]
    · exact held
  · rw [read, if_neg (by simpa using outside)]
  · rw [read] at isHeld
    split at isHeld
    · rename_i same
      cases isHeld
      exact same ▸ inRange
    · exact earlier other held isHeld

theorem of_recordHour? {hour : Int} (noted : fields.recordHour? hour = some later) :
    Gains [.halfOfDay, .hourOfHalf] fields later := by
  simp only [recordHour?, Option.ite_none_right_eq_some] at noted
  obtain ⟨middle, half, ofHalf⟩ := Option.bind_eq_some_iff.1 noted.2
  exact (of_record? half).trans (of_record? ofHalf)

end Gains

end Fields

/-- The components that a number gives. -/
def Numeric.components : Numeric → List Component
  | year => [.year]
  | century => [.century]
  | yearOfCentury => [.yearOfCentury]
  | isoYear => [.isoYear]
  | isoYearOfCentury => [.isoYearOfCentury]
  | quarter => [.quarter]
  | month => [.month]
  | day => [.day]
  | weekFromSunday => [.weekFromSunday]
  | weekFromMonday => [.weekFromMonday]
  | isoWeek => [.isoWeek]
  | weekdayFromSunday | weekdayFromMonday => [.weekday]
  | ordinal => [.ordinal]
  | hour => [.halfOfDay, .hourOfHalf]
  | hour12 => [.hourOfHalf]
  | minute => [.minute]
  | second => [.second]
  | nano => [.nano]
  | timestamp => [.timestamp]

theorem Numeric.gains_of_record? {kind : Numeric} {fields later : Fields} {value : Int}
    (noted : kind.record? fields value = some later) : fields.Gains kind.components later := by
  cases kind with
  | weekdayFromSunday =>
    simp only [record?, Option.ite_none_right_eq_some] at noted
    exact .of_record? noted.2
  | hour => exact .of_recordHour? noted
  | hour12 =>
    simp only [record?, Fields.recordHour12?, Option.ite_none_right_eq_some] at noted
    exact .of_record? noted.2
  | _ => exact .of_record? noted

namespace Item

variable {fields later : Fields} {text rest : List Char}

/-- The components that a step can take note of. -/
def components : Item → List Component
  | literal _ | blanks | zoneName | dateTimeMark | never => []
  | numeric kind => kind.components
  | month _ => [.month]
  | weekday _ => [.weekday]
  | halfOfDay => [.halfOfDay]
  | fraction | pointFraction _ | bareFraction _ => [.nano]
  | offset | looseOffset | namedOffset => [.offset]

/-- A step that skips blanks first does the rest after them. -/
theorem scan_after_blanks (next : Scanner Fields) :
    (do Scanner.blanks; next : Scanner Fields) text = next (trimStart text) := rfl

/-- A step for a fraction after a point takes note of the fraction, if there is a point. -/
theorem gains_of_scan_after_point {scanner : Scanner Nat}
    (scanned : (match text with
      | '.' :: rest => do
        let (nano, rest) ← scanner rest
        let fields ← fields.record? .nano nano
        some (fields, rest)
      | _ => some (fields, text)) = some (later, rest)) : fields.Gains [.nano] later := by
  split at scanned
  · obtain ⟨⟨nano, between⟩, -, scanned⟩ := Option.bind_eq_some_iff.1 scanned
    obtain ⟨middle, noted, same⟩ := Option.bind_eq_some_iff.1 scanned
    cases same
    exact .of_record? noted
  · cases scanned
    exact .refl

/-- A step takes note of its own components alone. -/
theorem scan_gains {item : Item} (scanned : item.scan fields text = some (later, rest)) :
    fields.Gains item.components later := by
  cases item with
  | literal c =>
    obtain ⟨-, rfl⟩ := scan_literal_eq_some.1 scanned
    exact .refl
  | blanks | zoneName =>
    cases scanned
    exact .refl
  | numeric kind =>
    obtain ⟨value, -, noted⟩ := scan_numeric_eq_some.1 scanned
    exact Numeric.gains_of_record? noted
  | month long | weekday long =>
    rw [scan] at scanned
    cases long <;>
    · obtain ⟨_, -, noted⟩ := scan_then_note.1 scanned
      exact .of_record? noted
  | halfOfDay | bareFraction =>
    rw [scan] at scanned
    obtain ⟨_, -, noted⟩ := scan_then_note.1 scanned
    exact .of_record? noted
  | fraction | pointFraction => exact gains_of_scan_after_point scanned
  | offset | looseOffset | namedOffset =>
    rw [scan, scan_after_blanks] at scanned
    obtain ⟨_, -, noted⟩ := scan_then_note.1 scanned
    exact .of_record? noted
  | dateTimeMark =>
    obtain ⟨_, -, same⟩ := Option.bind_eq_some_iff.1 scanned
    cases same
    exact .refl
  | never => cases scanned

/-- The components that steps can take note of. -/
def footprint (items : List Item) : List Component := items.flatMap components

theorem scanAll_gains {items : List Item}
    (scanned : scanAll items fields text = some (later, rest)) :
    fields.Gains (footprint items) later := by
  induction items generalizing fields text with
  | nil =>
    obtain ⟨rfl, -⟩ := scanAll_nil_eq_some.1 scanned
    exact .refl
  | cons item items ih =>
    obtain ⟨middle, between, first, others⟩ := scanAll_cons_eq_some.1 scanned
    exact (scan_gains first).trans (ih others)

/-- A step for an offset takes note of an offset. -/
theorem offset_of_scan {item : Item} (reads : .offset ∈ item.components)
    (scanned : item.scan fields text = some (later, rest)) :
    ∃ seconds, later.read .offset = some seconds := by
  cases item with
  | offset | looseOffset | namedOffset =>
    rw [scan, scan_after_blanks] at scanned
    obtain ⟨seconds, -, noted⟩ := scan_then_note.1 scanned
    exact ⟨seconds, Fields.read_of_record? noted⟩
  | numeric kind => cases kind <;> simp [components, Numeric.components] at reads
  | _ => simp [components] at reads

/-- Steps among which one is for an offset take note of an offset. -/
theorem offset_of_scanAll {items : List Item} (reads : .offset ∈ footprint items)
    (scanned : scanAll items fields text = some (later, rest)) :
    ∃ seconds, later.read .offset = some seconds := by
  induction items generalizing fields text with
  | nil => cases reads
  | cons item items ih =>
    obtain ⟨middle, between, first, others⟩ := scanAll_cons_eq_some.1 scanned
    rw [footprint, List.flatMap_cons, List.mem_append] at reads
    rcases reads with here | after
    · obtain ⟨seconds, held⟩ := offset_of_scan here first
      exact ⟨seconds, (scanAll_gains others).kept .offset seconds held⟩
    · exact ih after others

/-! ## The empty text -/

/-- The steps that read the empty text give a fraction of a second at most. -/
theorem components_of_scan_nil {item : Item} (scanned : item.scan fields [] = some (later, rest)) :
    item.components ⊆ [.nano] ∧ rest = [] := by
  cases item with
  | blanks | zoneName | fraction | pointFraction =>
    cases scanned
    exact ⟨by simp [components], rfl⟩
  | bareFraction digits =>
    obtain ⟨nano, scanned, -⟩ := scan_then_note.1 scanned
    obtain ⟨⟨value, rest⟩, scanned, same⟩ := Option.map_eq_some_iff.1 scanned
    cases same
    obtain ⟨-, same⟩ := Option.ite_none_right_eq_some.1 scanned
    cases same
    exact ⟨List.Subset.refl _, List.drop_nil⟩
  | numeric kind => cases kind <;> cases scanned
  | month long | weekday long => cases long <;> cases scanned
  | literal | halfOfDay | offset | looseOffset | namedOffset | dateTimeMark | never =>
    cases scanned

theorem footprint_of_scanAll_nil {items : List Item}
    (scanned : scanAll items fields [] = some (later, rest)) : footprint items ⊆ [.nano] := by
  induction items generalizing fields with
  | nil => exact List.nil_subset _
  | cons item items ih =>
    obtain ⟨middle, between, first, others⟩ := scanAll_cons_eq_some.1 scanned
    obtain ⟨ofFirst, rfl⟩ := components_of_scan_nil first
    rw [footprint, List.flatMap_cons]
    exact List.append_subset.2 ⟨ofFirst, ih others⟩

end Item

/-- A fraction of a second alone is no date, no wall time and no instant. -/
theorem Fields.nothing_of_unread {fields : Fields}
    (unread : ∀ component, component ≠ .nano → fields.read component = none) :
    fields.toDate = .error .incomplete ∧ fields.toWallTime? 0 = none ∧
      fields.toInstant? = none := by
  have noDate : fields.toDate = .error .incomplete := by
    simp [toDate, candidate, resolveYear, unread, bind, Except.bind]
  have noClock : fields.toClock = .error .incomplete := by
    simp [toClock, unread]
  refine ⟨noDate, ?_, ?_⟩
  · simp [toWallTime?, noDate, noClock, unread]
  · simp [toInstant?, unread]

/-- No layout reads the empty value. -/
theorem Layout.read?_empty (layout : Layout) (zone : Zone) : layout.read? zone "" = none := by
  have nothing {pattern : String} {fields : Fields}
      (read : Pattern.read? pattern "" = some fields) :
      fields.toDate = .error .incomplete ∧ fields.toWallTime? 0 = none ∧
        fields.toInstant? = none := by
    unfold Pattern.read? at read
    split at read
    · rename_i taken
      cases read
      refine Fields.nothing_of_unread fun component other => ?_
      have outside : component ∉ Item.footprint (Pattern.items pattern.toList) := fun inside =>
        other (List.mem_singleton.1 (Item.footprint_of_scanAll_nil taken inside))
      exact (Item.scanAll_gains taken).frame component outside
    · cases read
  cases layout with
  | rfc3339 | rfc2822 => rfl
  | zoned pattern | naive pattern | date pattern =>
    rw [read?]
    cases read : Pattern.read? pattern "" with
    | none => rfl
    | some fields =>
      obtain ⟨noDate, noWall, noInstant⟩ := nothing read
      simp [noDate, noWall, noInstant, Except.toOption]

end Intake
