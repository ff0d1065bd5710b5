import Intake.Proofs.Layout.Mail
import Intake.Proofs.Layout.Strict
import Intake.Proofs.Record.Repeatability

/-!
# The default layouts

The default layouts overlap, but no two of them read one value as different instants. Most pairs of
patterns are apart, a pattern never reads a mail date, and a pattern that reads the strict form
makes the same instant of it. `LayoutReader.defaults_unambiguous` is the main statement, for every
zone, with what it means for fields: the layout that is remembered for a field never changes an
answer.
-/

namespace Intake

open Item Pattern

namespace Layout

/-- What a pattern layout makes of the components that it reads. -/
inductive Outcome where
  | instant
  | wallTime
  | midnight
  deriving DecidableEq

/-- The instant that components stand for. -/
def Outcome.conclude? (zone : Zone) (fields : Fields) : Outcome → Option Instant
  | instant => fields.toInstant?
  | wallTime => (fields.toWallTime? 0).bind zone.localize?
  | midnight => fields.toDate.toOption.bind fun date =>
    zone.localize? { date := date, clock := Clock.midnight }

/-- What a pattern layout does: its steps, and what it makes of the components. -/
def form? : Layout → Option (Outcome × List Item)
  | rfc3339 | rfc2822 => none
  | zoned pattern => some (.instant, squeeze (items pattern.toList))
  | naive pattern => some (.wallTime, squeeze (items pattern.toList))
  | date pattern => some (.midnight, squeeze (items pattern.toList))

variable {layout : Layout} {outcome : Outcome} {steps : List Item} {zone : Zone} {value : String}
  {instant : Instant}

/-- A pattern layout reads a value where its steps take all of it. -/
theorem read?_eq_some_iff (isForm : layout.form? = some (outcome, steps)) :
    layout.read? zone value = some instant ↔
      ∃ fields, scanAll steps .empty value.toList = some (fields, []) ∧
        outcome.conclude? zone fields = some instant := by
  have read_iff (pattern : String) (fields : Fields) : Pattern.read? pattern value = some fields ↔
      scanAll (squeeze (items pattern.toList)) .empty value.toList = some (fields, []) := by
    rw [scanAll_squeeze, Pattern.read?]
    constructor
    · intro read
      split at read
      · rename_i taken
        cases read
        exact taken
      · cases read
    · intro taken
      rw [taken]
  cases layout <;> simp only [form?, Option.some.injEq, Prod.mk.injEq, reduceCtorEq] at isForm <;>
    obtain ⟨rfl, rfl⟩ := isForm <;> simp only [← read_iff]
  · exact Option.bind_eq_some_iff
  · exact Option.bind_eq_some_iff
  · exact Option.bind_eq_some_iff

/-- What the default patterns do. The two that read an offset after a blank do the same. -/
def defaultForms : List (Outcome × List Item) :=
  [(.instant, isoDate ++ literal 'T' :: (hourMinuteSecond ++ [fraction, offset])),
    (.instant, isoDate ++ (hourMinuteSecond ++ [fraction, offset])),
    (.wallTime, isoDate ++ literal 'T' :: (hourMinuteSecond ++ [fraction])),
    (.wallTime, isoDate ++ (hourMinuteSecond ++ [fraction])),
    (.wallTime, [numeric .year, literal '/', numeric .month, literal '/', numeric .day] ++
      (hourMinuteSecond ++ [fraction])),
    (.instant, [numeric .day, literal '/', month false, literal '/', numeric .year, literal ':'] ++
      (hourMinuteSecond ++ [offset])),
    (.midnight, isoDate),
    (.midnight, [numeric .year, literal '/', numeric .month, literal '/', numeric .day]),
    (.midnight, [numeric .day, literal '-', month false, literal '-', numeric .year])]

theorem form?_of_mem_defaults : ∀ layout ∈ defaults, layout = rfc3339 ∨ layout = rfc2822 ∨
    ∃ form ∈ defaultForms, layout.form? = some form := by
  decide +kernel

theorem standards_mem_defaults : rfc3339 ∈ defaults ∧ rfc2822 ∈ defaults := by
  decide +kernel

theorem defaultForms_apart : ∀ left ∈ defaultForms, ∀ right ∈ defaultForms,
    left = right ∨ apart left.2 right.2 = true ∨ apart right.2 left.2 = true := by
  decide

theorem defaultForms_lead : ∀ form ∈ defaultForms, leads form.2 = true := by
  decide

/-- What an instant of the strict form is made of. -/
theorem exists_parts_of_rfc3339 (read : rfc3339.read? zone value = some instant) :
    ∃ wall seconds, Nonempty (Rfc3339.Parts value.toList wall seconds []) ∧
      wall.atOffset? seconds = some instant := by
  simp only [read?, Rfc3339.instant, Rfc3339.read] at read
  split at read
  · cases read
  · cases whole : Rfc3339.reader value.toList with
    | error fault =>
      rw [whole] at read
      cases read
    | ok pair =>
      obtain ⟨⟨wall, seconds⟩, rest⟩ := pair
      rw [whole] at read
      cases rest with
      | cons c others => cases read
      | nil =>
        simp only [bind, Except.bind] at read
        split at read
        · cases read
        · rename_i result checked
          split at checked
          · cases checked
            split at read
            · rename_i found isFound
              cases read
              exact ⟨wall, seconds, Rfc3339.exists_parts whole, isFound⟩
            · cases read
          · cases checked

/-- A pattern that goes on after the date with a clock reading and an offset makes the instant of
the strict form. -/
theorem agrees_after_clock {wall : WallTime} {seconds : Int} {text : List Char}
    (parts : Rfc3339.Parts text wall seconds []) {fields : Fields}
    (read : scanAll (hourMinuteSecond ++ [fraction, offset]) parts.dateFields parts.afterMark =
      some (fields, []))
    (concluded : fields.toInstant? = some instant) : wall.atOffset? seconds = some instant := by
  obtain ⟨nano, isNano, read⟩ := parts.scan_clock read
  have noted := parts.scan_offset read (by cases nano <;> rfl)
  exact parts.atOffset?_of_toInstant? isNano (noted ▸ concluded)

/-- A form that reads a value of the strict form makes the same instant of it. -/
theorem agrees_with_rfc3339 {form : Outcome × List Item} (inside : form ∈ defaultForms)
    {wall : WallTime} {seconds : Int} {text : List Char}
    (parts : Rfc3339.Parts text wall seconds []) {fields : Fields}
    (read : scanAll form.2 .empty text = some (fields, []))
    (concluded : form.1.conclude? zone fields = some instant) :
    wall.atOffset? seconds = some instant := by
  simp only [defaultForms, List.mem_cons, List.not_mem_nil, or_false] at inside
  rcases inside with rfl | rfl | rfl | rfl | rfl | rfl | rfl | rfl | rfl
  · exact agrees_after_clock parts (parts.scan_after_letter (parts.scan_isoDate read)) concluded
  · exact agrees_after_clock parts (parts.scan_after_blanks (parts.scan_isoDate read)) concluded
  · obtain ⟨nano, -, ended⟩ := parts.scan_clock (parts.scan_after_letter (parts.scan_isoDate read))
    exact (parts.not_scan_nil_after_clock ended).elim
  · obtain ⟨nano, -, ended⟩ := parts.scan_clock (parts.scan_after_blanks (parts.scan_isoDate read))
    exact (parts.not_scan_nil_after_clock ended).elim
  · exact (parts.not_scan_slash read).elim
  · exact (parts.not_scan_day (by decide) read).elim
  · exact (parts.not_scan_nil_after_date (parts.scan_isoDate (List.append_nil isoDate ▸ read))).elim
  · exact (parts.not_scan_slash read).elim
  · exact (parts.not_scan_day (by decide) read).elim

/-- A mail date that is read starts as mail dates do. -/
theorem exists_reader_of_rfc2822 (read : rfc2822.read? zone value = some instant) :
    ∃ fields rest, Rfc2822.reader value.toList = some (fields, rest) := by
  obtain ⟨_, read, -⟩ := Option.bind_eq_some_iff.1 read
  obtain ⟨⟨fields, rest⟩, read, -⟩ := Option.bind_eq_some_iff.1 read
  exact ⟨fields, rest, read⟩

/-- No value is both of the strict form and a mail date. -/
theorem not_rfc3339_and_rfc2822 {other : Instant}
    (strict : rfc3339.read? zone value = some instant)
    (mail : rfc2822.read? zone value = some other) : False := by
  obtain ⟨wall, seconds, ⟨parts⟩, -⟩ := exists_parts_of_rfc3339 strict
  obtain ⟨fields, rest, mail⟩ := exists_reader_of_rfc2822 mail
  rcases Rfc2822.start_of_reader mail with
    ⟨c, others, same, letter⟩ | ⟨day, c, others, isDay, blank⟩
  · obtain ⟨first, rest, isText, digit⟩ := parts.exists_first_digit
    rw [isText, trimStart_cons_of_not_blank (isBlank_of_isDigit digit)] at same
    cases same
    simp [(isLetter_apart letter).1] at digit
  · simp [isBlank_of_isDigit (parts.isDigit_after_day isDay)] at blank

/-- A form and a standard layout agree where they both read a value. -/
theorem form_agrees {form : Outcome × List Item} (inside : form ∈ defaultForms)
    (isForm : layout.form? = some form) {standard : Layout}
    (isStandard : standard = rfc3339 ∨ standard = rfc2822) {other : Instant}
    (read : layout.read? zone value = some instant)
    (readStandard : standard.read? zone value = some other) : other = instant := by
  obtain ⟨fields, taken, concluded⟩ := (read?_eq_some_iff isForm).1 read
  rcases isStandard with rfl | rfl
  · obtain ⟨wall, seconds, ⟨parts⟩, isOther⟩ := exists_parts_of_rfc3339 readStandard
    exact Option.some.inj (isOther.symm.trans (agrees_with_rfc3339 inside parts taken concluded))
  · obtain ⟨_, _, mail⟩ := exists_reader_of_rfc2822 readStandard
    exact (Rfc2822.not_both_of_leads (defaultForms_lead form inside) mail taken).elim

/-- Two forms agree where they both read a value. -/
theorem forms_agree {left right : Layout} {leftForm rightForm : Outcome × List Item}
    (insideLeft : leftForm ∈ defaultForms) (insideRight : rightForm ∈ defaultForms)
    (isLeft : left.form? = some leftForm) (isRight : right.form? = some rightForm)
    {leftInstant rightInstant : Instant} (readLeft : left.read? zone value = some leftInstant)
    (readRight : right.read? zone value = some rightInstant) : leftInstant = rightInstant := by
  obtain ⟨_, takenLeft, concludedLeft⟩ := (read?_eq_some_iff isLeft).1 readLeft
  obtain ⟨_, takenRight, concludedRight⟩ := (read?_eq_some_iff isRight).1 readRight
  rcases defaultForms_apart leftForm insideLeft rightForm insideRight with rfl | apart | apart
  · cases takenLeft.symm.trans takenRight
    exact Option.some.inj (concludedLeft.symm.trans concludedRight)
  · exact (not_both_of_apart apart takenLeft takenRight).elim
  · exact (not_both_of_apart apart takenRight takenLeft).elim

/-- Two default layouts that read one value read it as the same instant. -/
theorem agree_of_mem_defaults {left right : Layout} (isLeft : left ∈ defaults)
    (isRight : right ∈ defaults) {leftInstant rightInstant : Instant}
    (readLeft : left.read? zone value = some leftInstant)
    (readRight : right.read? zone value = some rightInstant) : leftInstant = rightInstant := by
  rcases form?_of_mem_defaults left isLeft with rfl | rfl | ⟨leftForm, insideLeft, leftIs⟩ <;>
    rcases form?_of_mem_defaults right isRight with rfl | rfl | ⟨rightForm, insideRight, rightIs⟩
  · exact Option.some.inj (readLeft.symm.trans readRight)
  · exact (not_rfc3339_and_rfc2822 readLeft readRight).elim
  · exact form_agrees insideRight rightIs (.inl rfl) readRight readLeft
  · exact (not_rfc3339_and_rfc2822 readRight readLeft).elim
  · exact Option.some.inj (readLeft.symm.trans readRight)
  · exact form_agrees insideRight rightIs (.inr rfl) readRight readLeft
  · exact (form_agrees insideLeft leftIs (.inl rfl) readLeft readRight).symm
  · exact (form_agrees insideLeft leftIs (.inr rfl) readLeft readRight).symm
  · exact forms_agree insideLeft insideRight leftIs rightIs readLeft readRight

end Layout

namespace LayoutReader

/-- The instant of a value is the one at which scanning stops. -/
theorem map_fst_read? (reader : LayoutReader) (value : String) :
    (reader.read? value).map Prod.fst = (reader.scan value).map Prod.fst := by
  unfold read?
  cases scanned : reader.scan value with
  | none => rfl
  | some found =>
    obtain ⟨-, layout, held, -⟩ := scan_eq_some scanned
    simp [held]

/-- The layout that is remembered does not read the empty value . -/
theorem readCached?_empty_value (reader : LayoutReader) (cache : LayoutCache) (key : String) :
     reader.readCached? cache key "" = none := by
  refine Option.eq_none_iff_forall_ne_some.2 fun instant read => ?_
  obtain ⟨index, -, read⟩ := Option.bind_eq_some_iff.1 read
  obtain ⟨layout, -, read⟩ := Option.bind_eq_some_iff.1 read
  rw [Layout.read?_empty] at read
  cases read

/-- The layouts that are remembered after fields were read. -/
def rememberedAfter (reader : LayoutReader) (calls : List (String × String)) : LayoutCache :=
  calls.foldl (fun cache call => (reader.readField cache call.1 call.2).2) .empty

theorem earned_rememberedAfter (reader : LayoutReader) (calls : List (String × String)) :
    reader.Earned (reader.rememberedAfter calls) := by
  induction calls using List.reverseRecOn with
  | nil => exact .empty reader
  | append_singleton calls call ih =>
    rw [rememberedAfter, List.foldl_append]
    exact ih.readField call.1 call.2

/-- With the default layouts, in any zone, no value is read as two instants.

Two of them that read one value read it as the same instant, so a field is read as its value alone
is, whatever fields were read before. -/
theorem defaults_unambiguous (zone : Zone) :
    (∀ value, ∀ left ∈ Layout.defaults, ∀ right ∈ Layout.defaults, ∀ leftInstant rightInstant,
      left.read? zone value = some leftInstant → right.read? zone value = some rightInstant →
      leftInstant = rightInstant) ∧
    ∀ (calls : List (String × String)) (key value : String),
      let reader : LayoutReader := { layouts := Layout.defaults, zone }
      (reader.readField (reader.rememberedAfter calls) key value).1 =
        (reader.read? value).map Prod.fst := by
  have agree : ∀ value, ∀ left ∈ Layout.defaults, ∀ right ∈ Layout.defaults,
      ∀ leftInstant rightInstant, left.read? zone value = some leftInstant →
      right.read? zone value = some rightInstant → leftInstant = rightInstant :=
    fun value left isLeft right isRight _ _ readLeft readRight =>
      Layout.agree_of_mem_defaults isLeft isRight readLeft readRight
  refine ⟨agree, fun calls key value => ?_⟩
  intro reader
  rw [map_fst_read?]
  by_cases given : value = ""
  · subst given
    rw [readField_fst, readCached?_empty_value]
    rfl
  · have steady : reader.Steady := steady_of_agree fun left isLeft right isRight value _ _ =>
      agree value left isLeft right isRight _ _
    exact steady.readField_fst (earned_rememberedAfter reader calls) given

/-- A time that a blank and an offset follow is read by two of the default layouts. -/
theorem spaced_offset_unambiguous :
    ∃ instant, Layout.rfc3339.read? .utc "2021-01-02 03:04:05+01:00" = some instant ∧
      (Layout.zoned "%Y-%m-%d %H:%M:%S%.f %z").read? .utc "2021-01-02 03:04:05+01:00" =
        some instant := by
  obtain ⟨left, readLeft⟩ := Option.isSome_iff_exists.1
    (by decide +kernel : (Layout.rfc3339.read? .utc "2021-01-02 03:04:05+01:00").isSome = true)
  obtain ⟨right, readRight⟩ := Option.isSome_iff_exists.1
    (by decide +kernel : ((Layout.zoned "%Y-%m-%d %H:%M:%S%.f %z").read? .utc
      "2021-01-02 03:04:05+01:00").isSome = true)
  have same := (defaults_unambiguous .utc).1 _ _ (by decide +kernel) _ (by decide +kernel) _ _
    readLeft readRight
  exact ⟨left, readLeft, same ▸ readRight⟩

end LayoutReader

end Intake
