import Intake.Cli.Message
import Intake.Proofs.Json.Members
import Intake.Proofs.Record.Extraction
import Intake.Proofs.Record.Writable
import Intake.Record.Reader

/-!
# Rows that are read again

A row is printed as a JSON object with a member for each column. Read again, each column from the
member of its own name, it is the same row, unless it has a leap second in the middle of a minute,
which is printed as an ordinary second: `Record.extractRow_idempotent_iff` says so, whatever is
remembered at either time. Zones that run whole minutes ahead have no such leap seconds. The layouts
are the defaults, since layouts of one's own need not read the form in which date-times are written,
and the years are those from 0 to 9999, since other years are written with a sign.
-/

namespace Intake

/-- The column that is read from the field of its own name. -/
def Column.direct (column : Column) : Column := { column with source := none }

/-- The JSON object of a row: the JSON form of each value under the name of its column. -/
def rowJson (columns : List Column) (values : List ColumnValue) : Json :=
  .ofMembers (((columns.map Column.name).zip values).map fun value => (value.1, value.2.toJson))

/-- The message for a row has the object of the row. -/
theorem Cli.Message.member?_row (table : String) (columns : List Column)
    (values : List ColumnValue) :
    (row table ((columns.map Column.name).zip values)).toJson.member? "row" =
      some (rowJson columns values) := by
  change entryAt? "row" (insertEntry "row" (rowJson columns values) _) = _
  rw [entryAt?_insertEntry, if_pos rfl]

/-- All instants in the value lie in the years from 0 to 9999 of universal time. -/
def ColumnValue.InYears (value : ColumnValue) : Prop :=
  ∀ instant ∈ value.instants,
    0 ≤ instant.toWallTime.date.year ∧ instant.toWallTime.date.year ≤ 9999

theorem ColumnValue.inYears_dateTime {instant : Instant} : (dateTime instant).InYears ↔
    0 ≤ instant.toWallTime.date.year ∧ instant.toWallTime.date.year ≤ 9999 :=
  List.forall_mem_singleton

/-! ## What values settle to -/

/-- The array with all its instants settled. -/
def ColumnArray.settled : ColumnArray → ColumnArray
  | dateTimes values => dateTimes (values.map Instant.settled)
  | ints values => ints values
  | floats values => floats values
  | strings values => strings values

/-- The value with all its instants settled, as it is read again from its JSON form. -/
def ColumnValue.settled : ColumnValue → ColumnValue
  | dateTime value => dateTime value.settled
  | array values => array values.settled
  | null => null
  | int value => int value
  | float value => float value
  | string value => string value

/-- A list is left alone exactly where each of its elements is. -/
theorem map_eq_self_iff {α : Type} {f : α → α} {values : List α} :
    values.map f = values ↔ ∀ value ∈ values, f value = value := by
  induction values with
  | nil => simp
  | cons value rest ih => simp [ih]

theorem ColumnValue.settled_eq_self_iff {value : ColumnValue} :
    value.settled = value ↔ value.Regular := by
  cases value with
  | dateTime value =>
    simp only [settled, dateTime.injEq, Instant.settled_eq_self_iff, Regular, instants,
      List.mem_singleton, forall_eq]
  | array values =>
    cases values with
    | dateTimes values =>
      simp only [settled, ColumnArray.settled, array.injEq, ColumnArray.dateTimes.injEq,
        map_eq_self_iff, Instant.settled_eq_self_iff, Regular, instants]
    | ints | floats | strings => exact iff_of_true rfl fun _ inside => nomatch inside
  | null | int | float | string => exact iff_of_true rfl fun _ inside => nomatch inside

/-! ## Values -/

theorem Json.toInt?_ofInt {value : Int} (inRange : Signed64 value) :
    (Json.ofInt value).toInt? = some value := by
  have kept : leastInteger ≤ value ∧ value ≤ greatestInteger := by
    unfold Signed64 at inRange
    unfold leastInteger greatestInteger
    omega
  rw [Json.ofInt, Number.ofInt?, dif_pos kept]
  exact if_pos inRange.2

theorem toFloat?_floatToJson {value : Float} (finite : value.isFinite = true) :
    (floatToJson value).toFloat? = some value := by
  rw [floatToJson, Number.ofDouble?, dif_pos finite]
  rfl

/-- What is decoded from codes is what was encoded. -/
theorem map_map_of_forall {α β : Type} {encode : α → β} {decode : β → α} {values : List α}
    (each : ∀ value ∈ values, decode (encode value) = value) :
    (values.map encode).map decode = values := by
  rw [List.map_map]
  exact (List.map_congr_left each).trans (List.map_id values)

section

variable {context : ReadContext} (layouts : context.reader.layouts = Layout.defaults)
include layouts

theorem LayoutReader.steady_of_defaults : context.reader.Steady :=
  steady_of_agree fun _ isLeft _ isRight _ _ _ =>
    Layout.agree_of_mem_defaults (layouts ▸ isLeft) (layouts ▸ isRight)

/-- The written form of a regular instant is read as the instant, whatever is remembered. -/
theorem Instant.toInstant?_toJson_of_regular {instant : Instant} (regular : instant.Regular)
    (inYears : 0 ≤ instant.toWallTime.date.year ∧ instant.toWallTime.date.year ≤ 9999)
    (key : String) {cache : LayoutCache} (earned : context.reader.Earned cache) :
    (instant.toJson.toInstant? context key cache).1 = some instant := by
  have isStrict : Layout.rfc3339 ∈ Layout.defaults := Layout.standards_mem_defaults.1
  have read : Layout.rfc3339.read? context.reader.zone instant.written = some instant := by
    rw [Layout.read?, Rfc3339.instant_written regular inYears]
    rfl
  have given : instant.written ≠ "" := by
    intro empty
    rw [empty, Layout.read?_empty] at read
    cases read
  -- Another layout may be remembered for the field; the defaults agree on what they read.
  rw [toJson, Json.toInstant?_string given,
    (LayoutReader.steady_of_defaults layouts).readField_fst earned given]
  exact LayoutReader.scan_of_agree (fun _ isLeft _ isRight _ _ =>
    Layout.agree_of_mem_defaults (layouts ▸ isLeft) (layouts ▸ isRight)) given
    (layouts ▸ isStrict) read

/-- The written form of an instant is read as the instant that it settles to. -/
theorem Instant.toInstant?_toJson {instant : Instant}
    (inYears : 0 ≤ instant.toWallTime.date.year ∧ instant.toWallTime.date.year ≤ 9999)
    (key : String) {cache : LayoutCache} (earned : context.reader.Earned cache) :
    (instant.toJson.toInstant? context key cache).1 = some instant.settled := by
  have sameDate : instant.settled.toWallTime.date = instant.toWallTime.date := by
    by_cases regular : instant.Regular
    · rw [settled_of_regular regular]
    · exact (toWallTime_settled regular).1
  have sameForm : instant.settled.toJson = instant.toJson := by rw [toJson, written_settled, toJson]
  rw [← sameForm]
  exact toInstant?_toJson_of_regular layouts instant.regular_settled (sameDate ▸ inYears) key earned

/-- A single value is read back from its JSON form, settled. -/
theorem ColumnValue.toScalar?_toJson {value : ColumnValue} {type : ScalarType}
    (isType : value.type? = some (.scalar type)) (writable : value.Writable)
    (inYears : value.InYears) (key : String) {cache : LayoutCache}
    (earned : context.reader.Earned cache) :
    value.toJson.toScalar? context key type cache = some value.settled := by
  cases value with
  | null | array => cases isType
  | int value =>
    cases isType
    exact congrArg (Option.map ColumnValue.int) (Json.toInt?_ofInt writable)
  | float value =>
    cases isType
    exact congrArg (Option.map ColumnValue.float) (toFloat?_floatToJson writable)
  | string value =>
    cases isType
    rfl
  | dateTime value =>
    cases isType
    exact congrArg (Option.map ColumnValue.dateTime)
      (Instant.toInstant?_toJson layouts (inYears_dateTime.1 inYears) key earned)

namespace Record

omit layouts in
/-- A column of a scalar type has the value that its field is as a value of the type. -/
theorem getValue_of_toScalar? {record : Record} {column : Column} {field : Json}
    (held : record.find? column.sourceKey = some field) {type : ScalarType}
    (isScalar : column.type = .scalar type) {cache : LayoutCache} {value : ColumnValue}
    (read : field.toScalar? context column.sourceKey type cache = some value) :
    ((record.getValue context column).run cache).1 = .ok value := by
  rw [getValue_held held rfl isScalar, read]
  rfl

omit layouts in
theorem getValue_of_toInstant? {record : Record} {column : Column} {field : Json}
    (held : record.find? column.sourceKey = some field)
    (isDateTime : column.type = .scalar .dateTime) {cache : LayoutCache} {instant : Instant}
    (read : (field.toInstant? context column.sourceKey cache).1 = some instant) :
    ((record.getValue context column).run cache).1 = .ok (.dateTime instant) :=
  getValue_of_toScalar? held isDateTime (congrArg (Option.map ColumnValue.dateTime) read)

/-- Instants of an array are read back from their written forms, settled. -/
theorem instants_toJson {values : List Instant}
    (inYears : ∀ value ∈ values,
      0 ≤ value.toWallTime.date.year ∧ value.toWallTime.date.year ≤ 9999)
    (key : String) {cache : LayoutCache} (earned : context.reader.Earned cache) :
    (instants context key (values.map Instant.toJson) cache).1 = values.map Instant.settled := by
  induction values generalizing cache with
  | nil => rfl
  | cons value rest ih =>
    obtain ⟨inYear, inOthers⟩ := List.forall_mem_cons.1 inYears
    have kept := (value.toJson.toInstant?_repeatable
      (LayoutReader.steady_of_defaults layouts) key).earned earned
    rw [List.map_cons, instants_cons, ih inOthers kept,
      Instant.toInstant?_toJson layouts inYear key earned]
    rfl

/-- An array is read back from its JSON form, settled. -/
theorem getArray_toJson {record : Record} {key : String} {values : ColumnArray}
    (held : record.find? key = some values.toJson) (writable : values.Writable)
    (inYears : (ColumnValue.array values).InYears) {cache : LayoutCache}
    (earned : context.reader.Earned cache) :
    (record.getArray context key values.element cache).1 = values.settled := by
  cases values with
  | ints values =>
    change ColumnArray.ints ((record.elements key).map _) = _
    rw [elements_of_find? held, map_map_of_forall]
    · rfl
    · exact fun value inside => (Json.elementInt_eq _).trans
        (congrArg (Option.getD · 0) (Json.toInt?_ofInt (writable value inside)))
  | floats values =>
    change ColumnArray.floats ((record.elements key).map _) = _
    rw [elements_of_find? held, map_map_of_forall]
    · rfl
    · exact fun value inside =>
        congrArg (Option.getD · 0.0) (toFloat?_floatToJson (writable value inside))
  | strings values =>
    change ColumnArray.strings ((record.elements key).map _) = _
    rw [elements_of_find? held, map_map_of_forall]
    · rfl
    · exact fun value _ => rfl
  | dateTimes values =>
    have read : (instants context key (values.map Instant.toJson) cache).1 = _ :=
      instants_toJson layouts inYears key earned
    rw [ColumnArray.element, getArray_dateTime context held, read]
    rfl

/-- A column has the value whose JSON form its field holds, settled. -/
theorem getValue_toJson {record : Record} {column : Column} {value : ColumnValue}
    (takes : column.Takes value) (writable : value.Writable) (inYears : value.InYears)
    (held : record.find? column.sourceKey = some value.toJson) {cache : LayoutCache}
    (earned : context.reader.Earned cache) :
    ((record.getValue context column).run cache).1 = .ok value.settled := by
  rcases takes with isType | ⟨rfl, nullable, type, isScalar⟩
  · cases type : column.type with
    | unknown =>
      rw [type] at isType
      cases value <;> cases isType
    | scalar scalar =>
      have read := value.toScalar?_toJson layouts (isType.trans (congrArg some type)) writable
        inYears column.sourceKey earned
      exact getValue_of_toScalar? held type read
    | array element =>
      rw [type] at isType
      cases value with
      | array values =>
        obtain rfl := FieldType.array.inj (Option.some.inj isType)
        have read := getArray_toJson layouts held writable inYears earned
        unfold getValue
        rw [type]
        exact congrArg (Except.ok ∘ ColumnValue.array) read
      | null | int | float | string | dateTime => cases isType
  · rw [getValue_scalar held rfl nullable isScalar]
    cases type <;> rfl

end Record

end

/-! ## Rows -/

/-- An object whose members have distinct names is a record with these fields. -/
theorem Record.exists_ofJson {members : List (String × Json)}
    (distinct : (members.map Prod.fst).Nodup) :
    ∃ record : Record, Record.ofJson (.ofMembers members) = .ok record ∧
      ∀ name value, (name, value) ∈ members → record.find? name = some value := by
  -- The members of an object are sorted, and a record is made of them by putting them in again.
  obtain ⟨sorted, isObject, same⟩ := Json.exists_ofMembers distinct
  have distinctSorted := (same.map Prod.fst).nodup_iff.2 distinct
  refine ⟨_, congrArg Record.ofJson isObject, fun name value inside => ?_⟩
  exact NameMap.find?_foldl distinctSorted (same.mem_iff.2 inside)

/-- A row is the values of its columns, each read with nothing remembered. -/
theorem Record.freshRow_eq {context : ReadContext} {record : Record} {columns : List Column}
    {values : List ColumnValue}
    (each : List.Forall₂ (fun column value =>
      ((record.getValue context column).run .empty).1 = .ok value) columns values) :
    record.freshRow context columns = .ok values := by
  induction each with
  | nil => rfl
  | cons first _ ih =>
    rw [freshRow, List.mapM_cons, first, ← freshRow, ih]
    rfl

/-- A row whose columns take its values, where these can be written with years of four digits,
settles to the row of its own object. -/
theorem Record.freshRow_rowJson {context : ReadContext}
    (layouts : context.reader.layouts = Layout.defaults) {columns : List Column}
    (distinct : (columns.map Column.name).Nodup) {values : List ColumnValue}
    (row : List.Forall₂ (fun column value => column.Takes value ∧ value.Writable) columns values)
    (inYears : ∀ value ∈ values, value.InYears) :
    ∃ again : Record, Record.ofJson (rowJson columns values) = .ok again ∧
      again.freshRow context (columns.map Column.direct) =
        .ok (values.map ColumnValue.settled) := by
  obtain ⟨size, paired⟩ := List.forall₂_iff_zip.1 row
  have names : ((((columns.map Column.name).zip values).map fun value =>
      (value.1, value.2.toJson)).map Prod.fst) = columns.map Column.name := by
    rw [List.map_map]
    exact List.map_fst_zip (Nat.le_of_eq ((List.length_map _).trans size))
  obtain ⟨again, isRecord, held⟩ := exists_ofJson (names ▸ distinct)
  refine ⟨again, isRecord, freshRow_eq (List.forall₂_map_left_iff.2 (List.forall₂_map_right_iff.2
    (List.forall₂_iff_zip.2 ⟨size, fun {column value} inside => ?_⟩)))⟩
  obtain ⟨takes, writable⟩ := paired inside
  have isField : again.find? column.name = some value.toJson := by
    refine held _ _ (List.mem_map.2 ⟨(column.name, value), ?_, rfl⟩)
    rw [List.zip_map_left]
    exact List.mem_map_of_mem inside
  have direct : column.direct.Takes value := takes
  exact getValue_toJson layouts direct writable (inYears value (List.of_mem_zip inside).2) isField
    (.empty context.reader)

/-- When a row that is read again is the same row.

With the default layouts and any zone, unit and epoch, take columns with distinct names and known
types. A record has a row whatever was asked before. If the date-times in it lie in years of four
digits, then the object that is printed for the row is a record, and its row, each column reading
the field of its own name, is the same again, whatever was asked before that, exactly if the row has
no leap second in the middle of a minute. In a zone of whole minutes and with a regular epoch it has
none. -/
theorem Record.extractRow_idempotent_iff {context : ReadContext}
    (layouts : context.reader.layouts = Layout.defaults) {columns : List Column}
    (distinct : (columns.map Column.name).Nodup)
    (known : ∀ column ∈ columns, column.type ≠ .unknown) (record : Record)
    (history : List (Record × Getter)) (table : String) :
    ∃ values,
      ((record.extractRow context columns).run (remembered context history)).1 = .ok values ∧
      (context.reader.zone.WholeMinutes → context.epoch.Regular →
        ∀ value ∈ values, value.Regular) ∧
      ((∀ value ∈ values, value.InYears) → ∃ written again,
        (Cli.Message.row table ((columns.map Column.name).zip values)).toJson.member? "row" =
          some written ∧
        Record.ofJson written = .ok again ∧
        ∀ later, ((again.extractRow context (columns.map Column.direct)).run
            (remembered context later)).1 = .ok values ↔
          ∀ value ∈ values, value.Regular) := by
  have steady := LayoutReader.steady_of_defaults layouts
  obtain ⟨values, after, ran, row, -⟩ :=
    record.extractRow_succeeds context known (remembered context history)
  refine ⟨values, by rw [ran], fun whole regular value inside => ?_, fun inYears => ?_⟩
  · obtain ⟨index, bound, rfl⟩ := List.mem_iff_getElem.1 inside
    have there := row.length_eq ▸ bound
    obtain ⟨-, earlier, answered⟩ := row.get there bound
    exact regular_of_getValue whole regular answered
  · have fits : List.Forall₂ (fun column value => column.Takes value ∧ value.Writable) columns
        values :=
      row.imp fun column value ⟨takes, earlier, answered⟩ => ⟨takes, writable_of_getValue answered⟩
    obtain ⟨again, isRecord, isRow⟩ := freshRow_rowJson layouts distinct fits inYears
    refine ⟨rowJson columns values, again, Cli.Message.member?_row .., isRecord, fun later => ?_⟩
    rw [extractRow_eq_freshRow steady again _ (earned_remembered steady later), isRow,
      Except.ok.injEq, map_eq_self_iff]
    exact forall₂_congr fun value _ => ColumnValue.settled_eq_self_iff

/-- A context five hours and a half ahead of universal time. -/
def aheadContext : ReadContext := { reader := { zone := .fixed { seconds := 19800 } } }

/-- A date-time that is renamed, and a flag that counts as an integer. -/
def leapColumns : List Column :=
  [{ name := "at", source := some "ts", type := .scalar .dateTime },
    { name := "up", type := .scalar .int }]

/-- The middle of the leap second at the end of 2016, as the wall shows it. -/
def leapRecord : Record :=
  (Record.single "ts" (.string "2017-01-01T05:29:60.5")).insert "up" (.bool true)

/-- What these columns read from this record. -/
def leapRow : List ColumnValue :=
  [.dateTime { seconds := 1483228799, nano := 1500000000 }, .int 1]

/-- A day was read from the same field before, so that the layout of days is remembered for it. -/
def dayHistory : List (Record × Getter) :=
  [(Record.single "ts" (.string "2021-01-02"), .dateTime "ts" true)]

theorem leapRecord_row : ((leapRecord.extractRow aheadContext leapColumns).run
    (remembered aheadContext dayHistory)).1 = .ok leapRow := by
  have steady : aheadContext.reader.Steady := LayoutReader.steady_of_defaults rfl
  have moment : ((Json.string "2017-01-01T05:29:60.5").toInstant? aheadContext "ts" .empty).1 =
      some { seconds := 1483228799, nano := 1500000000 } := by decide +kernel
  have ts : leapRecord.find? "ts" = some (.string "2017-01-01T05:29:60.5") := by
    simp [leapRecord]
  have up : leapRecord.find? "up" = some (.bool true) := by simp [leapRecord]
  rw [Record.extractRow_eq_freshRow steady _ _ (earned_remembered steady dayHistory)]
  exact Record.freshRow_eq (.cons (Record.getValue_of_toInstant? ts rfl moment)
    (.cons (Record.getValue_of_toScalar? up rfl rfl) .nil))

theorem leapRow_inYears : ∀ value ∈ leapRow, value.InYears :=
  List.forall_mem_cons.2 ⟨ColumnValue.inYears_dateTime.2 (by decide +kernel),
    List.forall_mem_singleton.2 fun _ held => nomatch held⟩

/-- The leap second is printed in universal time and is read back from there. The zone is one that
can be named, and so is the epoch. -/
theorem leapRow_again :
    ((leapRecord.extractRow aheadContext leapColumns).run
      (remembered aheadContext dayHistory)).1 = .ok leapRow ∧
    ∃ written again,
      (Cli.Message.row "loads" ((leapColumns.map Column.name).zip leapRow)).toJson.member? "row" =
        some written ∧
      Record.ofJson written = .ok again ∧
      ∀ later, ((again.extractRow aheadContext (leapColumns.map Column.direct)).run
        (remembered aheadContext later)).1 = .ok leapRow := by
  have layouts : aheadContext.reader.layouts = Layout.defaults := rfl
  have named : Zone.ofText? .eastern "+05:30" = some aheadContext.reader.zone := by decide +kernel
  have whole := (Zone.nameable_of_ofText? named).wholeMinutes ⟨by decide, by decide⟩
  have epoch : Settings.epochOf none = .ok aheadContext.epoch := rfl
  obtain ⟨values, isRow, regular, again⟩ := Record.extractRow_idempotent_iff layouts
    (by decide : (leapColumns.map Column.name).Nodup) (by decide) leapRecord dayHistory "loads"
  obtain rfl := Except.ok.inj (isRow.symm.trans leapRecord_row)
  obtain ⟨written, record, isMember, isRecord, same⟩ := again leapRow_inYears
  exact ⟨leapRecord_row, written, record, isMember, isRecord, fun later =>
    (same later).2 (regular whole (Settings.regular_of_epochOf epoch))⟩

/-- A context half a minute ahead of universal time. -/
def halfMinuteContext : ReadContext := { reader := { zone := .fixed { seconds := 30 } } }

/-- One date-time. -/
def momentColumns : List Column := [{ name := "ts", type := .scalar .dateTime }]

/-- The leap second at the end of 2016, as the wall shows it. -/
def momentRecord : Record := .single "ts" (.string "2016-12-31T23:59:60")

/-- The leap second, which is in the middle of a minute of universal time. -/
def momentRow : List ColumnValue := [.dateTime { seconds := 1483228769, nano := 1000000000 }]

theorem momentRecord_row : ((momentRecord.extractRow halfMinuteContext momentColumns).run
    (remembered halfMinuteContext [])).1 = .ok momentRow := by
  have steady : halfMinuteContext.reader.Steady := LayoutReader.steady_of_defaults rfl
  have moment : ((Json.string "2016-12-31T23:59:60").toInstant? halfMinuteContext "ts" .empty).1 =
      some { seconds := 1483228769, nano := 1000000000 } := by decide +kernel
  have ts : momentRecord.find? "ts" = some (.string "2016-12-31T23:59:60") := by
    simp [momentRecord]
  rw [Record.extractRow_eq_freshRow steady _ _ (earned_remembered steady [])]
  exact Record.freshRow_eq (.cons (Record.getValue_of_toInstant? ts rfl moment) .nil)

theorem momentRow_inYears : ∀ value ∈ momentRow, value.InYears :=
  List.forall_mem_singleton.2 (ColumnValue.inYears_dateTime.2 (by decide +kernel))

/-- The object of the row is a record, whose row is the next second. -/
theorem momentRow_settles : ∃ again : Record,
    Record.ofJson (rowJson momentColumns momentRow) = .ok again ∧
      again.freshRow halfMinuteContext (momentColumns.map Column.direct) =
        .ok [.dateTime { seconds := 1483228770, nano := 0 }] := by
  have fits : List.Forall₂ (fun column value => column.Takes value ∧ value.Writable)
      momentColumns momentRow := .cons ⟨.inl rfl, trivial⟩ .nil
  exact Record.freshRow_rowJson rfl (by decide) fits momentRow_inYears

/-- The text that is printed for the row of the record in a text, with nothing remembered. -/
def rowText? (context : ReadContext) (columns : List Column) (text : String) : Option String := do
  let record ← (Record.read (Utf8.encode text.toList)).toOption
  let values ← ((record.extractRow context columns).run .empty).1.toOption
  pure (rowJson columns values).compact

/-- Half a minute ahead of universal time, a leap second is read back as the second after it. The
text that is printed for a row does not stand for its object either: digits are not always read as
the nearest double, so doubles need not be read back from their digits. -/
theorem momentRow_not_again :
    (((momentRecord.extractRow halfMinuteContext momentColumns).run
        (remembered halfMinuteContext [])).1 = .ok momentRow ∧
      (∀ value ∈ momentRow, value.InYears) ∧
      ∃ written again,
        (Cli.Message.row "loads" ((momentColumns.map Column.name).zip momentRow)).toJson.member?
          "row" = some written ∧
        Record.ofJson written = .ok again ∧
        ∀ later, ((again.extractRow halfMinuteContext (momentColumns.map Column.direct)).run
          (remembered halfMinuteContext later)).1 =
            .ok [.dateTime { seconds := 1483228770, nano := 0 }]) ∧
    [.dateTime { seconds := 1483228770, nano := 0 }] ≠ momentRow ∧
    rowText? {} [{ name := "x", type := .scalar .float }] "\x7b\"x\":1e-25\x7d" =
        some "\x7b\"x\":9.999999999999999e-26\x7d" ∧
      rowText? {} [{ name := "x", type := .scalar .float }]
          "\x7b\"x\":9.999999999999999e-26\x7d" =
        some "\x7b\"x\":1e-25\x7d" := by
  have steady : halfMinuteContext.reader.Steady := LayoutReader.steady_of_defaults rfl
  obtain ⟨again, isRecord, isRow⟩ := momentRow_settles
  refine ⟨⟨momentRecord_row, momentRow_inYears, _, again, Cli.Message.member?_row .., isRecord,
    fun later => ?_⟩, ?_, by decide +kernel, by decide +kernel⟩
  · rw [Record.extractRow_eq_freshRow steady again _ (earned_remembered steady later), isRow]
  · intro same
    cases same

end Intake
