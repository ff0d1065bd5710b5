import Intake.Proofs.Layout.Reader
import Intake.Record.Basic
import Mathlib.Data.List.Induction

/-!
# Getters and what was read before

Getters share the layouts that are remembered for fields, so what one answers may depend on what was
read before. It does not exactly where the layouts are steady: whatever a layout that can be
remembered reads, the first layout that reads it reads as the same instant. `historyFree_iff_steady`
says so, and `dayOrMonth_array_differs` is a list of two layouts that is not steady.
-/

namespace Intake

/-- What can be asked of a record. -/
inductive Getter where
  | string (key : String) (nullable : Bool)
  | float (key : String) (nullable : Bool)
  | int (key : String) (nullable : Bool)
  | dateTime (key : String) (nullable : Bool)
  | unixSeconds (key : String) (nullable : Bool)
  | array (key : String) (element : ScalarType)
  | value (column : Column)

/-- What a record answers. -/
inductive Reading where
  | string (value : Option String)
  | float (value : Option Float)
  | int (value : Option Int)
  | dateTime (value : Option Instant)
  | unixSeconds (value : Option Int)
  | array (values : ColumnArray)
  | value (outcome : Except Misuse ColumnValue)

/-- Ask a record. -/
def Getter.read (context : ReadContext) (record : Record) : Getter → Remembering Reading
  | string key nullable => pure (.string (record.getString key nullable))
  | float key nullable => pure (.float (record.getFloat key nullable))
  | int key nullable => pure (.int (record.getInt key nullable))
  | dateTime key nullable => return .dateTime (← record.getDateTime context key nullable)
  | unixSeconds key nullable => return .unixSeconds (← record.getUnixSeconds context key nullable)
  | array key element => return .array (← record.getArray context key element)
  | value column => return .value (← (record.getValue context column).run)

/-- What is remembered after records were asked, one after the other. -/
def remembered (context : ReadContext) (history : List (Record × Getter)) : LayoutCache :=
  history.foldl (fun cache asked => (asked.2.read context asked.1 cache).2) .empty

/-- What a getter answers never depends on what was asked before. -/
def HistoryFree (context : ReadContext) : Prop :=
  ∀ history (record : Record) (getter : Getter),
    (getter.read context record (remembered context history)).1 =
      (getter.read context record .empty).1

/-- The rows of records that are read one after the other. -/
def extractRows (context : ReadContext) (columns : List Column) :
    List Record → Remembering (List (Except Misuse (List ColumnValue)))
  | [] => pure []
  | record :: rest => do
    let row ← (record.extractRow context columns).run
    let rows ← extractRows context columns rest
    pure (row :: rows)

/-- The row of a record, each column being read as if nothing were remembered. -/
def Record.freshRow (context : ReadContext) (columns : List Column) (record : Record) :
    Except Misuse (List ColumnValue) :=
  columns.mapM fun column => ((record.getValue context column).run .empty).1

namespace LayoutReader

/-- Whatever a layout reads that is the first to read some value, the first layout that reads it
reads as the same instant. -/
def Steady (reader : LayoutReader) : Prop :=
  ∀ earlier found index layout later instant, reader.scan earlier = some (found, index) →
    reader.layouts[index]? = some layout → later ≠ "" →
    layout.read? reader.zone later = some instant →
    (reader.scan later).map Prod.fst = some instant

/-- Where layouts never read one value as different instants, the first that reads a value reads it
as any other does. -/
theorem scan_of_agree {reader : LayoutReader} {value : String}
    (agree : ∀ left ∈ reader.layouts, ∀ right ∈ reader.layouts, ∀ leftInstant rightInstant,
      left.read? reader.zone value = some leftInstant →
      right.read? reader.zone value = some rightInstant → leftInstant = rightInstant)
    (given : value ≠ "") {layout : Layout} (inside : layout ∈ reader.layouts) {instant : Instant}
    (read : layout.read? reader.zone value = some instant) :
    (reader.scan value).map Prod.fst = some instant := by
  have recognised : reader.recognises value = true :=
    recognises_iff.2 ⟨given, layout, inside, by simp [read]⟩
  obtain ⟨⟨first, position⟩, scanned⟩ := Option.isSome_iff_exists.1 recognised
  obtain ⟨-, other, there, firstRead⟩ := scan_eq_some scanned
  rw [scanned]
  exact congrArg some (agree other (List.mem_of_getElem? there) layout inside first instant
    firstRead read)

/-- Layouts that never read one value as different instants are steady. -/
theorem steady_of_agree {reader : LayoutReader}
    (agree : ∀ left ∈ reader.layouts, ∀ right ∈ reader.layouts, ∀ value leftInstant rightInstant,
      left.read? reader.zone value = some leftInstant →
      right.read? reader.zone value = some rightInstant → leftInstant = rightInstant) :
    reader.Steady := by
  intro _ _ _ layout later instant _ held given read
  exact scan_of_agree (fun left isLeft right isRight => agree left isLeft right isRight later) given
    (List.mem_of_getElem? held) read

/-- Every layout that is remembered was the first to read some value. -/
def Earned (reader : LayoutReader) (cache : LayoutCache) : Prop :=
  ∀ key index, cache.get? key = some index →
    ∃ value instant, reader.scan value = some (instant, index)

variable {reader : LayoutReader} {cache : LayoutCache}

theorem Earned.empty (reader : LayoutReader) : reader.Earned .empty :=
  fun _ _ held => nomatch held

/-- Reading a field remembers nothing that was not earned. -/
theorem Earned.readField (earned : reader.Earned cache) (key value : String) :
    reader.Earned (reader.readField cache key value).2 := by
  intro other index held
  rcases get?_readField held with before | ⟨-, instant, scanned⟩
  · exact earned other index before
  · exact ⟨value, instant, scanned⟩

/-- With steady layouts a field is read as if nothing were remembered. -/
theorem Steady.readField_fst (steady : reader.Steady) (earned : reader.Earned cache)
    {key value : String} (given : value ≠ "") :
    (reader.readField cache key value).1 = (reader.scan value).map Prod.fst := by
  rw [LayoutReader.readField_fst]
  cases read : reader.readCached? cache key value with
  | none => rfl
  | some instant =>
    simp only [readCached?, Option.bind_eq_bind, Option.bind_eq_some_iff] at read
    obtain ⟨index, remembered, layout, held, read⟩ := read
    obtain ⟨earlier, found, scanned⟩ := earned key index remembered
    exact (steady earlier found index layout value instant scanned held given read).symm

end LayoutReader

theorem Remembering.bind_apply {α β : Type} (action : Remembering α) (next : α → Remembering β)
    (cache : LayoutCache) : (action >>= next) cache = next (action cache).1 (action cache).2 := rfl

/-- What an action and its continuation answer, where the action may fail. -/
theorem Remembering.run_bind_fst {α β : Type} (action : ExceptT Misuse Remembering α)
    (next : α → ExceptT Misuse Remembering β) (cache : LayoutCache) :
    ((action >>= next).run cache).1 =
      (action.run cache).1 >>= fun answer => ((next answer).run (action.run cache).2).1 := by
  rw [ExceptT.run_bind, Remembering.bind_apply]
  obtain ⟨outcome, after⟩ := action.run cache
  cases outcome <;> rfl

/-- The answer does not depend on what is remembered, as long as that was earned. -/
def Repeatable {α : Type} (reader : LayoutReader) (action : Remembering α) : Prop :=
  ∃ answer, ∀ cache, reader.Earned cache →
    (action cache).1 = answer ∧ reader.Earned (action cache).2

namespace Repeatable

variable {α β : Type} {reader : LayoutReader}

/-- What is remembered makes no difference to a repeatable action. -/
theorem eq_fresh {action : Remembering α} (repeats : Repeatable reader action)
    {cache : LayoutCache} (earned : reader.Earned cache) :
    (action cache).1 = (action .empty).1 := by
  obtain ⟨answer, same⟩ := repeats
  rw [(same cache earned).1, (same .empty (.empty reader)).1]

/-- A repeatable action remembers nothing that was not earned. -/
theorem earned {action : Remembering α} (repeats : Repeatable reader action)
    {cache : LayoutCache} (before : reader.Earned cache) : reader.Earned (action cache).2 := by
  obtain ⟨answer, same⟩ := repeats
  exact (same cache before).2

theorem pure (answer : α) : Repeatable reader (Pure.pure answer) :=
  ⟨answer, fun _ earned => ⟨rfl, earned⟩⟩

/-- Two repeatable actions in a row are repeatable. -/
theorem bind {action : Remembering α} {next : α → Remembering β}
    (first : Repeatable reader action) (then_ : ∀ answer, Repeatable reader (next answer)) :
    Repeatable reader (action >>= next) := by
  obtain ⟨answer, before⟩ := first
  obtain ⟨final, after⟩ := then_ answer
  refine ⟨final, fun cache earned => ?_⟩
  obtain ⟨same, kept⟩ := before cache earned
  rw [Remembering.bind_apply, same]
  exact after _ kept

/-- Two repeatable actions in a row are repeatable if the first may fail. -/
theorem bindExcept {action : ExceptT Misuse Remembering α}
    {next : α → ExceptT Misuse Remembering β} (first : Repeatable reader action.run)
    (then_ : ∀ answer, Repeatable reader (next answer).run) :
    Repeatable reader (action >>= next).run := by
  rw [ExceptT.run_bind]
  refine first.bind fun outcome => ?_
  cases outcome with
  | ok answer => exact then_ answer
  | error misuse => exact .pure _

theorem lift {action : Remembering α} (first : Repeatable reader action) :
    Repeatable reader (action : ExceptT Misuse Remembering α).run := by
  rw [ExceptT.run_liftM, map_eq_pure_bind]
  exact first.bind fun answer => .pure _

end Repeatable

section

variable {context : ReadContext} (steady : context.reader.Steady)
include steady

/-- With steady layouts a value is read as an instant regardless of what is remembered. -/
theorem Json.toInstant?_repeatable (key : String) (value : Json) :
    Repeatable context.reader (value.toInstant? context key) := by
  cases value with
  | null | bool | array | object => exact .pure none
  | number value => exact .pure (context.unit.toInstant? value.toFloat)
  | string value =>
    by_cases given : value = ""
    · subst given
      exact .pure none
    · refine ⟨(context.reader.scan value).map Prod.fst, fun cache earned => ?_⟩
      simp only [Json.toInstant?, given, if_false]
      exact ⟨steady.readField_fst earned given, earned.readField key value⟩

namespace Record

theorem getDateTime_repeatable (record : Record) (key : String) (nullable : Bool) :
    Repeatable context.reader (record.getDateTime context key nullable) := by
  unfold getDateTime
  cases record.find? key with
  | none => exact .pure _
  | some value => exact (value.toInstant?_repeatable steady key).bind fun instant => .pure _

theorem instants_repeatable (key : String) (items : List Json) :
    Repeatable context.reader (instants context key items) := by
  induction items with
  | nil => exact .pure []
  | cons item rest ih =>
    exact (item.toInstant?_repeatable steady key).bind fun first => ih.bind fun others => .pure _

theorem getArray_repeatable (record : Record) (key : String) (element : ScalarType) :
    Repeatable context.reader (record.getArray context key element) := by
  cases element with
  | int | float | string => exact .pure _
  | dateTime => exact (instants_repeatable steady key _).bind fun values => .pure _

theorem getValue_repeatable (record : Record) (column : Column) :
    Repeatable context.reader (record.getValue context column).run := by
  unfold getValue
  cases column.type with
  | unknown => exact .pure _
  | array element =>
    exact (record.getArray_repeatable steady column.sourceKey element).lift.bindExcept
      fun values => .pure _
  | scalar type =>
    cases type with
    | int | float | string => exact .pure _
    | dateTime =>
      exact (record.getDateTime_repeatable steady column.sourceKey column.nullable).lift.bindExcept
        fun value => .pure _

theorem extractRow_repeatable (record : Record) (columns : List Column) :
    Repeatable context.reader (record.extractRow context columns).run := by
  induction columns with
  | nil => exact .pure _
  | cons column rest ih =>
    exact (record.getValue_repeatable steady column).bindExcept fun value =>
      ih.bindExcept fun values => .pure _

end Record

/-- With steady layouts every getter is repeatable. -/
theorem Getter.read_repeatable (record : Record) (getter : Getter) :
    Repeatable context.reader (getter.read context record) := by
  cases getter with
  | string | float | int => exact .pure _
  | dateTime key nullable =>
    exact (record.getDateTime_repeatable steady key nullable).bind fun value => .pure _
  | unixSeconds key nullable =>
    exact ((record.getDateTime_repeatable steady key nullable).bind fun value => .pure _).bind
      fun value => .pure _
  | array key element =>
    exact (record.getArray_repeatable steady key element).bind fun values => .pure _
  | value column => exact (record.getValue_repeatable steady column).bind fun outcome => .pure _

/-- With steady layouts whatever was asked, what is remembered was earned. -/
theorem earned_remembered (history : List (Record × Getter)) :
    context.reader.Earned (remembered context history) := by
  induction history using List.reverseRecOn with
  | nil => exact .empty context.reader
  | append_singleton history asked ih =>
    simpa [remembered] using (asked.2.read_repeatable steady asked.1).earned ih

/-- With steady layouts a row is what its columns read on their own. -/
theorem Record.extractRow_eq_freshRow (record : Record) (columns : List Column)
    {cache : LayoutCache} (earned : context.reader.Earned cache) :
    ((record.extractRow context columns).run cache).1 = record.freshRow context columns := by
  induction columns generalizing cache with
  | nil => rfl
  | cons column rest ih =>
    have front := record.getValue_repeatable steady column
    have others := ih (front.earned earned)
    rw [freshRow, List.mapM_cons, ← front.eq_fresh earned, ← freshRow, ← others]
    simp only [extractRow, Remembering.run_bind_fst]
    rfl

/-- With steady layouts each record has the row that it has on its own. -/
theorem extractRows_eq_map (columns : List Column) (records : List Record) {cache : LayoutCache}
    (earned : context.reader.Earned cache) :
    (extractRows context columns records cache).1 =
      records.map fun record => record.freshRow context columns := by
  induction records generalizing cache with
  | nil => rfl
  | cons record rest ih =>
    have later := (record.extractRow_repeatable steady columns).earned earned
    rw [List.map_cons, ← ih later, ← record.extractRow_eq_freshRow steady columns earned]
    rfl

end

/-- A text that may be null is read as a field of a reader with a memory. -/
theorem Record.getDateTime_text {context : ReadContext} {record : Record} {key value : String}
    (held : record.find? key = some (.string value)) (given : value ≠ "") (cache : LayoutCache) :
    record.getDateTime context key true cache = context.reader.readField cache key value := by
  rw [getDateTime_of_find? held, orDefault_true, Json.toInstant?_string given]

/-- Where getters do not depend on what was read before, the layouts are steady: the reading of one
record and then of another shows it. -/
theorem HistoryFree.steady {context : ReadContext} (free : HistoryFree context) :
    context.reader.Steady := by
  intro earlier found index layout later instant scanned held given read
  have started : earlier ≠ "" := (LayoutReader.scan_eq_some scanned).1
  let field (text : String) : Record := NameMap.empty.insert "field" (.string text)
  have fields : ∀ text, (field text).find? "field" = some (.string text) := by simp [field]
  -- The first layout that reads one text is remembered, and tried first on the other text.
  have same := free [(field earlier, .dateTime "field" true)] (field later)
    (.dateTime "field" true)
  have answers : (context.reader.readField (LayoutCache.empty.insert "field" index) "field"
      later).1 = (context.reader.readField .empty "field" later).1 := by
    have memory : remembered context [(field earlier, .dateTime "field" true)] =
        LayoutCache.empty.insert "field" index := by
      change ((field earlier).getDateTime context "field" true .empty).2 = _
      rw [Record.getDateTime_text (fields earlier) started, LayoutReader.readField_empty scanned]
    rw [memory] at same
    have dates := Reading.dateTime.inj same
    change ((field later).getDateTime context "field" true _).1 =
      ((field later).getDateTime context "field" true .empty).1 at dates
    rwa [Record.getDateTime_text (fields later) given,
      Record.getDateTime_text (fields later) given] at dates
  rw [LayoutReader.readField_of_remembered (by simp [LayoutCache.get?_insert]) held read,
    LayoutReader.readField_fst] at answers
  simpa using answers.symm

/-- What getters answer is independent of what was read before exactly where the layouts are steady.
Then the rows of a run are those that each record and each column gives on its own, so that another
order of the records or the columns gives the same values in that order. -/
theorem historyFree_iff_steady (context : ReadContext) :
    (HistoryFree context ↔ context.reader.Steady) ∧
      (HistoryFree context → ∀ history columns records,
        (extractRows context columns records (remembered context history)).1 =
          records.map fun record => record.freshRow context columns) := by
  refine ⟨⟨HistoryFree.steady, fun steady history record getter => ?_⟩,
    fun free history columns records => ?_⟩
  · exact (getter.read_repeatable steady record).eq_fresh (earned_remembered steady history)
  · exact extractRows_eq_map free.steady columns records (earned_remembered free.steady history)

/-- Texts may be dates with the day first or with the month first. -/
def dayOrMonth : ReadContext :=
  { reader := { layouts := ["%d/%m/%Y", "%m/%d/%Y"].map Layout.ofText } }

/-- A text that both layouts read, before a text that only the second reads. -/
def dayOrMonthRecord : Record :=
  NameMap.empty.insert "d" (.array [.string "01/02/2021", .string "01/13/2021"])

/-- Asked twice in a row, one record answers with the first of February and then with the second of
January. -/
theorem dayOrMonth_array_differs :
    ((Getter.array "d" .dateTime).read dayOrMonth dayOrMonthRecord
        (remembered dayOrMonth [(dayOrMonthRecord, .array "d" .dateTime)])).1 ≠
      ((Getter.array "d" .dateTime).read dayOrMonth dayOrMonthRecord .empty).1 := by
  intro same
  have instants := ColumnArray.dateTimes.inj (Reading.array.inj same)
  exact absurd instants (by decide +kernel)

end Intake
