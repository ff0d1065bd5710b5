import Intake.Proofs.Schema.Accounting
import Intake.Proofs.Schema.Visit
import Intake.Proofs.Text.ByteOrder
import Intake.Schema.Tracker
import Mathlib.Data.List.Induction

/-!
# The history of a tracker

A tracker is asked to mark names, to look at records and to hand over what is pending, in any order
and any number of times. The decision of a name is that of the first request that decides it, and
`SchemaTracker.decided_by_history` says that the decisions explain everything a tracker ever shows:
what is known, what is pending, and every answer.
-/

namespace Intake

/-- What a tracker is asked to do. -/
inductive Request where
  /-- Mark names as decided. -/
  | seed (names : List String)
  /-- Look at all fields of a record. -/
  | discover (reader : LayoutReader) (record : Record)
  /-- Take the pending fields. -/
  | drain

/-- What a tracker answers. -/
inductive Answer where
  | seeded
  /-- Whether any field became pending. -/
  | discovered (found : Bool)
  | drained (fields : List NewField)
  deriving DecidableEq, Repr

namespace SchemaTracker

/-- Do what is asked. -/
def serve (tracker : SchemaTracker) : Request → Answer × SchemaTracker
  | .seed names => (.seeded, tracker.seed names)
  | .discover reader record =>
    (.discovered (tracker.discover reader record).1, (tracker.discover reader record).2)
  | .drain => (.drained tracker.drain.1, tracker.drain.2)

/-- Do what is asked, one request after the other. -/
def serveAll (tracker : SchemaTracker) : List Request → List Answer × SchemaTracker
  | [] => ([], tracker)
  | request :: later =>
    ((tracker.serve request).1 :: ((tracker.serve request).2.serveAll later).1,
      ((tracker.serve request).2.serveAll later).2)

/-- Requests may be served in two parts. -/
theorem serveAll_append (tracker : SchemaTracker) (before after : List Request) :
    tracker.serveAll (before ++ after) =
      ((tracker.serveAll before).1 ++ ((tracker.serveAll before).2.serveAll after).1,
        ((tracker.serveAll before).2.serveAll after).2) := by
  induction before generalizing tracker with
  | nil => rfl
  | cons request later ih => simp [serveAll, ih]

@[simp] theorem length_serveAll (tracker : SchemaTracker) (history : List Request) :
    (tracker.serveAll history).1.length = history.length := by
  induction history generalizing tracker with
  | nil => rfl
  | cons request later ih => simp [serveAll, ih]

/-- Every request has an answer, given by the tracker that the requests before it leave. -/
theorem answer_serveAll (tracker : SchemaTracker) (before : List Request) (request : Request)
    (after : List Request) :
    (tracker.serveAll (before ++ request :: after)).1[before.length]? =
      some ((tracker.serveAll before).2.serve request).1 := by
  rw [serveAll_append, List.getElem?_append_right (by simp)]
  simp [serveAll]

end SchemaTracker

/-- How a name was decided. -/
inductive Decision where
  | seeded
  | rejected
  | reported (type : FieldType)
  deriving DecidableEq, Repr

/-- The decision that a request makes on a name, if it makes one. -/
def Request.decides? (filter : KeyFilter) (name : String) : Request → Option Decision
  | seed names => if name ∈ names then some .seeded else none
  | discover reader record =>
    match record.find? name with
    | none => none
    | some value =>
      if filter.admits name then
        if value.detectType reader = .unknown then none
        else some (.reported (value.detectType reader))
      else some .rejected
  | drain => none

/-- The decision on a name is that of the first request that decides it. -/
def decision? (filter : KeyFilter) (history : List Request) (name : String) : Option Decision :=
  history.findSome? fun request => request.decides? filter name

/-- A request that comes after a history makes the decision to report a field. -/
def Reports (filter : KeyFilter) (before : List Request) (request : Request) (field : NewField) :
    Prop :=
  decision? filter before field.name = none ∧
    request.decides? filter field.name = some (.reported field.type)

/-- A field is reported at some point of a history, and nothing is drained after that point. -/
def ReportedSinceDrain (filter : KeyFilter) (history : List Request) (field : NewField) : Prop :=
  ∃ before request later, history = before ++ request :: later ∧ Request.drain ∉ later ∧
    Reports filter before request field

theorem decision?_append (filter : KeyFilter) (before after : List Request) (name : String) :
    decision? filter (before ++ after) name =
      (decision? filter before name).or (decision? filter after name) :=
  List.findSome?_append

theorem decision?_concat (filter : KeyFilter) (history : List Request) (request : Request)
    (name : String) : decision? filter (history ++ [request]) name =
      (decision? filter history name).or (request.decides? filter name) := by
  rw [decision?_append]
  simp [decision?]

section

variable {filter : KeyFilter} {history : List Request} {request : Request} {field : NewField}

/-- The request that reports a field makes the decision on its name. -/
theorem Reports.decision_eq (reports : Reports filter history request field) :
    decision? filter (history ++ [request]) field.name = some (.reported field.type) := by
  rw [decision?_concat, reports.1, reports.2]
  rfl

/-- A decision, once made, stays. -/
theorem ReportedSinceDrain.decision_eq (reported : ReportedSinceDrain filter history field) :
    decision? filter history field.name = some (.reported field.type) := by
  obtain ⟨before, request, later, rfl, -, reports⟩ := reported
  rw [List.append_cons, decision?_append, reports.decision_eq]
  rfl

/-- What was reported since the last drain is what the last request reports and, unless that is a
drain, what was reported before. -/
theorem reportedSinceDrain_concat_iff :
    ReportedSinceDrain filter (history ++ [request]) field ↔
      Reports filter history request field ∨
        request ≠ .drain ∧ ReportedSinceDrain filter history field := by
  constructor
  · rintro ⟨before, reporting, later, shape, undrained, reports⟩
    rcases List.eq_nil_or_concat later with rfl | ⟨earlier, last, rfl⟩
    · obtain ⟨rfl, same⟩ := List.append_inj' shape rfl
      obtain rfl := List.singleton_inj.1 same
      exact .inl reports
    · rw [List.concat_eq_append] at shape undrained
      rw [← List.cons_append, ← List.append_assoc] at shape
      obtain ⟨rfl, same⟩ := List.append_inj' shape rfl
      obtain rfl := List.singleton_inj.1 same
      refine .inr ⟨fun drains => undrained (by simp [drains]), before, reporting, earlier, rfl, ?_,
        reports⟩
      exact fun drained => undrained (List.mem_append_left _ drained)
  · rintro (reports | ⟨drains, before, reporting, later, rfl, undrained, reports⟩)
    · exact ⟨history, request, [], rfl, List.not_mem_nil, reports⟩
    · refine ⟨before, reporting, later ++ [request], by simp, ?_, reports⟩
      simp [undrained, Ne.symm drains]

end

/-- The decision that a verdict stands for. -/
def Discoveries.Verdict.decision? : Discoveries.Verdict → Option Decision
  | rejected => some .rejected
  | undecided => none
  | admitted type => some (.reported type)

/-- A discovery decides a name by the verdict on its value. -/
theorem Request.decides?_discover (filter : KeyFilter) (reader : LayoutReader) (record : Record)
    (name : String) : (discover reader record).decides? filter name =
      (record.find? name).bind fun value =>
        (Discoveries.verdict filter reader name value).decision? := by
  simp only [decides?, Discoveries.verdict]
  cases record.find? name with
  | none => rfl
  | some value =>
    cases filter.admits name with
    | false => rfl
    | true => cases type : value.detectType reader <;> simp [type, Discoveries.Verdict.decision?]

theorem Discoveries.Verdict.isSome_decision? (verdict : Discoveries.Verdict) :
    verdict.decision?.isSome = verdict.decides := by
  cases verdict <;> rfl

theorem Discoveries.Verdict.decision?_eq_reported_iff {verdict : Discoveries.Verdict}
    {type : FieldType} :
    verdict.decision? = some (.reported type) ↔ verdict.type? = some type := by
  cases verdict <;> simp [decision?, type?]

/-- A discovery decides the names whose values have a verdict that decides. -/
theorem Request.isSome_decides?_discover {filter : KeyFilter} {reader : LayoutReader}
    {record : Record} {name : String} : ((discover reader record).decides? filter name).isSome =
      (record.find? name).any fun value =>
        (Discoveries.verdict filter reader name value).decides := by
  rw [decides?_discover]
  cases record.find? name with
  | none => rfl
  | some value => exact Discoveries.Verdict.isSome_decision? _

/-- A discovery reports the names whose values have a verdict that admits them. -/
theorem Request.decides?_discover_eq_reported_iff {filter : KeyFilter} {reader : LayoutReader}
    {record : Record} {name : String} {type : FieldType} :
    (discover reader record).decides? filter name = some (.reported type) ↔
      ∃ value, record.find? name = some value ∧
        (Discoveries.verdict filter reader name value).type? = some type := by
  rw [decides?_discover, Option.bind_eq_some_iff]
  simp only [Discoveries.Verdict.decision?_eq_reported_iff]

/-- The sets of a tracker are what its history says. -/
structure Tracks (filter : KeyFilter) (history : List Request) (tracker : SchemaTracker) :
    Prop where
  filter_eq : tracker.filter = filter
  known : ∀ name, tracker.state.isKnown name = (decision? filter history name).isSome
  pending : ∀ field : NewField, tracker.state.pending.find? field.name = some field.type ↔
    ReportedSinceDrain filter history field

namespace Tracks

variable {filter : KeyFilter} {history : List Request} {tracker : SchemaTracker}

/-- A new tracker has no history. -/
theorem start (table : String) (filter : KeyFilter) :
    Tracks filter [] { table := table, filter := filter } where
  filter_eq := rfl
  known _ := rfl
  pending field := by
    constructor
    · intro held
      simp at held
    · rintro ⟨before, request, later, shape, -⟩
      simp at shape

/-- A name that is not known is not pending. -/
theorem find?_pending_of_unknown (tracks : Tracks filter history tracker) {name : String}
    (undecided : decision? filter history name = none) :
    tracker.state.pending.find? name = none := by
  rw [Option.eq_none_iff_forall_ne_some]
  intro type held
  have decided := ((tracks.pending { name := name, type := type }).1 held).decision_eq
  simp [undecided] at decided

/-- Marking names reports nothing. -/
theorem seed (tracks : Tracks filter history tracker) (names : List String) :
    Tracks filter (history ++ [.seed names]) (tracker.seed names) where
  filter_eq := tracks.filter_eq
  known name := by
    rw [decision?_concat]
    by_cases named : name ∈ names <;>
      simp [SchemaTracker.seed, tracks.known, Request.decides?, named]
  pending field := by
    rw [reportedSinceDrain_concat_iff]
    have silent : ¬Reports filter history (.seed names) field := by
      rintro ⟨-, decides⟩
      simp only [Request.decides?] at decides
      split at decides <;> simp at decides
    simpa [SchemaTracker.seed, silent] using tracks.pending field

/-- A discovery decides the names that have a verdict and reports those that are admitted. -/
theorem discover (tracks : Tracks filter history tracker) (reader : LayoutReader)
    (record : Record) :
    Tracks filter (history ++ [.discover reader record]) (tracker.discover reader record).2 where
  filter_eq := tracks.filter_eq
  known name := by
    rw [decision?_concat, Option.isSome_or, Request.isSome_decides?_discover, ← tracks.known,
      ← tracks.filter_eq]
    exact Discoveries.isKnown_visitAll record.ascending name
  pending field := by
    rw [reportedSinceDrain_concat_iff, Reports, Request.decides?_discover_eq_reported_iff,
      ← tracks.pending, ← tracks.filter_eq]
    have effect : (tracker.discover reader record).2.state.pending.find? field.name = _ :=
      Discoveries.find?_pending_visitAll record.ascending field.name
    rw [effect, tracks.known]
    cases decided : decision? filter history field.name with
    | some decision => simp [tracks.filter_eq, decided]
    | none =>
      rw [tracks.find?_pending_of_unknown decided]
      simp [tracks.filter_eq, decided, NameMap.find?, Option.bind_eq_some_iff]

/-- Draining decides nothing and leaves nothing pending. -/
theorem drain (tracks : Tracks filter history tracker) :
    Tracks filter (history ++ [.drain]) tracker.drain.2 where
  filter_eq := tracks.filter_eq
  known name := by
    rw [decision?_concat]
    simpa [Request.decides?, SchemaTracker.drain] using tracks.known name
  pending field := by
    rw [reportedSinceDrain_concat_iff]
    simp [Reports, Request.decides?, SchemaTracker.drain]

/-- Whatever is asked, the sets remain what the history says. -/
theorem serve (tracks : Tracks filter history tracker) (request : Request) :
    Tracks filter (history ++ [request]) (tracker.serve request).2 := by
  cases request with
  | seed names => exact tracks.seed names
  | discover reader record => exact tracks.discover reader record
  | drain => exact tracks.drain

theorem serveAll (tracks : Tracks filter history tracker) (later : List Request) :
    Tracks filter (history ++ later) (tracker.serveAll later).2 := by
  induction later generalizing history tracker with
  | nil => simpa [SchemaTracker.serveAll] using tracks
  | cons request rest ih => simpa [SchemaTracker.serveAll] using ih (tracks.serve request)

end Tracks

/-- Decisions report concrete types only. -/
theorem Request.concrete_of_reported {filter : KeyFilter} {request : Request} {name : String}
    {type : FieldType} (reported : request.decides? filter name = some (.reported type)) :
    type ≠ .unknown := by
  cases request with
  | seed names =>
    simp only [decides?] at reported
    split at reported <;> simp at reported
  | drain => simp [decides?] at reported
  | discover reader record =>
    obtain ⟨value, -, admitted⟩ := decides?_discover_eq_reported_iff.1 reported
    cases verdict : Discoveries.verdict filter reader name value with
    | rejected | undecided => simp [verdict, Discoveries.Verdict.type?] at admitted
    | admitted other =>
      obtain rfl : other = type := by simpa [verdict, Discoveries.Verdict.type?] using admitted
      exact (Discoveries.verdict_eq_admitted_iff.1 verdict).2.2

/-- The pending fields are in ascending order of the bytes of their names. -/
theorem Discoveries.pendingFields_byteOrder (state : Discoveries) :
    state.pendingFields.Pairwise fun left right =>
      Utf8.encode left.name.toList < Utf8.encode right.name.toList :=
  state.pendingFields_ascending.imp fun below => Utf8.encode_lt below

namespace Tracks

variable {filter : KeyFilter} {history : List Request} {tracker : SchemaTracker}

/-- Every pending name is known, whatever the history. -/
theorem pendingKnown (tracks : Tracks filter history tracker) :
    tracker.state.PendingKnown := by
  intro name pending
  obtain ⟨type, held⟩ := Option.isSome_iff_exists.1 pending
  have decided := ((tracks.pending { name := name, type := type }).1 held).decision_eq
  simp [tracks.known, decided]

theorem mem_pendingFields_iff (tracks : Tracks filter history tracker) {field : NewField} :
    field ∈ tracker.state.pendingFields ↔ ReportedSinceDrain filter history field :=
  Discoveries.mem_pendingFields_iff.trans (tracks.pending field)

/-- A discovery answers whether it reports a field. -/
theorem discover_fst (tracks : Tracks filter history tracker) (reader : LayoutReader)
    (record : Record) : (tracker.discover reader record).1 = true ↔
      ∃ field, Reports filter history (.discover reader record) field := by
  have answer : (tracker.discover reader record).1 = true ↔ _ :=
    Discoveries.visitAll_fst record.ascending
  rw [answer]
  simp only [Reports, Request.decides?_discover_eq_reported_iff, tracks.filter_eq, tracks.known,
    Option.isSome_eq_false_iff, Option.isNone_iff_eq_none, NameMap.find?_eq_some_iff]
  constructor
  · rintro ⟨name, value, type, inside, undecided, admitted⟩
    exact ⟨{ name := name, type := type }, undecided, value, inside, admitted⟩
  · rintro ⟨field, undecided, value, inside, admitted⟩
    exact ⟨field.name, value, field.type, inside, undecided, admitted⟩

end Tracks

/-- The fields that answers hand over. -/
def handedOver (answers : List Answer) : List NewField :=
  answers.flatMap fun answer =>
    match answer with
    | .drained fields => fields
    | _ => []

/-- A field is reported by a history if it was before the last request or if that reports it. -/
theorem decision?_concat_eq_reported_iff {filter : KeyFilter} {history : List Request}
    {request : Request} {field : NewField} :
    decision? filter (history ++ [request]) field.name = some (.reported field.type) ↔
      decision? filter history field.name = some (.reported field.type) ∨
        Reports filter history request field := by
  rw [decision?_concat, Reports]
  cases decision? filter history field.name <;> simp

namespace SchemaTracker

variable {table : String} {filter : KeyFilter} {history : List Request}

/-- A tracker that has served a history has the sets that the history says. -/
theorem tracks_serveAll (table : String) (filter : KeyFilter) (history : List Request) :
    Tracks filter history
      (serveAll { table := table, filter := filter } history).2 := by
  simpa using (Tracks.start table filter).serveAll history

/-- What was handed over before the last request, and what that hands over if it is a drain. -/
theorem mem_handedOver_concat_iff {tracker : SchemaTracker} {request : Request}
    {field : NewField} : field ∈ handedOver (tracker.serveAll (history ++ [request])).1 ↔
      field ∈ handedOver (tracker.serveAll history).1 ∨
        request = .drain ∧ field ∈ (tracker.serveAll history).2.state.pendingFields := by
  rw [serveAll_append]
  cases request <;> simp [handedOver, serveAll, serve, drain, Discoveries.drain]

/-- What is handed over or pending is what was reported. -/
theorem shown_iff (field : NewField) :
    field ∈ handedOver (serveAll { table := table, filter := filter } history).1 ∨
        field ∈ (serveAll { table := table, filter := filter } history).2.state.pendingFields ↔
      decision? filter history field.name = some (.reported field.type) := by
  induction history using List.reverseRecOn with
  | nil => simp [handedOver, serveAll, decision?, Discoveries.pendingFields, NameMap.empty]
  | append_singleton history request ih =>
    rw [decision?_concat_eq_reported_iff, ← ih, mem_handedOver_concat_iff,
      (tracks_serveAll table filter (history ++ [request])).mem_pendingFields_iff,
      reportedSinceDrain_concat_iff, (tracks_serveAll table filter history).mem_pendingFields_iff]
    by_cases drains : request = .drain
    · simp [drains]
    · simp [drains, or_assoc, or_comm, or_left_comm]

/-- A tracker with any filter serves any requests in any order.

It knows the names that have a decision. A field that it hands over or holds pending is one whose
name was decided by a report, with the type its value had in that very record, and that type is
concrete. A discovery answers whether some report was made by it. A drain hands over the fields that
were reported since the drain before, in strictly ascending order of the bytes of their names, and
decides nothing. What is pending is what the next drain would hand over. -/
theorem decided_by_history (table : String) (filter : KeyFilter) (history : List Request) :
    let start : SchemaTracker := { table := table, filter := filter }
    (∀ name, (start.serveAll history).2.state.isKnown name = true ↔
      (decision? filter history name).isSome = true) ∧
    (∀ field : NewField,
      (field ∈ handedOver (start.serveAll history).1 ∨
          field ∈ (start.serveAll history).2.state.pendingFields ↔
        decision? filter history field.name = some (.reported field.type)) ∧
      (decision? filter history field.name = some (.reported field.type) →
        field.type ≠ .unknown)) ∧
    (∀ before reader record after, history = before ++ .discover reader record :: after →
      ∃ found, (start.serveAll history).1[before.length]? = some (.discovered found) ∧
        (found = true ↔ ∃ field, Reports filter before (.discover reader record) field)) ∧
    (∀ before after, history = before ++ .drain :: after →
      ∃ fields, (start.serveAll history).1[before.length]? = some (.drained fields) ∧
        fields.Pairwise (fun left right =>
          Utf8.encode left.name.toList < Utf8.encode right.name.toList) ∧
        (∀ field, field ∈ fields ↔ ReportedSinceDrain filter before field) ∧
        (start.serveAll (before ++ [.drain])).2.state.known =
          (start.serveAll before).2.state.known) ∧
    (start.serveAll history).2.state.pendingFields.Pairwise (fun left right =>
      Utf8.encode left.name.toList < Utf8.encode right.name.toList) ∧
    ∀ field, field ∈ (start.serveAll history).2.state.pendingFields ↔
      ReportedSinceDrain filter history field := by
  intro start
  have tracks : ∀ history, Tracks filter history (start.serveAll history).2 :=
    tracks_serveAll table filter
  refine ⟨fun name => ?_, fun field => ⟨shown_iff field, fun reported => ?_⟩, ?_, ?_,
    Discoveries.pendingFields_byteOrder _, fun field => (tracks history).mem_pendingFields_iff⟩
  · rw [(tracks history).known]
  · obtain ⟨request, -, decides⟩ := List.exists_of_findSome?_eq_some reported
    exact Request.concrete_of_reported decides
  · rintro before reader record after rfl
    exact ⟨_, start.answer_serveAll before _ after, (tracks before).discover_fst reader record⟩
  · rintro before after rfl
    refine ⟨_, start.answer_serveAll before _ after, Discoveries.pendingFields_byteOrder _,
      fun field => (tracks before).mem_pendingFields_iff, ?_⟩
    rw [serveAll_append]
    rfl

/-- A null leaves its name open, so that a later record may still report it. -/
example : (serveAll { table := "loads" }
    [.discover {} (NameMap.empty.insert "load" .null),
      .discover {} (NameMap.empty.insert "load" (.bool true)), .drain]).1 =
    [.discovered false, .discovered true,
      .drained [{ name := "load", type := .scalar .int }]] := by
  decide

end SchemaTracker

end Intake
