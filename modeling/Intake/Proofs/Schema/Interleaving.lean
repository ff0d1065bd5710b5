import Intake.Schema.Discovery
import Mathlib.Logic.Function.Basic

/-!
# Discoveries and drains in any order

Surveys of records and drains share one set of known names and one set of pending fields. Each
proceeds by operations on the sets that are atomic, and `Run` relates a start to every configuration
that some order of such operations leads to, with the events on the way. The relation, rather than a
scheduler, is authoritative.

A drain lists pending names one by one, in any order, and may stop listing at any moment. This
admits more runs than a listing that promises to see every name that stays pending.
-/

namespace Intake

/-- Take one pending field away. -/
def Discoveries.removePending (state : Discoveries) (name : String) : Discoveries :=
  { state with pending := state.pending.erase name }

namespace Interleaving

/-- A discovery that was asked for: one record under one filter. -/
structure Survey where
  filter : KeyFilter
  reader : LayoutReader
  record : Record

/-- The verdict of a survey on a field. -/
def Survey.verdict (survey : Survey) (name : String) (value : Json) : Discoveries.Verdict :=
  Discoveries.verdict survey.filter survey.reader name value

/-- What a survey does next about the field in front. -/
inductive Stage where
  /-- Look whether the field is known. -/
  | look
  /-- Mark the field as known; the verdict on it is already found. -/
  | mark (verdict : Discoveries.Verdict)
  /-- Add the field to the pending ones; this survey has made it known. -/
  | add (type : FieldType)

/-- How far a survey has come. -/
structure Progress where
  stage : Stage
  /-- The fields that are left, the one in front being dealt with. -/
  remaining : List (String × Json)
  /-- Some field was added. -/
  found : Bool

/-- Nothing was done yet. -/
def Progress.start (survey : Survey) : Progress :=
  { stage := .look, remaining := survey.record.entries, found := false }

/-- No field is left. -/
def Progress.Finished (progress : Progress) : Prop := progress.remaining = []

/-- How far a drain has come. -/
structure Draining where
  /-- Names are still being listed. -/
  listing : Bool
  /-- The names that were listed and are not yet removed. -/
  listed : List String
  /-- The fields that were removed. -/
  taken : List NewField

/-- Nothing was done yet. -/
def Draining.start : Draining := { listing := true, listed := [], taken := [] }

/-- All names that were listed are removed. -/
def Draining.Finished (draining : Draining) : Prop :=
  draining.listing = false ∧ draining.listed = []

/-- The fields a drain hands over, by name. -/
def Draining.result (draining : Draining) : List NewField :=
  draining.taken.mergeSort fun left right => left.name ≤ right.name

/-- An atomic operation of a survey, with the answer of the set. -/
inductive SurveyOperation where
  /-- Ask whether a name is known. -/
  | look (name : String) (known : Bool)
  /-- Insert a known name; the answer says whether it is new. -/
  | mark (name : String) (won : Bool)
  /-- Insert a pending field. -/
  | add (name : String) (type : FieldType)

/-- An atomic operation of a drain, with the answer of the set. -/
inductive DrainOperation where
  /-- List one pending name. -/
  | list (name : String)
  /-- Stop listing. -/
  | close
  /-- Remove a pending field; the answer is its type if it was still there. -/
  | remove (name : String) (type? : Option FieldType)

/-- One operation of a survey on the sets. -/
inductive SurveyStep (survey : Survey) :
    Discoveries → Progress → SurveyOperation → Discoveries → Progress → Prop where
  /-- A known field is passed over. -/
  | pass {sets name value rest found} (known : sets.isKnown name = true) :
      SurveyStep survey sets ⟨.look, (name, value) :: rest, found⟩ (.look name true)
        sets ⟨.look, rest, found⟩
  /-- A field that is not known and has no type yet is passed over. -/
  | postpone {sets name value rest found} (unknown : sets.isKnown name = false)
      (undecided : survey.verdict name value = .undecided) :
      SurveyStep survey sets ⟨.look, (name, value) :: rest, found⟩ (.look name false)
        sets ⟨.look, rest, found⟩
  /-- A verdict is found on a field that is not known. -/
  | judge {sets name value rest found} (unknown : sets.isKnown name = false)
      (decided : survey.verdict name value ≠ .undecided) :
      SurveyStep survey sets ⟨.look, (name, value) :: rest, found⟩ (.look name false)
        sets ⟨.mark (survey.verdict name value), (name, value) :: rest, found⟩
  /-- The field has become known since it was looked at. -/
  | lose {sets verdict name value rest found} (known : sets.isKnown name = true) :
      SurveyStep survey sets ⟨.mark verdict, (name, value) :: rest, found⟩ (.mark name false)
        sets ⟨.look, rest, found⟩
  /-- A rejected field becomes known. -/
  | reject {sets name value rest found} (unknown : sets.isKnown name = false) :
      SurveyStep survey sets ⟨.mark .rejected, (name, value) :: rest, found⟩ (.mark name true)
        (sets.markKnown name) ⟨.look, rest, found⟩
  /-- An admitted field becomes known. -/
  | win {sets type name value rest found} (unknown : sets.isKnown name = false) :
      SurveyStep survey sets ⟨.mark (.admitted type), (name, value) :: rest, found⟩
        (.mark name true) (sets.markKnown name) ⟨.add type, (name, value) :: rest, found⟩
  /-- A field that this survey has made known becomes pending. -/
  | add {sets type name value rest found} :
      SurveyStep survey sets ⟨.add type, (name, value) :: rest, found⟩ (.add name type)
        (sets.addPending name type) ⟨.look, rest, true⟩

/-- One operation of a drain on the sets. -/
inductive DrainStep : Discoveries → Draining → DrainOperation → Discoveries → Draining → Prop where
  /-- A name that is pending at this moment is listed. -/
  | list {sets listed taken} (name : String) (pending : sets.pending.contains name = true) :
      DrainStep sets ⟨true, listed, taken⟩ (.list name) sets ⟨true, listed ++ [name], taken⟩
  /-- The listing is over. -/
  | close {sets listed taken} :
      DrainStep sets ⟨true, listed, taken⟩ .close sets ⟨false, listed, taken⟩
  /-- A listed field is removed and taken. -/
  | take {sets name type rest taken} (held : sets.pending.find? name = some type) :
      DrainStep sets ⟨false, name :: rest, taken⟩ (.remove name (some type))
        (sets.removePending name) ⟨false, rest, taken ++ [{ name := name, type := type }]⟩
  /-- A listed field was taken by another drain. -/
  | miss {sets name rest taken} (gone : sets.pending.find? name = none) :
      DrainStep sets ⟨false, name :: rest, taken⟩ (.remove name none) sets ⟨false, rest, taken⟩

/-- An operation and whoever performs it. -/
inductive Event (Surveyor Drainer : Type) where
  | survey (surveyor : Surveyor) (operation : SurveyOperation)
  | drain (drainer : Drainer) (operation : DrainOperation)

/-- The sets and how far everyone has come. -/
structure Configuration (Surveyor Drainer : Type) where
  sets : Discoveries
  surveys : Surveyor → Progress
  drains : Drainer → Draining

section

variable {Surveyor Drainer : Type} [DecidableEq Surveyor] [DecidableEq Drainer]

/-- Nobody has done anything yet. -/
def Configuration.start (surveys : Surveyor → Survey) (sets : Discoveries) :
    Configuration Surveyor Drainer :=
  { sets := sets, surveys := fun surveyor => .start (surveys surveyor), drains := fun _ => .start }

/-- Everyone is finished. -/
def Configuration.Finished (configuration : Configuration Surveyor Drainer) : Prop :=
  (∀ surveyor, (configuration.surveys surveyor).Finished) ∧
    ∀ drainer, (configuration.drains drainer).Finished

/-- One operation of whoever comes next. -/
inductive Step (surveys : Surveyor → Survey) : Configuration Surveyor Drainer →
    Event Surveyor Drainer → Configuration Surveyor Drainer → Prop where
  | survey {configuration operation sets progress} (surveyor : Surveyor)
      (step : SurveyStep (surveys surveyor) configuration.sets (configuration.surveys surveyor)
        operation sets progress) :
      Step surveys configuration (.survey surveyor operation)
        { configuration with
          sets := sets
          surveys := Function.update configuration.surveys surveyor progress }
  | drain {configuration operation sets draining} (drainer : Drainer)
      (step : DrainStep configuration.sets (configuration.drains drainer) operation
        sets draining) :
      Step surveys configuration (.drain drainer operation)
        { configuration with
          sets := sets
          drains := Function.update configuration.drains drainer draining }

/-- The configurations that operations in any order lead to, with the events in order. -/
inductive Run (surveys : Surveyor → Survey) (sets : Discoveries) :
    Configuration Surveyor Drainer → List (Event Surveyor Drainer) → Prop where
  | start : Run surveys sets (.start surveys sets) []
  | step {configuration next events event} (prior : Run surveys sets configuration events)
      (step : Step surveys configuration event next) :
      Run surveys sets next (events ++ [event])

end

end Interleaving

end Intake
