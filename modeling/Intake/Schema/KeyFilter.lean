import Intake.Failure

/-!
# Which new fields are admitted

A field is admitted when its name has the allow pattern and lacks the deny pattern. A pattern that
is not given makes no difference. Which patterns there are, and which names have them, is up to the
engine that compiles them.
-/

namespace Intake

/-- What patterns mean. -/
structure PatternEngine where
  /-- The names that have a pattern, if the pattern is well formed. -/
  compile? : String → Option (String → Bool)

/-- The compiled patterns for new fields. -/
structure KeyFilter where
  allow : Option (String → Bool) := none
  deny : Option (String → Bool) := none

namespace KeyFilter

/-- The compiled form of an optional pattern. -/
def compile (engine : PatternEngine) (pattern : Option String) :
    Except Failure (Option (String → Bool)) :=
  match pattern with
  | none => .ok none
  | some text =>
    match engine.compile? text with
    | some has => .ok (some has)
    | none => .error (.pattern text)

/-- The filter with two optional patterns. The allow pattern is judged first. -/
def ofPatterns (engine : PatternEngine) (allow deny : Option String) :
    Except Failure KeyFilter := do
  let allow ← compile engine allow
  let deny ← compile engine deny
  pure { allow := allow, deny := deny }

/-- A field name is admitted. -/
def admits (filter : KeyFilter) (key : String) : Bool :=
  (filter.allow.map (· key)).getD true && !(filter.deny.map (· key)).getD false

/-- The filter has no patterns. -/
def isEmpty (filter : KeyFilter) : Bool := filter.allow.isNone && filter.deny.isNone

end KeyFilter

end Intake
