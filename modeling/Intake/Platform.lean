import Intake.Calendar.Daylight
import Intake.Regex.Parser
import Intake.Schema.KeyFilter

/-!
# What the program is built on

The rule of the local zone and the meaning of patterns come from outside the program, which takes
them as they are. What is said of the program is said for each rule and each engine; only a run
needs to choose them.
-/

namespace Intake

/-- The patterns are the expressions of `Regex`. -/
def PatternEngine.regex : PatternEngine where
  compile? text := (Regex.ofPattern? text).map Regex.matchesIn

/-- What the program is built on. -/
structure Platform where
  /-- The yearly rule of the local zone. -/
  localRule : DaylightRule
  /-- What patterns mean. -/
  patterns : PatternEngine

/-- The local zone is the eastern one, and patterns are expressions. -/
def Platform.standard : Platform where
  localRule := .eastern
  patterns := .regex

end Intake
