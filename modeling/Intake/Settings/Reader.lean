import Intake.Document.Tree
import Intake.Platform
import Intake.Settings.Decode
import Intake.Settings.Validate

/-!
# Reading settings

Settings are read from a document, decoded, and validated, in this order.
-/

namespace Intake

namespace Settings

/-- The settings that a document text holds, before they are validated. -/
def decode (platform : Platform) (text : String) : Except Failure Settings :=
  match Node.ofText? text with
  | none => .error .document
  | some node =>
    match Settings.ofNode platform.localRule node with
    | .ok settings => .ok settings
    | .error _ => .error .document

/-- The valid settings that a document text holds. -/
def read (platform : Platform) (text : String) : Except Failure Settings := do
  let settings ← decode platform text
  settings.check platform.patterns
  pure settings

end Settings

end Intake
