import Intake.Failure
import Intake.Json.Reader
import Intake.Record.Basic

/-!
# Reading records

A record reader decodes one text after the other. It holds the value it decoded last and counts the
records it has read.
-/

namespace Intake

/-- The record that a value is. -/
def Record.ofJson : Json → Except Failure Record
  | .object members =>
    .ok (members.foldl (fun record member => record.insert member.1 member.2) .empty)
  | value => .error (.notObject value.kind)

/-- The record that a text holds. -/
def Record.read (bytes : List UInt8) : Except Failure Record :=
  match Json.read bytes with
  | .error fault => .error (.malformed fault)
  | .ok value => Record.ofJson value

/-- A reader with what it read last. -/
structure RecordReader where
  /-- The value decoded last; null where there is none. -/
  held : Json := .null
  /-- The number of records read. -/
  count : Nat := 0

namespace RecordReader

/-- Some value other than null is held. -/
def holdsRecord (reader : RecordReader) : Bool := reader.held.kind != .null

/-- Let go of the value held. -/
def release (reader : RecordReader) : RecordReader := { reader with held := .null }

/-- Read a record. The value held before is let go of in any case; a value that is no record is
still held. -/
def read (reader : RecordReader) (bytes : List UInt8) : Except Failure Record × RecordReader :=
  match Json.read bytes with
  | .error fault => (.error (.malformed fault), { reader with held := .null })
  | .ok value =>
    match Record.ofJson value with
    | .ok record => (.ok record, { held := value, count := reader.count + 1 })
    | .error failure => (.error failure, { reader with held := value })

/-- What a reader answers depends on the text alone. -/
theorem read_fst (reader : RecordReader) (bytes : List UInt8) :
    (reader.read bytes).1 = Record.read bytes := by
  unfold read Record.read
  cases Json.read bytes with
  | error fault => rfl
  | ok value =>
    dsimp only
    split <;> simp_all

end RecordReader

end Intake
