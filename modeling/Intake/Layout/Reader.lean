import Intake.Layout.Basic

/-!
# Reading date-times by an ordered list of layouts

A reader tries its layouts in order. For each field the layout that matched last is remembered and
tried first the next time; what is remembered is a value of its own, handed from call to call.
-/

namespace Intake

/-- An ordered list of layouts and the zone for wall times. -/
structure LayoutReader where
  layouts : List Layout := Layout.defaults
  zone : Zone := .utc

/-- The layout remembered for each field, as a position in the reader's list. -/
structure LayoutCache where
  entries : List (String × Nat) := []

namespace LayoutCache

/-- Nothing is remembered. -/
def empty : LayoutCache := {}

/-- The position remembered for a field. -/
def get? (cache : LayoutCache) (key : String) : Option Nat := cache.entries.lookup key

/-- The number of fields with a remembered layout. -/
def size (cache : LayoutCache) : Nat := cache.entries.length

/-- Remember a position for a field. -/
def insert (cache : LayoutCache) (key : String) (index : Nat) : LayoutCache :=
  ⟨(key, index) :: cache.entries.filter fun entry => entry.1 != key⟩

theorem get?_insert (cache : LayoutCache) (key other : String) (index : Nat) :
    (cache.insert key index).get? other = if other = key then some index else cache.get? other := by
  unfold get? insert
  by_cases same : other = key
  · simp [same]
  · simp only [List.lookup_cons, beq_eq_false_iff_ne.2 same, same, if_false]
    induction cache.entries with
    | nil => rfl
    | cons entry rest ih =>
      obtain ⟨name, position⟩ := entry
      by_cases held : name = key
      · have differs : (other == name) = false := by simp [held, same]
        simp [held, List.lookup_cons, ih, held ▸ differs]
      · simp [held, List.lookup_cons, ih]

end LayoutCache

namespace LayoutReader

/-- The first layout at or after a position that reads a value, with its position. -/
def scanFrom (zone : Zone) (value : String) : Nat → List Layout → Option (Instant × Nat)
  | _, [] => none
  | index, layout :: rest =>
    match layout.read? zone value with
    | some instant => some (instant, index)
    | none => scanFrom zone value (index + 1) rest

/-- The first layout that reads a value. No layout reads the empty value. -/
def scan (reader : LayoutReader) (value : String) : Option (Instant × Nat) :=
  if value = "" then none else scanFrom reader.zone value 0 reader.layouts

/-- Some layout reads the value. -/
def recognises (reader : LayoutReader) (value : String) : Bool := (reader.scan value).isSome

/-- The instant of a value and the first layout that reads it. -/
def read? (reader : LayoutReader) (value : String) : Option (Instant × Layout) := do
  let (instant, index) ← reader.scan value
  let layout ← reader.layouts[index]?
  some (instant, layout)

/-- The instant of a field's value by the layout remembered for the field. -/
def readCached? (reader : LayoutReader) (cache : LayoutCache) (key value : String) :
    Option Instant := do
  let index ← cache.get? key
  let layout ← reader.layouts[index]?
  layout.read? reader.zone value

/-- The instant of a field's value. The remembered layout is tried first; if it does not match, the
layouts are tried in order and the one that matches is remembered. -/
def readField (reader : LayoutReader) (cache : LayoutCache) (key value : String) :
    Option Instant × LayoutCache :=
  match reader.readCached? cache key value with
  | some instant => (some instant, cache)
  | none =>
    match reader.scan value with
    | some (instant, index) =>
      (some instant, if cache.get? key = some index then cache else cache.insert key index)
    | none => (none, cache)

/-- The layout remembered for a field. -/
def cachedLayout? (reader : LayoutReader) (cache : LayoutCache) (key : String) : Option Layout :=
  (cache.get? key).bind fun index => reader.layouts[index]?

end LayoutReader

end Intake
