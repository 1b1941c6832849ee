import GameBox.Json
import GameBox.Text.Digits

/-!
# Rows for readers

A record is shown as rows of a label and a value, in a fixed order.  A value that was never read
has no row.

* `Row`, `Row.text`: a row and its text.
* `Row.list`: the rows of values that may be missing.
* `Label`: the names of values of lists that may grow.
-/

namespace GameBox

/-- A labelled value. -/
structure Row where
  label : String
  value : String
  deriving DecidableEq, Repr

namespace Row

/-- The text of a row. -/
def text (row : Row) : String := row.label ++ "=" ++ row.value

/-- The rows of the values that are there. -/
def list (cells : List (String × Option String)) : List Row :=
  cells.filterMap fun (label, value) => value.map (⟨label, ·⟩)

/-- A row is there only for a value that is. -/
theorem mem_list {cells : List (String × Option String)} {row : Row} :
    row ∈ list cells ↔ (row.label, some row.value) ∈ cells := by
  simp only [list, List.mem_filterMap, Prod.exists, Option.map_eq_some_iff]
  constructor
  · rintro ⟨label, value, h, v, rfl, rfl⟩
    exact h
  · intro h
    exact ⟨_, _, h, _, rfl, rfl⟩

end Row

/-! ## Texts of values -/

/-- The text of a truth value. -/
def showBool (value : Bool) : String := if value then "true" else "false"

/-- The text of a number of 8 bits. -/
def showNat8 (value : UInt8) : String := Text.decimal 1 value.toNat

/-- The text of a number of 16 bits. -/
def showNat16 (value : UInt16) : String := Text.decimal 1 value.toNat

/-- The text of a number of 32 bits. -/
def showNat32 (value : UInt32) : String := Text.decimal 1 value.toNat

/-- A point of the plane. -/
structure Point where
  x : Binary32
  y : Binary32
  deriving DecidableEq, Repr

/-- The text of a point. -/
def Point.text (point : Point) : String :=
  "(" ++ point.x.positional ++ ", " ++ point.y.positional ++ ")"

/-! ## JSON forms of values -/

/-- A number of 8 bits in JSON. -/
def jsonNat8 (value : UInt8) : Json := .nat value.toNat

/-- A number of 16 bits in JSON. -/
def jsonNat16 (value : UInt16) : Json := .nat value.toNat

/-- A number of 32 bits in JSON. -/
def jsonNat32 (value : UInt32) : Json := .nat value.toNat

/-- A number of 64 bits in JSON. -/
def jsonNat64 (value : UInt64) : Json := .nat value.toNat

/-- The JSON form of a point, an array of its coordinates. -/
def Point.toJson (point : Point) : Json := .array [.real point.x, .real point.y]

/-! ## Open lists -/

/-- How a value of an open list is called: by its name, or by its number if it has none. -/
inductive Label where
  | named (name : String)
  | numbered (raw : Nat)
  deriving DecidableEq, Repr

namespace Label

/-- The text of a label. -/
def text : Label → String
  | named name => name
  | numbered raw => "Unknown(" ++ Text.decimal 1 raw ++ ")"

/-- The JSON form of a label: a name, or an object with the number. -/
def toJson : Label → Json
  | named name => .string name
  | numbered raw => .single "Unknown" (.nat raw)

end Label

end GameBox
