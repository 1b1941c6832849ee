import GameBox.Real.Shortest

/-!
# JSON values

Values in the JSON data model, whose objects keep their members in the order in which they are
given, and their text over several lines.

* `Json`: the values.
* `Json.pretty`: the text of a value, indented by two spaces for each level.
-/

namespace GameBox

/-- A JSON value.  Reals have their own constructor, because they are written by their own rule. -/
inductive Json where
  | null
  | bool (value : Bool)
  | integer (value : Int)
  | real (value : Binary32)
  | string (value : String)
  | array (items : List Json)
  | object (members : List (String × Json))
  deriving Inhabited

namespace Json

/-- A value that may be absent. -/
def option {α : Type} (toJson : α → Json) : Option α → Json
  | none => null
  | some value => toJson value

/-- A natural number. -/
def nat (n : Nat) : Json := integer n

/-- An object with one member. -/
def single (name : String) (value : Json) : Json := object [(name, value)]

/-- A character inside a JSON string: only what has to be escaped is escaped. -/
def escape (c : Char) : String :=
  if c = '"' then "\\\""
  else if c = '\\' then "\\\\"
  else if c = '\n' then "\\n"
  else if c = '\r' then "\\r"
  else if c = '\t' then "\\t"
  else if c = '\x08' then "\\b"
  else if c = '\x0c' then "\\f"
  else if c.toNat < 0x20 then "\\u" ++ Text.hexadecimal 4 c.toNat
  else String.singleton c

/-- A text as a JSON string. -/
def quote (text : String) : String :=
  "\"" ++ String.join (text.toList.map escape) ++ "\""

/-- The text of a real; what is no number in JSON is written as absent. -/
def realText (x : Binary32) : String :=
  if x.isNaN || x.isInfinite then "null" else x.literal

/-- The start of a line at a level. -/
def newline (level : Nat) : String :=
  "\n" ++ String.ofList (List.replicate (2 * level) ' ')

mutual

/-- The text of a value that stands at a level. -/
def write (level : Nat) : Json → String
  | null => "null"
  | bool value => if value then "true" else "false"
  | integer value => Text.integer value
  | real value => realText value
  | string value => quote value
  | array [] => "[]"
  | array items =>
    "[" ++ String.intercalate "," (writeItems (level + 1) items) ++ newline level ++ "]"
  | object [] => "\x7b\x7d"
  | object members =>
    "\x7b" ++ String.intercalate "," (writeMembers (level + 1) members) ++ newline level ++ "\x7d"

/-- The texts of items, each on a line of its own. -/
def writeItems (level : Nat) : List Json → List String
  | [] => []
  | item :: items => (newline level ++ write level item) :: writeItems level items

/-- The texts of members, each on a line of its own. -/
def writeMembers (level : Nat) : List (String × Json) → List String
  | [] => []
  | (name, value) :: members =>
    (newline level ++ quote name ++ ": " ++ write level value) :: writeMembers level members

end

/-- The text of a value over several lines. -/
def pretty (value : Json) : String := write 0 value

end Json
end GameBox
