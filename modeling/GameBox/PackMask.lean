import GameBox.Octets
import GameBox.Text.Digits

/-!
# Content pack masks

A map records which content packs it needs as a mask of 128 bits.  The low 21 bits have names;
three combinations have a name of their own, and a mask with a higher bit is shown in hexadecimal.
Two bits are named after the environment of the map.

* `PackMask.isNamed`: whether a mask is shown by names.
* `PackMask.flags`: the names of the bits.
* `PackMask.describe`: the text of a mask.
-/

namespace GameBox

/-- A mask of content packs. -/
structure PackMask where
  bits : BitVec 128
  deriving DecidableEq, Repr

namespace PackMask

/-- The number that a mask denotes. -/
def value (mask : PackMask) : Nat := mask.bits.toNat

/-- The octets of a mask, the least significant one first. -/
def toOctets (mask : PackMask) : List UInt8 := octets 16 mask.value

/-- The low 32 bits. -/
def low (mask : PackMask) : Nat := mask.value % UInt32.size

/-- The name of a bit. -/
inductive Flag where
  | fixed (name : String)
  /-- A bit with one name in the environments of the galaxy and another one elsewhere. -/
  | contextual (galaxy other : String)
  deriving DecidableEq, Repr

/-- The name of a bit in an environment of the galaxy or elsewhere. -/
def Flag.name (galaxy : Bool) : Flag → String
  | fixed name => name
  | contextual inGalaxy other => if galaxy then inGalaxy else other

/-- The names of the bits, the lowest first. -/
def flags : List Flag :=
  [.fixed "Snow", .fixed "Rally", .fixed "Desert", .fixed "Island", .fixed "Bay", .fixed "Coast",
   .fixed "Stadium", .fixed "Canyon", .fixed "Valley", .fixed "Lagoon", .fixed "Storm",
   .fixed "Cryo", .fixed "Meteor", .contextual "Galaxy" "Paris", .fixed "Gothic",
   .fixed "Sandbox", .fixed "Laboratory", .fixed "TMCommon", .fixed "SMCommon",
   .fixed "Vehicles", .contextual "Orbital" "Actors"]

/-- Masks that have a name of their own. -/
def aliases : List (Nat × String) :=
  [(0, "None"), (0x07, "Original"), (0x38, "Sunrise"), (0x7F, "United")]

/-- The environments of the galaxy. -/
def galaxyEnvironments : List String := ["Galaxy", "Society", "History"]

/-- Whether only bits with a name are set. -/
def isNamed (mask : PackMask) : Bool :=
  mask.value >>> flags.length = 0

/-- The mask in hexadecimal digits, the most significant octet first. -/
def hex (mask : PackMask) : String :=
  "0x" ++ String.ofList ((Text.fillLeft '0' 32 (Nat.toDigits 16 mask.value)).map Char.toUpper)

/-- The names of the bits of a mask, from the lowest one. -/
def flagNames (galaxy : Bool) (mask : PackMask) : List String :=
  (flags.zipIdx.filter fun (_, bit) => mask.value.testBit bit).map fun (flag, _) =>
    flag.name galaxy

/-- The text of a mask on a map of an environment. -/
def describe (mask : PackMask) (environment : String) : String :=
  if mask.isNamed then
    match aliases.find? fun entry => entry.1 = mask.value with
    | some (_, name) => name
    | none =>
      String.intercalate ", " (mask.flagNames (galaxyEnvironments.contains environment))
  else mask.hex

end PackMask
end GameBox
