import GameBox.Text.Digits

/-!
# Collections

A collection is a set of game content, such as the environment of a map.  The known ones have a
number, and an identifier may give that number in the place of a name.

* `Collection.known?`: the name of a known collection.
* `Collection.name`: the name of any collection; an unknown one is named by its number.
-/

namespace GameBox
namespace Collection

/-- The number of an identifier without a value. -/
def unassigned : UInt32 := 0xFFFFFFFF

/-- The known collections in the order of their numbers. -/
def table : List (UInt32 × String) :=
  [(0, "Desert"), (1, "Snow"), (2, "Rally"), (3, "Island"), (4, "Bay"), (5, "Coast"),
   (6, "Stadium"), (7, "Basic"), (8, "Plain"), (9, "Moon"), (10, "Toy"), (11, "Valley"),
   (12, "Canyon"), (13, "Lagoon"), (14, "Arena"), (15, "TMCommon"), (16, "Canyon4"),
   (17, "Canyon256"), (18, "Valley4"), (19, "Valley256"), (20, "Lagoon4"), (21, "Lagoon256"),
   (22, "Stadium4"), (23, "Stadium256"), (24, "Stadium64"), (25, "Valley64"), (26, "Stadium"),
   (27, "Lagoon64"), (100, "History"), (101, "Society"), (102, "Galaxy"), (103, "Gothic"),
   (104, "Paris"), (105, "Sandbox"), (200, "Storm"), (201, "Cryo"), (202, "Meteor"),
   (203, "Meteor4"), (204, "Meteor64"), (205, "Meteor256"), (206, "Laboratory"),
   (207, "Laboratory4"), (299, "SMCommon"), (10000, "Vehicles"), (10001, "Orbital"),
   (10002, "Actors"), (10003, "Common"),
   (unassigned, "_Unassigned")]

/-- The name of a known collection. -/
def known? (id : UInt32) : Option String :=
  (table.find? fun entry => entry.1 = id).map Prod.snd

/-- The name of a collection, or its number if it is not known. -/
def name (id : UInt32) : String :=
  (known? id).getD (Text.decimal 1 id.toNat)

end Collection
end GameBox
