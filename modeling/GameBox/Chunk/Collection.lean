import GameBox.Chunk.Layout
import GameBox.Chunk.Row

/-!
# Chunks of collections

* `LegacyCollection`: the description in the oldest games.
* `CollectionDescription`: icons, vehicle, map coordinates.
* `FolderLayout`: where the parts of a collection are stored.
* `MenuIcons`: a counted list of icons.

Each record has its layout (or decoder), its rows and its JSON form.
-/

namespace GameBox

/-! ## Descriptions -/

/-- The description of a collection in the oldest games. -/
structure LegacyCollection where
  collection : Option String := none
  name : Option String := none
  needUnlock : Option Bool := none
  deriving DecidableEq, Repr

namespace LegacyCollection

/-- The collection, its name and whether it has to be unlocked; there is no version. -/
def layout : Layout LegacyCollection :=
  .plain
    [.name fun v r => { r with collection := some v },
     .field .string fun v r => { r with name := some v },
     .field .bool fun v r => { r with needUnlock := some v }]

/-- What is shown of a description. -/
def rows (r : LegacyCollection) : List Row :=
  Row.list
    [("Collection", r.collection), ("Name", r.name), ("NeedUnlock", r.needUnlock.map showBool)]

/-- The JSON form of a description. -/
def toJson (r : LegacyCollection) : Json :=
  .object
    [("collection", .option .string r.collection),
     ("name", .option .string r.name),
     ("need_unlock", .option .bool r.needUnlock)]

end LegacyCollection

/-- A vehicle, by its name, its collection and its author. -/
structure Vehicle where
  id : String
  collection : String
  author : String
  deriving DecidableEq, Repr

/-- The description of a collection. -/
structure CollectionDescription where
  version : UInt8 := 0
  collection : Option String := none
  needUnlock : Option Bool := none
  iconEnv : Option String := none
  iconCollection : Option String := none
  sortIndex : Option UInt32 := none
  defaultZone : Option String := none
  vehicle : Option Vehicle := none
  mapFid : Option String := none
  mapCoordElem : Option Point := none
  mapCoordIcon : Option Point := none
  loadScreen : Option String := none
  mapCoordDesc : Option Point := none
  deriving DecidableEq, Repr

namespace CollectionDescription

/-- Nine versions, each with all that the one before has. -/
def layout : Layout CollectionDescription where
  base := [.field .nat8 fun v r => { r with version := v }]
  version r := r.version.toNat
  layers :=
    [⟨.all,
      [.name fun v r => { r with collection := some v },
       .field .bool fun v r => { r with needUnlock := some v }]⟩,
     ⟨.since 1,
      [.field .string fun v r => { r with iconEnv := some v },
       .field .string fun v r => { r with iconCollection := some v }]⟩,
     ⟨.since 2, [.field .nat32 fun v r => { r with sortIndex := some v }]⟩,
     ⟨.since 3, [.name fun v r => { r with defaultZone := some v }]⟩,
     ⟨.since 4, [.triple fun a b c r => { r with vehicle := some ⟨a, b, c⟩ }]⟩,
     ⟨.since 5, [.field .string fun v r => { r with mapFid := some v }]⟩,
     ⟨.since 6,
      [.pair .real fun x y r => { r with mapCoordElem := some ⟨x, y⟩ },
       .pair .real fun x y r => { r with mapCoordIcon := some ⟨x, y⟩ }]⟩,
     ⟨.since 7, [.field .string fun v r => { r with loadScreen := some v }]⟩,
     ⟨.since 8, [.pair .real fun x y r => { r with mapCoordDesc := some ⟨x, y⟩ }]⟩]

/-- What is shown of a description; the parts of a vehicle stand on one row. -/
def rows (r : CollectionDescription) : List Row :=
  let vehicle (v : Vehicle) : String := v.id ++ " / " ++ v.collection ++ " / " ++ v.author
  Row.list
    [("Version", some (showNat8 r.version)),
     ("Collection", r.collection),
     ("NeedUnlock", r.needUnlock.map showBool),
     ("IconEnv", r.iconEnv),
     ("IconCollection", r.iconCollection),
     ("SortIndex", r.sortIndex.map showNat32),
     ("DefaultZone", r.defaultZone),
     ("Vehicle", r.vehicle.map vehicle),
     ("MapFid", r.mapFid),
     ("MapCoordElem", r.mapCoordElem.map Point.text),
     ("MapCoordIcon", r.mapCoordIcon.map Point.text),
     ("LoadScreen", r.loadScreen),
     ("MapCoordDesc", r.mapCoordDesc.map Point.text)]

/-- The JSON form of a description; a vehicle is an array of its three parts. -/
def toJson (r : CollectionDescription) : Json :=
  let vehicle (v : Vehicle) : Json :=
    .array [.string v.id, .string v.collection, .string v.author]
  .object
    [("version", jsonNat8 r.version),
     ("collection", .option .string r.collection),
     ("need_unlock", .option .bool r.needUnlock),
     ("icon_env", .option .string r.iconEnv),
     ("icon_collection", .option .string r.iconCollection),
     ("sort_index", .option jsonNat32 r.sortIndex),
     ("default_zone", .option .string r.defaultZone),
     ("vehicle", .option vehicle r.vehicle),
     ("map_fid", .option .string r.mapFid),
     ("map_coord_elem", .option Point.toJson r.mapCoordElem),
     ("map_coord_icon", .option Point.toJson r.mapCoordIcon),
     ("load_screen", .option .string r.loadScreen),
     ("map_coord_desc", .option Point.toJson r.mapCoordDesc)]

end CollectionDescription

/-! ## Folders -/

/-- Where the parts of a collection are stored. -/
structure FolderLayout where
  version : UInt8 := 0
  blockInfo : Option String := none
  item : Option String := none
  decoration : Option String := none
  menuIcons : Option String := none
  displayName : Option String := none
  deriving DecidableEq, Repr

namespace FolderLayout

/-- Three folders, then the menu icons, then a name to show, which version 2 has not yet. -/
def layout : Layout FolderLayout where
  base := [.field .nat8 fun v r => { r with version := v }]
  version r := r.version.toNat
  layers :=
    [⟨.all,
      [.field .string fun v r => { r with blockInfo := some v },
       .field .string fun v r => { r with item := some v },
       .field .string fun v r => { r with decoration := some v }]⟩,
     ⟨.since 1, [.field .string fun v r => { r with menuIcons := some v }]⟩,
     ⟨.since 3, [.field .string fun v r => { r with displayName := some v }]⟩]

/-- What is shown of the folders. -/
def rows (r : FolderLayout) : List Row :=
  Row.list
    [("Version", some (showNat8 r.version)),
     ("BlockInfoFolder", r.blockInfo),
     ("ItemFolder", r.item),
     ("DecorationFolder", r.decoration),
     ("MenuIconsFolder", r.menuIcons),
     ("DisplayName", r.displayName)]

/-- The JSON form of the folders. -/
def toJson (r : FolderLayout) : Json :=
  .object
    [("version", jsonNat8 r.version),
     ("block_info", .option .string r.blockInfo),
     ("item", .option .string r.item),
     ("decoration", .option .string r.decoration),
     ("menu_icons", .option .string r.menuIcons),
     ("display_name", .option .string r.displayName)]

end FolderLayout

/-! ## Menu icons -/

/-- An icon of a menu: what it stands for, and where its picture is. -/
structure MenuIcon where
  name : String
  path : String
  deriving DecidableEq, Repr

/-- The icons of a collection in menus. -/
structure MenuIcons where
  version : UInt8 := 0
  icons : Array MenuIcon := #[]
  deriving DecidableEq, Repr

namespace MenuIcons

/-- The most icons that a collection may have. -/
def maxIcons : UInt32 := 0x1000

/-- Reads one icon and appends it. -/
def iconDecoder : Decoder (Draft MenuIcons) Unit := do
  let name ← Decoder.ident
  let path ← Decoder.read .string
  Decoder.store fun r => { r with icons := r.icons.push ⟨name, path⟩ }

/-- Reads the version, the count and the icons. -/
def decoder : Decoder (Draft MenuIcons) Unit := do
  let version ← Decoder.read .nat8
  Decoder.store fun r => { r with version }
  let count ← Decoder.read .nat32
  if maxIcons < count then
    Decoder.exceeded .menuIconCount count.toNat (maxIcons.toNat + 1)
  else iconDecoder.repeated count.toNat

/-- The number of icons, and a row for each. -/
def rows (r : MenuIcons) : List Row :=
  [⟨"Version", showNat8 r.version⟩, ⟨"Count", Text.decimal 1 r.icons.size⟩] ++
    r.icons.toList.map fun icon => ⟨"Icon", icon.name ++ ": " ++ icon.path⟩

/-- The JSON form of the icons. -/
def toJson (r : MenuIcons) : Json :=
  let icon (i : MenuIcon) : Json :=
    .object [("name", .string i.name), ("path", .string i.path)]
  .object [("version", jsonNat8 r.version), ("icons", .array (r.icons.toList.map icon))]

end MenuIcons
end GameBox
