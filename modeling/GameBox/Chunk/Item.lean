import GameBox.Chunk.Layout
import GameBox.Chunk.Row
import GameBox.Time.Calendar

/-!
# Chunks of items, blocks and decorations

* `CatalogEntry`: how an item is listed in the catalog.
* `Icon`: its picture there, as plain pixels or in the WebP format.
* `ModificationTime`, `SkinDescription`, `ItemType`, `SkinFolders`, `DecorationMood`.

Each record has its layout (or decoder), its rows and its JSON form.
-/

namespace GameBox

/-! ## Catalog entry -/

/-- The states of production. -/
inductive ProductionState where
  | aborted
  | gameBox
  | devBuild
  | release
  | unknown (raw : UInt8)
  deriving DecidableEq, Repr

namespace ProductionState

/-- The state with a number. -/
def ofRaw (raw : UInt8) : ProductionState :=
  match raw.toNat with
  | 0 => aborted
  | 1 => gameBox
  | 2 => devBuild
  | 3 => release
  | _ => unknown raw

/-- How a state is called. -/
def label : ProductionState → Label
  | aborted => .named "Aborted"
  | gameBox => .named "GameBox"
  | devBuild => .named "DevBuild"
  | release => .named "Release"
  | unknown raw => .numbered raw.toNat

end ProductionState

/-- The entry of an item in the catalog. -/
structure CatalogEntry where
  uid : Option String := none
  collection : Option String := none
  author : Option String := none
  version : Option UInt32 := none
  pageName : Option String := none
  productFlags : Option UInt32 := none
  catalogPosition : Option UInt16 := none
  name : Option String := none
  state : Option ProductionState := none
  deriving DecidableEq, Repr

namespace CatalogEntry

/-- The version stands behind three names.  Version 5 alone has a word that is passed over, and the
flags come in before the position, which is older. -/
def layout : Layout CatalogEntry where
  base :=
    [.name fun v r => { r with uid := some v },
     .name fun v r => { r with collection := some v },
     .name fun v r => { r with author := some v },
     .field .nat32 fun v r => { r with version := some v }]
  version r := (r.version.getD 0).toNat
  layers :=
    [⟨.all, [.field .string fun v r => { r with pageName := some v }]⟩,
     ⟨.only 5, [.unused .nat32]⟩,
     ⟨.since 4, [.field .nat32 fun v r => { r with productFlags := some v }]⟩,
     ⟨.since 3, [.field .nat16 fun v r => { r with catalogPosition := some v }]⟩,
     ⟨.since 7, [.field .string fun v r => { r with name := some v }]⟩,
     ⟨.since 8, [.field .nat8 fun v r => { r with state := some (.ofRaw v) }]⟩]

/-- The text of flags. -/
def showFlags (flags : UInt32) : String := "0x" ++ Text.hexadecimal 1 flags.toNat

/-- What is shown of an entry. -/
def rows (r : CatalogEntry) : List Row :=
  Row.list
    [("Uid", r.uid),
     ("Collection", r.collection),
     ("Author", r.author),
     ("Version", r.version.map showNat32),
     ("PageName", r.pageName),
     ("ProductFlags", r.productFlags.map showFlags),
     ("CatalogPosition", r.catalogPosition.map showNat16),
     ("Name", r.name),
     ("ProdState", r.state.map fun state => state.label.text)]

/-- The JSON form of an entry. -/
def toJson (r : CatalogEntry) : Json :=
  .object
    [("uid", .option .string r.uid),
     ("collection", .option .string r.collection),
     ("author", .option .string r.author),
     ("version", .option jsonNat32 r.version),
     ("page_name", .option .string r.pageName),
     ("product_flags", .option jsonNat32 r.productFlags),
     ("catalog_position", .option jsonNat16 r.catalogPosition),
     ("name", .option .string r.name),
     ("prod_state", .option (fun state => state.label.toJson) r.state)]

end CatalogEntry

/-! ## Icon -/

/-- The picture of an icon. -/
inductive IconImage where
  /-- Four octets for each pixel. -/
  | rgba (data : List UInt8)
  /-- The octets of a WebP container. -/
  | webP (version : UInt16) (data : List UInt8)
  deriving DecidableEq, Repr

/-- The icon of an item in the catalog. -/
structure Icon where
  width : UInt16 := 0
  height : UInt16 := 0
  image : Option IconImage := none
  deriving DecidableEq, Repr

namespace Icon

/-- The bit that both dimensions have in front of a WebP container. -/
def webPBit : UInt16 := 0x8000

/-- The bits of a dimension without that bit. -/
def dimensionMask : UInt16 := 0x7FFF

/-- Reads the dimensions, which tell the two forms apart, and the picture. -/
def decoder : Decoder (Draft Icon) Unit := do
  let width ← Decoder.read .nat16
  let height ← Decoder.read .nat16
  if width &&& webPBit ≠ 0 ∧ height &&& webPBit ≠ 0 then
    Decoder.store fun r =>
      { r with width := width &&& dimensionMask, height := height &&& dimensionMask }
    let version ← Decoder.read .nat16
    let size ← Decoder.read .nat32
    let data ← Decoder.octets size.toNat
    Decoder.store fun r => { r with image := some (.webP version data) }
  else
    Decoder.store fun r => { r with width, height }
    let data ← Decoder.octets (width.toNat * height.toNat * 4)
    Decoder.store fun r => { r with image := some (.rgba data) }

/-- Whether the picture is a WebP container. -/
def isWebP (r : Icon) : Bool :=
  match r.image with
  | some (.webP ..) => true
  | _ => false

/-- The octets of the picture. -/
def data (r : Icon) : List UInt8 :=
  match r.image with
  | some (.rgba data) | some (.webP _ data) => data
  | none => []

/-- The text of the format of a picture. -/
def showFormat : IconImage → String
  | .rgba _ => "RGBA"
  | .webP version _ => "WebP (version " ++ showNat16 version ++ ")"

/-- What is shown of an icon: not the picture itself, but how many octets it has. -/
def rows (r : Icon) : List Row :=
  Row.list
    [("Size", some (showNat16 r.width ++ "x" ++ showNat16 r.height)),
     ("Format", r.image.map showFormat),
     ("DataSize", some (Text.decimal 1 r.data.length))]

/-- The picture itself is not part of the JSON form. -/
def toJson (r : Icon) : Json :=
  let image : IconImage → Json
    | .rgba _ => .single "Rgba" (.object [])
    | .webP version _ => .single "WebP" (.object [("version", jsonNat16 version)])
  .object
    [("width", jsonNat16 r.width), ("height", jsonNat16 r.height),
     ("image", .option image r.image)]

end Icon

/-! ## Modification time -/

/-- When an item was changed for the last time, in ticks of 100 ns since 1601. -/
structure ModificationTime where
  ticks : Option UInt64 := none
  deriving DecidableEq, Repr

namespace ModificationTime

/-- The time is all there is. -/
def layout : Layout ModificationTime :=
  .plain [.field .nat64 fun v r => { r with ticks := some v }]

/-- The instant in seconds since 1970. -/
def seconds (r : ModificationTime) : Option Int := r.ticks.map FileTime.toSeconds

/-- What is shown of a time: nothing if it is no instant that has a text. -/
def rows (r : ModificationTime) : List Row :=
  Row.list [("Time", r.seconds.bind Calendar.format?)]

/-- The JSON form of a time, in ticks. -/
def toJson (r : ModificationTime) : Json :=
  .object [("filetime", .option jsonNat64 r.ticks)]

end ModificationTime

/-! ## Skins -/

/-- The skin of a block. -/
structure SkinDescription where
  version : UInt32 := 0
  text : Option String := none
  packDesc : Option String := none
  deriving DecidableEq, Repr

namespace SkinDescription

/-- The text, then the pack. -/
def layout : Layout SkinDescription where
  base := [.field .nat32 fun v r => { r with version := v }]
  version r := r.version.toNat
  layers :=
    [⟨.all, [.field .string fun v r => { r with text := some v }]⟩,
     ⟨.since 1, [.field .string fun v r => { r with packDesc := some v }]⟩]

/-- What is shown of a skin. -/
def rows (r : SkinDescription) : List Row :=
  Row.list
    [("Version", some (showNat32 r.version)), ("Text", r.text), ("PackDesc", r.packDesc)]

/-- The JSON form of a skin. -/
def toJson (r : SkinDescription) : Json :=
  .object
    [("version", jsonNat32 r.version),
     ("text", .option .string r.text),
     ("pack_desc", .option .string r.packDesc)]

end SkinDescription

/-- The folders of the skin of a vehicle. -/
structure SkinFolders where
  version : UInt8 := 0
  directory : Option String := none
  texture : Option String := none
  soundDirectory : Option String := none
  deriving DecidableEq, Repr

namespace SkinFolders

/-- The directory, then the texture, then the sounds. -/
def layout : Layout SkinFolders where
  base := [.field .nat8 fun v r => { r with version := v }]
  version r := r.version.toNat
  layers :=
    [⟨.all, [.field .string fun v r => { r with directory := some v }]⟩,
     ⟨.since 1, [.field .string fun v r => { r with texture := some v }]⟩,
     ⟨.since 2, [.field .string fun v r => { r with soundDirectory := some v }]⟩]

/-- What is shown of the folders of a skin. -/
def rows (r : SkinFolders) : List Row :=
  Row.list
    [("Version", some (showNat8 r.version)), ("Directory", r.directory),
     ("Texture", r.texture), ("SoundDirectory", r.soundDirectory)]

/-- The JSON form of the folders of a skin. -/
def toJson (r : SkinFolders) : Json :=
  .object
    [("version", jsonNat8 r.version),
     ("directory", .option .string r.directory),
     ("texture", .option .string r.texture),
     ("sound_directory", .option .string r.soundDirectory)]

end SkinFolders

/-! ## Item type -/

/-- The type of an item. -/
structure ItemType where
  raw : Option UInt32 := none
  deriving DecidableEq, Repr

namespace ItemType

/-- The names of the types, in the order of their numbers. -/
def names : List String :=
  ["Undefined", "Ornament", "PickUp", "Character", "Vehicle", "Spot", "Cannon", "Group", "Decal",
   "Turret", "Wagon", "Block", "EntitySpawner", "DeprecV", "Procedural", "Generic"]

/-- The number of the type is all there is. -/
def layout : Layout ItemType :=
  .plain [.field .nat32 fun v r => { r with raw := some v }]

/-- The name of the type, if it has one. -/
def name? (r : ItemType) : Option String := r.raw.bind fun raw => names[raw.toNat]?

/-- How the type is called. -/
def label? (r : ItemType) : Option Label :=
  r.raw.map fun raw => match names[raw.toNat]? with
    | some name => .named name
    | none => .numbered raw.toNat

/-- What is shown of a type. -/
def rows (r : ItemType) : List Row :=
  Row.list [("ItemType", r.label?.map Label.text)]

/-- The JSON form of a type, which is its number. -/
def toJson (r : ItemType) : Json :=
  .object [("raw", .option jsonNat32 r.raw)]

end ItemType

/-! ## Mood -/

/-- The mood that a decoration sets. -/
structure DecorationMood where
  mood : Option String := none
  decoration : Option String := none
  deriving DecidableEq, Repr

namespace DecorationMood

/-- Reads the mood, and the name of the decoration unless the chunk ends there. -/
def decoder : Decoder (Draft DecorationMood) Unit := do
  let mood ← Decoder.ident
  Decoder.store fun r => { r with mood := some mood }
  .exhausted fun exhausted =>
    if exhausted then .done ()
    else do
      let decoration ← Decoder.read .string
      Decoder.store fun r => { r with decoration := some decoration }

/-- What is shown of a mood. -/
def rows (r : DecorationMood) : List Row :=
  Row.list [("Mood", r.mood), ("Decoration", r.decoration)]

/-- The JSON form of a mood. -/
def toJson (r : DecorationMood) : Json :=
  .object
    [("mood", .option .string r.mood), ("decoration", .option .string r.decoration)]

end DecorationMood
end GameBox
