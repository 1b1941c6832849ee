import GameBox.Chunk.Data
import GameBox.Identifier.Encoder

/-!
# Writing chunks with lengths and counts

Five kinds of chunks hold parts of any length.  A picture stands behind its length, or its length
follows from its dimensions; a list stands behind its count.  Nothing in a picture is marked, and it
may hold the very markers that stand around it.

The identifiers of a chunk are written by one encoder, which may refer to what it has written
before.

* `Identifier.Encoder.Names`: the ways to write an identifier with a name.
* `MenuIcons.Spells`: the ways to write icons one behind the other.
* `ChunkData.IsWritten`: the octets of a chunk of these kinds.
-/

namespace GameBox

/-- An identifier with a name as it may be written, and what the encoder remembers from then on. -/
inductive Identifier.Encoder.Names (encoding : Encoding) (encoder : Encoder) :
    String → List UInt8 → Encoder → Prop
  | step {step : Step} (h : encoder.Takes encoding step) (fits : step.Fits encoding) :
    Names encoding encoder step.meaning.name step.octets step.behind
  /-- The empty string can be written out, too.  It is not kept, and never referred to. -/
  | empty {front : List UInt8} {version : UInt32} (tag : StringTag) (low : Nat)
    (bound : low < 0x40000000) (hfront : encoder.Settles encoding front version)
    (h : version = 2 ∨ low = 0) (assigned : tag.word low ≠ Collection.unassigned) :
    Names encoding encoder ""
      (front ++ (Field.nat32.write encoding (tag.word low) ++ Field.string.write encoding ""))
      ⟨version, encoder.strings⟩

/-- Icons one behind the other: the name of each as an identifier, and its path. -/
inductive MenuIcons.Spells (encoding : Encoding) :
    Identifier.Encoder → List MenuIcon → List UInt8 → Identifier.Encoder → Prop
  | nil (encoder : Identifier.Encoder) : Spells encoding encoder [] [] encoder
  | cons {encoder behind last : Identifier.Encoder} {name path : String}
    {front back : List UInt8} {icons : List MenuIcon}
    (hname : encoder.Names encoding name front behind) (hpath : Field.Fits encoding .string path)
    (hicons : Spells encoding behind icons back last) :
    Spells encoding encoder (⟨name, path⟩ :: icons)
      (front ++ Field.string.write encoding path ++ back) last

namespace ChunkData

open Identifier (Encoder)

/-- The octets of a chunk that holds parts of any length. -/
inductive IsWritten (encoding : Encoding) : ChunkData → List UInt8 → Prop
  /-- The picture stands behind its length, between its markers, and the comments between theirs. -/
  | thumbnail (version size : UInt32) (picture : List UInt8) (comments : String)
    (hversion : version ≠ 0) (hsize : picture.length = size.toNat)
    (hcomments : Field.Fits encoding .string comments) :
    IsWritten encoding
      ⟨.thumbnail,
        ({ version, size := some size, data := picture, comments := some comments } : Thumbnail)⟩
      (Field.nat32.write encoding version ++ Field.nat32.write encoding size ++
        Utf8.encode "<Thumbnail.jpg>" ++ picture ++ Utf8.encode "</Thumbnail.jpg>" ++
        Utf8.encode "<Comments>" ++ Field.string.write encoding comments ++
        Utf8.encode "</Comments>")
  /-- Both dimensions have their top bit set, and the container stands behind its length. -/
  | webP (width height version : UInt16) (size : UInt32) (container : List UInt8)
    (hwidth : width < 0x8000) (hheight : height < 0x8000)
    (hsize : container.length = size.toNat) :
    IsWritten encoding
      ⟨.icon, ({ width, height, image := some (.webP version container) } : Icon)⟩
      (Field.nat16.write encoding (width + 0x8000) ++
        Field.nat16.write encoding (height + 0x8000) ++ Field.nat16.write encoding version ++
        Field.nat32.write encoding size ++ container)
  /-- At most one of the dimensions has its top bit set. -/
  | rgba (width height : UInt16) (pixels : List UInt8)
    (hdimensions : width < 0x8000 ∨ height < 0x8000)
    (hlength : pixels.length = width.toNat * height.toNat * 4) :
    IsWritten encoding ⟨.icon, ({ width, height, image := some (.rgba pixels) } : Icon)⟩
      (Field.nat16.write encoding width ++ Field.nat16.write encoding height ++ pixels)
  | menuIcons (version : UInt8) {icons : List MenuIcon} {octets : List UInt8} {last : Encoder}
    (hcount : icons.length ≤ 0x1000) (hicons : MenuIcons.Spells encoding {} icons octets last) :
    IsWritten encoding ⟨.menuIcons, ({ version, icons := icons.toArray } : MenuIcons)⟩
      (Field.nat8.write encoding version ++
        Field.nat32.write encoding (UInt32.ofNat icons.length) ++ octets)
  | folderDep (folders : List String) (hcount : folders.length < 0xFFFF)
    (hfolders : ∀ folder ∈ folders, Field.Fits encoding .string folder) :
    IsWritten encoding ⟨.folderDep, ({ folders := folders.toArray } : FolderDependencies)⟩
      (Field.nat32.write encoding (UInt32.ofNat folders.length) ++
        folders.flatMap (Field.string.write encoding))
  | mood {mood : String} {octets : List UInt8} {last : Encoder}
    (hmood : Encoder.Names encoding {} mood octets last) :
    IsWritten encoding ⟨.mood, ({ mood := some mood } : DecorationMood)⟩ octets
  /-- The name of the decoration follows the mood. -/
  | decoratedMood {mood decoration : String} {octets : List UInt8} {last : Encoder}
    (hmood : Encoder.Names encoding {} mood octets last)
    (hdecoration : Field.Fits encoding .string decoration) :
    IsWritten encoding
      ⟨.mood, ({ mood := some mood, decoration := some decoration } : DecorationMood)⟩
      (octets ++ Field.string.write encoding decoration)

end ChunkData
end GameBox
