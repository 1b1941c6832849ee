import GameBox.Chunk.Sized
import GameBox.Proofs.Chunk.Written
import GameBox.Proofs.Identifier.Lookback

/-!
# Chunks with lengths and counts are read back

A part of a chunk may be anything if its length is known before it is read.  That is why a picture
can hold the markers that stand around it: the reader compares a marker where it has to stand, and
never looks for one (`Thumbnail.reads_decoder`).  The two forms of an icon are told apart by the top
bits of its dimensions, and what is taken away of a dimension is what was added to it
(`Icon.add_webPBit_and_dimensionMask`).

In a list of icons the table of identifiers passes from one round to the next.  The table of the
reader is the memory of the encoder before and behind every icon, and the induction is on the way in
which the icons were written (`MenuIcons.Spells.reads`).  There is always such a way: a string that
fits can be written out, whatever was written before (`Identifier.Encoder.exists_names`).

A mood may end the chunk, and then the reader finds nothing left.  Of this kind a chunk is read back
as a whole only, and not in the middle of others (`DecorationMood.run_decoder`).

A list with too large a count is refused before its first item (`MenuIcons.stops_decoder`,
`FolderDependencies.stops_decoder`).  A list with one item that is too long is refused as well, and
so the theorem needs every string to fit (`ChunkData.not_decode_sized`).
-/

namespace GameBox

open Identifier (Encoder)

variable {encoding : Encoding} {ρ σ α : Type}

/-! ## Pieces of a decoder -/

theorem Field.write_string_ne_nil (encoding : Encoding) (text : String) :
    string.write encoding text ≠ [] := by
  cases encoding with
  | binary => exact string.writeBinary_ne_nil text
  | text => exact List.append_ne_nil_of_right_ne_nil _ (List.cons_ne_nil _ _)

namespace Decoder

variable {s s' s'' : σ} {piece piece' : List UInt8} {value : α}

/-- A marker is read where it stands, whatever is around it. -/
theorem Reads.tag (expected : String) (s : σ) :
    Reads encoding (tag expected) s (Utf8.encode expected) () s := by
  intro front back
  rw [Decoder.tag, run, Octets.take_middle]
  dsimp only
  rw [if_pos rfl, run_done]

theorem Reads.writeNat8 (encoding : Encoding) (value : UInt8) (s : σ) :
    Reads encoding (Decoder.read .nat8) s (Field.nat8.write encoding value) value s :=
  .read (Field.reads_write_of_ne encoding .nat8 (by decide) (by decide) value) s

theorem Reads.writeNat16 (encoding : Encoding) (value : UInt16) (s : σ) :
    Reads encoding (Decoder.read .nat16) s (Field.nat16.write encoding value) value s :=
  .read (Field.reads_write_of_ne encoding .nat16 (by decide) (by decide) value) s

/-- What is stored is there for what follows. -/
theorem Reads.store {put : ρ → ρ} {d : Unit → Decoder (Draft ρ) α} {idents : Identifier.Table}
    {r : ρ} {draft : Draft ρ} (h : Reads encoding (d ()) ⟨idents, put r⟩ piece value draft) :
    Reads encoding ((store put).bind d) ⟨idents, r⟩ piece value draft :=
  .change h

theorem Reads.repeated_succ {d : Decoder σ Unit} {count : Nat}
    (h : Reads encoding d s piece () s') (h' : Reads encoding (d.repeated count) s' piece' () s'') :
    Reads encoding (d.repeated (count + 1)) s (piece ++ piece') () s'' :=
  h.bind h'

theorem Stops.store {put : ρ → ρ} {d : Unit → Decoder (Draft ρ) α} {idents : Identifier.Table}
    {r : ρ} {draft : Draft ρ} {error : DecodeError}
    (h : Stops encoding (d ()) ⟨idents, put r⟩ piece error draft) :
    Stops encoding ((store put).bind d) ⟨idents, r⟩ piece error draft :=
  h

end Decoder

/-! ## Identifiers -/

namespace Identifier.Encoder

variable {encoder behind : Encoder} {name : String} {octets : List UInt8}

/-- The empty string is not learned. -/
theorem reads_nameOf_empty {table : Table} {word : UInt32}
    (hform : form table.version word = .inline) :
    Decoder.Reads encoding (nameOf word) table (Field.string.write encoding "") "" table := by
  have hfits : Field.Fits encoding .string "" := by cases encoding <;> decide
  have hlearn : table.learn "" = table := if_pos rfl
  refine .look ?_
  rw [Decoder.bind, hform]
  refine (Decoder.Reads.write encoding .string (by decide) hfits table).finish (.change ?_)
  rw [hlearn]
  exact .done _ _

/-- The name is read back, and the reader knows what the encoder remembers. -/
theorem Names.reads_decoder (h : encoder.Names encoding name octets behind) :
    ∃ word, Decoder.Reads encoding decoder encoder.table octets ⟨name, word⟩ behind.table := by
  cases h with
  | step h fits => exact ⟨_, h.reads_decoder fits⟩
  | @empty front version tag low bound hfront h assigned =>
    have hform : form version (tag.word low) = .inline := by
      rcases h with rfl | rfl
      · exact form_inline_of_two tag bound assigned
      · exact form_inline tag _
    have hname : Decoder.Reads encoding (nameOf (tag.word low))
        (Encoder.table ⟨version, encoder.strings⟩) _ "" _ := reads_nameOf_empty hform
    exact ⟨tag.word low, hfront.reads.bind
      ((Decoder.Reads.writeNat32 encoding _ _).bind (hname.finish (.done _ _)))⟩

theorem Names.reads (h : encoder.Names encoding name octets behind) (r : ρ) :
    Decoder.Reads encoding Decoder.ident ⟨encoder.table, r⟩ octets name ⟨behind.table, r⟩ := by
  obtain ⟨word, hident⟩ := h.reads_decoder
  exact Decoder.Reads.zoom (fun _ _ => rfl) (fun _ => rfl) (fun _ _ _ => rfl)
    (hident.finish (.done _ _))

theorem exists_settles (encoding : Encoding) (encoder : Encoder) :
    ∃ front version, encoder.Settles encoding front version := by
  by_cases hsettled : 3 ≤ encoder.version
  · exact ⟨[], encoder.version, .settled hsettled⟩
  · exact ⟨_, 3, .written 3 (UInt32.not_le.1 hsettled) (by decide)⟩

/-- Every name can be written out, whatever was written before. -/
theorem exists_names (encoder : Encoder) (hfits : Field.Fits encoding .string name) :
    ∃ octets behind, encoder.Names encoding name octets behind := by
  obtain ⟨front, version, hfront⟩ := exists_settles encoding encoder
  by_cases hname : name = ""
  · subst hname
    exact ⟨_, _, .empty .low 0 (by decide) hfront (.inr rfl) (by decide)⟩
  · have htail : Spells encoding ⟨version, encoder.strings⟩ (.string name hname)
        (StringTag.low.word 0) (Field.string.write encoding name) (encoder.strings ++ [name]) :=
      .inline name hname .low 0 (by decide) (.inr rfl)
    have hassigned : StringTag.low.word 0 ≠ Collection.unassigned := by decide
    exact ⟨_, _, .step (.intro hfront htail) ⟨hfits, hassigned⟩⟩

end Identifier.Encoder

/-! ## Pictures -/

/-- The markers inside a picture are octets like others: how far it goes is known before. -/
theorem Thumbnail.reads_decoder {version size : UInt32} {picture : List UInt8} {comments : String}
    (hversion : version ≠ 0) (hsize : picture.length = size.toNat)
    (hcomments : Field.Fits encoding .string comments) (idents : Identifier.Table) :
    Decoder.Reads encoding decoder ⟨idents, {}⟩
      (Field.nat32.write encoding version ++ (Field.nat32.write encoding size ++
        (Utf8.encode pictureOpen ++ (picture ++ (Utf8.encode pictureClose ++
        (Utf8.encode commentsOpen ++ (Field.string.write encoding comments ++
        Utf8.encode commentsClose))))))) ()
      ⟨idents, { version, size := some size, data := picture, comments := some comments }⟩ := by
  refine (Decoder.Reads.writeNat32 encoding version _).bind (.store ?_)
  rw [if_neg hversion]
  refine (Decoder.Reads.writeNat32 encoding size _).bind (.store ?_)
  refine (Decoder.Reads.tag pictureOpen _).bind ?_
  refine (Decoder.Reads.octets hsize _).bind (.store ?_)
  refine (Decoder.Reads.tag pictureClose _).bind ?_
  refine (Decoder.Reads.tag commentsOpen _).bind ?_
  refine (Decoder.Reads.write encoding .string (by decide) hcomments _).bind (.store ?_)
  exact Decoder.Reads.tag commentsClose _

namespace Icon

/-- A dimension without its top bit is a small number. -/
theorem and_webPBit_eq_zero_iff (dimension : UInt16) :
    dimension &&& webPBit = 0 ↔ dimension < 0x8000 := by
  have hand : (dimension &&& webPBit).toNat = dimension.toNat &&& (2 ^ 1 - 1) * 2 ^ 15 :=
    UInt16.toNat_and dimension webPBit
  rw [← UInt16.toNat_inj, hand, UInt16.lt_iff_toNat_lt]
  exact Identifier.and_topBits_eq_zero_iff dimension.toNat_lt

theorem toNat_add_webPBit {dimension : UInt16} (h : dimension < 0x8000) :
    (dimension + 0x8000).toNat = dimension.toNat + 2 ^ 15 := by
  have hlt : dimension.toNat < 2 ^ 15 := UInt16.lt_iff_toNat_lt.1 h
  have hbound : (0x8000 : UInt16).toNat = 2 ^ 15 := rfl
  rw [UInt16.toNat_add, hbound, Nat.mod_eq_of_lt (by omega)]

theorem add_webPBit_and_webPBit {dimension : UInt16} (h : dimension < 0x8000) :
    (dimension + 0x8000) &&& webPBit ≠ 0 := by
  rw [Ne, and_webPBit_eq_zero_iff, UInt16.lt_iff_toNat_lt, toNat_add_webPBit h]
  have hbound : (0x8000 : UInt16).toNat = 2 ^ 15 := rfl
  omega

theorem add_webPBit_and_dimensionMask {dimension : UInt16} (h : dimension < 0x8000) :
    (dimension + 0x8000) &&& dimensionMask = dimension := by
  have hlt : dimension.toNat < 2 ^ 15 := UInt16.lt_iff_toNat_lt.1 h
  have hmask : dimensionMask.toNat = 2 ^ 15 - 1 := rfl
  rw [← UInt16.toNat_inj, UInt16.toNat_and, hmask, Nat.and_two_pow_sub_one_eq_mod,
    toNat_add_webPBit h]
  omega

theorem reads_decoder_webP {width height version : UInt16} {size : UInt32}
    {container : List UInt8} (hwidth : width < 0x8000) (hheight : height < 0x8000)
    (hsize : container.length = size.toNat) (idents : Identifier.Table) :
    Decoder.Reads encoding decoder ⟨idents, {}⟩
      (Field.nat16.write encoding (width + 0x8000) ++
        (Field.nat16.write encoding (height + 0x8000) ++ (Field.nat16.write encoding version ++
        (Field.nat32.write encoding size ++ container)))) ()
      ⟨idents, { width, height, image := some (.webP version container) }⟩ := by
  refine (Decoder.Reads.writeNat16 encoding _ _).bind ?_
  refine (Decoder.Reads.writeNat16 encoding _ _).bind ?_
  rw [if_pos ⟨add_webPBit_and_webPBit hwidth, add_webPBit_and_webPBit hheight⟩]
  refine .store ?_
  rw [add_webPBit_and_dimensionMask hwidth, add_webPBit_and_dimensionMask hheight]
  refine (Decoder.Reads.writeNat16 encoding _ _).bind ?_
  refine (Decoder.Reads.writeNat32 encoding size _).bind ?_
  exact (Decoder.Reads.octets hsize _).finish (.modify _ _)

theorem reads_decoder_rgba {width height : UInt16} {pixels : List UInt8}
    (hdimensions : width < 0x8000 ∨ height < 0x8000)
    (hlength : pixels.length = width.toNat * height.toNat * 4) (idents : Identifier.Table) :
    Decoder.Reads encoding decoder ⟨idents, {}⟩
      (Field.nat16.write encoding width ++ (Field.nat16.write encoding height ++ pixels)) ()
      ⟨idents, { width, height, image := some (.rgba pixels) }⟩ := by
  refine (Decoder.Reads.writeNat16 encoding _ _).bind ?_
  refine (Decoder.Reads.writeNat16 encoding _ _).bind ?_
  rw [if_neg]
  · exact .store ((Decoder.Reads.octets hlength _).finish (.modify _ _))
  · rw [Ne, and_webPBit_eq_zero_iff, Ne, and_webPBit_eq_zero_iff]
    tauto

end Icon

/-! ## Lists -/

namespace MenuIcons

variable {encoder last : Encoder} {icons : List MenuIcon} {octets : List UInt8}

/-- The icons are appended one after the other, and the identifiers of one round are known in the
next. -/
theorem Spells.reads (h : Spells encoding encoder icons octets last) (r : MenuIcons) :
    Decoder.Reads encoding (iconDecoder.repeated icons.length) ⟨encoder.table, r⟩ octets ()
      ⟨last.table, { r with icons := r.icons ++ icons.toArray }⟩ := by
  induction h generalizing r with
  | nil encoder =>
    rw [Array.append_empty]
    exact .done _ _
  | @cons encoder behind last name path front back icons hname hpath _ ih =>
    have hicon : Decoder.Reads encoding iconDecoder ⟨encoder.table, r⟩
        (front ++ Field.string.write encoding path) ()
        ⟨behind.table, { r with icons := r.icons.push ⟨name, path⟩ }⟩ :=
      (hname.reads r).bind
        ((Decoder.Reads.write encoding .string (by decide) hpath _).finish (.modify _ _))
    have hrest := ih { r with icons := r.icons.push ⟨name, path⟩ }
    rw [List.push_append_toArray] at hrest
    exact hicon.repeated_succ hrest

theorem reads_decoder {version : UInt8} (hcount : icons.length ≤ 0x1000)
    (h : Spells encoding {} icons octets last) :
    Decoder.Reads encoding decoder ⟨.empty, {}⟩
      (Field.nat8.write encoding version ++
        (Field.nat32.write encoding (UInt32.ofNat icons.length) ++ octets)) ()
      ⟨last.table, { version, icons := icons.toArray }⟩ := by
  have hlength : (UInt32.ofNat icons.length).toNat = icons.length :=
    UInt32.toNat_ofNat_of_lt' (Nat.lt_of_le_of_lt hcount (by decide))
  have hallowed : ¬maxIcons < UInt32.ofNat icons.length := by
    rw [UInt32.not_lt, UInt32.le_iff_toNat_le, hlength]
    exact hcount
  have hicons := h.reads { version }
  rw [← hlength, Array.empty_append] at hicons
  refine (Decoder.Reads.writeNat8 encoding version _).bind (.store ?_)
  refine (Decoder.Reads.writeNat32 encoding _ _).bind ?_
  rw [if_neg hallowed]
  exact hicons

/-- Icons can be written whatever they are, if their strings fit. -/
theorem exists_spells (encoder : Encoder)
    (hfits : ∀ icon ∈ icons, Field.Fits encoding .string icon.name ∧
      Field.Fits encoding .string icon.path) :
    ∃ octets last, Spells encoding encoder icons octets last := by
  induction icons generalizing encoder with
  | nil => exact ⟨[], encoder, .nil encoder⟩
  | cons icon icons ih =>
    rw [List.forall_mem_cons] at hfits
    obtain ⟨⟨hname, hpath⟩, hrest⟩ := hfits
    obtain ⟨front, behind, hfront⟩ := encoder.exists_names hname
    obtain ⟨back, last, hback⟩ := ih behind hrest
    exact ⟨_, last, .cons hfront hpath hback⟩

theorem stops_decoder {version : UInt8} {count : UInt32} (h : 0x1000 < count)
    (idents : Identifier.Table) :
    Decoder.Stops encoding decoder ⟨idents, {}⟩
      (Field.nat8.write encoding version ++ Field.nat32.write encoding count)
      (.read (.limitExceeded .menuIconCount count.toNat 0x1001)) ⟨idents, { version }⟩ := by
  refine (Decoder.Reads.writeNat8 encoding version _).stops (.store ?_)
  refine (Decoder.Reads.writeNat32 encoding count _).stops_of_nil ?_
  rw [if_pos (show maxIcons < count from h)]
  exact .fail _ _

end MenuIcons

namespace FolderDependencies

/-- The folders are appended one after the other. -/
theorem reads_folders {folders : List String}
    (hfolders : ∀ folder ∈ folders, Field.Fits encoding .string folder)
    (idents : Identifier.Table) (r : FolderDependencies) :
    Decoder.Reads encoding (folderDecoder.repeated folders.length) ⟨idents, r⟩
      (folders.flatMap (Field.string.write encoding)) ()
      ⟨idents, { r with folders := r.folders ++ folders.toArray }⟩ := by
  induction folders generalizing r with
  | nil =>
    rw [Array.append_empty]
    exact .done _ _
  | cons folder folders ih =>
    rw [List.forall_mem_cons] at hfolders
    have hfolder : Decoder.Reads encoding folderDecoder ⟨idents, r⟩
        (Field.string.write encoding folder) ()
        ⟨idents, { r with folders := r.folders.push folder }⟩ :=
      (Decoder.Reads.write encoding .string (by decide) hfolders.1 _).finish (.modify _ _)
    have hrest := ih hfolders.2 { r with folders := r.folders.push folder }
    rw [List.push_append_toArray] at hrest
    rw [List.flatMap_cons]
    exact hfolder.repeated_succ hrest

theorem reads_decoder {folders : List String} (hcount : folders.length < 0xFFFF)
    (hfolders : ∀ folder ∈ folders, Field.Fits encoding .string folder)
    (idents : Identifier.Table) :
    Decoder.Reads encoding decoder ⟨idents, {}⟩
      (Field.nat32.write encoding (UInt32.ofNat folders.length) ++
        folders.flatMap (Field.string.write encoding)) ()
      ⟨idents, { folders := folders.toArray }⟩ := by
  have hlength : (UInt32.ofNat folders.length).toNat = folders.length :=
    UInt32.toNat_ofNat_of_lt' (Nat.lt_trans hcount (by decide))
  have hallowed : ¬limit ≤ UInt32.ofNat folders.length := by
    rw [UInt32.not_le, UInt32.lt_iff_toNat_lt, hlength]
    exact hcount
  have hrounds := reads_folders hfolders idents {}
  rw [← hlength, Array.empty_append] at hrounds
  refine (Decoder.Reads.writeNat32 encoding _ _).bind ?_
  rw [if_neg hallowed]
  exact hrounds

theorem stops_decoder {count : UInt32} (h : 0xFFFF ≤ count) (idents : Identifier.Table) :
    Decoder.Stops encoding decoder ⟨idents, {}⟩ (Field.nat32.write encoding count)
      (.read (.limitExceeded .folderDependencyCount count.toNat 0xFFFF)) ⟨idents, {}⟩ := by
  refine (Decoder.Reads.writeNat32 encoding count _).stops_of_nil ?_
  rw [if_pos (show limit ≤ count from h)]
  exact .fail _ _

end FolderDependencies

/-! ## Moods -/

namespace DecorationMood

variable {mood decoration : String} {octets : List UInt8} {last : Encoder}

/-- The mood is read where it ends the octets: nothing is left to ask for a decoration. -/
theorem run_decoder (h : Encoder.Names encoding {} mood octets last) :
    decoder.run encoding octets.toArray 0 ⟨.empty, {}⟩ =
      ⟨.ok (), octets.length, ⟨last.table, { mood := some mood }⟩⟩ := by
  have hmood := h.reads ({} : DecorationMood) [] []
  rw [List.nil_append, List.append_nil, List.length_nil, Nat.zero_add] at hmood
  change (Decoder.ident.bind _).run encoding _ 0 ⟨Encoder.table {}, ({} : DecorationMood)⟩ = _
  rw [Decoder.run_bind_of_run hmood]
  change (Decoder.change _ (Decoder.exhausted _)).run encoding _ _ _ = _
  rw [Decoder.run_change, Decoder.run_exhausted_of_le (Nat.le_of_eq List.size_toArray), if_pos rfl,
    Decoder.run_done]

theorem reads_decoder (h : Encoder.Names encoding {} mood octets last)
    (hdecoration : Field.Fits encoding .string decoration) :
    Decoder.Reads encoding decoder ⟨.empty, {}⟩
      (octets ++ Field.string.write encoding decoration) ()
      ⟨last.table, { mood := some mood, decoration := some decoration }⟩ := by
  refine (h.reads _).bind (.store (.exhausted ?_ ?_))
  · exact Field.write_string_ne_nil encoding decoration
  · rw [if_neg Bool.false_ne_true]
    exact (Decoder.Reads.write encoding .string (by decide) hdecoration _).finish (.modify _ _)

end DecorationMood

/-! ## All of them -/

namespace ChunkData

variable {kind : ChunkKind} {record : kind.Record} {octets : List UInt8}
variable {idents idents' : Identifier.Table} {error : DecodeError}

theorem decode_of_run {next : Nat} (h : kind.decoder.run encoding octets.toArray 0
      ⟨idents, kind.blank⟩ = ⟨.ok (), next, ⟨idents', record⟩⟩) :
    decode kind encoding octets.toArray idents = ⟨⟨kind, record⟩, none, next, idents'⟩ := by
  rw [decode, h]
  rfl

/-- A piece that is read as a record is decoded as it. -/
theorem decode_of_reads
    (h : kind.decoder.Reads encoding ⟨idents, kind.blank⟩ octets () ⟨idents', record⟩) :
    decode kind encoding octets.toArray idents =
      ⟨⟨kind, record⟩, none, octets.length, idents'⟩ := by
  have hrun := h [] []
  rw [List.nil_append, List.append_nil, List.length_nil, Nat.zero_add] at hrun
  exact decode_of_run hrun

/-- A piece that a decoder fails behind decides the record and the error, whatever follows. -/
theorem decode_of_stops
    (h : kind.decoder.Stops encoding ⟨idents, kind.blank⟩ octets error ⟨idents', record⟩)
    (rest : List UInt8) :
    (decode kind encoding (octets ++ rest).toArray idents).chunk = ⟨kind, record⟩ ∧
      (decode kind encoding (octets ++ rest).toArray idents).error = some error := by
  obtain ⟨next, hrun⟩ := h [] rest
  rw [List.nil_append, List.length_nil] at hrun
  rw [decode, hrun]
  exact ⟨rfl, rfl⟩

theorem IsWritten.exists_decode {chunk : ChunkData} (h : chunk.IsWritten encoding octets) :
    ∃ idents, decode chunk.kind encoding octets.toArray .empty =
      ⟨chunk, none, octets.length, idents⟩ := by
  cases h with
  | thumbnail version size picture comments hversion hsize hcomments =>
    simp only [List.append_assoc]
    exact ⟨_, decode_of_reads (Thumbnail.reads_decoder hversion hsize hcomments .empty)⟩
  | webP width height version size container hwidth hheight hsize =>
    simp only [List.append_assoc]
    exact ⟨_, decode_of_reads (Icon.reads_decoder_webP hwidth hheight hsize .empty)⟩
  | rgba width height pixels hdimensions hlength =>
    simp only [List.append_assoc]
    exact ⟨_, decode_of_reads (Icon.reads_decoder_rgba hdimensions hlength .empty)⟩
  | menuIcons version hcount hicons =>
    simp only [List.append_assoc]
    exact ⟨_, decode_of_reads (MenuIcons.reads_decoder hcount hicons)⟩
  | folderDep folders hcount hfolders =>
    exact ⟨_, decode_of_reads (FolderDependencies.reads_decoder hcount hfolders .empty)⟩
  | mood hmood => exact ⟨_, decode_of_run (DecorationMood.run_decoder hmood)⟩
  | decoratedMood hmood hdecoration =>
    exact ⟨_, decode_of_reads (DecorationMood.reads_decoder hmood hdecoration)⟩

theorem exists_isWritten_menuIcons (version : UInt8) {icons : List MenuIcon}
    (hcount : icons.length ≤ 0x1000)
    (hfits : ∀ icon ∈ icons, Field.Fits encoding .string icon.name ∧
      Field.Fits encoding .string icon.path) :
    ∃ octets, IsWritten encoding
      ⟨.menuIcons, ({ version, icons := icons.toArray } : MenuIcons)⟩ octets := by
  obtain ⟨octets, last, hicons⟩ := MenuIcons.exists_spells {} hfits
  exact ⟨_, .menuIcons version hcount hicons⟩

theorem exists_isWritten_mood {mood : String} {decoration : Option String}
    (hmood : Field.Fits encoding .string mood)
    (hdecoration : ∀ name ∈ decoration, Field.Fits encoding .string name) :
    ∃ octets, IsWritten encoding
      ⟨.mood, ({ mood := some mood, decoration } : DecorationMood)⟩ octets := by
  obtain ⟨octets, last, hnames⟩ := Encoder.exists_names {} hmood
  cases decoration with
  | none => exact ⟨octets, .mood hnames⟩
  | some decoration => exact ⟨_, .decoratedMood hnames (hdecoration decoration rfl)⟩

/-- **Lengths and counts.**  A chunk that holds parts of any length is read back from the octets
that it was written as, all of them, whatever is in the parts; and every list of icons and every
mood can be written if their strings fit.  A list is refused before its first item if its count is
too large. -/
theorem decode_sized (encoding : Encoding) :
    (∀ (chunk : ChunkData) (octets : List UInt8), chunk.IsWritten encoding octets →
      (decode chunk.kind encoding octets.toArray .empty).chunk = chunk ∧
        (decode chunk.kind encoding octets.toArray .empty).error = none ∧
        (decode chunk.kind encoding octets.toArray .empty).next = octets.length) ∧
      (∀ (version : UInt8) (icons : List MenuIcon), icons.length ≤ 0x1000 →
        (∀ icon ∈ icons, Field.Fits encoding .string icon.name ∧
          Field.Fits encoding .string icon.path) →
        ∃ octets, IsWritten encoding
          ⟨.menuIcons, ({ version, icons := icons.toArray } : MenuIcons)⟩ octets) ∧
      (∀ (mood : String) (decoration : Option String), Field.Fits encoding .string mood →
        (∀ name ∈ decoration, Field.Fits encoding .string name) →
        ∃ octets, IsWritten encoding
          ⟨.mood, ({ mood := some mood, decoration } : DecorationMood)⟩ octets) ∧
      (∀ (version : UInt8) (count : UInt32) (rest : List UInt8) (idents : Identifier.Table),
        0x1000 < count →
        let decoded := decode .menuIcons encoding (Field.nat8.write encoding version ++
          Field.nat32.write encoding count ++ rest).toArray idents
        decoded.chunk = ⟨.menuIcons, ({ version, icons := #[] } : MenuIcons)⟩ ∧
          decoded.error = some (.read (.limitExceeded .menuIconCount count.toNat 0x1001))) ∧
      ∀ (count : UInt32) (rest : List UInt8) (idents : Identifier.Table), 0xFFFF ≤ count →
        let decoded := decode .folderDep encoding
          (Field.nat32.write encoding count ++ rest).toArray idents
        decoded.chunk = ⟨.folderDep, ({ folders := #[] } : FolderDependencies)⟩ ∧
          decoded.error =
            some (.read (.limitExceeded .folderDependencyCount count.toNat 0xFFFF)) := by
  refine ⟨fun chunk octets h => ?_,
    fun version icons hcount hfits => exists_isWritten_menuIcons version hcount hfits,
    fun mood decoration hmood hdecoration => exists_isWritten_mood hmood hdecoration,
    fun version count rest idents h => ?_, fun count rest idents h => ?_⟩
  · obtain ⟨idents, hdecode⟩ := h.exists_decode
    rw [hdecode]
    exact ⟨rfl, rfl, rfl⟩
  · exact decode_of_stops (MenuIcons.stops_decoder h idents) rest
  · exact decode_of_stops (FolderDependencies.stops_decoder h idents) rest

/-- A picture that ends and begins again, strings that may be empty, and counts that are one too
large. -/
theorem decode_sized_markers :
    let picture := Utf8.encode "</Thumbnail.jpg><Thumbnail.jpg>"
    let thumbnail : Thumbnail := ⟨1, some 31, picture, some "ab"⟩
    let decoded := decode .thumbnail .binary ([1, 0, 0, 0] ++ [31, 0, 0, 0] ++
      Utf8.encode "<Thumbnail.jpg>" ++ picture ++ Utf8.encode "</Thumbnail.jpg>" ++
      Utf8.encode "<Comments>" ++ [2, 0, 0, 0, 0x61, 0x62] ++
      Utf8.encode "</Comments>").toArray .empty
    (decoded.chunk = ⟨.thumbnail, thumbnail⟩ ∧ decoded.error = none ∧ decoded.next = 97) ∧
      (∃ octets, IsWritten .binary
        ⟨.menuIcons, ({ version := 7, icons := #[⟨"", "a"⟩, ⟨"b", ""⟩] } : MenuIcons)⟩ octets) ∧
      (∃ octets, IsWritten .binary
        ⟨.mood, ({ mood := some "a", decoration := some "b" } : DecorationMood)⟩ octets) ∧
      (decode .menuIcons .binary #[7, 1, 0x10, 0, 0, 5] .empty).error =
        some (.read (.limitExceeded .menuIconCount 0x1001 0x1001)) ∧
      (decode .folderDep .binary #[0xFF, 0xFF, 0, 0] .empty).error =
        some (.read (.limitExceeded .folderDependencyCount 0xFFFF 0xFFFF)) := by
  have hcomments : Field.Fits .binary .string "ab" := by decide
  have hdecoration : Field.Fits .binary .string "b" := by decide
  obtain ⟨hwritten, hicons, hmoods, hcount, hfolders⟩ := decode_sized .binary
  refine ⟨hwritten _ _ (.thumbnail 1 31 _ "ab" (by decide) rfl hcomments), ?_, ?_, ?_, ?_⟩
  · exact hicons 7 [⟨"", "a"⟩, ⟨"b", ""⟩] (by decide) (by decide)
  · exact hmoods "a" (some "b") (by decide) fun _ hname => Option.some.inj hname ▸ hdecoration
  · exact (hcount 7 0x1001 [5] .empty (by decide)).2
  · exact (hfolders 0xFFFF [] .empty (by decide)).2

/-- **Every string has to fit.**  A single folder whose name is too long is refused, although the
list has room for it. -/
theorem not_decode_sized :
    let decoded := decode .folderDep .binary
      (Field.nat32.write .binary 1 ++ Field.string.write .binary Encoder.longText).toArray .empty
    decoded.chunk = ⟨.folderDep, ({ folders := #[] } : FolderDependencies)⟩ ∧
      decoded.error = some (.read (.limitExceeded .stringLength 0xFFFF 0xFFFF)) := by
  have hrefuses : Reader.Refuses (Field.string.read .binary)
      (Field.string.write .binary Encoder.longText)
      (.limitExceeded .stringLength 0xFFFF 0xFFFF) := by
    have hlength := Encoder.length_longText
    have hstring := Field.refuses_string (Nat.le_of_eq hlength.symm) (by rw [hlength]; decide)
    rwa [hlength] at hstring
  have hstops : (ChunkKind.decoder .folderDep).Stops .binary ⟨.empty, ChunkKind.blank .folderDep⟩
      (Field.nat32.write .binary 1 ++ Field.string.write .binary Encoder.longText)
      (.read (.limitExceeded .stringLength 0xFFFF 0xFFFF)) ⟨.empty, ChunkKind.blank .folderDep⟩ :=
    (Decoder.Reads.writeNat32 .binary 1 _).stops (((Decoder.Stops.read hrefuses _).bind _).bind _)
  have hdecoded := decode_of_stops hstops []
  rwa [List.append_nil] at hdecoded

end ChunkData
end GameBox
