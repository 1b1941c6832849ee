import GameBox.Proofs.Chunk.Sized
import GameBox.Proofs.Markup.Document
import GameBox.Proofs.Markup.Scanning

/-!
# The document for online services is kept as a whole

The text of the document is stored together with its elements, so there is nothing to lose between
the two: a written document gives all of its elements (`Community.reads_document`), and a document
with a wrong end tag gives none, but its text is there in either case
(`Community.reads_misnamed`).  This is so with every parser that finds the tags; the one that is
used does (`Community.decode_document`).
-/

namespace GameBox

namespace Markup.Element

/-- The value of a key is that of the first attribute with this key. -/
theorem attribute?_eq_some_iff {element : Element} {key value : String} :
    element.attribute? key = some value ↔ ∃ before after,
      element.attributes = before ++ (key, value) :: after ∧ ∀ a ∈ before, a.1 ≠ key := by
  rw [attribute?, Option.map_eq_some_iff]
  constructor
  · rintro ⟨⟨key', value'⟩, hfind, rfl⟩
    obtain ⟨hkey, before, after, hattributes, hbefore⟩ := List.find?_eq_some_iff_append.1 hfind
    cases of_decide_eq_true hkey
    refine ⟨before, after, hattributes, fun a ha => ?_⟩
    simpa using hbefore a ha
  · rintro ⟨before, after, hattributes, hbefore⟩
    refine ⟨(key, value), List.find?_eq_some_iff_append.2
      ⟨decide_eq_true rfl, before, after, hattributes, fun a ha => ?_⟩, rfl⟩
    simpa using hbefore a ha

end Markup.Element

namespace Community

open Markup (Element Parser Tree isName)

variable {idents : Identifier.Table} {trees : List Tree} {text : String}

/-- The element with a name is the first one with this name. -/
theorem element?_eq_some_iff {r : Community} {name : String} {element : Element} :
    r.element? name = some element ↔ element.name = name ∧ ∃ before after,
      r.elements = before ++ element :: after ∧ ∀ e ∈ before, e.name ≠ name := by
  rw [element?, List.find?_eq_some_iff_append]
  simp

/-- The text is kept, and nothing was wrong, whether there are elements or not. -/
theorem reads_string (parser : Parser) (h : Field.Fits .binary .string text)
    (idents : Identifier.Table) (r : Community) :
    (decoderBy parser).Reads .binary ⟨idents, r⟩ (Field.string.write .binary text) ()
      ⟨idents, { xml := text, elements := (parser.elements? text).getD [] }⟩ :=
  (Decoder.Reads.write .binary .string (by decide) h _).finish (.modify _ (⟨idents, r⟩ : Draft _))

section Lawful

variable {parser : Parser} (hparser : parser.IsLawful) (hwell : Tree.AreWellFormed trees)
variable (hfits : Field.Fits .binary .string text) (idents : Identifier.Table) (r : Community)

include hparser hwell hfits

/-- A parser that finds the tags of a document gives its elements. -/
theorem reads_document (htext : text.toList = Tree.writeAll trees) :
    (decoderBy parser).Reads .binary ⟨idents, r⟩ (Field.string.write .binary text) ()
      ⟨idents, { xml := text, elements := Tree.elementsAll trees }⟩ := by
  have helements : parser.elements? text = some (Tree.elementsAll trees) :=
    hparser.elements?_of_renders (htext ▸ hparser.renders_writeAll trees hwell)
  have hreads := reads_string parser hfits idents r
  rwa [helements, Option.getD_some] at hreads

/-- And it gives none if one end tag has another name. -/
theorem reads_misnamed {other : String} (hother : isName other = true)
    (htext : text.toList ∈ Tree.misnamingsAll other trees) :
    (decoderBy parser).Reads .binary ⟨idents, r⟩ (Field.string.write .binary text) ()
      ⟨idents, { xml := text, elements := [] }⟩ := by
  have helements : parser.elements? text = none :=
    hparser.elements?_of_clashes
      (hparser.clashes_of_mem_misnamingsAll hother trees text.toList hwell htext)
  have hreads := reads_string parser hfits idents r
  rwa [helements, Option.getD_none] at hreads

end Lawful

/-- **Documents.**  A well-formed document is decoded to its text and to its elements, each before
those inside it, with the attributes and values that were written.  If one end tag has another name,
wherever it is, there are no elements, but still the text, and nothing was wrong with the chunk.
What is looked up is the first match. -/
theorem decode_document (hwell : Tree.AreWellFormed trees) (idents : Identifier.Table) :
    (∀ text : String, text.toList = Tree.writeAll trees → Field.Fits .binary .string text →
      ChunkData.decode .community .binary (Field.string.write .binary text).toArray idents =
        ⟨⟨.community, ({ xml := text, elements := Tree.elementsAll trees } : Community)⟩,
          none, (Field.string.write .binary text).length, idents⟩) ∧
    (∀ (other : String) (text : String), isName other = true →
      text.toList ∈ Tree.misnamingsAll other trees → Field.Fits .binary .string text →
      ChunkData.decode .community .binary (Field.string.write .binary text).toArray idents =
        ⟨⟨.community, ({ xml := text, elements := [] } : Community)⟩,
          none, (Field.string.write .binary text).length, idents⟩) ∧
    (∀ (r : Community) (name : String) (element : Element), r.element? name = some element ↔
      element.name = name ∧ ∃ before after, r.elements = before ++ element :: after ∧
        ∀ e ∈ before, e.name ≠ name) ∧
    ∀ (element : Element) (key value : String), element.attribute? key = some value ↔
      ∃ before after, element.attributes = before ++ (key, value) :: after ∧
        ∀ a ∈ before, a.1 ≠ key := by
  refine ⟨fun text htext hfits => ?_, fun other text hother htext hfits => ?_,
    fun r name element => element?_eq_some_iff,
    fun element key value => Element.attribute?_eq_some_iff⟩
  · exact ChunkData.decode_of_reads
      (reads_document Markup.parser_isLawful hwell hfits idents {} htext)
  · exact ChunkData.decode_of_reads
      (reads_misnamed Markup.parser_isLawful hwell hfits idents {} hother htext)

/-- Brackets and quotes inside of quotes of either kind, both ways to write an element without
others, text with a bracket, and the same document with a wrong end tag inside. -/
theorem decode_document_nested :
    let trees : List Tree :=
      [.text " ", .branch "header" [⟨"type", "a>b", false⟩, ⟨"title", "'<\"&", true⟩]
        [.leaf "desc" [⟨"n", "it's", false⟩], .text ">", .branch "desc" [] []]]
    let start := " <header type=\"a&gt;b\" title='&apos;&lt;&quot;&amp;'>" ++
      "<desc n=\"it&apos;s\"/>><desc>"
    let right := start ++ "</desc></header>"
    let wrong := start ++ "</header></header>"
    let decoded (text : String) :=
      ChunkData.decode .community .binary (Field.string.write .binary text).toArray .empty
    let r : Community := ⟨right, Tree.elementsAll trees⟩
    Tree.AreWellFormed trees ∧ (decoded right).chunk = ⟨.community, r⟩ ∧
      (decoded wrong).chunk = ⟨.community, (⟨wrong, []⟩ : Community)⟩ ∧
      (decoded wrong).error = none ∧
      r.element? "desc" = some ⟨"desc", [("n", "it's")]⟩ ∧
      (⟨"header", [("type", "a>b"), ("title", "'<\"&")]⟩ : Element).attribute? "title" =
        some "'<\"&" := by
  intro trees start right wrong decoded r
  have hheader : Tree.IsHead "header" [⟨"type", "a>b", false⟩, ⟨"title", "'<\"&", true⟩] :=
    ⟨by decide, by decide, by decide⟩
  have hleaf : Tree.IsHead "desc" [⟨"n", "it's", false⟩] := ⟨by decide, by decide, by decide⟩
  have hbranch : Tree.IsHead "desc" [] := ⟨by decide, by decide, by decide⟩
  have hwell : Tree.AreWellFormed trees := by
    simp only [trees, Tree.AreWellFormed, Tree.IsWellFormed]
    exact ⟨by decide, ⟨hheader, hleaf, by decide, ⟨hbranch, trivial⟩, trivial⟩, trivial⟩
  obtain ⟨hright, hwrong, helement, hattribute⟩ := decode_document hwell .empty
  have hdecoded : decoded wrong = _ := hwrong "header" wrong (by decide) (by decide) (by decide)
  refine ⟨hwell, ?_, ?_, ?_, ?_, ?_⟩
  · exact congrArg ChunkData.Decoded.chunk (hright right (by decide) (by decide))
  · rw [hdecoded]
  · rw [hdecoded]
  · exact (helement _ _ _).2 ⟨rfl, [⟨"header", [("type", "a>b"), ("title", "'<\"&")]⟩],
      [⟨"desc", []⟩], by decide, by decide⟩
  · exact (hattribute _ _ _).2 ⟨[("type", "a>b")], [], rfl, by decide⟩

end Community
end GameBox
