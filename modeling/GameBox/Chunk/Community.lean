import GameBox.Chunk.Layout
import GameBox.Chunk.Row
import GameBox.Markup.Element

/-!
# Community information

A map or a replay carries a short markup document for online services.  Its text is always kept;
its elements are kept if it is well formed, and there are none otherwise.

* `Community`: the document and its elements.
* `Community.element?`: the first element with a name.
-/

namespace GameBox

/-- The document for online services. -/
structure Community where
  xml : String := ""
  /-- All elements in the order of their start tags. -/
  elements : List Markup.Element := []
  deriving DecidableEq, Repr

namespace Community

/-- Reads the document, with any parser. -/
def decoderBy (parser : Markup.Parser) : Decoder (Draft Community) Unit := do
  let xml ← Decoder.read .string
  Decoder.store fun _ => { xml, elements := (parser.elements? xml).getD [] }

/-- Reads the document. -/
def decoder : Decoder (Draft Community) Unit := decoderBy Markup.parser

/-- The first element with a name. -/
def element? (r : Community) (name : String) : Option Markup.Element :=
  r.elements.find? fun element => element.name = name

/-- The value of an attribute of the first element with a name. -/
def attribute? (r : Community) (name key : String) : Option String :=
  (r.element? name).bind (·.attribute? key)

/-- The document as a whole, and the attributes that are shown by themselves. -/
def rows (r : Community) : List Row :=
  Row.list
    [("Xml", some r.xml),
     ("Uid", r.attribute? "ident" "uid"),
     ("Name", r.attribute? "ident" "name"),
     ("Author", r.attribute? "ident" "author"),
     ("Environment", r.attribute? "desc" "envir"),
     ("Mood", r.attribute? "desc" "mood"),
     ("AuthorTime", r.attribute? "times" "authortime")]

/-- The JSON form: the document, and its elements with their attributes as pairs. -/
def toJson (r : Community) : Json :=
  let pair : String × String → Json
    | (key, value) => .array [.string key, .string value]
  let element (e : Markup.Element) : Json :=
    .object
      [("name", .string e.name), ("attributes", .array (e.attributes.map pair))]
  .object [("xml", .string r.xml), ("elements", .array (r.elements.map element))]

end Community
end GameBox
