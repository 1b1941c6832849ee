import GameBox.Markup.Element

/-!
# Writing markup

A document is a tree of elements with text between them.  Values of attributes stand in quotes of
either kind; characters with a meaning of their own are written by name.

* `Markup.Tree`: a document as a tree.
* `Markup.Tree.write`: its text.
* `Markup.Tree.elements`: its elements, each before those inside it.
-/

namespace GameBox
namespace Markup

/-- How a character is written inside a value. -/
def escape : Char → List Char
  | '<' => "&lt;".toList
  | '>' => "&gt;".toList
  | '&' => "&amp;".toList
  | '\'' => "&apos;".toList
  | '"' => "&quot;".toList
  | c => [c]

/-- An attribute, and which quotes its value stands in. -/
structure QuotedAttribute where
  key : String
  value : String
  isSingle : Bool := false
  deriving DecidableEq, Repr

namespace QuotedAttribute

/-- The quotes around the value. -/
def quote (a : QuotedAttribute) : Char := if a.isSingle then '\'' else '"'

/-- The value between the quotes. -/
def written (a : QuotedAttribute) : String := String.ofList (a.value.toList.flatMap escape)

/-- An attribute behind the space that sets it off. -/
def write (a : QuotedAttribute) : List Char :=
  ' ' :: a.key.toList ++ '=' :: a.quote :: a.value.toList.flatMap escape ++ [a.quote]

end QuotedAttribute

/-- A part of a document. -/
inductive Tree where
  /-- Text between tags. -/
  | text (characters : String)
  /-- An element that its start tag closes. -/
  | leaf (name : String) (attributes : List QuotedAttribute)
  /-- An element with an end tag. -/
  | branch (name : String) (attributes : List QuotedAttribute) (children : List Tree)

namespace Tree

/-- The name and the attributes of a start tag. -/
def writeHead (name : String) (attributes : List QuotedAttribute) : List Char :=
  '<' :: name.toList ++ attributes.flatMap QuotedAttribute.write

/-- An end tag. -/
def writeEnd (name : String) : List Char := '<' :: '/' :: name.toList ++ ['>']

/-- The start tag of an element, with the values as they are written. -/
def tagOf (name : String) (attributes : List QuotedAttribute) : Tag :=
  ⟨name, attributes.map fun a => (a.key, a.written)⟩

/-- The element of a start tag. -/
def elementOf (name : String) (attributes : List QuotedAttribute) : Element :=
  ⟨name, attributes.map fun a => (a.key, a.value)⟩

mutual

/-- The text of a part of a document. -/
def write : Tree → List Char
  | text characters => characters.toList
  | leaf name attributes => writeHead name attributes ++ ['/', '>']
  | branch name attributes children =>
    writeHead name attributes ++ '>' :: writeAll children ++ writeEnd name

/-- The text of a document. -/
def writeAll : List Tree → List Char
  | [] => []
  | tree :: trees => write tree ++ writeAll trees

end

mutual

/-- The elements of a part of a document. -/
def elements : Tree → List Element
  | text _ => []
  | leaf name attributes => [elementOf name attributes]
  | branch name attributes children => elementOf name attributes :: elementsAll children

/-- The elements of a document, each before those inside it. -/
def elementsAll : List Tree → List Element
  | [] => []
  | tree :: trees => elements tree ++ elementsAll trees

end

end Tree
end Markup
end GameBox
