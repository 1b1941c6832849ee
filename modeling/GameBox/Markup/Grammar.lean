import GameBox.Markup.Write

/-!
# Documents whose elements can be told

Names are those of markup, as far as they are ASCII.  No character of a name has a meaning of its
own in a tag, and text between tags may hold any character but the one that begins a tag.

* `Markup.isName`: names of elements and keys of attributes.
* `Tree.IsWellFormed`: documents that may be written.
* `Tree.misnamings`: texts of a document in which one end tag has not the name of its element.
* `Parser.IsLawful`: what is asked of a parser.
-/

namespace GameBox
namespace Markup

/-- The characters that a name may begin with. -/
def isNameStart (c : Char) : Bool := c.isAlpha || c = '_' || c = ':'

/-- The characters of a name. -/
def isNameChar (c : Char) : Bool := isNameStart c || c.isDigit || c = '-' || c = '.'

/-- Whether a text is a name. -/
def isName (text : String) : Bool :=
  match text.toList with
  | [] => false
  | first :: others => isNameStart first && others.all isNameChar

namespace Tree

/-- Whether an element may have a name and attributes: no key is given twice. -/
structure IsHead (name : String) (attributes : List QuotedAttribute) : Prop where
  name : isName name = true
  keys : ∀ a ∈ attributes, isName a.key = true
  distinct : (attributes.map QuotedAttribute.key).Nodup

mutual

/-- Whether a part of a document may be written. -/
def IsWellFormed : Tree → Prop
  | text characters => '<' ∉ characters.toList
  | leaf name attributes => IsHead name attributes
  | branch name attributes children => IsHead name attributes ∧ AreWellFormed children

/-- Whether a document may be written. -/
def AreWellFormed : List Tree → Prop
  | [] => True
  | tree :: trees => IsWellFormed tree ∧ AreWellFormed trees

end

/-- An element around a text, whose end tag has a name of its own. -/
def writeAround (name : String) (attributes : List QuotedAttribute) (inside : List Char)
    (last : String) : List Char :=
  writeHead name attributes ++ '>' :: inside ++ writeEnd last

mutual

/-- The texts of a part of a document in which one end tag has this name and not its own. -/
def misnamings (other : String) : Tree → List (List Char)
  | text _ => []
  | leaf _ _ => []
  | branch name attributes children =>
    (if other = name then [] else [writeAround name attributes (writeAll children) other]) ++
      (misnamingsAll other children).map fun inside => writeAround name attributes inside name

/-- The texts of a document in which one end tag has this name and not its own. -/
def misnamingsAll (other : String) : List Tree → List (List Char)
  | [] => []
  | tree :: trees =>
    (misnamings other tree).map (· ++ writeAll trees) ++
      (misnamingsAll other trees).map (write tree ++ ·)

end

end Tree

/-! ## Parsers -/

namespace Parser

/-- A text gives some tokens, whatever follows it. -/
def Scans (parser : Parser) (text : List Char) (tokens : List Token) : Prop :=
  ∀ rest, parser.tokens? false (text ++ rest) = (parser.tokens? false rest).map (tokens ++ ·)

/-- What is asked of a parser: it finds the tags and passes over the text between them, it compares
the names of end tags if it is told to, and it replaces what was written by name. -/
structure IsLawful (parser : Parser) : Prop where
  nil : parser.tokens? false [] = some []
  text : ∀ text, '<' ∉ text → parser.Scans text []
  opening : ∀ name attributes, Tree.IsHead name attributes →
    parser.Scans (Tree.writeHead name attributes ++ ['>']) [.opening (Tree.tagOf name attributes)]
  empty : ∀ name attributes, Tree.IsHead name attributes →
    parser.Scans (Tree.writeHead name attributes ++ ['/', '>'])
      [.empty (Tree.tagOf name attributes)]
  closing : ∀ name, isName name = true → parser.Scans (Tree.writeEnd name) [.closing name]
  checked : ∀ text, parser.tokens? true text = (parser.tokens? false text).filter (isNested [])
  unescape : ∀ a : QuotedAttribute, parser.unescape? a.written = some a.value

end Parser
end Markup
end GameBox
