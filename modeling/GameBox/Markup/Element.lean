import GameBox.Markup.Attribute

/-!
# Elements of markup

A document is scanned for what stands between angle brackets; the text around it is passed over.
Comments, character data, document types and instructions have to be closed by their own rule but
say nothing.  Tags have to be nested: the name of an end tag is the name of the innermost element
that is open.  Elements that stay open to the end are not an error.

Taking a document apart and replacing references is the work of a parser, which may be any; making
elements of the parts is not.  A value with a wrong reference is kept as it is written.

* `Markup.Token`, `Markup.tokens?`: what stands between angle brackets.
* `Markup.isNested`: whether the end tags fit.
* `Markup.Parser`, `Markup.parser`: parsers, and the one that is used.
* `Markup.Parser.elements?`: the elements of a document in the order of their start tags; nothing if
  the document is not well formed.
-/

namespace GameBox
namespace Markup

/-- An element: its name and its attributes in their order. -/
structure Element where
  name : String
  attributes : List (String × String)
  deriving DecidableEq, Repr

/-- The value of the first attribute with a key. -/
def Element.attribute? (element : Element) (key : String) : Option String :=
  (element.attributes.find? fun (k, _) => k = key).map Prod.snd

/-- A start tag: the name of its element, and its attributes with their values as they are
written. -/
structure Tag where
  name : String
  attributes : List (String × String)
  deriving DecidableEq, Repr

/-- What stands between angle brackets. -/
inductive Token where
  | opening (tag : Tag)
  /-- A start tag that closes its element. -/
  | empty (tag : Tag)
  | closing (name : String)
  /-- A comment, character data, a document type or an instruction. -/
  | silent
  deriving DecidableEq, Repr

/-! ## Closing brackets -/

/-- By which closing bracket a piece of markup ends: a state that the characters before it move,
and a test on that state and on those characters, the last one first. -/
structure Closing (σ : Type) where
  start : σ
  step : σ → Char → σ
  ends : σ → (earlier : List Char) → Bool

/-- The content up to the closing bracket, and what follows it. -/
def Closing.content? {σ : Type} (rule : Closing σ) (state : σ) (earlier : List Char) :
    List Char → Option (List Char × List Char)
  | [] => none
  | c :: rest =>
    if c = '>' && rule.ends state earlier then some (earlier.reverse, rest)
    else content? rule (rule.step state c) (c :: earlier) rest

theorem Closing.length_content?_lt {σ : Type} {rule : Closing σ} {state : σ}
    {earlier text content later : List Char}
    (h : rule.content? state earlier text = some (content, later)) :
    later.length < text.length := by
  induction text generalizing state earlier with
  | nil => simp [content?] at h
  | cons c rest ih =>
    rw [content?] at h
    split at h
    · simp only [Option.some.injEq, Prod.mk.injEq] at h
      simp [← h.2]
    · exact Nat.lt_succ_of_lt (ih h)

/-- A tag ends outside of quotes. -/
def tagClosing : Closing (Option Char) where
  start := none
  step
    | none, c => if isQuote c then some c else none
    | some quote, c => if c = quote then none else some quote
  ends state _ := state.isNone

/-- A comment ends behind two dashes that are not its own first ones. -/
def commentClosing : Closing Unit where
  start := ()
  step _ _ := ()
  ends _ earlier := 5 ≤ earlier.length && earlier.take 2 = ['-', '-']

/-- Character data ends behind two square brackets. -/
def dataClosing : Closing Unit where
  start := ()
  step _ _ := ()
  ends _ earlier := earlier.take 2 = [']', ']']

/-- A document type ends where its inner brackets are balanced. -/
def documentTypeClosing : Closing Nat where
  start := 0
  step depth c := if c = '<' then depth + 1 else if c = '>' then depth - 1 else depth
  ends depth _ := depth = 0

/-- An instruction ends behind a question mark, which may be its first one. -/
def instructionClosing : Closing Unit where
  start := ()
  step _ _ := ()
  ends _ earlier := earlier.head? = some '?'

/-! ## Tokens -/

/-- The start tag with a content. -/
def tagOf (content : List Char) : Tag where
  name := String.ofList (content.takeWhile fun c => !isSpace c)
  attributes := attributes (content.dropWhile fun c => !isSpace c)

/-- A start tag, which closes its element if it ends in a slash. -/
def startToken (content : List Char) : Token :=
  if content.getLast? = some '/' then .empty (tagOf content.dropLast) else .opening (tagOf content)

/-- An end tag, whose content begins with a slash. -/
def endToken (content : List Char) : Token :=
  .closing (String.ofList ((content.drop 1).reverse.dropWhile isSpace).reverse)

/-- Whether a document type is one: its keyword, and something behind it. -/
def isDocumentType (content : List Char) : Bool :=
  (content.take 8).map Char.toUpper = "!DOCTYPE".toList &&
    (content.drop 8).any fun c => !isSpace c

/-- Reads a token by its rule; the content has to pass a test. -/
def tokenBy? {σ : Type} (rule : Closing σ) (good : List Char → Bool)
    (token : List Char → Token) (text : List Char) : Option (Token × List Char) :=
  (rule.content? rule.start [] text).bind fun (content, later) =>
    if good content then some (token content, later) else none

/-- Reads the token that begins behind an opening bracket.  Its first characters say what it is. -/
def token? (text : List Char) : Option (Token × List Char) :=
  match text with
  | [] => none
  | '!' :: '-' :: _ =>
    tokenBy? commentClosing (fun content => "!--".toList.isPrefixOf content)
      (fun _ => .silent) text
  | '!' :: '[' :: _ =>
    tokenBy? dataClosing (fun content => "![CDATA[".toList.isPrefixOf content)
      (fun _ => .silent) text
  | '!' :: 'D' :: _ | '!' :: 'd' :: _ =>
    tokenBy? documentTypeClosing isDocumentType (fun _ => .silent) text
  | '!' :: _ => none
  | '?' :: _ =>
    tokenBy? instructionClosing (fun content => 2 ≤ content.length) (fun _ => .silent) text
  | '/' :: _ => tokenBy? tagClosing (fun _ => true) endToken text
  | _ => tokenBy? tagClosing (fun _ => true) startToken text

theorem length_tokenBy?_lt {σ : Type} {rule : Closing σ} {good : List Char → Bool}
    {token : List Char → Token} {text later : List Char} {t : Token}
    (h : tokenBy? rule good token text = some (t, later)) : later.length < text.length := by
  unfold tokenBy? at h
  obtain ⟨⟨content, rest⟩, hc, h⟩ := Option.bind_eq_some_iff.1 h
  simp only [Option.ite_none_right_eq_some, Option.some.injEq, Prod.mk.injEq] at h
  rw [← h.2.2]
  exact Closing.length_content?_lt hc

theorem length_token?_lt {text later : List Char} {t : Token}
    (h : token? text = some (t, later)) : later.length < text.length := by
  unfold token? at h
  split at h <;> first
    | exact length_tokenBy?_lt h
    | simp at h

/-- The tokens of a text, behind those read before, the last one first. -/
def tokensFrom? (earlier : List Token) (text : List Char) : Option (List Token) :=
  match h : text.dropWhile (· ≠ '<') with
  | [] => some earlier.reverse
  | _ :: rest =>
    match hToken : token? rest with
    | none => none
    | some (token, later) =>
      have : later.length < text.length := by
        have outer := length_dropWhile_le (· ≠ '<') text
        rw [h, List.length_cons] at outer
        have inner := length_token?_lt hToken
        omega
      tokensFrom? (token :: earlier) later
termination_by text.length

/-- The tokens of a document, whose byte order mark is passed over. -/
def tokens? (text : List Char) : Option (List Token) :=
  match text with
  | '\uFEFF' :: rest => tokensFrom? [] rest
  | text => tokensFrom? [] text

/-! ## Documents -/

/-- Whether every end tag closes the innermost of the open elements. -/
def isNested : (names : List String) → List Token → Bool
  | _, [] => true
  | names, .opening tag :: tokens => isNested (tag.name :: names) tokens
  | name :: names, .closing other :: tokens => name = other && isNested names tokens
  | [], .closing _ :: _ => false
  | names, .empty _ :: tokens => isNested names tokens
  | names, .silent :: tokens => isNested names tokens

/-- A start tag among tokens. -/
def Token.tag? : Token → Option Tag
  | opening tag => some tag
  | empty tag => some tag
  | _ => none

/-- A parser of markup. -/
structure Parser where
  /-- The tokens of a text, unless something is wrong with it.  The end tags have to fit only if
  they are checked. -/
  tokens? : (checked : Bool) → List Char → Option (List Token)
  /-- A value with its references replaced, unless one of them is wrong. -/
  unescape? : String → Option String

namespace Parser

/-- The element of a start tag. -/
def element (parser : Parser) (tag : Tag) : Element where
  name := tag.name
  attributes := tag.attributes.map fun (key, value) =>
    (key, (parser.unescape? value).getD value)

/-- The elements of a document in the order of their start tags. -/
def elements? (parser : Parser) (text : String) : Option (List Element) :=
  (parser.tokens? true text.toList).map fun tokens =>
    (tokens.filterMap Token.tag?).map parser.element

end Parser

/-- The parser that is used. -/
def parser : Parser where
  tokens? checked text := (tokens? text).filter fun tokens => !checked || isNested [] tokens
  unescape? := unescape?

end Markup
end GameBox
