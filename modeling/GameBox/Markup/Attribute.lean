/-!
# Attributes of markup

An attribute is a key, an equals sign and a value in quotes.  Reading is lenient: an attribute
that is wrong is passed over and the others are kept.

* `Markup.attributes`: the attributes in the text of a tag, each key once, with their values as they
  are written.
* `Markup.unescape?`: a value with its references replaced.
-/

namespace GameBox
namespace Markup

/-- Space, tab, carriage return and line feed. -/
def isSpace (c : Char) : Bool :=
  c = ' ' || c = '\t' || c = '\r' || c = '\n'

/-- The quotes that a value may stand in. -/
def isQuote (c : Char) : Bool :=
  c = '"' || c = '\''

/-! ## References -/

/-- The characters that have a name. -/
def namedCharacter? : List Char → Option Char
  | ['l', 't'] => some '<'
  | ['g', 't'] => some '>'
  | ['a', 'm', 'p'] => some '&'
  | ['a', 'p', 'o', 's'] => some '\''
  | ['q', 'u', 'o', 't'] => some '"'
  | _ => none

/-- The value of a digit of a base up to sixteen. -/
def digit? (base : Nat) (c : Char) : Option Nat :=
  let value :=
    if c.isDigit then some (c.toNat - '0'.toNat)
    else if 'a' ≤ c ∧ c ≤ 'f' then some (c.toNat - 'a'.toNat + 10)
    else if 'A' ≤ c ∧ c ≤ 'F' then some (c.toNat - 'A'.toNat + 10)
    else none
  value.filter (· < base)

/-- The number that digits denote; there must be a digit. -/
def number? (base : Nat) : List Char → Option Nat
  | [] => none
  | digits =>
    digits.foldl
      (fun n c => n.bind fun n => (digit? base c).map (n * base + ·)) (some 0)

/-- The character of a code point, which is not zero and no surrogate. -/
def character? (code : Nat) : Option Char :=
  if code ≠ 0 ∧ code.isValidChar then some (Char.ofNat code) else none

/-- The character that the text between an ampersand and a semicolon refers to. -/
def reference? : List Char → Option Char
  | '#' :: 'x' :: digits => (number? 16 digits).bind character?
  | '#' :: digits => (number? 10 digits).bind character?
  | name => namedCharacter? name

/-- What is left behind a run of characters is no longer than the text. -/
theorem length_dropWhile_le (p : Char → Bool) (text : List Char) :
    (text.dropWhile p).length ≤ text.length :=
  (List.dropWhile_sublist p).length_le

/-- Replaces references; `earlier` is what was read before, the last character first. -/
def unescapeFrom? (earlier text : List Char) : Option (List Char) :=
  match text with
  | [] => some earlier.reverse
  | '&' :: rest =>
    let inside (c : Char) : Bool := c ≠ '&' && c ≠ ';'
    match h : rest.dropWhile inside with
    | ';' :: later =>
      have : later.length < rest.length := by
        have := length_dropWhile_le inside rest
        rw [h, List.length_cons] at this
        exact this
      (reference? (rest.takeWhile inside)).bind fun c => unescapeFrom? (c :: earlier) later
    | _ => none
  | c :: rest => unescapeFrom? (c :: earlier) rest
termination_by text.length

/-- A value with its references replaced, unless one of them is wrong. -/
def unescape? (value : String) : Option String :=
  (unescapeFrom? [] value.toList).map String.ofList

/-! ## Attributes -/

/-- The text up to a quote, and what follows it. -/
def untilQuote? (quote : Char) (earlier : List Char) : List Char → Option (List Char × List Char)
  | [] => none
  | c :: rest =>
    if c = quote then some (earlier.reverse, rest) else untilQuote? quote (c :: earlier) rest

/-- The text from the next white space on. -/
def skipWord (text : List Char) : List Char := text.dropWhile fun c => !isSpace c

/-- The value behind an equals sign, if it is quoted, and the text to go on with. -/
def quotedValue (text : List Char) : Option (List Char) × List Char :=
  match text.dropWhile isSpace with
  | [] => (none, [])
  | c :: rest =>
    if isQuote c then
      match untilQuote? c [] rest with
      | some (value, later) => (some value, later)
      | none => (none, [])
    else (none, skipWord rest)

/-- What the next key of a tag leads to: the key if it is a new one, its value if it has a good
one, and the text to go on with. -/
structure Assignment where
  key? : Option (List Char)
  value? : Option (List Char)
  rest : List Char

/-- Goes on behind the equals sign of a key.  A key that was seen before is passed over, up to the
next white space. -/
def assign (seen : List (List Char)) (key text : List Char) : Assignment :=
  if key ∈ seen then ⟨none, none, skipWord text⟩
  else
    let (value?, rest) := quotedValue text
    ⟨some key, value?, rest⟩

/-- Whether a character belongs to a key. -/
def isKey (c : Char) : Bool := c ≠ '=' && !isSpace c

/-- Reads the next key of a tag from its first character on, which belongs to the key even if it is
an equals sign.  A key that no equals sign follows is passed over. -/
def next (seen : List (List Char)) (first : Char) (others : List Char) : Assignment :=
  match (others.dropWhile isKey).dropWhile isSpace with
  | '=' :: rest => assign seen (first :: others.takeWhile isKey) rest
  | rest => ⟨none, none, rest⟩

theorem length_untilQuote?_le {quote : Char} {earlier text value later : List Char}
    (h : untilQuote? quote earlier text = some (value, later)) :
    later.length ≤ text.length := by
  induction text generalizing earlier with
  | nil => simp [untilQuote?] at h
  | cons c rest ih =>
    rw [untilQuote?] at h
    split at h
    · simp only [Option.some.injEq, Prod.mk.injEq] at h
      simp [← h.2]
    · exact Nat.le_succ_of_le (ih h)

theorem length_quotedValue_le (text : List Char) :
    (quotedValue text).2.length ≤ text.length := by
  have space := length_dropWhile_le isSpace text
  unfold quotedValue
  split
  · exact Nat.zero_le _
  · rename_i c rest h
    rw [h, List.length_cons] at space
    split
    · split
      · rename_i h
        exact Nat.le_trans (length_untilQuote?_le h) (Nat.le_of_succ_le space)
      · exact Nat.zero_le _
    · exact Nat.le_trans (length_dropWhile_le _ _) (Nat.le_of_succ_le space)

theorem length_assign_le (seen : List (List Char)) (key text : List Char) :
    (assign seen key text).rest.length ≤ text.length := by
  unfold assign
  split
  · exact length_dropWhile_le _ _
  · exact length_quotedValue_le text

theorem length_next_le (seen : List (List Char)) (first : Char) (others : List Char) :
    (next seen first others).rest.length ≤ others.length := by
  have bound : ((others.dropWhile isKey).dropWhile isSpace).length ≤ others.length :=
    Nat.le_trans (length_dropWhile_le _ _) (length_dropWhile_le _ _)
  unfold next
  split
  · rename_i rest h
    rw [h, List.length_cons] at bound
    exact Nat.le_trans (length_assign_le _ _ _) (Nat.le_of_succ_le bound)
  · exact bound

/-- The attributes in a text; `seen` are the keys before. -/
def attributesFrom (seen : List (List Char)) (text : List Char) : List (String × String) :=
  match h : text.dropWhile isSpace with
  | [] => []
  | first :: others =>
    let found := next seen first others
    have : found.rest.length < text.length := by
      have outer := length_dropWhile_le isSpace text
      rw [h, List.length_cons] at outer
      exact Nat.lt_of_le_of_lt (length_next_le seen first others) outer
    let later := attributesFrom (found.key?.toList ++ seen) found.rest
    match found.key?, found.value? with
    | some key, some value => (String.ofList key, String.ofList value) :: later
    | _, _ => later
termination_by text.length

/-- The attributes in the text of a tag behind its name. -/
def attributes (text : List Char) : List (String × String) := attributesFrom [] text

end Markup
end GameBox
