import GameBox.Text.Digits

/-!
# Patterns for file names

A pattern describes paths component by component.  In a component a question mark stands for one
character, an asterisk for any characters, and square brackets for one character of a list; a
component of two asterisks stands for folders to any depth.

* `Glob.PatternError`: why a text is no pattern, and where.
* `Glob.tokens`: the parts of a pattern.
* `Glob.isMatch`: whether a name matches the parts of a component.
* `Glob.components`: the components of a pattern.
-/

namespace GameBox
namespace Glob

/-- Why a text is no pattern. -/
inductive PatternFault where
  /-- More than two asterisks in a row. -/
  | wildcards
  /-- Two asterisks that share their component. -/
  | recursive
  /-- A bracket without its partner. -/
  | range
  deriving DecidableEq, Repr

/-- The message of a fault. -/
def PatternFault.message : PatternFault → String
  | wildcards => "wildcards are either regular `*` or recursive `**`"
  | recursive => "recursive wildcards must form a single path component"
  | range => "invalid range pattern"

/-- Why a text is no pattern, and at which character. -/
structure PatternError where
  position : Nat
  fault : PatternFault
  deriving DecidableEq, Repr

/-- The message of an error, with its place in the text. -/
def PatternError.message (error : PatternError) : String :=
  "Pattern syntax error near position " ++ Text.decimal 1 error.position ++ ": " ++
    error.fault.message

/-- Characters in brackets: a single one, or a range. -/
inductive Specifier where
  | single (c : Char)
  | range (first last : Char)
  deriving DecidableEq, Repr

/-- Whether a specifier stands for a character. -/
def Specifier.admits : Specifier → Char → Bool
  | single own, c => c = own
  | range first last, c => first ≤ c && c ≤ last

/-- The parts of a pattern. -/
inductive Token where
  | literal (c : Char)
  | anyChar
  | anySequence
  | anyDepth
  | oneOf (specifiers : List Specifier)
  | noneOf (specifiers : List Specifier)
  deriving DecidableEq, Repr

/-- The characters in brackets; a dash between two characters makes a range. -/
def specifiers : List Char → List Specifier
  | first :: '-' :: last :: rest => .range first last :: specifiers rest
  | c :: rest => .single c :: specifiers rest
  | [] => []

/-- The text before the first closing bracket and behind it. -/
def untilBracket? : List Char → Option (List Char × List Char)
  | [] => none
  | c :: rest =>
    if c = ']' then some ([], rest)
    else (untilBracket? rest).map fun (inside, later) => (c :: inside, later)

/-- The part that begins behind an opening bracket, and what follows it.  There is at least one
character in the brackets, which may be a closing bracket itself. -/
def bracket? : List Char → Option (Token × List Char)
  | '!' :: first :: rest =>
    (untilBracket? rest).map fun (inside, later) => (.noneOf (specifiers (first :: inside)), later)
  | '!' :: [] => none
  | first :: rest =>
    (untilBracket? rest).map fun (inside, later) => (.oneOf (specifiers (first :: inside)), later)
  | [] => none

/-- The parts of a text that is the end of a pattern of `total` characters; `atStart` says whether
a component begins there.  Each step takes at least one character, so that `fuel` may be the length
of the text. -/
def tokensFrom (total : Nat) : (fuel : Nat) → (atStart : Bool) → List Char →
    Except PatternError (List Token)
  | 0, _, _ => .ok []
  | _, _, [] => .ok []
  | fuel + 1, atStart, text =>
    match text with
    | '*' :: '*' :: '*' :: _ => .error ⟨total - text.length + 2, .wildcards⟩
    | '*' :: '*' :: rest =>
      if atStart then
        match rest with
        | [] => .ok [.anyDepth]
        | '/' :: rest => (.anyDepth :: ·) <$> tokensFrom total fuel true rest
        | _ => .error ⟨total - text.length + 2, .recursive⟩
      else .error ⟨total - text.length - 1, .recursive⟩
    | '*' :: rest => (.anySequence :: ·) <$> tokensFrom total fuel false rest
    | '?' :: rest => (.anyChar :: ·) <$> tokensFrom total fuel false rest
    | '[' :: rest =>
      match bracket? rest with
      | some (token, later) => (token :: ·) <$> tokensFrom total fuel false later
      | none => .error ⟨total - text.length, .range⟩
    | c :: rest => (.literal c :: ·) <$> tokensFrom total fuel (c = '/') rest
    | [] => .ok []

/-- The parts of a pattern. -/
def tokens (text : List Char) : Except PatternError (List Token) :=
  tokensFrom text.length text.length true text

/-! ## Matching -/

/-- Whether a part that stands for one character admits it. -/
def Token.admits : Token → Char → Bool
  | literal own, c => c = own
  | anyChar, _ => true
  | oneOf specifiers, c => specifiers.any (·.admits c)
  | noneOf specifiers, c => !specifiers.any (·.admits c)
  | anySequence, _ | anyDepth, _ => false

/-- At each place whether there is a truth there or later. -/
def someLater : List Bool → List Bool
  | [] => []
  | b :: bs =>
    let later := someLater bs
    (b || later.headD false) :: later

/-- Whether the parts match a name, and each end of it down to the empty one.  Every part is gone
through once, so that many asterisks do no harm. -/
def matchEnds : List Token → List Char → List Bool
  | [], name => name.map (fun _ => false) ++ [true]
  | token :: tokens, name =>
    let ends := matchEnds tokens name
    match token with
    | .anySequence | .anyDepth => someLater ends
    | token => List.zipWith (fun c later => token.admits c && later) name (ends.drop 1) ++ [false]

/-- Whether a name matches the parts of a component. -/
def isMatch (tokens : List Token) (name : List Char) : Bool :=
  (matchEnds tokens name).headD false

/-- A text and all its ends. -/
def suffixes : List Char → List (List Char)
  | [] => [[]]
  | c :: rest => (c :: rest) :: suffixes rest

theorem someLater_map {α : Type} (p : α → Bool) (xs : List α) :
    (someLater (xs.map p)).headD false = xs.any p := by
  induction xs with
  | nil => rfl
  | cons x xs ih =>
    rw [List.map_cons, someLater, List.any_cons, ← ih]
    rfl

theorem length_someLater (bs : List Bool) : (someLater bs).length = bs.length := by
  induction bs with
  | nil => rfl
  | cons b bs ih => simp [someLater, ih]

theorem length_matchEnds (tokens : List Token) (name : List Char) :
    (matchEnds tokens name).length = name.length + 1 := by
  induction tokens with
  | nil => simp [matchEnds]
  | cons token tokens ih =>
    unfold matchEnds
    split <;> simp [length_someLater, ih]

/-- What is said about the ends of a name does not depend on its first character. -/
theorem tail_matchEnds (tokens : List Token) (c : Char) (name : List Char) :
    (matchEnds tokens (c :: name)).tail = matchEnds tokens name := by
  induction tokens with
  | nil => simp [matchEnds]
  | cons token tokens ih =>
    have h : matchEnds tokens (c :: name) =
        isMatch tokens (c :: name) :: matchEnds tokens name := by
      rw [← ih]
      have := length_matchEnds tokens (c :: name)
      unfold isMatch
      cases hm : matchEnds tokens (c :: name) with
      | nil => simp [hm] at this
      | cons b bs => rfl
    unfold matchEnds
    rw [h]
    split
    · rfl
    · rfl
    · cases hm : matchEnds tokens name with
      | nil =>
        have := length_matchEnds tokens name
        simp [hm] at this
      | cons b bs => simp

/-- Every end of a name is looked at. -/
theorem matchEnds_eq_map (tokens : List Token) (name : List Char) :
    matchEnds tokens name = (suffixes name).map (isMatch tokens) := by
  induction name with
  | nil =>
    have := length_matchEnds tokens []
    unfold isMatch suffixes
    match h : matchEnds tokens [] with
    | [] => simp [h] at this
    | [b] => simp [h]
    | _ :: _ :: _ => simp [h] at this
  | cons c name ih =>
    have := length_matchEnds tokens (c :: name)
    rw [suffixes, List.map_cons, ← ih, ← tail_matchEnds tokens c name]
    unfold isMatch
    cases h : matchEnds tokens (c :: name) with
    | nil => simp [h] at this
    | cons b bs => rfl

theorem isMatch_nil (name : List Char) : isMatch [] name = name.isEmpty := by
  cases name <;> rfl

/-- An asterisk matches whatever stands before an end that the other parts match. -/
theorem isMatch_anySequence (tokens : List Token) (name : List Char) :
    isMatch (.anySequence :: tokens) name = (suffixes name).any (isMatch tokens) := by
  rw [isMatch, matchEnds, matchEnds_eq_map tokens name]
  exact someLater_map _ _

/-- A component of a pattern. -/
inductive Component where
  /-- Folders to any depth. -/
  | anyDepth
  | named (tokens : List Token)
  deriving DecidableEq, Repr

/-- The character of a part that stands for itself. -/
def Token.literal? : Token → Option Char
  | literal c => some c
  | _ => none

/-- The name that a component stands for, if it stands for one name only. -/
def Component.literal? : Component → Option String
  | anyDepth => none
  | named tokens => (tokens.mapM Token.literal?).map String.ofList

/-- Components that say more than once in a row that folders may be passed over say it once. -/
def collapse : List Component → List Component
  | .anyDepth :: .anyDepth :: rest => collapse (.anyDepth :: rest)
  | component :: rest => component :: collapse rest
  | [] => []

/-- The texts between slashes, of which there is at least one. -/
def splitSlash : List Char → List (List Char)
  | [] => [[]]
  | c :: rest =>
    if c = '/' then [] :: splitSlash rest
    else match splitSlash rest with
      | first :: others => (c :: first) :: others
      | [] => [[c]]

/-- The texts between slashes; a slash at the end is not followed by a text. -/
def splitPath (text : List Char) : List (List Char) :=
  let parts := splitSlash text
  if parts.getLast? = some [] then parts.dropLast else parts

/-- The components of a pattern.  The whole text has to be a pattern, and so has each
component. -/
def components (text : List Char) : Except PatternError (List Component) := do
  let _ ← tokens text
  let parts ← (splitPath text).mapM tokens
  return collapse (parts.map fun tokens =>
    if tokens = [.anyDepth] then .anyDepth else .named tokens)

end Glob
end GameBox
