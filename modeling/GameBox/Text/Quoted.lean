import GameBox.Text.Digits
import GameBox.Text.Unprintable

/-!
# Quoted text

Text inside a message stands between double quotes, so that a reader sees where it begins and
ends and which characters it holds: a quote, a backslash and everything unprintable is escaped,
and all else stands for itself.

* `escape`: how one character is written between the quotes.
* `quote`: a text between its quotes.
-/

namespace GameBox
namespace Text

/-- How a character is written inside quotes. -/
def escape (c : Char) : String :=
  if c = '\x00' then "\\0"
  else if c = '\t' then "\\t"
  else if c = '\n' then "\\n"
  else if c = '\r' then "\\r"
  else if c = '"' then "\\\""
  else if c = '\\' then "\\\\"
  else if isUnprintable c then "\\u\x7b" ++ hexadecimal 1 c.toNat ++ "\x7d"
  else String.singleton c

/-- A text between double quotes. -/
def quote (text : String) : String :=
  "\"" ++ String.join (text.toList.map escape) ++ "\""

end Text
end GameBox
