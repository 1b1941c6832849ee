import GameBox.Text.Utf8

/-!
# Texts that were written are read back

A character takes up to four octets.  The first one says how many there are, and for some of them
it narrows the range of the second one, which is what keeps overlong forms and surrogates out.  The
reader follows the octets of a character through its states, and arrives at the character.

* `Utf8.begins_two`, `Utf8.begins_three`, `Utf8.begins_four`: what the first octet begins.
* `Utf8.decodeFrom_encodeChar`: the octets of one character.
* `Utf8.decode_encode`: the octets of a text.
-/

namespace GameBox
namespace Utf8

variable {bits value : Nat} {low high b : UInt8} {text : List Char} {bs : List UInt8}

/-! ## Steps of the reader -/

theorem decodeFrom_last (hlow : low ≤ b) (hhigh : b ≤ high) :
    decodeFrom (.inside 0 low high bits) text (b :: bs) =
      decodeFrom .start (Char.ofNat (bits * 0x40 + b.toNat % 0x40) :: text) bs := by
  rw [decodeFrom, if_pos ⟨hlow, hhigh⟩]

theorem decodeFrom_inner {more : Nat} (hlow : low ≤ b) (hhigh : b ≤ high) :
    decodeFrom (.inside (more + 1) low high bits) text (b :: bs) =
      decodeFrom (.inside more 0x80 0xBF (bits * 0x40 + b.toNat % 0x40)) text bs := by
  rw [decodeFrom, if_pos ⟨hlow, hhigh⟩]

theorem decodeFrom_begins {state : State} (h : begins b = (none, state)) :
    decodeFrom .start text (b :: bs) = decodeFrom state text bs := by
  rw [decodeFrom, h]

/-- An octet behind the first one, which holds the lowest six bits of a number. -/
def follow (value : Nat) : UInt8 := UInt8.ofNat (value % 64 + 128)

theorem toNat_follow (value : Nat) : (follow value).toNat = value % 64 + 128 := by
  rw [follow, UInt8.toNat_ofNat']
  omega

theorem le_follow (value : Nat) : 0x80 ≤ follow value := by
  rw [UInt8.le_iff_toNat_le, toNat_follow]
  exact Nat.le_add_left _ _

theorem follow_le (value : Nat) : follow value ≤ 0xBF := by
  rw [UInt8.le_iff_toNat_le, toNat_follow]
  show value % 64 + 128 ≤ 191
  omega

/-- The last octet completes a character. -/
theorem decodeFrom_follow_last (value : Nat) (text : List Char) (bs : List UInt8) :
    decodeFrom (.inside 0 0x80 0xBF (value / 64)) text (follow value :: bs) =
      decodeFrom .start (Char.ofNat value :: text) bs := by
  have hvalue : value / 64 * 0x40 + (follow value).toNat % 0x40 = value := by
    rw [toNat_follow]
    omega
  rw [decodeFrom_last (le_follow value) (follow_le value), hvalue]

/-- An octet between takes the reader on, if it lies in the range that the one before it left. -/
theorem decodeFrom_follow {more : Nat} (hlow : low ≤ follow value) (hhigh : follow value ≤ high) :
    decodeFrom (.inside (more + 1) low high (value / 64)) text (follow value :: bs) =
      decodeFrom (.inside more 0x80 0xBF value) text bs := by
  have hvalue : value / 64 * 0x40 + (follow value).toNat % 0x40 = value := by
    rw [toNat_follow]
    omega
  rw [decodeFrom_inner hlow hhigh, hvalue]

/-! ## First octets -/

theorem begins_ofNat {n : Nat} (hn : n < 256) : begins (UInt8.ofNat n) =
    if n < 0x80 then (some (Char.ofNat n), .start)
    else if n < 0xC2 then (some replacement, .start)
    else if n < 0xE0 then (none, .inside 0 0x80 0xBF (n % 0x20))
    else if n = 0xE0 then (none, .inside 1 0xA0 0xBF (n % 0x10))
    else if n = 0xED then (none, .inside 1 0x80 0x9F (n % 0x10))
    else if n < 0xF0 then (none, .inside 1 0x80 0xBF (n % 0x10))
    else if n = 0xF0 then (none, .inside 2 0x90 0xBF (n % 0x08))
    else if n < 0xF4 then (none, .inside 2 0x80 0xBF (n % 0x08))
    else if n = 0xF4 then (none, .inside 2 0x80 0x8F (n % 0x08))
    else (some replacement, .start) := by
  rw [begins, UInt8.toNat_ofNat', Nat.mod_eq_of_lt hn]

theorem begins_two (value : Nat) (hmin : 2 ≤ value) (hmax : value < 32) :
    begins (UInt8.ofNat (value + 192)) = (none, .inside 0 0x80 0xBF value) := by
  have hbits : (value + 192) % 0x20 = value := by omega
  rw [begins_ofNat (by omega), if_neg (by omega), if_neg (by omega), if_pos (by omega), hbits]

/-- The second octet of three has a narrower range behind the first octets `0xE0` and `0xED`. -/
theorem begins_three (value second : Nat) (hmax : value < 16) (hshort : value = 0 → 32 ≤ second)
    (hsurrogate : value = 13 → second < 32) (hsecond : second < 64) :
    ∃ low high, begins (UInt8.ofNat (value + 224)) = (none, .inside 1 low high value) ∧
      low.toNat ≤ second + 128 ∧ second + 128 ≤ high.toNat := by
  have hbits : (value + 224) % 0x10 = value := by omega
  rw [begins_ofNat (by omega), if_neg (by omega), if_neg (by omega), if_neg (by omega), hbits]
  by_cases hzero : value = 0
  · rw [if_pos (by omega)]
    exact ⟨_, _, rfl, show 160 ≤ _ by have := hshort hzero; omega, show _ ≤ 191 by omega⟩
  · rw [if_neg (by omega)]
    by_cases hthirteen : value = 13
    · rw [if_pos (by omega)]
      exact ⟨_, _, rfl, show 128 ≤ _ by omega, show _ ≤ 159 by have := hsurrogate hthirteen; omega⟩
    · rw [if_neg (by omega), if_pos (by omega)]
      exact ⟨_, _, rfl, show 128 ≤ _ by omega, show _ ≤ 191 by omega⟩

/-- The second octet of four has a narrower range behind the first octets `0xF0` and `0xF4`. -/
theorem begins_four (value second : Nat) (hmax : value ≤ 4) (hshort : value = 0 → 16 ≤ second)
    (hlast : value = 4 → second < 16) (hsecond : second < 64) :
    ∃ low high, begins (UInt8.ofNat (value + 240)) = (none, .inside 2 low high value) ∧
      low.toNat ≤ second + 128 ∧ second + 128 ≤ high.toNat := by
  have hbits : (value + 240) % 0x08 = value := by omega
  rw [begins_ofNat (by omega), if_neg (by omega), if_neg (by omega), if_neg (by omega),
    if_neg (by omega), if_neg (by omega), if_neg (by omega), hbits]
  by_cases hzero : value = 0
  · rw [if_pos (by omega)]
    exact ⟨_, _, rfl, show 144 ≤ _ by have := hshort hzero; omega, show _ ≤ 191 by omega⟩
  · rw [if_neg (by omega)]
    by_cases hfour : value = 4
    · rw [if_neg (by omega), if_pos (by omega)]
      exact ⟨_, _, rfl, show 128 ≤ _ by omega, show _ ≤ 143 by have := hlast hfour; omega⟩
    · rw [if_pos (by omega)]
      exact ⟨_, _, rfl, show 128 ≤ _ by omega, show _ ≤ 191 by omega⟩

/-! ## Characters and texts -/

/-- The number of a character is no surrogate and lies below `0x110000`. -/
theorem toNat_bounds (c : Char) : c.toNat < 0xD800 ∨ 0xDFFF < c.toNat ∧ c.toNat < 0x110000 :=
  c.valid

/-- The octets of a character take the reader from one character to the next. -/
theorem decodeFrom_encodeChar (c : Char) (text : List Char) (bs : List UInt8) :
    decodeFrom .start text (String.utf8EncodeChar c ++ bs) = decodeFrom .start (c :: text) bs := by
  have hbounds := toNat_bounds c
  have hc : Char.ofNat c.toNat = c := Char.ofNat_toNat c
  have hval : c.val.toNat = c.toNat := rfl
  rw [String.utf8EncodeChar, hval]
  generalize c.toNat = value at hbounds hc
  by_cases hone : value ≤ 127
  · rw [if_pos hone, List.singleton_append, decodeFrom, begins_ofNat (by omega),
      if_pos (by omega), hc]
  by_cases htwo : value ≤ 2047
  · have hlead : value / 64 % 32 = value / 64 := by omega
    rw [if_neg hone, if_pos htwo, hlead]
    have hbegins := begins_two (value / 64) (by omega) (by omega)
    show decodeFrom .start text (_ :: follow value :: bs) = _
    rw [decodeFrom_begins hbegins, decodeFrom_follow_last, hc]
  by_cases hthree : value ≤ 65535
  · have hlead : value / 4096 % 16 = value / 64 / 64 := by omega
    rw [if_neg hone, if_neg htwo, if_pos hthree, hlead]
    obtain ⟨low, high, hbegins, hlow, hhigh⟩ := begins_three (value / 64 / 64) (value / 64 % 64)
      (by omega) (by omega) (by omega) (by omega)
    rw [← toNat_follow, ← UInt8.le_iff_toNat_le] at hlow hhigh
    show decodeFrom .start text (_ :: follow (value / 64) :: follow value :: bs) = _
    rw [decodeFrom_begins hbegins, decodeFrom_follow hlow hhigh, decodeFrom_follow_last, hc]
  · have hlead : value / 262144 % 8 = value / 64 / 64 / 64 := by omega
    rw [if_neg hone, if_neg htwo, if_neg hthree, hlead]
    have hsecond : value / 4096 = value / 64 / 64 := by omega
    obtain ⟨low, high, hbegins, hlow, hhigh⟩ := begins_four (value / 64 / 64 / 64)
      (value / 64 / 64 % 64) (by omega) (by omega) (by omega) (by omega)
    rw [← toNat_follow, ← UInt8.le_iff_toNat_le] at hlow hhigh
    rw [hsecond]
    show decodeFrom .start text
      (_ :: follow (value / 64 / 64) :: follow (value / 64) :: follow value :: bs) = _
    rw [decodeFrom_begins hbegins, decodeFrom_follow hlow hhigh,
      decodeFrom_follow (le_follow _) (follow_le _), decodeFrom_follow_last, hc]

theorem decodeFrom_flatMap (chars text : List Char) :
    decodeFrom .start text (chars.flatMap String.utf8EncodeChar) = chars.reverse ++ text := by
  induction chars generalizing text with
  | nil => rfl
  | cons c chars ih =>
    rw [List.flatMap_cons, decodeFrom_encodeChar, ih, List.reverse_cons, List.append_assoc,
      List.singleton_append]

/-- **A text that was written is read back.** -/
theorem decode_encode (text : String) : decode (encode text) = text := by
  rw [decode, decodeChars, encode, decodeFrom_flatMap, List.append_nil, List.reverse_reverse,
    String.ofList_toList]

end Utf8
end GameBox
