import GameBox.Field.Read
import GameBox.Proofs.Text.Longest

/-!
# Decimal numbers are read exactly

A decimal number stands at the beginning of a line, behind white space and perhaps a sign, and
whatever follows its digits is left alone.  The reader either finds this number or refuses the line;
there is no third possibility, such as a number that was cut to fit.

The readers look at a line in two steps, and so do the proofs.  Behind the white space there is a
sign or there is none (`isDecimal_of_sign`, `isDecimal_of_unsigned`), and in both cases the rest is
a matter of digits.  A sign is no digit and no white space, which is why no line can be taken apart
in two ways.

* `Field.scan_eq_ok_iff`, `Field.scan_eq_error_iff`: what a line says where a numeral is expected.
* `Numeral.unsigned?_eq_some_iff`, `Numeral.signed?_eq_some_iff`: the two readers.
* `DecimalKind`: the kinds of fields that are written as decimal numbers.
* `DecimalKind.decimal_read_exactly`: numbers that are read, and lines that are refused.
-/

namespace GameBox

/-! ## Lines with and without a numeral -/

namespace Field

variable {α : Type} {expected : Field} {scan? : List UInt8 → Option α} {line : List UInt8}

theorem scan_eq_ok_iff {value : α} :
    expected.scan scan? line = .ok value ↔ scan? line = some value := by
  unfold scan
  cases scan? line <;> simp

/-- The error of a line shows all of it. -/
theorem scan_eq_error_iff {error : ReadError} : expected.scan scan? line = .error error ↔
    error = .invalidText expected (Utf8.decode line) ∧ scan? line = none := by
  unfold scan
  cases scan? line <;> simp [eq_comm]

end Field

namespace Numeral

variable {signs line rest : List UInt8} {b : UInt8} {limit : Nat}

/-! ## White space and signs -/

/-- What a line is, in terms of what stands behind its white space. -/
theorem isDecimal_iff (hsigns : ∀ b ∈ signs, isSign b = true) {n : Int} :
    IsDecimal signs line n ↔ ∃ (sign : Option UInt8) (text : List UInt8) (v : Nat),
      skipSpace line = sign.toList ++ text ∧ (∀ b ∈ sign, b ∈ signs) ∧
        leading? 10 isDigit text = some v ∧ n = withSign sign v := by
  constructor
  · rintro ⟨hspace, hsign, hdigits, hrest⟩
    rename_i space digits rest sign
    refine ⟨sign, digits ++ rest, placeValue 10 digits, ?_, hsign,
      leading?_eq_some_iff.2 ⟨digits, rest, rfl, hdigits, hrest, rfl⟩, rfl⟩
    refine dropWhile_append hspace ?_
    cases sign with
    | some b => exact avoids_cons.2 (isSpace_of_isSign (hsigns b (hsign b rfl)))
    | none =>
      obtain ⟨first, others, rfl⟩ := List.exists_cons_of_ne_nil hdigits.ne_nil
      exact avoids_cons.2 (isSpace_of_isDigit (hdigits.forall_mem first List.mem_cons_self))
  · rintro ⟨sign, text, v, hline, hsign, hleading, rfl⟩
    obtain ⟨digits, rest, rfl, hdigits, hrest, rfl⟩ := leading?_eq_some_iff.1 hleading
    have hsplit : line = line.takeWhile isSpace ++ (sign.toList ++ (digits ++ rest)) := by
      rw [← hline, skipSpace, List.takeWhile_append_dropWhile]
    rw [hsplit]
    exact .intro (fun _ => List.mem_takeWhile_imp) hsign hdigits hrest

theorem leading?_cons_of_not {text : List UInt8} (h : isDigit b = false) :
    leading? 10 isDigit (b :: text) = none := by
  rw [leading?_eq_none_iff, List.takeWhile_cons_of_neg (by rw [h]; exact Bool.false_ne_true)]

/-- Behind a sign, the number is what the digits say. -/
theorem isDecimal_of_sign (hsigns : ∀ b ∈ signs, isSign b = true) (hb : b ∈ signs)
    (h : skipSpace line = b :: rest) {n : Int} : IsDecimal signs line n ↔
      ∃ v, leading? 10 isDigit rest = some v ∧ n = withSign (some b) v := by
  rw [isDecimal_iff hsigns, h]
  constructor
  · rintro ⟨sign, text, v, hline, hsign, hleading, rfl⟩
    cases sign with
    | none =>
      rw [Option.toList_none, List.nil_append] at hline
      rw [← hline, leading?_cons_of_not (isDigit_of_isSign (hsigns b hb))] at hleading
      cases hleading
    | some c =>
      obtain ⟨rfl, rfl⟩ := List.cons.inj hline
      exact ⟨v, hleading, rfl⟩
  · rintro ⟨v, hleading, rfl⟩
    exact ⟨some b, rest, v, rfl, fun c hc => Option.some.inj hc ▸ hb, hleading, rfl⟩

/-- And without one, too. -/
theorem isDecimal_of_unsigned (hsigns : ∀ b ∈ signs, isSign b = true)
    (h : ∀ b ∈ (skipSpace line).head?, b ∉ signs) {n : Int} : IsDecimal signs line n ↔
      ∃ v : Nat, leading? 10 isDigit (skipSpace line) = some v ∧ n = v := by
  rw [isDecimal_iff hsigns]
  constructor
  · rintro ⟨sign, text, v, hline, hsign, hleading, rfl⟩
    cases sign with
    | none => exact ⟨v, by rwa [hline, Option.toList_none, List.nil_append], rfl⟩
    | some b => exact absurd (hsign b rfl) (h b (by rw [hline]; rfl))
  · rintro ⟨v, hleading, rfl⟩
    exact ⟨none, _, v, rfl, by simp, hleading, rfl⟩

/-! ## The readers -/

theorem eq_some_iff_exists_natCast {read : Option Nat} {n : Nat} :
    read = some n ↔ ∃ v : Nat, read = some v ∧ (n : Int) = v := by
  constructor
  · intro h
    exact ⟨n, h, rfl⟩
  · rintro ⟨v, h, hv⟩
    rw [h, Int.ofNat.inj hv]

/-- An unsigned number is read if it is not above the limit. -/
theorem unsigned?_eq_some_iff {n : Nat} :
    unsigned? limit line = some n ↔ IsDecimal [0x2B] line n ∧ n ≤ limit := by
  have hsigns : ∀ b ∈ [(0x2B : UInt8)], isSign b = true := by simp [isSign]
  unfold unsigned?
  rw [Option.filter_eq_some_iff, decide_eq_true_eq]
  refine and_congr_left fun _ => ?_
  split
  · rename_i rest hrest
    rw [isDecimal_of_sign hsigns List.mem_cons_self hrest]
    exact eq_some_iff_exists_natCast
  · rename_i hnone
    have hbare : ∀ b ∈ (skipSpace line).head?, b ∉ [(0x2B : UInt8)] := by
      intro b hb hmem
      obtain ⟨others, hcons⟩ := List.head?_eq_some_iff.1 hb
      exact hnone others (by rw [hcons, List.mem_singleton.1 hmem])
    rw [isDecimal_of_unsigned hsigns hbare]
    exact eq_some_iff_exists_natCast

/-- The reader of signed numbers takes the sign off that a decimal number has. -/
theorem isDecimal_iff_takeSign {n : Int} : IsDecimal [0x2B, 0x2D] line n ↔
    ∃ v : Nat, leading? 10 isDigit (takeSign (skipSpace line)).2 = some v ∧
      n = if (takeSign (skipSpace line)).1 then -(v : Int) else v := by
  have hsigns : ∀ b ∈ [(0x2B : UInt8), 0x2D], isSign b = true := by simp [isSign]
  cases htext : skipSpace line with
  | nil =>
    rw [isDecimal_of_unsigned hsigns (by rw [htext]; simp), htext]
    simp [takeSign]
  | cons b bs =>
    by_cases hb : isSign b = true
    · have hmem : b ∈ [(0x2B : UInt8), 0x2D] := by simpa [isSign] using hb
      rw [isDecimal_of_sign hsigns hmem htext, takeSign, if_pos hb]
      simp [withSign]
    · have hbare : ∀ c ∈ (skipSpace line).head?, c ∉ [(0x2B : UInt8), 0x2D] := by
        rw [htext]
        rintro c hc hmem
        exact hb (Option.some.inj hc ▸ hsigns c hmem)
      rw [isDecimal_of_unsigned hsigns hbare, htext, takeSign, if_neg hb]
      simp

/-- The two bounds on what a sign makes of a number are one interval. -/
theorem signed_eq_some_iff {negative : Bool} {v : Nat} {n : Int} :
    (if negative then if v ≤ 0x80000000 then some (-(v : Int)) else none
      else if v < 0x80000000 then some (v : Int) else none) = some n ↔
      (n = if negative then -(v : Int) else v) ∧ -0x80000000 ≤ n ∧ n < 0x80000000 := by
  cases negative with
  | true =>
    simp only [↓reduceIte, Option.ite_none_right_eq_some, Option.some.injEq]
    omega
  | false =>
    simp only [Bool.false_eq_true, ↓reduceIte, Option.ite_none_right_eq_some, Option.some.injEq]
    omega

/-- A signed number is read if it has 32 bits. -/
theorem signed?_eq_some_iff {n : Int} : signed? line = some n ↔
    IsDecimal [0x2B, 0x2D] line n ∧ -0x80000000 ≤ n ∧ n < 0x80000000 := by
  rw [isDecimal_iff_takeSign]
  unfold signed?
  simp only [Option.bind_eq_some_iff, signed_eq_some_iff]
  constructor
  · rintro ⟨v, hleading, hvalue, hbounds⟩
    exact ⟨⟨v, hleading, hvalue⟩, hbounds⟩
  · rintro ⟨⟨v, hleading, hvalue⟩, hbounds⟩
    exact ⟨v, hleading, hvalue, hbounds⟩

end Numeral

/-! ## Fields -/

/-- The kinds of fields that a text file writes as decimal numbers. -/
inductive DecimalKind where
  | nat8
  | nat16
  | nat32
  | nat64
  | integer
  deriving DecidableEq, Repr

namespace DecimalKind

/-- The field of a kind. -/
def field : DecimalKind → Field
  | nat8 => .nat8
  | nat16 => .nat16
  | nat32 => .nat32
  | nat64 => .nat64
  | integer => .integer

/-- The signs that may stand before a number. -/
def signs : DecimalKind → List UInt8
  | integer => [0x2B, 0x2D]
  | _ => [0x2B]

/-- The number that a value is. -/
def toInt : (kind : DecimalKind) → kind.field.Value → Int
  | nat8, v => (UInt8.toNat v : Int)
  | nat16, v => (UInt16.toNat v : Int)
  | nat32, v => (UInt32.toNat v : Int)
  | nat64, v => (UInt64.toNat v : Int)
  | integer, v => Int32.toInt v

variable {data : Octets} {pos next : Nat} {line : List UInt8}

section
variable {α β : Type} {expected : Field} {scan? : List UInt8 → Option β} {f : β → α}
variable {IsNumber : α → Prop}

/-- What becomes of a line that is read as a numeral, if it is known which values it stands for. -/
theorem read_of_line (hline : data.line pos = ⟨.ok line, next⟩)
    (h : ∀ v, (∃ n, scan? line = some n ∧ f n = v) ↔ IsNumber v) :
    (∀ v, (Field.numeral expected scan? data pos).map f = ⟨.ok v, next⟩ ↔ IsNumber v) ∧
      ∀ error, (Field.numeral expected scan? data pos).map f = ⟨.error error, next⟩ ↔
        error = .invalidText expected (Utf8.decode line) ∧ ∀ v, ¬IsNumber v := by
  have hread : (Field.numeral expected scan? data pos).map f =
      ⟨(expected.scan scan? line).map f, next⟩ := by
    rw [Field.numeral, hline]
    rfl
  simp only [← h, hread, Found.mk.injEq, and_true]
  cases hscan : scan? line with
  | none =>
    rw [Field.scan_eq_error_iff.2 ⟨rfl, hscan⟩]
    simp [Except.map, eq_comm]
  | some n =>
    rw [Field.scan_eq_ok_iff.2 hscan]
    simp [Except.map]

end

/-- A value is the number that it was read from, and none was cut to fit: what is read is not above
the greatest value, and each value is read. -/
theorem exists_unsigned?_iff {α : Type} {limit : Nat} {ofNat : Nat → α} {toNat : α → Nat}
    (hle : ∀ v, toNat v ≤ limit) (hofNat : ∀ v, ofNat (toNat v) = v)
    (htoNat : ∀ n ≤ limit, toNat (ofNat n) = n) (v : α) :
    (∃ n, Numeral.unsigned? limit line = some n ∧ ofNat n = v) ↔
      Numeral.IsDecimal [0x2B] line (toNat v) := by
  simp only [Numeral.unsigned?_eq_some_iff]
  constructor
  · rintro ⟨n, ⟨hnumber, hlimit⟩, rfl⟩
    rwa [htoNat n hlimit]
  · intro hnumber
    exact ⟨toNat v, ⟨hnumber, hle v⟩, hofNat v⟩

theorem exists_signed?_iff (v : Int32) :
    (∃ n, Numeral.signed? line = some n ∧ Int32.ofInt n = v) ↔
      Numeral.IsDecimal [0x2B, 0x2D] line v.toInt := by
  simp only [Numeral.signed?_eq_some_iff]
  constructor
  · rintro ⟨n, ⟨hnumber, hlow, hhigh⟩, rfl⟩
    rwa [Int32.toInt_ofInt_of_le hlow hhigh]
  · intro hnumber
    exact ⟨v.toInt, ⟨hnumber, v.le_toInt, v.toInt_lt⟩, Int32.ofInt_toInt v⟩

/-- A field of a text file is the number at the beginning of its line, or the line is refused. -/
theorem read_iff (kind : DecimalKind) (hline : data.line pos = ⟨.ok line, next⟩) :
    (∀ v, kind.field.read .text data pos = ⟨.ok v, next⟩ ↔
        Numeral.IsDecimal kind.signs line (kind.toInt v)) ∧
      ∀ error, kind.field.read .text data pos = ⟨.error error, next⟩ ↔
        error = .invalidText kind.field (Utf8.decode line) ∧
          ∀ v, ¬Numeral.IsDecimal kind.signs line (kind.toInt v) := by
  cases kind with
  | nat8 =>
    exact read_of_line hline <| exists_unsigned?_iff
      (fun v => Nat.le_pred_of_lt (UInt8.toNat_lt v)) (fun v => UInt8.ofNat_toNat)
      fun n hn => UInt8.toNat_ofNat_of_lt' (Nat.lt_of_le_pred (by decide) hn)
  | nat16 =>
    exact read_of_line hline <| exists_unsigned?_iff
      (fun v => Nat.le_pred_of_lt (UInt16.toNat_lt v)) (fun v => UInt16.ofNat_toNat)
      fun n hn => UInt16.toNat_ofNat_of_lt' (Nat.lt_of_le_pred (by decide) hn)
  | nat32 =>
    exact read_of_line hline <| exists_unsigned?_iff
      (fun v => Nat.le_pred_of_lt (UInt32.toNat_lt v)) (fun v => UInt32.ofNat_toNat)
      fun n hn => UInt32.toNat_ofNat_of_lt' (Nat.lt_of_le_pred (by decide) hn)
  | nat64 =>
    exact read_of_line hline <| exists_unsigned?_iff
      (fun v => Nat.le_pred_of_lt (UInt64.toNat_lt v)) (fun v => UInt64.ofNat_toNat)
      fun n hn => UInt64.toNat_ofNat_of_lt' (Nat.lt_of_le_pred (by decide) hn)
  | integer => exact read_of_line hline exists_signed?_iff

end DecimalKind

/-- **Decimal numbers are read exactly.**  A line that begins with a decimal number is read as this
number, if it is within the bounds, and every other line is refused with an error that shows all of
it.  A field of a text file is read as the value that is this number, and as no other. -/
theorem Numeral.decimal_read_exactly :
    (∀ (expected : Field) (limit : UInt64) (line : List UInt8),
      (∀ n, expected.scan (unsigned? limit.toNat) line = .ok n ↔
        IsDecimal [0x2B] line n ∧ n ≤ limit.toNat) ∧
      ∀ error, expected.scan (unsigned? limit.toNat) line = .error error ↔
        error = .invalidText expected (Utf8.decode line) ∧
          ∀ n : Nat, IsDecimal [0x2B] line n → limit.toNat < n) ∧
    (∀ line : List UInt8,
      (∀ n, Field.integer.scan signed? line = .ok n ↔
        IsDecimal [0x2B, 0x2D] line n ∧ -0x80000000 ≤ n ∧ n < 0x80000000) ∧
      ∀ error, Field.integer.scan signed? line = .error error ↔
        error = .invalidText .integer (Utf8.decode line) ∧
          ∀ n, IsDecimal [0x2B, 0x2D] line n → n < -0x80000000 ∨ 0x80000000 ≤ n) ∧
    ∀ (kind : DecimalKind) (data : Octets) (pos next : Nat) (line : List UInt8),
      data.line pos = ⟨.ok line, next⟩ →
      (∀ v, kind.field.read .text data pos = ⟨.ok v, next⟩ ↔
        IsDecimal kind.signs line (kind.toInt v)) ∧
      ∀ error, kind.field.read .text data pos = ⟨.error error, next⟩ ↔
        error = .invalidText kind.field (Utf8.decode line) ∧
          ∀ v, ¬IsDecimal kind.signs line (kind.toInt v) := by
  refine ⟨fun expected limit line => ⟨fun n => ?_, fun error => ?_⟩,
    fun line => ⟨fun n => ?_, fun error => ?_⟩, fun kind _ _ _ _ hline => kind.read_iff hline⟩
  · rw [Field.scan_eq_ok_iff, unsigned?_eq_some_iff]
  · simp only [Field.scan_eq_error_iff, Option.eq_none_iff_forall_ne_some, Ne,
      unsigned?_eq_some_iff, not_and, Nat.not_le]
  · rw [Field.scan_eq_ok_iff, signed?_eq_some_iff]
  · simp only [Field.scan_eq_error_iff, Option.eq_none_iff_forall_ne_some, Ne,
      signed?_eq_some_iff, not_and_or, Int.not_le, Int.not_lt, imp_iff_not_or]

/-- The greatest octet, behind a space, a sign and a zero, and the number that is one greater. -/
theorem Numeral.decimal_read_exactly_greatest :
    let greatest : Octets := #[0x20, 0x2B, 0x30, 0x32, 0x35, 0x35, 0x78, 0x0D, 0x0A]
    let greater : Octets := #[0x32, 0x35, 0x36, 0x0D, 0x0A]
    greatest.line 0 = ⟨.ok [0x20, 0x2B, 0x30, 0x32, 0x35, 0x35, 0x78], 9⟩ ∧
      Field.nat8.read .text greatest 0 = ⟨.ok (255 : UInt8), 9⟩ ∧
      greater.line 0 = ⟨.ok [0x32, 0x35, 0x36], 5⟩ ∧
      Field.nat8.read .text greater 0 = ⟨.error (.invalidText .nat8 "256"), 5⟩ := by
  intro greatest greater
  have hgreatest : greatest.line 0 = ⟨.ok [0x20, 0x2B, 0x30, 0x32, 0x35, 0x35, 0x78], 9⟩ := rfl
  have hgreater : greater.line 0 = ⟨.ok [0x32, 0x35, 0x36], 5⟩ := rfl
  obtain ⟨-, -, hfield⟩ := decimal_read_exactly
  refine ⟨hgreatest, ((hfield .nat8 _ _ _ _ hgreatest).1 (255 : UInt8)).2 ?_, hgreater,
    ((hfield .nat8 _ _ _ _ hgreater).2 _).2 ⟨by decide, fun v hnumber => ?_⟩⟩
  · have hread : unsigned? 255 [0x20, 0x2B, 0x30, 0x32, 0x35, 0x35, 0x78] = some 255 := by decide
    exact (unsigned?_eq_some_iff.1 hread).1
  · have hread : unsigned? 255 [0x32, 0x35, 0x36] = none := by decide
    have hle : UInt8.toNat v ≤ 255 := Nat.le_of_lt_succ (UInt8.toNat_lt v)
    rw [unsigned?_eq_some_iff.2 ⟨hnumber, hle⟩] at hread
    cases hread

end GameBox
