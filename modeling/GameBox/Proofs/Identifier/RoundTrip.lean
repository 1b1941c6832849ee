import GameBox.Identifier.Write
import GameBox.Proofs.Reading.Binary
import GameBox.Proofs.Reading.Decoder

/-!
# Identifiers that were written are read back

The reader keeps the strings that it has read, the writer decides what to refer to, and both count
the strings in the same way.  So the table of the reader is a function of the identifiers that were
written, `Identifier.Table.behind`, and reading one more identifier takes it from one value of this
function to the next (`Identifier.reads_decoder`).

What a word asks for is a matter of its bits; the section on words says it in numbers.
-/

namespace GameBox
namespace Identifier

/-! ## Words -/

theorem toNat_and_indexMask (raw : UInt32) : (raw &&& indexMask).toNat = raw.toNat % 2 ^ 30 := by
  have hmask : indexMask.toNat = 2 ^ 30 - 1 := rfl
  rw [UInt32.toNat_and, hmask, Nat.and_two_pow_sub_one_eq_mod]

/-- A number has none of its top bits exactly if the other bits have room for it. -/
theorem and_topBits_eq_zero_iff {n low top : Nat} (h : n < 2 ^ low * 2 ^ top) :
    n &&& (2 ^ top - 1) * 2 ^ low = 0 ↔ n < 2 ^ low := by
  constructor
  · intro hzero
    -- The top bits are what is left behind the others.
    have hshift : n >>> low &&& 2 ^ top - 1 = 0 := by
      have hdistrib := Nat.shiftRight_and_distrib (i := low) (a := n) (b := (2 ^ top - 1) * 2 ^ low)
      rw [hzero, Nat.zero_shiftRight, Nat.shiftRight_eq_div_pow ((2 ^ top - 1) * 2 ^ low),
        Nat.mul_div_cancel _ (Nat.two_pow_pos low)] at hdistrib
      exact hdistrib.symm
    rw [Nat.shiftRight_eq_div_pow, Nat.and_two_pow_sub_one_eq_mod,
      Nat.mod_eq_of_lt (Nat.div_lt_of_lt_mul h)] at hshift
    exact (Nat.div_eq_zero_iff_lt (Nat.two_pow_pos low)).1 hshift
  · intro hsmall
    have hmod : (n &&& (2 ^ top - 1) * 2 ^ low) % 2 ^ low = 0 := by
      rw [Nat.and_mod_two_pow, Nat.mul_mod_left, Nat.and_zero]
    rwa [Nat.mod_eq_of_lt (Nat.lt_of_le_of_lt Nat.and_le_left hsmall)] at hmod

/-- A word is about a string exactly if one of its top bits is set. -/
theorem and_stringMask_eq_zero_iff (raw : UInt32) :
    raw &&& stringMask = 0 ↔ raw.toNat < 2 ^ 30 := by
  have hand : (raw &&& stringMask).toNat = raw.toNat &&& (2 ^ 2 - 1) * 2 ^ 30 :=
    UInt32.toNat_and raw stringMask
  rw [← UInt32.toNat_inj, hand]
  exact and_topBits_eq_zero_iff raw.toNat_lt

theorem StringTag.toNat_word (tag : StringTag) {index : Nat} (h : index < 0x40000000) :
    (tag.word index).toNat = tag.number * 2 ^ 30 + index := by
  have hnumber : tag.number ≤ 3 := by cases tag <;> decide
  rw [word, UInt32.toNat_ofNat']
  omega

theorem StringTag.and_stringMask_word_ne_zero (tag : StringTag) {index : Nat}
    (h : index < 0x40000000) : tag.word index &&& stringMask ≠ 0 := by
  have hnumber : 1 ≤ tag.number := by cases tag <;> decide
  rw [Ne, and_stringMask_eq_zero_iff, tag.toNat_word h]
  omega

theorem StringTag.word_and_indexMask (tag : StringTag) {index : Nat} (h : index < 0x40000000) :
    tag.word index &&& indexMask = UInt32.ofNat index := by
  rw [← UInt32.toNat_inj, toNat_and_indexMask, tag.toNat_word h, UInt32.toNat_ofNat']
  omega

variable {version : UInt32}

theorem form_collection {id : UInt32} (h : id < 0x40000000) (version : UInt32) :
    form version id = .collection id := by
  have hlt : id.toNat < 2 ^ 30 := UInt32.lt_iff_toNat_lt.mp h
  have hassigned : id ≠ Collection.unassigned := by
    rintro rfl
    exact absurd h (by decide)
  have hindex : id &&& indexMask = id := by
    rw [← UInt32.toNat_inj, toNat_and_indexMask, Nat.mod_eq_of_lt hlt]
  rw [form, if_neg hassigned, if_pos ((and_stringMask_eq_zero_iff id).2 hlt), hindex]

theorem form_inline (tag : StringTag) (version : UInt32) : form version (tag.word 0) = .inline := by
  have hassigned : tag.word 0 ≠ Collection.unassigned := by cases tag <;> decide
  have hindex : tag.word 0 &&& indexMask = 0 := tag.word_and_indexMask (by decide)
  rw [form, if_neg hassigned, if_neg (tag.and_stringMask_word_ne_zero (by decide)),
    if_pos (.inr hindex)]

theorem form_earlier (hversion : 3 ≤ version) (tag : StringTag) {index : Nat}
    (bounds : 0 < index ∧ index < 0x40000000) (assigned : tag.word index ≠ Collection.unassigned) :
    form version (tag.word index) = .earlier (UInt32.ofNat index) := by
  have hsettled : version ≠ 2 := by
    rintro rfl
    exact absurd hversion (by decide)
  have hindex : UInt32.ofNat index ≠ 0 := by
    rw [Ne, ← UInt32.toNat_inj, UInt32.toNat_ofNat', Nat.mod_eq_of_lt (by omega)]
    exact bounds.1.ne'
  rw [form, if_neg assigned, if_neg (tag.and_stringMask_word_ne_zero bounds.2),
    tag.word_and_indexMask bounds.2, if_neg (not_or.2 ⟨hsettled, hindex⟩)]

/-! ## The table of the reader -/

/-- The table of the reader behind some identifiers. -/
def Table.behind (version : SettledVersion) : (before : List Written) → Table
  | [] => .empty
  | ident :: before => ⟨version.number, (learned (ident :: before)).toArray⟩

theorem learned_concat (before : List Written) (ident : Written) :
    learned (before ++ [ident]) = learned before ++ ident.learns := by
  rw [learned, List.flatMap_append, List.flatMap_singleton, learned]

theorem Table.learn_eq (table : Table) (tag : StringTag) (name : ShortText) :
    table.learn name.text =
      { table with entries := table.entries ++ (Written.inline tag name).learns.toArray } := by
  rw [learn, Written.learns]
  split
  · simp
  · simp

theorem Table.get?_ofNat (table : Table) {index : Nat} (bounds : 0 < index ∧ index < 0x40000000) :
    table.get? (UInt32.ofNat index) = table.entries[index - 1]? := by
  have hindex : (UInt32.ofNat index).toNat = index := by
    rw [UInt32.toNat_ofNat']
    omega
  have hne : UInt32.ofNat index ≠ 0 := by
    rw [Ne, ← UInt32.toNat_inj, hindex]
    exact bounds.1.ne'
  rw [get?, if_neg hne, hindex]

/-! ## Reading -/

theorem reads_settleVersion (version : SettledVersion) (before : List Written) :
    Decoder.Reads .binary settleVersion (.behind version before) (writeVersion version before) ()
      ⟨version.number, (learned before).toArray⟩ := by
  cases before with
  | nil =>
    have hunread : (Table.behind version []).version < 3 := by
      show (0 : UInt32) < 3
      decide
    refine .look ?_
    rw [Decoder.bind, if_pos hunread]
    refine (Decoder.Reads.read (Field.reads_nat32 version.number) _).finish ?_
    have hsettled : ¬version.number < 2 := by
      rw [UInt32.not_lt]
      exact UInt32.le_trans (by decide) version.settled
    rw [if_neg hsettled]
    exact Decoder.Reads.modify _ _
  | cons ident before =>
    have hread : ¬(Table.behind version (ident :: before)).version < 3 :=
      UInt32.not_lt.mpr version.settled
    refine .look ?_
    rw [Decoder.bind, if_neg hread]
    exact .done _ _

/-- Behind its word, an identifier gives its name and what it teaches. -/
theorem reads_nameOf (hversion : 3 ≤ version) (before : List Written) (ident : Written) :
    Decoder.Reads .binary (nameOf ident.word) ⟨version, (learned before).toArray⟩ ident.tail
      (ident.name before) ⟨version, (learned (before ++ [ident])).toArray⟩ := by
  rw [learned_concat]
  refine .look ?_
  rw [Decoder.bind]
  dsimp only
  cases ident with
  | unassigned =>
    rw [Written.learns, List.append_nil]
    exact .done _ _
  | collection id small =>
    rw [Written.word, form_collection small, Written.learns, List.append_nil]
    exact .done _ _
  | inline tag name =>
    rw [Written.word, form_inline]
    refine (Decoder.Reads.read (Field.reads_writeBinary .string name.fits) _).finish ?_
    refine .change ?_
    rw [Table.learn_eq _ tag name, List.append_toArray]
    exact .done _ _
  | earlier tag index bounds assigned =>
    rw [Written.word, form_earlier hversion tag bounds assigned, Written.learns, List.append_nil]
    dsimp only
    rw [Table.get?_ofNat _ bounds, List.getElem?_toArray]
    exact .done _ _

/-- **An identifier that was written is read back.** -/
theorem reads_decoder (version : SettledVersion) (before : List Written) (ident : Written) :
    Decoder.Reads .binary decoder (.behind version before)
      (writeVersion version before ++ ident.write) ⟨ident.name before, ident.word⟩
      (.behind version (before ++ [ident])) := by
  have hbehind : Table.behind version (before ++ [ident]) =
      ⟨version.number, (learned (before ++ [ident])).toArray⟩ := by
    cases before <;> rfl
  rw [hbehind]
  refine (reads_settleVersion version before).bind ?_
  refine (Decoder.Reads.read (Field.reads_nat32 ident.word) _).bind ?_
  exact (reads_nameOf version.settled before ident).finish (.done _ _)

end Identifier
end GameBox
