import GameBox.PackMask
import GameBox.Proofs.Text.Numeral
import Mathlib.Data.List.Nodup
import Mathlib.Data.Nat.Bitwise

/-!
# The text of a mask tells which mask it is

A mask is shown in one of three forms: by a name of its own, by the names of its bits, or in
hexadecimal digits.  Nothing in the text says which form it is in.  So it is not enough that each
form can be read back; a text of one form must not be a text of another.

## Names that are joined

The names of the bits are joined by a comma and a space.  They can be told apart again because no
name has a comma in it, and `Text.eq_of_intercalate_eq` says so of all texts of this kind
(`Text.IsItem`).  A single name is a joined text as well, which is how a name of its own is told
from the names of bits: it would have to be the name of a bit.

## Digits

Digits of a fixed width denote one number only, in capital letters as in small ones
(`PackMask.hex_injective`).  They begin with a zero, and no name does.
-/

namespace GameBox

/-! ## Joined texts and digits -/

namespace Text

/-- A text that can be found again among others, when they are joined by commas. -/
def IsItem (text : String) : Prop := text ≠ "" ∧ ',' ∉ text.toList

instance (text : String) : Decidable (IsItem text) := inferInstanceAs (Decidable (_ ∧ _))

theorem toList_intercalate_cons (text : String) (texts : List String) :
    (String.intercalate ", " (text :: texts)).toList =
      text.toList ++ texts.flatMap fun next => ',' :: ' ' :: next.toList := by
  induction texts generalizing text with
  | nil => simp
  | cons next texts ih =>
    rw [String.intercalate_cons_cons, String.toList_append, ih, List.flatMap_cons]
    simp

theorem intercalate_cons_ne_empty {text : String} (h : IsItem text) (texts : List String) :
    String.intercalate ", " (text :: texts) ≠ "" := by
  intro hempty
  have hlist := congrArg String.toList hempty
  rw [toList_intercalate_cons, String.toList_empty] at hlist
  exact h.1 (String.toList_eq_nil_iff.1 (List.append_eq_nil_iff.1 hlist).1)

/-- The first text ends at the first comma. -/
theorem takeWhile_toList_append {text : String} (h : IsItem text) (texts : List String) :
    (text.toList ++ texts.flatMap fun next => ',' :: ' ' :: next.toList).takeWhile (· ≠ ',') =
      text.toList := by
  have htext : ∀ c ∈ text.toList, decide (c ≠ ',') = true := fun c hc =>
    decide_eq_true fun heq => h.2 (heq ▸ hc)
  rw [List.takeWhile_append_of_pos htext]
  cases texts with
  | nil => simp
  | cons next texts => simp

/-- Texts that were joined are found again. -/
theorem eq_of_intercalate_eq {texts texts' : List String} (h : ∀ text ∈ texts, IsItem text)
    (h' : ∀ text ∈ texts', IsItem text)
    (heq : String.intercalate ", " texts = String.intercalate ", " texts') : texts = texts' := by
  induction texts generalizing texts' with
  | nil =>
    cases texts' with
    | nil => rfl
    | cons text' texts' =>
      exact absurd heq.symm (intercalate_cons_ne_empty (h' _ List.mem_cons_self) _)
  | cons text texts ih =>
    cases texts' with
    | nil => exact absurd heq (intercalate_cons_ne_empty (h _ List.mem_cons_self) _)
    | cons text' texts' =>
      rw [List.forall_mem_cons] at h h'
      have hlist := congrArg String.toList heq
      rw [toList_intercalate_cons, toList_intercalate_cons] at hlist
      have hfirst := congrArg (List.takeWhile (· ≠ ',')) hlist
      rw [takeWhile_toList_append h.1, takeWhile_toList_append h'.1, String.toList_inj] at hfirst
      subst hfirst
      rw [List.append_cancel_left_eq] at hlist
      rw [ih h.2 h'.2]
      -- Behind the first text both are at their end, or both go on with a comma and a space.
      cases texts with
      | nil => cases texts' with
        | nil => rfl
        | cons next' texts' => simp at hlist
      | cons next texts => cases texts' with
        | nil => simp at hlist
        | cons next' texts' =>
          simp only [List.flatMap_cons, List.cons_append, List.cons.injEq, true_and] at hlist
          rw [← String.toList_inj, toList_intercalate_cons, toList_intercalate_cons, hlist]

/-- A text that can be found again is joined of itself only. -/
theorem mem_of_intercalate_eq {text : String} {texts : List String} (h : IsItem text)
    (h' : ∀ text ∈ texts, IsItem text) (heq : String.intercalate ", " texts = text) :
    text ∈ texts := by
  rw [← String.intercalate_singleton (s := ", ") (t := text)] at heq
  rw [eq_of_intercalate_eq h' (List.forall_mem_singleton.2 h) heq]
  exact List.mem_singleton_self text

/-- Digits of a fixed width denote one number only. -/
theorem hexadecimal_injective (width : Nat) : Function.Injective (hexadecimal width) := by
  intro n n' heq
  have hvalue (m : Nat) : Numeral.value 16 (Utf8.encode (hexadecimal width m)) = m := by
    rw [encode_hexadecimal, Numeral.value_replicate_zero_append,
      Numeral.value_octetsOf (by decide) (by decide)]
  rw [← hvalue n, heq, hvalue]

/-- What holds of every hexadecimal digit holds of the digits of a fixed width. -/
theorem forall_mem_fillLeft_toDigits {P : Char → Prop}
    (h : ∀ digit < 16, P (Nat.digitChar digit)) (width n : Nat) :
    ∀ c ∈ fillLeft '0' width (Nat.toDigits 16 n), P c := by
  rw [fillLeft, List.forall_mem_append]
  refine ⟨fun c hc => ?_, Numeral.forall_mem_toDigits (by decide) h n⟩
  rw [List.eq_of_mem_replicate hc]
  exact h 0 (by decide)

end Text

namespace PackMask

variable {galaxy : Bool} {mask other : PackMask} {name environment : String}

theorem value_injective : Function.Injective value := by
  rintro ⟨bits⟩ ⟨bits'⟩ h
  exact congrArg mk (BitVec.eq_of_toNat_eq h)

/-- A mask is shown by names exactly if it is no greater than all named bits together. -/
theorem isNamed_iff : mask.isNamed = true ↔ mask.value ≤ 0x1FFFFF := by
  have hlength : flags.length = 21 := rfl
  rw [isNamed, decide_eq_true_iff, hlength, Nat.shiftRight_eq_div_pow,
    Nat.div_eq_zero_iff_lt (by decide)]
  omega

/-! ## Hexadecimal digits -/

theorem toList_hex (mask : PackMask) : mask.hex.toList =
    '0' :: 'x' :: (Text.fillLeft '0' 32 (Nat.toDigits 16 mask.value)).map Char.toUpper := by
  simp [hex]

/-- Digits in capital letters are the same digits. -/
theorem map_toLower_hex (mask : PackMask) :
    String.ofList ((mask.hex.toList.drop 2).map Char.toLower) =
      Text.hexadecimal 32 mask.value := by
  have hlower : ∀ c ∈ Text.fillLeft '0' 32 (Nat.toDigits 16 mask.value),
      (Char.toLower ∘ Char.toUpper) c = c :=
    Text.forall_mem_fillLeft_toDigits (by decide) 32 mask.value
  rw [toList_hex, List.drop_succ_cons, List.drop_succ_cons, List.drop_zero, List.map_map,
    List.map_congr_left hlower, List.map_id', Text.hexadecimal]

theorem hex_injective : Function.Injective hex := by
  intro mask other heq
  apply value_injective
  apply Text.hexadecimal_injective 32
  rw [← map_toLower_hex, heq, map_toLower_hex]

theorem isItem_hex (mask : PackMask) : Text.IsItem mask.hex := by
  have hcomma : ∀ c ∈ Text.fillLeft '0' 32 (Nat.toDigits 16 mask.value), c.toUpper ≠ ',' :=
    Text.forall_mem_fillLeft_toDigits (by decide) 32 mask.value
  constructor
  · rw [← String.toList_eq_nil_iff.ne, toList_hex]
    exact List.cons_ne_nil _ _
  · rw [toList_hex]
    simpa [eq_comm] using hcomma

/-! ## Names of bits -/

/-- The names of the bits can be joined. -/
theorem isItem_name : ∀ galaxy, ∀ flag ∈ flags, Text.IsItem (flag.name galaxy) := by
  decide

/-- In each environment the bits have different names. -/
theorem nodup_names : ∀ galaxy, (flags.map (Flag.name galaxy)).Nodup := by
  decide

theorem exists_flag_of_mem_flagNames (h : name ∈ mask.flagNames galaxy) :
    ∃ flag ∈ flags, flag.name galaxy = name := by
  obtain ⟨⟨flag, bit⟩, hmem, rfl⟩ := List.mem_map.1 h
  exact ⟨flag, List.fst_mem_of_mem_zipIdx (List.mem_filter.1 hmem).1, rfl⟩

theorem isItem_of_mem_flagNames : ∀ name ∈ mask.flagNames galaxy, Text.IsItem name := by
  intro name h
  obtain ⟨flag, hflag, rfl⟩ := exists_flag_of_mem_flagNames h
  exact isItem_name galaxy flag hflag

/-- The name of a bit stands among the names of a mask exactly if the bit is set. -/
theorem mem_flagNames_iff {bit : Nat} (h : bit < flags.length) :
    flags[bit].name galaxy ∈ mask.flagNames galaxy ↔ mask.value.testBit bit = true := by
  constructor
  · intro hmem
    obtain ⟨⟨flag, bit'⟩, hmem', hname⟩ := List.mem_map.1 hmem
    obtain ⟨hzip, hbit⟩ := List.mem_filter.1 hmem'
    obtain ⟨hlt, rfl⟩ := List.getElem?_eq_some_iff.1 (List.mk_mem_zipIdx_iff_getElem?.1 hzip)
    have hlt' : bit' < (flags.map (Flag.name galaxy)).length := by rwa [List.length_map]
    have h' : bit < (flags.map (Flag.name galaxy)).length := by rwa [List.length_map]
    have hnames : (flags.map (Flag.name galaxy))[bit'] = (flags.map (Flag.name galaxy))[bit] := by
      rw [List.getElem_map, List.getElem_map]
      exact hname
    rw [(nodup_names galaxy).getElem_inj_iff] at hnames
    rwa [← hnames]
  · intro hbit
    refine List.mem_map.2 ⟨(flags[bit], bit), List.mem_filter.2 ⟨?_, hbit⟩, rfl⟩
    exact List.mk_mem_zipIdx_iff_getElem?.2 (List.getElem?_eq_getElem h)

/-- The names of its bits tell a mask that has no other bits. -/
theorem eq_of_flagNames_eq (h : mask.value ≤ 0x1FFFFF) (h' : other.value ≤ 0x1FFFFF)
    (heq : mask.flagNames galaxy = other.flagNames galaxy) : mask = other := by
  apply value_injective
  apply Nat.eq_of_testBit_eq
  intro bit
  by_cases hbit : bit < flags.length
  · rw [Bool.eq_iff_iff, ← @mem_flagNames_iff galaxy mask bit hbit, heq, mem_flagNames_iff hbit]
  · have hhigh : 2 ^ 21 ≤ 2 ^ bit :=
      Nat.pow_le_pow_right (by decide) (Nat.le_of_not_lt hbit)
    rw [Nat.testBit_lt_two_pow (by omega), Nat.testBit_lt_two_pow (by omega)]

/-! ## Forms -/

/-- The names of the bits of a mask, joined. -/
def joinedNames (galaxy : Bool) (mask : PackMask) : String :=
  String.intercalate ", " (mask.flagNames galaxy)

/-- A text that is not the name of a bit is not joined of names. -/
theorem joinedNames_ne (hitem : Text.IsItem name)
    (hname : ∀ flag ∈ flags, flag.name galaxy ≠ name) : mask.joinedNames galaxy ≠ name := by
  intro heq
  have hmem := Text.mem_of_intercalate_eq hitem isItem_of_mem_flagNames heq
  obtain ⟨flag, hflag, hflagName⟩ := exists_flag_of_mem_flagNames hmem
  exact hname flag hflag hflagName

/-- The names that masks have of their own. -/
def ownNames : List String := aliases.map Prod.snd

theorem joinedNames_notMem_ownNames (galaxy : Bool) (mask : PackMask) :
    mask.joinedNames galaxy ∉ ownNames := by
  have hitems : ∀ name ∈ ownNames, Text.IsItem name := by decide
  have hnames : ∀ galaxy, ∀ name ∈ ownNames, ∀ flag ∈ flags, flag.name galaxy ≠ name := by decide
  exact fun hmem => joinedNames_ne (hitems _ hmem) (hnames galaxy _ hmem) rfl

theorem hex_notMem_ownNames (mask : PackMask) : mask.hex ∉ ownNames := by
  have hzero : ∀ name ∈ ownNames, name.toList.head? ≠ some '0' := by decide
  intro hmem
  apply hzero _ hmem
  rw [toList_hex]
  rfl

theorem joinedNames_ne_hex (galaxy : Bool) (mask other : PackMask) :
    mask.joinedNames galaxy ≠ other.hex := by
  have hzero : ∀ galaxy, ∀ flag ∈ flags, (flag.name galaxy).toList.head? ≠ some '0' := by decide
  refine joinedNames_ne (isItem_hex other) fun flag hflag heq => hzero galaxy flag hflag ?_
  rw [heq, toList_hex]
  rfl

/-- The three forms in which a mask is shown: by a name of its own, else by the names of its bits,
and in digits if not all of its bits have one. -/
inductive Shown (galaxy : Bool) (mask : PackMask) : String → Prop
  | own {name : String} (h : (mask.value, name) ∈ aliases) : Shown galaxy mask name
  | names (h : mask.value ≤ 0x1FFFFF) (hown : ∀ name, (mask.value, name) ∉ aliases) :
    Shown galaxy mask (mask.joinedNames galaxy)
  | digits (h : 0x1FFFFF < mask.value) : Shown galaxy mask mask.hex

theorem shown_describe (mask : PackMask) (environment : String) :
    Shown (galaxyEnvironments.contains environment) mask (mask.describe environment) := by
  rw [describe]
  by_cases hnamed : mask.isNamed = true
  · rw [if_pos hnamed]
    split
    · rename_i value name hfind
      have hvalue := List.find?_some hfind
      rw [decide_eq_true_iff] at hvalue
      exact .own (hvalue ▸ List.mem_of_find?_eq_some hfind)
    · rename_i hfind
      refine .names (isNamed_iff.1 hnamed) fun name hmem => ?_
      exact absurd (decide_eq_true rfl) (List.find?_eq_none.1 hfind _ hmem)
  · rw [if_neg hnamed]
    rw [isNamed_iff, Nat.not_le] at hnamed
    exact .digits hnamed

/-- A text shows one mask only. -/
theorem Shown.eq {text : String} (h : Shown galaxy mask text) (h' : Shown galaxy other text) :
    mask = other := by
  have hown {value : Nat} {name : String} (h : (value, name) ∈ aliases) : name ∈ ownNames :=
    List.mem_map_of_mem h
  cases h with
  | own hmem => cases h' with
    | own hmem' =>
      have hvalues : ∀ entry ∈ aliases, ∀ entry' ∈ aliases,
          entry.2 = entry'.2 → entry.1 = entry'.1 := by decide
      exact value_injective (hvalues _ hmem _ hmem' rfl)
    | names hle _ => exact absurd (hown hmem) (joinedNames_notMem_ownNames _ _)
    | digits hlt => exact absurd (hown hmem) (hex_notMem_ownNames _)
  | names hle _ =>
    generalize htext : mask.joinedNames galaxy = text at h'
    cases h' with
    | own hmem => exact absurd (htext ▸ hown hmem) (joinedNames_notMem_ownNames _ _)
    | names hle' _ =>
      exact eq_of_flagNames_eq hle hle'
        (Text.eq_of_intercalate_eq isItem_of_mem_flagNames isItem_of_mem_flagNames htext)
    | digits hlt => exact absurd htext (joinedNames_ne_hex _ _ _)
  | digits hlt =>
    generalize htext : mask.hex = text at h'
    cases h' with
    | own hmem => exact absurd (htext ▸ hown hmem) (hex_notMem_ownNames _)
    | names hle _ => exact absurd htext.symm (joinedNames_ne_hex _ _ _)
    | digits hlt' => exact hex_injective htext

/-- **The text of a mask tells which mask it is.**  In every environment different masks have
different texts.  A mask is shown in the form that its value asks for, no text of one form is a text
of another, and exactly the masks with a bit above the named ones are shown in digits. -/
theorem describe_identifies (environment : String) :
    (Function.Injective fun mask : PackMask => mask.describe environment) ∧
      (∀ mask : PackMask, Shown (galaxyEnvironments.contains environment) mask
        (mask.describe environment)) ∧
      (∀ mask : PackMask, mask.describe environment = mask.hex ↔ 0x1FFFFF < mask.value) ∧
      ownNames.Nodup ∧
      ∀ (galaxy : Bool) (mask other : PackMask),
        mask.joinedNames galaxy ∉ ownNames ∧ mask.hex ∉ ownNames ∧
          mask.joinedNames galaxy ≠ other.hex := by
  refine ⟨fun mask other heq => ?_, fun mask => shown_describe mask environment,
    fun mask => ⟨fun heq => ?_, fun hlt => ?_⟩, by decide,
    fun galaxy mask other => ⟨joinedNames_notMem_ownNames galaxy mask, hex_notMem_ownNames mask,
      joinedNames_ne_hex galaxy mask other⟩⟩
  · have hshown := shown_describe mask environment
    dsimp only at heq
    rw [heq] at hshown
    exact hshown.eq (shown_describe other environment)
  · have hshown := shown_describe mask environment
    generalize mask.describe environment = text at heq hshown
    cases hshown with
    | own hmem => exact absurd (List.mem_map_of_mem hmem) (heq ▸ hex_notMem_ownNames mask)
    | names hle _ => exact absurd heq (joinedNames_ne_hex _ _ _)
    | digits hlt => exact hlt
  · rw [describe, if_neg]
    rw [isNamed_iff]
    exact Nat.not_le.2 hlt

end PackMask
end GameBox
