import GameBox.Markup.Grammar

/-!
# Written attributes are read back

A value is written without quotes and without angle brackets, so it ends at the quote that was put
behind it, whichever of the two kinds it is; and every reference that stands for a character is
replaced by it (`Markup.unescape?_written`).  A key that is a name ends at the equals sign.

So what is read first from written attributes is the first of them, and the rest is as it was
(`QuotedAttribute.attributesFrom_write`).  The induction carries the keys that were seen, because a
key is read once only.
-/

namespace GameBox
namespace Markup

variable {c other : Char} {name : String} {earlier value rest : List Char}
variable {seen : List (List Char)}

/-! ## Characters of names -/

theorem ne_of_isNameChar (h : isNameChar c = true) (hother : isNameChar other = false) :
    c ≠ other := by
  rintro rfl
  rw [h] at hother
  exact Bool.noConfusion hother

theorem isSpace_of_isNameChar (h : isNameChar c = true) : isSpace c = false := by
  rw [isSpace, decide_eq_false (ne_of_isNameChar h rfl), decide_eq_false (ne_of_isNameChar h rfl),
    decide_eq_false (ne_of_isNameChar h rfl), decide_eq_false (ne_of_isNameChar h rfl)]
  rfl

theorem isQuote_of_isNameChar (h : isNameChar c = true) : isQuote c = false := by
  rw [isQuote, decide_eq_false (ne_of_isNameChar h rfl), decide_eq_false (ne_of_isNameChar h rfl)]
  rfl

theorem isKey_of_isNameChar (h : isNameChar c = true) : isKey c = true := by
  rw [isKey, isSpace_of_isNameChar h, decide_eq_true (ne_of_isNameChar h rfl)]
  rfl

theorem exists_cons_of_isName (h : isName name = true) : ∃ first others,
    name.toList = first :: others ∧ isNameStart first = true ∧ others.all isNameChar = true := by
  rw [isName] at h
  split at h
  · exact Bool.noConfusion h
  · rename_i first others hname
    exact ⟨first, others, hname, Bool.and_eq_true_iff.1 h⟩

/-- A name has no character that is not one of a name. -/
theorem isNameChar_of_mem_name (h : isName name = true) (hc : c ∈ name.toList) :
    isNameChar c = true := by
  obtain ⟨first, others, hcons, hfirst, hothers⟩ := exists_cons_of_isName h
  rw [hcons, List.mem_cons] at hc
  rcases hc with rfl | hc
  · rw [isNameChar, hfirst]
    rfl
  · exact List.all_eq_true.1 hothers c hc

/-! ## Values -/

/-- A character stands for itself, or is written as a reference to it. -/
theorem escape_cases (c : Char) : (escape c = [c] ∧ c ≠ '&' ∧ isQuote c = false) ∨
    ∃ name, escape c = '&' :: (name ++ [';']) ∧ reference? name = some c ∧
      name.all isNameChar = true := by
  unfold escape
  split
  · exact .inr ⟨['l', 't'], rfl, rfl, rfl⟩
  · exact .inr ⟨['g', 't'], rfl, rfl, rfl⟩
  · exact .inr ⟨['a', 'm', 'p'], rfl, rfl, rfl⟩
  · exact .inr ⟨['a', 'p', 'o', 's'], rfl, rfl, rfl⟩
  · exact .inr ⟨['q', 'u', 'o', 't'], rfl, rfl, rfl⟩
  · rename_i hlt hgt hamp hapos hquot
    refine .inl ⟨rfl, hamp, ?_⟩
    rw [isQuote, decide_eq_false hquot, decide_eq_false hapos]
    rfl

/-- A reference is replaced by its character. -/
theorem unescapeFrom?_reference {name : List Char} (href : reference? name = some c)
    (hname : name.all isNameChar = true) (earlier rest : List Char) :
    unescapeFrom? earlier ('&' :: (name ++ ';' :: rest)) = unescapeFrom? (c :: earlier) rest := by
  have hall : ∀ c ∈ name, (decide (c ≠ '&') && decide (c ≠ ';')) = true := by
    intro c hc
    have hc := List.all_eq_true.1 hname c hc
    rw [decide_eq_true (ne_of_isNameChar hc rfl), decide_eq_true (ne_of_isNameChar hc rfl)]
    rfl
  have hdrop : (name ++ ';' :: rest).dropWhile (fun c => c ≠ '&' && c ≠ ';') = ';' :: rest := by
    rw [List.dropWhile_append_of_pos hall]
    rfl
  have htake : (name ++ ';' :: rest).takeWhile (fun c => c ≠ '&' && c ≠ ';') = name := by
    rw [List.takeWhile_append_of_pos hall, List.takeWhile_cons_of_neg (by decide), List.append_nil]
  rw [unescapeFrom?]
  split
  · rename_i later h
    cases hdrop.symm.trans h
    rw [htake, href, Option.bind_some]
  · rename_i hnone
    exact absurd hdrop (hnone rest)

theorem unescapeFrom?_escape (c : Char) (earlier rest : List Char) :
    unescapeFrom? earlier (escape c ++ rest) = unescapeFrom? (c :: earlier) rest := by
  rcases escape_cases c with ⟨hescape, hamp, -⟩ | ⟨name, hescape, href, hname⟩
  · rw [hescape, List.singleton_append, unescapeFrom?]
    exact hamp
  · rw [hescape, List.cons_append, List.append_assoc]
    exact unescapeFrom?_reference href hname earlier rest

theorem unescapeFrom?_flatMap_escape (value earlier : List Char) :
    unescapeFrom? earlier (value.flatMap escape) = some (earlier.reverse ++ value) := by
  induction value generalizing earlier with
  | nil => simp [unescapeFrom?]
  | cons c value ih =>
    rw [List.flatMap_cons, unescapeFrom?_escape, ih, List.reverse_cons, List.append_assoc,
      List.singleton_append]

/-- What was written by name is read as what it was. -/
theorem unescape?_written (a : QuotedAttribute) : unescape? a.written = some a.value := by
  rw [unescape?, QuotedAttribute.written, String.toList_ofList, unescapeFrom?_flatMap_escape,
    Option.map_some, List.reverse_nil, List.nil_append, String.ofList_toList]

theorem isQuote_of_mem_escape (h : other ∈ escape c) : isQuote other = false := by
  rcases escape_cases c with ⟨hescape, -, hquote⟩ | ⟨name, hescape, -, hname⟩
  · rw [hescape, List.mem_singleton] at h
    exact h ▸ hquote
  · rw [hescape, List.mem_cons, List.mem_append, List.mem_singleton] at h
    rcases h with rfl | hmem | rfl
    · rfl
    · exact isQuote_of_isNameChar (List.all_eq_true.1 hname other hmem)
    · rfl

/-- A value ends at the first quote of its kind. -/
theorem untilQuote?_append {quote : Char} (h : quote ∉ value) (earlier rest : List Char) :
    untilQuote? quote earlier (value ++ quote :: rest) = some (earlier.reverse ++ value, rest) := by
  induction value generalizing earlier with
  | nil => rw [List.nil_append, untilQuote?, if_pos rfl, List.append_nil]
  | cons c value ih =>
    rw [List.mem_cons, not_or] at h
    rw [List.cons_append, untilQuote?, if_neg (Ne.symm h.1), ih h.2, List.reverse_cons,
      List.append_assoc, List.singleton_append]

/-! ## Attributes -/

namespace QuotedAttribute

variable {a : QuotedAttribute} {attributes : List QuotedAttribute}

theorem isQuote_quote (a : QuotedAttribute) : isQuote a.quote = true := by
  rw [quote]
  split <;> rfl

theorem quote_notMem_escape (a : QuotedAttribute) : a.quote ∉ a.value.toList.flatMap escape := by
  intro hmem
  obtain ⟨c, -, hquote⟩ := List.mem_flatMap.1 hmem
  exact absurd (a.isQuote_quote.symm.trans (isQuote_of_mem_escape hquote)) Bool.noConfusion

/-- An attribute in front of other text. -/
theorem write_append (a : QuotedAttribute) (rest : List Char) :
    a.write ++ rest = ' ' :: (a.key.toList ++ '=' :: a.quote ::
      (a.value.toList.flatMap escape ++ a.quote :: rest)) := by
  simp [write]

theorem quotedValue_write (a : QuotedAttribute) (rest : List Char) :
    quotedValue (a.quote :: (a.value.toList.flatMap escape ++ a.quote :: rest)) =
      (some (a.value.toList.flatMap escape), rest) := by
  have hspace : isSpace a.quote = false := by
    rw [quote]
    split <;> rfl
  rw [quotedValue, List.dropWhile_cons_of_neg (Bool.eq_false_iff.1 hspace)]
  dsimp only
  rw [if_pos a.isQuote_quote, untilQuote?_append a.quote_notMem_escape]
  rfl

/-- The key of an attribute that is read next is read whole, and its value behind it. -/
theorem next_write {first : Char} {others : List Char} (hkey : a.key.toList = first :: others)
    (hname : others.all isNameChar = true) (hnew : a.key.toList ∉ seen)
    (rest : List Char) :
    next seen first
        (others ++ '=' :: a.quote :: (a.value.toList.flatMap escape ++ a.quote :: rest)) =
      ⟨some a.key.toList, some (a.value.toList.flatMap escape), rest⟩ := by
  have hall : ∀ c ∈ others, isKey c = true := fun c hc =>
    isKey_of_isNameChar (List.all_eq_true.1 hname c hc)
  rw [next, List.dropWhile_append_of_pos hall, List.takeWhile_append_of_pos hall,
    List.dropWhile_cons_of_neg (by decide), List.dropWhile_cons_of_neg (by decide),
    List.takeWhile_cons_of_neg (by decide), List.append_nil, ← hkey]
  show assign seen a.key.toList _ = _
  rw [assign, if_neg hnew, quotedValue_write]

theorem attributesFrom_write (hkey : isName a.key = true) (hnew : a.key.toList ∉ seen)
    (rest : List Char) :
    attributesFrom seen (a.write ++ rest) =
      (a.key, a.written) :: attributesFrom (a.key.toList :: seen) rest := by
  obtain ⟨first, others, hcons, -, hothers⟩ := exists_cons_of_isName hkey
  have hspace : isSpace first = false :=
    isSpace_of_isNameChar (isNameChar_of_mem_name hkey (hcons ▸ List.mem_cons_self))
  have hdrop : (a.write ++ rest).dropWhile isSpace = first :: (others ++ '=' :: a.quote ::
      (a.value.toList.flatMap escape ++ a.quote :: rest)) := by
    rw [write_append, hcons, List.dropWhile_cons_of_pos (by decide), List.cons_append,
      List.dropWhile_cons_of_neg (Bool.eq_false_iff.1 hspace)]
  rw [attributesFrom]
  split
  · rename_i h
    cases hdrop.symm.trans h
  · rename_i first' others' h
    cases hdrop.symm.trans h
    simp only [next_write hcons hothers hnew, Option.toList_some, List.singleton_append,
      String.ofList_toList, written]

/-- Attributes with different keys are read as they were written. -/
theorem attributesFrom_flatMap_write (hkeys : ∀ a ∈ attributes, isName a.key = true)
    (hdistinct : (attributes.map key).Nodup)
    (hnew : ∀ a ∈ attributes, a.key.toList ∉ seen) :
    attributesFrom seen (attributes.flatMap write) =
      attributes.map fun a => (a.key, a.written) := by
  induction attributes generalizing seen with
  | nil =>
    rw [List.flatMap_nil, attributesFrom]
    rfl
  | cons a attributes ih =>
    rw [List.forall_mem_cons] at hkeys hnew
    rw [List.map_cons, List.nodup_cons] at hdistinct
    have hlater : ∀ b ∈ attributes, b.key.toList ∉ a.key.toList :: seen := by
      intro b hb hmem
      rcases List.mem_cons.1 hmem with hsame | hseen
      · exact hdistinct.1 (String.toList_inj.1 hsame ▸ List.mem_map_of_mem hb)
      · exact hnew.2 b hb hseen
    rw [List.flatMap_cons, attributesFrom_write hkeys.1 hnew.1, ih hkeys.2 hdistinct.2 hlater,
      List.map_cons]

end QuotedAttribute
end Markup
end GameBox
