import GameBox.Proofs.Markup.Attribute

/-!
# The parser finds what was written

A tag ends at the first closing bracket outside of quotes, and a written tag has only one, because
names have none and what stands in quotes has no quote (`Closing.Passes`).  What stands between the
brackets is a name with attributes behind it, and is taken apart into these
(`Tree.IsHead.tagOf_head`).

The tokens read so far go along with the scanner, but it never looks at them
(`tokensFrom?_append`).  So a piece of a document gives its tokens whatever is around it, and the
parser does what is asked of one (`parser_isLawful`).
-/

namespace GameBox
namespace Markup

variable {c : Char} {name : String} {text text' : List Char} {attributes : List QuotedAttribute}

/-! ## The ends of tags -/

namespace Closing

variable {σ : Type} {rule : Closing σ} {state state' state'' : σ}

/-- A text in which no piece of markup ends, and which moves the state. -/
def Passes (rule : Closing σ) (text : List Char) (state state' : σ) : Prop :=
  ∀ earlier rest, rule.content? state earlier (text ++ rest) =
    rule.content? state' (text.reverse ++ earlier) rest

theorem Passes.append (h : rule.Passes text state state') (h' : rule.Passes text' state' state'') :
    rule.Passes (text ++ text') state state'' := by
  intro earlier rest
  rw [List.append_assoc, h, h', List.reverse_append, List.append_assoc]

theorem passes_nil (rule : Closing σ) (state : σ) : rule.Passes [] state state :=
  fun _ _ => rfl

theorem passes_cons (hends : ∀ earlier, (c = '>' && rule.ends state earlier) = false)
    (h : rule.Passes text (rule.step state c) state') : rule.Passes (c :: text) state state' := by
  intro earlier rest
  rw [List.cons_append, content?, hends, if_neg Bool.false_ne_true, h, List.reverse_cons,
    List.append_assoc, List.singleton_append]

end Closing

/-- Outside of quotes a tag goes on to the next quote or closing bracket. -/
theorem passes_plain (hquote : isQuote c = false) (hne : c ≠ '>')
    (h : tagClosing.Passes text none none) : tagClosing.Passes (c :: text) none none := by
  refine Closing.passes_cons (fun _ => ?_) ?_
  · rw [decide_eq_false hne, Bool.false_and]
  · show tagClosing.Passes text (if isQuote c then some c else none) none
    rw [hquote]
    exact h

/-- Inside of quotes a tag goes on to the quote of the same kind. -/
theorem passes_value {quote : Char} (h : quote ∉ text) :
    tagClosing.Passes text (some quote) (some quote) := by
  induction text with
  | nil => exact Closing.passes_nil _ _
  | cons c text ih =>
    rw [List.mem_cons, not_or] at h
    refine Closing.passes_cons (fun _ => Bool.and_false _) ?_
    show tagClosing.Passes text (if c = quote then none else some quote) (some quote)
    rw [if_neg (Ne.symm h.1)]
    exact ih h.2

theorem passes_quoted {quote : Char} (hquote : isQuote quote = true) (h : quote ∉ text) :
    tagClosing.Passes (quote :: (text ++ [quote])) none none := by
  have hne : quote ≠ '>' := by
    rintro rfl
    exact absurd hquote (by decide)
  refine Closing.passes_cons (fun _ => ?_) ?_
  · rw [decide_eq_false hne, Bool.false_and]
  · show tagClosing.Passes _ (if isQuote quote then some quote else none) none
    rw [if_pos hquote]
    refine (passes_value h).append (Closing.passes_cons (fun _ => Bool.and_false _) ?_)
    show tagClosing.Passes [] (if quote = quote then none else some quote) none
    rw [if_pos rfl]
    exact Closing.passes_nil _ _

theorem passes_name (h : isName name = true) : tagClosing.Passes name.toList none none := by
  have hname : ∀ c ∈ name.toList, isNameChar c = true := fun _ => isNameChar_of_mem_name h
  generalize name.toList = text at hname
  induction text with
  | nil => exact Closing.passes_nil _ _
  | cons c text ih =>
    rw [List.forall_mem_cons] at hname
    exact passes_plain (isQuote_of_isNameChar hname.1) (ne_of_isNameChar hname.1 rfl) (ih hname.2)

theorem QuotedAttribute.passes_write {a : QuotedAttribute} (h : isName a.key = true) :
    tagClosing.Passes a.write none none := by
  rw [← List.append_nil a.write, write_append]
  refine passes_plain rfl (by decide) ((passes_name h).append (passes_plain rfl (by decide) ?_))
  exact passes_quoted a.isQuote_quote a.quote_notMem_escape

theorem QuotedAttribute.passes_flatMap_write (h : ∀ a ∈ attributes, isName a.key = true) :
    tagClosing.Passes (attributes.flatMap write) none none := by
  induction attributes with
  | nil => exact Closing.passes_nil _ _
  | cons a attributes ih =>
    rw [List.forall_mem_cons] at h
    rw [List.flatMap_cons]
    exact (passes_write h.1).append (ih h.2)

/-- What a tag passes over up to its closing bracket is its content. -/
theorem content?_of_passes (h : tagClosing.Passes text none none) (rest : List Char) :
    tagClosing.content? tagClosing.start [] (text ++ '>' :: rest) = some (text, rest) := by
  show tagClosing.content? none [] (text ++ '>' :: rest) = some (text, rest)
  have hends : (decide ('>' = '>') && tagClosing.ends none (text.reverse ++ [])) = true := rfl
  rw [h, Closing.content?, if_pos hends, List.append_nil, List.reverse_reverse]

/-! ## Tags -/

/-- What begins like no other piece of markup is a start tag. -/
theorem token?_of_ne (hbang : c ≠ '!') (hquestion : c ≠ '?') (hslash : c ≠ '/')
    (text : List Char) :
    token? (c :: text) = tokenBy? tagClosing (fun _ => true) startToken (c :: text) := by
  unfold token?
  split <;> rename_i heq
  · cases heq
  · exact absurd (List.head_eq_of_cons_eq heq) hbang
  · exact absurd (List.head_eq_of_cons_eq heq) hbang
  · exact absurd (List.head_eq_of_cons_eq heq) hbang
  · exact absurd (List.head_eq_of_cons_eq heq) hbang
  · exact absurd (List.head_eq_of_cons_eq heq) hbang
  · exact absurd (List.head_eq_of_cons_eq heq) hquestion
  · exact absurd (List.head_eq_of_cons_eq heq) hslash
  · rfl

/-- A tag that begins with a name is a start tag. -/
theorem token?_of_passes (hname : isName name = true)
    (htext : tagClosing.Passes (name.toList ++ text) none none) (rest : List Char) :
    token? (name.toList ++ text ++ '>' :: rest) =
      some (startToken (name.toList ++ text), rest) := by
  obtain ⟨first, others, hcons, hfirst, -⟩ := exists_cons_of_isName hname
  have hne (c : Char) (hc : isNameStart c = false) : first ≠ c := by
    rintro rfl
    rw [hfirst] at hc
    exact Bool.noConfusion hc
  have hdispatch : token? (name.toList ++ text ++ '>' :: rest) =
      tokenBy? tagClosing (fun _ => true) startToken (name.toList ++ text ++ '>' :: rest) := by
    rw [hcons]
    exact token?_of_ne (hne '!' rfl) (hne '?' rfl) (hne '/' rfl) _
  rw [hdispatch, tokenBy?, content?_of_passes htext]
  rfl

/-- No white space has to be taken away behind a name. -/
theorem endToken_name (h : isName name = true) : endToken ('/' :: name.toList) = .closing name := by
  have hdrop : name.toList.reverse.dropWhile isSpace = name.toList.reverse := by
    cases hrev : name.toList.reverse with
    | nil => rfl
    | cons last before =>
      have hmem : last ∈ name.toList := List.mem_reverse.1 (hrev ▸ List.mem_cons_self)
      have hspace := isSpace_of_isNameChar (isNameChar_of_mem_name h hmem)
      exact List.dropWhile_cons_of_neg (Bool.eq_false_iff.1 hspace)
  rw [endToken, List.drop_one, List.tail_cons, hdrop, List.reverse_reverse, String.ofList_toList]

theorem token?_end (h : isName name = true) (rest : List Char) :
    token? ('/' :: name.toList ++ '>' :: rest) = some (.closing name, rest) := by
  have htext : tagClosing.Passes ('/' :: name.toList) none none :=
    passes_plain rfl (by decide) (passes_name h)
  show tokenBy? tagClosing (fun _ => true) endToken ('/' :: name.toList ++ '>' :: rest) = _
  rw [tokenBy?, content?_of_passes htext, ← endToken_name h]
  rfl

namespace Tree

/-- What stands between the brackets of a start tag. -/
def head (name : String) (attributes : List QuotedAttribute) : List Char :=
  name.toList ++ attributes.flatMap QuotedAttribute.write

theorem writeHead_eq (name : String) (attributes : List QuotedAttribute) :
    writeHead name attributes = '<' :: head name attributes := rfl

namespace IsHead

theorem passes_head (h : IsHead name attributes) :
    tagClosing.Passes (head name attributes) none none :=
  (passes_name h.name).append (QuotedAttribute.passes_flatMap_write h.keys)

/-- The name ends where the attributes begin. -/
theorem tagOf_head (h : IsHead name attributes) :
    Markup.tagOf (head name attributes) = Tree.tagOf name attributes := by
  have hname : ∀ c ∈ name.toList, (!isSpace c) = true := fun c hc => by
    rw [isSpace_of_isNameChar (isNameChar_of_mem_name h.name hc), Bool.not_false]
  have hends : ((attributes.flatMap QuotedAttribute.write).takeWhile fun c => !isSpace c) = [] ∧
      ((attributes.flatMap QuotedAttribute.write).dropWhile fun c => !isSpace c) =
        attributes.flatMap QuotedAttribute.write := by
    cases attributes <;> exact ⟨rfl, rfl⟩
  rw [Markup.tagOf, head, List.takeWhile_append_of_pos hname,
    List.dropWhile_append_of_pos hname, hends.1, hends.2, List.append_nil, String.ofList_toList,
    Markup.attributes,
    QuotedAttribute.attributesFrom_flatMap_write h.keys h.distinct fun a ha => List.not_mem_nil]
  rfl

/-- The bracket of a start tag that leaves its element open does not stand behind a slash. -/
theorem getLast?_head_ne (h : IsHead name attributes) :
    (head name attributes).getLast? ≠ some '/' := by
  intro hlast
  rcases List.eq_nil_or_concat attributes with rfl | ⟨before, a, rfl⟩
  · rw [head, List.flatMap_nil, List.append_nil] at hlast
    exact ne_of_isNameChar (isNameChar_of_mem_name h.name (List.mem_of_getLast? hlast)) rfl rfl
  · rw [head, List.concat_eq_append, List.flatMap_append, List.flatMap_singleton,
      QuotedAttribute.write, ← List.append_assoc, ← List.append_assoc, List.getLast?_concat]
      at hlast
    have hquote := a.isQuote_quote
    rw [Option.some.inj hlast] at hquote
    exact absurd hquote (by decide)

theorem startToken_head (h : IsHead name attributes) :
    startToken (head name attributes) = .opening (Tree.tagOf name attributes) := by
  rw [startToken, if_neg h.getLast?_head_ne, h.tagOf_head]

theorem startToken_head_slash (h : IsHead name attributes) :
    startToken (head name attributes ++ ['/']) = .empty (Tree.tagOf name attributes) := by
  rw [startToken, if_pos List.getLast?_concat, List.dropLast_concat, h.tagOf_head]

end IsHead
end Tree

/-! ## Scanning -/

theorem tokensFrom?_eq (earlier : List Token) (text : List Char) :
    tokensFrom? earlier text =
      match text.dropWhile (· ≠ '<') with
      | [] => some earlier.reverse
      | _ :: rest =>
        (token? rest).bind fun (token, later) => tokensFrom? (token :: earlier) later := by
  rw [tokensFrom?]
  split
  · rename_i hdrop
    rw [hdrop]
  · rename_i hdrop
    split
    · rename_i hnone
      rw [hdrop]
      dsimp only
      rw [hnone, Option.bind_none]
    · rename_i hsome
      dsimp only
      rw [hdrop]
      dsimp only
      rw [hsome, Option.bind_some]

/-- What was read before stands in front of the tokens, whatever it is. -/
theorem tokensFrom?_append (before earlier : List Token) (text : List Char) :
    tokensFrom? (earlier ++ before) text =
      (tokensFrom? earlier text).map (before.reverse ++ ·) := by
  fun_induction tokensFrom? earlier text with
  | case1 earlier text hdrop =>
    rw [tokensFrom?_eq, hdrop, Option.map_some, List.reverse_append]
  | case2 earlier text _ rest hdrop hnone =>
    rw [tokensFrom?_eq, hdrop]
    dsimp only
    rw [hnone, Option.bind_none, Option.map_none]
  | case3 earlier text _ rest hdrop token later hsome _ ih =>
    rw [tokensFrom?_eq, hdrop]
    dsimp only
    rw [hsome, Option.bind_some]
    exact ih

/-- If names are not compared, all there is to do is to find the tokens. -/
theorem parser_tokens?_false (text : List Char) : parser.tokens? false text = tokens? text := by
  show (tokens? text).filter (fun _ => true) = tokens? text
  cases tokens? text <;> rfl

/-- A byte order mark begins no tag. -/
theorem tokens?_eq (text : List Char) : tokens? text = tokensFrom? [] text := by
  unfold tokens?
  split
  · rename_i rest
    rw [tokensFrom?_eq [] ('\uFEFF' :: rest), List.dropWhile_cons_of_pos (by decide),
      ← tokensFrom?_eq]
  · rfl

theorem parser_tokens? (text : List Char) : parser.tokens? false text = tokensFrom? [] text := by
  rw [parser_tokens?_false, tokens?_eq]

theorem scans_text (h : '<' ∉ text) : parser.Scans text [] := by
  intro rest
  have hall : ∀ c ∈ text, decide (c ≠ '<') = true := by
    intro c hc
    refine decide_eq_true ?_
    rintro rfl
    exact h hc
  rw [parser_tokens?, parser_tokens?, tokensFrom?_eq, List.dropWhile_append_of_pos hall,
    ← tokensFrom?_eq]
  exact Option.map_id'.symm

theorem scans_tag {token : Token} (h : ∀ rest, token? (text ++ '>' :: rest) = some (token, rest)) :
    parser.Scans ('<' :: text ++ ['>']) [token] := by
  intro rest
  rw [parser_tokens?, parser_tokens?, tokensFrom?_eq, List.append_assoc, List.cons_append,
    List.dropWhile_cons_of_neg (by decide), List.singleton_append]
  dsimp only
  rw [h]
  exact tokensFrom?_append [token] [] rest

namespace Tree.IsHead

theorem scans_opening (h : IsHead name attributes) :
    parser.Scans (writeHead name attributes ++ ['>']) [.opening (tagOf name attributes)] := by
  rw [← h.startToken_head]
  exact scans_tag (token?_of_passes h.name h.passes_head)

theorem scans_empty (h : IsHead name attributes) :
    parser.Scans (writeHead name attributes ++ ['/', '>']) [.empty (tagOf name attributes)] := by
  have htext : tagClosing.Passes (head name attributes ++ ['/']) none none :=
    h.passes_head.append (passes_plain rfl (by decide) (Closing.passes_nil _ _))
  have hwrite : writeHead name attributes ++ ['/', '>'] =
      '<' :: (head name attributes ++ ['/']) ++ ['>'] := by
    rw [writeHead_eq, List.cons_append, List.cons_append, List.append_assoc]
    rfl
  rw [hwrite, ← h.startToken_head_slash]
  rw [head, List.append_assoc] at htext ⊢
  exact scans_tag (token?_of_passes h.name htext)

end Tree.IsHead

/-- The parser that is used does what is asked of a parser. -/
theorem parser_isLawful : parser.IsLawful where
  nil := by
    rw [parser_tokens?, tokensFrom?_eq]
    rfl
  text _ h := scans_text h
  opening _ _ h := h.scans_opening
  empty _ _ h := h.scans_empty
  closing _ h := scans_tag (token?_end h)
  checked text := by
    rw [parser_tokens?_false]
    rfl
  unescape a := unescape?_written a

end Markup
end GameBox
