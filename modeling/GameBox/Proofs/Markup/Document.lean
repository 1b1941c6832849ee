import GameBox.Markup.Grammar

/-!
# A written document is taken apart into its elements

Whatever parser is used, if it finds the tags of a document (`Parser.IsLawful`), the text of a
document is scanned piece by piece: every piece gives its tokens, whatever is behind it.

The tokens of a tree leave the open elements as they were (`Closed`), and the induction on trees
puts the pieces together (`Parser.IsLawful.renders_writeAll`).  If one end tag has another name,
scanning goes on as before, but the names no longer fit, and nothing around them can mend this
(`Broken`).  Here the induction goes from the document down to this tag, and what stands beside the
way is written as it should be (`Parser.IsLawful.clashes_of_mem_misnamingsAll`).
-/

namespace GameBox
namespace Markup

variable {name other : String} {text text' : List Char} {tokens tokens' : List Token}
variable {attributes : List QuotedAttribute}

/-! ## Nesting -/

/-- Tokens that leave the open elements as they were. -/
def Closed (tokens : List Token) : Prop :=
  ∀ names rest, isNested names (tokens ++ rest) = isNested names rest

/-- Tokens whose end tags do not fit, and no others around them can mend this. -/
def Broken (tokens : List Token) : Prop :=
  ∀ names rest, isNested names (tokens ++ rest) = false

theorem closed_nil : Closed [] := fun _ _ => rfl

theorem closed_empty (tag : Tag) : Closed [.empty tag] := by
  intro names rest
  rw [List.singleton_append, isNested]

theorem Closed.append (h : Closed tokens) (h' : Closed tokens') : Closed (tokens ++ tokens') := by
  intro names rest
  rw [List.append_assoc, h, h']

theorem Broken.append (h : Broken tokens) (tokens' : List Token) : Broken (tokens ++ tokens') := by
  intro names rest
  rw [List.append_assoc, h]

theorem Closed.broken_append (h : Closed tokens) (h' : Broken tokens') :
    Broken (tokens ++ tokens') := by
  intro names rest
  rw [List.append_assoc, h, h']

/-- The tokens of an element around others. -/
def around (tag : Tag) (inside : List Token) (last : String) : List Token :=
  .opening tag :: (inside ++ [.closing last])

theorem isNested_around (tag : Tag) (inside : List Token) (last : String)
    (names : List String) (rest : List Token) :
    isNested names (around tag inside last ++ rest) =
      isNested (tag.name :: names) (inside ++ (.closing last :: rest)) := by
  rw [around, List.cons_append, List.append_assoc, List.singleton_append, isNested]

theorem Closed.around {tag : Tag} (h : Closed tokens) :
    Closed (around tag tokens tag.name) := by
  intro names rest
  rw [isNested_around, h, isNested, decide_eq_true rfl, Bool.true_and]

theorem Closed.broken_around {tag : Tag} (h : Closed tokens) (hne : other ≠ tag.name) :
    Broken (Markup.around tag tokens other) := by
  intro names rest
  rw [isNested_around, h, isNested, decide_eq_false hne.symm, Bool.false_and]

theorem Broken.around (h : Broken tokens) (tag : Tag) (last : String) :
    Broken (around tag tokens last) := by
  intro names rest
  rw [isNested_around, h]

/-! ## Scanning -/

namespace Parser

variable {parser : Parser} {shown shown' : List Element}

theorem scans_nil (parser : Parser) : parser.Scans [] [] := fun _ => Option.map_id'.symm

theorem Scans.append (h : parser.Scans text tokens) (h' : parser.Scans text' tokens') :
    parser.Scans (text ++ text') (tokens ++ tokens') := by
  intro rest
  rw [List.append_assoc, h, h', Option.map_map]
  exact congrArg (Option.map · _) (funext fun rest => (List.append_assoc tokens tokens' rest).symm)

/-- A text is scanned to tokens that fit, with some elements. -/
def Renders (parser : Parser) (text : List Char) (elements : List Element) : Prop :=
  ∃ tokens, parser.Scans text tokens ∧ Closed tokens ∧
    (tokens.filterMap Token.tag?).map parser.element = elements

/-- A text is scanned to tokens that do not fit. -/
def Clashes (parser : Parser) (text : List Char) : Prop :=
  ∃ tokens, parser.Scans text tokens ∧ Broken tokens

theorem Renders.append (h : parser.Renders text shown) (h' : parser.Renders text' shown') :
    parser.Renders (text ++ text') (shown ++ shown') := by
  obtain ⟨tokens, hscans, hclosed, rfl⟩ := h
  obtain ⟨tokens', hscans', hclosed', rfl⟩ := h'
  refine ⟨tokens ++ tokens', hscans.append hscans', hclosed.append hclosed', ?_⟩
  rw [List.filterMap_append, List.map_append]

theorem Renders.clashes_append (h : parser.Renders text shown) (h' : parser.Clashes text') :
    parser.Clashes (text ++ text') := by
  obtain ⟨tokens, hscans, hclosed, -⟩ := h
  obtain ⟨tokens', hscans', hbroken⟩ := h'
  exact ⟨tokens ++ tokens', hscans.append hscans', hclosed.broken_append hbroken⟩

theorem Clashes.append (h : parser.Clashes text) (h' : parser.Renders text' shown) :
    parser.Clashes (text ++ text') := by
  obtain ⟨tokens, hscans, hbroken⟩ := h
  obtain ⟨tokens', hscans', -⟩ := h'
  exact ⟨tokens ++ tokens', hscans.append hscans', hbroken.append tokens'⟩

/-! ## Trees -/

namespace IsLawful

open Markup.Tree (writeAround elementOf IsHead)

theorem element_tagOf (h : parser.IsLawful) (name : String) (attributes : List QuotedAttribute) :
    parser.element (Tree.tagOf name attributes) = elementOf name attributes := by
  simp [element, Tree.tagOf, elementOf, h.unescape]

theorem tokens?_of_scans (h : parser.IsLawful) (hscans : parser.Scans text tokens) :
    parser.tokens? true text = (some tokens).filter (isNested []) := by
  have hall := hscans []
  rw [List.append_nil, h.nil, Option.map_some, List.append_nil] at hall
  rw [h.checked, hall]

theorem elements?_of_renders (h : parser.IsLawful) {text : String}
    (hrenders : parser.Renders text.toList shown) : parser.elements? text = some shown := by
  obtain ⟨tokens, hscans, hclosed, rfl⟩ := hrenders
  have hnested : isNested [] tokens = true := by
    have hrest := hclosed [] []
    rwa [List.append_nil] at hrest
  rw [elements?, h.tokens?_of_scans hscans, Option.filter_some_pos hnested, Option.map_some]

theorem elements?_of_clashes (h : parser.IsLawful) {text : String}
    (hclashes : parser.Clashes text.toList) : parser.elements? text = none := by
  obtain ⟨tokens, hscans, hbroken⟩ := hclashes
  have hnested : isNested [] tokens = false := by
    have hrest := hbroken [] []
    rwa [List.append_nil] at hrest
  rw [elements?, h.tokens?_of_scans hscans,
    Option.filter_some_neg hnested, Option.map_none]

theorem scans_around (h : parser.IsLawful) (hhead : IsHead name attributes)
    (hother : isName other = true) {inside : List Char} (hinside : parser.Scans inside tokens) :
    parser.Scans (writeAround name attributes inside other)
      (around (Tree.tagOf name attributes) tokens other) := by
  have hscans := (h.opening name attributes hhead).append (hinside.append (h.closing other hother))
  rwa [← List.append_assoc, List.append_assoc _ _ inside] at hscans

theorem renders_around (h : parser.IsLawful) (hhead : IsHead name attributes) {inside : List Char}
    (hinside : parser.Renders inside shown) :
    parser.Renders (writeAround name attributes inside name)
      (elementOf name attributes :: shown) := by
  obtain ⟨tokens, hscans, hclosed, rfl⟩ := hinside
  refine ⟨_, h.scans_around hhead hhead.name hscans, hclosed.around, ?_⟩
  rw [← h.element_tagOf]
  simp [around, Token.tag?]

mutual

theorem renders_write (h : parser.IsLawful) : (tree : Tree) → tree.IsWellFormed →
    parser.Renders tree.write tree.elements
  | .text characters, hwell => by
    rw [Tree.IsWellFormed] at hwell
    rw [Tree.write, Tree.elements]
    exact ⟨[], h.text _ hwell, closed_nil, rfl⟩
  | .leaf name attributes, hwell => by
    rw [Tree.IsWellFormed] at hwell
    rw [Tree.write, Tree.elements, ← h.element_tagOf]
    exact ⟨_, h.empty name attributes hwell, closed_empty _, rfl⟩
  | .branch name attributes children, hwell => by
    rw [Tree.IsWellFormed] at hwell
    rw [Tree.write, Tree.elements]
    exact h.renders_around hwell.1 (renders_writeAll h children hwell.2)

theorem renders_writeAll (h : parser.IsLawful) : (trees : List Tree) → Tree.AreWellFormed trees →
    parser.Renders (Tree.writeAll trees) (Tree.elementsAll trees)
  | [], _ => by
    rw [Tree.writeAll, Tree.elementsAll]
    exact ⟨[], parser.scans_nil, closed_nil, rfl⟩
  | tree :: trees, hwell => by
    rw [Tree.AreWellFormed] at hwell
    rw [Tree.writeAll, Tree.elementsAll]
    exact (renders_write h tree hwell.1).append (renders_writeAll h trees hwell.2)

end

mutual

/-- One wrong end tag is enough, however deep it is. -/
theorem clashes_of_mem_misnamings (h : parser.IsLawful) (hother : isName other = true) :
    (tree : Tree) → (text : List Char) → tree.IsWellFormed → text ∈ Tree.misnamings other tree →
      parser.Clashes text
  | .text characters, _, _, hmem => by
    rw [Tree.misnamings] at hmem
    cases hmem
  | .leaf name attributes, _, _, hmem => by
    rw [Tree.misnamings] at hmem
    cases hmem
  | .branch name attributes children, _, hwell, hmem => by
    rw [Tree.IsWellFormed] at hwell
    rw [Tree.misnamings, List.mem_append, List.mem_map] at hmem
    rcases hmem with hmem | ⟨inside, hmem, rfl⟩
    · obtain ⟨tokens, hscans, hclosed, -⟩ := h.renders_writeAll children hwell.2
      split at hmem
      · cases hmem
      · rename_i hne
        rw [List.mem_singleton.1 hmem]
        exact ⟨_, h.scans_around hwell.1 hother hscans, hclosed.broken_around hne⟩
    · obtain ⟨tokens, hscans, hbroken⟩ :=
        clashes_of_mem_misnamingsAll h hother children inside hwell.2 hmem
      exact ⟨_, h.scans_around hwell.1 hwell.1.name hscans, hbroken.around _ _⟩

theorem clashes_of_mem_misnamingsAll (h : parser.IsLawful) (hother : isName other = true) :
    (trees : List Tree) → (text : List Char) → Tree.AreWellFormed trees →
      text ∈ Tree.misnamingsAll other trees → parser.Clashes text
  | [], _, _, hmem => by
    rw [Tree.misnamingsAll] at hmem
    cases hmem
  | tree :: trees, _, hwell, hmem => by
    rw [Tree.AreWellFormed] at hwell
    rw [Tree.misnamingsAll, List.mem_append, List.mem_map, List.mem_map] at hmem
    rcases hmem with ⟨front, hmem, rfl⟩ | ⟨back, hmem, rfl⟩
    · exact (clashes_of_mem_misnamings h hother tree front hwell.1 hmem).append
        (h.renders_writeAll trees hwell.2)
    · exact (h.renders_write tree hwell.1).clashes_append
        (clashes_of_mem_misnamingsAll h hother trees back hwell.2 hmem)

end

end IsLawful
end Parser
end Markup
end GameBox
