import GameBox.Chunk.Write
import GameBox.Proofs.Chunk.Growth
import GameBox.Proofs.Identifier.RoundTrip

/-!
# Layouts read what was written

A chunk is written as groups of tokens, and a layout reads it slot by slot.  This module says when
the one fits the other, without looking at a particular chunk.

## What has to fit

A slot takes tokens from the front, as many as it has values: `Slot.Takes` has one lemma for each
kind of slots.  A layer takes one group.  A version that does not have the layer must find the group
empty, and so the condition of the group and the versions of the layer have to be the same
(`Layout.Takes.cons`).  No group that is there is written as nothing, so that a reader which stops
when no octet is left never stops too early.

## What is carried along

Reading an identifier needs the identifiers in front of it.  They are known from the tokens, and
with them the table of the reader, `Identifier.Table.behind`.  What happens to the record is carried
along as a function, built from one update behind the other; `Layout.readsGroups_decoder` applies it
to the blank record.
-/

namespace GameBox

open Identifier

namespace Decoder

variable {σ α β ρ : Type} {encoding : Encoding} {s s' s'' : σ} {piece piece' : List UInt8}

/-- A decoder that is not at the end goes on. -/
theorem Reads.exhausted {next : Bool → Decoder σ α} {value : α} (hpiece : piece ≠ [])
    (h : Reads encoding (next false) s piece value s') :
    Reads encoding (.exhausted next) s piece value s' := by
  intro front back
  have hlength : 0 < piece.length := List.length_pos_of_ne_nil hpiece
  have hleft : front.length < (front ++ piece ++ back).toArray.size := by
    rw [List.size_toArray, List.length_append, List.length_append]
    omega
  rw [run_exhausted_of_lt hleft]
  exact h front back

theorem Reads.collect_zero (d : Decoder σ α) (values : Fin 0 → α) (s : σ) :
    Reads encoding (d.collect 0) s [] values s := by
  have hvalues : values = fun place => place.elim0 := funext fun place => place.elim0
  rw [hvalues]
  exact .done _ _

/-- A collection reads the pieces of its rounds behind each other. -/
theorem Reads.collect_succ {d : Decoder σ α} {count : Nat} {first : α} {later : Fin count → α}
    (h : Reads encoding d s piece first s')
    (h' : Reads encoding (d.collect count) s' piece' later s'') :
    Reads encoding (d.collect (count + 1)) s (piece ++ piece') (Fin.cases first later) s'' :=
  h.bind (h'.finish (.done _ _))

/-- The name of an identifier is read, and the record stays. -/
theorem reads_ident (version : SettledVersion) (before : List Written) (written : Written)
    (record : ρ) :
    Reads .binary ident ⟨.behind version before, record⟩
      (writeVersion version before ++ written.write) (written.name before)
      ⟨.behind version (before ++ [written]), record⟩ := by
  have hname := (reads_decoder version before written).finish
    (f := fun ident => .done ident.name) (.done _ _)
  exact Reads.zoom (fun _ _ => rfl) (fun _ => rfl) (fun _ _ _ => rfl) hname

end Decoder

variable {ρ α : Type} {version : SettledVersion} {before : List Written}
variable {tokens tokens' : List Token} {put put' : ρ → ρ}

/-! ## Slots -/

/-- A repeated decoder reads the tokens as the values, and leaves the record. -/
def Decoder.Collects (version : SettledVersion) (before : List Written)
    (d : Decoder (Draft ρ) α) {count : Nat} (tokens : List Token) (values : Fin count → α) : Prop :=
  ∀ r, Reads .binary (d.collect count) ⟨.behind version before, r⟩
    (Token.writeAll version before tokens) values
    ⟨.behind version (before ++ Token.idents tokens), r⟩

namespace Decoder

theorem Collects.zero {d : Decoder (Draft ρ) α} (values : Fin 0 → α) :
    d.Collects version before [] values := by
  intro r
  rw [Token.idents, List.append_nil]
  exact .collect_zero d values _

theorem Collects.field {kind : Field} {count : Nat} {values : Fin count → kind.Value}
    (value : kind.Value) (fits : Field.Fits .binary kind value)
    (h : (read kind : Decoder (Draft ρ) _).Collects version before tokens values) :
    (read kind : Decoder (Draft ρ) _).Collects version before (.field kind value fits :: tokens)
      (Fin.cases value values : Fin (count + 1) → kind.Value) := by
  intro r
  exact (Reads.read (Field.reads_writeBinary kind fits) _).collect_succ (h r)

theorem Collects.ident {count : Nat} {values : Fin count → String} (written : Written)
    (h : (ident : Decoder (Draft ρ) _).Collects version (before ++ [written]) tokens values) :
    (ident : Decoder (Draft ρ) _).Collects version before (.ident written :: tokens)
      (Fin.cases (written.name before) values : Fin (count + 1) → String) := by
  intro r
  have hlater := h r
  rw [List.append_assoc, List.singleton_append] at hlater
  exact (reads_ident version before written r).collect_succ hlater

end Decoder

namespace Slot

variable {kind : Field} {slot : Slot ρ} {slots : List (Slot ρ)}

/-- Slots read the tokens and put what they stand for into the record. -/
def Takes (version : SettledVersion) (before : List Written) (slots : List (Slot ρ))
    (tokens : List Token) (put : ρ → ρ) : Prop :=
  ∀ r, Decoder.Reads .binary (decodeAll slots) ⟨.behind version before, r⟩
    (Token.writeAll version before tokens) ()
    ⟨.behind version (before ++ Token.idents tokens), put r⟩

namespace Takes

theorem nil : Takes version before ([] : List (Slot ρ)) [] id := by
  intro r
  rw [Token.idents, List.append_nil]
  exact .done _ _

/-- A slot takes the tokens in front, and the others take the rest. -/
theorem cons {first : List Token}
    (h : ∀ r, Decoder.Reads .binary slot.decoder ⟨.behind version before, r⟩
      (Token.writeAll version before first) ()
      ⟨.behind version (before ++ Token.idents first), put r⟩)
    (h' : Takes version (before ++ Token.idents first) slots tokens put') :
    Takes version before (slot :: slots) (first ++ tokens) fun r => put' (put r) := by
  intro r
  rw [Token.writeAll_append, Token.idents_append, ← List.append_assoc]
  exact (h r).bind (h' (put r))

theorem fields {count : Nat} {put : (Fin count → kind.Value) → ρ → ρ}
    {values : Fin count → kind.Value} {first : List Token}
    (h : (Decoder.read kind : Decoder (Draft ρ) _).Collects version before first values)
    (hidents : Token.idents first = []) (h' : Takes version before slots tokens put') :
    Takes version before (.fields kind count put :: slots) (first ++ tokens)
      fun r => put' (put values r) := by
  refine .cons (fun r => (h r).finish (Decoder.Reads.modify _ _)) ?_
  rw [hidents, List.append_nil]
  exact h'

theorem names {count : Nat} {put : (Fin count → String) → ρ → ρ} {values : Fin count → String}
    {first : List Token}
    (h : (Decoder.ident : Decoder (Draft ρ) _).Collects version before first values)
    (h' : Takes version (before ++ Token.idents first) slots tokens put') :
    Takes version before (.names count put :: slots) (first ++ tokens)
      fun r => put' (put values r) :=
  .cons (fun r => (h r).finish (Decoder.Reads.modify _ _)) h'

/-! ### The slots of the layouts -/

section
variable {a b c d : kind.Value} {ha : Field.Fits .binary kind a} {hb : Field.Fits .binary kind b}
variable {hc : Field.Fits .binary kind c} {hd : Field.Fits .binary kind d}

theorem field {put : kind.Value → ρ → ρ} (h : Takes version before slots tokens put') :
    Takes version before (.field kind put :: slots) (.field kind a ha :: tokens)
      fun r => put' (put a r) :=
  .fields (.field a ha (.zero Fin.elim0)) rfl h

theorem pair {put : kind.Value → kind.Value → ρ → ρ}
    (h : Takes version before slots tokens put') :
    Takes version before (.pair kind put :: slots)
      (.field kind a ha :: .field kind b hb :: tokens) fun r => put' (put a b r) :=
  .fields (.field a ha (.field b hb (.zero Fin.elim0))) rfl h

theorem quad {put : kind.Value → kind.Value → kind.Value → kind.Value → ρ → ρ}
    (h : Takes version before slots tokens put') :
    Takes version before (.quad kind put :: slots)
      (.field kind a ha :: .field kind b hb :: .field kind c hc :: .field kind d hd :: tokens)
      fun r => put' (put a b c d r) :=
  .fields (.field a ha (.field b hb (.field c hc (.field d hd (.zero Fin.elim0))))) rfl h

theorem unused (h : Takes version before slots tokens put') :
    Takes version before (.unused kind :: slots) (.field kind a ha :: tokens) put' :=
  .fields (.field a ha (.zero Fin.elim0)) rfl h

end

/-- An unused flag may be any word. -/
theorem unusedFlag {word : UInt32} (h : Takes version before slots tokens put') :
    Takes version before (.unused .bool :: slots) (.nat32 word :: tokens) put' := by
  have hread : Reader.Reads (Field.bool.read .binary) (Field.nat32.writeBinary word)
      (decide (word.toNat ≠ 0)) :=
    (Field.reads_word 4 word.toNat word.toNat_lt).map _
  have hcollects : (Decoder.read .bool : Decoder (Draft ρ) _).Collects version before
      [.nat32 word] (Fin.cases (decide (word.toNat ≠ 0)) Fin.elim0 : Fin 1 → Bool) :=
    fun r => (Decoder.Reads.read hread _).collect_succ (Decoder.Collects.zero Fin.elim0 r)
  exact .fields hcollects rfl h

section
variable {a b c : Written}

theorem name {put : String → ρ → ρ} (h : Takes version (before ++ [a]) slots tokens put') :
    Takes version before (.name put :: slots) (.ident a :: tokens)
      fun r => put' (put (a.name before) r) :=
  .names (.ident a (.zero Fin.elim0)) h

theorem triple {put : String → String → String → ρ → ρ}
    (h : Takes version (before ++ [a, b, c]) slots tokens put') :
    Takes version before (.triple put :: slots) (.ident a :: .ident b :: .ident c :: tokens)
      fun r =>
        put' (put (a.name before) (b.name (before ++ [a])) (c.name (before ++ [a] ++ [b])) r) :=
  .names (.ident a (.ident b (.ident c (.zero Fin.elim0)))) h

end
end Takes
end Slot

/-! ## Layouts -/

theorem Field.writeBinary_ne_nil (kind : Field) (value : kind.Value) :
    kind.writeBinary value ≠ [] := by
  cases kind <;> simp [writeBinary, octets]

/-- No token is written as nothing. -/
theorem Token.writeAll_ne_nil (version : SettledVersion) (before : List Written)
    {tokens : List Token} (h : tokens ≠ []) : writeAll version before tokens ≠ [] := by
  cases tokens with
  | nil => exact absurd rfl h
  | cons token tokens =>
    cases token with
    | field kind value fits =>
      exact List.append_ne_nil_of_left_ne_nil (kind.writeBinary_ne_nil value) _
    | ident written =>
      have hword : written.write ≠ [] := List.append_ne_nil_of_left_ne_nil (by simp [octets]) _
      exact List.append_ne_nil_of_left_ne_nil (List.append_ne_nil_of_right_ne_nil _ hword) _

namespace Layout

variable {layer : Layer ρ} {layers : List (Layer ρ)} {own : Nat} {groups : List (List Token)}
variable {token : Token}

theorem present_cons_of_contains (h : layer.versions.contains own = true)
    (layers : List (Layer ρ)) : present own (layer :: layers) = layer :: present own layers :=
  List.filter_cons_of_pos h

theorem present_cons_of_not_contains (h : layer.versions.contains own = false)
    (layers : List (Layer ρ)) : present own (layer :: layers) = present own layers :=
  List.filter_cons_of_neg (by simp [h])

/-- The layers of a version read one group of tokens each and put what they stand for into the
record. -/
def Takes (version : SettledVersion) (own : Nat) (before : List Written) (layers : List (Layer ρ))
    (groups : List (List Token)) (put : ρ → ρ) : Prop :=
  ∀ r, Decoder.Reads .binary (decodeLayers (present own layers)) ⟨.behind version before, r⟩
    (Token.writeAll version before groups.flatten) ()
    ⟨.behind version (before ++ Token.idents groups.flatten), put r⟩

namespace Takes

theorem nil : Takes version own before ([] : List (Layer ρ)) [] id := by
  intro r
  rw [List.flatten_nil, Token.idents, List.append_nil]
  exact .done _ _

/-- A layer that every version has. -/
theorem always (hversions : layer.versions.contains own = true)
    (h : Slot.Takes version before layer.slots (token :: tokens) put)
    (h' : Takes version own (before ++ Token.idents (token :: tokens)) layers groups put') :
    Takes version own before (layer :: layers) ((token :: tokens) :: groups)
      fun r => put' (put r) := by
  intro r
  have hne := Token.writeAll_ne_nil version before (List.cons_ne_nil token tokens)
  rw [present_cons_of_contains hversions, List.flatten_cons, Token.writeAll_append,
    Token.idents_append, ← List.append_assoc]
  exact .exhausted (List.append_ne_nil_of_left_ne_nil hne _) ((h r).bind (h' (put r)))

/-- A layer that some versions have: in the others its group is empty. -/
theorem cons {condition : Prop} [Decidable condition]
    (hversions : layer.versions.contains own = decide condition)
    (h : Slot.Takes version before layer.slots (token :: tokens) put)
    (h' : Takes version own (before ++ Token.idents (Token.given condition (token :: tokens)))
      layers groups put') :
    Takes version own before (layer :: layers)
      (Token.given condition (token :: tokens) :: groups)
      fun r => put' (if condition then put r else r) := by
  by_cases hcondition : condition
  · rw [Token.given, if_pos hcondition] at h' ⊢
    simp only [if_pos hcondition]
    exact .always (hversions.trans (decide_eq_true hcondition)) h h'
  · rw [Token.given, if_neg hcondition, Token.idents, List.append_nil] at h'
    rw [Token.given, if_neg hcondition]
    simp only [if_neg hcondition]
    intro r
    rw [present_cons_of_not_contains (hversions.trans (decide_eq_false hcondition))]
    exact h' r

end Takes

end Layout

/-- The decoder reads the octets of the groups, all of them, as the record. -/
def Decoder.ReadsGroups (d : Decoder (Draft ρ) Unit) (blank : ρ) (version : SettledVersion)
    (groups : List (List Token)) (record : ρ) : Prop :=
  Reads .binary d ⟨.empty, blank⟩ (Token.writeAll version [] groups.flatten) ()
    ⟨.behind version (Token.idents groups.flatten), record⟩

/-- A chunk is read from the tokens of the base and those of the layers of its version. -/
theorem Layout.readsGroups_decoder {groups : List (List Token)} {layout : Layout ρ}
    {blank record : ρ} (own : Nat)
    (hbase : Slot.Takes version [] layout.base tokens put)
    (hversion : layout.version (put blank) = own)
    (h : Takes version own (Token.idents tokens) layout.layers groups put')
    (hrecord : put' (put blank) = record) :
    layout.decoder.ReadsGroups blank version (tokens :: groups) record := by
  rw [Decoder.ReadsGroups, List.flatten_cons, Token.writeAll_append, Token.idents_append, ← hrecord]
  refine (hbase blank).bind (.look ?_)
  rw [Decoder.bind, hversion]
  exact h (put blank)

end GameBox
