import GameBox.Chunk.Partial
import GameBox.Proofs.Reading.Extension
import Mathlib.Data.List.Flatten

/-!
# Records grow while a chunk is read

A decoder of chunks stores what it has read, and nothing that it stored is taken back later.  This
is a property of a decoder and not of the octets: `Decoder.Accrues` for the order on records.

## Decoders of drafts

A draft holds the identifiers and the record, and only the record has to grow.  Most of a decoder
does not touch the record at all.  `SparesRecord` is what such a piece contributes to a proof about
a whole decoder: nothing.  So a decoder is gone through read by read, and a proof obligation is left
for each `store`.

## Layouts

A layout has one slot for every part of the record, and the version decides which slots are read.
Going through all versions is not needed.  A part that at most one slot of the layout writes is
written at most once in every version, since the slots of a version are some of all slots, in their
order.  `Part.WrittenOnce` says this of a part, and `Layout.accrues_decoder` is the consequence.
The invariant on the way is `Part.Settled`: the part is blank and will be written at most once, or
it is final.
-/

namespace GameBox

/-! ## Reading identifiers -/

namespace Identifier

theorem isLocal_settleVersion : settleVersion.IsLocal := by
  refine .look fun table => ?_
  rw [Decoder.bind]
  split
  · refine (Decoder.isLocal_read _).bind fun version => ?_
    split
    · exact .fail _
    · exact .change _ (.done ())
  · exact .done ()

theorem isLocal_nameOf (raw : UInt32) : (nameOf raw).IsLocal := by
  refine .look fun table => ?_
  rw [Decoder.bind]
  split
  · exact .done _
  · exact .done _
  · exact (Decoder.isLocal_read _).bind fun name => .change _ (.done name)
  · exact .done _

/-- An identifier is read from the next octets only. -/
theorem isLocal_decoder : decoder.IsLocal :=
  isLocal_settleVersion.bind fun _ =>
    (Decoder.isLocal_read _).bind fun raw => (isLocal_nameOf raw).bind fun _ => .done _

end Identifier

/-! ## Drafts -/

variable {ρ α β : Type} {R : ρ → ρ → Prop}

/-- The record of one draft lies below that of another. -/
def Draft.Below (R : ρ → ρ → Prop) (draft draft' : Draft ρ) : Prop :=
  R draft.record draft'.record

namespace Decoder

/-- The decoder leaves the record alone: if what follows takes the record up, then so does the
decoder with what follows. -/
def SparesRecord (R : ρ → ρ → Prop) (d : Decoder (Draft ρ) α) : Prop :=
  ∀ ⦃f : α → Decoder (Draft ρ) Unit⦄ ⦃r : ρ⦄,
    (∀ value idents, (f value).Accrues (Draft.Below R) ⟨idents, r⟩) →
      ∀ idents, (d.bind f).Accrues (Draft.Below R) ⟨idents, r⟩

theorem sparesRecord_done (value : α) : SparesRecord R (.done value) :=
  fun _ _ h => h value

theorem sparesRecord_read (kind : Field) : SparesRecord R (read kind) :=
  fun _ _ h idents value => h value idents

theorem SparesRecord.bind {d : Decoder (Draft ρ) α} {f : α → Decoder (Draft ρ) β}
    (hd : d.SparesRecord R) (hf : ∀ value, (f value).SparesRecord R) :
    (d.bind f).SparesRecord R := by
  intro g r h idents
  rw [bind_assoc]
  exact hd (fun value => hf value h) idents

theorem SparesRecord.collect {d : Decoder (Draft ρ) α} (hd : d.SparesRecord R) (count : Nat) :
    (d.collect count).SparesRecord R := by
  induction count with
  | zero => exact sparesRecord_done _
  | succ count ih => exact hd.bind fun first => ih.bind fun later => sparesRecord_done _

/-- A decoder of identifiers changes nothing but the identifiers. -/
theorem sparesRecord_zoom (hrefl : ∀ r, R r r) {d : Decoder Identifier.Table α} (hd : d.IsLocal) :
    SparesRecord R (d.zoom Draft.idents fun idents (draft : Draft ρ) => { draft with idents }) := by
  intro f r h
  induction hd with
  | done value => exact h value
  | fail error => exact fun _ => trivial
  | field kind _ ih => exact fun idents value => ih value idents
  | raw count _ ih => exact fun idents piece => ih piece idents
  | look _ ih => exact fun idents => ih idents idents
  | change update _ ih => exact fun idents => ⟨hrefl r, ih _⟩

theorem sparesRecord_ident (hrefl : ∀ r, R r r) :
    SparesRecord R (ident : Decoder (Draft ρ) String) :=
  sparesRecord_zoom hrefl (Identifier.isLocal_decoder.bind fun _ => .done _)

theorem sparesRecord_octets (count : Nat) : SparesRecord R (octets count) :=
  fun _ _ h idents piece => h piece idents

/-- A text that has to stand there either does or ends the run. -/
theorem sparesRecord_tag (expected : String) : SparesRecord R (tag expected) := by
  intro f r h idents piece
  dsimp only
  by_cases htag : piece = Utf8.encode expected
  · rw [if_pos htag]
    exact h () idents
  · rw [if_neg htag]
    trivial

/-- A decoder with nothing behind it that leaves the record alone takes it nowhere. -/
theorem SparesRecord.accrues {d : Decoder (Draft ρ) Unit} (hd : d.SparesRecord R) {r : ρ}
    (idents : Identifier.Table) : d.Accrues (Draft.Below R) ⟨idents, r⟩ := by
  have hdone : ∀ value idents,
      (done value : Decoder (Draft ρ) Unit).Accrues (Draft.Below R) ⟨idents, r⟩ :=
    fun _ _ => trivial
  rw [← bind_done d]
  exact hd hdone idents

/-- Storing has to take the record up, and what follows starts from the record that was stored. -/
theorem accrues_store_bind {put : ρ → ρ} {f : Unit → Decoder (Draft ρ) Unit} {r : ρ}
    (hput : R r (put r)) (hf : ∀ idents, (f ()).Accrues (Draft.Below R) ⟨idents, put r⟩)
    (idents : Identifier.Table) : ((store put).bind f).Accrues (Draft.Below R) ⟨idents, r⟩ :=
  ⟨hput, hf idents⟩

theorem accrues_store {put : ρ → ρ} {r : ρ} (hput : R r (put r)) (idents : Identifier.Table) :
    (store put).Accrues (Draft.Below R) ⟨idents, r⟩ :=
  ⟨hput, trivial⟩

/-- A round that takes every record up can be repeated. -/
theorem accrues_repeated {d : Decoder (Draft ρ) Unit}
    (h : ∀ (f : Unit → Decoder (Draft ρ) Unit) (r : ρ),
      (∀ r idents, (f ()).Accrues (Draft.Below R) ⟨idents, r⟩) →
        ∀ idents, (d.bind f).Accrues (Draft.Below R) ⟨idents, r⟩) (count : Nat) :
    ∀ r idents, (d.repeated count).Accrues (Draft.Below R) ⟨idents, r⟩ := by
  induction count with
  | zero => exact fun _ _ => trivial
  | succ count ih => exact fun r idents => h _ r ih idents

end Decoder

/-! ## Slots -/

namespace Slot

/-- The values that a slot is filled with. -/
def Values : Slot ρ → Type
  | fields kind count _ => Fin count → kind.Value
  | names count _ => Fin count → String

/-- A record with a slot filled. -/
def fill : (slot : Slot ρ) → slot.Values → ρ → ρ
  | fields _ _ put => put
  | names _ put => put

/-- Filling the slot does not change this view of a record. -/
def Spares {τ : Type} (view : ρ → τ) (slot : Slot ρ) : Prop :=
  ∀ values r, view (slot.fill values r) = view r

/-- At most one of the slots changes this view of a record. -/
def WritesOnce {τ : Type} (view : ρ → τ) : List (Slot ρ) → Prop
  | [] => True
  | slot :: slots => slot.Spares view ∧ WritesOnce view slots ∨ ∀ later ∈ slots, later.Spares view

theorem writesOnce_of_spares {τ : Type} {view : ρ → τ} {slots : List (Slot ρ)}
    (h : ∀ slot ∈ slots, slot.Spares view) : WritesOnce view slots := by
  cases slots with
  | nil => trivial
  | cons slot slots => exact .inr fun later hmem => h later (List.mem_cons_of_mem _ hmem)

/-- Every view that is written at most once in a list of slots is so in a part of the list. -/
theorem WritesOnce.sublist {τ : Type} {view : ρ → τ} {slots slots' : List (Slot ρ)}
    (h : WritesOnce view slots) (hsub : slots'.Sublist slots) : WritesOnce view slots' := by
  induction hsub with
  | slnil => trivial
  | cons slot hsub ih =>
    rcases h with ⟨-, hrest⟩ | hlater
    · exact ih hrest
    · exact ih (writesOnce_of_spares hlater)
  | cons_cons slot hsub ih =>
    rcases h with ⟨hspares, hrest⟩ | hlater
    · exact .inl ⟨hspares, ih hrest⟩
    · exact .inr fun later hmem => hlater later (hsub.subset hmem)

/-! ### Which views a slot spares -/

section
variable {τ : Type} {view : ρ → τ} {kind : Field}

@[simp] theorem writesOnce_nil : WritesOnce view [] := trivial

@[simp] theorem writesOnce_cons {slot : Slot ρ} {slots : List (Slot ρ)} :
    WritesOnce view (slot :: slots) ↔
      slot.Spares view ∧ WritesOnce view slots ∨ ∀ later ∈ slots, later.Spares view :=
  Iff.rfl

@[simp] theorem spares_field {put : kind.Value → ρ → ρ} :
    (field kind put).Spares view ↔ ∀ value r, view (put value r) = view r :=
  ⟨fun h value => h fun _ => value, fun h values => h (values 0)⟩

@[simp] theorem spares_name {put : String → ρ → ρ} :
    (name put).Spares view ↔ ∀ name r, view (put name r) = view r :=
  ⟨fun h name => h fun _ => name, fun h names => h (names 0)⟩

@[simp] theorem spares_pair {put : kind.Value → kind.Value → ρ → ρ} :
    (pair kind put).Spares view ↔ ∀ a b r, view (put a b r) = view r := by
  refine ⟨fun h a b r => ?_, fun h values => h (values 0) (values 1)⟩
  exact h (fun | 0 => a | 1 => b) r

@[simp] theorem spares_triple {put : String → String → String → ρ → ρ} :
    (triple put).Spares view ↔ ∀ a b c r, view (put a b c r) = view r := by
  refine ⟨fun h a b c r => ?_, fun h names => h (names 0) (names 1) (names 2)⟩
  exact h (fun | 0 => a | 1 => b | 2 => c) r

@[simp] theorem spares_quad {put : kind.Value → kind.Value → kind.Value → kind.Value → ρ → ρ} :
    (quad kind put).Spares view ↔ ∀ a b c d r, view (put a b c d r) = view r := by
  refine ⟨fun h a b c d r => ?_, fun h values => h (values 0) (values 1) (values 2) (values 3)⟩
  exact h (fun | 0 => a | 1 => b | 2 => c | 3 => d) r

@[simp] theorem spares_unused (kind : Field) : (unused kind : Slot ρ).Spares view :=
  fun _ _ => rfl

end

end Slot

namespace Part

/-- The part is read as a whole, and at most one of the slots holds it. -/
def WrittenOnce (slots : List (Slot ρ)) : Part ρ → Prop
  | whole get => Slot.WritesOnce get slots
  | items _ => False

/-- The part is blank and will be written at most once, or it is final. -/
def Settled (blank : ρ) (slots : List (Slot ρ)) (r : ρ) : Part ρ → Prop
  | whole get => get r = get blank ∧ Slot.WritesOnce get slots ∨ ∀ slot ∈ slots, slot.Spares get
  | items _ => False

variable {blank r : ρ} {slots slots' : List (Slot ρ)} {part : Part ρ}

theorem WrittenOnce.settled (h : part.WrittenOnce slots) : part.Settled blank slots blank := by
  cases part with
  | whole get => exact .inl ⟨rfl, h⟩
  | items get => exact h.elim

theorem Settled.sublist (h : part.Settled blank slots r) (hsub : slots'.Sublist slots) :
    part.Settled blank slots' r := by
  cases part with
  | whole get =>
    rcases h with ⟨hblank, honce⟩ | hspares
    · exact .inl ⟨hblank, honce.sublist hsub⟩
    · exact .inr fun slot hmem => hspares slot (hsub.subset hmem)
  | items get => exact h.elim

/-- Filling the next slot takes the part up, and leaves it settled for the slots behind it. -/
theorem Settled.fill {slot : Slot ρ} (h : part.Settled blank (slot :: slots) r)
    (values : slot.Values) :
    part.Precedes blank r (slot.fill values r) ∧
      part.Settled blank slots (slot.fill values r) := by
  cases part with
  | whole get =>
    rcases h with ⟨hblank, ⟨hspares, honce⟩ | hlater⟩ | hspares
    · exact ⟨.inl hblank, .inl ⟨(hspares values r).trans hblank, honce⟩⟩
    · exact ⟨.inl hblank, .inr hlater⟩
    · rw [List.forall_mem_cons] at hspares
      exact ⟨.inr (hspares.1 values r).symm, .inr hspares.2⟩
  | items get => exact h.elim

end Part

/-! ## Layouts -/

/-- All slots of a layout, whatever versions have them. -/
def Layout.slots (layout : Layout ρ) : List (Slot ρ) :=
  layout.base ++ layout.layers.flatMap Layer.slots

section
variable {blank r : ρ} {parts : List (Part ρ)} {slots later : List (Slot ρ)}

/-- A slot is read, and stored once all of it is read. -/
theorem Slot.accrues_bind {slot : Slot ρ} {f : Unit → Decoder (Draft ρ) Unit}
    (hrefl : ∀ r, R r r)
    (h : ∀ values, R r (slot.fill values r) ∧
      ∀ idents, (f ()).Accrues (Draft.Below R) ⟨idents, slot.fill values r⟩)
    (idents : Identifier.Table) : (slot.decoder.bind f).Accrues (Draft.Below R) ⟨idents, r⟩ := by
  cases slot with
  | fields kind count put =>
    show (((Decoder.read kind).collect count).bind _ |>.bind f).Accrues _ _
    rw [Decoder.bind_assoc]
    refine (Decoder.sparesRecord_read kind).collect count (fun values idents => ?_) idents
    exact ⟨(h values).1, (h values).2 idents⟩
  | names count put =>
    show ((Decoder.ident.collect count).bind _ |>.bind f).Accrues _ _
    rw [Decoder.bind_assoc]
    refine (Decoder.sparesRecord_ident hrefl).collect count (fun values idents => ?_) idents
    exact ⟨(h values).1, (h values).2 idents⟩

/-- Slots are read one after the other; every part that is settled for all slots stays so. -/
theorem Slot.accrues_decodeAll_bind {f : Unit → Decoder (Draft ρ) Unit}
    (hsettled : ∀ part ∈ parts, part.Settled blank (slots ++ later) r)
    (hf : ∀ r idents, (∀ part ∈ parts, part.Settled blank later r) →
      (f ()).Accrues (Draft.Below (Part.PrecedesAll blank parts)) ⟨idents, r⟩)
    (idents : Identifier.Table) :
    ((Slot.decodeAll slots).bind f).Accrues (Draft.Below (Part.PrecedesAll blank parts))
      ⟨idents, r⟩ := by
  induction slots generalizing r idents with
  | nil => exact hf r idents hsettled
  | cons slot slots ih =>
    rw [Slot.decodeAll, Decoder.bind_assoc]
    refine Slot.accrues_bind (Part.precedesAll_refl blank parts) (fun values => ⟨?_, ?_⟩) idents
    · exact fun part hpart => ((hsettled part hpart).fill values).1
    · exact ih fun part hpart => ((hsettled part hpart).fill values).2

theorem Layout.accrues_decodeLayers {layers : List (Layer ρ)}
    (hsettled : ∀ part ∈ parts, part.Settled blank (layers.flatMap Layer.slots) r)
    (idents : Identifier.Table) :
    (Layout.decodeLayers layers).Accrues (Draft.Below (Part.PrecedesAll blank parts))
      ⟨idents, r⟩ := by
  induction layers generalizing r idents with
  | nil => trivial
  | cons layer layers ih =>
    refine ⟨⟨(), rfl⟩, ?_⟩
    rw [List.flatMap_cons] at hsettled
    exact Slot.accrues_decodeAll_bind hsettled (fun r idents hlater => ih hlater idents) idents

/-- A layout takes records up if every part of a record is written at most once. -/
theorem Layout.accrues_decoder {layout : Layout ρ}
    (h : ∀ part ∈ parts, part.WrittenOnce layout.slots) (idents : Identifier.Table) :
    layout.decoder.Accrues (Draft.Below (Part.PrecedesAll blank parts)) ⟨idents, blank⟩ := by
  refine Slot.accrues_decodeAll_bind (fun part hpart => (h part hpart).settled) ?_ idents
  intro r idents hlater
  refine Layout.accrues_decodeLayers (fun part hpart => (hlater part hpart).sublist ?_) idents
  exact List.filter_sublist.flatMap _

end

end GameBox
