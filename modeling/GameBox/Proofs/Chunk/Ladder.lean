import GameBox.Chunk.Ladder
import GameBox.Proofs.Chunk.Growth
import Mathlib.Data.List.Forall2

/-!
# Chunks are filled from the bottom of their ladder

A chunk of a kind that grew may be cut off or malformed anywhere.  Whatever its octets are, its
record has the first of the fields that its version has, and no others.

## What a run leaves

A layout is run slot by slot, and a slot is filled as a whole or not at all.  So what a run has done
is told by how many slots it has filled: `Slot.FilledBy` is the record that comes out of this, and
the run of a layout fills some of the slots from the front (`Layout.filled_of_run`).  If the run
succeeded, it filled whole layers, and stopped before the last one only because no octet was left.

## What this means for a field

A ladder names the fields that the slots fill, in the same order (`Slot.Covers`), and no field is
filled by two slots (`Slot.WritesOnce`).  So the slots that were filled and those that were not
divide the fields into those that are there and those that are missing
(`Ladder.Describes.divides`).
-/

namespace GameBox

variable {ρ α β : Type} {encoding : Encoding} {data : Octets} {pos next : Nat}
variable {draft draft' : Draft ρ} {result : Except DecodeError Unit}

/-! ## Reads that leave the record -/

namespace Decoder

/-- Whatever is read and however it ends, the record stays. -/
def KeepsRecord (d : Decoder (Draft ρ) α) : Prop :=
  ∀ encoding data pos draft, (d.run encoding data pos draft).state.record = draft.record

theorem keepsRecord_done (value : α) : KeepsRecord (.done value : Decoder (Draft ρ) α) :=
  fun _ _ _ _ => rfl

theorem KeepsRecord.bind {d : Decoder (Draft ρ) α} {f : α → Decoder (Draft ρ) β}
    (hd : d.KeepsRecord) (hf : ∀ value, (f value).KeepsRecord) : (d.bind f).KeepsRecord := by
  intro encoding data pos draft
  have hfirst := hd encoding data pos draft
  rw [run_bind]
  cases hrun : d.run encoding data pos draft with
  | mk result middle draft' =>
  rw [hrun] at hfirst
  cases result with
  | ok value => exact (hf value encoding data middle draft').trans hfirst
  | error error => exact hfirst

theorem keepsRecord_read (kind : Field) :
    KeepsRecord (read kind : Decoder (Draft ρ) kind.Value) := by
  intro encoding data pos draft
  rw [read, run]
  split <;> rfl

theorem keepsRecord_ident : KeepsRecord (ident : Decoder (Draft ρ) String) := by
  intro encoding data pos draft
  rw [ident, run_zoom]
  · exact fun _ _ => rfl
  · exact fun _ => rfl
  · exact fun _ _ _ => rfl

theorem KeepsRecord.collect {d : Decoder (Draft ρ) α} (hd : d.KeepsRecord) (count : Nat) :
    (d.collect count).KeepsRecord := by
  induction count with
  | zero => exact keepsRecord_done _
  | succ count ih => exact hd.bind fun first => ih.bind fun later => keepsRecord_done _

/-- What was read is stored if reading succeeds; otherwise the record stays. -/
theorem KeepsRecord.store_of_run {d : Decoder (Draft ρ) α} (hd : d.KeepsRecord) {put : α → ρ → ρ}
    (h : (d.bind fun values => store (put values)).run encoding data pos draft =
      ⟨result, next, draft'⟩) :
    (∃ values, result = .ok () ∧ draft'.record = put values draft.record) ∨
      ∃ error, result = .error error ∧ draft'.record = draft.record := by
  have hkept := hd encoding data pos draft
  rw [run_bind] at h
  cases hrun : d.run encoding data pos draft with
  | mk read middle stored =>
  rw [hrun] at h hkept
  cases read with
  | ok values =>
    cases h
    exact .inl ⟨values, rfl, congrArg (put values) hkept⟩
  | error error =>
    cases h
    exact .inr ⟨error, rfl, hkept⟩

end Decoder

/-! ## Slots that are filled -/

namespace Slot

variable {slot : Slot ρ} {slots front back : List (Slot ρ)} {r r' r'' : ρ}

/-- One record comes out of another by filling the slots, the first one first. -/
inductive FilledBy : List (Slot ρ) → ρ → ρ → Prop
  | nil (r : ρ) : FilledBy [] r r
  | cons {slot : Slot ρ} {slots : List (Slot ρ)} {r r' : ρ} (values : slot.Values)
    (h : FilledBy slots (slot.fill values r) r') : FilledBy (slot :: slots) r r'

theorem FilledBy.append (h : FilledBy front r r') (h' : FilledBy back r' r'') :
    FilledBy (front ++ back) r r'' := by
  induction h with
  | nil r => exact h'
  | cons values _ ih => exact .cons values (ih h')

theorem FilledBy.of_append (h : FilledBy (front ++ back) r r'') :
    ∃ r', FilledBy front r r' ∧ FilledBy back r' r'' := by
  induction front generalizing r with
  | nil => exact ⟨r, .nil r, h⟩
  | cons slot front ih =>
    obtain _ | ⟨values, hrest⟩ := h
    obtain ⟨r', hfront, hback⟩ := ih hrest
    exact ⟨r', .cons values hfront, hback⟩

/-- Filling slots does not change a view that all of them spare. -/
theorem FilledBy.view_eq {τ : Type} {view : ρ → τ} (h : FilledBy slots r r')
    (hspares : ∀ slot ∈ slots, slot.Spares view) : view r' = view r := by
  induction h with
  | nil r => rfl
  | cons values _ ih =>
    rw [List.forall_mem_cons] at hspares
    rw [ih hspares.2, hspares.1]

/-! ### Running slots -/

/-- A slot that is read is filled if the read succeeds; otherwise the record stays. -/
theorem fill_of_run (h : slot.decoder.run encoding data pos draft = ⟨result, next, draft'⟩) :
    (∃ values, result = .ok () ∧ draft'.record = slot.fill values draft.record) ∨
      ∃ error, result = .error error ∧ draft'.record = draft.record := by
  cases slot with
  | fields kind count put => exact ((Decoder.keepsRecord_read kind).collect count).store_of_run h
  | names count put => exact (Decoder.keepsRecord_ident.collect count).store_of_run h

/-- Slots are filled from the front, and all of them if reading succeeds. -/
theorem filled_of_run
    (h : (decodeAll slots).run encoding data pos draft = ⟨result, next, draft'⟩) :
    ∃ front back, slots = front ++ back ∧ FilledBy front draft.record draft'.record ∧
      (result = .ok () → back = []) := by
  induction slots generalizing pos draft with
  | nil =>
    cases h
    exact ⟨[], [], rfl, .nil _, fun _ => rfl⟩
  | cons slot slots ih =>
    rw [decodeAll, Decoder.run_bind] at h
    cases hrun : slot.decoder.run encoding data pos draft with
    | mk first middle draft₁ =>
    rw [hrun] at h
    rcases fill_of_run hrun with ⟨values, rfl, hrecord⟩ | ⟨error, rfl, hrecord⟩
    · obtain ⟨front, back, rfl, hfilled, hall⟩ := ih h
      rw [hrecord] at hfilled
      exact ⟨slot :: front, back, rfl, .cons values hfilled, hall⟩
    · cases h
      refine ⟨[], slot :: slots, rfl, ?_, fun hok => by cases hok⟩
      rw [hrecord]
      exact .nil _

end Slot

namespace Layout

open Slot (FilledBy)

variable {layout : Layout ρ} {layers : List (Layer ρ)}

/-- The slots of layers are filled from the front.  If reading succeeds, the slots of the first
layers are filled, and these are all layers unless no octet is left. -/
theorem filled_of_run_layers
    (h : (decodeLayers layers).run encoding data pos draft = ⟨result, next, draft'⟩) :
    ∃ front back, layers.flatMap Layer.slots = front ++ back ∧
      FilledBy front draft.record draft'.record ∧
      (result = .ok () → ∃ filled missing, layers = filled ++ missing ∧
        front = filled.flatMap Layer.slots ∧ (missing = [] ∨ data.size ≤ next)) := by
  induction layers generalizing pos draft with
  | nil =>
    cases h
    exact ⟨[], [], rfl, .nil _, fun _ => ⟨[], [], rfl, rfl, .inl rfl⟩⟩
  | cons layer layers ih =>
    rw [decodeLayers] at h
    by_cases hend : data.size ≤ pos
    · rw [Decoder.run_exhausted_of_le hend, if_pos rfl] at h
      cases h
      exact ⟨[], _, rfl, .nil _, fun _ => ⟨[], _, rfl, rfl, .inr hend⟩⟩
    · rw [Decoder.run_exhausted_of_lt (Nat.lt_of_not_le hend), if_neg Bool.false_ne_true,
        Decoder.run_bind] at h
      cases hrun : (Slot.decodeAll layer.slots).run encoding data pos draft with
      | mk first middle draft₁ =>
      rw [hrun] at h
      obtain ⟨front, back, hslots, hfilled, hall⟩ := Slot.filled_of_run hrun
      rw [List.flatMap_cons]
      cases first with
      | ok value =>
        obtain ⟨front', back', hrest, hfilled', hwhole⟩ := ih h
        rw [hall rfl, List.append_nil] at hslots
        refine ⟨front ++ front', back', ?_, hfilled.append hfilled', fun hok => ?_⟩
        · rw [hslots, hrest, List.append_assoc]
        · obtain ⟨filled, missing, rfl, rfl, hmissing⟩ := hwhole hok
          exact ⟨layer :: filled, missing, rfl, by rw [List.flatMap_cons, hslots], hmissing⟩
      | error error =>
        cases h
        refine ⟨front, back ++ layers.flatMap Layer.slots, ?_, hfilled, fun hok => by cases hok⟩
        rw [hslots, List.append_assoc]

/-- The slots of a layout are filled from the front, those of the base first and then those of the
layers that the version of the record has. -/
theorem filled_of_run
    (hversion : ∀ layer ∈ layout.layers, ∀ slot ∈ layer.slots, slot.Spares layout.version)
    (h : layout.decoder.run encoding data pos draft = ⟨result, next, draft'⟩) :
    ∃ front back,
      layout.base ++ (present (layout.version draft'.record) layout.layers).flatMap Layer.slots =
        front ++ back ∧
      FilledBy front draft.record draft'.record ∧
      (result = .ok () → ∃ filled missing,
        present (layout.version draft'.record) layout.layers = filled ++ missing ∧
        front = layout.base ++ filled.flatMap Layer.slots ∧ (missing = [] ∨ data.size ≤ next)) := by
  change ((Slot.decodeAll layout.base).bind _).run encoding data pos draft = _ at h
  rw [Decoder.run_bind] at h
  cases hrun : (Slot.decodeAll layout.base).run encoding data pos draft with
  | mk first middle draft₁ =>
  rw [hrun] at h
  obtain ⟨front, back, hbase, hfilled, hall⟩ := Slot.filled_of_run hrun
  cases first with
  | ok value =>
    change (decodeLayers (present (layout.version draft₁.record) layout.layers)).run encoding data
      middle draft₁ = _ at h
    obtain ⟨front', back', hlayers, hfilled', hwhole⟩ := filled_of_run_layers h
    rw [hall rfl, List.append_nil] at hbase
    -- The layers do not change the version that chose them.
    have hsame : layout.version draft'.record = layout.version draft₁.record := by
      refine hfilled'.view_eq fun slot hmem => ?_
      have hslot := List.mem_append_left back' hmem
      rw [← hlayers, List.mem_flatMap] at hslot
      obtain ⟨layer, hlayer, hslot⟩ := hslot
      exact hversion layer (List.mem_of_mem_filter hlayer) slot hslot
    rw [hsame]
    refine ⟨front ++ front', back', ?_, hfilled.append hfilled', fun hok => ?_⟩
    · rw [hbase, hlayers, List.append_assoc]
    · obtain ⟨filled, missing, hpresent, rfl, hmissing⟩ := hwhole hok
      exact ⟨filled, missing, hpresent, by rw [hbase], hmissing⟩
  | error error =>
    cases h
    refine ⟨front, back ++
      (present (layout.version draft'.record) layout.layers).flatMap Layer.slots, ?_, hfilled,
      fun hok => by cases hok⟩
    rw [← List.append_assoc, ← hbase]

end Layout

/-! ## Fields that are filled -/

namespace Slot

variable {field : ρ → Bool} {fields : List (ρ → Bool)} {slot : Slot ρ}
variable {slots front back : List (Slot ρ)} {blank r : ρ} {kind : Field}

/-- A record has the field once the slot is filled. -/
def Fills (field : ρ → Bool) (slot : Slot ρ) : Prop :=
  ∀ values r, field (slot.fill values r) = true

@[simp] theorem fills_field {put : kind.Value → ρ → ρ} :
    (Slot.field kind put).Fills field ↔ ∀ value r, field (put value r) = true :=
  ⟨fun h value => h fun _ => value, fun h values => h (values 0)⟩

@[simp] theorem fills_name {put : String → ρ → ρ} :
    (name put).Fills field ↔ ∀ name r, field (put name r) = true :=
  ⟨fun h name => h fun _ => name, fun h names => h (names 0)⟩

@[simp] theorem fills_pair {put : kind.Value → kind.Value → ρ → ρ} :
    (pair kind put).Fills field ↔ ∀ a b r, field (put a b r) = true := by
  refine ⟨fun h a b r => ?_, fun h values => h (values 0) (values 1)⟩
  exact h (fun | 0 => a | 1 => b) r

@[simp] theorem fills_triple {put : String → String → String → ρ → ρ} :
    (triple put).Fills field ↔ ∀ a b c r, field (put a b c r) = true := by
  refine ⟨fun h a b c r => ?_, fun h names => h (names 0) (names 1) (names 2)⟩
  exact h (fun | 0 => a | 1 => b | 2 => c) r

@[simp] theorem fills_quad {put : kind.Value → kind.Value → kind.Value → kind.Value → ρ → ρ} :
    (quad kind put).Fills field ↔ ∀ a b c d r, field (put a b c d r) = true := by
  refine ⟨fun h a b c d r => ?_, fun h values => h (values 0) (values 1) (values 2) (values 3)⟩
  exact h (fun | 0 => a | 1 => b | 2 => c | 3 => d) r

theorem nonempty_values (slot : Slot ρ) : Nonempty slot.Values := by
  cases slot with
  | fields kind count put => cases kind <;> exact ⟨fun _ => default⟩
  | names count put => exact ⟨fun _ => default⟩

/-- A slot that fills a field does change it. -/
theorem Fills.not_spares (h : slot.Fills field) (hblank : field blank = false) :
    ¬slot.Spares field := by
  intro hspares
  obtain ⟨values⟩ := slot.nonempty_values
  have hsame := hspares values blank
  rw [h values blank, hblank] at hsame
  exact Bool.noConfusion hsame

/-- If a field is written at most once and a slot fills it, then the slots around this one leave
it. -/
theorem WritesOnce.spares_around (h : WritesOnce field (front ++ slot :: back))
    (hfills : slot.Fills field) (hblank : field blank = false) :
    ∀ other ∈ front ++ back, other.Spares field := by
  induction front with
  | nil =>
    rcases h with ⟨hspares, -⟩ | hlater
    · exact absurd hspares (hfills.not_spares hblank)
    · exact hlater
  | cons first front ih =>
    rcases h with ⟨hspares, hrest⟩ | hlater
    · exact List.forall_mem_cons.2 ⟨hspares, ih hrest⟩
    · have hslot : slot ∈ front ++ slot :: back := List.mem_append_right _ List.mem_cons_self
      exact absurd (hlater slot hslot) (hfills.not_spares hblank)

/-- A field is there if its slot is among those that were filled. -/
theorem FilledBy.eq_true (h : FilledBy front blank r) (honce : WritesOnce field (front ++ back))
    (hblank : field blank = false) (hmem : slot ∈ front) (hfills : slot.Fills field) :
    field r = true := by
  obtain ⟨first, later, rfl⟩ := List.append_of_mem hmem
  obtain ⟨r', -, _ | ⟨values, hlater⟩⟩ := h.of_append
  rw [List.append_assoc, List.cons_append] at honce
  have hspares := honce.spares_around hfills hblank
  have hkept := hlater.view_eq fun other hother =>
    hspares other (List.mem_append_right _ (List.mem_append_left _ hother))
  rw [hkept, hfills]

/-- A field is missing if its slot is among those that were not filled. -/
theorem FilledBy.eq_false (h : FilledBy front blank r) (honce : WritesOnce field (front ++ back))
    (hblank : field blank = false) (hmem : slot ∈ back) (hfills : slot.Fills field) :
    field r = false := by
  obtain ⟨first, later, rfl⟩ := List.append_of_mem hmem
  rw [← List.append_assoc] at honce
  have hspares := honce.spares_around hfills hblank
  have hkept := h.view_eq fun other hother =>
    hspares other (List.mem_append_left _ (List.mem_append_left _ hother))
  rw [hkept, hblank]

/-! ### Fields in the order of the slots -/

/-- The slots fill the fields in their order, and some of them fill none. -/
def Covers (slots : List (Slot ρ)) (fields : List (ρ → Bool)) : Prop :=
  List.SublistForall₂ (fun field slot => slot.Fills field) fields slots

namespace Covers

variable {fields' : List (ρ → Bool)}

theorem append (h : Covers front fields) (h' : Covers back fields') :
    Covers (front ++ back) (fields ++ fields') := by
  obtain ⟨filling, hfills, hsub⟩ := List.sublistForall₂_iff.1 h
  obtain ⟨filling', hfills', hsub'⟩ := List.sublistForall₂_iff.1 h'
  exact List.sublistForall₂_iff.2 ⟨filling ++ filling', List.rel_append hfills hfills',
    hsub.append hsub'⟩

/-- Where the slots are divided, the fields are. -/
theorem of_append (h : Covers (front ++ back) fields) :
    ∃ there missing, fields = there ++ missing ∧ Covers front there ∧ Covers back missing := by
  induction front generalizing fields with
  | nil => exact ⟨[], fields, rfl, .nil, h⟩
  | cons slot front ih =>
    cases h with
    | nil => exact ⟨[], [], rfl, .nil, .nil⟩
    | cons hfills hrest =>
      obtain ⟨there, missing, rfl, hfront, hback⟩ := ih hrest
      exact ⟨_ :: there, missing, rfl, .cons hfills hfront, hback⟩
    | cons_right hrest =>
      obtain ⟨there, missing, rfl, hfront, hback⟩ := ih hrest
      exact ⟨there, missing, rfl, .cons_right hfront, hback⟩

theorem exists_fills (h : Covers slots fields) (hmem : field ∈ fields) :
    ∃ slot ∈ slots, slot.Fills field := by
  induction h with
  | nil => cases hmem
  | cons hfills _ ih =>
    rcases List.mem_cons.1 hmem with rfl | hmem
    · exact ⟨_, List.mem_cons_self, hfills⟩
    · obtain ⟨slot, hslot, hfills⟩ := ih hmem
      exact ⟨slot, List.mem_cons_of_mem _ hslot, hfills⟩
  | cons_right _ ih =>
    obtain ⟨slot, hslot, hfills⟩ := ih hmem
    exact ⟨slot, List.mem_cons_of_mem _ hslot, hfills⟩

end Covers
end Slot

/-! ## Ladders of layouts -/

/-- A rung belongs to a layer: the same versions have both, and the slots of the layer fill the
fields of the rung. -/
structure Rung.Fits (layer : Layer ρ) (rung : Rung ρ) : Prop where
  admits : ∀ version, layer.versions.contains version = rung.admits version
  covers : Slot.Covers layer.slots rung.fields

/-- A ladder describes a layout: it has a rung for each layer, and every field is written at most
once, and never by the slots that settle the version. -/
structure Ladder.Describes (ladder : Ladder ρ) (layout : Layout ρ) (blank : ρ) : Prop where
  version : ladder.version = layout.version
  base : Slot.Covers layout.base ladder.base
  rungs : List.Forall₂ Rung.Fits layout.layers ladder.rungs
  once : ∀ field ∈ ladder.fields, Slot.WritesOnce field layout.slots
  blank : ∀ field ∈ ladder.fields, field blank = false
  keeps : ∀ layer ∈ layout.layers, ∀ slot ∈ layer.slots, slot.Spares layout.version

namespace Rung

variable {layers filled missing : List (Layer ρ)} {rungs : List (Rung ρ)}

/-- The slots of layers fill the fields of their rungs. -/
theorem covers_flatMap (h : List.Forall₂ Fits layers rungs) :
    Slot.Covers (layers.flatMap Layer.slots) (rungs.flatMap Rung.fields) := by
  induction h with
  | nil => exact .nil
  | cons hfits _ ih => exact hfits.covers.append ih

/-- A version has the rungs of the layers that it has. -/
theorem fits_present (h : List.Forall₂ Fits layers rungs) (version : Nat) :
    List.Forall₂ Fits (Layout.present version layers)
      (rungs.filter fun rung => rung.admits version) := by
  exact List.rel_filter (fun _ _ hfits => Bool.eq_iff_iff.1 (hfits.admits version)) h

/-- Where the layers are divided, the rungs are. -/
theorem fits_of_append (h : List.Forall₂ Fits (filled ++ missing) rungs) :
    ∃ climbed above, rungs = climbed ++ above ∧ List.Forall₂ Fits filled climbed ∧
      List.Forall₂ Fits missing above := by
  induction filled generalizing rungs with
  | nil => exact ⟨[], rungs, rfl, .nil, h⟩
  | cons layer filled ih =>
    obtain _ | ⟨hfits, hrest⟩ := h
    obtain ⟨climbed, above, rfl, hfilled, hmissing⟩ := ih hrest
    exact ⟨_ :: climbed, above, rfl, .cons hfits hfilled, hmissing⟩

/-- The layer of a rung, and where it stands among the layers. -/
theorem exists_layer (h : List.Forall₂ Fits layers rungs) {rung : Rung ρ} (hmem : rung ∈ rungs) :
    ∃ before layer after, layers = before ++ layer :: after ∧ Fits layer rung := by
  induction h with
  | nil => cases hmem
  | cons hfits _ ih =>
    rcases List.mem_cons.1 hmem with rfl | hmem
    · exact ⟨[], _, _, rfl, hfits⟩
    · obtain ⟨before, layer, after, rfl, hfits⟩ := ih hmem
      exact ⟨_ :: before, layer, after, rfl, hfits⟩

end Rung

namespace Ladder.Describes

open Slot (FilledBy)

variable {ladder : Ladder ρ} {layout : Layout ρ} {blank r : ρ} {front back : List (Slot ρ)}
variable {version : Nat} {field : ρ → Bool}

theorem covers (h : ladder.Describes layout blank) (version : Nat) :
    Slot.Covers (layout.base ++ (Layout.present version layout.layers).flatMap Layer.slots)
      (ladder.fieldsOf version) :=
  h.base.append (Rung.covers_flatMap (Rung.fits_present h.rungs version))

/-- The slots that were filled and those that were not divide the fields of a version. -/
theorem divides (h : ladder.Describes layout blank)
    (hslots : layout.base ++ (Layout.present version layout.layers).flatMap Layer.slots =
      front ++ back) (hfilled : FilledBy front blank r) {there missing : List (ρ → Bool)}
    (hfields : ladder.fieldsOf version = there ++ missing) (hthere : Slot.Covers front there)
    (hmissing : Slot.Covers back missing) :
    (∀ field ∈ there, field r = true) ∧ ∀ field ∈ missing, field r = false := by
  have hmem : ∀ field ∈ there ++ missing, field ∈ ladder.fields := by
    rw [← hfields]
    exact (List.filter_sublist.flatMap _).append_left _ |>.subset
  have honce : ∀ field ∈ there ++ missing, Slot.WritesOnce field (front ++ back) := by
    intro field hfield
    rw [← hslots]
    exact (h.once field (hmem field hfield)).sublist
      ((List.filter_sublist.flatMap _).append_left _)
  constructor
  · intro field hfield
    have hall := List.mem_append_left missing hfield
    obtain ⟨slot, hslot, hfills⟩ := hthere.exists_fills hfield
    exact hfilled.eq_true (honce field hall) (h.blank field (hmem field hall)) hslot hfills
  · intro field hfield
    have hall := List.mem_append_right there hfield
    obtain ⟨slot, hslot, hfills⟩ := hmissing.exists_fills hfield
    exact hfilled.eq_false (honce field hall) (h.blank field (hmem field hall)) hslot hfills

/-- A field that the version does not have is missing: no slot of the version fills it. -/
theorem eq_false_of_not_admits (h : ladder.Describes layout blank)
    (hslots : layout.base ++ (Layout.present version layout.layers).flatMap Layer.slots =
      front ++ back) (hfilled : FilledBy front blank r) {rung : Rung ρ}
    (hrung : rung ∈ ladder.rungs) (hfield : field ∈ rung.fields)
    (hadmits : rung.admits version = false) : field r = false := by
  have hmem : field ∈ ladder.fields :=
    List.mem_append_right _ (List.mem_flatMap.2 ⟨rung, hrung, hfield⟩)
  obtain ⟨before, layer, after, hlayers, hfits⟩ := Rung.exists_layer h.rungs hrung
  obtain ⟨slot, hslot, hfills⟩ := hfits.covers.exists_fills hfield
  obtain ⟨first, later, hlayer⟩ := List.append_of_mem hslot
  have hall : layout.slots = (layout.base ++ before.flatMap Layer.slots ++ first) ++
      slot :: (later ++ after.flatMap Layer.slots) := by
    rw [Layout.slots, hlayers, List.flatMap_append, List.flatMap_cons, hlayer]
    simp only [List.append_assoc, List.cons_append]
  have hspares := (hall ▸ h.once field hmem).spares_around hfills (h.blank field hmem)
  have hpresent : Layout.present version layout.layers =
      Layout.present version before ++ Layout.present version after := by
    rw [hlayers, Layout.present, List.filter_append, List.filter_cons, hfits.admits, hadmits,
      if_neg Bool.false_ne_true]
    rfl
  -- The slots of the version stand around the slot of the field.
  have hkept : ∀ other ∈ front, other.Spares field := by
    intro other hother
    have haround := List.mem_append_left back hother
    rw [← hslots, hpresent, List.flatMap_append] at haround
    apply hspares
    simp only [Layout.present, List.mem_append, List.mem_flatMap, List.mem_filter] at haround ⊢
    grind
  rw [hfilled.view_eq hkept, h.blank field hmem]

/-- A layout fills a record from the bottom of its ladder, whatever it is run on. -/
theorem climbed_of_run (h : ladder.Describes layout blank) {idents : Identifier.Table}
    (hrun : layout.decoder.run encoding data pos ⟨idents, blank⟩ = ⟨result, next, draft⟩) :
    ladder.Climbed draft.record (result = .ok ()) (data.size ≤ next) := by
  obtain ⟨front, back, hslots, hfilled, hwhole⟩ := Layout.filled_of_run h.keeps hrun
  rw [← h.version] at hslots hwhole
  refine ⟨fun rung hrung field hfield hthere => ?_, ?_, fun hok => ?_⟩
  · by_contra hadmits
    rw [h.eq_false_of_not_admits hslots hfilled hrung hfield (Bool.not_eq_true _ ▸ hadmits)]
      at hthere
    exact Bool.noConfusion hthere
  · have hcovers := h.covers (ladder.version draft.record)
    rw [hslots] at hcovers
    obtain ⟨there, missing, hfields, hfront, hback⟩ := hcovers.of_append
    obtain ⟨hthere, hmissing⟩ := h.divides hslots hfilled hfields hfront hback
    rw [hfields, List.pairwise_append]
    refine ⟨?_, ?_, fun earlier hearlier _ _ _ => hthere earlier hearlier⟩
    · exact List.pairwise_of_forall_mem_list fun earlier hearlier _ _ _ => hthere earlier hearlier
    · refine List.pairwise_of_forall_mem_list fun _ _ later hlater hfalse => ?_
      rw [hmissing later hlater] at hfalse
      exact Bool.noConfusion hfalse
  · obtain ⟨filled, missing, hpresent, rfl, hend⟩ := hwhole hok
    have hrungs := Rung.fits_present h.rungs (ladder.version draft.record)
    rw [hpresent] at hrungs
    obtain ⟨climbed, above, hadmitted, hclimbed, habove⟩ := Rung.fits_of_append hrungs
    have hback : missing.flatMap Layer.slots = back := by
      rw [hpresent, List.flatMap_append, ← List.append_assoc] at hslots
      exact List.append_cancel_left hslots
    have hfields : ladder.fieldsOf (ladder.version draft.record) =
        (ladder.base ++ climbed.flatMap Rung.fields) ++ above.flatMap Rung.fields := by
      rw [fieldsOf, admitted, hadmitted, List.flatMap_append, List.append_assoc]
    obtain ⟨hthere, hmissing⟩ := h.divides hslots hfilled hfields
      (h.base.append (Rung.covers_flatMap hclimbed)) (hback ▸ Rung.covers_flatMap habove)
    refine ⟨climbed, above, hadmitted, hthere, hmissing, hend.imp_left ?_⟩
    rintro rfl
    exact List.forall₂_nil_left_iff.1 habove

end Ladder.Describes

/-! ## The kinds that grew -/

namespace GrownKind

/-- The layout of a kind that grew. -/
def layout : (grown : GrownKind) → Layout grown.kind.Record
  | tmDesc => MapDescription.layout
  | common => MapSummary.layout
  | vskDesc => Regatta.layout
  | replayVersion => ReplaySummary.layout
  | collectorDesc => CatalogEntry.layout
  | skin => SkinDescription.layout
  | gameSkin => SkinFolders.layout
  | collectionDesc => CollectionDescription.layout
  | folders => FolderLayout.layout
  | profile => PlayerProfile.layout

theorem decoder_kind (grown : GrownKind) : grown.kind.decoder = grown.layout.decoder := by
  cases grown <;> rfl

theorem covers_base (grown : GrownKind) : Slot.Covers grown.layout.base grown.ladder.base := by
  cases grown with
  | collectorDesc =>
    exact .cons (by simp) <| .cons (by simp) <| .cons (by simp) <| .cons (by simp) .nil
  | _ => exact .nil

/-- Every layer has its rung.  A slot fills the next field of the rung, or it is not kept. -/
theorem fits_rungs (grown : GrownKind) :
    List.Forall₂ Rung.Fits grown.layout.layers grown.ladder.rungs := by
  cases grown <;> repeat' first
    | exact .nil
    | refine .cons ⟨fun _ => rfl, ?_⟩ ?_
    | refine .cons (by simp) ?_
    | refine .cons_right ?_

/-- No two slots of a kind fill the same field: the slots in front of the one that fills it spare
it, and so do all slots behind. -/
theorem writesOnce_slots (grown : GrownKind) :
    ∀ field ∈ grown.ladder.fields, Slot.WritesOnce field grown.layout.slots := by
  cases grown <;> repeat' first
    | exact List.forall_mem_nil _
    | refine List.forall_mem_cons.2 ⟨?_, ?_⟩
    | exact fun _ _ => rfl
    | refine Or.inl ⟨fun _ _ => rfl, ?_⟩
    | refine Or.inr ?_

/-- A record has none of the fields before it is read. -/
theorem blank_fields (grown : GrownKind) :
    ∀ field ∈ grown.ladder.fields, field grown.kind.blank = false := by
  cases grown <;> repeat' first
    | exact List.forall_mem_nil _
    | refine List.forall_mem_cons.2 ⟨rfl, ?_⟩

/-- The layers leave the version that chose them. -/
theorem spares_version (grown : GrownKind) :
    ∀ layer ∈ grown.layout.layers, ∀ slot ∈ layer.slots, slot.Spares grown.layout.version := by
  cases grown <;> repeat' first
    | exact List.forall_mem_nil _
    | refine List.forall_mem_cons.2 ⟨?_, ?_⟩
    | exact fun _ _ => rfl

theorem describes (grown : GrownKind) :
    grown.ladder.Describes grown.layout grown.kind.blank where
  version := by cases grown <;> rfl
  base := grown.covers_base
  rungs := grown.fits_rungs
  once := grown.writesOnce_slots
  blank := grown.blank_fields
  keeps := grown.spares_version

/-- **Ladders.**  Whatever octets a chunk of a kind that grew is decoded from, in either encoding
and with whatever identifiers before it, its record has the first of the fields that its version
has.  If nothing was wrong, fields are missing by whole rungs, and only because no octet was
left. -/
theorem climbed_decode (grown : GrownKind) (encoding : Encoding) (data : Octets)
    (idents : Identifier.Table) :
    let decoded := ChunkData.decode grown.kind encoding data idents
    ∃ record, decoded.chunk = ⟨grown.kind, record⟩ ∧
      grown.ladder.Climbed record (decoded.error = none) (data.size ≤ decoded.next) := by
  cases hrun : grown.kind.decoder.run encoding data 0 ⟨idents, grown.kind.blank⟩ with
  | mk result next draft =>
  have hclimbed := grown.describes.climbed_of_run (grown.decoder_kind ▸ hrun)
  rw [ChunkData.decode, hrun]
  refine ⟨draft.record, rfl, { hclimbed with whole := fun hnone => hclimbed.whole ?_ }⟩
  cases result with
  | ok value => rfl
  | error error => cases hnone

end GrownKind
end GameBox
