import GameBox.Identifier

/-!
# Layouts of chunks

Most chunks grew: each version added fields behind those of the version before, and some versions
dropped a few.  A layout lists the fields of a chunk in their order, grouped into layers, and each
layer says which versions have it.  Reading goes through the layers of a version and stops early,
without an error, once no octet is left.

A layout is data, too: what a version prescribes can be listed without reading anything.

* `Draft`: the state while a chunk is read, the identifiers and the record so far.
* `Slot`: fields or identifiers that are stored together.
* `Versions`, `Layer`, `Layout`: which slots a version has.
* `Layout.decoder`: reading a chunk by its layout.
-/

namespace GameBox

/-- What is known while a chunk is read. -/
structure Draft (ρ : Type) where
  idents : Identifier.Table
  record : ρ

namespace Decoder

variable {σ α ρ : Type}

/-- The values of a decoder run `count` times, by their places. -/
def collect (d : Decoder σ α) : (count : Nat) → Decoder σ (Fin count → α)
  | 0 => done fun place => place.elim0
  | count + 1 =>
    d.bind fun first => (collect d count).bind fun later => done (Fin.cases first later)

/-- Changes the record of a draft. -/
def store (put : ρ → ρ) : Decoder (Draft ρ) Unit :=
  modify fun draft => { draft with record := put draft.record }

/-- Reads an identifier and keeps its name. -/
def ident : Decoder (Draft ρ) String :=
  (Identifier.decoder.bind fun ident => done ident.name).zoom Draft.idents
    fun idents draft => { draft with idents }

end Decoder

/-- Values that are stored together, once all of them are read. -/
inductive Slot (ρ : Type) : Type where
  /-- Fields of one kind. -/
  | fields (kind : Field) (count : Nat) (put : (Fin count → kind.Value) → ρ → ρ)
  /-- Names of identifiers. -/
  | names (count : Nat) (put : (Fin count → String) → ρ → ρ)

namespace Slot

variable {ρ : Type}

/-- One field. -/
def field (kind : Field) (put : kind.Value → ρ → ρ) : Slot ρ :=
  fields kind 1 fun values => put (values 0)

/-- The name of one identifier. -/
def name (put : String → ρ → ρ) : Slot ρ :=
  names 1 fun values => put (values 0)

/-- Two fields of one kind. -/
def pair (kind : Field) (put : kind.Value → kind.Value → ρ → ρ) : Slot ρ :=
  fields kind 2 fun values => put (values 0) (values 1)

/-- Four fields of one kind. -/
def quad (kind : Field) (put : kind.Value → kind.Value → kind.Value → kind.Value → ρ → ρ) :
    Slot ρ :=
  fields kind 4 fun values => put (values 0) (values 1) (values 2) (values 3)

/-- The names of three identifiers: what a thing is, its collection and its author. -/
def triple (put : String → String → String → ρ → ρ) : Slot ρ :=
  names 3 fun values => put (values 0) (values 1) (values 2)

/-- A field whose value is not kept. -/
def unused (kind : Field) : Slot ρ :=
  fields kind 1 fun _ record => record

/-- Reads the values of a slot and stores them. -/
def decoder : Slot ρ → Decoder (Draft ρ) Unit
  | fields kind count put => do
    let values ← (Decoder.read kind).collect count
    Decoder.store (put values)
  | names count put => do
    let values ← Decoder.ident.collect count
    Decoder.store (put values)

/-- Reads slots in their order. -/
def decodeAll : List (Slot ρ) → Decoder (Draft ρ) Unit
  | [] => .done ()
  | slot :: slots => slot.decoder.bind fun _ => decodeAll slots

end Slot

/-- A range of versions. -/
inductive Versions where
  | all
  | since (first : Nat)
  | before (bound : Nat)
  | only (version : Nat)
  /-- Both ends are included. -/
  | between (first last : Nat)
  deriving DecidableEq, Repr

/-- Whether a version is in the range. -/
def Versions.contains : Versions → Nat → Bool
  | all, _ => true
  | since first, version => first ≤ version
  | before bound, version => version < bound
  | only own, version => version = own
  | between first last, version => first ≤ version && version ≤ last

/-- Slots that the same versions have. -/
structure Layer (ρ : Type) where
  versions : Versions
  slots : List (Slot ρ)

/-- The layout of a chunk: slots that every version has, and the layers behind them. -/
structure Layout (ρ : Type) where
  /-- What is read before the version is known, the version included. -/
  base : List (Slot ρ)
  /-- The version that the base gave. -/
  version : ρ → Nat
  layers : List (Layer ρ)

namespace Layout

variable {ρ : Type}

/-- A layout without versions. -/
def plain (slots : List (Slot ρ)) : Layout ρ :=
  ⟨slots, fun _ => 0, []⟩

/-- The layers that a version has. -/
def present (version : Nat) (layers : List (Layer ρ)) : List (Layer ρ) :=
  layers.filter fun layer => layer.versions.contains version

/-- Reads layers in their order until no octet is left. -/
def decodeLayers : List (Layer ρ) → Decoder (Draft ρ) Unit
  | [] => .done ()
  | layer :: layers =>
    .exhausted fun exhausted =>
      if exhausted then .done ()
      else (Slot.decodeAll layer.slots).bind fun _ => decodeLayers layers

/-- Reads a chunk by its layout. -/
def decoder (layout : Layout ρ) : Decoder (Draft ρ) Unit := do
  Slot.decodeAll layout.base
  let draft ← Decoder.state
  decodeLayers (present (layout.version draft.record) layout.layers)

end Layout
end GameBox
