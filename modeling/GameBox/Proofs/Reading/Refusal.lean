import GameBox.Field.Write
import GameBox.Proofs.Reading.Decoder

/-!
# Pieces that are refused wherever they stand

A reader that refuses a piece of a buffer does so because of this piece, and neither what stands
around it nor where it stands matters.  `Decoder.Refuses` says this of a decoder, a piece and an
error.  It is the other side of `Decoder.Reads`, and the two compose: in front of a piece that is
refused, other pieces may be read (`Reads.refuses`), and what follows is never looked at
(`Refuses.bind`, `Refuses.append`).

Only the error is stated and not the position at which the run ends.  `Decoder.Stops` also tells
the state that is left behind a failure.
-/

namespace GameBox

/-! ## Single reads -/

/-- The piece is refused for the error wherever it stands. -/
def Reader.Refuses {α : Type} (read : Reader α) (piece : List UInt8) (error : ReadError) : Prop :=
  ∀ front back : List UInt8, (read (front ++ piece ++ back).toArray front.length).result =
    .error error

/-- A string that is too long for the binary encoding is refused behind its length, before any of
its octets is looked at. -/
theorem Field.refuses_string {text : String} (hlimit : stringLimit ≤ (Utf8.encode text).length)
    (h : (Utf8.encode text).length < 256 ^ 4) :
    Reader.Refuses (string.read .binary) (string.write .binary text)
      (.limitExceeded .stringLength (Utf8.encode text).length stringLimit) := by
  intro front back
  have hlength := reads_word 4 _ h front (Utf8.encode text ++ back)
  rw [← List.append_assoc, List.append_assoc front] at hlength
  show (lengthString (front ++ (octets 4 (Utf8.encode text).length ++ Utf8.encode text) ++
    back).toArray front.length).result = _
  rw [lengthString, hlength]
  dsimp only
  rw [if_pos hlimit]

namespace Decoder

/-! ## Decoders -/

variable {σ α β : Type} {encoding : Encoding} {s s' : σ} {piece piece' : List UInt8} {value : α}
variable {error : DecodeError}

/-- The decoder refuses the piece for the error wherever it stands. -/
def Refuses (encoding : Encoding) (d : Decoder σ α) (s : σ) (piece : List UInt8)
    (error : DecodeError) : Prop :=
  ∀ front back : List UInt8,
    (d.run encoding (front ++ piece ++ back).toArray front.length s).result = .error error

theorem Refuses.fail (error : DecodeError) (s : σ) :
    Refuses encoding (.fail error : Decoder σ α) s [] error :=
  fun _ _ => rfl

theorem Refuses.look {f : σ → Decoder σ α} (h : Refuses encoding (f s) s piece error) :
    Refuses encoding (.look f) s piece error := by
  intro front back
  rw [run_look, h]

theorem Refuses.read {kind : Field} {error : ReadError}
    (h : Reader.Refuses (kind.read encoding) piece error) (s : σ) :
    Refuses encoding (Decoder.read kind) s piece (.read error) := by
  intro front back
  have hread := h front back
  cases hfound : kind.read encoding (front ++ piece ++ back).toArray front.length with
  | mk result next =>
    rw [hfound] at hread
    rw [Decoder.read, run_field_of_error (hfound.trans (congrArg (Found.mk · next) hread))]

/-- What stands behind the piece does not matter. -/
theorem Refuses.append {d : Decoder σ α} (h : Refuses encoding d s piece error)
    (rest : List UInt8) : Refuses encoding d s (piece ++ rest) error := by
  intro front back
  rw [← List.append_assoc, List.append_assoc]
  exact h front (rest ++ back)

/-- A decoder that fails is not followed by another. -/
theorem Refuses.bind {d : Decoder σ α} (h : Refuses encoding d s piece error)
    (f : α → Decoder σ β) : Refuses encoding (d.bind f) s piece error := by
  intro front back
  have hrun := h front back
  rw [run_bind]
  split
  · rename_i heq
    rw [heq] at hrun
    cases hrun
  · rename_i heq
    rw [heq] at hrun
    cases hrun
    rfl

/-- A piece that is read stands in front of one that is refused. -/
theorem Reads.refuses {d : Decoder σ α} {f : α → Decoder σ β}
    (h : Reads encoding d s piece value s') (h' : Refuses encoding (f value) s' piece' error) :
    Refuses encoding (d.bind f) s (piece ++ piece') error := by
  intro front back
  have hfirst := h front (piece' ++ back)
  have hsecond := h' (front ++ piece) back
  rw [← List.append_assoc] at hfirst
  rw [List.length_append] at hsecond
  rw [← List.append_assoc front, run_bind_of_run hfirst, hsecond]

/-- A repetition refuses the pieces of its rounds as soon as one of them is refused.  The state is
the same before every round. -/
theorem Refuses.times {ι : Type} {d : Decoder σ α} (write : ι → List UInt8) (meaning : ι → α)
    (good : ι → Prop) {items : List ι}
    (h : ∀ item ∈ items, good item → Reads encoding d s (write item) (meaning item) s)
    (h' : ∀ item ∈ items, ¬good item → Refuses encoding d s (write item) error)
    (hbad : ∃ item ∈ items, ¬good item) :
    Refuses encoding (d.times items.length) s (items.flatMap write) error := by
  suffices hafter : ∀ earlier, Refuses encoding (d.timesAfter items.length earlier) s
      (items.flatMap write) error from hafter []
  induction items with
  | nil =>
    obtain ⟨item, hmem, -⟩ := hbad
    exact absurd hmem List.not_mem_nil
  | cons item items ih =>
    intro earlier
    rw [List.flatMap_cons]
    by_cases hgood : good item
    · have hlater : ∃ item ∈ items, ¬good item := by
        obtain ⟨bad, hmem, hbad⟩ := hbad
        rcases List.mem_cons.1 hmem with rfl | hmem
        · exact absurd hgood hbad
        · exact ⟨bad, hmem, hbad⟩
      exact (h item List.mem_cons_self hgood).refuses <|
        ih (fun item hmem => h item (List.mem_cons_of_mem _ hmem))
          (fun item hmem => h' item (List.mem_cons_of_mem _ hmem)) hlater _
    · exact ((h' item List.mem_cons_self hgood).append _).bind _

/-! ## What a failure leaves -/

/-- Wherever the piece stands, the decoder fails because of it, and leaves a state. -/
def Stops (encoding : Encoding) (d : Decoder σ α) (s : σ) (piece : List UInt8)
    (error : DecodeError) (s' : σ) : Prop :=
  ∀ front back : List UInt8, ∃ next,
    d.run encoding (front ++ piece ++ back).toArray front.length s = ⟨.error error, next, s'⟩

theorem Stops.fail (error : DecodeError) (s : σ) :
    Stops encoding (.fail error : Decoder σ α) s [] error s :=
  fun _ _ => ⟨_, rfl⟩

theorem Stops.read {kind : Field} {error : ReadError}
    (h : Reader.Refuses (kind.read encoding) piece error) (s : σ) :
    Stops encoding (Decoder.read kind) s piece (.read error) s := by
  intro front back
  have hread := h front back
  cases hfound : kind.read encoding (front ++ piece ++ back).toArray front.length with
  | mk result next =>
    rw [hfound] at hread
    exact ⟨next, run_field_of_error (hfound.trans (congrArg (Found.mk · next) hread))⟩

theorem Stops.bind {d : Decoder σ α} (h : Stops encoding d s piece error s') (f : α → Decoder σ β) :
    Stops encoding (d.bind f) s piece error s' := by
  intro front back
  obtain ⟨next, hrun⟩ := h front back
  exact ⟨next, by rw [run_bind, hrun]⟩

/-- A piece that is read stands in front of one that is failed on. -/
theorem Reads.stops {s'' : σ} {d : Decoder σ α} {f : α → Decoder σ β}
    (h : Reads encoding d s piece value s') (h' : Stops encoding (f value) s' piece' error s'') :
    Stops encoding (d.bind f) s (piece ++ piece') error s'' := by
  intro front back
  have hfirst := h front (piece' ++ back)
  obtain ⟨next, hsecond⟩ := h' (front ++ piece) back
  rw [← List.append_assoc] at hfirst
  rw [List.length_append] at hsecond
  exact ⟨next, by rw [← List.append_assoc front, run_bind_of_run hfirst, hsecond]⟩

/-- The decoder fails because of what it read last. -/
theorem Reads.stops_of_nil {s'' : σ} {d : Decoder σ α} {f : α → Decoder σ β}
    (h : Reads encoding d s piece value s') (h' : Stops encoding (f value) s' [] error s'') :
    Stops encoding (d.bind f) s piece error s'' := by
  have hboth := h.stops h'
  rwa [List.append_nil] at hboth

end Decoder
end GameBox
