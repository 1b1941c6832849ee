import GameBox.Field.Read

/-!
# Decoders as data

A decoder is a tree of reads: each node asks for one thing and continues with the answer.  It
carries a state that it may look at and change; a failure keeps the state that was reached, which
is how a chunk keeps the fields before the one that failed.

Because a decoder is data, a law about reading is proved once, by induction on the tree, and holds
for every layout built from it.  There is one way to run a tree, `Decoder.run`, and one equation
for each node.

* `Decoder`: the tree, a monad.
* `Outcome`, `Decoder.run`: running a decoder on a buffer.
* `Decoder.times`: a decoder repeated a given number of times.
* `Decoder.zoom`: a decoder of a part of the state.
-/

namespace GameBox

/-- A decoder with state `σ` that yields a value of type `α`. -/
inductive Decoder (σ α : Type) : Type where
  /-- Nothing is read any more. -/
  | done (value : α)
  /-- What was read is refused. -/
  | fail (error : DecodeError)
  /-- Reads a field. -/
  | field (kind : Field) (next : kind.Value → Decoder σ α)
  /-- Reads octets as they are. -/
  | raw (count : Nat) (next : List UInt8 → Decoder σ α)
  /-- Reads all octets that are left. -/
  | rest (next : List UInt8 → Decoder σ α)
  /-- Asks whether any octet is left. -/
  | exhausted (next : Bool → Decoder σ α)
  /-- Asks for the position. -/
  | position (next : Nat → Decoder σ α)
  /-- Looks at the state. -/
  | look (next : σ → Decoder σ α)
  /-- Changes the state. -/
  | change (update : σ → σ) (next : Decoder σ α)

/-- How a run ended: its value or why there is none, the position and the state it left. -/
structure Outcome (σ α : Type) where
  result : Except DecodeError α
  next : Nat
  state : σ

namespace Decoder

variable {σ τ α β : Type}

/-- One decoder after another. -/
def bind : Decoder σ α → (α → Decoder σ β) → Decoder σ β
  | done value, f => f value
  | fail error, _ => fail error
  | field kind next, f => field kind fun v => (next v).bind f
  | raw count next, f => raw count fun bs => (next bs).bind f
  | rest next, f => rest fun bs => (next bs).bind f
  | exhausted next, f => exhausted fun b => (next b).bind f
  | position next, f => position fun p => (next p).bind f
  | look next, f => look fun s => (next s).bind f
  | change update next, f => change update (next.bind f)

instance : Monad (Decoder σ) where
  pure := done
  bind := bind

/-! ## Single reads -/

/-- Reads one field. -/
def read (kind : Field) : Decoder σ kind.Value := field kind done

/-- Reads octets as they are. -/
def octets (count : Nat) : Decoder σ (List UInt8) := raw count done

/-- Reads one field and forgets it. -/
def skip (kind : Field) : Decoder σ Unit := field kind fun _ => done ()

/-- Refuses what was read because a count or size is out of bounds. -/
def exceeded (what : Quantity) (value limit : Nat) : Decoder σ α :=
  fail (.read (.limitExceeded what value limit))

/-- Reads a marker, which must stand there as it is. -/
def tag (expected : String) : Decoder σ Unit :=
  let wanted := Utf8.encode expected
  raw wanted.length fun bs =>
    if bs = wanted then done () else fail (.unexpectedTag expected (Utf8.decode bs))

/-- The state. -/
def state : Decoder σ σ := look done

/-- Changes the state. -/
def modify (update : σ → σ) : Decoder σ Unit := change update (done ())

/-! ## Larger decoders -/

/-- Runs a decoder `count` times; `earlier` holds the values read before, the last one first. -/
def timesAfter (d : Decoder σ α) : (count : Nat) → (earlier : List α) → Decoder σ (List α)
  | 0, earlier => done earlier.reverse
  | count + 1, earlier => d.bind fun value => timesAfter d count (value :: earlier)

/-- The values of a decoder run `count` times. -/
def times (d : Decoder σ α) (count : Nat) : Decoder σ (List α) := timesAfter d count []

/-- Runs a decoder `count` times for the state it leaves. -/
def repeated (d : Decoder σ Unit) : (count : Nat) → Decoder σ Unit
  | 0 => done ()
  | count + 1 => d.bind fun _ => repeated d count

/-- Runs a decoder on a part of a larger state. -/
def zoom (view : τ → σ) (put : σ → τ → τ) : Decoder σ α → Decoder τ α
  | done value => done value
  | fail error => fail error
  | field kind next => field kind fun v => (next v).zoom view put
  | raw count next => raw count fun bs => (next bs).zoom view put
  | rest next => rest fun bs => (next bs).zoom view put
  | exhausted next => exhausted fun b => (next b).zoom view put
  | position next => position fun p => (next p).zoom view put
  | look next => look fun s => (next (view s)).zoom view put
  | change update next => change (fun s => put (update (view s)) s) (next.zoom view put)

/-! ## Running -/

/-- Runs a decoder on a buffer from a position. -/
def run (encoding : Encoding) (data : Octets) : Decoder σ α → Nat → σ → Outcome σ α
  | done value, pos, s => ⟨.ok value, pos, s⟩
  | fail error, pos, s => ⟨.error error, pos, s⟩
  | field kind next, pos, s =>
    match kind.read encoding data pos with
    | ⟨.ok value, pos⟩ => run encoding data (next value) pos s
    | ⟨.error error, pos⟩ => ⟨.error (.read error), pos, s⟩
  | raw count next, pos, s =>
    match data.take count pos with
    | ⟨.ok bs, pos⟩ => run encoding data (next bs) pos s
    | ⟨.error error, pos⟩ => ⟨.error (.read error), pos, s⟩
  | rest next, pos, s => run encoding data (next (data.after pos)) (max pos data.size) s
  | exhausted next, pos, s => run encoding data (next (data.size ≤ pos)) pos s
  | position next, pos, s => run encoding data (next pos) pos s
  | look next, pos, s => run encoding data (next s) pos s
  | change update next, pos, s => run encoding data next pos (update s)

section
variable (encoding : Encoding) (data : Octets) (pos : Nat) (s : σ)

@[simp] theorem run_done (value : α) :
    run encoding data (done value) pos s = ⟨.ok value, pos, s⟩ := rfl

@[simp] theorem run_fail (error : DecodeError) :
    run encoding data (fail error : Decoder σ α) pos s = ⟨.error error, pos, s⟩ := rfl

@[simp] theorem run_look (next : σ → Decoder σ α) :
    run encoding data (look next) pos s = run encoding data (next s) pos s := rfl

@[simp] theorem run_change (update : σ → σ) (next : Decoder σ α) :
    run encoding data (change update next) pos s = run encoding data next pos (update s) := rfl

/-- Running one decoder after another runs the second where the first one ended. -/
theorem run_bind (d : Decoder σ α) (f : α → Decoder σ β) :
    run encoding data (d.bind f) pos s =
      match run encoding data d pos s with
      | ⟨.ok value, pos, s⟩ => run encoding data (f value) pos s
      | ⟨.error error, pos, s⟩ => ⟨.error error, pos, s⟩ := by
  induction d generalizing pos s with
  | done value => rfl
  | fail error => rfl
  | field kind next ih =>
    simp only [bind, run]
    split
    · exact ih _ _ _
    · rfl
  | raw count next ih =>
    simp only [bind, run]
    split
    · exact ih _ _ _
    · rfl
  | rest next ih => exact ih _ _ _
  | exhausted next ih => exact ih _ _ _
  | position next ih => exact ih _ _ _
  | look next ih => exact ih _ _ _
  | change update next ih => exact ih _ _

end

end Decoder
end GameBox
