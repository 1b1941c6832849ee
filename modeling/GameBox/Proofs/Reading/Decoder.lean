import GameBox.Proofs.Reading.Field

/-!
# What a decoder is run on

The statements about single reads carry over to decoders, node by node.

## Written parts are read wherever they stand

`Decoder.Reads` says that a decoder reads a piece as a value, in every buffer that holds the piece,
and takes one state to another on the way.  Pieces compose: `Reads.bind` puts the octets of two
decoders behind each other, and `Reads.times` those of a repetition.

## A run that succeeds depends on nothing but what it consumed

This holds of a decoder that asks for nothing but the next octets.  A decoder that asks for its
position, for the rest of the buffer or whether there is any sees more than what it consumes.
`Decoder.IsLocal` leaves these three out, and `IsLocal.reads_of_run` is the statement: the run is
the reading of a piece.

## Raw decoders

A decoder that only takes octets as they are does the same in either encoding (`Decoder.IsRaw`).

## Repetitions

A repetition succeeds only if every round does.  `times_invariant` carries a property of the values
read so far, the position and the state along the rounds.  In the other direction, rounds whose
places are known make up a repetition (`run_times_of_rounds`), as far as none of them fails
(`run_times_of_error`).
-/

namespace GameBox
namespace Decoder

variable {σ τ α β γ : Type} {encoding : Encoding} {data : Octets} {pos next : Nat} {s s' s'' : σ}
variable {piece piece' : List UInt8} {value : α} {result : β}

/-! ## Decoders behind each other -/

theorem bind_assoc (d : Decoder σ α) (f : α → Decoder σ β) (g : β → Decoder σ γ) :
    (d.bind f).bind g = d.bind fun value => (f value).bind g := by
  induction d with
  | done value => rfl
  | fail error => rfl
  | field kind next ih => exact congrArg _ (funext ih)
  | raw count next ih => exact congrArg _ (funext ih)
  | rest next ih => exact congrArg _ (funext ih)
  | exhausted next ih => exact congrArg _ (funext ih)
  | position next ih => exact congrArg _ (funext ih)
  | look next ih => exact congrArg _ (funext ih)
  | change update next ih => exact congrArg _ ih

theorem bind_done (d : Decoder σ α) : d.bind done = d := by
  induction d with
  | done value => rfl
  | fail error => rfl
  | field kind next ih => exact congrArg _ (funext ih)
  | raw count next ih => exact congrArg _ (funext ih)
  | rest next ih => exact congrArg _ (funext ih)
  | exhausted next ih => exact congrArg _ (funext ih)
  | position next ih => exact congrArg _ (funext ih)
  | look next ih => exact congrArg _ (funext ih)
  | change update next ih => exact congrArg _ ih

/-! ## Single nodes -/

section
variable {kind : Field}

theorem run_field_of_read {value : kind.Value} {f : kind.Value → Decoder σ α}
    (h : kind.read encoding data pos = ⟨.ok value, next⟩) :
    (field kind f).run encoding data pos s = (f value).run encoding data next s := by
  rw [run, h]

theorem run_field_of_error {error : ReadError} {f : kind.Value → Decoder σ α}
    (h : kind.read encoding data pos = ⟨.error error, next⟩) :
    (field kind f).run encoding data pos s = ⟨.error (.read error), next, s⟩ := by
  rw [run, h]

end

theorem run_raw_of_take {count : Nat} {f : List UInt8 → Decoder σ α}
    (h : data.take count pos = ⟨.ok piece, next⟩) :
    (raw count f).run encoding data pos s = (f piece).run encoding data next s := by
  rw [run, h]

theorem run_raw_of_error {count : Nat} {error : ReadError} {f : List UInt8 → Decoder σ α}
    (h : data.take count pos = ⟨.error error, next⟩) :
    (raw count f).run encoding data pos s = ⟨.error (.read error), next, s⟩ := by
  rw [run, h]

theorem run_exhausted_of_lt {f : Bool → Decoder σ α} (h : pos < data.size) :
    (exhausted f).run encoding data pos s = (f false).run encoding data pos s := by
  rw [run, decide_eq_false (Nat.not_le.2 h)]

theorem run_exhausted_of_le {f : Bool → Decoder σ α} (h : data.size ≤ pos) :
    (exhausted f).run encoding data pos s = (f true).run encoding data pos s := by
  rw [run, decide_eq_true h]

/-! ## Runs that succeed -/

/-- A decoder followed by another succeeds only if both do. -/
theorem exists_run_of_bind {d : Decoder σ α} {f : α → Decoder σ β}
    (h : (d.bind f).run encoding data pos s = ⟨.ok result, next, s''⟩) :
    ∃ value middle s', d.run encoding data pos s = ⟨.ok value, middle, s'⟩ ∧
      (f value).run encoding data middle s' = ⟨.ok result, next, s''⟩ := by
  rw [run_bind] at h
  split at h
  · rename_i value middle s' hrun
    exact ⟨value, middle, s', hrun, h⟩
  · simp at h

theorem run_bind_of_run {d : Decoder σ α} {f : α → Decoder σ β} {middle : Nat}
    (h : d.run encoding data pos s = ⟨.ok value, middle, s'⟩) :
    (d.bind f).run encoding data pos s = (f value).run encoding data middle s' := by
  rw [run_bind, h]

/-- A decoder that only gives a value reads nothing. -/
theorem pure_of_run {value' : α}
    (h : (pure value : Decoder σ α).run encoding data pos s = ⟨.ok value', next, s'⟩) :
    value = value' ∧ pos = next ∧ s = s' := by
  change run encoding data (.done value) pos s = _ at h
  rw [run_done, Outcome.mk.injEq, Except.ok.injEq] at h
  exact h

/-- A decoder that may refuse what it read did not do so. -/
theorem run_of_unless_fail {refused : Prop} [Decidable refused] {error : DecodeError}
    {d : Decoder σ α}
    (h : (if refused then fail error else d).run encoding data pos s = ⟨.ok value, next, s'⟩) :
    ¬refused ∧ d.run encoding data pos s = ⟨.ok value, next, s'⟩ := by
  by_cases hrefused : refused
  · rw [if_pos hrefused, run_fail] at h
    simp at h
  · rw [if_neg hrefused] at h
    exact ⟨hrefused, h⟩

theorem modify_of_run {update : σ → σ} {result : Unit}
    (h : (modify update).run encoding data pos s = ⟨.ok result, next, s'⟩) :
    pos = next ∧ update s = s' := by
  rw [modify, run_change, run_done, Outcome.mk.injEq] at h
  exact h.2

theorem read_of_run {kind : Field} {value : kind.Value}
    (h : (read kind : Decoder σ kind.Value).run encoding data pos s = ⟨.ok value, next, s'⟩) :
    kind.read encoding data pos = ⟨.ok value, next⟩ ∧ s' = s := by
  unfold read run at h
  split at h
  · rename_i value' next' hread
    simp only [run_done, Outcome.mk.injEq, Except.ok.injEq] at h
    obtain ⟨rfl, rfl, rfl⟩ := h
    exact ⟨hread, rfl⟩
  · simp at h

theorem take_of_run {count : Nat}
    (h : (octets count : Decoder σ _).run encoding data pos s = ⟨.ok piece, next, s'⟩) :
    data.take count pos = ⟨.ok piece, next⟩ ∧ s' = s := by
  unfold octets run at h
  split at h
  · rename_i piece' next' htake
    simp only [run_done, Outcome.mk.injEq, Except.ok.injEq] at h
    obtain ⟨rfl, rfl, rfl⟩ := h
    exact ⟨htake, rfl⟩
  · simp at h

/-! ## Parts of the state -/

/-- A decoder of a part of the state does to this part what it does alone. -/
theorem run_zoom {view : τ → σ} {put : σ → τ → τ} (hview : ∀ s t, view (put s t) = s)
    (hself : ∀ t, put (view t) t = t) (hput : ∀ s s' t, put s' (put s t) = put s' t)
    (d : Decoder σ α) (data : Octets) (pos : Nat) (t : τ) :
    (d.zoom view put).run encoding data pos t =
      ⟨(d.run encoding data pos (view t)).result, (d.run encoding data pos (view t)).next,
        put (d.run encoding data pos (view t)).state t⟩ := by
  induction d generalizing pos t with
  | done value => rw [zoom, run, run, hself]
  | fail error => rw [zoom, run, run, hself]
  | field kind next ih =>
    rw [zoom, run, run]
    cases kind.read encoding data pos with
    | mk result middle =>
    cases result with
    | ok value => exact ih value middle t
    | error error => simp only [hself]
  | raw count next ih =>
    rw [zoom, run, run]
    cases data.take count pos with
    | mk result middle =>
    cases result with
    | ok piece => exact ih piece middle t
    | error error => simp only [hself]
  | rest next ih => exact ih _ _ t
  | exhausted next ih => exact ih _ pos t
  | position next ih => exact ih pos pos t
  | look next ih => exact ih (view t) pos t
  | change update next ih =>
    have hnext := ih pos (put (update (view t)) t)
    rwa [hview, hput] at hnext

/-! ## Written parts -/

/-- The decoder reads the piece as the value wherever it stands, and takes one state to another. -/
def Reads (encoding : Encoding) (d : Decoder σ α) (s : σ) (piece : List UInt8) (value : α)
    (s' : σ) : Prop :=
  ∀ front back : List UInt8, d.run encoding (front ++ piece ++ back).toArray front.length s =
    ⟨.ok value, front.length + piece.length, s'⟩

theorem Reads.done (value : α) (s : σ) : Reads encoding (.done value) s [] value s := by
  intro front back
  rfl

theorem Reads.modify (update : σ → σ) (s : σ) :
    Reads encoding (modify update) s [] () (update s) := by
  intro front back
  rfl

theorem Reads.bind {d : Decoder σ α} {f : α → Decoder σ β}
    (h : Reads encoding d s piece value s') (h' : Reads encoding (f value) s' piece' result s'') :
    Reads encoding (d.bind f) s (piece ++ piece') result s'' := by
  intro front back
  have hfirst := h front (piece' ++ back)
  have hsecond := h' (front ++ piece) back
  rw [← List.append_assoc] at hfirst
  rw [List.length_append] at hsecond
  rw [← List.append_assoc front, run_bind_of_run hfirst, hsecond, List.length_append,
    Nat.add_assoc]

/-- Nothing more is read behind the last piece. -/
theorem Reads.finish {d : Decoder σ α} {f : α → Decoder σ β}
    (h : Reads encoding d s piece value s') (h' : Reads encoding (f value) s' [] result s'') :
    Reads encoding (d.bind f) s piece result s'' := by
  have hboth := h.bind h'
  rwa [List.append_nil] at hboth

theorem Reads.change {update : σ → σ} {d : Decoder σ α}
    (h : Reads encoding d (update s) piece value s') :
    Reads encoding (.change update d) s piece value s' := by
  intro front back
  rw [run_change, h]

theorem Reads.look {f : σ → Decoder σ α} (h : Reads encoding (f s) s piece value s') :
    Reads encoding (.look f) s piece value s' := by
  intro front back
  rw [run_look, h]

theorem Reads.read {kind : Field} {value : kind.Value}
    (h : Reader.Reads (kind.read encoding) piece value) (s : σ) :
    Reads encoding (read kind) s piece value s := by
  intro front back
  rw [Decoder.read, run, h front back]
  rfl

theorem Reads.octets {count : Nat} (h : piece.length = count) (s : σ) :
    Reads encoding (octets count) s piece piece s := by
  subst h
  intro front back
  rw [Decoder.octets, run, Octets.take_middle]
  rfl

/-- A decoder of a part of the state leaves the rest of it. -/
theorem Reads.zoom {view : τ → σ} {put : σ → τ → τ} {t : τ} {d : Decoder σ α}
    (hview : ∀ s t, view (put s t) = s) (hself : ∀ t, put (view t) t = t)
    (hput : ∀ s s' t, put s' (put s t) = put s' t) (h : Reads encoding d (view t) piece value s') :
    Reads encoding (d.zoom view put) t piece value (put s' t) := by
  intro front back
  rw [run_zoom hview hself hput, h front back]

/-- A repetition reads the pieces of its rounds behind each other.  The state is the same before
every round. -/
theorem Reads.times {ι : Type} {d : Decoder σ α} (write : ι → List UInt8) (meaning : ι → α)
    (items : List ι) (h : ∀ item ∈ items, Reads encoding d s (write item) (meaning item) s) :
    Reads encoding (d.times items.length) s (items.flatMap write) (items.map meaning) s := by
  suffices hafter : ∀ earlier, Reads encoding (d.timesAfter items.length earlier) s
      (items.flatMap write) (earlier.reverse ++ items.map meaning) s from hafter []
  induction items with
  | nil =>
    intro earlier
    rw [List.map_nil, List.append_nil]
    exact Reads.done _ _
  | cons item items ih =>
    intro earlier
    have hrest := ih (fun item h' => h item (List.mem_cons_of_mem _ h'))
      (meaning item :: earlier)
    rw [List.reverse_cons, List.append_assoc] at hrest
    exact (h item List.mem_cons_self).bind hrest

/-! ## Local decoders -/

/-- The decoder asks for nothing but the next octets. -/
inductive IsLocal : Decoder σ α → Prop
  | done (value : α) : IsLocal (.done value)
  | fail (error : DecodeError) : IsLocal (.fail error)
  | field (kind : Field) {next : kind.Value → Decoder σ α} (h : ∀ value, IsLocal (next value)) :
    IsLocal (.field kind next)
  | raw (count : Nat) {next : List UInt8 → Decoder σ α} (h : ∀ piece, IsLocal (next piece)) :
    IsLocal (.raw count next)
  | look {next : σ → Decoder σ α} (h : ∀ s, IsLocal (next s)) : IsLocal (.look next)
  | change (update : σ → σ) {next : Decoder σ α} (h : IsLocal next) :
    IsLocal (.change update next)

theorem IsLocal.bind {d : Decoder σ α} {f : α → Decoder σ β} (hd : d.IsLocal)
    (hf : ∀ value, (f value).IsLocal) : (d.bind f).IsLocal := by
  induction hd with
  | done value => exact hf value
  | fail error => exact .fail error
  | field kind _ ih => exact .field kind ih
  | raw count _ ih => exact .raw count ih
  | look _ ih => exact .look ih
  | change update _ ih => exact .change update ih

theorem isLocal_read (kind : Field) : (read kind : Decoder σ kind.Value).IsLocal :=
  .field kind .done

theorem isLocal_octets (count : Nat) : (octets count : Decoder σ _).IsLocal :=
  .raw count .done

theorem IsLocal.times {d : Decoder σ α} (hd : d.IsLocal) (count : Nat) :
    (d.times count).IsLocal := by
  suffices hafter : ∀ earlier, (d.timesAfter count earlier).IsLocal from hafter []
  induction count with
  | zero => exact fun earlier => .done _
  | succ count ih => exact fun earlier => hd.bind fun value => ih (value :: earlier)

/-- A run of a local decoder that succeeds is the reading of a piece of the buffer. -/
theorem IsLocal.reads_of_run {d : Decoder σ α} (hd : d.IsLocal) (hpos : pos ≤ data.size)
    (h : d.run encoding data pos s = ⟨.ok value, next, s'⟩) :
    ∃ piece, data.Spans pos next piece ∧ Reads encoding d s piece value s' := by
  induction hd generalizing pos s with
  | done value' =>
    simp only [run_done, Outcome.mk.injEq, Except.ok.injEq] at h
    obtain ⟨rfl, rfl, rfl⟩ := h
    exact ⟨[], .nil hpos, .done _ _⟩
  | fail error => simp at h
  | field kind _ ih =>
    -- A node that reads is the single read followed by the rest of the tree.
    obtain ⟨value', middle, s₁, hrun, hnext⟩ :=
      exists_run_of_bind (d := read kind) (f := _) h
    obtain ⟨hread, rfl⟩ := read_of_run hrun
    obtain ⟨piece, hspans, hreads⟩ := Field.isLocal_read encoding kind hread
    obtain ⟨piece', hspans', hreads'⟩ := ih value' hspans.le_size hnext
    exact ⟨piece ++ piece', hspans.append hspans', (Reads.read hreads _).bind hreads'⟩
  | raw count _ ih =>
    obtain ⟨piece, middle, s₁, hrun, hnext⟩ :=
      exists_run_of_bind (d := octets count) (f := _) h
    obtain ⟨htake, rfl⟩ := take_of_run hrun
    obtain ⟨hspans, rfl⟩ := Octets.spans_of_take htake
    obtain ⟨piece', hspans', hreads'⟩ := ih piece hspans.le_size hnext
    exact ⟨piece ++ piece', hspans.append hspans', (Reads.octets rfl _).bind hreads'⟩
  | look _ ih =>
    obtain ⟨piece, hspans, hreads⟩ := ih s hpos h
    exact ⟨piece, hspans, hreads.look⟩
  | change update _ ih =>
    obtain ⟨piece, hspans, hreads⟩ := ih hpos h
    exact ⟨piece, hspans, hreads.change⟩

/-! ## Raw decoders -/

/-- The decoder reads octets as they are, and nothing else. -/
inductive IsRaw : Decoder σ α → Prop
  | done (value : α) : IsRaw (.done value)
  | fail (error : DecodeError) : IsRaw (.fail error)
  | raw (count : Nat) {next : List UInt8 → Decoder σ α} (h : ∀ piece, IsRaw (next piece)) :
    IsRaw (.raw count next)

theorem IsRaw.bind {d : Decoder σ α} {f : α → Decoder σ β} (hd : d.IsRaw)
    (hf : ∀ value, (f value).IsRaw) : (d.bind f).IsRaw := by
  induction hd with
  | done value => exact hf value
  | fail error => exact .fail error
  | raw count _ ih => exact .raw count ih

theorem isRaw_octets (count : Nat) : (octets count : Decoder σ _).IsRaw :=
  .raw count .done

/-- Octets as they are do not depend on the encoding. -/
theorem IsRaw.run_eq {d : Decoder σ α} (hd : d.IsRaw) (encoding encoding' : Encoding)
    (data : Octets) (pos : Nat) (s : σ) :
    d.run encoding data pos s = d.run encoding' data pos s := by
  induction hd generalizing pos with
  | done value => rfl
  | fail error => rfl
  | raw count _ ih =>
    rw [run, run]
    split
    · exact ih _ _
    · rfl

/-! ## Repetitions -/

/-- What holds before the first round and is kept by every round holds behind the last one. -/
theorem times_invariant {d : Decoder σ α} {count : Nat} {values : List α}
    (P : List α → Nat → σ → Prop)
    (hround : ∀ values pos s value next s', P values pos s →
      d.run encoding data pos s = ⟨.ok value, next, s'⟩ → P (values ++ [value]) next s')
    (hstart : P [] pos s)
    (h : (d.times count).run encoding data pos s = ⟨.ok values, next, s'⟩) :
    values.length = count ∧ P values next s' := by
  suffices hafter : ∀ earlier pos s, P earlier.reverse pos s →
      (d.timesAfter count earlier).run encoding data pos s = ⟨.ok values, next, s'⟩ →
      values.length = earlier.length + count ∧ P values next s' by
    simpa using hafter [] pos s hstart h
  clear hstart h
  induction count with
  | zero =>
    intro earlier pos s hP h
    simp only [timesAfter, run_done, Outcome.mk.injEq, Except.ok.injEq] at h
    obtain ⟨rfl, rfl, rfl⟩ := h
    exact ⟨List.length_reverse, hP⟩
  | succ count ih =>
    intro earlier pos s hP h
    obtain ⟨value, middle, s₁, hrun, hrest⟩ := exists_run_of_bind h
    have hP' : P (value :: earlier).reverse middle s₁ := by
      rw [List.reverse_cons]
      exact hround _ _ _ _ _ _ hP hrun
    obtain ⟨hlength, hvalues⟩ := ih _ _ _ hP' hrest
    exact ⟨by rw [hlength, List.length_cons]; omega, hvalues⟩

section
variable {d : Decoder σ α} {count : Nat}

/-- A repetition succeeds if every round does. -/
theorem run_times_of_rounds (place : Nat → Nat) (values : Nat → α) (h : ∀ round < count,
      d.run encoding data (place round) s = ⟨.ok (values round), place (round + 1), s⟩) :
    (d.times count).run encoding data (place 0) s =
      ⟨.ok ((List.range count).map values), place count, s⟩ := by
  suffices hafter : ∀ earlier, (d.timesAfter count earlier).run encoding data (place 0) s =
      ⟨.ok (earlier.reverse ++ (List.range count).map values), place count, s⟩ from hafter []
  induction count generalizing place values with
  | zero =>
    intro earlier
    rw [List.range_zero, List.map_nil, List.append_nil]
    rfl
  | succ count ih =>
    intro earlier
    have hrest := ih (fun round => place (round + 1)) (fun round => values (round + 1))
      (fun round hround => h (round + 1) (Nat.succ_lt_succ hround)) (values 0 :: earlier)
    rw [timesAfter, run_bind_of_run (h 0 (Nat.succ_pos count)), hrest, List.reverse_cons,
      List.append_assoc, List.range_succ_eq_map, List.map_cons, List.map_map]
    rfl

/-- A repetition fails as its first round that fails. -/
theorem run_times_of_error (place : Nat → Nat) (values : Nat → α) {round : Nat}
    {error : DecodeError} (hround : round < count) (h : ∀ earlier < round,
      d.run encoding data (place earlier) s = ⟨.ok (values earlier), place (earlier + 1), s⟩)
    (herror : d.run encoding data (place round) s = ⟨.error error, next, s'⟩) :
    (d.times count).run encoding data (place 0) s = ⟨.error error, next, s'⟩ := by
  suffices hafter : ∀ earlier, (d.timesAfter count earlier).run encoding data (place 0) s =
      ⟨.error error, next, s'⟩ from hafter []
  induction round generalizing count place values with
  | zero =>
    intro earlier
    obtain ⟨count, rfl⟩ := Nat.exists_eq_succ_of_ne_zero hround.ne'
    rw [timesAfter, run_bind, herror]
  | succ round ih =>
    intro earlier
    obtain ⟨count, rfl⟩ := Nat.exists_eq_succ_of_ne_zero (Nat.ne_zero_of_lt hround)
    rw [timesAfter, run_bind_of_run (h 0 (Nat.succ_pos round))]
    exact ih (fun round => place (round + 1)) (fun round => values (round + 1))
      (Nat.lt_of_succ_lt_succ hround)
      (fun earlier hearlier => h (earlier + 1) (Nat.succ_lt_succ hearlier)) herror _

end

end Decoder
end GameBox
