import GameBox.Proofs.Reference.Numbering
import GameBox.Reference.Walk

/-!
# The reader of folders walks through them

The reader of folders calls itself for the list inside each folder and keeps nothing but the number
of levels that are left.  A walk does the same by single steps and keeps the lists that it is
inside of.  This module shows that the two end in the same way.

## Walks

At every place there is at most one step, and there is none where the walk is refused.  So a walk
from a given place ends at one place only, and for one reason only (`Walk.Reaches.eq_of_ends`,
`Walk.Refuses.error_eq`).

## Runs

`Walk.Follows` compares the end of a run with a walk: a run that succeeds is a walk to the end of
its list, and a run that fails is a walk to a place that is refused for the same reason.  The levels
that are left and the lists around the walk are sixty-four together, and the induction is on the
levels (`Walk.follows_listDecoder`); the folders of one list are an induction of their own.
-/

namespace GameBox
namespace Folder

variable {encoding : Encoding} {data : Octets} {pos next left : Nat} {outer : List Nat}

/-- What becomes of the count of a list once it is read. -/
theorem run_countDecoder_of_read {count : UInt32} {s : Unit}
    (h : Field.nat32.read encoding data pos = ⟨.ok count, next⟩) :
    countDecoder.run encoding data pos s =
      if limit ≤ count then
        ⟨.error (.read (.limitExceeded .folderCount count.toNat limit.toNat)), next, s⟩
      else ⟨.ok count, next, s⟩ := by
  refine (Decoder.run_field_of_read h).trans ?_
  show Decoder.run encoding data (if limit ≤ count then
    Decoder.exceeded .folderCount count.toNat limit.toNat else pure count) next s = _
  split <;> rfl

namespace Walk

variable {walk walk' last last' : Walk} {error error' : DecodeError}

/-! ## Steps -/

theorem step_rightUnique : Relator.RightUnique (Step encoding data) := by
  intro walk walk' walk'' h h'
  cases h with
  | count hread _ _ => cases h' with
    | count hread' _ _ =>
      cases hread.symm.trans hread'
      rfl
  | name hread => cases h' with
    | name hread' =>
      cases hread.symm.trans hread'
      rfl
  | leave pos left outer => cases h' with
    | leave _ _ _ => rfl

/-- Where a walk is refused it does not go on. -/
theorem Refuses.not_step (h : walk.Refuses encoding data error) :
    ¬Step encoding data walk walk' := by
  intro hstep
  cases h with
  | count hread => cases hstep with
    | count hread' _ _ => cases hread.symm.trans hread'
  | many hread hlimit => cases hstep with
    | count hread' hlimit' _ =>
      cases hread.symm.trans hread'
      exact UInt32.not_lt.2 hlimit hlimit'
  | deep hread _ hpos hlevel => cases hstep with
    | count hread' _ hlevel' =>
      cases hread.symm.trans hread'
      rcases hlevel' with rfl | hlevel'
      · exact absurd hpos (by decide)
      · exact absurd hlevel (Nat.not_le.2 hlevel')
  | name hread => cases hstep with
    | name hread' => cases hread.symm.trans hread'

/-- A place is refused for one reason. -/
theorem Refuses.error_eq (h : walk.Refuses encoding data error)
    (h' : walk.Refuses encoding data error') : error = error' := by
  cases h with
  | count hread => cases h' with
    | count hread' =>
      cases hread.symm.trans hread'
      rfl
    | many hread' _ | deep hread' _ _ _ => cases hread.symm.trans hread'
  | many hread hlimit => cases h' with
    | count hread' => cases hread.symm.trans hread'
    | many hread' _ =>
      cases hread.symm.trans hread'
      rfl
    | deep hread' hlimit' _ _ =>
      cases hread.symm.trans hread'
      exact absurd hlimit' (UInt32.not_lt.2 hlimit)
  | deep hread hlimit _ _ => cases h' with
    | count hread' => cases hread.symm.trans hread'
    | many hread' hlimit' =>
      cases hread.symm.trans hread'
      exact absurd hlimit (UInt32.not_lt.2 hlimit')
    | deep _ _ _ _ => rfl
  | name hread => cases h' with
    | name hread' =>
      cases hread.symm.trans hread'
      rfl

/-- A walk from a place comes to one end only. -/
theorem Reaches.eq_of_ends (h : Reaches encoding data walk last)
    (h' : Reaches encoding data walk last') (hend : ∀ walk, ¬Step encoding data last walk)
    (hend' : ∀ walk, ¬Step encoding data last' walk) : last = last' := by
  have hstays {last last' : Walk} (hend : ∀ walk, ¬Step encoding data last walk)
      (h : Reaches encoding data last last') : last = last' := by
    cases h.cases_head with
    | inl heq => exact heq
    | inr hstep => exact absurd hstep.choose_spec.1 (hend _)
  rcases Relation.ReflTransGen.total_of_right_unique step_rightUnique h h' with hlast | hlast
  · exact hstays hend hlast
  · exact (hstays hend' hlast).symm

/-! ## Levels -/

/-- The lists around a place are no more than there are levels, and fewer if a folder is still to
come. -/
def IsWithinLevels : Walk → Prop
  | .list _ outer => outer.length ≤ maxDepth
  | .folders _ left outer => outer.length ≤ maxDepth ∧ (left = 0 ∨ outer.length < maxDepth)

theorem Step.isWithinLevels (h : Step encoding data walk walk') (hwalk : walk.IsWithinLevels) :
    walk'.IsWithinLevels := by
  cases h with
  | count _ _ hlevel =>
    refine ⟨hwalk, hlevel.imp_left ?_⟩
    rintro rfl
    rfl
  | name _ => exact hwalk.2.resolve_left (Nat.succ_ne_zero _)
  | leave pos left outer =>
    have hlevel : outer.length < maxDepth := hwalk.1
    exact ⟨hlevel.le, .inr hlevel⟩

theorem Reaches.isWithinLevels (h : Reaches encoding data walk walk')
    (hwalk : walk.IsWithinLevels) : walk'.IsWithinLevels := by
  induction h with
  | refl => exact hwalk
  | tail _ hstep ih => exact hstep.isWithinLevels ih

/-- A walk is refused for being too deep exactly at a list of folders below the deepest level. -/
theorem refuses_folderTooDeep_iff {levels : Nat} :
    (∃ last, Reaches encoding data (.list pos []) last ∧
        last.Refuses encoding data (.folderTooDeep levels)) ↔
      levels = 64 ∧ ∃ place outer count next,
        Reaches encoding data (.list pos []) (.list place outer) ∧ outer.length + 1 = 65 ∧
          Field.nat32.read encoding data place = ⟨.ok count, next⟩ ∧
          1 ≤ count.toNat ∧ count.toNat ≤ 49999 := by
  constructor
  · rintro ⟨last, hlast, hrefuses⟩
    cases hrefuses with
    | @deep place next outer count hread hlimit hpos hlevel =>
      have hwithin : outer.length ≤ maxDepth := hlast.isWithinLevels (Nat.zero_le _)
      rw [UInt32.lt_iff_toNat_lt] at hlimit hpos
      have houter : outer.length + 1 = 65 := by rw [Nat.le_antisymm hwithin hlevel, maxDepth]
      exact ⟨rfl, place, outer, count, next, hlast, houter, hread, hpos, Nat.le_of_lt_succ hlimit⟩
  · rintro ⟨rfl, place, outer, count, next, hlast, houter, hread, hpos, hlimit⟩
    refine ⟨_, hlast, .deep hread ?_ ?_ (Nat.succ.inj houter).ge⟩
    · exact UInt32.lt_iff_toNat_lt.2 (Nat.lt_succ_of_le hlimit)
    · exact UInt32.lt_iff_toNat_lt.2 hpos

/-! ## Runs -/

/-- How a run ends that begins at a place of a walk, with these lists around it: at the end of the
list, or where the walk is refused. -/
def Follows {α : Type} (encoding : Encoding) (data : Octets) (walk : Walk) (outer : List Nat) :
    Outcome Unit α → Prop
  | ⟨.ok _, next, _⟩ => Reaches encoding data walk (.folders next 0 outer)
  | ⟨.error error, _, _⟩ =>
    ∃ last, Reaches encoding data walk last ∧ last.Refuses encoding data error

section
variable {α β : Type}

theorem Follows.of_reaches {outcome : Outcome Unit α} (h : Reaches encoding data walk walk')
    (h' : Follows encoding data walk' outer outcome) :
    Follows encoding data walk outer outcome := by
  obtain ⟨result, next, s⟩ := outcome
  cases result with
  | ok value => exact h.trans h'
  | error error =>
    obtain ⟨last, hlast, hrefuses⟩ := h'
    exact ⟨last, h.trans hlast, hrefuses⟩

theorem Follows.bind {d : Decoder Unit α} {f : α → Decoder Unit β} {outer' : List Nat}
    (h : Follows encoding data walk outer (d.run encoding data pos ()))
    (hf : ∀ value next, Follows encoding data (.folders next 0 outer) outer'
      ((f value).run encoding data next ())) :
    Follows encoding data walk outer' ((d.bind f).run encoding data pos ()) := by
  rw [Decoder.run_bind]
  cases hrun : d.run encoding data pos () with
  | mk result next s =>
  rw [hrun] at h
  cases result with
  | ok value => exact .of_reaches h (hf value next)
  | error error => exact h

/-- The count of a list is refused, or what follows it decides. -/
theorem follows_count {f : UInt32 → Decoder Unit α}
    (hf : ∀ count next, Field.nat32.read encoding data pos = ⟨.ok count, next⟩ → count < limit →
      Follows encoding data (.list pos outer) outer ((f count).run encoding data next ())) :
    Follows encoding data (.list pos outer) outer
      ((countDecoder.bind f).run encoding data pos ()) := by
  rw [Decoder.run_bind]
  cases hread : Field.nat32.read encoding data pos with
  | mk result next =>
  cases result with
  | error error =>
    have hrun : countDecoder.run encoding data pos () = ⟨.error (.read error), next, ()⟩ :=
      Decoder.run_field_of_error hread
    rw [hrun]
    exact ⟨_, .refl, .count hread⟩
  | ok count =>
    rw [run_countDecoder_of_read hread]
    by_cases hlimit : limit ≤ count
    · rw [if_pos hlimit]
      exact ⟨_, .refl, .many hread hlimit⟩
    · rw [if_neg hlimit]
      exact hf count next hread (UInt32.not_le.1 hlimit)

/-- The folders of a list are walked through if the lists inside them are. -/
theorem follows_folders {inside : (parent : String) → Decoder Unit (List Folder)}
    (hinside : ∀ parent pos left, Follows encoding data (.list pos (left :: outer)) (left :: outer)
      ((inside parent).run encoding data pos ()))
    (parent : String) (pos left : Nat) (earlier : List Folder) :
    Follows encoding data (.folders pos left outer) outer
      (((listDecoder.folderDecoder inside parent).timesAfter left earlier).run
        encoding data pos ()) := by
  induction left generalizing pos earlier with
  | zero => exact .refl
  | succ left ih =>
    show Follows _ _ _ _ ((Decoder.field .string _).run encoding data pos ())
    cases hname : Field.string.read encoding data pos with
    | mk result next =>
    cases result with
    | error error =>
      rw [Decoder.run_field_of_error hname]
      exact ⟨_, .refl, .name hname⟩
    | ok name =>
      rw [Decoder.run_field_of_read hname]
      refine .of_reaches (.single (.name hname)) ?_
      show Follows _ _ _ _ ((((inside (extendPath parent name)).bind _).bind _).run _ _ next ())
      rw [Decoder.bind_assoc]
      -- Behind the list inside the folder, the rest of the list around it is left.
      exact (hinside _ next left).bind fun children finish =>
        .of_reaches (.single (.leave finish left outer)) (ih finish _)

end

/-- A list is walked through if the lists around it and the levels that are left are all levels
there are. -/
theorem follows_listDecoder (levels : Nat) (parent : String) (pos : Nat) (outer : List Nat)
    (h : outer.length + levels = maxDepth) :
    Follows encoding data (.list pos outer) outer
      ((listDecoder levels parent).run encoding data pos ()) := by
  induction levels generalizing parent pos outer with
  | zero =>
    refine follows_count fun count next hread hlimit => ?_
    by_cases hpos : 0 < count
    · rw [if_pos hpos]
      exact ⟨_, .refl, .deep hread hlimit hpos h.ge⟩
    · obtain rfl : count = 0 := by simpa using hpos
      exact .single (.count hread hlimit (.inl rfl))
  | succ levels ih =>
    refine follows_count fun count next hread hlimit => ?_
    have hlevel : outer.length < maxDepth := by omega
    refine .of_reaches (.single (.count hread hlimit (.inr hlevel))) ?_
    exact follows_folders (fun parent pos left => ih parent pos (left :: outer)
      (by rw [List.length_cons]; omega)) parent next count.toNat []

/-- The reader of the trees fails exactly where the walk through them is refused, and for the
reason for which it is refused. -/
theorem result_listDecoder_eq_error_iff :
    ((listDecoder maxDepth "").run encoding data pos ()).result = .error error ↔
      ∃ last, Reaches encoding data (.list pos []) last ∧ last.Refuses encoding data error := by
  have hfollows := @follows_listDecoder encoding data maxDepth "" pos [] (Nat.zero_add _)
  constructor
  · intro hresult
    cases hrun : (listDecoder maxDepth "").run encoding data pos () with
    | mk result next s =>
    rw [hrun] at hfollows hresult
    dsimp only at hresult
    subst hresult
    exact hfollows
  · rintro ⟨last, hlast, hrefuses⟩
    cases hrun : (listDecoder maxDepth "").run encoding data pos () with
    | mk result next s =>
    rw [hrun] at hfollows
    cases result with
    | ok folders =>
      have hend : ∀ walk, ¬Step encoding data (.folders next 0 []) walk := by
        intro walk hstep
        cases hstep
      obtain rfl := Reaches.eq_of_ends hlast hfollows (fun _ => hrefuses.not_step) hend
      cases hrefuses
    | error error' =>
      obtain ⟨last', hlast', hrefuses'⟩ := hfollows
      obtain rfl := Reaches.eq_of_ends hlast hlast' (fun _ => hrefuses.not_step)
        fun _ => hrefuses'.not_step
      rw [hrefuses.error_eq hrefuses']

end Walk
end Folder
end GameBox
