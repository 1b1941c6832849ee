import GameBox.Reference.Order
import Mathlib.Logic.Relation

/-!
# Walking through folders field by field

Trees of folders are stored as names and counts, one behind the other.  A walk goes through them in
this order and remembers, for each list that it is inside of, how many folders of it are still to
come.  It makes no trees and it is not nested: it is what a reader of the octets sees, and what the
recursion of the reader has to agree with.

* `Folder.Walk`, `Folder.Walk.Step`: the places of a walk and its steps.
* `Folder.Walk.Refuses`: where a walk cannot go on, and why.
* `RefTable.MeetsDeepList`: a table has a list of folders below the deepest level.
* `RefTable.Bounded`: how large a table is that was read.
-/

namespace GameBox
namespace Folder

/-- A place in a walk.  The numbers are those of the folders that are still to come: `left` in the
innermost list, and `outer` in the lists around it, the nearest one first. -/
inductive Walk where
  /-- The count of a list comes next. -/
  | list (pos : Nat) (outer : List Nat)
  /-- The next folder of a list comes next, or its end. -/
  | folders (pos left : Nat) (outer : List Nat)

namespace Walk

/-- One step of a walk: a field that is valid is passed, or a list is left at its end. -/
inductive Step (encoding : Encoding) (data : Octets) : Walk → Walk → Prop
  /-- A list is entered.  If it has folders, there are less than `maxDepth` lists around it. -/
  | count {pos next : Nat} {outer : List Nat} {count : UInt32}
    (hread : Field.nat32.read encoding data pos = ⟨.ok count, next⟩) (hlimit : count < limit)
    (hlevel : count = 0 ∨ outer.length < maxDepth) :
    Step encoding data (.list pos outer) (.folders next count.toNat outer)
  | name {pos next left : Nat} {outer : List Nat} {name : String}
    (hread : Field.string.read encoding data pos = ⟨.ok name, next⟩) :
    Step encoding data (.folders pos (left + 1) outer) (.list next (left :: outer))
  | leave (pos left : Nat) (outer : List Nat) :
    Step encoding data (.folders pos 0 (left :: outer)) (.folders pos left outer)

/-- Where a walk cannot go on, and the reason. -/
inductive Refuses (encoding : Encoding) (data : Octets) : Walk → DecodeError → Prop
  | count {pos next : Nat} {outer : List Nat} {error : ReadError}
    (hread : Field.nat32.read encoding data pos = ⟨.error error, next⟩) :
    Refuses encoding data (.list pos outer) (.read error)
  | many {pos next : Nat} {outer : List Nat} {count : UInt32}
    (hread : Field.nat32.read encoding data pos = ⟨.ok count, next⟩) (hlimit : limit ≤ count) :
    Refuses encoding data (.list pos outer)
      (.read (.limitExceeded .folderCount count.toNat limit.toNat))
  | deep {pos next : Nat} {outer : List Nat} {count : UInt32}
    (hread : Field.nat32.read encoding data pos = ⟨.ok count, next⟩) (hlimit : count < limit)
    (hpos : 0 < count) (hlevel : maxDepth ≤ outer.length) :
    Refuses encoding data (.list pos outer) (.folderTooDeep maxDepth)
  | name {pos next left : Nat} {outer : List Nat} {error : ReadError}
    (hread : Field.string.read encoding data pos = ⟨.error error, next⟩) :
    Refuses encoding data (.folders pos (left + 1) outer) (.read error)

/-- One place is reached from another by valid fields. -/
abbrev Reaches (encoding : Encoding) (data : Octets) : Walk → Walk → Prop :=
  Relation.ReflTransGen (Step encoding data)

end Walk
end Folder

namespace RefTable

/-- Behind the level of the ancestor, a walk by valid fields reaches a list of folders on level 65
that has between one and 49999 of them. -/
def MeetsDeepList (encoding : Encoding) (data : Octets) (pos : Nat) : Prop :=
  ∃ ancestorLevel start place outer count next,
    Field.nat32.read encoding data pos = ⟨.ok ancestorLevel, start⟩ ∧
    Folder.Walk.Reaches encoding data (.list start []) (.list place outer) ∧
    outer.length + 1 = 65 ∧
    Field.nat32.read encoding data place = ⟨.ok count, next⟩ ∧
    1 ≤ count.toNat ∧ count.toNat ≤ 49999

/-- The octets that a folder or a reference takes at the least. -/
def recordWidth : Encoding → Nat
  | .binary => 8
  | .text => 5

/-- How large a table is that was read between two positions. -/
structure Bounded (encoding : Encoding) (count : UInt32) (pos next : Nat) (table : RefTable) :
    Prop where
  depth : Folder.depthAll table.folders ≤ 64
  roots : table.folders.length < 50000
  children : ∀ names folder, Folder.Trail table.folders names folder →
    folder.children.length < 50000
  refs : table.refs.length = count.toNat
  forward : pos ≤ next
  /-- Every folder, at whatever depth, and every reference was paid for. -/
  paid : Folder.sizeAll table.folders + table.refs.length ≤ (next - pos) / recordWidth encoding

end RefTable
end GameBox
