/-
A sequence that is taken apart into pieces and put together again.

Pieces of a sequence are handed out in order to holders, who give them back in any
order.  The sequence that comes back is a beginning of the one that was taken apart
as long as each piece comes back after the pieces in front of it, and for distinct
items this is the only way.
-/

import Mathlib.Data.List.Nodup
import Mathlib.Data.List.Pairwise

set_option autoImplicit false

namespace SpringExamples.Precedence

variable {Item Index : Type}

/-- One item stands somewhere before the other. -/
def Precedes (items : List Item) (older newer : Item) : Prop :=
  [older, newer].Sublist items

theorem precedes_append {first second : List Item} {older newer : Item}
    (before : older ∈ first) (after : newer ∈ second) :
    Precedes (first ++ second) older newer :=
  (List.singleton_sublist.mpr before).append (List.singleton_sublist.mpr after)

theorem Precedes.extend {items : List Item} {older newer : Item}
    (precedes : Precedes items older newer) (front back : List Item) :
    Precedes (front ++ items ++ back) older newer := by
  have within : items.Sublist (front ++ items ++ back) :=
    (List.sublist_append_right front items).trans (List.sublist_append_left _ back)
  exact precedes.trans within

theorem not_precedes_beginning {front back : List Item} {older newer : Item}
    (late : older ∉ front) (early : newer ∉ back) :
    ¬Precedes (front ++ back) older newer := by
  intro precedes
  obtain ⟨left, right, same, inFront, inBack⟩ := List.sublist_append_iff.mp precedes
  cases left with
  | nil =>
      rw [List.nil_append] at same
      subst same
      exact early (inBack.subset (List.mem_cons_of_mem older List.mem_cons_self))
  | cons head tail =>
      rw [List.cons_append] at same
      have first := (List.cons_eq_cons.mp same).1
      subst first
      exact late (inFront.subset List.mem_cons_self)

/-- A sequence in parts: what has come back, the pieces still held, in order, and the
rest, which was not handed out yet. -/
structure Parts (items returned : List Item) (holders : List Index)
    (piece : Index → List Item) (rest : List Item) : Prop where
  distinct : holders.Nodup
  holding : ∀ index, index ∈ holders ↔ piece index ≠ []
  whole : items = returned ++ holders.flatMap piece ++ rest

variable {items returned rest : List Item} {holders : List Index} {piece : Index → List Item}

theorem Parts.returned_prefix (parts : Parts items returned holders piece rest) :
    returned <+: items := by
  rw [parts.whole, List.append_assoc]
  exact List.prefix_append returned _

/-- A holder in front of whom nothing older is held is the first one. -/
theorem Parts.first_holder (parts : Parts items returned holders piece rest) {index : Index}
    (held : piece index ≠ [])
    (oldest : ∀ other, other ≠ index → ∀ older ∈ piece other, ∀ newer ∈ piece index,
      ¬Precedes items older newer) :
    ∃ later, holders = index :: later := by
  obtain ⟨front, later, split⟩ := List.mem_iff_append.mp ((parts.holding index).mpr held)
  cases front with
  | nil => exact ⟨later, split⟩
  | cons other between =>
      exfalso
      have member : other ∈ holders := by
        rw [split]
        exact List.mem_append_left _ List.mem_cons_self
      have different : other ≠ index := by
        intro same
        have distinct := parts.distinct
        rw [split, same, List.cons_append, List.nodup_cons] at distinct
        exact distinct.1 (List.mem_append_right _ List.mem_cons_self)
      obtain ⟨older, olderHeld⟩ := List.exists_mem_of_ne_nil _ ((parts.holding other).mp member)
      obtain ⟨newer, newerHeld⟩ := List.exists_mem_of_ne_nil _ held
      apply oldest other different older olderHeld newer newerHeld
      rw [parts.whole]
      apply Precedes.extend
      rw [split, List.flatMap_append]
      apply precedes_append
      · exact List.mem_flatMap.mpr ⟨other, List.mem_cons_self, olderHeld⟩
      · exact List.mem_flatMap.mpr ⟨index, List.mem_cons_self, newerHeld⟩

/-- A piece of distinct items that comes back in its place leaves nothing older behind. -/
theorem Parts.nothing_older (parts : Parts items returned holders piece rest)
    (single : items.Nodup) {index : Index} (inPlace : returned ++ piece index <+: items)
    {other : Index} (different : other ≠ index) {older newer : Item}
    (olderHeld : older ∈ piece other) (newerHeld : newer ∈ piece index) :
    ¬Precedes items older newer := by
  have otherHolds : other ∈ holders :=
    (parts.holding other).mpr (List.ne_nil_of_mem olderHeld)
  have indexHolds : index ∈ holders :=
    (parts.holding index).mpr (List.ne_nil_of_mem newerHeld)
  have whole := single
  rw [parts.whole, List.append_assoc, List.nodup_append] at whole
  obtain ⟨_, heldSingle, apart⟩ := whole
  have pieces := (List.nodup_flatMap.mp (List.nodup_append.mp heldSingle).1).2
  have late : older ∉ returned ++ piece index := by
    intro member
    rcases List.mem_append.mp member with back | mine
    · apply apart older back older _ rfl
      exact List.mem_append_left _ (List.mem_flatMap.mpr ⟨other, otherHolds, olderHeld⟩)
    · have symmetric : Std.Symm (Function.onFun List.Disjoint piece) :=
        ⟨fun _ _ apart => List.disjoint_symm apart⟩
      exact pieces.forall otherHolds indexHolds different olderHeld mine
  obtain ⟨back, same⟩ := inPlace
  rw [← same] at single ⊢
  apply not_precedes_beginning late
  intro again
  exact (List.nodup_append.mp single).2.2 newer (List.mem_append_right _ newerHeld) newer again rfl

end SpringExamples.Precedence
