/-
A view that is kept up to date by notifying its owner, who then fetches it anew.

The packets in flight are listed in the order in which they were sent.  Some of them will
lead to a fetch that is yet to be served; others carry a view that was fetched already.
When the carried views arrive in order, the last of them is what will be displayed.
-/

import Mathlib.Data.List.Basic

set_option autoImplicit false

namespace SpringExamples

structure Refreshing (Packet View : Type) where
  /-- The packet leads to a fetch that is yet to be served. -/
  refreshes : Packet → Prop
  carries : Packet → Option View

namespace Refreshing

variable {Packet View : Type} (refreshing : Refreshing Packet View)

def Underway (flight : List Packet) : Prop := ∃ packet ∈ flight, refreshing.refreshes packet

def upcoming (flight : List Packet) (displayed : View) : View :=
  (flight.filterMap refreshing.carries).getLastD displayed

/-- The owner will fetch the view again, or will display what is current anyway. -/
def Tracked (flight : List Packet) (displayed current : View) : Prop :=
  refreshing.Underway flight ∨ refreshing.upcoming flight displayed = current

instance decidableTracked [DecidablePred refreshing.refreshes] [DecidableEq View]
    (flight : List Packet) (displayed current : View) :
    Decidable (refreshing.Tracked flight displayed current) := by
  unfold Tracked Underway
  infer_instance

variable {refreshing} {before after flight added : List Packet} {packet : Packet}
  {displayed current view : View}

theorem displayed_of_quiet (tracked : refreshing.Tracked [] displayed current) :
    displayed = current := by
  rcases tracked with ⟨packet, impossible, _⟩ | same
  · cases impossible
  · exact same

theorem filterMap_silent (silent : ∀ packet ∈ added, refreshing.carries packet = none) :
    added.filterMap refreshing.carries = [] :=
  List.filterMap_eq_nil_iff.mpr silent

theorem tracked_of_underway (member : packet ∈ flight) (refreshes : refreshing.refreshes packet) :
    refreshing.Tracked flight displayed current :=
  Or.inl ⟨packet, member, refreshes⟩

/-- Sending packets that carry nothing. -/
theorem tracked_sent (tracked : refreshing.Tracked flight displayed current)
    (silent : ∀ packet ∈ added, refreshing.carries packet = none) :
    refreshing.Tracked (flight ++ added) displayed current := by
  rcases tracked with ⟨packet, member, refreshes⟩ | same
  · exact tracked_of_underway (List.mem_append_left added member) refreshes
  · apply Or.inr
    unfold upcoming at same ⊢
    rw [List.filterMap_append, filterMap_silent silent, List.append_nil]
    exact same

/-- The last packet carries what is current. -/
theorem tracked_answered (carried : refreshing.carries packet = some current) :
    refreshing.Tracked (flight ++ [packet]) displayed current := by
  apply Or.inr
  unfold upcoming
  rw [List.filterMap_append, List.filterMap_cons_some carried]
  exact List.getLastD_concat

theorem underway_delivered (idle : ¬refreshing.refreshes packet)
    (underway : refreshing.Underway (before ++ packet :: after)) :
    refreshing.Underway (before ++ after) := by
  obtain ⟨other, member, refreshes⟩ := underway
  rcases List.mem_append.mp member with early | late
  · exact ⟨other, List.mem_append_left after early, refreshes⟩
  · rcases List.mem_cons.mp late with same | later
    · rw [same] at refreshes
      exact absurd refreshes idle
    · exact ⟨other, List.mem_append_right before later, refreshes⟩

/-- Delivering a packet that has nothing to do with the view. -/
theorem tracked_delivered (tracked : refreshing.Tracked (before ++ packet :: after)
      displayed current)
    (idle : ¬refreshing.refreshes packet) (silent : refreshing.carries packet = none) :
    refreshing.Tracked (before ++ after) displayed current := by
  rcases tracked with underway | same
  · exact Or.inl (underway_delivered idle underway)
  · apply Or.inr
    unfold upcoming at same ⊢
    rw [List.filterMap_append, List.filterMap_cons_none silent] at same
    rw [List.filterMap_append]
    exact same

/-- Delivering the oldest of the views that are in flight. -/
theorem tracked_displayed (tracked : refreshing.Tracked (before ++ packet :: after)
      displayed current)
    (idle : ¬refreshing.refreshes packet) (carried : refreshing.carries packet = some view)
    (oldest : ∀ earlier ∈ before, refreshing.carries earlier = none) :
    refreshing.Tracked (before ++ after) view current := by
  rcases tracked with underway | same
  · exact Or.inl (underway_delivered idle underway)
  · apply Or.inr
    unfold upcoming at same ⊢
    rw [List.filterMap_append, filterMap_silent oldest, List.nil_append] at same ⊢
    rw [List.filterMap_cons_some carried, List.getLastD_cons] at same
    exact same

end Refreshing

end SpringExamples
