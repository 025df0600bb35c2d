/-
The order in which concurrent calls broadcast.

The queue is first in, first out, and a drain takes all of it, so the drained lists
are consecutive pieces of what was added.  Each is held in a local variable between
the drain and the broadcast, and nothing makes the thread that drained first
broadcast first.
-/

import SpringExamples.Foundation.Precedence
import SpringExamples.Comet.ConcurrentAdapter

set_option autoImplicit false

namespace SpringExamples.Comet.ConcurrentAdapter

open Runs Precedence

variable {Item Broadcaster Index : Type}

/-- What was broadcast, joined in the order of the broadcasts, begins what was added. -/
def InOrder (threads : Threads Index Item Broadcaster) : Prop :=
  threads.shared.broadcasts.flatten <+: threads.shared.added

/-- A list is broadcast only while no other thread holds a message that was added before
one of its messages. -/
def InTurn (threads : Threads Index Item Broadcaster)
    (label : Index × Choice Item Broadcaster) : Prop :=
  label.2 = .proceed → ∀ b broadcastMessages,
    threads.locals label.1 = .broadcast b broadcastMessages →
      ∀ other, other ≠ label.1 → ∀ older ∈ (threads.locals other).drained,
        ∀ newer ∈ broadcastMessages, ¬Precedes threads.shared.added older newer

def Pieces (threads : Threads Index Item Broadcaster) (holders : List Index) : Prop :=
  Parts threads.shared.added threads.shared.broadcasts.flatten holders
    (fun index => (threads.locals index).drained) threads.shared.messageQueue

theorem pieces_started (broadcaster : Option Broadcaster) :
    Pieces (started broadcaster : Threads Index Item Broadcaster) [] where
  distinct := List.nodup_nil
  holding := by
    intro index
    exact iff_of_false List.not_mem_nil fun held => held rfl
  whole := rfl

theorem in_order_of_pieces {threads : Threads Index Item Broadcaster} {holders : List Index}
    (pieces : Pieces threads holders) : InOrder threads :=
  pieces.returned_prefix

section Steps

variable [DecidableEq Index]

/-- A thread that drains nothing and hands nothing over leaves the pieces as they are. -/
theorem pieces_of_kept {threads : Threads Index Item Broadcaster} {holders : List Index}
    (pieces : Pieces threads holders) {mover : Index} {shared : Shared Item Broadcaster}
    {point : Point Item Broadcaster} (recent : List Item)
    (held : point.drained = (threads.locals mover).drained)
    (queued : shared.messageQueue = threads.shared.messageQueue ++ recent)
    (added : shared.added = threads.shared.added ++ recent)
    (same : shared.broadcasts = threads.shared.broadcasts) :
    Pieces { shared := shared, locals := Function.update threads.locals mover point } holders := by
  have drained : (fun index => (Function.update threads.locals mover point index).drained) =
      fun index => (threads.locals index).drained := by
    funext index
    by_cases own : index = mover
    · rw [own, Function.update_self, held]
    · rw [Function.update_of_ne own]
  unfold Pieces
  rw [drained]
  constructor
  · exact pieces.distinct
  · exact pieces.holding
  · change shared.added = shared.broadcasts.flatten ++ _ ++ shared.messageQueue
    rw [added, same, queued, pieces.whole, List.append_assoc _ threads.shared.messageQueue]

theorem flatMap_update_of_not_mem {locals : Index → Point Item Broadcaster} {mover : Index}
    (point : Point Item Broadcaster) {holders : List Index} (absent : mover ∉ holders) :
    (holders.flatMap fun index => (Function.update locals mover point index).drained) =
      holders.flatMap fun index => (locals index).drained := by
  apply List.flatMap_congr
  intro index member
  have other : index ≠ mover := fun same => absent (same ▸ member)
  rw [Function.update_of_ne other]

theorem pieces_drain {threads : Threads Index Item Broadcaster} {holders : List Index}
    (pieces : Pieces threads holders) {mover : Index} (b : Broadcaster)
    (empty : (threads.locals mover).drained = []) :
    ∃ holders', Pieces
      { shared := { threads.shared with messageQueue := [] }
        locals := Function.update threads.locals mover
          (.broadcast b threads.shared.messageQueue) } holders' := by
  have absent : mover ∉ holders := fun member => (pieces.holding mover).mp member empty
  by_cases nothing : threads.shared.messageQueue = []
  · refine ⟨holders, pieces_of_kept pieces [] ?_ ?_ ?_ rfl⟩
    · rw [empty, nothing]
      rfl
    · rw [nothing]
      rfl
    · rw [List.append_nil]
  · refine ⟨holders ++ [mover], ?_, ?_, ?_⟩
    · exact List.nodup_append.mpr ⟨pieces.distinct, List.nodup_singleton mover,
        fun index member other single => by
          rw [List.mem_singleton] at single
          intro same
          exact absent (single ▸ same ▸ member)⟩
    · intro index
      change index ∈ holders ++ [mover] ↔
        (Function.update threads.locals mover (.broadcast b threads.shared.messageQueue)
          index).drained ≠ []
      rw [List.mem_append, List.mem_singleton]
      by_cases own : index = mover
      · subst own
        rw [Function.update_self]
        exact iff_of_true (Or.inr rfl) nothing
      · rw [Function.update_of_ne own, pieces.holding index]
        exact or_iff_left own
    · change threads.shared.added = threads.shared.broadcasts.flatten ++
        ((holders ++ [mover]).flatMap fun index => (Function.update threads.locals mover
          (.broadcast b threads.shared.messageQueue) index).drained) ++ []
      rw [List.flatMap_append, flatMap_update_of_not_mem _ absent, List.flatMap_singleton,
        Function.update_self, pieces.whole, List.append_nil, List.append_assoc]
      rfl

theorem pieces_hand {threads : Threads Index Item Broadcaster} {holders : List Index}
    (pieces : Pieces threads holders) {mover : Index} (b : Broadcaster)
    {messages : List Item} (stands : threads.locals mover = .broadcast b messages)
    (first : ∃ later, holders = mover :: later) :
    ∃ holders', Pieces
      { shared := { threads.shared with broadcasts := threads.shared.broadcasts ++ [messages] }
        locals := Function.update threads.locals mover .awaitFuture } holders' := by
  obtain ⟨later, split⟩ := first
  subst split
  obtain ⟨absent, distinct⟩ := List.nodup_cons.mp pieces.distinct
  refine ⟨later, distinct, ?_, ?_⟩
  · intro index
    change index ∈ later ↔ (Function.update threads.locals mover .awaitFuture index).drained ≠ []
    by_cases own : index = mover
    · subst own
      rw [Function.update_self]
      exact iff_of_false absent fun held => held rfl
    · rw [Function.update_of_ne own, ← pieces.holding index, List.mem_cons]
      exact (or_iff_right own).symm
  · change threads.shared.added =
      (threads.shared.broadcasts ++ [messages]).flatten ++ _ ++ threads.shared.messageQueue
    rw [flatMap_update_of_not_mem _ absent, pieces.whole, List.flatMap_cons, stands,
      List.flatten_append, List.flatten_singleton, List.append_assoc _ messages]
    rfl

/-- Each step but a broadcast keeps the pieces in order; a broadcast does if the piece is
the first one. -/
theorem pieces_step {messageThreshold : Int} {threads next : Threads Index Item Broadcaster}
    {label : Index × Choice Item Broadcaster} {holders : List Index}
    (pieces : Pieces threads holders) (turn : InTurn threads label)
    (moved : threadStep messageThreshold threads label = some next) :
    ∃ holders', Pieces next holders' := by
  obtain ⟨shared, point, acted, same⟩ := Pool.step_some (act messageThreshold) moved
  subst same
  have acts := act_acts acted
  unfold InTurn at turn
  generalize stands : threads.locals label.1 = old at acts turn
  generalize label.2 = choice at acts turn
  have held : (threads.locals label.1).drained = old.drained := by rw [stands]
  have keep : ∀ shared' point', point'.drained = old.drained →
      shared'.messageQueue = threads.shared.messageQueue →
      shared'.added = threads.shared.added →
      shared'.broadcasts = threads.shared.broadcasts →
      ∃ holders', Pieces
        { shared := shared', locals := Function.update threads.locals label.1 point' }
        holders' := by
    intro shared' point' drained queued added broadcasts
    exact ⟨holders, pieces_of_kept pieces [] (drained.trans held.symm)
      (by rw [queued, List.append_nil]) (by rw [added, List.append_nil]) broadcasts⟩
  cases acts with
  | add message => exact ⟨holders, pieces_of_kept pieces [message] held.symm rfl rfl rfl⟩
  | reached enough => exact keep _ _ rfl rfl rfl rfl
  | below short => exact keep _ _ rfl rfl rfl rfl
  | missing empty => exact keep _ _ rfl rfl rfl rfl
  | cached b present => exact keep _ _ rfl rfl rfl rfl
  | store found => exact keep _ _ rfl rfl rfl rfl
  | unavailable empty => exact keep _ _ rfl rfl rfl rfl
  | available b present => exact keep _ _ rfl rfl rfl rfl
  | drain b => exact pieces_drain pieces b held
  | hand b messages nonempty =>
      apply pieces_hand pieces b stands
      apply pieces.first_holder
      · rw [stands]
        exact nonempty
      · rw [stands]
        exact turn rfl b messages rfl
  | nothing b => exact keep _ _ rfl rfl rfl rfl
  | finish => exact keep _ _ rfl rfl rfl rfl

/-- A broadcast that is in order leaves no older message behind. -/
theorem in_turn_of_in_order {messageThreshold : Int} {threads : Threads Index Item Broadcaster}
    {label : Index × Choice Item Broadcaster} {holders : List Index}
    (pieces : Pieces threads holders) (single : threads.shared.added.Nodup)
    (right : ∀ next, threadStep messageThreshold threads label = some next → InOrder next) :
    InTurn threads label := by
  intro proceeds b messages stands other different older olderHeld newer newerHeld
  have filled : messages.length > 0 := List.length_pos_of_mem newerHeld
  have acted : act messageThreshold threads.shared (threads.locals label.1) label.2 =
      some ({ threads.shared with broadcasts := threads.shared.broadcasts ++ [messages] },
        .awaitFuture) := by
    rw [stands, proceeds]
    simp only [act, if_pos filled]
  have after := right _ (Pool.step_of_act (act messageThreshold) acted)
  have piece : (threads.locals label.1).drained = messages := by
    rw [stands]
    rfl
  apply pieces.nothing_older single _ different olderHeld (piece.symm ▸ newerHeld)
  rw [piece]
  change (threads.shared.broadcasts ++ [messages]).flatten <+: threads.shared.added at after
  rw [List.flatten_append, List.flatten_singleton] at after
  exact after

theorem in_order_of_in_turn {messageThreshold : Int} {threads : Threads Index Item Broadcaster}
    {labels : List (Index × Choice Item Broadcaster)}
    (start : ∃ holders, Pieces threads holders)
    (turns : Along (threadStep messageThreshold) InTurn threads labels) :
    Throughout (threadStep messageThreshold) InOrder threads labels := by
  apply throughout_of_along (threadStep messageThreshold)
    (fun threads => ∃ holders, Pieces threads holders) InTurn _ _ start turns
  · intro threads label next given turn moved
    obtain ⟨holders, pieces⟩ := given
    exact pieces_step pieces turn moved
  · intro threads given
    obtain ⟨holders, pieces⟩ := given
    exact in_order_of_pieces pieces

/-- The messages still to come are different from each other and from those added. -/
theorem in_turn_of_run {messageThreshold : Int} {threads : Threads Index Item Broadcaster}
    {labels : List (Index × Choice Item Broadcaster)}
    (start : ∃ holders, Pieces threads holders)
    (single : (threads.shared.added ++
      labels.filterMap fun label => label.2.handled).Nodup)
    (always : Throughout (threadStep messageThreshold) InOrder threads labels) :
    Along (threadStep messageThreshold) InTurn threads labels := by
  induction labels generalizing threads with
  | nil => trivial
  | cons label rest ih =>
      obtain ⟨holders, pieces⟩ := start
      have turn : InTurn threads label := by
        apply in_turn_of_in_order pieces (List.nodup_append.mp single).1
        intro next moved
        exact throughout_start (threadStep messageThreshold) (always.2 next moved)
      refine ⟨turn, fun next moved => ?_⟩
      apply ih (pieces_step pieces turn moved) _ (always.2 next moved)
      rw [added_step moved, List.append_assoc]
      simp only [List.filterMap_eq_flatMap_toList, List.flatMap_cons] at single ⊢
      exact single

/-- If every broadcast of a run is made in turn, the broadcasts are in order in each state
of the run; and when every call adds an object of its own, only then. -/
theorem in_order_iff_in_turn (messageThreshold : Int) (broadcaster : Option Broadcaster)
    (labels : List (Index × Choice Item Broadcaster)) :
    (Along (threadStep messageThreshold) InTurn (started broadcaster) labels →
        Throughout (threadStep messageThreshold) InOrder (started broadcaster) labels) ∧
      ((labels.filterMap fun label => label.2.handled).Nodup →
        Throughout (threadStep messageThreshold) InOrder (started broadcaster) labels →
          Along (threadStep messageThreshold) InTurn (started broadcaster) labels) := by
  constructor
  · exact in_order_of_in_turn ⟨[], pieces_started broadcaster⟩
  · intro single
    exact in_turn_of_run ⟨[], pieces_started broadcaster⟩ single

end Steps

/-- The second thread drains the later message and broadcasts it first. -/
theorem overtaken_batch :
    ¬Throughout (threadStep 1) InOrder (started (some 7) : Threads (Fin 2) String Nat)
      [(0, .handle "a"), (0, .proceed), (0, .proceed), (0, .proceed), (0, .proceed),
        (1, .handle "b"), (1, .proceed), (1, .proceed), (1, .proceed), (1, .proceed),
        (1, .proceed)] := by
  intro always
  obtain ⟨last, ran, disordered⟩ := exists_run_of_any (threadStep 1)
    (started (some 7) : Threads (Fin 2) String Nat)
    [(0, .handle "a"), (0, .proceed), (0, .proceed), (0, .proceed), (0, .proceed),
      (1, .handle "b"), (1, .proceed), (1, .proceed), (1, .proceed), (1, .proceed),
      (1, .proceed)]
    (fun last => ¬last.shared.broadcasts.flatten <+: last.shared.added) (by decide)
  exact disordered (throughout_last (threadStep 1) always ran)

end SpringExamples.Comet.ConcurrentAdapter
