/-
Restarts in the middle of running calls.

`doStart` puts a new queue into the field, and a call reads the field anew for each use of the
queue, so a call can still hold a queue that is no longer in the field.  Each use is cut into
the reading and the operation; while nobody restarts, the cut does not show.  Stopping and
starting again is one step here: in between the queue and the field are left alone.
-/

import SpringExamples.Comet.ConcurrentAdapter

set_option autoImplicit false

namespace SpringExamples.Comet.RestartedAdapter

open Runs

variable {Item Broadcaster : Type}

structure Shared (Item Broadcaster : Type) where
  /-- The queues that `doStart` has made or will make, by number. -/
  queues : Nat → List Item
  /-- The number of the queue in the field. -/
  messageQueue : Nat
  broadcaster : Option Broadcaster
  added : List Item
  broadcasts : List (List Item)

inductive Point (Item Broadcaster : Type) where
  | idle
  | add (queue : Nat) (message : Item)
  | size
  | sizeTest (queue : Nat)
  | readField
  | lookup
  | returnField
  | drain (b : Broadcaster)
  | drainTo (queue : Nat) (b : Broadcaster)
  | broadcast (b : Broadcaster) (broadcastMessages : List Item)
  | awaitFuture

inductive Choice (Item Broadcaster : Type) where
  | handle (message : Item)
  | answer (found : Option Broadcaster)
  | proceed
  /-- The endpoint is stopped and started again. -/
  | restart

def Shared.withQueue (shared : Shared Item Broadcaster) (queue : Nat) (items : List Item) :
    Shared Item Broadcaster :=
  { shared with queues := Function.update shared.queues queue items }

@[simp] theorem withQueue_self (shared : Shared Item Broadcaster) (queue : Nat)
    (items : List Item) : (shared.withQueue queue items).queues queue = items := by
  unfold Shared.withQueue
  dsimp only
  rw [Function.update_self]

theorem withQueue_of_ne (shared : Shared Item Broadcaster) {queue other : Nat}
    (different : other ≠ queue) (items : List Item) :
    (shared.withQueue queue items).queues other = shared.queues other := by
  unfold Shared.withQueue
  dsimp only
  rw [Function.update_of_ne different]

/-- Draining a queue fills none. -/
theorem withQueue_nil {shared : Shared Item Broadcaster} {other : Nat}
    (empty : shared.queues other = []) (queue : Nat) :
    (shared.withQueue queue []).queues other = [] := by
  by_cases same : other = queue
  · rw [same, withQueue_self]
  · rw [withQueue_of_ne shared same, empty]

def act (messageThreshold : Int) (shared : Shared Item Broadcaster) :
    Point Item Broadcaster → Choice Item Broadcaster →
      Option (Shared Item Broadcaster × Point Item Broadcaster)
  | .idle, .handle message => some (shared, .add shared.messageQueue message)
  | .idle, .restart => some ({ shared with messageQueue := shared.messageQueue + 1 }, .idle)
  | .add queue message, .proceed =>
      some ({ shared.withQueue queue (shared.queues queue ++ [message]) with
        added := shared.added ++ [message] }, .size)
  | .size, .proceed => some (shared, .sizeTest shared.messageQueue)
  | .sizeTest queue, .proceed =>
      if ((shared.queues queue).length : Int) ≥ messageThreshold then some (shared, .readField)
      else some (shared, .idle)
  | .readField, .proceed =>
      match shared.broadcaster with
      | none => some (shared, .lookup)
      | some _ => some (shared, .returnField)
  | .lookup, .answer found => some ({ shared with broadcaster := found }, .returnField)
  | .returnField, .proceed =>
      match shared.broadcaster with
      | none => some (shared, .idle)
      | some b => some (shared, .drain b)
  | .drain b, .proceed => some (shared, .drainTo shared.messageQueue b)
  | .drainTo queue b, .proceed =>
      some (shared.withQueue queue [], .broadcast b (shared.queues queue))
  | .broadcast _ broadcastMessages, .proceed =>
      if broadcastMessages.length > 0 then
        some ({ shared with broadcasts := shared.broadcasts ++ [broadcastMessages] },
          .awaitFuture)
      else some (shared, .idle)
  | .awaitFuture, .proceed => some (shared, .idle)
  | _, _ => none

/-- The queue that the call has read from the field and uses next. -/
def Point.queue : Point Item Broadcaster → Option Nat
  | .add queue _ => some queue
  | .sizeTest queue => some queue
  | .drainTo queue _ => some queue
  | _ => none

def Point.drained : Point Item Broadcaster → List Item
  | .broadcast _ broadcastMessages => broadcastMessages
  | _ => []

/-- The message that the call is about to add. -/
def Point.adding : Point Item Broadcaster → List Item
  | .add _ message => [message]
  | _ => []

def Choice.handled : Choice Item Broadcaster → Option Item
  | .handle message => some message
  | _ => none

def Choice.restarts : Choice Item Broadcaster → Bool
  | .restart => true
  | _ => false

/-- What a step can do to the queues, to the field and to what the call holds. -/
inductive Acts (shared : Shared Item Broadcaster) : Point Item Broadcaster →
    Choice Item Broadcaster → Shared Item Broadcaster → Point Item Broadcaster → Prop where
  | read (point : Point Item Broadcaster) (choice : Choice Item Broadcaster)
      (point' : Point Item Broadcaster) (holds : point'.queue = some shared.messageQueue)
      (before : point.drained = []) (after : point'.drained = []) (added : point.adding = [])
      (given : point'.adding = choice.handled.toList) :
      Acts shared point choice shared point'
  | restart :
      Acts shared .idle .restart { shared with messageQueue := shared.messageQueue + 1 } .idle
  | add (queue : Nat) (message : Item) :
      Acts shared (.add queue message) .proceed
        { shared.withQueue queue (shared.queues queue ++ [message]) with
          added := shared.added ++ [message] } .size
  | drainTo (queue : Nat) (b : Broadcaster) :
      Acts shared (.drainTo queue b) .proceed
        (shared.withQueue queue []) (.broadcast b (shared.queues queue))
  | hand (b : Broadcaster) (messages : List Item) :
      Acts shared (.broadcast b messages) .proceed
        { shared with broadcasts := shared.broadcasts ++ [messages] } .awaitFuture
  /-- Only the place in the call or the field of the broadcaster changes. -/
  | move (point : Point Item Broadcaster) (choice : Choice Item Broadcaster)
      (found : Option Broadcaster) (point' : Point Item Broadcaster)
      (holds : point'.queue = none) (before : point.drained = []) (after : point'.drained = [])
      (added : point.adding = []) (given : point'.adding = choice.handled.toList) :
      Acts shared point choice { shared with broadcaster := found } point'

theorem act_acts {messageThreshold : Int} {shared shared' : Shared Item Broadcaster}
    {point point' : Point Item Broadcaster} {choice : Choice Item Broadcaster}
    (acted : act messageThreshold shared point choice = some (shared', point')) :
    Acts shared point choice shared' point' := by
  unfold act at acted
  split at acted
  · cases acted
    exact .read _ _ _ rfl rfl rfl rfl rfl
  · cases acted
    exact .restart
  · cases acted
    exact .add _ _
  · cases acted
    exact .read _ _ _ rfl rfl rfl rfl rfl
  · split at acted
    · cases acted
      exact .move _ _ _ _ rfl rfl rfl rfl rfl
    · cases acted
      exact .move _ _ _ _ rfl rfl rfl rfl rfl
  · split at acted
    · cases acted
      exact .move _ _ _ _ rfl rfl rfl rfl rfl
    · cases acted
      exact .move _ _ _ _ rfl rfl rfl rfl rfl
  · cases acted
    exact .move _ _ _ _ rfl rfl rfl rfl rfl
  · split at acted
    · cases acted
      exact .move _ _ _ _ rfl rfl rfl rfl rfl
    · cases acted
      exact .move _ _ _ _ rfl rfl rfl rfl rfl
  · cases acted
    exact .read _ _ _ rfl rfl rfl rfl rfl
  · cases acted
    exact .drainTo _ _
  · split at acted
    · cases acted
      exact .hand _ _
    · rename_i b messages unfilled
      cases acted
      have empty : messages = [] := List.eq_nil_of_length_eq_zero (by omega)
      exact .move _ _ _ _ rfl empty rfl rfl rfl
  · cases acted
    exact .move _ _ _ _ rfl rfl rfl rfl rfl
  · cases acted

/-- What all the queues made so far hold. -/
def Shared.stored (shared : Shared Item Broadcaster) : Multiset Item :=
  ∑ queue ∈ Finset.range (shared.messageQueue + 1), (shared.queues queue : Multiset Item)

theorem stored_update (shared : Shared Item Broadcaster) {queue : Nat}
    (made : queue ≤ shared.messageQueue) (items : List Item) :
    (shared.withQueue queue items).stored + (shared.queues queue : Multiset Item) =
      shared.stored + (items : Multiset Item) :=
  Pool.sum_update_of_mem (fun items : List Item => (items : Multiset Item)) shared.queues items
    (Finset.mem_range.mpr (Nat.lt_succ_of_le made))

/-- The queues that were not made yet are empty. -/
def Shared.Unmade (shared : Shared Item Broadcaster) : Prop :=
  ∀ queue, shared.messageQueue < queue → shared.queues queue = []

def Point.Holds (shared : Shared Item Broadcaster) (point : Point Item Broadcaster) : Prop :=
  ∀ queue, point.queue = some queue → queue ≤ shared.messageQueue

def Shared.NothingLeft (shared : Shared Item Broadcaster) : Prop :=
  ∀ queue < shared.messageQueue, shared.queues queue = []

/-- A restart finds the queue empty, and a message is added to the queue that is in the field. -/
def Shared.Spares (shared : Shared Item Broadcaster) :
    Point Item Broadcaster → Choice Item Broadcaster → Prop
  | .idle, .restart => shared.queues shared.messageQueue = []
  | .add queue _, .proceed => queue = shared.messageQueue
  | _, _ => True

section Steps

variable {shared shared' : Shared Item Broadcaster} {point point' : Point Item Broadcaster}
  {choice : Choice Item Broadcaster}

theorem made_of_acts (acts : Acts shared point choice shared' point') :
    shared.messageQueue ≤ shared'.messageQueue := by
  cases acts with
  | restart => exact Nat.le_succ _
  | _ => exact le_rfl

theorem unmade_of_acts (acts : Acts shared point choice shared' point')
    (unmade : shared.Unmade) (holds : point.Holds shared) : shared'.Unmade := by
  cases acts with
  | read => exact unmade
  | restart =>
      intro queue later
      exact unmade queue (Nat.lt_of_succ_lt later)
  | add queue message =>
      intro other later
      have made := holds queue rfl
      have different : other ≠ queue := by
        intro same
        subst same
        exact absurd made (Nat.not_le.mpr later)
      exact (withQueue_of_ne shared different _).trans (unmade other later)
  | drainTo queue b =>
      intro other later
      exact withQueue_nil (unmade other later) queue
  | hand => exact unmade
  | move => exact unmade

theorem holds_of_acts (acts : Acts shared point choice shared' point') : point'.Holds shared' := by
  intro queue held
  cases acts with
  | read _ _ _ holds =>
      rw [holds] at held
      cases held
      exact le_rfl
  | restart => cases held
  | add => cases held
  | drainTo => cases held
  | hand => cases held
  | move _ _ _ _ holds =>
      rw [holds] at held
      cases held

/-- Each step books a message where it goes. -/
theorem booked_of_acts (acts : Acts shared point choice shared' point') (unmade : shared.Unmade)
    (holds : point.Holds shared) :
    shared'.stored + (shared'.broadcasts.flatten : Multiset Item) +
        (point'.drained : Multiset Item) + (shared.added : Multiset Item) =
      shared.stored + (shared.broadcasts.flatten : Multiset Item) +
        (point.drained : Multiset Item) + (shared'.added : Multiset Item) := by
  cases acts with
  | read _ _ _ _ before after => rw [before, after]
  | restart =>
      have fresh : { shared with messageQueue := shared.messageQueue + 1 }.stored =
          shared.stored := by
        unfold Shared.stored
        rw [Finset.sum_range_succ, unmade _ (Nat.lt_succ_self _)]
        exact add_zero _
      rw [fresh]
  | add queue message =>
      have stored := stored_update shared (holds queue rfl) (shared.queues queue ++ [message])
      rw [← Multiset.coe_add, ← add_assoc, add_right_comm] at stored
      have grown := add_right_cancel stored
      change (shared.withQueue queue (shared.queues queue ++ [message])).stored + _ + _ + _ = _
      rw [grown]
      simp only [Point.drained, ← Multiset.coe_add]
      ac_rfl
  | drainTo queue b =>
      have stored := stored_update shared (holds queue rfl) []
      rw [Multiset.coe_nil, add_zero] at stored
      simp only [Point.drained, Multiset.coe_nil, add_zero]
      rw [← stored]
      ac_rfl
  | hand b messages =>
      simp only [Point.drained, Multiset.coe_nil, add_zero, List.flatten_append,
        List.flatten_singleton, ← Multiset.coe_add]
      change shared.stored + _ + _ = _
      ac_rfl
  | move _ _ _ _ _ before after =>
      rw [before, after]
      rfl

/-- What a call was given it has added or is about to add. -/
theorem given_of_acts (acts : Acts shared point choice shared' point') :
    (shared'.added : Multiset Item) + (point'.adding : Multiset Item) =
      (shared.added : Multiset Item) + (point.adding : Multiset Item) +
        (choice.handled.toList : Multiset Item) := by
  cases acts with
  | read _ _ _ _ _ _ added given =>
      rw [added, given, Multiset.coe_nil, add_zero]
  | restart => exact (add_zero _).symm
  | add queue message =>
      rw [← Multiset.coe_add]
      rfl
  | drainTo queue b => exact (add_zero _).symm
  | hand b messages => exact (add_zero _).symm
  | move _ _ _ _ _ _ _ added given =>
      rw [added, given, Multiset.coe_nil, add_zero]

/-- A step leaves a queue alone that is not in the field and that its call does not hold. -/
theorem abandoned_of_acts (acts : Acts shared point choice shared' point') {queue : Nat}
    (replaced : queue < shared.messageQueue) (released : point.queue ≠ some queue) :
    (queue < shared'.messageQueue ∧ shared'.queues queue = shared.queues queue) ∧
      point'.queue ≠ some queue := by
  cases acts with
  | read _ _ _ holds =>
      refine ⟨⟨replaced, rfl⟩, ?_⟩
      rw [holds]
      intro same
      exact absurd (Option.some.inj same) (Nat.ne_of_gt replaced)
  | restart => exact ⟨⟨Nat.lt_succ_of_lt replaced, rfl⟩, released⟩
  | add held message =>
      have different : queue ≠ held := fun same => released (congrArg some same.symm)
      refine ⟨⟨replaced, withQueue_of_ne shared different _⟩, ?_⟩
      intro same
      cases same
  | drainTo held b =>
      have different : queue ≠ held := fun same => released (congrArg some same.symm)
      refine ⟨⟨replaced, withQueue_of_ne shared different _⟩, ?_⟩
      intro same
      cases same
  | hand b messages => exact ⟨⟨replaced, rfl⟩, released⟩
  | move _ _ _ _ holds =>
      refine ⟨⟨replaced, rfl⟩, ?_⟩
      rw [holds]
      intro same
      cases same

theorem nothingLeft_of_acts (acts : Acts shared point choice shared' point')
    (nothing : shared.NothingLeft) (spares : shared.Spares point choice) :
    shared'.NothingLeft := by
  cases acts with
  | read => exact nothing
  | restart =>
      intro queue replaced
      rcases Nat.lt_succ_iff_lt_or_eq.mp replaced with earlier | last
      · exact nothing queue earlier
      · rw [last]
        exact spares
  | add held message =>
      intro queue replaced
      have different : queue ≠ held := by
        intro same
        rw [same, spares] at replaced
        exact lt_irrefl _ replaced
      exact (withQueue_of_ne shared different _).trans (nothing queue replaced)
  | drainTo held b =>
      intro queue replaced
      exact withQueue_nil (nothing queue replaced) held
  | hand => exact nothing
  | move => exact nothing

theorem spares_of_kept {messageThreshold : Int} (holds : point.Holds shared)
    (kept : ∀ after place, act messageThreshold shared point choice = some (after, place) →
      after.NothingLeft) : shared.Spares point choice := by
  unfold Shared.Spares
  split
  · exact kept _ _ rfl shared.messageQueue (Nat.lt_succ_self _)
  · rename_i queue message
    by_contra other
    have replaced : queue < shared.messageQueue := lt_of_le_of_ne (holds queue rfl) other
    have left : (shared.withQueue queue (shared.queues queue ++ [message])).queues queue = [] :=
      kept _ _ rfl queue replaced
    rw [withQueue_self] at left
    exact List.concat_ne_nil message _ left
  · trivial

end Steps

section WithoutRestarts

def sharedOf (shared : ConcurrentAdapter.Shared Item Broadcaster) : Shared Item Broadcaster :=
  { queues := Function.update (fun _ => []) 0 shared.messageQueue
    messageQueue := 0
    broadcaster := shared.broadcaster
    added := shared.added
    broadcasts := shared.broadcasts }

def pointOf : ConcurrentAdapter.Point Item Broadcaster → Point Item Broadcaster
  | .idle => .idle
  | .sizeTest => .size
  | .readField => .readField
  | .lookup => .lookup
  | .returnField => .returnField
  | .drainTo b => .drain b
  | .broadcast b broadcastMessages => .broadcast b broadcastMessages
  | .awaitFuture => .awaitFuture

/-- A use of the queue becomes the reading of the field and the operation. -/
def choicesOf : ConcurrentAdapter.Point Item Broadcaster →
    ConcurrentAdapter.Choice Item Broadcaster → List (Choice Item Broadcaster)
  | _, .handle message => [.handle message, .proceed]
  | .sizeTest, .proceed => [.proceed, .proceed]
  | .drainTo _, .proceed => [.proceed, .proceed]
  | _, .answer found => [.answer found]
  | _, .proceed => [.proceed]

theorem solo_choicesOf {messageThreshold : Int}
    {shared shared' : ConcurrentAdapter.Shared Item Broadcaster}
    {point point' : ConcurrentAdapter.Point Item Broadcaster}
    {choice : ConcurrentAdapter.Choice Item Broadcaster}
    (acts : ConcurrentAdapter.Acts messageThreshold shared point choice shared' point') :
    run (Pool.solo (act messageThreshold)) (sharedOf shared, pointOf point)
        (choicesOf point choice) = some (sharedOf shared', pointOf point') := by
  cases acts with
  | add message =>
      simp [choicesOf, run_cons, Pool.solo, act, pointOf, sharedOf, Shared.withQueue]
  | reached enough =>
      simp [choicesOf, run_cons, Pool.solo, act, pointOf, sharedOf, enough]
  | below short =>
      simp [choicesOf, run_cons, Pool.solo, act, pointOf, sharedOf, short]
  | missing empty =>
      simp [choicesOf, run_cons, Pool.solo, act, pointOf, sharedOf, empty]
  | cached b present =>
      simp [choicesOf, run_cons, Pool.solo, act, pointOf, sharedOf, present]
  | store found => rfl
  | unavailable empty =>
      simp [choicesOf, run_cons, Pool.solo, act, pointOf, sharedOf, empty]
  | available b present =>
      simp [choicesOf, run_cons, Pool.solo, act, pointOf, sharedOf, present]
  | drain b =>
      simp [choicesOf, run_cons, Pool.solo, act, pointOf, sharedOf, Shared.withQueue]
  | hand b messages nonempty =>
      simp [choicesOf, run_cons, Pool.solo, act, pointOf, sharedOf,
        List.length_pos_of_ne_nil nonempty]
  | nothing b => rfl
  | finish => rfl

theorem restarts_of_mem_choicesOf {point : ConcurrentAdapter.Point Item Broadcaster}
    {choice : ConcurrentAdapter.Choice Item Broadcaster} {choice' : Choice Item Broadcaster}
    (member : choice' ∈ choicesOf point choice) : choice'.restarts = false := by
  have told : (choicesOf point choice).all (fun choice => !choice.restarts) = true := by
    cases choice with
    | handle message => rfl
    | answer found => cases point <;> rfl
    | proceed => cases point <;> rfl
  exact Bool.not_eq_true' _ |>.mp (List.all_eq_true.mp told choice' member)

/-- The queue in the field stands for all of them. -/
def Shared.coarse (shared : Shared Item Broadcaster) : ConcurrentAdapter.Shared Item Broadcaster :=
  { messageQueue := shared.queues shared.messageQueue
    broadcaster := shared.broadcaster
    added := shared.added
    broadcasts := shared.broadcasts }

/-- Having read the field counts as standing before the use of the queue. -/
def Point.coarse : Point Item Broadcaster → ConcurrentAdapter.Point Item Broadcaster
  | .idle => .idle
  | .add _ _ => .idle
  | .size => .sizeTest
  | .sizeTest _ => .sizeTest
  | .readField => .readField
  | .lookup => .lookup
  | .returnField => .returnField
  | .drain b => .drainTo b
  | .drainTo _ b => .drainTo b
  | .broadcast b broadcastMessages => .broadcast b broadcastMessages
  | .awaitFuture => .awaitFuture

def Point.HoldsField (shared : Shared Item Broadcaster) (point : Point Item Broadcaster) : Prop :=
  ∀ queue, point.queue = some queue → queue = shared.messageQueue

theorem coarse_of_act {messageThreshold : Int} {shared shared' : Shared Item Broadcaster}
    {point point' : Point Item Broadcaster} {choice : Choice Item Broadcaster}
    (holds : point.HoldsField shared) (stays : choice.restarts = false)
    (acted : act messageThreshold shared point choice = some (shared', point')) :
    (shared'.coarse = shared.coarse ∧ point'.coarse = point.coarse) ∨
      ∃ choice', ConcurrentAdapter.act messageThreshold shared.coarse point.coarse choice' =
        some (shared'.coarse, point'.coarse) := by
  unfold act at acted
  split at acted
  · cases acted
    exact Or.inl ⟨rfl, rfl⟩
  · cases stays
  · rename_i queue message
    cases acted
    have field := holds queue rfl
    subst field
    refine Or.inr ⟨.handle message, ?_⟩
    simp [ConcurrentAdapter.act, Shared.coarse, Point.coarse, Shared.withQueue]
  · cases acted
    exact Or.inl ⟨rfl, rfl⟩
  · rename_i queue
    have field := holds queue rfl
    subst field
    split at acted
    · rename_i enough
      cases acted
      exact Or.inr ⟨.proceed, if_pos enough⟩
    · rename_i short
      cases acted
      exact Or.inr ⟨.proceed, if_neg short⟩
  · split at acted
    · rename_i empty
      cases acted
      refine Or.inr ⟨.proceed, ?_⟩
      simp [ConcurrentAdapter.act, Shared.coarse, Point.coarse, empty]
    · rename_i b present
      cases acted
      refine Or.inr ⟨.proceed, ?_⟩
      simp [ConcurrentAdapter.act, Shared.coarse, Point.coarse, present]
  · rename_i found
    cases acted
    exact Or.inr ⟨.answer found, rfl⟩
  · split at acted
    · rename_i empty
      cases acted
      refine Or.inr ⟨.proceed, ?_⟩
      simp [ConcurrentAdapter.act, Shared.coarse, Point.coarse, empty]
    · rename_i b present
      cases acted
      refine Or.inr ⟨.proceed, ?_⟩
      simp [ConcurrentAdapter.act, Shared.coarse, Point.coarse, present]
  · cases acted
    exact Or.inl ⟨rfl, rfl⟩
  · rename_i queue b
    cases acted
    have field := holds queue rfl
    subst field
    refine Or.inr ⟨.proceed, ?_⟩
    simp [ConcurrentAdapter.act, Shared.coarse, Point.coarse, Shared.withQueue]
  · split at acted
    · rename_i filled
      cases acted
      exact Or.inr ⟨.proceed, if_pos filled⟩
    · rename_i unfilled
      cases acted
      exact Or.inr ⟨.proceed, if_neg unfilled⟩
  · cases acted
    exact Or.inr ⟨.proceed, rfl⟩
  · cases acted

theorem field_of_acts {shared shared' : Shared Item Broadcaster}
    {point point' : Point Item Broadcaster} {choice : Choice Item Broadcaster}
    (acts : Acts shared point choice shared' point') (stays : choice.restarts = false) :
    shared'.messageQueue = shared.messageQueue ∧ point'.HoldsField shared' := by
  refine ⟨?_, ?_⟩
  · cases acts with
    | restart => cases stays
    | _ => rfl
  · intro queue held
    cases acts with
    | read _ _ _ holds =>
        rw [holds] at held
        exact (Option.some.inj held).symm
    | restart => cases stays
    | add => cases held
    | drainTo => cases held
    | hand => cases held
    | move _ _ _ _ holds =>
        rw [holds] at held
        cases held

end WithoutRestarts

section Threads

variable {Index : Type} [DecidableEq Index]

abbrev Threads (Index Item Broadcaster : Type) :=
  Pool Index (Shared Item Broadcaster) (Point Item Broadcaster)

def started (broadcaster : Option Broadcaster) : Threads Index Item Broadcaster :=
  { shared :=
      { queues := fun _ => []
        messageQueue := 0
        broadcaster := broadcaster
        added := []
        broadcasts := [] }
    locals := fun _ => .idle }

def threadStep (messageThreshold : Int) :
    Threads Index Item Broadcaster → Index × Choice Item Broadcaster →
      Option (Threads Index Item Broadcaster) :=
  Pool.step (act messageThreshold)

/-- Each run of calls that use the queue in one step is a run here. -/
theorem uses_split {messageThreshold : Int}
    {threads last : ConcurrentAdapter.Threads Index Item Broadcaster}
    {labels : List (Index × ConcurrentAdapter.Choice Item Broadcaster)}
    (ran : run (ConcurrentAdapter.threadStep messageThreshold) threads labels = some last) :
    ∃ labels' : List (Index × Choice Item Broadcaster),
      (∀ label ∈ labels', label.2.restarts = false) ∧
        run (threadStep messageThreshold) (threads.map sharedOf pointOf) labels' =
          some (last.map sharedOf pointOf) := by
  obtain ⟨labels', drawn, ran'⟩ := Pool.run_refined (ConcurrentAdapter.act messageThreshold)
    (act messageThreshold) sharedOf pointOf choicesOf
    (fun _ _ _ _ _ acted => solo_choicesOf (ConcurrentAdapter.act_acts acted)) ran
  refine ⟨labels', ?_, ran'⟩
  intro label among
  obtain ⟨mine, choice, member⟩ := drawn label among
  exact restarts_of_mem_choicesOf member

/-- And while nobody restarts, the step between reading the field and using the queue does not
show. -/
theorem uses_merge {messageThreshold : Int} {threads last : Threads Index Item Broadcaster}
    {labels : List (Index × Choice Item Broadcaster)}
    (holds : ∀ index, (threads.locals index).HoldsField threads.shared)
    (stays : ∀ label ∈ labels, label.2.restarts = false)
    (ran : run (threadStep messageThreshold) threads labels = some last) :
    ∃ labels', run (ConcurrentAdapter.threadStep messageThreshold)
        (threads.map Shared.coarse Point.coarse) labels' =
      some (last.map Shared.coarse Point.coarse) := by
  refine run_abstracted (threadStep messageThreshold)
    (ConcurrentAdapter.threadStep messageThreshold) (Pool.map Shared.coarse Point.coarse)
    (fun threads => ∀ index, (threads.locals index).HoldsField threads.shared)
    (fun _ label => label.2.restarts = false) ?_ holds
    (along_of_forall _ (fun label : Index × Choice Item Broadcaster => label.2.restarts = false)
      _ _ stays) ran
  intro threads label next holds stays moved
  refine ⟨?_, ?_⟩
  · refine (Pool.step_invariant (act messageThreshold) (fun _ => True)
      (fun shared point => point.HoldsField shared) ⟨trivial, holds⟩ moved ?_ ?_).2
    · intro shared point acted
      exact ⟨trivial, (field_of_acts (act_acts acted) stays).2⟩
    · intro shared point other acted elsewhere queue held
      exact (elsewhere queue held).trans (field_of_acts (act_acts acted) stays).1.symm
  · refine Pool.step_abstracted (act messageThreshold) _ Shared.coarse Point.coarse moved ?_
    intro shared point acted
    exact coarse_of_act (holds label.1) stays acted

omit [DecidableEq Index] in
theorem coarse_map (threads : ConcurrentAdapter.Threads Index Item Broadcaster) :
    (threads.map sharedOf pointOf).map Shared.coarse Point.coarse = threads := by
  have locals : Point.coarse ∘ pointOf ∘ threads.locals = threads.locals := by
    funext index
    dsimp only [Function.comp_apply]
    cases threads.locals index <;> rfl
  exact congrArg (Pool.mk threads.shared) locals

omit [DecidableEq Index] in
theorem map_started (broadcaster : Option Broadcaster) :
    (ConcurrentAdapter.started broadcaster : ConcurrentAdapter.Threads Index Item Broadcaster).map
      sharedOf pointOf = started broadcaster := by
  unfold Pool.map ConcurrentAdapter.started sharedOf
  dsimp only
  rw [Function.update_eq_self_iff.mpr rfl]
  rfl

/-- As long as nobody restarts, calls that read the field before each use of the queue show what
calls show that use the queue in one step. -/
theorem without_restarts_iff (messageThreshold : Int) (broadcaster : Option Broadcaster)
    (shown : ConcurrentAdapter.Threads Index Item Broadcaster) :
    (∃ labels, run (ConcurrentAdapter.threadStep messageThreshold)
        (ConcurrentAdapter.started broadcaster) labels = some shown) ↔
      ∃ labels last, (∀ label ∈ labels, label.2.restarts = false) ∧
        run (threadStep messageThreshold) (started broadcaster) labels = some last ∧
          last.map Shared.coarse Point.coarse = shown := by
  constructor
  · rintro ⟨labels, ran⟩
    obtain ⟨labels', stays, ran'⟩ := uses_split ran
    rw [map_started] at ran'
    exact ⟨labels', _, stays, ran', coarse_map shown⟩
  · rintro ⟨labels, last, stays, ran, same⟩
    have merged := uses_merge (fun index queue held => by cases held) stays ran
    rw [same, ← map_started, coarse_map] at merged
    exact merged

structure Accounted [Fintype Index] (threads : Threads Index Item Broadcaster) : Prop where
  unmade : threads.shared.Unmade
  holds : ∀ index, (threads.locals index).Holds threads.shared
  conserved : Pool.Balanced
    (fun shared : Shared Item Broadcaster =>
      shared.stored + (shared.broadcasts.flatten : Multiset Item))
    (fun shared => (shared.added : Multiset Item))
    (fun point => (point.drained : Multiset Item)) threads

variable {messageThreshold : Int} {threads next : Threads Index Item Broadcaster}
  {label : Index × Choice Item Broadcaster}

omit [DecidableEq Index] in
theorem accounted_start [Fintype Index] (broadcaster : Option Broadcaster) :
    Accounted (started broadcaster : Threads Index Item Broadcaster) where
  unmade := fun _ _ => rfl
  holds := fun _ _ held => by cases held
  conserved := by simp [Pool.Balanced, started, Point.drained, Shared.stored]

theorem accounted_step [Fintype Index] (accounted : Accounted threads)
    (moved : threadStep messageThreshold threads label = some next) : Accounted next := by
  obtain ⟨unmade, holds⟩ := Pool.step_invariant (act messageThreshold) Shared.Unmade
    (fun shared point => point.Holds shared) ⟨accounted.unmade, accounted.holds⟩ moved
    (fun shared point acted =>
      ⟨unmade_of_acts (act_acts acted) accounted.unmade (accounted.holds label.1),
        holds_of_acts (act_acts acted)⟩)
    (fun shared point other acted held queue here =>
      (held queue here).trans (made_of_acts (act_acts acted)))
  refine ⟨unmade, holds, ?_⟩
  exact Pool.balanced_step (act messageThreshold) _ _ _ accounted.conserved moved
    fun shared point acted =>
      booked_of_acts (act_acts acted) accounted.unmade (accounted.holds label.1)

theorem added_step [Fintype Index]
    (moved : threadStep messageThreshold threads label = some next) :
    (next.shared.added : Multiset Item) +
        ∑ index, ((next.locals index).adding : Multiset Item) =
      (threads.shared.added : Multiset Item) +
        ∑ index, ((threads.locals index).adding : Multiset Item) +
        (label.2.handled.toList : Multiset Item) := by
  obtain ⟨shared, point, acted, same⟩ := Pool.step_some (act messageThreshold) moved
  subst same
  have given := given_of_acts (act_acts acted)
  have others := Pool.sum_update (fun point => (Point.adding point : Multiset Item))
    threads.locals label.1 point
  have total : (shared.added : Multiset Item) +
        (∑ index, ((Function.update threads.locals label.1 point index).adding : Multiset Item)) +
        ((threads.locals label.1).adding : Multiset Item) =
      (threads.shared.added : Multiset Item) +
        (∑ index, ((threads.locals index).adding : Multiset Item)) +
        (label.2.handled.toList : Multiset Item) +
        ((threads.locals label.1).adding : Multiset Item) := by
    rw [add_assoc, others, add_left_comm, given]
    ac_rfl
  exact add_right_cancel total

/-- Each message that a call was given is added once, unless the call is still about to. -/
theorem added_run [Fintype Index] {labels : List (Index × Choice Item Broadcaster)}
    {last : Threads Index Item Broadcaster}
    (ran : run (threadStep messageThreshold) threads labels = some last) :
    (last.shared.added : Multiset Item) +
        ∑ index, ((last.locals index).adding : Multiset Item) =
      (threads.shared.added : Multiset Item) +
        ∑ index, ((threads.locals index).adding : Multiset Item) +
        ((labels.filterMap fun label => label.2.handled : List Item) : Multiset Item) := by
  induction labels generalizing threads with
  | nil =>
      cases ran
      exact (add_zero _).symm
  | cons label rest ih =>
      obtain ⟨next, moved, later⟩ := run_cons_some (threadStep messageThreshold) ran
      rw [ih later, added_step moved, add_assoc, Multiset.coe_add]
      simp only [List.filterMap_eq_flatMap_toList, List.flatMap_cons]

/-- The queue is no longer in the field, and no call holds it. -/
def Abandoned (queue : Nat) (threads : Threads Index Item Broadcaster) : Prop :=
  queue < threads.shared.messageQueue ∧ ∀ index, (threads.locals index).queue ≠ some queue

theorem abandoned_step {queue : Nat} (abandoned : Abandoned queue threads)
    (moved : threadStep messageThreshold threads label = some next) :
    Abandoned queue next ∧ next.shared.queues queue = threads.shared.queues queue := by
  obtain ⟨⟨replaced, same⟩, released⟩ := Pool.step_invariant (act messageThreshold)
    (fun shared => queue < shared.messageQueue ∧
      shared.queues queue = threads.shared.queues queue)
    (fun _ point => point.queue ≠ some queue) ⟨⟨abandoned.1, rfl⟩, abandoned.2⟩ moved
    (fun shared point acted =>
      abandoned_of_acts (act_acts acted) abandoned.1 (abandoned.2 label.1))
    (fun _ _ _ _ elsewhere => elsewhere)
  exact ⟨⟨replaced, released⟩, same⟩

theorem abandoned_run {queue : Nat} (abandoned : Abandoned queue threads)
    {labels : List (Index × Choice Item Broadcaster)} {last : Threads Index Item Broadcaster}
    (ran : run (threadStep messageThreshold) threads labels = some last) :
    Abandoned queue last ∧ last.shared.queues queue = threads.shared.queues queue := by
  refine run_invariant (threadStep messageThreshold)
    (fun later => Abandoned queue later ∧
      later.shared.queues queue = threads.shared.queues queue) ?_ ⟨abandoned, rfl⟩ ran
  intro later label following holds moved
  have kept := abandoned_step holds.1 moved
  exact ⟨kept.1, kept.2.trans holds.2⟩

/-- No queue that was replaced holds a message. -/
def NothingLeft (threads : Threads Index Item Broadcaster) : Prop := threads.shared.NothingLeft

def Spares (threads : Threads Index Item Broadcaster) (label : Index × Choice Item Broadcaster) :
    Prop :=
  threads.shared.Spares (threads.locals label.1) label.2

theorem nothingLeft_step_iff [Fintype Index] (accounted : Accounted threads)
    (nothing : NothingLeft threads) (label : Index × Choice Item Broadcaster) :
    (∀ next, threadStep messageThreshold threads label = some next → NothingLeft next) ↔
      Spares threads label := by
  constructor
  · intro kept
    apply spares_of_kept (accounted.holds label.1)
    intro shared point acted
    exact kept _ (Pool.step_of_act (act messageThreshold) acted)
  · intro spares next moved
    obtain ⟨shared, point, acted, same⟩ := Pool.step_some (act messageThreshold) moved
    subst same
    exact nothingLeft_of_acts (act_acts acted) nothing spares

/-- However calls and restarts interleave, each message that was handled is still to be added, in
one queue, in the local list of one call or in one list handed over.  What is in a queue that was
replaced and that no call holds stays there for good.  And no queue that was replaced ever holds a
message precisely when each restart finds the queue empty and each message is added to the queue
that is in the field. -/
theorem restarts_lose_what_they_replace [Fintype Index] (messageThreshold : Int)
    (broadcaster : Option Broadcaster) (labels : List (Index × Choice Item Broadcaster))
    (last : Threads Index Item Broadcaster)
    (ran : run (threadStep messageThreshold) (started broadcaster) labels = some last) :
    ((labels.filterMap fun label => label.2.handled : List Item) : Multiset Item) =
        (last.shared.added : Multiset Item) +
          ∑ index, ((last.locals index).adding : Multiset Item) ∧
      (last.shared.added : Multiset Item) =
        (∑ queue ∈ Finset.range last.shared.messageQueue,
          (last.shared.queues queue : Multiset Item)) +
        (last.shared.queues last.shared.messageQueue : Multiset Item) +
        ∑ index, ((last.locals index).drained : Multiset Item) +
        (last.shared.broadcasts.flatten : Multiset Item) ∧
      (∀ queue < last.shared.messageQueue,
        (∀ index, (last.locals index).queue ≠ some queue) →
          ∀ later final, run (threadStep messageThreshold) last later = some final →
            final.shared.queues queue = last.shared.queues queue) ∧
      (Throughout (threadStep messageThreshold) NothingLeft
          (started broadcaster : Threads Index Item Broadcaster) labels ↔
        Along (threadStep messageThreshold) Spares (started broadcaster) labels) := by
  have accounted : Accounted last := run_invariant (threadStep messageThreshold) Accounted
    (fun _ _ _ holds moved => accounted_step holds moved) (accounted_start broadcaster) ran
  refine ⟨?_, ?_, ?_, ?_⟩
  · rw [added_run ran]
    simp [started, Point.adding]
  · have conserved : last.shared.stored + (last.shared.broadcasts.flatten : Multiset Item) +
        ∑ index, ((last.locals index).drained : Multiset Item) =
      (last.shared.added : Multiset Item) := accounted.conserved
    rw [Shared.stored, Finset.sum_range_succ] at conserved
    rw [← conserved]
    ac_rfl
  · intro queue replaced released later final resumed
    exact (abandoned_run ⟨replaced, released⟩ resumed).2
  · rw [throughout_iff_along]
    · refine along_iff_along (threadStep messageThreshold)
        (fun threads => Accounted threads ∧ NothingLeft threads) Spares _ ?_ ?_ labels
        ⟨accounted_start broadcaster, ?_⟩
      · intro threads label next holds spares moved
        exact ⟨accounted_step holds.1 moved,
          (nothingLeft_step_iff holds.1 holds.2 label).mpr spares next moved⟩
      · intro threads label holds
        exact nothingLeft_step_iff holds.1 holds.2 label
      · intro queue replaced
        rfl
    · intro queue replaced
      rfl

/-- One message under a threshold of 2, and a restart: the message stays in the first queue. -/
theorem restart_strands_a_message :
    ∃ last : Threads (Fin 2) String Unit,
      run (threadStep 2) (started none)
          [(0, .handle "a"), (0, .proceed), (0, .proceed), (0, .proceed), (1, .restart)] =
          some last ∧
        ∀ later final, run (threadStep 2) last later = some final →
          final.shared.queues 0 = ["a"] := by
  obtain ⟨last, ran, ⟨replaced, released⟩, holds⟩ := exists_run_of_any (threadStep 2)
    (started none : Threads (Fin 2) String Unit)
    [(0, .handle "a"), (0, .proceed), (0, .proceed), (0, .proceed), (1, .restart)]
    (fun last => (0 < last.shared.messageQueue ∧
      ∀ index, (last.locals index).queue ≠ some 0) ∧ last.shared.queues 0 = ["a"]) (by decide)
  refine ⟨last, ran, ?_⟩
  intro later final resumed
  rw [← holds]
  exact (restarts_lose_what_they_replace 2 none _ last ran).2.2.1 0 replaced released later final
    resumed

end Threads

end SpringExamples.Comet.RestartedAdapter
