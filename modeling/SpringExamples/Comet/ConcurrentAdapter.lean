/-
Concurrent calls of `handleMessage`.

Any number of threads run the method on one started adapter.  Each call is cut at its
atomic steps: adding to the queue, testing its size, reading the broadcaster field,
looking a broadcaster up and storing the answer, reading the field again, draining
the queue into a local list, broadcasting that list and waiting for the future.  The
field is not guarded, so a null answer can overwrite what another thread stored.
The shared state also records what was added and what was broadcast, in order.
-/

import Mathlib.Algebra.Order.Group.Multiset
import SpringExamples.Foundation.Pool
import SpringExamples.Comet.Adapter

set_option autoImplicit false

namespace SpringExamples.Comet.ConcurrentAdapter

open Runs

variable {Item Broadcaster : Type}

structure Shared (Item Broadcaster : Type) where
  messageQueue : List Item
  broadcaster : Option Broadcaster
  /-- Every message added to the queue so far, oldest first. -/
  added : List Item
  broadcasts : List (List Item)
  deriving DecidableEq, Repr

inductive Point (Item Broadcaster : Type) where
  | idle
  | sizeTest
  | readField
  | lookup
  | returnField
  | drainTo (b : Broadcaster)
  | broadcast (b : Broadcaster) (broadcastMessages : List Item)
  | awaitFuture
  deriving DecidableEq, Repr

inductive Choice (Item Broadcaster : Type) where
  | handle (message : Item)
  | answer (found : Option Broadcaster)
  | proceed
  deriving DecidableEq, Repr

def act (messageThreshold : Int) (shared : Shared Item Broadcaster) :
    Point Item Broadcaster → Choice Item Broadcaster →
      Option (Shared Item Broadcaster × Point Item Broadcaster)
  | .idle, .handle message =>
      some ({ shared with
        messageQueue := shared.messageQueue ++ [message]
        added := shared.added ++ [message] }, .sizeTest)
  | .sizeTest, .proceed =>
      if (shared.messageQueue.length : Int) ≥ messageThreshold then some (shared, .readField)
      else some (shared, .idle)
  | .readField, .proceed =>
      match shared.broadcaster with
      | none => some (shared, .lookup)
      | some _ => some (shared, .returnField)
  | .lookup, .answer found => some ({ shared with broadcaster := found }, .returnField)
  | .returnField, .proceed =>
      match shared.broadcaster with
      | none => some (shared, .idle)
      | some b => some (shared, .drainTo b)
  | .drainTo b, .proceed =>
      some ({ shared with messageQueue := [] }, .broadcast b shared.messageQueue)
  | .broadcast _ broadcastMessages, .proceed =>
      if broadcastMessages.length > 0 then
        some ({ shared with broadcasts := shared.broadcasts ++ [broadcastMessages] },
          .awaitFuture)
      else some (shared, .idle)
  | .awaitFuture, .proceed => some (shared, .idle)
  | _, _ => none

/-- Everything a step can do, one case for each way a step can go. -/
inductive Acts (messageThreshold : Int) (shared : Shared Item Broadcaster) :
    Point Item Broadcaster → Choice Item Broadcaster → Shared Item Broadcaster →
      Point Item Broadcaster → Prop where
  | add (message : Item) :
      Acts messageThreshold shared .idle (.handle message)
        { shared with
          messageQueue := shared.messageQueue ++ [message]
          added := shared.added ++ [message] } .sizeTest
  | reached (enough : messageThreshold ≤ (shared.messageQueue.length : Int)) :
      Acts messageThreshold shared .sizeTest .proceed shared .readField
  | below (short : (shared.messageQueue.length : Int) < messageThreshold) :
      Acts messageThreshold shared .sizeTest .proceed shared .idle
  | missing (empty : shared.broadcaster = none) :
      Acts messageThreshold shared .readField .proceed shared .lookup
  | cached (b : Broadcaster) (present : shared.broadcaster = some b) :
      Acts messageThreshold shared .readField .proceed shared .returnField
  | store (found : Option Broadcaster) :
      Acts messageThreshold shared .lookup (.answer found)
        { shared with broadcaster := found } .returnField
  | unavailable (empty : shared.broadcaster = none) :
      Acts messageThreshold shared .returnField .proceed shared .idle
  | available (b : Broadcaster) (present : shared.broadcaster = some b) :
      Acts messageThreshold shared .returnField .proceed shared (.drainTo b)
  | drain (b : Broadcaster) :
      Acts messageThreshold shared (.drainTo b) .proceed { shared with messageQueue := [] }
        (.broadcast b shared.messageQueue)
  | hand (b : Broadcaster) (messages : List Item) (nonempty : messages ≠ []) :
      Acts messageThreshold shared (.broadcast b messages) .proceed
        { shared with broadcasts := shared.broadcasts ++ [messages] } .awaitFuture
  | nothing (b : Broadcaster) :
      Acts messageThreshold shared (.broadcast b []) .proceed shared .idle
  | finish :
      Acts messageThreshold shared .awaitFuture .proceed shared .idle

theorem act_acts {messageThreshold : Int} {shared shared' : Shared Item Broadcaster}
    {point point' : Point Item Broadcaster} {choice : Choice Item Broadcaster}
    (acted : act messageThreshold shared point choice = some (shared', point')) :
    Acts messageThreshold shared point choice shared' point' := by
  cases point with
  | idle =>
      cases choice with
      | handle message => cases acted; exact .add message
      | answer found => cases acted
      | proceed => cases acted
  | sizeTest =>
      cases choice with
      | handle message => cases acted
      | answer found => cases acted
      | proceed =>
          simp only [act] at acted
          split at acted
          · rename_i enough
            cases acted
            exact .reached enough
          · rename_i short
            cases acted
            exact .below (by omega)
  | readField =>
      cases choice with
      | handle message => cases acted
      | answer found => cases acted
      | proceed =>
          simp only [act] at acted
          split at acted
          · rename_i empty
            cases acted
            exact .missing empty
          · rename_i b present
            cases acted
            exact .cached b present
  | lookup =>
      cases choice with
      | handle message => cases acted
      | answer found => cases acted; exact .store found
      | proceed => cases acted
  | returnField =>
      cases choice with
      | handle message => cases acted
      | answer found => cases acted
      | proceed =>
          simp only [act] at acted
          split at acted
          · rename_i empty
            cases acted
            exact .unavailable empty
          · rename_i b present
            cases acted
            exact .available b present
  | drainTo b =>
      cases choice with
      | handle message => cases acted
      | answer found => cases acted
      | proceed => cases acted; exact .drain b
  | broadcast b messages =>
      cases choice with
      | handle message => cases acted
      | answer found => cases acted
      | proceed =>
          simp only [act] at acted
          split at acted
          · rename_i filled
            cases acted
            exact .hand b messages (List.ne_nil_of_length_pos filled)
          · rename_i unfilled
            cases acted
            have empty : messages = [] := List.eq_nil_of_length_eq_zero (by omega)
            subst empty
            exact .nothing b
  | awaitFuture =>
      cases choice with
      | handle message => cases acted
      | answer found => cases acted
      | proceed => cases acted; exact .finish

def sharedOf {Payload : Type} (adapter : Adapter Payload Broadcaster)
    (added : List (HttpBroadcastMessage Payload))
    (broadcasts : List (List (HttpBroadcastMessage Payload))) :
    Shared (HttpBroadcastMessage Payload) Broadcaster :=
  { messageQueue := adapter.pending
    broadcaster := adapter.broadcaster
    added := added
    broadcasts := broadcasts }

theorem solo_handleMessage {Payload : Type} (adapter : Adapter Payload Broadcaster)
    (message : Message Payload) (found : Option Broadcaster) (future : Option Unit)
    (added : List (HttpBroadcastMessage Payload))
    (broadcasts : List (List (HttpBroadcastMessage Payload)))
    {queue : List (HttpBroadcastMessage Payload)} (started : adapter.messageQueue = some queue) :
    let handled := adapter.handleMessage message ⟨.ok found, .ok (future.map .ok)⟩
    ∃ choices, run (Pool.solo (act adapter.messageThreshold))
        (sharedOf adapter added broadcasts, .idle) choices =
      some (sharedOf handled.adapter (added ++ [adapter.wrap message])
        (broadcasts ++ handled.attempted.toList.map fun item => item.messages), .idle) := by
  have positive : (queue ++ [adapter.wrap message]).length > 0 := by
    rw [List.length_append, List.length_singleton]
    omega
  unfold Adapter.handleMessage
  simp only [started]
  by_cases reached :
      (((queue ++ [adapter.wrap message]).length : Nat) : Int) ≥ adapter.messageThreshold
  · simp only [if_pos reached, Adapter.ensureBroadcasterSetup]
    cases cached : adapter.broadcaster with
    | some b =>
        refine ⟨[.handle (adapter.wrap message), .proceed, .proceed, .proceed, .proceed,
          .proceed, .proceed], ?_⟩
        simp only [run_cons, Pool.solo, act, sharedOf, started, cached, if_pos reached,
          if_pos positive, Option.bind_some, run_nil, Adapter.broadcastMessages_ok,
          Adapter.pending, Option.getD_some, Option.toList_some, List.map_singleton]
    | none =>
        cases found with
        | some b =>
            refine ⟨[.handle (adapter.wrap message), .proceed, .proceed, .answer (some b),
              .proceed, .proceed, .proceed, .proceed], ?_⟩
            simp only [run_cons, Pool.solo, act, sharedOf, started, cached, if_pos reached,
              if_pos positive, Option.bind_some, run_nil, Adapter.broadcastMessages_ok,
              Adapter.pending, Option.getD_some, Option.toList_some, List.map_singleton,
              Except.map]
        | none =>
            refine ⟨[.handle (adapter.wrap message), .proceed, .proceed, .answer none,
              .proceed], ?_⟩
            simp only [run_cons, Pool.solo, act, sharedOf, started, cached, if_pos reached,
              Option.bind_some, run_nil, Adapter.pending, Option.getD_some, Option.toList_none,
              List.map_nil, List.append_nil, Except.map]
  · refine ⟨[.handle (adapter.wrap message), .proceed], ?_⟩
    simp only [run_cons, Pool.solo, act, sharedOf, started, if_neg reached, Option.bind_some,
      run_nil, Adapter.pending, Option.getD_some, Option.toList_none, List.map_nil,
      List.append_nil]

def Point.drained : Point Item Broadcaster → List Item
  | .broadcast _ broadcastMessages => broadcastMessages
  | _ => []

def Choice.handled : Choice Item Broadcaster → Option Item
  | .handle message => some message
  | .answer _ => none
  | .proceed => none

def Point.BeforeDrain : Point Item Broadcaster → Prop
  | .sizeTest => True
  | .readField => True
  | .lookup => True
  | .returnField => True
  | .drainTo _ => True
  | _ => False

section Threads

variable {Index : Type} [DecidableEq Index]

abbrev Threads (Index Item Broadcaster : Type) :=
  Pool Index (Shared Item Broadcaster) (Point Item Broadcaster)

def started (broadcaster : Option Broadcaster) : Threads Index Item Broadcaster :=
  { shared :=
      { messageQueue := []
        broadcaster := broadcaster
        added := []
        broadcasts := [] }
    locals := fun _ => .idle }

def threadStep (messageThreshold : Int) :
    Threads Index Item Broadcaster → Index × Choice Item Broadcaster →
      Option (Threads Index Item Broadcaster) :=
  Pool.step (act messageThreshold)

/-- A call that is never interrupted does what `handleMessage` does when nothing throws. -/
theorem uninterrupted_handleMessage {Payload : Type} (adapter : Adapter Payload Broadcaster)
    (message : Message Payload) (found : Option Broadcaster) (future : Option Unit)
    (added : List (HttpBroadcastMessage Payload))
    (broadcasts : List (List (HttpBroadcastMessage Payload)))
    {queue : List (HttpBroadcastMessage Payload)} (started : adapter.messageQueue = some queue)
    {threads : Threads Index (HttpBroadcastMessage Payload) Broadcaster} {index : Index}
    (stands : threads.shared = sharedOf adapter added broadcasts)
    (outside : threads.locals index = .idle) :
    let handled := adapter.handleMessage message ⟨.ok found, .ok (future.map .ok)⟩
    ∃ choices : List (Choice (HttpBroadcastMessage Payload) Broadcaster),
      run (threadStep adapter.messageThreshold) threads
          (choices.map fun choice => (index, choice)) =
        some
          { shared := sharedOf handled.adapter (added ++ [adapter.wrap message])
              (broadcasts ++ handled.attempted.toList.map fun item => item.messages)
            locals := threads.locals } := by
  intro handled
  obtain ⟨choices, ran⟩ :=
    solo_handleMessage adapter message found future added broadcasts started
  rw [← stands, ← outside] at ran
  have pooled := Pool.run_solo (act adapter.messageThreshold) ran
  rw [Function.update_eq_self] at pooled
  exact ⟨choices, pooled⟩

theorem added_step {messageThreshold : Int} {threads next : Threads Index Item Broadcaster}
    {label : Index × Choice Item Broadcaster}
    (moved : threadStep messageThreshold threads label = some next) :
    next.shared.added = threads.shared.added ++ label.2.handled.toList := by
  obtain ⟨shared, point, acted, same⟩ := Pool.step_some (act messageThreshold) moved
  subst same
  have acts := act_acts acted
  change shared.added = _
  generalize threads.locals label.1 = old at acts
  generalize label.2 = choice at acts
  cases acts with
  | add message => rfl
  | _ => exact (List.append_nil _).symm

/-- What has been added is what the calls were given, in the order of their first steps. -/
theorem added_run {messageThreshold : Int} {threads last : Threads Index Item Broadcaster}
    {labels : List (Index × Choice Item Broadcaster)}
    (ran : run (threadStep messageThreshold) threads labels = some last) :
    last.shared.added =
      threads.shared.added ++ labels.filterMap fun label => label.2.handled := by
  induction labels generalizing threads with
  | nil =>
      cases ran
      exact (List.append_nil _).symm
  | cons label rest ih =>
      obtain ⟨next, moved, later⟩ := run_cons_some (threadStep messageThreshold) ran
      rw [ih later, added_step moved, List.append_assoc]
      simp only [List.filterMap_eq_flatMap_toList, List.flatMap_cons]

def Conserved [Fintype Index] (threads : Threads Index Item Broadcaster) : Prop :=
  Pool.Balanced
    (fun shared : Shared Item Broadcaster =>
      (shared.messageQueue : Multiset Item) + (shared.broadcasts.flatten : Multiset Item))
    (fun shared => (shared.added : Multiset Item))
    (fun point => (point.drained : Multiset Item)) threads

theorem acts_entry {messageThreshold : Int} {shared shared' : Shared Item Broadcaster}
    {point point' : Point Item Broadcaster} {choice : Choice Item Broadcaster}
    (acts : Acts messageThreshold shared point choice shared' point') :
    (shared'.messageQueue : Multiset Item) + (shared'.broadcasts.flatten : Multiset Item) +
        (point'.drained : Multiset Item) + (shared.added : Multiset Item) =
      (shared.messageQueue : Multiset Item) + (shared.broadcasts.flatten : Multiset Item) +
        (point.drained : Multiset Item) + (shared'.added : Multiset Item) := by
  cases acts with
  | add message =>
      simp only [Point.drained, Multiset.coe_nil, add_zero, ← Multiset.coe_add]
      ac_rfl
  | drain b =>
      simp only [Point.drained, Multiset.coe_nil, add_zero, zero_add]
      ac_rfl
  | hand b messages nonempty =>
      simp only [Point.drained, Multiset.coe_nil, add_zero, List.flatten_append,
        List.flatten_singleton, ← Multiset.coe_add]
      ac_rfl
  | nothing b => rfl
  | reached enough => rfl
  | below short => rfl
  | missing empty => rfl
  | cached b present => rfl
  | store found => rfl
  | unavailable empty => rfl
  | available b present => rfl
  | finish => rfl

theorem conserved_run [Fintype Index] (messageThreshold : Int) (broadcaster : Option Broadcaster)
    {labels : List (Index × Choice Item Broadcaster)} {last : Threads Index Item Broadcaster}
    (ran : run (threadStep messageThreshold) (started broadcaster) labels = some last) :
    Conserved last := by
  refine run_invariant (threadStep messageThreshold) Conserved ?_ ?_ ran
  · intro threads label next conserved moved
    refine Pool.balanced_step (act messageThreshold) _ _ _ conserved moved ?_
    intro shared point acted
    exact acts_entry (act_acts acted)
  · simp [Conserved, Pool.Balanced, started, Point.drained]

/-- A queue that has reached the effective threshold has a call that will drain it. -/
def Attended (messageThreshold : Int) (threads : Threads Index Item Broadcaster) : Prop :=
  max 1 messageThreshold ≤ (threads.shared.messageQueue.length : Int) →
    ∃ index, (threads.locals index).BeforeDrain

def Looked (threads : Threads Index Item Broadcaster) : Prop :=
  ∀ index, threads.locals index = .returnField → threads.shared.broadcaster ≠ none

omit [DecidableEq Index] in
theorem acts_broadcaster {messageThreshold : Int} {shared shared' : Shared Item Broadcaster}
    {point point' : Point Item Broadcaster} {choice : Choice Item Broadcaster}
    (acts : Acts messageThreshold shared point choice shared' point')
    (answered : choice ≠ .answer none) (here : point' = .returnField ∨ shared.broadcaster ≠ none) :
    shared'.broadcaster ≠ none := by
  cases acts with
  | store found =>
      intro absent
      change found = none at absent
      subst absent
      exact answered rfl
  | cached b present =>
      rw [present]
      exact Option.some_ne_none b
  | add message => exact here.resolve_left nofun
  | reached enough => exact here.resolve_left nofun
  | below short => exact here.resolve_left nofun
  | missing empty => exact here.resolve_left nofun
  | unavailable empty => exact here.resolve_left nofun
  | available b present => exact here.resolve_left nofun
  | drain b => exact here.resolve_left nofun
  | hand b messages nonempty => exact here.resolve_left nofun
  | nothing b => exact here.resolve_left nofun
  | finish => exact here.resolve_left nofun

theorem looked_step {messageThreshold : Int} {threads next : Threads Index Item Broadcaster}
    {label : Index × Choice Item Broadcaster} (looked : Looked threads)
    (answered : label.2 ≠ .answer none)
    (moved : threadStep messageThreshold threads label = some next) : Looked next := by
  have kept := Pool.step_invariant (act messageThreshold) (fun _ => True)
    (fun shared point => point = .returnField → shared.broadcaster ≠ none)
    ⟨trivial, looked⟩ moved
  apply (kept ?_ ?_).2
  · intro shared point acted
    exact ⟨trivial, fun here => acts_broadcaster (act_acts acted) answered (Or.inl here)⟩
  · intro shared point other acted elsewhere here
    exact acts_broadcaster (act_acts acted) answered (Or.inr (elsewhere here))

theorem attended_step {messageThreshold : Int} {threads next : Threads Index Item Broadcaster}
    {label : Index × Choice Item Broadcaster} (attended : Attended messageThreshold threads)
    (looked : Looked threads) (moved : threadStep messageThreshold threads label = some next) :
    Attended messageThreshold next := by
  obtain ⟨shared, point, acted, same⟩ := Pool.step_some (act messageThreshold) moved
  subst same
  have acts := act_acts acted
  have lookedHere := looked label.1
  intro full
  change max 1 messageThreshold ≤ (shared.messageQueue.length : Int) at full
  have staysBefore : point.BeforeDrain →
      ∃ index, (Function.update threads.locals label.1 point index).BeforeDrain := by
    intro before
    refine ⟨label.1, ?_⟩
    rw [Function.update_self]
    exact before
  have another : ¬(threads.locals label.1).BeforeDrain →
      max 1 messageThreshold ≤ (threads.shared.messageQueue.length : Int) →
      ∃ index, (Function.update threads.locals label.1 point index).BeforeDrain := by
    intro outside filled
    obtain ⟨index, before⟩ := attended filled
    refine ⟨index, ?_⟩
    have different : index ≠ label.1 := by
      intro equal
      exact outside (equal ▸ before)
    rw [Function.update_of_ne different]
    exact before
  change ∃ index, (Function.update threads.locals label.1 point index).BeforeDrain
  generalize threads.locals label.1 = old at acts lookedHere another
  generalize label.2 = choice at acts
  cases acts with
  | add message => exact staysBefore trivial
  | reached enough => exact staysBefore trivial
  | below short => omega
  | missing empty => exact staysBefore trivial
  | cached b present => exact staysBefore trivial
  | store found => exact staysBefore trivial
  | unavailable empty => exact absurd empty (lookedHere rfl)
  | available b present => exact staysBefore trivial
  | drain b =>
      change max 1 messageThreshold ≤ ((0 : Nat) : Int) at full
      omega
  | hand b messages nonempty => exact another id full
  | nothing b => exact another id full
  | finish => exact another id full

theorem quiescent_run (messageThreshold : Int) (broadcaster : Option Broadcaster)
    {labels : List (Index × Choice Item Broadcaster)} {last : Threads Index Item Broadcaster}
    (ran : run (threadStep messageThreshold) (started broadcaster) labels = some last)
    (answered : ∀ label ∈ labels, label.2 ≠ .answer none)
    (quiet : ∀ index, last.locals index = .idle) :
    (last.shared.messageQueue.length : Int) < max 1 messageThreshold := by
  have kept := run_invariant_along (threadStep messageThreshold)
    (fun threads => Attended messageThreshold threads ∧ Looked threads)
    (fun _ label => label.2 ≠ .answer none)
    (fun threads label next holds met moved =>
      ⟨attended_step holds.1 holds.2 moved, looked_step holds.2 met moved⟩)
    ⟨by
      intro full
      change max 1 messageThreshold ≤ ((0 : Nat) : Int) at full
      omega, by
      intro index here
      cases here⟩
    (along_of_forall (threadStep messageThreshold) (fun label => label.2 ≠ .answer none)
      (started broadcaster) labels answered) ran
  by_contra full
  obtain ⟨index, before⟩ := kept.1 (by omega)
  rw [quiet index] at before
  exact before

/-- Under every interleaving what was added are the messages of the calls begun so far, and each
of them is in exactly one of the queue, the local list of one call and the lists handed over; and
unless a lookup answers null, a quiet adapter holds fewer messages than the effective threshold. -/
theorem every_message_in_one_place [Fintype Index] (messageThreshold : Int)
    (broadcaster : Option Broadcaster) (labels : List (Index × Choice Item Broadcaster))
    (last : Threads Index Item Broadcaster)
    (ran : run (threadStep messageThreshold) (started broadcaster) labels = some last) :
    last.shared.added = (labels.filterMap fun label => label.2.handled) ∧
      ((labels.filterMap fun label => label.2.handled : List Item) : Multiset Item) =
        (last.shared.messageQueue : Multiset Item) +
          ∑ index, ((last.locals index).drained : Multiset Item) +
          (last.shared.broadcasts.flatten : Multiset Item) ∧
      ((∀ label ∈ labels, label.2 ≠ .answer none) → (∀ index, last.locals index = .idle) →
        (last.shared.messageQueue.length : Int) < max 1 messageThreshold) := by
  have added : last.shared.added = labels.filterMap fun label => label.2.handled := added_run ran
  refine ⟨added, ?_, quiescent_run messageThreshold broadcaster ran⟩
  have conserved : (last.shared.messageQueue : Multiset Item) +
        (last.shared.broadcasts.flatten : Multiset Item) +
        ∑ index, ((last.locals index).drained : Multiset Item) =
      (last.shared.added : Multiset Item) := conserved_run messageThreshold broadcaster ran
  rw [← added, ← conserved]
  ac_rfl

/-- Both calls pass the test, and the first hands over the messages of both. -/
theorem two_threads_one_batch :
    ∃ last : Threads (Fin 2) String Nat,
      run (threadStep 2) (started none)
          [(0, .handle "a"), (1, .handle "b"), (0, .proceed), (1, .proceed), (0, .proceed),
            (0, .answer (some 7)), (1, .proceed), (0, .proceed), (1, .proceed), (0, .proceed),
            (1, .proceed), (1, .proceed), (0, .proceed), (0, .proceed)] = some last ∧
        last.shared.added = ["a", "b"] ∧ last.shared.broadcasts = [["a", "b"]] ∧
        last.shared.messageQueue = [] := by
  obtain ⟨last, ran, quiet, broadcasts⟩ := exists_run_of_any (threadStep 2)
    (started none : Threads (Fin 2) String Nat)
    [(0, .handle "a"), (1, .handle "b"), (0, .proceed), (1, .proceed), (0, .proceed),
      (0, .answer (some 7)), (1, .proceed), (0, .proceed), (1, .proceed), (0, .proceed),
      (1, .proceed), (1, .proceed), (0, .proceed), (0, .proceed)]
    (fun last => (∀ index, last.locals index = .idle) ∧
      last.shared.broadcasts = [["a", "b"]]) (by decide)
  obtain ⟨added, placed, _⟩ := every_message_in_one_place 2 none _ last ran
  refine ⟨last, ran, added, broadcasts, ?_⟩
  have idle : ∀ index, ((last.locals index).drained : Multiset String) = 0 := by
    intro index
    rw [quiet index]
    rfl
  -- Both messages are in the list handed over, so the equation leaves none for the queue.
  rw [broadcasts, Finset.sum_eq_zero fun index _ => idle index, add_zero] at placed
  change ((["a", "b"] : List String) : Multiset String) =
    (last.shared.messageQueue : Multiset String) + (["a", "b"] : List String) at placed
  exact (Multiset.coe_eq_zero _).mp (right_eq_add.mp placed)

end Threads

end SpringExamples.Comet.ConcurrentAdapter
