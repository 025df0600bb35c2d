/-
The comet adapter across its lifecycle.

The framework starts an endpoint only when it is not running and stops it only when
it is, so the two transitions alternate, beginning with a start.  `doStart` creates
the queue anew.  The runs below mix the transitions with calls of `handleMessage` on
the running endpoint, in which a broadcaster may be missing but nothing throws.
-/

import SpringExamples.Comet.Adapter

set_option autoImplicit false

namespace SpringExamples.Comet

open Runs

variable {Payload Broadcaster : Type}

structure Lifecycle (Payload Broadcaster : Type) where
  adapter : Adapter Payload Broadcaster
  running : Bool
  /-- The messages handled so far, oldest first. -/
  handled : List (HttpBroadcastMessage Payload)
  broadcasts : List (Broadcast Payload Broadcaster)

namespace Lifecycle

inductive Event (Payload Broadcaster : Type) where
  | start
  | stop
  | handle (message : Message Payload) (found : Option Broadcaster) (future : Option Unit)

/-- A bean that was never started has no queue yet. -/
def created (adapter : Adapter Payload Broadcaster) : Lifecycle Payload Broadcaster :=
  { adapter := { adapter with messageQueue := none }
    running := false
    handled := []
    broadcasts := [] }

def start (endpoint : Lifecycle Payload Broadcaster) : Lifecycle Payload Broadcaster :=
  { endpoint with adapter := endpoint.adapter.doStart, running := true }

def stop (endpoint : Lifecycle Payload Broadcaster) : Lifecycle Payload Broadcaster :=
  { endpoint with adapter := endpoint.adapter.doStop, running := false }

def handle (endpoint : Lifecycle Payload Broadcaster) (message : Message Payload)
    (found : Option Broadcaster) (future : Option Unit) : Lifecycle Payload Broadcaster :=
  let call := endpoint.adapter.handleMessage message ⟨.ok found, .ok (future.map .ok)⟩
  { endpoint with
    adapter := call.adapter
    handled := endpoint.handled ++ [endpoint.adapter.wrap message]
    broadcasts := endpoint.broadcasts ++ call.attempted.toList }

def step (endpoint : Lifecycle Payload Broadcaster) :
    Event Payload Broadcaster → Option (Lifecycle Payload Broadcaster)
  | .start => if endpoint.running then none else some endpoint.start
  | .stop => if endpoint.running then some endpoint.stop else none
  | .handle message found future =>
      if endpoint.running then some (endpoint.handle message found future) else none

/-- What was broadcast, followed by what still waits, is what was handled. -/
def Delivered (endpoint : Lifecycle Payload Broadcaster) : Prop :=
  endpoint.handled =
    (endpoint.broadcasts.flatMap fun broadcast => broadcast.messages) ++ endpoint.adapter.pending

def StartsEmpty (endpoint : Lifecycle Payload Broadcaster) (event : Event Payload Broadcaster) :
    Prop :=
  event = .start → endpoint.running = false → endpoint.adapter.pending = []

structure Sound (endpoint : Lifecycle Payload Broadcaster) : Prop where
  delivered : Delivered endpoint
  queued : endpoint.running = true → ∃ queue, endpoint.adapter.messageQueue = some queue

/-- Everything a step can do, with the state of the endpoint that allows it. -/
theorem step_cases {endpoint next : Lifecycle Payload Broadcaster}
    {event : Event Payload Broadcaster} (moved : step endpoint event = some next) :
    (event = .start ∧ endpoint.running = false ∧ next = endpoint.start) ∨
      (event = .stop ∧ endpoint.running = true ∧ next = endpoint.stop) ∨
      ∃ message found future, event = .handle message found future ∧
        endpoint.running = true ∧ next = endpoint.handle message found future := by
  unfold step at moved
  cases running : endpoint.running with
  | true =>
      rw [running] at moved
      cases event with
      | start => cases moved
      | stop =>
          cases moved
          exact Or.inr (Or.inl ⟨rfl, rfl, rfl⟩)
      | handle message found future =>
          cases moved
          exact Or.inr (Or.inr ⟨message, found, future, rfl, rfl, rfl⟩)
  | false =>
      rw [running] at moved
      cases event with
      | start =>
          cases moved
          exact Or.inl ⟨rfl, rfl, rfl⟩
      | stop => cases moved
      | handle message found future => cases moved

theorem sound_created (adapter : Adapter Payload Broadcaster) : Sound (created adapter) where
  delivered := rfl
  queued := nofun

/-- One call of a running endpoint: the message joins the queue, and a broadcast hands
over the whole queue. -/
theorem sound_handle {endpoint : Lifecycle Payload Broadcaster} (sound : Sound endpoint)
    (running : endpoint.running = true) (message : Message Payload)
    (found : Option Broadcaster) (future : Option Unit) :
    Sound (endpoint.handle message found future) := by
  obtain ⟨queue, started⟩ := sound.queued running
  have account : endpoint.handled =
      (endpoint.broadcasts.flatMap fun broadcast => broadcast.messages) ++ queue := by
    have delivered := sound.delivered
    unfold Delivered Adapter.pending at delivered
    rw [started] at delivered
    exact delivered
  have handles := Adapter.handleMessage_handles endpoint.adapter message
    ⟨.ok found, .ok (future.map .ok)⟩ started
  have returns : (⟨.ok found, .ok (future.map .ok)⟩ : Answers Broadcaster).completes = true := by
    cases future with
    | none => rfl
    | some done => rfl
  unfold handle
  dsimp only
  generalize endpoint.adapter.handleMessage message ⟨.ok found, .ok (future.map .ok)⟩ = call
    at handles
  have waits : ∀ after : Adapter Payload Broadcaster,
      after.messageQueue = some (queue ++ [endpoint.adapter.wrap message]) →
        Sound { endpoint with
          adapter := after
          handled := endpoint.handled ++ [endpoint.adapter.wrap message]
          broadcasts := endpoint.broadcasts ++ [] } := by
    intro after kept
    constructor
    · unfold Delivered Adapter.pending
      rw [kept, account, List.append_nil, Option.getD_some, List.append_assoc]
    · intro _
      exact ⟨_, kept⟩
  have handed : ∀ (after : Adapter Payload Broadcaster) (b : Broadcaster) (completed : Bool),
      after.messageQueue = some [] →
        Sound { endpoint with
          adapter := after
          handled := endpoint.handled ++ [endpoint.adapter.wrap message]
          broadcasts := endpoint.broadcasts ++
            [⟨b, queue ++ [endpoint.adapter.wrap message], completed⟩] } := by
    intro after b completed drained
    constructor
    · unfold Delivered Adapter.pending
      rw [drained, account, Option.getD_some, List.append_nil, List.flatMap_append,
        List.flatMap_singleton, List.append_assoc]
    · intro _
      exact ⟨_, drained⟩
  cases handles with
  | below after short kept => exact waits after kept
  | lookupFails after reached thrown kept => exact waits after kept
  | unavailable after reached absent kept => exact waits after kept
  | completed after b reached available completes drained => exact handed after b true drained
  | thrown after b reached available throws drained =>
      rw [returns] at throws
      cases throws

theorem delivered_start_iff {endpoint : Lifecycle Payload Broadcaster}
    (delivered : Delivered endpoint) :
    Delivered endpoint.start ↔ endpoint.adapter.pending = [] := by
  unfold Delivered at delivered
  change endpoint.handled =
    (endpoint.broadcasts.flatMap fun broadcast => broadcast.messages) ++ [] ↔ _
  rw [delivered, List.append_nil, List.append_right_eq_self]

theorem sound_step {endpoint next : Lifecycle Payload Broadcaster}
    {event : Event Payload Broadcaster} (sound : Sound endpoint)
    (safe : StartsEmpty endpoint event) (moved : step endpoint event = some next) :
    Sound next := by
  rcases step_cases moved with ⟨same, stopped, rfl⟩ | ⟨_, _, rfl⟩ |
    ⟨message, found, future, _, running, rfl⟩
  · exact ⟨(delivered_start_iff sound.delivered).mpr (safe same stopped), fun _ => ⟨[], rfl⟩⟩
  · exact ⟨sound.delivered, nofun⟩
  · exact sound_handle sound running message found future

theorem delivered_step_iff {endpoint : Lifecycle Payload Broadcaster}
    (event : Event Payload Broadcaster) (sound : Sound endpoint) :
    (∀ next, step endpoint event = some next → Delivered next) ↔
      StartsEmpty endpoint event := by
  constructor
  · intro right same stopped
    subst same
    have moved : step endpoint .start = some endpoint.start := by
      simp only [step, stopped, Bool.false_eq_true, if_false]
    exact (delivered_start_iff sound.delivered).mp (right _ moved)
  · intro safe next moved
    exact (sound_step sound safe moved).delivered

/-- No message is lost in any state of a run precisely when the endpoint is only ever
started with nothing waiting. -/
theorem delivered_iff_starts_empty (adapter : Adapter Payload Broadcaster)
    (events : List (Event Payload Broadcaster)) :
    Throughout step Delivered (created adapter) events ↔
      Along step StartsEmpty (created adapter) events := by
  rw [throughout_iff_along step Delivered events (sound_created adapter).delivered]
  apply along_iff_along step Sound _ _ _ _ events (sound_created adapter)
  · intro endpoint event next sound safe moved
    exact sound_step sound safe moved
  · intro endpoint event sound
    exact delivered_step_iff event sound

/-- Threshold two: one message waits, and the restart replaces the queue that holds it. -/
theorem restart_discards_waiting_message :
    ¬Throughout step Delivered
      (created (Adapter.configured "ticker" 2 : Adapter String Nat))
      [.start, .handle ⟨"first", fun _ => none⟩ (some 0) none, .stop, .start] := by
  intro always
  have last := (((always.2 _ rfl).2 _ rfl).2 _ rfl).2 _ rfl
  change [_] = [] at last
  cases last

end Lifecycle

end SpringExamples.Comet
