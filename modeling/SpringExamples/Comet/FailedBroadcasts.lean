/-
Sequential calls of the adapter under failures.

A lookup, a broadcast or a future may throw in any call.  A call that returns has
accepted its message, and an accepted message should stay in the queue or be in a
list whose broadcast completed.  The queue is drained before the list is handed
over, so a broadcast that throws takes the whole backlog with it.
-/

import SpringExamples.Comet.Adapter

set_option autoImplicit false

namespace SpringExamples.Comet

open Runs

variable {Payload Broadcaster : Type}

structure Endpoint (Payload Broadcaster : Type) where
  adapter : Adapter Payload Broadcaster
  /-- The messages whose own call returned normally. -/
  accepted : List (HttpBroadcastMessage Payload)
  broadcasts : List (Broadcast Payload Broadcaster)

namespace Endpoint

def started (adapter : Adapter Payload Broadcaster) : Endpoint Payload Broadcaster :=
  { adapter := adapter.doStart
    accepted := []
    broadcasts := [] }

def call (endpoint : Endpoint Payload Broadcaster)
    (request : Message Payload × Answers Broadcaster) : Endpoint Payload Broadcaster :=
  let handled := endpoint.adapter.handleMessage request.1 request.2
  { adapter := handled.adapter
    accepted :=
      match handled.outcome with
      | .ok () => endpoint.accepted ++ [endpoint.adapter.wrap request.1]
      | .error _ => endpoint.accepted
    broadcasts := endpoint.broadcasts ++ handled.attempted.toList }

/-- Each accepted message still waits or was in a list whose broadcast completed. -/
def Preserved (endpoint : Endpoint Payload Broadcaster) : Prop :=
  ∀ message ∈ endpoint.accepted, message ∈ endpoint.adapter.pending ∨
    ∃ broadcast ∈ endpoint.broadcasts, broadcast.completed = true ∧ message ∈ broadcast.messages

def Spared (endpoint : Endpoint Payload Broadcaster)
    (request : Message Payload × Answers Broadcaster) : Prop :=
  (endpoint.adapter.handleMessage request.1 request.2).outcome = Adapter.broadcastFailed →
    ∀ message ∈ endpoint.accepted, message ∈ endpoint.adapter.pending →
      message ∈ (endpoint.adapter.handleMessage request.1 request.2).adapter.pending

def FailsAfterDrain (adapter : Adapter Payload Broadcaster) (answers : Answers Broadcaster) :
    Prop :=
  adapter.messageThreshold ≤ (adapter.pending.length : Int) + 1 ∧
    (∃ b, adapter.lookedUp answers = .ok (some b)) ∧ answers.completes = false

/-- A broadcast fails only when no accepted message waits in the queue. -/
def Safe (endpoint : Endpoint Payload Broadcaster)
    (request : Message Payload × Answers Broadcaster) : Prop :=
  FailsAfterDrain endpoint.adapter request.2 →
    ∀ message ∈ endpoint.adapter.pending, message ∉ endpoint.accepted

/-- The wrappers seen so far are older than the next one, and a wrapper in the queue has
not been handed over. -/
structure Sound (endpoint : Endpoint Payload Broadcaster) : Prop where
  running : ∃ queue, endpoint.adapter.messageQueue = some queue
  preserved : Preserved endpoint
  acceptedOld : ∀ message ∈ endpoint.accepted, message.allocation < endpoint.adapter.allocated
  pendingOld : ∀ message ∈ endpoint.adapter.pending,
    message.allocation < endpoint.adapter.allocated
  handedOld : ∀ broadcast ∈ endpoint.broadcasts, ∀ message ∈ broadcast.messages,
    message.allocation < endpoint.adapter.allocated
  disjoint : ∀ message ∈ endpoint.adapter.pending, ∀ broadcast ∈ endpoint.broadcasts,
    message ∉ broadcast.messages

theorem sound_started (adapter : Adapter Payload Broadcaster) : Sound (started adapter) where
  running := ⟨[], rfl⟩
  preserved := by
    intro message member
    cases member
  acceptedOld := by
    intro message member
    cases member
  pendingOld := by
    intro message member
    cases member
  handedOld := by
    intro broadcast member
    cases member
  disjoint := by
    intro message member
    cases member

theorem wrap_allocation (adapter : Adapter Payload Broadcaster) (message : Message Payload) :
    (adapter.wrap message).allocation = adapter.allocated := rfl

/-- A message that is wrapped now is younger than those allocated before. -/
theorem allocation_lt_of_mem {adapter : Adapter Payload Broadcaster}
    {messages : List (HttpBroadcastMessage Payload)}
    (older : ∀ message ∈ messages, message.allocation < adapter.allocated)
    (given : Message Payload) :
    ∀ message ∈ messages ++ [adapter.wrap given], message.allocation < adapter.allocated + 1 := by
  intro message member
  rcases List.mem_append.mp member with old | new
  · exact Nat.lt_succ_of_lt (older message old)
  · rw [List.mem_singleton.mp new, wrap_allocation]
    exact Nat.lt_succ_self adapter.allocated

theorem sound_of_kept {endpoint : Endpoint Payload Broadcaster} (sound : Sound endpoint)
    (request : Message Payload × Answers Broadcaster)
    {found : Adapter Payload Broadcaster} {accepted : List (HttpBroadcastMessage Payload)}
    (kept : found.messageQueue =
      some (endpoint.adapter.pending ++ [endpoint.adapter.wrap request.1]))
    (counted : found.allocated = endpoint.adapter.allocated + 1)
    (grown : accepted = endpoint.accepted ∨
      accepted = endpoint.accepted ++ [endpoint.adapter.wrap request.1]) :
    Sound { adapter := found, accepted := accepted, broadcasts := endpoint.broadcasts } := by
  have waiting := pending_of_queue kept
  have among : ∀ message ∈ accepted,
      message ∈ endpoint.accepted ∨ message = endpoint.adapter.wrap request.1 := by
    intro message member
    rcases grown with same | more
    · exact Or.inl (same ▸ member)
    · rw [more, List.mem_append, List.mem_singleton] at member
      exact member
  refine ⟨⟨_, kept⟩, ?_, ?_, ?_, ?_, ?_⟩
  · intro message member
    change message ∈ found.pending ∨ _
    rw [waiting, List.mem_append, List.mem_singleton]
    rcases among message member with old | new
    · rcases sound.preserved message old with waits | sent
      · exact Or.inl (Or.inl waits)
      · exact Or.inr sent
    · exact Or.inl (Or.inr new)
  · intro message member
    change message.allocation < found.allocated
    rw [counted]
    rcases among message member with old | new
    · have older := sound.acceptedOld message old
      omega
    · rw [new, wrap_allocation]
      omega
  · intro message member
    change message ∈ found.pending at member
    change message.allocation < found.allocated
    rw [waiting] at member
    rw [counted]
    exact allocation_lt_of_mem sound.pendingOld request.1 message member
  · intro broadcast handed message member
    have older := sound.handedOld broadcast handed message member
    change message.allocation < found.allocated
    omega
  · intro message member broadcast handed
    change message ∈ found.pending at member
    rw [waiting, List.mem_append, List.mem_singleton] at member
    rcases member with old | new
    · exact sound.disjoint message old broadcast handed
    · intro within
      have older := sound.handedOld broadcast handed message within
      rw [new, wrap_allocation] at older
      omega

theorem sound_of_drained {endpoint : Endpoint Payload Broadcaster} (sound : Sound endpoint)
    (request : Message Payload × Answers Broadcaster) (b : Broadcaster) (completed : Bool)
    {found : Adapter Payload Broadcaster} {accepted : List (HttpBroadcastMessage Payload)}
    (drained : found.messageQueue = some [])
    (counted : found.allocated = endpoint.adapter.allocated + 1)
    (old : ∀ message ∈ accepted, message.allocation < endpoint.adapter.allocated + 1)
    (preserved : Preserved
      { adapter := found, accepted := accepted, broadcasts := endpoint.broadcasts ++
          [⟨b, endpoint.adapter.pending ++ [endpoint.adapter.wrap request.1], completed⟩] }) :
    Sound { adapter := found, accepted := accepted, broadcasts := endpoint.broadcasts ++
      [⟨b, endpoint.adapter.pending ++ [endpoint.adapter.wrap request.1], completed⟩] } := by
  have waiting : found.pending = [] := pending_of_queue drained
  refine ⟨⟨_, drained⟩, preserved, ?_, ?_, ?_, ?_⟩
  · intro message member
    change message.allocation < found.allocated
    rw [counted]
    exact old message member
  · intro message member
    change message ∈ found.pending at member
    rw [waiting] at member
    cases member
  · intro broadcast handed message member
    change message.allocation < found.allocated
    rw [counted]
    rcases List.mem_append.mp handed with earlier | last
    · have older := sound.handedOld broadcast earlier message member
      omega
    · rw [List.mem_singleton] at last
      subst last
      exact allocation_lt_of_mem sound.pendingOld request.1 message member
  · intro message member
    change message ∈ found.pending at member
    rw [waiting] at member
    cases member

theorem handles_of_sound {endpoint : Endpoint Payload Broadcaster} (sound : Sound endpoint)
    (request : Message Payload × Answers Broadcaster) :
    Handles endpoint.adapter request.1 request.2 endpoint.adapter.pending
      (endpoint.adapter.handleMessage request.1 request.2) := by
  obtain ⟨queue, started⟩ := sound.running
  rw [pending_of_queue started]
  exact Adapter.handleMessage_handles endpoint.adapter request.1 request.2 started

theorem sound_call {endpoint : Endpoint Payload Broadcaster} (sound : Sound endpoint)
    (request : Message Payload × Answers Broadcaster) (safe : Safe endpoint request) :
    Sound (endpoint.call request) := by
  have handles := handles_of_sound sound request
  have counted := (Adapter.handleMessage_configuration endpoint.adapter request.1 request.2).2.1
  unfold call
  dsimp only
  generalize endpoint.adapter.handleMessage request.1 request.2 = handled at handles counted
  cases handles with
  | below found short kept =>
      simp only [Option.toList_none, List.append_nil]
      exact sound_of_kept sound request kept counted (Or.inr rfl)
  | lookupFails found reached thrown kept =>
      simp only [Adapter.broadcastFailed, Option.toList_none, List.append_nil]
      exact sound_of_kept sound request kept counted (Or.inl rfl)
  | unavailable found reached absent kept =>
      simp only [Option.toList_none, List.append_nil]
      exact sound_of_kept sound request kept counted (Or.inr rfl)
  | completed found b reached available completes drained =>
      simp only [Option.toList_some]
      apply sound_of_drained sound request b true drained counted
      · exact allocation_lt_of_mem sound.acceptedOld request.1
      · intro message member
        right
        rcases List.mem_append.mp member with old | new
        · rcases sound.preserved message old with waits | ⟨broadcast, handed, done, within⟩
          · exact ⟨_, List.mem_append_right _ List.mem_cons_self, rfl,
              List.mem_append_left _ waits⟩
          · exact ⟨broadcast, List.mem_append_left _ handed, done, within⟩
        · exact ⟨_, List.mem_append_right _ List.mem_cons_self, rfl,
            List.mem_append_right _ new⟩
  | thrown found b reached available throws drained =>
      simp only [Adapter.broadcastFailed, Option.toList_some]
      apply sound_of_drained sound request b false drained counted
      · intro message member
        have older := sound.acceptedOld message member
        omega
      · intro message member
        right
        rcases sound.preserved message member with waits | ⟨broadcast, handed, done, within⟩
        · exact absurd member (safe ⟨reached, ⟨b, available⟩, throws⟩ message waits)
        · exact ⟨broadcast, List.mem_append_left _ handed, done, within⟩

theorem right_iff_safe {endpoint : Endpoint Payload Broadcaster} (sound : Sound endpoint)
    (request : Message Payload × Answers Broadcaster) :
    Preserved (endpoint.call request) ∧ Spared endpoint request ↔ Safe endpoint request := by
  constructor
  · intro given fails message waits accepted
    obtain ⟨_, spared⟩ := given
    obtain ⟨reached, ⟨b, available⟩, throws⟩ := fails
    have handles := handles_of_sound sound request
    have kept := fun failed => spared failed message accepted waits
    generalize endpoint.adapter.handleMessage request.1 request.2 = handled at handles kept
    cases handles with
    | below found short kept => omega
    | lookupFails found reached thrown kept =>
        rw [available] at thrown
        cases thrown
    | unavailable found reached absent kept =>
        rw [available] at absent
        cases absent
    | completed found b reached available completes drained =>
        rw [throws] at completes
        cases completes
    | thrown found b reached available throws drained =>
        have still := kept rfl
        rw [pending_of_queue drained] at still
        cases still
  · intro safe
    refine ⟨(sound_call sound request safe).preserved, ?_⟩
    intro failed message accepted waits
    have handles := handles_of_sound sound request
    generalize endpoint.adapter.handleMessage request.1 request.2 = handled at handles failed
    cases handles with
    | below found short kept => cases failed
    | lookupFails found reached thrown kept =>
        change message ∈ found.pending
        rw [pending_of_queue kept]
        exact List.mem_append_left _ waits
    | unavailable found reached absent kept => cases failed
    | completed found b reached available completes drained => cases failed
    | thrown found b reached available throws drained =>
        exact absurd accepted (safe ⟨reached, ⟨b, available⟩, throws⟩ message waits)

/-- In a run of calls every accepted message survives, and no failing call takes one out
of the queue, precisely when no broadcast fails over an accepted message. -/
theorem accepted_survives_iff_safe (adapter : Adapter Payload Broadcaster)
    (requests : List (Message Payload × Answers Broadcaster)) :
    Throughout (total call) Preserved (started adapter) requests ∧
        Along (total call) Spared (started adapter) requests ↔
      Along (total call) Safe (started adapter) requests := by
  rw [throughout_iff_along (total call) Preserved requests (sound_started adapter).preserved,
    ← along_and]
  apply along_iff_along (total call) Sound _ _ _ _ requests (sound_started adapter)
  · intro endpoint request next sound safe moved
    cases moved
    exact sound_call sound request safe
  · intro endpoint request sound
    rw [forall_total_iff]
    exact right_iff_safe sound request

/-- Threshold two: the first message is accepted, the second call's broadcast throws, and
the first message is neither in the queue nor in a completed broadcast. -/
theorem accepted_message_lost :
    ¬Throughout (total call) Preserved
      (started (Adapter.configured "ticker" 2 : Adapter String Nat))
      [(⟨"first", fun _ => none⟩, ⟨.ok (some 0), .ok none⟩),
        (⟨"second", fun _ => none⟩, ⟨.ok (some 0), .error ()⟩)] := by
  intro always
  have last := (always.2 _ rfl).2 _ rfl
  rcases last _ List.mem_cons_self with waits | ⟨broadcast, handed, done, _⟩
  · cases waits
  · change broadcast ∈ [_] at handed
    rw [List.mem_singleton] at handed
    subst handed
    cases done

end Endpoint

end SpringExamples.Comet
