/-
The comet adapter: `handleMessage`, its pending queue and its lifecycle.

`AsyncHttpRequestHandlingMessageAdapter` collects messages in a queue and hands the
whole backlog to an Atmosphere broadcaster once the queue has reached a threshold.
What Atmosphere answers during one call is a parameter of the call: a lookup, a
broadcast and a future may each throw.  Every constructor call of
`HttpBroadcastMessage` makes a new object, and the object is what the queue holds,
so the model numbers the wrappers in the order of their construction.
-/

import SpringExamples.Foundation.Runs
import SpringExamples.Integration.Message

set_option autoImplicit false

namespace SpringExamples.Comet

structure HttpBroadcastMessage (Payload : Type) where
  /-- Which construction made this object. -/
  allocation : Nat
  message : Message Payload
  extractPayload : Bool

def endpointPathHeader : String := "endpoint-path"

structure Adapter (Payload Broadcaster : Type) where
  componentName : String
  extractResponsePayload : Bool
  messageThreshold : Int
  /-- Null until the endpoint is first started. -/
  messageQueue : Option (List (HttpBroadcastMessage Payload))
  broadcaster : Option Broadcaster
  allocated : Nat

/-- What the Atmosphere runtime answers during one call; `Unit` stands for any exception.
The broadcast may return no future, and a future may fail while it is waited for. -/
structure Answers (Broadcaster : Type) where
  lookup : Except Unit (Option Broadcaster)
  broadcast : Except Unit (Option (Except Unit Unit))

/-- A list that was handed to `Broadcaster.broadcast`, and whether that completed. -/
structure Broadcast (Payload Broadcaster : Type) where
  broadcaster : Broadcaster
  messages : List (HttpBroadcastMessage Payload)
  completed : Bool

structure Handled (Payload Broadcaster : Type) where
  adapter : Adapter Payload Broadcaster
  outcome : Except String Unit
  attempted : Option (Broadcast Payload Broadcaster)

variable {Payload Broadcaster : Type}

namespace Adapter

def configured (componentName : String) (messageThreshold : Int) :
    Adapter Payload Broadcaster :=
  { componentName := componentName
    extractResponsePayload := true
    messageThreshold := messageThreshold
    messageQueue := none
    broadcaster := none
    allocated := 0 }

def doStart (adapter : Adapter Payload Broadcaster) : Adapter Payload Broadcaster :=
  { adapter with messageQueue := some [] }

/-- Only the consumer endpoint is stopped. -/
def doStop (adapter : Adapter Payload Broadcaster) : Adapter Payload Broadcaster := adapter

def pending (adapter : Adapter Payload Broadcaster) : List (HttpBroadcastMessage Payload) :=
  adapter.messageQueue.getD []

def wrap (adapter : Adapter Payload Broadcaster) (message : Message Payload) :
    HttpBroadcastMessage Payload :=
  { allocation := adapter.allocated
    message := message.setHeaderIfAbsent endpointPathHeader adapter.componentName
    extractPayload := adapter.extractResponsePayload }

/-- The broadcaster found first is kept; a null answer is looked up again next time. -/
def ensureBroadcasterSetup (adapter : Adapter Payload Broadcaster)
    (lookup : Except Unit (Option Broadcaster)) :
    Except Unit (Option Broadcaster × Adapter Payload Broadcaster) :=
  match adapter.broadcaster with
  | some broadcaster => .ok (some broadcaster, adapter)
  | none => lookup.map fun found => (found, { adapter with broadcaster := found })

def broadcastFailed : Except String Unit := .error "Broadcast failed"

def broadcastMessages (adapter : Adapter Payload Broadcaster) (b : Broadcaster)
    (messages : List (HttpBroadcastMessage Payload))
    (broadcast : Except Unit (Option (Except Unit Unit))) : Handled Payload Broadcaster :=
  match broadcast with
  | .ok none => ⟨adapter, .ok (), some ⟨b, messages, true⟩⟩
  | .ok (some (.ok ())) => ⟨adapter, .ok (), some ⟨b, messages, true⟩⟩
  | .ok (some (.error ())) => ⟨adapter, broadcastFailed, some ⟨b, messages, false⟩⟩
  | .error () => ⟨adapter, broadcastFailed, some ⟨b, messages, false⟩⟩

def handleMessage (adapter : Adapter Payload Broadcaster) (message : Message Payload)
    (answers : Answers Broadcaster) : Handled Payload Broadcaster :=
  let httpMessage := adapter.wrap message
  let constructed := { adapter with allocated := adapter.allocated + 1 }
  match adapter.messageQueue with
  | none => ⟨constructed, broadcastFailed, none⟩
  | some queue =>
      let added := queue ++ [httpMessage]
      let queued := { constructed with messageQueue := some added }
      if (added.length : Int) ≥ adapter.messageThreshold then
        match ensureBroadcasterSetup queued answers.lookup with
        | .error () => ⟨queued, broadcastFailed, none⟩
        | .ok (none, found) => ⟨found, .ok (), none⟩
        | .ok (some b, found) =>
            let drained := { found with messageQueue := some [] }
            if added.length > 0 then broadcastMessages drained b added answers.broadcast
            else ⟨drained, .ok (), none⟩
      else ⟨queued, .ok (), none⟩

end Adapter

/-- Completed means that the broadcast returned and its future, if any, did too. -/
def Answers.completes (answers : Answers Broadcaster) : Bool :=
  match answers.broadcast with
  | .ok none => true
  | .ok (some (.ok ())) => true
  | .ok (some (.error ())) => false
  | .error () => false

def Adapter.lookedUp (adapter : Adapter Payload Broadcaster) (answers : Answers Broadcaster) :
    Except Unit (Option Broadcaster) :=
  match adapter.broadcaster with
  | some broadcaster => .ok (some broadcaster)
  | none => answers.lookup

/-- Everything that one call on a started adapter does to its queue and its outcome,
one case for each way through the method. -/
inductive Handles (adapter : Adapter Payload Broadcaster) (message : Message Payload)
    (answers : Answers Broadcaster) (queue : List (HttpBroadcastMessage Payload)) :
    Handled Payload Broadcaster → Prop where
  | below (found : Adapter Payload Broadcaster)
      (short : ((queue.length : Int) + 1) < adapter.messageThreshold)
      (kept : found.messageQueue = some (queue ++ [adapter.wrap message])) :
      Handles adapter message answers queue ⟨found, .ok (), none⟩
  | lookupFails (found : Adapter Payload Broadcaster)
      (reached : adapter.messageThreshold ≤ (queue.length : Int) + 1)
      (thrown : adapter.lookedUp answers = .error ())
      (kept : found.messageQueue = some (queue ++ [adapter.wrap message])) :
      Handles adapter message answers queue ⟨found, Adapter.broadcastFailed, none⟩
  | unavailable (found : Adapter Payload Broadcaster)
      (reached : adapter.messageThreshold ≤ (queue.length : Int) + 1)
      (absent : adapter.lookedUp answers = .ok none)
      (kept : found.messageQueue = some (queue ++ [adapter.wrap message])) :
      Handles adapter message answers queue ⟨found, .ok (), none⟩
  | completed (found : Adapter Payload Broadcaster) (b : Broadcaster)
      (reached : adapter.messageThreshold ≤ (queue.length : Int) + 1)
      (available : adapter.lookedUp answers = .ok (some b))
      (completes : answers.completes = true)
      (drained : found.messageQueue = some []) :
      Handles adapter message answers queue
        ⟨found, .ok (), some ⟨b, queue ++ [adapter.wrap message], true⟩⟩
  | thrown (found : Adapter Payload Broadcaster) (b : Broadcaster)
      (reached : adapter.messageThreshold ≤ (queue.length : Int) + 1)
      (available : adapter.lookedUp answers = .ok (some b))
      (throws : answers.completes = false)
      (drained : found.messageQueue = some []) :
      Handles adapter message answers queue
        ⟨found, Adapter.broadcastFailed, some ⟨b, queue ++ [adapter.wrap message], false⟩⟩

theorem pending_of_queue {adapter : Adapter Payload Broadcaster}
    {queue : List (HttpBroadcastMessage Payload)} (started : adapter.messageQueue = some queue) :
    adapter.pending = queue := by
  unfold Adapter.pending
  rw [started, Option.getD_some]

namespace Adapter

theorem broadcastMessages_eq (adapter : Adapter Payload Broadcaster) (b : Broadcaster)
    (messages : List (HttpBroadcastMessage Payload)) (answers : Answers Broadcaster) :
    broadcastMessages adapter b messages answers.broadcast =
      ⟨adapter, if answers.completes then .ok () else broadcastFailed,
        some ⟨b, messages, answers.completes⟩⟩ := by
  unfold broadcastMessages Answers.completes
  split <;> rfl

theorem broadcastMessages_ok (adapter : Adapter Payload Broadcaster) (b : Broadcaster)
    (messages : List (HttpBroadcastMessage Payload)) (future : Option Unit) :
    broadcastMessages adapter b messages (.ok (future.map .ok)) =
      ⟨adapter, .ok (), some ⟨b, messages, true⟩⟩ := by
  cases future <;> rfl

theorem handleMessage_handles (adapter : Adapter Payload Broadcaster) (message : Message Payload)
    (answers : Answers Broadcaster) {queue : List (HttpBroadcastMessage Payload)}
    (started : adapter.messageQueue = some queue) :
    Handles adapter message answers queue (adapter.handleMessage message answers) := by
  have length : (((queue ++ [adapter.wrap message]).length : Nat) : Int) =
      (queue.length : Int) + 1 := by
    rw [List.length_append, List.length_singleton]
    rfl
  have positive : (queue ++ [adapter.wrap message]).length > 0 := by
    rw [List.length_append, List.length_singleton]
    omega
  unfold handleMessage
  simp only [started, length]
  by_cases reached : adapter.messageThreshold ≤ (queue.length : Int) + 1
  · rw [if_pos reached]
    unfold ensureBroadcasterSetup
    cases cached : adapter.broadcaster with
    | some b =>
        have available : adapter.lookedUp answers = .ok (some b) := by
          simp only [lookedUp, cached]
        simp only [if_pos positive, broadcastMessages_eq]
        cases completes : answers.completes with
        | true => exact .completed _ b reached available completes rfl
        | false => exact .thrown _ b reached available completes rfl
    | none =>
        have asked : adapter.lookedUp answers = answers.lookup := by
          simp only [lookedUp, cached]
        cases found : answers.lookup with
        | error => exact .lookupFails _ reached (asked.trans found) rfl
        | ok answer =>
            cases answer with
            | none => exact .unavailable _ reached (asked.trans found) rfl
            | some b =>
                simp only [Except.map, if_pos positive, broadcastMessages_eq]
                cases completes : answers.completes with
                | true => exact .completed _ b reached (asked.trans found) completes rfl
                | false => exact .thrown _ b reached (asked.trans found) completes rfl
  · rw [if_neg reached]
    exact .below _ (by omega) rfl

theorem attempted_isSome_iff (adapter : Adapter Payload Broadcaster) (message : Message Payload)
    (answers : Answers Broadcaster) {queue : List (HttpBroadcastMessage Payload)}
    (started : adapter.messageQueue = some queue) :
    (adapter.handleMessage message answers).attempted.isSome = true ↔
      adapter.messageThreshold ≤ (queue.length : Int) + 1 ∧
        ∃ b, adapter.lookedUp answers = .ok (some b) := by
  have handles := adapter.handleMessage_handles message answers started
  generalize adapter.handleMessage message answers = handled at handles
  cases handles with
  | below found short kept =>
      exact iff_of_false nofun fun given => by omega
  | lookupFails found reached thrown kept =>
      apply iff_of_false nofun
      intro given
      obtain ⟨_, b, available⟩ := given
      rw [available] at thrown
      cases thrown
  | unavailable found reached absent kept =>
      apply iff_of_false nofun
      intro given
      obtain ⟨_, b, available⟩ := given
      rw [available] at absent
      cases absent
  | completed found b reached available completes drained =>
      exact iff_of_true rfl ⟨reached, b, available⟩
  | thrown found b reached available throws drained =>
      exact iff_of_true rfl ⟨reached, b, available⟩

theorem handleMessage_queue (adapter : Adapter Payload Broadcaster) (message : Message Payload)
    (answers : Answers Broadcaster) {queue : List (HttpBroadcastMessage Payload)}
    (started : adapter.messageQueue = some queue) :
    ∃ after, (adapter.handleMessage message answers).adapter.messageQueue = some after := by
  have handles := adapter.handleMessage_handles message answers started
  generalize adapter.handleMessage message answers = handled at handles
  cases handles with
  | below found short kept => exact ⟨_, kept⟩
  | lookupFails found reached thrown kept => exact ⟨_, kept⟩
  | unavailable found reached absent kept => exact ⟨_, kept⟩
  | completed found b reached available completes drained => exact ⟨_, drained⟩
  | thrown found b reached available throws drained => exact ⟨_, drained⟩

/-- The configuration never changes, and each call constructs one wrapper. -/
theorem handleMessage_configuration (adapter : Adapter Payload Broadcaster)
    (message : Message Payload) (answers : Answers Broadcaster) :
    (adapter.handleMessage message answers).adapter.messageThreshold =
        adapter.messageThreshold ∧
      (adapter.handleMessage message answers).adapter.allocated = adapter.allocated + 1 ∧
      (adapter.handleMessage message answers).adapter.componentName = adapter.componentName ∧
      (adapter.handleMessage message answers).adapter.extractResponsePayload =
        adapter.extractResponsePayload := by
  unfold handleMessage ensureBroadcasterSetup
  cases adapter.messageQueue with
  | none => exact ⟨rfl, rfl, rfl, rfl⟩
  | some queue =>
      dsimp only
      split
      · cases adapter.broadcaster with
        | some b =>
            dsimp only
            split
            · rw [broadcastMessages_eq]
              exact ⟨rfl, rfl, rfl, rfl⟩
            · exact ⟨rfl, rfl, rfl, rfl⟩
        | none =>
            cases answers.lookup with
            | error => exact ⟨rfl, rfl, rfl, rfl⟩
            | ok answer =>
                cases answer with
                | none => exact ⟨rfl, rfl, rfl, rfl⟩
                | some b =>
                    simp only [Except.map]
                    split
                    · rw [broadcastMessages_eq]
                      exact ⟨rfl, rfl, rfl, rfl⟩
                    · exact ⟨rfl, rfl, rfl, rfl⟩
      · exact ⟨rfl, rfl, rfl, rfl⟩

end Adapter

end SpringExamples.Comet
