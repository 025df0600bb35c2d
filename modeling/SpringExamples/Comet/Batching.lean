/-
What a suspended resource receives.

`HttpMessageBroadcaster.broadcast` delivers each list handed to the broadcaster to a
resource: a list of wrappers is merged into one message whose payload is the list of
their payloads, in order.  Together with the adapter's queue this is a pipeline from
the messages handled to the payloads written.  Without failures the threshold decides
only how the stream is cut into batches and how much of it still waits.
-/

import SpringExamples.Comet.FailedBroadcasts

set_option autoImplicit false

namespace SpringExamples.Comet

open Runs

variable {Payload Broadcaster : Type}

namespace HttpMessageBroadcaster

/-- The message of an `AtmosphereResourceEvent`; `none` in a list is any object that is
not an `HttpBroadcastMessage`. -/
inductive EventMessage (Payload : Type) where
  | list (messageBacklog : List (Option (HttpBroadcastMessage Payload)))
  | single (message : HttpBroadcastMessage Payload)
  | other

/-- What reaches the resource: the merged payloads, whatever `DefaultBroadcaster` does
with the event, or a foreign element met while merging. -/
inductive Delivery (Payload : Type) where
  | written (payloads : List Payload)
  | delegated
  | classCastException

def mergeMessagesForBroadcast (messages : List (HttpBroadcastMessage Payload)) : List Payload :=
  messages.map fun message => message.message.payload

/-- Only the first element of a list is tested. -/
def broadcast : EventMessage Payload → Delivery Payload
  | .list [] => .delegated
  | .list (none :: _) => .delegated
  | .list (some first :: rest) =>
      match rest.mapM id with
      | some messages => .written (mergeMessagesForBroadcast (first :: messages))
      | none => .classCastException
  | .single message => .written (mergeMessagesForBroadcast [message])
  | .other => .delegated

def Delivery.payloads : Delivery Payload → List Payload
  | .written payloads => payloads
  | .delegated => []
  | .classCastException => []

theorem mapM_id_map_some {Item : Type} (items : List Item) :
    (items.map some).mapM id = some items := by
  induction items with
  | nil => rfl
  | cons head tail ih =>
      rw [List.map_cons, List.mapM_cons, ih]
      rfl

theorem broadcast_wrappers (messages : List (HttpBroadcastMessage Payload)) :
    (broadcast (.list (messages.map some))).payloads = mergeMessagesForBroadcast messages := by
  cases messages with
  | nil => rfl
  | cons first rest =>
      rw [List.map_cons, broadcast, mapM_id_map_some]
      rfl

end HttpMessageBroadcaster

open HttpMessageBroadcaster

def streamed (broadcasts : List (Broadcast Payload Broadcaster)) : List Payload :=
  broadcasts.flatMap fun item =>
    (HttpMessageBroadcaster.broadcast (.list (item.messages.map some))).payloads

theorem streamed_snoc (broadcasts : List (Broadcast Payload Broadcaster))
    (item : Broadcast Payload Broadcaster) :
    streamed (broadcasts ++ [item]) =
      streamed broadcasts ++ mergeMessagesForBroadcast item.messages := by
  unfold streamed
  rw [List.flatMap_append, List.flatMap_singleton, broadcast_wrappers]

/-- A call whose lookup finds a broadcaster and whose broadcast, with or without a
future, completes. -/
structure Undisturbed (Payload Broadcaster : Type) where
  message : Message Payload
  broadcaster : Broadcaster
  future : Option Unit

namespace Undisturbed

def request (calm : Undisturbed Payload Broadcaster) :
    Message Payload × Answers Broadcaster :=
  (calm.message, ⟨.ok (some calm.broadcaster), .ok (calm.future.map .ok)⟩)

def handle (endpoint : Endpoint Payload Broadcaster) (calm : Undisturbed Payload Broadcaster) :
    Endpoint Payload Broadcaster :=
  endpoint.call calm.request

theorem completes (calm : Undisturbed Payload Broadcaster) :
    calm.request.2.completes = true := by
  unfold request Answers.completes
  cases calm.future <;> rfl

theorem available (calm : Undisturbed Payload Broadcaster)
    (adapter : Adapter Payload Broadcaster) :
    ∃ b, adapter.lookedUp calm.request.2 = .ok (some b) := by
  unfold Adapter.lookedUp
  cases adapter.broadcaster with
  | some b => exact ⟨b, rfl⟩
  | none => exact ⟨calm.broadcaster, rfl⟩

end Undisturbed

theorem wrap_payload (adapter : Adapter Payload Broadcaster) (message : Message Payload) :
    (adapter.wrap message).message.payload = message.payload := by
  change (message.setHeaderIfAbsent endpointPathHeader adapter.componentName).payload = _
  unfold Message.setHeaderIfAbsent
  split <;> rfl

/-- The stream so far and the queue split the payloads handled so far, and the queue
holds the remainder of their number modulo the effective threshold. -/
structure Batched (threshold : Int) (payloads : List Payload)
    (endpoint : Endpoint Payload Broadcaster) : Prop where
  configured : endpoint.adapter.messageThreshold = threshold
  running : ∃ queue, endpoint.adapter.messageQueue = some queue
  split : streamed endpoint.broadcasts ++ mergeMessagesForBroadcast endpoint.adapter.pending =
    payloads
  remainder : (endpoint.adapter.pending.length : Int) = payloads.length % max 1 threshold

theorem batched_started (adapter : Adapter Payload Broadcaster) :
    Batched adapter.messageThreshold [] (Endpoint.started adapter) where
  configured := rfl
  running := ⟨[], rfl⟩
  split := rfl
  remainder := by
    change ((0 : Nat) : Int) = ((0 : Nat) : Int) % _
    rw [Int.natCast_zero, Int.zero_emod]

theorem succ_emod_below (count threshold : Int) (short : count % max 1 threshold + 1 < threshold) :
    (count + 1) % max 1 threshold = count % max 1 threshold + 1 := by
  have effective : max 1 threshold = threshold := by
    have nonnegative : 0 ≤ count % max 1 threshold := Int.emod_nonneg _ (by omega)
    omega
  rw [effective] at short ⊢
  have nonnegative : 0 ≤ count % threshold := Int.emod_nonneg _ (by
    intro zero
    rw [zero] at effective
    omega)
  rw [Int.add_emod, Int.emod_eq_of_lt (a := count % threshold + 1 % threshold)]
  all_goals rw [Int.emod_eq_of_lt (a := 1) (by omega) (by omega)]
  · omega
  · omega

theorem succ_emod_reached (count threshold : Int)
    (reached : threshold ≤ count % max 1 threshold + 1) :
    (count + 1) % max 1 threshold = 0 := by
  have positive : 0 < max 1 threshold := by omega
  have below : count % max 1 threshold < max 1 threshold := Int.emod_lt_of_pos _ positive
  have nonnegative : 0 ≤ count % max 1 threshold := Int.emod_nonneg _ (by omega)
  have full : count % max 1 threshold + 1 = max 1 threshold := by omega
  have whole := Int.emod_add_mul_ediv count (max 1 threshold)
  apply Int.emod_eq_zero_of_dvd
  refine ⟨count / max 1 threshold + 1, ?_⟩
  rw [Int.mul_add, Int.mul_one]
  omega

theorem batched_handle {threshold : Int} {payloads : List Payload}
    {endpoint : Endpoint Payload Broadcaster} (batched : Batched threshold payloads endpoint)
    (calm : Undisturbed Payload Broadcaster) :
    Batched threshold (payloads ++ [calm.message.payload]) (calm.handle endpoint) := by
  obtain ⟨queue, started⟩ := batched.running
  have waiting := pending_of_queue started
  have handles := Adapter.handleMessage_handles endpoint.adapter calm.request.1 calm.request.2
    started
  have configured := (Adapter.handleMessage_configuration endpoint.adapter calm.request.1
    calm.request.2).1
  have remainder := batched.remainder
  have split := batched.split
  rw [waiting] at remainder split
  have length : (((payloads ++ [calm.message.payload]).length : Nat) : Int) =
      (payloads.length : Int) + 1 := by
    rw [List.length_append, List.length_singleton]
    rfl
  have merged : mergeMessagesForBroadcast (queue ++ [endpoint.adapter.wrap calm.request.1]) =
      mergeMessagesForBroadcast queue ++ [calm.message.payload] := by
    unfold mergeMessagesForBroadcast
    rw [List.map_append, List.map_singleton, wrap_payload]
    rfl
  obtain ⟨found, present⟩ := calm.available endpoint.adapter
  unfold Undisturbed.handle Endpoint.call
  dsimp only
  generalize endpoint.adapter.handleMessage calm.request.1 calm.request.2 = handled
    at handles configured
  cases handles with
  | below adapter short kept =>
      have waitingNow := pending_of_queue kept
      refine ⟨configured.trans batched.configured, ⟨_, kept⟩, ?_, ?_⟩
      · simp only [Option.toList_none, List.append_nil, waitingNow, merged]
        rw [← List.append_assoc, split]
      · simp only [waitingNow]
        rw [length, succ_emod_below, ← remainder, List.length_append, List.length_singleton]
        · rfl
        · rw [← remainder, ← batched.configured]
          exact short
  | lookupFails adapter reached thrown kept =>
      rw [present] at thrown
      cases thrown
  | unavailable adapter reached absent kept =>
      rw [present] at absent
      cases absent
  | completed adapter b reached available completes drained =>
      have waitingNow := pending_of_queue drained
      refine ⟨configured.trans batched.configured, ⟨_, drained⟩, ?_, ?_⟩
      · simp only [Option.toList_some, streamed_snoc, waitingNow, merged]
        rw [← List.append_assoc, split]
        exact List.append_nil _
      · simp only [waitingNow]
        rw [length, succ_emod_reached]
        · rfl
        · rw [← remainder, ← batched.configured]
          exact reached
  | thrown adapter b reached available throws drained =>
      rw [calm.completes] at throws
      cases throws

theorem batched_run (adapter : Adapter Payload Broadcaster)
    (calls : List (Undisturbed Payload Broadcaster)) :
    Batched adapter.messageThreshold (calls.map fun calm => calm.message.payload)
      (calls.foldl (fun endpoint calm => calm.handle endpoint) (Endpoint.started adapter)) := by
  induction calls using List.reverseRecOn with
  | nil => exact batched_started adapter
  | append_singleton before calm ih =>
      rw [List.map_append, List.map_singleton, List.foldl_append, List.foldl_cons,
        List.foldl_nil]
      exact batched_handle ih calm

theorem streamed_prefix_payloads (adapter : Adapter Payload Broadcaster)
    (calls : List (Undisturbed Payload Broadcaster)) :
    streamed (calls.foldl (fun endpoint calm => calm.handle endpoint)
        (Endpoint.started adapter)).broadcasts <+:
      calls.map fun calm => calm.message.payload :=
  ⟨_, (batched_run adapter calls).split⟩

/-- Batching is transparent: the stream and then the queue are the payloads in order, the
queue holds the remainder, two thresholds give streams of which one is a prefix of the
other, and an effective threshold of one gives the whole sequence. -/
theorem batching_transparent (adapter : Adapter Payload Broadcaster)
    (calls : List (Undisturbed Payload Broadcaster)) :
    let last := calls.foldl (fun endpoint calm => calm.handle endpoint) (Endpoint.started adapter)
    streamed last.broadcasts ++ mergeMessagesForBroadcast last.adapter.pending =
        calls.map (fun calm => calm.message.payload) ∧
      (last.adapter.pending.length : Int) = calls.length % max 1 adapter.messageThreshold ∧
      (∀ other : Adapter Payload Broadcaster,
        let lastOther := calls.foldl (fun endpoint calm => calm.handle endpoint)
          (Endpoint.started other)
        streamed last.broadcasts <+: streamed lastOther.broadcasts ∨
          streamed lastOther.broadcasts <+: streamed last.broadcasts) ∧
      (adapter.messageThreshold ≤ 1 →
        streamed last.broadcasts = calls.map fun calm => calm.message.payload) := by
  intro last
  have batched := batched_run adapter calls
  have remainder := batched.remainder
  rw [List.length_map] at remainder
  refine ⟨batched.split, remainder, ?_, ?_⟩
  · intro other lastOther
    exact List.prefix_or_prefix_of_prefix (streamed_prefix_payloads adapter calls)
      (streamed_prefix_payloads other calls)
  · intro unbatched
    have effective : max 1 adapter.messageThreshold = 1 := by omega
    rw [effective, Int.emod_one] at remainder
    have empty : last.adapter.pending = [] := by
      apply List.eq_nil_of_length_eq_zero
      exact Int.ofNat.inj remainder
    have split := batched.split
    change streamed last.broadcasts ++ mergeMessagesForBroadcast last.adapter.pending = _ at split
    rw [empty] at split
    rw [← split]
    exact (List.append_nil _).symm

end SpringExamples.Comet
