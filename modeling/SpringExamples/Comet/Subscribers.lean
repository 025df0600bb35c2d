/-
What the subscribers of a servlet receive.

A broadcast reaches each resource that is suspended at the time, and the list it was handed
is merged into one body, which is received if writing it returns.  A streaming resource stays
suspended and is offered every later batch; a long-polling one is resumed by the first that it
receives.  Each payload is tagged with the endpoint that handled it, so what a subscriber
received can be held against what each endpoint handled and still keeps.
-/

import SpringExamples.Comet.Batching
import SpringExamples.Comet.Endpoints

set_option autoImplicit false

namespace SpringExamples.Comet.Servlet

open HttpMessageBroadcaster Runs

variable {Index Payload : Type} [DecidableEq Index]

/-- What the event hands to the broadcaster, merged, if it broadcasts at all. -/
def batch (servlet : Servlet Index Payload) :
    Event Index Payload → Option (List (Index × Payload))
  | .request _ _ => none
  | .handle endpoint message future _ =>
      let call :=
        (servlet.adapters endpoint).handleMessage message (servlet.answers endpoint future)
      call.attempted.map fun item =>
        (HttpMessageBroadcaster.broadcast (.list (item.messages.map some))).payloads.map
          fun payload => (endpoint, payload)
  | .disconnect _ => none

def subscriptionsOf (servlet : Servlet Index Payload) (resource : Nat) :
    List (Subscription Index) :=
  servlet.suspended.filter fun subscription => subscription.resource = resource

/-- Whether a broadcast that the event makes to the resource returns. -/
def Event.returns (resource : Nat) : Event Index Payload → Bool
  | .request _ _ => true
  | .handle _ _ _ returns => returns resource
  | .disconnect _ => true

/-- The bodies that the event writes to the resource. -/
def writes (resource : Nat) (servlet : Servlet Index Payload) (event : Event Index Payload) :
    List (List (Index × Payload)) :=
  match servlet.batch event with
  | none => []
  | some payloads =>
      if event.returns resource then (servlet.subscriptionsOf resource).map fun _ => payloads
      else []

def batches (servlet : Servlet Index Payload) :
    List (Event Index Payload) → List (List (Index × Payload))
  | [] => []
  | event :: rest => (servlet.batch event).toList ++ batches (servlet.next event) rest

/-- The batches that can be written to the resource. -/
def returned (resource : Nat) (servlet : Servlet Index Payload) :
    List (Event Index Payload) → List (List (Index × Payload))
  | [] => []
  | event :: rest =>
      (if event.returns resource then (servlet.batch event).toList else []) ++
        returned resource (servlet.next event) rest

def received (resource : Nat) (servlet : Servlet Index Payload) :
    List (Event Index Payload) → List (List (Index × Payload))
  | [] => []
  | event :: rest => servlet.writes resource event ++ received resource (servlet.next event) rest

/-- The event neither brings the resource's own request nor ends its connection. -/
def Leaves (resource : Nat) : Event Index Payload → Prop
  | .request _ request => request.resource ≠ resource
  | .handle _ _ _ _ => True
  | .disconnect other => other ≠ resource

instance decidableLeaves (resource : Nat) :
    (event : Event Index Payload) → Decidable (Leaves resource event)
  | .request _ request => inferInstanceAs (Decidable (request.resource ≠ resource))
  | .handle _ _ _ _ => isTrue trivial
  | .disconnect other => inferInstanceAs (Decidable (other ≠ resource))

/-- The payloads of the endpoint, in the order of the batches. -/
def published (endpoint : Index) (batches : List (List (Index × Payload))) : List Payload :=
  batches.flatten.filterMap fun item => if item.1 = endpoint then some item.2 else none

def handledBy (endpoint : Index) (events : List (Event Index Payload)) : List Payload :=
  events.filterMap fun event =>
    match event with
    | .handle other message _ _ => if other = endpoint then some message.payload else none
    | .request _ _ => none
    | .disconnect _ => none

def waiting (servlet : Servlet Index Payload) (endpoint : Index) : List Payload :=
  mergeMessagesForBroadcast (servlet.adapters endpoint).pending

section Suspension

variable {servlet : Servlet Index Payload}

omit [DecidableEq Index] in
theorem batch_handle (servlet : Servlet Index Payload) (endpoint : Index)
    (message : Message Payload) (future : Option Unit) (returns : Nat → Bool) :
    servlet.batch (.handle endpoint message future returns) =
      ((servlet.adapters endpoint).handleMessage message
        (servlet.answers endpoint future)).attempted.map fun item =>
          (mergeMessagesForBroadcast item.messages).map fun payload => (endpoint, payload) := by
  unfold batch
  simp only [broadcast_wrappers]

omit [DecidableEq Index] in
/-- For the subscriptions of one resource only the answer for that resource matters. -/
theorem filter_answered (returns : Nat → Bool) (resource : Nat)
    (suspended : List (Subscription Index)) :
    (suspended.filter fun subscription =>
        !(subscription.resumeOnBroadcast && returns subscription.resource)).filter
          (fun subscription => subscription.resource = resource) =
      (suspended.filter fun subscription => subscription.resource = resource).filter
        fun subscription => !(subscription.resumeOnBroadcast && returns resource) := by
  rw [List.filter_filter, List.filter_filter]
  apply List.filter_congr
  intro subscription _
  by_cases own : subscription.resource = resource
  · rw [own, Bool.and_comm]
  · simp [own]

/-- A broadcast that returns resumes the resources that asked for it; nothing else that leaves a
resource alone changes whether it is suspended. -/
theorem subscriptionsOf_next (servlet : Servlet Index Payload) {resource : Nat}
    {event : Event Index Payload} (leaves : Leaves resource event) :
    (servlet.next event).subscriptionsOf resource =
      if (servlet.batch event).isSome && event.returns resource then
        (servlet.subscriptionsOf resource).filter fun subscription =>
          !subscription.resumeOnBroadcast
      else servlet.subscriptionsOf resource := by
  unfold subscriptionsOf
  cases event with
  | request endpoint request =>
      have kept := servlet.setID_suspended endpoint
      change (servlet.handleRequest endpoint request).suspended.filter _ = _
      unfold handleRequest
      cases request.method with
      | get =>
          change ((servlet.setID endpoint).suspended ++ [_]).filter _ = _
          rw [List.filter_append, List.filter_singleton, kept]
          have other : decide (request.resource = resource) = false := decide_eq_false leaves
          simp only [other]
          exact List.append_nil _
      | post => exact congrArg (List.filter _) kept
      | other => exact congrArg (List.filter _) kept
  | handle endpoint message future returns =>
      change (servlet.handle endpoint message future returns).suspended.filter _ = _
      rw [batch_handle, Option.isSome_map]
      unfold handle Event.returns
      dsimp only
      cases broadcasts : ((servlet.adapters endpoint).handleMessage message
          (servlet.answers endpoint future)).attempted.isSome with
      | false => rfl
      | true =>
          simp only [if_true, Bool.true_and]
          rw [filter_answered]
          cases returns resource with
          | true => simp only [if_true, Bool.and_true]
          | false =>
              simp only [Bool.and_false, Bool.not_false, List.filter_true, Bool.false_eq_true,
                if_false]
  | disconnect other =>
      change (servlet.suspended.filter fun subscription =>
        subscription.resource != other).filter _ = _
      rw [List.filter_filter]
      apply List.filter_congr
      intro subscription member
      by_cases own : subscription.resource = resource
      · have apart : subscription.resource ≠ other := fun same => leaves (same.symm.trans own)
        simp [own, bne_iff_ne, own ▸ apart]
      · simp [own]

omit [DecidableEq Index] in
theorem writes_none {resource : Nat} {event : Event Index Payload}
    (silent : servlet.batch event = none ∨ event.returns resource = false) :
    servlet.writes resource event = [] := by
  unfold writes
  rcases silent with nothing | throws
  · rw [nothing]
  · rw [throws]
    split <;> rfl

omit [DecidableEq Index] in
theorem writes_some {resource : Nat} {event : Event Index Payload}
    {payloads : List (Index × Payload)} (broadcasts : servlet.batch event = some payloads)
    (returns : event.returns resource = true) :
    servlet.writes resource event =
      (servlet.subscriptionsOf resource).map fun _ => payloads := by
  unfold writes
  rw [broadcasts]
  exact if_pos returns

omit [DecidableEq Index] in
/-- Either nothing is written to the resource, or one batch to each of its subscriptions. -/
theorem batch_or (servlet : Servlet Index Payload) (resource : Nat)
    (event : Event Index Payload) :
    ((servlet.batch event).isSome && event.returns resource) = false ∧
        servlet.writes resource event = [] ∧
        (if event.returns resource then (servlet.batch event).toList else []) = [] ∨
      ∃ payloads, ((servlet.batch event).isSome && event.returns resource) = true ∧
        servlet.writes resource event =
          ((servlet.subscriptionsOf resource).map fun _ => payloads) ∧
        (if event.returns resource then (servlet.batch event).toList else []) = [payloads] := by
  cases broadcasts : servlet.batch event with
  | none =>
      refine Or.inl ⟨rfl, writes_none (Or.inl broadcasts), ?_⟩
      exact ite_self []
  | some payloads =>
      cases returns : event.returns resource with
      | false => exact Or.inl ⟨rfl, writes_none (Or.inr returns), rfl⟩
      | true => exact Or.inr ⟨payloads, rfl, writes_some broadcasts returns, rfl⟩

theorem received_unsubscribed {resource : Nat} (events : List (Event Index Payload))
    (stays : ∀ event ∈ events, Leaves resource event)
    (resumed : servlet.subscriptionsOf resource = []) :
    received resource servlet events = [] ∧
      (events.foldl next servlet).subscriptionsOf resource = [] := by
  induction events generalizing servlet with
  | nil => exact ⟨rfl, resumed⟩
  | cons event rest ih =>
      have still : (servlet.next event).subscriptionsOf resource = [] := by
        rw [subscriptionsOf_next _ (stays event List.mem_cons_self), resumed, List.filter_nil]
        exact ite_self []
      have nothing : servlet.writes resource event = [] := by
        rcases servlet.batch_or resource event with ⟨_, silent, _⟩ | ⟨payloads, _, written, _⟩
        · exact silent
        · rw [written, resumed, List.map_nil]
      obtain ⟨later, last⟩ :=
        ih (fun event' member => stays event' (List.mem_cons_of_mem event member)) still
      refine ⟨?_, last⟩
      rw [received, nothing, later]
      rfl

theorem received_streaming {resource : Nat} {subscription : Subscription Index}
    (events : List (Event Index Payload)) (stays : ∀ event ∈ events, Leaves resource event)
    (single : servlet.subscriptionsOf resource = [subscription])
    (streaming : subscription.resumeOnBroadcast = false) :
    received resource servlet events = returned resource servlet events ∧
      (events.foldl next servlet).subscriptionsOf resource = [subscription] := by
  induction events generalizing servlet with
  | nil => exact ⟨rfl, single⟩
  | cons event rest ih =>
      have still : (servlet.next event).subscriptionsOf resource = [subscription] := by
        rw [subscriptionsOf_next _ (stays event List.mem_cons_self), single,
          List.filter_singleton, streaming]
        exact ite_self [subscription]
      have written : servlet.writes resource event =
          if event.returns resource then (servlet.batch event).toList else [] := by
        rcases servlet.batch_or resource event with
          ⟨_, silent, nothing⟩ | ⟨payloads, _, writes, one⟩
        · rw [silent, nothing]
        · rw [writes, one, single]
          rfl
      obtain ⟨later, last⟩ :=
        ih (fun event' member => stays event' (List.mem_cons_of_mem event member)) still
      refine ⟨?_, last⟩
      rw [received, returned, written, later]

theorem received_longPolling {resource : Nat} {subscription : Subscription Index}
    (events : List (Event Index Payload)) (stays : ∀ event ∈ events, Leaves resource event)
    (single : servlet.subscriptionsOf resource = [subscription])
    (resumes : subscription.resumeOnBroadcast = true) :
    received resource servlet events = (returned resource servlet events).head?.toList ∧
      (events.foldl next servlet).subscriptionsOf resource =
        if returned resource servlet events = [] then [subscription] else [] := by
  induction events generalizing servlet with
  | nil => exact ⟨rfl, single⟩
  | cons event rest ih =>
      have laterStays : ∀ event' ∈ rest, Leaves resource event' :=
        fun event' member => stays event' (List.mem_cons_of_mem event member)
      have following := subscriptionsOf_next servlet (stays event List.mem_cons_self)
      rw [single, List.filter_singleton, resumes] at following
      rw [received, returned]
      rcases servlet.batch_or resource event with
        ⟨silent, nothing, none⟩ | ⟨payloads, broadcasts, written, one⟩
      · rw [silent] at following
        rw [nothing, none]
        exact ih laterStays following
      · -- The first batch that is written resumes the resource; the rest pass it by.
        rw [broadcasts] at following
        obtain ⟨later, last⟩ := received_unsubscribed rest laterStays following
        rw [written, one, single, later]
        exact ⟨rfl, last⟩

/-- Where nothing throws, every batch can be written. -/
theorem returned_of_returns {resource : Nat} {events : List (Event Index Payload)}
    (returns : ∀ event ∈ events, event.returns resource = true) :
    returned resource servlet events = batches servlet events := by
  induction events generalizing servlet with
  | nil => rfl
  | cons event rest ih =>
      rw [returned, batches, if_pos (returns event List.mem_cons_self),
        ih fun later member => returns later (List.mem_cons_of_mem event member)]

end Suspension

section Accounts

variable {servlet : Servlet Index Payload}

theorem published_append (endpoint : Index) (first second : List (List (Index × Payload))) :
    published endpoint (first ++ second) =
      published endpoint first ++ published endpoint second := by
  unfold published
  rw [List.flatten_append, List.filterMap_append]

theorem published_own (endpoint : Index) (payloads : List Payload) :
    published endpoint [payloads.map fun payload => (endpoint, payload)] = payloads := by
  unfold published
  rw [List.flatten_singleton, List.filterMap_map]
  simp only [Function.comp_def, if_true, List.filterMap_some]

theorem published_other {endpoint other : Index} (different : other ≠ endpoint)
    (payloads : List Payload) :
    published endpoint [payloads.map fun payload => (other, payload)] = [] := by
  unfold published
  rw [List.flatten_singleton, List.filterMap_map]
  simp only [Function.comp_def, if_neg different, List.filterMap_none]

/-- One event moves what an endpoint handles and keeps from its queue into a batch. -/
theorem account_next (running : ∀ endpoint, ∃ queue,
      (servlet.adapters endpoint).messageQueue = some queue)
    (event : Event Index Payload) (endpoint : Index) :
    servlet.waiting endpoint ++ handledBy endpoint [event] =
      published endpoint (servlet.batch event).toList ++ (servlet.next event).waiting endpoint := by
  cases event with
  | request other request =>
      have adapters := (servlet.handleRequest_fields other request).2.1
      change servlet.waiting endpoint ++ [] =
        [] ++ mergeMessagesForBroadcast ((servlet.handleRequest other request).adapters
          endpoint).pending
      rw [adapters, List.append_nil]
      rfl
  | disconnect resource => exact List.append_nil _
  | handle other message future returns =>
      have adapters := (servlet.handle_fields other message future returns).2.2.2
      have queued : (servlet.next (.handle other message future returns)).waiting endpoint =
          mergeMessagesForBroadcast (Function.update servlet.adapters other
            ((servlet.adapters other).handleMessage message
              (servlet.answers other future)).adapter endpoint).pending := by
        rw [← adapters]
        rfl
      rw [queued]
      by_cases own : other = endpoint
      · subst own
        obtain ⟨queue, started⟩ := running other
        have handles := Adapter.handleMessage_handles (servlet.adapters other) message
          (servlet.answers other future) started
        have handled : handledBy other [.handle other message future returns] =
            [message.payload] := by
          simp only [handledBy, List.filterMap_cons, if_true, List.filterMap_nil]
        have merged : mergeMessagesForBroadcast
              (queue ++ [(servlet.adapters other).wrap message]) =
            servlet.waiting other ++ [message.payload] := by
          unfold waiting mergeMessagesForBroadcast
          rw [pending_of_queue started, List.map_append, List.map_singleton, wrap_payload]
        rw [Function.update_self, handled, ← merged]
        rw [batch_handle]
        generalize (servlet.adapters other).handleMessage message
          (servlet.answers other future) = call at handles
        cases handles with
        | below found short kept => rw [pending_of_queue kept]; rfl
        | lookupFails found reached thrown kept => rw [pending_of_queue kept]; rfl
        | unavailable found reached absent kept => rw [pending_of_queue kept]; rfl
        | completed found b reached available completes drained =>
            rw [pending_of_queue drained, Option.map_some, Option.toList_some, published_own]
            exact (List.append_nil _).symm
        | thrown found b reached available throws drained =>
            rw [pending_of_queue drained, Option.map_some, Option.toList_some, published_own]
            exact (List.append_nil _).symm
      · rw [Function.update_of_ne (Ne.symm own)]
        have handled : handledBy endpoint [.handle other message future returns] = [] := by
          simp only [handledBy, List.filterMap_cons, if_neg own, List.filterMap_nil]
        have foreign : published endpoint
            (servlet.batch (.handle other message future returns)).toList = [] := by
          rw [batch_handle]
          generalize ((servlet.adapters other).handleMessage message
            (servlet.answers other future)).attempted = attempted
          cases attempted with
          | none => rfl
          | some item => exact published_other own _
        rw [handled, foreign, List.append_nil]
        rfl

theorem account_run {componentName : Index → String} (registered : Registered componentName servlet)
    (events : List (Event Index Payload)) (endpoint : Index) :
    servlet.waiting endpoint ++ handledBy endpoint events =
      published endpoint (batches servlet events) ++
        (events.foldl next servlet).waiting endpoint := by
  induction events generalizing servlet with
  | nil => exact List.append_nil _
  | cons event rest ih =>
      have here := account_next registered.running event endpoint
      have later := ih (registered_next registered event)
      have handled : handledBy endpoint (event :: rest) =
          handledBy endpoint [event] ++ handledBy endpoint rest := by
        unfold handledBy
        rw [← List.filterMap_append]
        rfl
      rw [handled, ← List.append_assoc, here, List.append_assoc, later, batches,
        published_append, List.append_assoc, List.foldl_cons]

end Accounts

section Lag

variable {servlet : Servlet Index Payload}

omit [DecidableEq Index] in
theorem broadcaster_of_missed {adapter : Adapter Payload Unit} (message : Message Payload)
    (answers : Answers Unit) {queue : List (HttpBroadcastMessage Payload)}
    (started : adapter.messageQueue = some queue)
    (reached : adapter.messageThreshold ≤ (queue.length : Int) + 1)
    (missed : ∀ b, adapter.lookedUp answers ≠ .ok (some b)) :
    (adapter.handleMessage message answers).adapter.broadcaster = none := by
  have length : (((queue ++ [adapter.wrap message]).length : Nat) : Int) =
      (queue.length : Int) + 1 := by
    rw [List.length_append, List.length_singleton]
    rfl
  have uncached : adapter.broadcaster = none := by
    cases cached : adapter.broadcaster with
    | none => rfl
    | some b =>
        apply absurd _ (missed b)
        simp only [Adapter.lookedUp, cached]
  have asked : adapter.lookedUp answers = answers.lookup := by
    simp only [Adapter.lookedUp, uncached]
  unfold Adapter.handleMessage Adapter.ensureBroadcasterSetup
  simp only [started, length, ge_iff_le, if_pos reached, uncached]
  cases found : answers.lookup with
  | error => rfl
  | ok answer =>
      cases answer with
      | none => rfl
      | some b => exact absurd (asked.trans found) (missed b)

omit [DecidableEq Index] in
/-- After a call that leaves the broadcaster found, fewer messages wait than the threshold. -/
theorem handleMessage_prompt (adapter : Adapter Payload Unit) (message : Message Payload)
    (answers : Answers Unit) {queue : List (HttpBroadcastMessage Payload)}
    (started : adapter.messageQueue = some queue)
    (found : (adapter.handleMessage message answers).adapter.broadcaster ≠ none) :
    ((adapter.handleMessage message answers).adapter.pending.length : Int) <
      max 1 adapter.messageThreshold := by
  have handles := adapter.handleMessage_handles message answers started
  have missing := broadcaster_of_missed message answers started
  generalize adapter.handleMessage message answers = call at handles missing found
  cases handles with
  | below after short kept =>
      rw [pending_of_queue kept, List.length_append, List.length_singleton]
      omega
  | lookupFails after reached thrown kept =>
      apply absurd _ found
      apply missing reached
      rw [thrown]
      exact fun _ => nofun
  | unavailable after reached absent kept =>
      apply absurd _ found
      apply missing reached
      rw [absent]
      exact fun _ => nofun
  | completed after b reached available completes drained =>
      rw [pending_of_queue drained, List.length_nil]
      omega
  | thrown after b reached available throws drained =>
      rw [pending_of_queue drained, List.length_nil]
      omega

/-- An endpoint that has found the broadcaster keeps fewer messages than its threshold. -/
structure Prompt (messageThreshold : Index → Int) (servlet : Servlet Index Payload) : Prop where
  configured : ∀ endpoint,
    (servlet.adapters endpoint).messageThreshold = messageThreshold endpoint
  current : ∀ endpoint, (servlet.adapters endpoint).broadcaster ≠ none →
    ((servlet.waiting endpoint).length : Int) < max 1 (messageThreshold endpoint)

omit [DecidableEq Index] in
theorem prompt_configured (broadcasterID : String) (componentName : Index → String)
    (messageThreshold : Index → Int) :
    Prompt messageThreshold
      (configured broadcasterID componentName messageThreshold : Servlet Index Payload) where
  configured := fun _ => rfl
  current := fun _ found => absurd rfl found

theorem prompt_next {componentName : Index → String} {messageThreshold : Index → Int}
    (registered : Registered componentName servlet) (prompt : Prompt messageThreshold servlet)
    (event : Event Index Payload) : Prompt messageThreshold (servlet.next event) := by
  have kept : ∀ other : Servlet Index Payload, other.adapters = servlet.adapters →
      Prompt messageThreshold other := by
    intro other same
    constructor
    · rw [same]
      exact prompt.configured
    · unfold waiting
      rw [same]
      exact prompt.current
  cases event with
  | request endpoint request => exact kept _ (servlet.handleRequest_fields endpoint request).2.1
  | disconnect resource => exact kept _ rfl
  | handle endpoint message future returns =>
      obtain ⟨queue, started⟩ := registered.running endpoint
      have adapters := (servlet.handle_fields endpoint message future returns).2.2.2
      have threshold := ((servlet.adapters endpoint).handleMessage_configuration message
        (servlet.answers endpoint future)).1
      have current := handleMessage_prompt (servlet.adapters endpoint) message
        (servlet.answers endpoint future) started
      change Prompt messageThreshold (servlet.handle endpoint message future returns)
      constructor
      · intro other
        rw [adapters]
        by_cases own : other = endpoint
        · rw [own, Function.update_self, threshold]
          exact prompt.configured endpoint
        · rw [Function.update_of_ne own]
          exact prompt.configured other
      · intro other
        unfold waiting mergeMessagesForBroadcast
        rw [adapters, List.length_map]
        by_cases own : other = endpoint
        · rw [own, Function.update_self, ← prompt.configured endpoint]
          exact current
        · rw [Function.update_of_ne own]
          have before := prompt.current other
          unfold waiting mergeMessagesForBroadcast at before
          rw [List.length_map] at before
          exact before

end Lag

section Subscribing

variable {componentName : Index → String} {messageThreshold : Index → Int}

theorem subscriptionsOf_subscribe {servlet : Servlet Index Payload} (endpoint : Index)
    {request : Request} (subscribes : request.method = .get)
    (new : servlet.subscriptionsOf request.resource = []) :
    (servlet.next (.request endpoint request)).subscriptionsOf request.resource =
      [⟨request.resource, endpoint, request.isLongPolling⟩] := by
  unfold subscriptionsOf at new ⊢
  change (servlet.handleRequest endpoint request).suspended.filter _ = _
  unfold handleRequest
  rw [subscribes]
  change ((servlet.setID endpoint).suspended ++ [_]).filter _ = _
  rw [List.filter_append, servlet.setID_suspended, new, List.filter_singleton]
  simp only [decide_true, cond_true, List.nil_append]

structure Reached (componentName : Index → String) (messageThreshold : Index → Int)
    (servlet : Servlet Index Payload) : Prop where
  registered : Registered componentName servlet
  prompt : Prompt messageThreshold servlet

theorem reached_next {servlet : Servlet Index Payload}
    (reached : Reached componentName messageThreshold servlet) (event : Event Index Payload) :
    Reached componentName messageThreshold (servlet.next event) :=
  ⟨registered_next reached.registered event, prompt_next reached.registered reached.prompt event⟩

theorem reached_run {servlet : Servlet Index Payload}
    (reached : Reached componentName messageThreshold servlet)
    (events : List (Event Index Payload)) :
    Reached componentName messageThreshold (events.foldl next servlet) :=
  run_invariant (total next) (Reached componentName messageThreshold)
    (fun servlet event following holds moved => by
      cases moved
      exact reached_next holds event)
    reached (run_total next servlet events)

omit [DecidableEq Index] in
theorem reached_configured (broadcasterID : String) (componentName : Index → String)
    (messageThreshold : Index → Int) :
    Reached componentName messageThreshold
      (configured broadcasterID componentName messageThreshold : Servlet Index Payload) :=
  ⟨registered_configured _ _ _, prompt_configured _ _ _⟩

/-- From its subscription on, a streaming resource is sent every batch that can be written to it,
once and in order.  For each endpoint, what it kept at the subscription and has handled since is
what it has broadcast since and what it still keeps; and once it has found the broadcaster, it
keeps fewer messages than its threshold.  So a resource that nothing throws for misses nothing. -/
theorem streaming_subscriber_gets_what_returns (broadcasterID : String)
    (componentName : Index → String) (messageThreshold : Index → Int)
    (earlier later : List (Event Index Payload)) (endpoint : Index) (request : Request)
    (subscribes : request.method = .get) (streams : request.isLongPolling = false)
    (new : ∀ event ∈ earlier, Leaves request.resource event)
    (stays : ∀ event ∈ later, Leaves request.resource event) :
    let subscribed := (earlier.foldl next
      (configured broadcasterID componentName messageThreshold)).next (.request endpoint request)
    let last := later.foldl next subscribed
    received request.resource subscribed later = returned request.resource subscribed later ∧
      (∀ publisher,
        subscribed.waiting publisher ++ handledBy publisher later =
            published publisher (batches subscribed later) ++ last.waiting publisher ∧
          ((last.adapters publisher).broadcaster ≠ none →
            ((last.waiting publisher).length : Int) < max 1 (messageThreshold publisher))) ∧
      ((∀ event ∈ later, event.returns request.resource = true) →
        ∀ publisher, subscribed.waiting publisher ++ handledBy publisher later =
          published publisher (received request.resource subscribed later) ++
            last.waiting publisher) := by
  intro subscribed last
  have before : Reached componentName messageThreshold (earlier.foldl next
      (configured broadcasterID componentName messageThreshold)) :=
    reached_run (reached_configured broadcasterID componentName messageThreshold) earlier
  have reached : Reached componentName messageThreshold subscribed := reached_next before _
  have absent : (earlier.foldl next (configured broadcasterID componentName
      messageThreshold)).subscriptionsOf request.resource = [] :=
    (received_unsubscribed earlier new rfl).2
  obtain ⟨written, _⟩ := received_streaming later stays
    (subscriptionsOf_subscribe endpoint subscribes absent) streams
  have account := account_run reached.registered later
  refine ⟨written, fun publisher => ⟨account publisher, ?_⟩, ?_⟩
  · exact (reached_run reached later).prompt.current publisher
  · intro returns publisher
    change received request.resource subscribed later = _ at written
    rw [written, returned_of_returns returns]
    exact account publisher

/-- The first message is lost to the resource, as writing it throws; the second is not. -/
theorem stream_of_two_messages :
    received 1 ((configured "/*" id (fun _ => 1) : Servlet String String).next
        (.request "news" ⟨1, .get, none⟩))
      [.handle "news" ⟨"first", fun _ => none⟩ none (fun _ => false),
        .handle "news" ⟨"second", fun _ => none⟩ none allReturn] = [[("news", "second")]] :=
  (streaming_subscriber_gets_what_returns "/*" id (fun _ => 1) []
    [.handle "news" ⟨"first", fun _ => none⟩ none (fun _ => false),
      .handle "news" ⟨"second", fun _ => none⟩ none allReturn]
    "news" ⟨1, .get, none⟩ rfl rfl nofun (by decide)).1

end Subscribing

end SpringExamples.Comet.Servlet
