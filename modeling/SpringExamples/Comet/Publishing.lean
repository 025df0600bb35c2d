/-
Requests that publish, up to what the subscribers receive.

An endpoint publishes to the direct channel that its own adapter consumes, so the message has
been handled when `send` returns.  The request has renamed the broadcaster before, so the
endpoint finds it whenever it looks it up for a message that it publishes itself.  A request
whose body cannot be read publishes nothing.
-/

import SpringExamples.Comet.RequestReading
import SpringExamples.Comet.Subscribers

set_option autoImplicit false

namespace SpringExamples.Comet.Servlet

open Runs

inductive Exchange (Index Content : Type) where
  | get (endpoint : Index) (resource : Nat) (transport : Option String)
  | post (endpoint : Index) (resource : Nat) (request : ServletRequest) (future : Option Unit)
      (returns : Nat → Bool)
  /-- Something else than a request sends the message to the channel of the endpoint. -/
  | send (endpoint : Index) (message : Message (RequestPayload Content)) (future : Option Unit)
      (returns : Nat → Bool)
  | disconnect (resource : Nat)

variable {Index Content Converter : Type}

def Exchange.Leaves (resource : Nat) : Exchange Index Content → Prop
  | .get _ other _ => other ≠ resource
  | .post _ other _ _ _ => other ≠ resource
  | .send _ _ _ _ => True
  | .disconnect other => other ≠ resource

/-- Whether a broadcast that the exchange makes to the resource returns. -/
def Exchange.returns (resource : Nat) : Exchange Index Content → Bool
  | .get _ _ _ => true
  | .post _ _ _ _ returns => returns resource
  | .send _ _ _ returns => returns resource
  | .disconnect _ => true

section Publishing

variable (canRead : Converter → String → ContentType → Bool)
  (read : Converter → String → ServletRequest → Except String Content)
  (messageConverters : List Converter)
  (toHeaders : (String → Option String) → String → Option String)

/-- What the exchange sends to the channel of its endpoint, if anything. -/
def Exchange.message : Exchange Index Content →
    Option (Index × Message (RequestPayload Content) × Option Unit × (Nat → Bool))
  | .get _ _ _ => none
  | .post endpoint _ request future returns =>
      match publish canRead read messageConverters { request with method := .post } toHeaders with
      | .error _ => none
      | .ok message => some (endpoint, message, future, returns)
  | .send endpoint message future returns => some (endpoint, message, future, returns)
  | .disconnect _ => none

def Exchange.arrival : Exchange Index Content → Option (Event Index (RequestPayload Content))
  | .get endpoint resource transport => some (.request endpoint ⟨resource, .get, transport⟩)
  | .post endpoint resource _ _ _ => some (.request endpoint ⟨resource, .post, none⟩)
  | .send _ _ _ _ => none
  | .disconnect resource => some (.disconnect resource)

def Exchange.events (exchange : Exchange Index Content) :
    List (Event Index (RequestPayload Content)) :=
  exchange.arrival.toList ++
    ((exchange.message canRead read messageConverters toHeaders).map fun sent =>
      .handle sent.1 sent.2.1 sent.2.2.1 sent.2.2.2).toList

/-- The payload that the exchange hands to the endpoint. -/
def Exchange.payload [DecidableEq Index] (endpoint : Index) (exchange : Exchange Index Content) :
    Option (RequestPayload Content) :=
  (exchange.message canRead read messageConverters toHeaders).bind fun sent =>
    if sent.1 = endpoint then some sent.2.1.payload else none

theorem leaves_of_exchanges {resource : Nat} {exchanges : List (Exchange Index Content)}
    (leaves : ∀ exchange ∈ exchanges, exchange.Leaves resource) :
    ∀ event ∈ exchanges.flatMap
        (Exchange.events canRead read messageConverters toHeaders), Leaves resource event := by
  intro event member
  obtain ⟨exchange, listed, given⟩ := List.mem_flatMap.mp member
  have apart := leaves exchange listed
  rcases List.mem_append.mp given with arrives | handled
  · have arrived := Option.mem_toList.mp arrives
    cases exchange with
    | get endpoint other transport =>
        cases arrived
        exact apart
    | post endpoint other request future returns =>
        cases arrived
        exact apart
    | send endpoint message future returns => cases arrived
    | disconnect other =>
        cases arrived
        exact apart
  · obtain ⟨sent, _, same⟩ := Option.map_eq_some_iff.mp (Option.mem_toList.mp handled)
    subst same
    trivial

theorem returns_of_exchanges {resource : Nat} {exchanges : List (Exchange Index Content)}
    (returns : ∀ exchange ∈ exchanges, exchange.returns resource = true) :
    ∀ event ∈ exchanges.flatMap (Exchange.events canRead read messageConverters toHeaders),
      event.returns resource = true := by
  intro event member
  obtain ⟨exchange, listed, given⟩ := List.mem_flatMap.mp member
  have written := returns exchange listed
  cases exchange with
  | get endpoint other transport =>
      rw [List.mem_singleton.mp given]
      rfl
  | post endpoint other request future broadcasts =>
      unfold Exchange.events Exchange.message at given
      rcases List.mem_append.mp given with arrives | handled
      · rw [List.mem_singleton.mp arrives]
        rfl
      · obtain ⟨sent, accepted, same⟩ := Option.map_eq_some_iff.mp (Option.mem_toList.mp handled)
        subst same
        dsimp only at accepted
        split at accepted
        · cases accepted
        · cases accepted
          exact written
  | send endpoint message future broadcasts =>
      rw [List.mem_singleton.mp given]
      exact written
  | disconnect other =>
      rw [List.mem_singleton.mp given]
      rfl

variable [DecidableEq Index]

theorem handledBy_append (endpoint : Index)
    (first second : List (Event Index (RequestPayload Content))) :
    handledBy endpoint (first ++ second) = handledBy endpoint first ++ handledBy endpoint second :=
  List.filterMap_append

theorem handledBy_events (endpoint : Index) (exchange : Exchange Index Content) :
    handledBy endpoint (exchange.events canRead read messageConverters toHeaders) =
      (exchange.payload canRead read messageConverters toHeaders endpoint).toList := by
  have arrives : handledBy endpoint exchange.arrival.toList = [] := by
    cases exchange with
    | _ => rfl
  unfold Exchange.events Exchange.payload
  rw [handledBy_append, arrives, List.nil_append]
  cases exchange.message canRead read messageConverters toHeaders with
  | none => rfl
  | some sent =>
      change handledBy endpoint [.handle sent.1 sent.2.1 sent.2.2.1 sent.2.2.2] =
        (if sent.1 = endpoint then some sent.2.1.payload else none).toList
      by_cases own : sent.1 = endpoint
      · simp only [handledBy, List.filterMap_cons, if_pos own, List.filterMap_nil,
          Option.toList_some]
      · simp only [handledBy, List.filterMap_cons, if_neg own, List.filterMap_nil,
          Option.toList_none]

theorem handledBy_exchanges (endpoint : Index) (exchanges : List (Exchange Index Content)) :
    handledBy endpoint (exchanges.flatMap
        (Exchange.events canRead read messageConverters toHeaders)) =
      exchanges.filterMap (Exchange.payload canRead read messageConverters toHeaders endpoint) := by
  induction exchanges with
  | nil => rfl
  | cons exchange rest ih =>
      rw [List.flatMap_cons, handledBy_append, handledBy_events, ih, List.filterMap_cons]
      cases exchange.payload canRead read messageConverters toHeaders endpoint with
      | none => rfl
      | some payload => rfl

end Publishing

section Promptness

variable [DecidableEq Index] {Payload : Type} {componentName : Index → String}
  {messageThreshold : Index → Int} {servlet : Servlet Index Payload} {endpoint : Index}

/-- The endpoint whose name the broadcaster has keeps fewer messages than its threshold. -/
theorem waiting_of_named (reached : Reached componentName messageThreshold servlet)
    (named : servlet.broadcasterID = componentName endpoint) (message : Message Payload)
    (future : Option Unit) (returns : Nat → Bool) :
    (((servlet.next (.handle endpoint message future returns)).waiting endpoint).length : Int) <
      max 1 (messageThreshold endpoint) := by
  obtain ⟨queue, started⟩ := reached.registered.running endpoint
  have found := (servlet.lookedUp_some_iff endpoint future).mpr
    (Or.inr (named.trans (reached.registered.named endpoint).symm))
  have absent := (servlet.lookedUp_none_iff endpoint future).not.mpr (not_not.mpr found)
  have handles := Adapter.handleMessage_handles (servlet.adapters endpoint) message
    (servlet.answers endpoint future) started
  have threshold := reached.prompt.configured endpoint
  have adapters := (servlet.handle_fields endpoint message future returns).2.2.2
  change ((HttpMessageBroadcaster.mergeMessagesForBroadcast
    ((servlet.handle endpoint message future returns).adapters endpoint).pending).length : Int) < _
  rw [adapters, Function.update_self, HttpMessageBroadcaster.mergeMessagesForBroadcast,
    List.length_map]
  generalize (servlet.adapters endpoint).handleMessage message
    (servlet.answers endpoint future) = call at handles
  cases handles with
  | below after short kept =>
      rw [pending_of_queue kept, List.length_append, List.length_singleton]
      omega
  | lookupFails after enough thrown kept =>
      obtain ⟨b, available⟩ := found
      rw [thrown] at available
      cases available
  | unavailable after enough missing kept => exact absurd missing absent
  | completed after b enough available completes drained =>
      rw [pending_of_queue drained, List.length_nil]
      omega
  | thrown after b enough available throws drained =>
      rw [pending_of_queue drained, List.length_nil]
      omega

end Promptness

section Subscribing

variable [DecidableEq Index] (canRead : Converter → String → ContentType → Bool)
  (read : Converter → String → ServletRequest → Except String Content)
  (messageConverters : List Converter)
  (toHeaders : (String → Option String) → String → Option String)

/-- What a resource that subscribed in the state given is sent in the course of the exchanges. -/
def sentDuring (resource : Nat) (subscribed : Servlet Index (RequestPayload Content))
    (exchanges : List (Exchange Index Content)) : List (List (Index × RequestPayload Content)) :=
  received resource subscribed
    (exchanges.flatMap (Exchange.events canRead read messageConverters toHeaders))

def after (servlet : Servlet Index (RequestPayload Content))
    (exchanges : List (Exchange Index Content)) : Servlet Index (RequestPayload Content) :=
  (exchanges.flatMap (Exchange.events canRead read messageConverters toHeaders)).foldl next servlet

theorem after_append (servlet : Servlet Index (RequestPayload Content))
    (first second : List (Exchange Index Content)) :
    after canRead read messageConverters toHeaders servlet (first ++ second) =
      after canRead read messageConverters toHeaders
        (after canRead read messageConverters toHeaders servlet first) second := by
  unfold after
  rw [List.flatMap_append, List.foldl_append]

variable {canRead read messageConverters toHeaders}

theorem after_post {componentName : Index → String} {messageThreshold : Index → Int}
    {servlet : Servlet Index (RequestPayload Content)}
    (reached : Reached componentName messageThreshold servlet) {publisher : Index} {poster : Nat}
    {request : ServletRequest} {message : Message (RequestPayload Content)}
    (future : Option Unit) (returns : Nat → Bool)
    (accepted : publish canRead read messageConverters { request with method := .post } toHeaders =
      .ok message) :
    (((after canRead read messageConverters toHeaders servlet
        [.post publisher poster request future returns]).waiting publisher).length : Int) <
      max 1 (messageThreshold publisher) := by
  have events : ([.post publisher poster request future returns] :
      List (Exchange Index Content)).flatMap
      (Exchange.events canRead read messageConverters toHeaders) =
        [.request publisher ⟨poster, .post, none⟩,
          .handle publisher message future returns] := by
    rw [List.flatMap_singleton, Exchange.events, Exchange.message, accepted]
    rfl
  unfold after
  rw [events, List.foldl_cons, List.foldl_cons, List.foldl_nil]
  apply waiting_of_named (reached_next reached _)
  exact (servlet.handleRequest_fields publisher _).1.trans (reached.registered.named publisher)

/-- What is posted to an endpoint reaches the streaming resources.  Just after a request that
published, fewer messages than its threshold wait at the endpoint; and what it kept at the
subscription and what was published and sent since, in order and each once, is what the resource
was sent and that rest, unless a broadcast to the resource threw.  A request that cannot be read
adds nothing. -/
theorem posts_reach_subscribers (broadcasterID : String) (componentName : Index → String)
    (messageThreshold : Index → Int) (earlier later : List (Exchange Index Content))
    (endpoint publisher : Index) (resource poster : Nat) (transport : Option String)
    (request : ServletRequest) (future : Option Unit) (returns : Nat → Bool)
    (message : Message (RequestPayload Content))
    (streams : transport ≠ some "long-polling") (other : poster ≠ resource)
    (new : ∀ exchange ∈ earlier, exchange.Leaves resource)
    (stays : ∀ exchange ∈ later, exchange.Leaves resource)
    (accepted : publish canRead read messageConverters { request with method := .post } toHeaders =
      .ok message) :
    let exchanges := later ++ [.post publisher poster request future returns]
    let subscribed := after canRead read messageConverters toHeaders
      (configured broadcasterID componentName messageThreshold)
      (earlier ++ [.get endpoint resource transport])
    let last := after canRead read messageConverters toHeaders subscribed exchanges
    ((last.waiting publisher).length : Int) < max 1 (messageThreshold publisher) ∧
      ((∀ exchange ∈ exchanges, exchange.returns resource = true) →
        subscribed.waiting publisher ++
            exchanges.filterMap
              (Exchange.payload canRead read messageConverters toHeaders publisher) =
          published publisher
              (sentDuring canRead read messageConverters toHeaders resource subscribed
                exchanges) ++
            last.waiting publisher) := by
  intro exchanges subscribed last
  have before : Reached componentName messageThreshold
      (after canRead read messageConverters toHeaders
        (configured broadcasterID componentName messageThreshold) earlier) :=
    reached_run (reached_configured broadcasterID componentName messageThreshold) _
  have subscribes : subscribed = (after canRead read messageConverters toHeaders
      (configured broadcasterID componentName messageThreshold) earlier).next
        (.request endpoint ⟨resource, .get, transport⟩) :=
    after_append canRead read messageConverters toHeaders _ earlier _
  have reached : Reached componentName messageThreshold subscribed := by
    rw [subscribes]
    exact reached_next before _
  constructor
  · have split : last = after canRead read messageConverters toHeaders
        (after canRead read messageConverters toHeaders subscribed later)
        [.post publisher poster request future returns] :=
      after_append canRead read messageConverters toHeaders subscribed later _
    rw [split]
    exact after_post (reached_run reached _) future returns accepted
  · intro written
    have absent : (after canRead read messageConverters toHeaders
        (configured broadcasterID componentName messageThreshold) earlier).subscriptionsOf
          resource = [] :=
      (received_unsubscribed _
        (leaves_of_exchanges canRead read messageConverters toHeaders new) rfl).2
    have single : subscribed.subscriptionsOf resource =
        [⟨resource, endpoint, Request.isLongPolling ⟨resource, .get, transport⟩⟩] := by
      rw [subscribes]
      exact subscriptionsOf_subscribe endpoint rfl absent
    have leaves : ∀ exchange ∈ exchanges, exchange.Leaves resource := by
      intro exchange member
      rcases List.mem_append.mp member with old | posted
      · exact stays exchange old
      · rw [List.mem_singleton.mp posted]
        exact other
    obtain ⟨everything, _⟩ := received_streaming _
      (leaves_of_exchanges canRead read messageConverters toHeaders leaves) single
      (beq_eq_false_iff_ne.mpr streams)
    have account := account_run reached.registered
      (exchanges.flatMap (Exchange.events canRead read messageConverters toHeaders)) publisher
    rw [handledBy_exchanges] at account
    rw [sentDuring, everything, returned_of_returns
      (returns_of_exchanges canRead read messageConverters toHeaders written)]
    exact account

def readsText (_ : Unit) (type : String) (_ : ContentType) : Bool := type == "java.lang.String"

def readBody (_ : Unit) (_ : String) (request : ServletRequest) : Except String (List UInt8) :=
  .ok request.body

/-- A greeting is posted, and with no threshold nothing of it waits. -/
theorem greeting_reaches_subscriber :
    published "news" (sentDuring readsText readBody [()] (fun headers => headers) 1
        (after readsText readBody [()] (fun headers => headers)
          (configured "/*" id fun _ => 0) [.get "news" 1 none])
        [.post "news" 2 HttpMessageMapper.greeting none allReturn]) =
      [.content [104, 105]] := by
  have accepted : ∃ message, publish readsText readBody [()]
      { HttpMessageMapper.greeting with method := .post } (fun headers => headers) =
        .ok message := ⟨_, rfl⟩
  obtain ⟨message, accepted⟩ := accepted
  obtain ⟨short, account⟩ := posts_reach_subscribers "/*" id (fun _ => 0) [] [] "news" "news" 1 2
    none HttpMessageMapper.greeting none allReturn message (by decide) (by decide)
    (fun _ impossible => by cases impossible) (fun _ impossible => by cases impossible) accepted
  have written := account fun exchange member => by
    rw [List.mem_singleton.mp member]
    rfl
  simp only [List.nil_append] at written short
  have nothing := List.length_eq_zero_iff.mp (Nat.lt_one_iff.mp (Int.ofNat_lt.mp short))
  rw [nothing, List.append_nil] at written
  exact written.symm

end Subscribing

end SpringExamples.Comet.Servlet
