/-
Several comet endpoints behind one servlet.

All requests through the servlet carry the same broadcaster object.  Each request
renames that object after the endpoint it addresses, a lookup finds the object only
under its current name, and a broadcast reaches every resource suspended on it,
whichever endpoint suspended the resource.  An adapter keeps the first broadcaster it
finds, and with it the object that all endpoints share.  Writing to a resource may throw,
for one because no converter fits what its client accepts; then it is not resumed.
-/

import Mathlib.Logic.Function.Basic
import SpringExamples.Comet.Adapter

set_option autoImplicit false

namespace SpringExamples.Comet

open Runs

inductive Method where
  | get
  | post
  | other

structure Request where
  resource : Nat
  method : Method
  /-- The header `X-Atmosphere-Transport`. -/
  transport : Option String

def Request.isLongPolling (request : Request) : Bool := request.transport == some "long-polling"

structure Subscription (Index : Type) where
  resource : Nat
  /-- The endpoint that handled the subscription request. -/
  endpoint : Index
  resumeOnBroadcast : Bool
  deriving DecidableEq, Repr

/-- A broadcast by one endpoint that reached the resource of one subscription. -/
structure Delivery (Index : Type) where
  endpoint : Index
  subscription : Subscription Index
  deriving DecidableEq, Repr

structure Servlet (Index Payload : Type) where
  /-- The name under which the broadcaster of the servlet is registered. -/
  broadcasterID : String
  adapters : Index → Adapter Payload Unit
  suspended : List (Subscription Index)
  /-- The endpoints that handled a request so far, oldest first. -/
  requests : List Index
  deliveries : List (Delivery Index)

namespace Servlet

inductive Event (Index Payload : Type) where
  | request (endpoint : Index) (request : Request)
  /-- `returns` says for which resources `HttpMessageBroadcaster.broadcast` returns. -/
  | handle (endpoint : Index) (message : Message Payload) (future : Option Unit)
      (returns : Nat → Bool)
  /-- The client closes the connection of a suspended resource. -/
  | disconnect (resource : Nat)

variable {Index Payload : Type}

def configured (broadcasterID : String) (componentName : Index → String)
    (messageThreshold : Index → Int) : Servlet Index Payload :=
  { broadcasterID := broadcasterID
    adapters := fun index =>
      (Adapter.configured (componentName index) (messageThreshold index)).doStart
    suspended := []
    requests := []
    deliveries := [] }

def lookup (servlet : Servlet Index Payload) (id : String) : Option Unit :=
  if servlet.broadcasterID = id then some () else none

def answers (servlet : Servlet Index Payload) (endpoint : Index) (future : Option Unit) :
    Answers Unit :=
  { lookup := .ok (servlet.lookup (servlet.adapters endpoint).componentName)
    broadcast := .ok (future.map .ok) }

def setID (servlet : Servlet Index Payload) (endpoint : Index) : Servlet Index Payload :=
  if (servlet.adapters endpoint).componentName = servlet.broadcasterID then servlet
  else { servlet with broadcasterID := (servlet.adapters endpoint).componentName }

def doSuspend (servlet : Servlet Index Payload) (endpoint : Index) (request : Request) :
    Servlet Index Payload :=
  { servlet with
    suspended := servlet.suspended ++ [⟨request.resource, endpoint, request.isLongPolling⟩] }

/-- A publication goes to the message channel and changes nothing here. -/
def handleRequest (servlet : Servlet Index Payload) (endpoint : Index) (request : Request) :
    Servlet Index Payload :=
  let renamed := { servlet.setID endpoint with requests := servlet.requests ++ [endpoint] }
  match request.method with
  | .get => renamed.doSuspend endpoint request
  | .post => renamed
  | .other => renamed

section Handling

variable [DecidableEq Index]

/-- A resource is resumed after its body has been written, so not if the writing throws. -/
def handle (servlet : Servlet Index Payload) (endpoint : Index) (message : Message Payload)
    (future : Option Unit) (returns : Nat → Bool) : Servlet Index Payload :=
  let call := (servlet.adapters endpoint).handleMessage message (servlet.answers endpoint future)
  let called := { servlet with
    adapters := Function.update servlet.adapters endpoint call.adapter }
  if call.attempted.isSome then
    { called with
      suspended := servlet.suspended.filter fun subscription =>
        !(subscription.resumeOnBroadcast && returns subscription.resource)
      deliveries := servlet.deliveries ++
        servlet.suspended.map fun subscription => ⟨endpoint, subscription⟩ }
  else called

def next (servlet : Servlet Index Payload) : Event Index Payload → Servlet Index Payload
  | .request endpoint request => servlet.handleRequest endpoint request
  | .handle endpoint message future returns => servlet.handle endpoint message future returns
  | .disconnect resource =>
      { servlet with
        suspended := servlet.suspended.filter fun subscription =>
          subscription.resource != resource }

end Handling

/-- Each broadcast reached only resources that subscribed through its own endpoint. -/
def Isolated (servlet : Servlet Index Payload) : Prop :=
  ∀ delivery ∈ servlet.deliveries, delivery.subscription.endpoint = delivery.endpoint

def LooksUp (servlet : Servlet Index Payload) (endpoint : Index) : Prop :=
  (servlet.adapters endpoint).messageThreshold ≤
    ((servlet.adapters endpoint).pending.length : Int) + 1

/-- A lookup made while a resource of the endpoint is suspended is not answered by null. -/
def Found (servlet : Servlet Index Payload) : Event Index Payload → Prop
  | .handle endpoint _ future _ =>
      servlet.LooksUp endpoint →
        (∃ subscription ∈ servlet.suspended, subscription.endpoint = endpoint) →
          (servlet.adapters endpoint).lookedUp (servlet.answers endpoint future) ≠ .ok none
  | .request _ _ => True
  | .disconnect _ => True

/-- The endpoint found the broadcaster before, or handled the last request. -/
def Reaches (servlet : Servlet Index Payload) (endpoint : Index) : Prop :=
  (servlet.adapters endpoint).broadcaster = some () ∨ servlet.requests.getLast? = some endpoint

/-- An endpoint that looks the broadcaster up either reaches it while every suspended
resource is its own, or misses it while none is. -/
def Alone (servlet : Servlet Index Payload) : Event Index Payload → Prop
  | .handle endpoint _ _ _ =>
      servlet.LooksUp endpoint →
        (servlet.Reaches endpoint →
            ∀ subscription ∈ servlet.suspended, subscription.endpoint = endpoint) ∧
          (¬servlet.Reaches endpoint →
            ∀ subscription ∈ servlet.suspended, subscription.endpoint ≠ endpoint)
  | .request _ _ => True
  | .disconnect _ => True

instance decidableLooksUp (servlet : Servlet Index Payload) (endpoint : Index) :
    Decidable (servlet.LooksUp endpoint) :=
  inferInstanceAs (Decidable (_ ≤ _))

instance decidableReaches [DecidableEq Index] (servlet : Servlet Index Payload)
    (endpoint : Index) : Decidable (servlet.Reaches endpoint) :=
  inferInstanceAs (Decidable (_ ∨ _))

instance decidableAlone [DecidableEq Index] (servlet : Servlet Index Payload) :
    (event : Event Index Payload) → Decidable (Alone servlet event)
  | .request _ _ => isTrue trivial
  | .disconnect _ => isTrue trivial
  | .handle endpoint _ _ _ => inferInstanceAs (Decidable (servlet.LooksUp endpoint → _ ∧ _))

/-- The broadcaster is registered under the name of the endpoint that was addressed last. -/
structure Registered (componentName : Index → String) (servlet : Servlet Index Payload) :
    Prop where
  named : ∀ endpoint, (servlet.adapters endpoint).componentName = componentName endpoint
  running : ∀ endpoint, ∃ queue, (servlet.adapters endpoint).messageQueue = some queue
  lastRequest : ∀ endpoint, servlet.requests.getLast? = some endpoint →
    servlet.broadcasterID = componentName endpoint
  requested : servlet.suspended ≠ [] → servlet.requests ≠ []

variable {componentName : Index → String} {servlet : Servlet Index Payload}

theorem isolated_configured (broadcasterID : String) (componentName : Index → String)
    (messageThreshold : Index → Int) :
    Isolated
      (configured broadcasterID componentName messageThreshold : Servlet Index Payload) := by
  intro delivery member
  cases member

theorem registered_configured (broadcasterID : String) (componentName : Index → String)
    (messageThreshold : Index → Int) :
    Registered componentName
      (configured broadcasterID componentName messageThreshold : Servlet Index Payload) where
  named := fun _ => rfl
  running := fun _ => ⟨[], rfl⟩
  lastRequest := nofun
  requested := fun suspended => absurd rfl suspended

theorem setID_broadcasterID (servlet : Servlet Index Payload) (endpoint : Index) :
    (servlet.setID endpoint).broadcasterID = (servlet.adapters endpoint).componentName := by
  unfold setID
  split
  · rename_i same
    exact same.symm
  · rfl

theorem setID_adapters (servlet : Servlet Index Payload) (endpoint : Index) :
    (servlet.setID endpoint).adapters = servlet.adapters := by
  unfold setID
  split <;> rfl

theorem setID_suspended (servlet : Servlet Index Payload) (endpoint : Index) :
    (servlet.setID endpoint).suspended = servlet.suspended := by
  unfold setID
  split <;> rfl

theorem setID_deliveries (servlet : Servlet Index Payload) (endpoint : Index) :
    (servlet.setID endpoint).deliveries = servlet.deliveries := by
  unfold setID
  split <;> rfl

/-- A request renames the broadcaster, whatever its method. -/
theorem handleRequest_fields (servlet : Servlet Index Payload) (endpoint : Index)
    (request : Request) :
    (servlet.handleRequest endpoint request).broadcasterID =
        (servlet.adapters endpoint).componentName ∧
      (servlet.handleRequest endpoint request).adapters = servlet.adapters ∧
      (servlet.handleRequest endpoint request).requests = servlet.requests ++ [endpoint] ∧
      (servlet.handleRequest endpoint request).deliveries = servlet.deliveries := by
  have renamed := servlet.setID_broadcasterID endpoint
  have adapters := servlet.setID_adapters endpoint
  have deliveries := servlet.setID_deliveries endpoint
  unfold handleRequest
  cases request.method with
  | get => exact ⟨renamed, adapters, rfl, deliveries⟩
  | post => exact ⟨renamed, adapters, rfl, deliveries⟩
  | other => exact ⟨renamed, adapters, rfl, deliveries⟩

theorem registered_handleRequest (registered : Registered componentName servlet)
    (endpoint : Index) (request : Request) :
    Registered componentName (servlet.handleRequest endpoint request) := by
  obtain ⟨renamed, adapters, requests, _⟩ := servlet.handleRequest_fields endpoint request
  constructor
  · rw [adapters]
    exact registered.named
  · rw [adapters]
    exact registered.running
  · intro last isLast
    rw [requests, List.getLast?_concat] at isLast
    cases isLast
    rw [renamed]
    exact registered.named endpoint
  · intro _
    rw [requests]
    exact List.concat_ne_nil endpoint servlet.requests

theorem lookedUp_some_iff (servlet : Servlet Index Payload) (endpoint : Index)
    (future : Option Unit) :
    (∃ b, (servlet.adapters endpoint).lookedUp (servlet.answers endpoint future) =
        .ok (some b)) ↔
      (servlet.adapters endpoint).broadcaster = some () ∨
        servlet.broadcasterID = (servlet.adapters endpoint).componentName := by
  unfold Adapter.lookedUp answers lookup
  cases (servlet.adapters endpoint).broadcaster with
  | some b => exact iff_of_true ⟨b, rfl⟩ (Or.inl rfl)
  | none =>
      dsimp only
      by_cases same : servlet.broadcasterID = (servlet.adapters endpoint).componentName
      · rw [if_pos same]
        exact iff_of_true ⟨(), rfl⟩ (Or.inr same)
      · rw [if_neg same]
        exact iff_of_false nofun fun given => given.elim nofun same

theorem lookedUp_none_iff (servlet : Servlet Index Payload) (endpoint : Index)
    (future : Option Unit) :
    (servlet.adapters endpoint).lookedUp (servlet.answers endpoint future) = .ok none ↔
      ¬∃ b, (servlet.adapters endpoint).lookedUp (servlet.answers endpoint future) =
        .ok (some b) := by
  unfold Adapter.lookedUp answers
  cases (servlet.adapters endpoint).broadcaster with
  | some b => exact iff_of_false nofun fun absent => absent ⟨b, rfl⟩
  | none =>
      dsimp only
      cases servlet.lookup (servlet.adapters endpoint).componentName with
      | none => exact iff_of_true rfl nofun
      | some b => exact iff_of_false nofun fun absent => absent ⟨b, rfl⟩

/-- While a resource is suspended, the broadcaster answers to the last endpoint that was
addressed, and to no other. -/
theorem reaches_iff (registered : Registered componentName servlet)
    (distinct : Function.Injective componentName) (waiting : servlet.suspended ≠ [])
    (endpoint : Index) (future : Option Unit) :
    (∃ b, (servlet.adapters endpoint).lookedUp (servlet.answers endpoint future) =
        .ok (some b)) ↔ servlet.Reaches endpoint := by
  have isLast := List.getLast?_eq_some_getLast (registered.requested waiting)
  rw [lookedUp_some_iff, registered.named endpoint, registered.lastRequest _ isLast]
  unfold Reaches
  rw [isLast, distinct.eq_iff, Option.some_inj]

section Runs

variable [DecidableEq Index]

theorem mem_handle_deliveries (registered : Registered componentName servlet)
    (endpoint : Index) (message : Message Payload) (future : Option Unit) (returns : Nat → Bool)
    (delivery : Delivery Index) :
    delivery ∈ (servlet.handle endpoint message future returns).deliveries ↔
      delivery ∈ servlet.deliveries ∨
        (servlet.LooksUp endpoint ∧
            ∃ b, (servlet.adapters endpoint).lookedUp (servlet.answers endpoint future) =
              .ok (some b)) ∧
          delivery.endpoint = endpoint ∧ delivery.subscription ∈ servlet.suspended := by
  obtain ⟨queue, started⟩ := registered.running endpoint
  have attempted := (servlet.adapters endpoint).attempted_isSome_iff message
    (servlet.answers endpoint future) started
  rw [← pending_of_queue started] at attempted
  unfold handle LooksUp
  dsimp only
  rw [← attempted]
  split
  · rename_i broadcasts
    rw [List.mem_append, List.mem_map]
    apply or_congr_right
    constructor
    · intro given
      obtain ⟨subscription, member, same⟩ := given
      subst same
      exact ⟨broadcasts, rfl, member⟩
    · intro given
      obtain ⟨_, same, member⟩ := given
      subst same
      exact ⟨delivery.subscription, member, rfl⟩
  · rename_i silent
    exact (or_iff_left fun given => silent given.1).symm

theorem handle_fields (servlet : Servlet Index Payload) (endpoint : Index)
    (message : Message Payload) (future : Option Unit) (returns : Nat → Bool) :
    (servlet.handle endpoint message future returns).broadcasterID = servlet.broadcasterID ∧
      (servlet.handle endpoint message future returns).requests = servlet.requests ∧
      (servlet.handle endpoint message future returns).suspended ⊆ servlet.suspended ∧
      (servlet.handle endpoint message future returns).adapters =
        Function.update servlet.adapters endpoint
          ((servlet.adapters endpoint).handleMessage message
            (servlet.answers endpoint future)).adapter := by
  unfold handle
  dsimp only
  split
  · exact ⟨rfl, rfl, List.filter_subset_self _, rfl⟩
  · exact ⟨rfl, rfl, List.Subset.refl _, rfl⟩

theorem registered_handle (registered : Registered componentName servlet) (endpoint : Index)
    (message : Message Payload) (future : Option Unit) (returns : Nat → Bool) :
    Registered componentName (servlet.handle endpoint message future returns) := by
  obtain ⟨broadcasterID, requests, suspended, adapters⟩ :=
    servlet.handle_fields endpoint message future returns
  constructor
  · intro other
    rw [adapters]
    by_cases own : other = endpoint
    · subst own
      rw [Function.update_self]
      exact ((servlet.adapters other).handleMessage_configuration message _).2.2.1.trans
        (registered.named other)
    · rw [Function.update_of_ne own]
      exact registered.named other
  · intro other
    rw [adapters]
    by_cases own : other = endpoint
    · subst own
      rw [Function.update_self]
      obtain ⟨queue, started⟩ := registered.running other
      exact (servlet.adapters other).handleMessage_queue message _ started
    · rw [Function.update_of_ne own]
      exact registered.running other
  · rw [requests, broadcasterID]
    exact registered.lastRequest
  · intro waiting
    rw [requests]
    obtain ⟨subscription, member⟩ := List.exists_mem_of_ne_nil _ waiting
    exact registered.requested (List.ne_nil_of_mem (suspended member))

theorem registered_next (registered : Registered componentName servlet)
    (event : Event Index Payload) : Registered componentName (servlet.next event) := by
  cases event with
  | request endpoint request => exact registered_handleRequest registered endpoint request
  | handle endpoint message future returns =>
      exact registered_handle registered endpoint message future returns
  | disconnect resource =>
      constructor
      · exact registered.named
      · exact registered.running
      · exact registered.lastRequest
      · intro waiting
        apply registered.requested
        intro none
        apply waiting
        change servlet.suspended.filter _ = []
        rw [none, List.filter_nil]

/-- One step is right exactly when the endpoint that looks the broadcaster up is alone
with it, or without it. -/
theorem right_iff_alone (distinct : Function.Injective componentName)
    (registered : Registered componentName servlet) (isolated : Isolated servlet)
    (event : Event Index Payload) :
    Isolated (servlet.next event) ∧ Found servlet event ↔ Alone servlet event := by
  cases event with
  | request endpoint request =>
      have deliveries := (servlet.handleRequest_fields endpoint request).2.2.2
      apply iff_of_true _ trivial
      refine ⟨?_, trivial⟩
      change ∀ delivery ∈ (servlet.handleRequest endpoint request).deliveries, _
      rw [deliveries]
      exact isolated
  | disconnect resource => exact iff_of_true ⟨isolated, trivial⟩ trivial
  | handle endpoint message future returns =>
      have members := mem_handle_deliveries registered endpoint message future returns
      have reaches := fun subscription (member : subscription ∈ servlet.suspended) =>
        reaches_iff registered distinct (List.ne_nil_of_mem member) endpoint future
      constructor
      · intro given looksUp
        obtain ⟨isolatedNext, found⟩ := given
        constructor
        · intro reached subscription member
          apply isolatedNext ⟨endpoint, subscription⟩
          apply (members ⟨endpoint, subscription⟩).mpr
          exact Or.inr ⟨⟨looksUp, (reaches subscription member).mpr reached⟩, rfl, member⟩
        · intro missed subscription member own
          apply found looksUp ⟨subscription, member, own⟩
          rw [lookedUp_none_iff]
          intro answered
          exact missed ((reaches subscription member).mp answered)
      · intro alone
        constructor
        · intro delivery member
          rcases (members delivery).mp member with earlier | ⟨broadcasts, own, waiting⟩
          · exact isolated delivery earlier
          · have reached := (reaches delivery.subscription waiting).mp broadcasts.2
            rw [own]
            exact (alone broadcasts.1).1 reached delivery.subscription waiting
        · intro looksUp waits
          obtain ⟨subscription, member, own⟩ := waits
          rw [Ne, lookedUp_none_iff, not_not, reaches subscription member]
          by_contra missed
          exact (alone looksUp).2 missed subscription member own

/-- In a run of endpoints with different names each broadcast stays with the resources of
its own endpoint, and each lookup on behalf of such a resource finds the broadcaster,
precisely when every endpoint that looks the broadcaster up is alone. -/
theorem isolated_iff_alone (broadcasterID : String) (componentName : Index → String)
    (messageThreshold : Index → Int) (distinct : Function.Injective componentName)
    (events : List (Event Index Payload)) :
    Throughout (total next) Isolated
          (configured broadcasterID componentName messageThreshold) events ∧
        Along (total next) Found
          (configured broadcasterID componentName messageThreshold) events ↔
      Along (total next) Alone
        (configured broadcasterID componentName messageThreshold) events := by
  have start : Registered componentName
      (configured broadcasterID componentName messageThreshold : Servlet Index Payload) :=
    registered_configured broadcasterID componentName messageThreshold
  have empty : Isolated
      (configured broadcasterID componentName messageThreshold : Servlet Index Payload) :=
    isolated_configured broadcasterID componentName messageThreshold
  rw [throughout_iff_along (total next) Isolated events empty, ← along_and]
  apply along_iff_along (total next)
    (fun servlet => Registered componentName servlet ∧ Isolated servlet) _ _ _ _ events
    ⟨start, empty⟩
  · intro servlet event following sound alone moved
    cases moved
    exact ⟨registered_next sound.1 event,
      ((right_iff_alone distinct sound.1 sound.2 event).mpr alone).1⟩
  · intro servlet event sound
    rw [forall_total_iff]
    exact right_iff_alone distinct sound.1 sound.2 event

end Runs

def allReturn (_resource : Nat) : Bool := true

theorem endpoints_in_turn :
    Throughout (total next) Isolated
          (configured "/*" id (fun _ => 1) : Servlet String String)
          [.request "news" ⟨1, .get, none⟩,
            .handle "news" ⟨"first", fun _ => none⟩ none allReturn, .disconnect 1,
            .request "chat" ⟨2, .get, none⟩,
            .handle "chat" ⟨"second", fun _ => none⟩ none allReturn] ∧
        Along (total next) Found (configured "/*" id (fun _ => 1) : Servlet String String)
          [.request "news" ⟨1, .get, none⟩,
            .handle "news" ⟨"first", fun _ => none⟩ none allReturn, .disconnect 1,
            .request "chat" ⟨2, .get, none⟩,
            .handle "chat" ⟨"second", fun _ => none⟩ none allReturn] := by
  apply (isolated_iff_alone "/*" id (fun _ => 1) Function.injective_id _).mpr
  decide

/-- The endpoint keeps the broadcaster it found, and a later message of it goes to the
resource that another endpoint suspended. -/
theorem message_reaches_foreign_resource :
    ¬Throughout (total next) Isolated
      (configured "/*" id (fun _ => 1) : Servlet String String)
      [.request "news" ⟨1, .get, none⟩, .handle "news" ⟨"first", fun _ => none⟩ none allReturn,
        .request "chat" ⟨2, .get, none⟩,
        .handle "news" ⟨"second", fun _ => none⟩ none allReturn] := by
  intro always
  have last := throughout_last (total next) always (run_total _ _ _)
  have foreign := last ⟨"news", ⟨2, "chat", false⟩⟩ (by decide)
  exact absurd foreign (by decide)

end Servlet

end SpringExamples.Comet
