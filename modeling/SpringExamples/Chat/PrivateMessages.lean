/-
The chat server: one chat room, DWR, and an adapter on each of the three channels.

A channel hands every message to its one adapter.  Pages come and go, and each call
comes from some page.  The server also remembers, for each direct message, the session
its addressee was registered with and the sessions it was pushed to.
-/

import SpringExamples.Foundation.Runs
import SpringExamples.Chat.ChatRoom

set_option autoImplicit false

namespace SpringExamples

open Runs Dwr

def ChatChannel.adapter : ChatChannel → Dwr.Adapter
  | .messageChannel => { defaultCallbackFunctionName := "handleMessage" }
  | .rosterChannel => { defaultCallbackFunctionName := "handleRoster" }
  | .directMessageChannel => { defaultCallbackFunctionName := "handleDirectMessage" }

inductive ChatEvent where
  | connect (session : String)
  | disconnect (session : String)
  | join (user sessionId : String)
  | logout (user : String)
  | reset
  | groupMessage (msg : String)
  | directMessage (user msg : String)
  deriving DecidableEq

/-- A direct message: where its addressee was registered, and whom it reached. -/
structure DirectDelivery where
  registered : Option String
  reached : List String
  deriving DecidableEq

structure ChatServer where
  chat : Chat
  /-- Absent until DWR serves its first page. -/
  serverContext : Option ServerContext
  directDeliveries : List DirectDelivery

namespace ChatServer

def start : ChatServer :=
  { chat := Chat.empty
    serverContext := none
    directDeliveries := [] }

def send (strings : StringUtils) (server : ChatServer)
    (sent : ChatChannel × Message String) : Option (FunctionCall String) :=
  sent.1.adapter.handleMessage strings server.serverContext sent.2

def reachedBy (strings : StringUtils) (server : ChatServer) (user msg : String) : List String :=
  match server.send strings (server.chat.directMessage user msg) with
  | some call => call.reached
  | none => []

def serve (strings : StringUtils) (server : ChatServer) : ChatEvent → ChatServer
  | .connect session =>
      let context := server.serverContext.getD { scriptSessions := [] }
      { server with serverContext := some (context.connect session) }
  | .disconnect session =>
      let context := server.serverContext.map fun context => context.invalidate session
      { server with serverContext := context }
  | .join user sessionId => { server with chat := (server.chat.join user sessionId).1 }
  | .logout user =>
      { server with serverContext := server.serverContext.map (server.chat.logout user) }
  | .reset => { server with chat := server.chat.reset }
  | .groupMessage msg => { server with chat := (server.chat.groupMessage msg).1 }
  | .directMessage user msg =>
      let delivery := ⟨server.chat.registered user, server.reachedBy strings user msg⟩
      { server with directDeliveries := server.directDeliveries ++ [delivery] }

/-- No direct message so far was pushed to a session other than its addressee's. -/
def Private (server : ChatServer) : Prop :=
  ∀ delivery ∈ server.directDeliveries,
    ∀ session ∈ delivery.reached, delivery.registered = some session

/-- The addressee is registered with a session, or no other session is live. -/
def Addressed (strings : StringUtils) (server : ChatServer) (user : String) : Prop :=
  (∃ session, server.chat.registered user = some session ∧
      strings.hasText (some session) = true) ∨
    ∀ context, server.serverContext = some context →
      ∀ session ∈ context.scriptSessions, server.chat.registered user = some session

def Guarded (strings : StringUtils) (server : ChatServer) : ChatEvent → Prop
  | .directMessage user _ => server.Addressed strings user
  | _ => True

variable (strings : StringUtils)

/-- What an event does to the roster, whatever map stores it. -/
def roster (sessions : String → Option String) : ChatEvent → String → Option String
  | .join user sessionId => Function.update sessions user (some sessionId)
  | .reset => fun _ => none
  | _ => sessions

/-- A user is registered with the session of the latest join since the last reset. -/
theorem registered_run (server : ChatServer) (events : List ChatEvent) :
    (events.foldl (serve strings) server).chat.registered =
      events.foldl roster server.chat.registered := by
  induction events generalizing server with
  | nil => rfl
  | cons event rest ih =>
      rw [List.foldl_cons, List.foldl_cons, ih]
      congr 1
      cases event with
      | join user sessionId => exact Chat.registered_join server.chat user sessionId
      | reset => exact Chat.registered_reset server.chat
      | groupMessage msg => exact Chat.registered_groupMessage server.chat msg
      | connect session => rfl
      | disconnect session => rfl
      | logout user => rfl
      | directMessage user msg => rfl

theorem mem_reachedBy (server : ChatServer) (user msg session : String) :
    session ∈ server.reachedBy strings user msg ↔
      ∃ call, server.send strings (server.chat.directMessage user msg) = some call ∧
        session ∈ call.reached := by
  unfold reachedBy
  cases server.send strings (server.chat.directMessage user msg) with
  | none => simp
  | some call => simp

/-- An unregistered addressee turns a direct message into a message to everybody. -/
theorem reachedBy_contained_iff (server : ChatServer) (user msg : String) :
    (∀ session ∈ server.reachedBy strings user msg,
        server.chat.registered user = some session) ↔
      server.Addressed strings user := by
  have target := Chat.directMessage_target server.chat user msg
  simp only [mem_reachedBy]
  cases present : server.serverContext with
  | none =>
      constructor
      · intro _
        refine Or.inr fun context impossible => ?_
        rw [present] at impossible
        cases impossible
      · intro _ session given
        obtain ⟨call, pushed, _⟩ := given
        rw [send, present] at pushed
        cases pushed
  | some context =>
      unfold send Addressed
      rw [present]
      cases text : strings.hasText (server.chat.registered user) with
      | false =>
          have everyone := reached_of_broadcast
            (server.chat.directMessage user msg).1.adapter strings context
            (server.chat.directMessage user msg).2 (target ▸ text)
          constructor
          · intro contained
            refine Or.inr fun other same session live => ?_
            cases same
            exact contained session ((everyone session).mpr live)
          · intro given session pushed
            rcases given with ⟨session, registered, named⟩ | alone
            · rw [registered, named] at text
              cases text
            · exact alone context rfl session ((everyone session).mp pushed)
      | true =>
          cases registered : server.chat.registered user with
          | none =>
              rw [registered, strings.hasText_null] at text
              cases text
          | some sessionId =>
              rw [registered] at text target
              have one := reached_of_target
                (server.chat.directMessage user msg).1.adapter strings context
                (server.chat.directMessage user msg).2 target text
              constructor
              · exact fun _ => Or.inl ⟨sessionId, rfl, text⟩
              · intro _ session pushed
                rw [((one session).mp pushed).1]

theorem private_serve_iff {server : ChatServer} (kept : Private server) (event : ChatEvent) :
    Private (server.serve strings event) ↔ Guarded strings server event := by
  cases event with
  | directMessage user msg =>
      rw [Guarded, ← reachedBy_contained_iff strings server user msg]
      constructor
      · intro still
        exact still _ (List.mem_append_right _ List.mem_cons_self)
      · intro contained delivery member
        rcases List.mem_append.mp member with old | new
        · exact kept delivery old
        · rw [List.mem_singleton] at new
          subst new
          exact contained
  | connect session => exact iff_of_true kept trivial
  | disconnect session => exact iff_of_true kept trivial
  | join user sessionId => exact iff_of_true kept trivial
  | logout user => exact iff_of_true kept trivial
  | reset => exact iff_of_true kept trivial
  | groupMessage msg => exact iff_of_true kept trivial

/-- Throughout a run of the server direct messages stay private precisely when each of
them is sent to a registered user or while no other session is live. -/
theorem private_iff_addressed (events : List ChatEvent) :
    Throughout (total (serve strings)) Private start events ↔
      Along (total (serve strings)) (Guarded strings) start events := by
  have started : Private start := by
    intro delivery member
    cases member
  rw [throughout_iff_along _ _ _ started]
  apply along_iff_along (total (serve strings)) Private _ _ _ _ events started
  · intro server event next kept met moved
    cases moved
    exact (private_serve_iff strings kept event).mpr met
  · intro server event kept
    rw [forall_total_iff]
    exact private_serve_iff strings kept event

def springStrings : StringUtils where
  hasText text := text.any fun characters => characters.toList.any fun c => !c.isWhitespace
  hasText_null := rfl

/-- Only Eve's page is open, and a message to Alice, who never joined, is pushed to it. -/
theorem direct_message_leaks :
    ¬Throughout (total (serve springStrings)) Private start
      [.connect "eve-session", .directMessage "alice" "for alice only"] := by
  intro always
  have last := (always.2 _ rfl).2 _ rfl
  have leaked := last ⟨none, ["eve-session"]⟩ (by decide) "eve-session" List.mem_cons_self
  cases leaked

end ChatServer

end SpringExamples
