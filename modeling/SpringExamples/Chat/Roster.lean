/-
Who is listed in the chat room, and who should be.

Script sessions end only when `logout` invalidates them, and a page calls `join` from
its own live session.  Beside the server runs an account of the members: a join
enters its user with the session of the page, a logout takes the user out, and a
reset takes everybody out.
-/

import SpringExamples.Chat.PrivateMessages

set_option autoImplicit false

namespace SpringExamples

open Runs Dwr

structure Roster where
  server : ChatServer
  /-- The users that joined and have not logged out or been reset since, each with the
  session of the latest join. -/
  members : String → Option String

namespace Roster

variable (strings : StringUtils)

def start : Roster :=
  { server := ChatServer.start
    members := fun _ => none }

def attend (members : String → Option String) : ChatEvent → String → Option String
  | .join user sessionId => Function.update members user (some sessionId)
  | .logout user => Function.update members user none
  | .reset => fun _ => none
  | _ => members

def Live (server : ChatServer) (session : String) : Prop :=
  ∃ context, server.serverContext = some context ∧ session ∈ context.scriptSessions

/-- A new page has a session id with text, and only a live page can join. -/
def Enabled (server : ChatServer) : ChatEvent → Prop
  | .connect session => strings.hasText (some session) = true
  | .disconnect _ => False
  | .join _ sessionId => Live server sessionId
  | _ => True

instance decidableLive (server : ChatServer) (session : String) :
    Decidable (Live server session) :=
  match present : server.serverContext with
  | none => isFalse fun given => by
      obtain ⟨context, same, _⟩ := given
      rw [present] at same
      cases same
  | some context =>
      decidable_of_iff (session ∈ context.scriptSessions) (by
        unfold Live
        rw [present]
        simp)

instance decidableEnabled (server : ChatServer) :
    (event : ChatEvent) → Decidable (Enabled strings server event)
  | .connect _ => inferInstanceAs (Decidable (_ = _))
  | .disconnect _ => isFalse id
  | .join _ sessionId => inferInstanceAs (Decidable (Live server sessionId))
  | .logout _ => isTrue trivial
  | .reset => isTrue trivial
  | .groupMessage _ => isTrue trivial
  | .directMessage _ _ => isTrue trivial

def step (roster : Roster) (event : ChatEvent) : Option Roster :=
  if Enabled strings roster.server event then
    some
      { server := roster.server.serve strings event
        members := attend roster.members event }
  else none

/-- The room lists exactly the members, each with a live session, and a direct message to
a listed user is pushed to that session and to nothing else. -/
structure Current (roster : Roster) : Prop where
  listed : ∀ user found, (user, found) ∈ roster.server.chat.entries ↔
    ∃ session, roster.members user = some session ∧ found = some session
  texts : ∀ text, text ∈ roster.server.chat.getUsers ↔
    ∃ user session, roster.members user = some session ∧ text = user ++ ":" ++ session
  live : ∀ user session, roster.members user = some session → Live roster.server session
  recipients : ∀ user found msg, (user, found) ∈ roster.server.chat.entries →
    ∃ session call, roster.members user = some session ∧ Live roster.server session ∧
      roster.server.send strings (roster.server.chat.directMessage user msg) = some call ∧
      call.sessions = [some session]

/-- No registered user logs out. -/
def StrangersLeave (roster : Roster) (event : ChatEvent) : Prop :=
  ∀ user, event = .logout user → roster.server.chat.registered user = none

structure Sound (roster : Roster) : Prop where
  registered : roster.server.chat.registered = roster.members
  live : ∀ user session, roster.members user = some session → Live roster.server session
  named : ∀ session, Live roster.server session → strings.hasText (some session) = true

variable {strings}

theorem sound_start : Sound strings start where
  registered := rfl
  live := nofun
  named := by
    intro session given
    obtain ⟨context, same, _⟩ := given
    cases same

/-- A session with text that is live is the only recipient. -/
theorem recipients_of_live {server : ChatServer} {user session : String} (msg : String)
    (registered : server.chat.registered user = some session)
    (text : strings.hasText (some session) = true) (live : Live server session) :
    ∃ call, server.send strings (server.chat.directMessage user msg) = some call ∧
      call.sessions = [some session] := by
  obtain ⟨context, present, member⟩ := live
  have target := Chat.directMessage_target server.chat user msg
  rw [registered] at target
  unfold ChatServer.send Dwr.Adapter.handleMessage
  rw [present, Option.map_some]
  refine ⟨_, rfl, ?_⟩
  dsimp only
  rw [target, if_pos text]
  simp [ServerContext.getScriptSessionById, Option.filter, member]

theorem current_of_sound {roster : Roster} (sound : Sound strings roster) :
    Current strings roster where
  listed := by
    intro user found
    rw [Chat.mem_entries, sound.registered]
  texts := by
    intro text
    rw [Chat.mem_getUsers, sound.registered]
  live := sound.live
  recipients := by
    intro user found msg member
    obtain ⟨session, stored, _⟩ := (Chat.mem_entries _ user found).mp member
    have live := sound.live user session (sound.registered ▸ stored)
    obtain ⟨call, sent, only⟩ := recipients_of_live msg stored (sound.named session live) live
    exact ⟨session, call, sound.registered ▸ stored, live, sent, only⟩

variable (strings) in
theorem live_connect_iff (server : ChatServer) (session other : String) :
    Live (server.serve strings (.connect session)) other ↔
      other = session ∨ Live server other := by
  unfold Live ChatServer.serve ServerContext.connect
  cases server.serverContext with
  | none => simp
  | some context => simp

theorem logout_of_stranger {server : ChatServer} {user : String}
    (stranger : server.chat.registered user = none) :
    server.serve strings (.logout user) = server := by
  have unchanged : ∀ context, server.chat.logout user context = context := by
    intro context
    unfold Chat.registered at stranger
    unfold Chat.logout
    rw [stranger]
    rfl
  unfold ChatServer.serve
  dsimp only
  rw [funext unchanged, Option.map_id']

theorem sound_step {roster next : Roster} {event : ChatEvent} (sound : Sound strings roster)
    (strangers : StrangersLeave roster event) (moved : step strings roster event = some next) :
    Sound strings next := by
  unfold step at moved
  split at moved
  · rename_i enabled
    cases moved
    cases event with
    | connect session =>
        constructor
        · exact sound.registered
        · intro user other member
          exact (live_connect_iff strings roster.server session other).mpr
            (Or.inr (sound.live user other member))
        · intro other live
          rcases (live_connect_iff strings roster.server session other).mp live with same | old
          · rw [same]
            exact enabled
          · exact sound.named other old
    | disconnect session => exact absurd enabled id
    | join user sessionId =>
        constructor
        · change (roster.server.chat.join user sessionId).1.registered = _
          rw [Chat.registered_join, sound.registered]
          rfl
        · intro other session member
          change Function.update roster.members user (some sessionId) other = some session
            at member
          change Live roster.server session
          by_cases same : other = user
          · subst same
            rw [Function.update_self] at member
            cases member
            exact enabled
          · rw [Function.update_of_ne same] at member
            exact sound.live other session member
        · exact sound.named
    | logout user =>
        have stranger := strangers user rfl
        rw [logout_of_stranger stranger]
        have kept : attend roster.members (.logout user) = roster.members := by
          change Function.update roster.members user none = roster.members
          rw [← sound.registered, Function.update_eq_self_iff]
          exact stranger.symm
        rw [kept]
        exact sound
    | reset => exact ⟨rfl, nofun, sound.named⟩
    | groupMessage msg => exact ⟨sound.registered, sound.live, sound.named⟩
    | directMessage user msg => exact ⟨sound.registered, sound.live, sound.named⟩
  · cases moved

theorem current_step_iff {roster : Roster} (sound : Sound strings roster) (event : ChatEvent) :
    (∀ next, step strings roster event = some next → Current strings next) ↔
      StrangersLeave roster event := by
  constructor
  · intro right user same
    subst same
    have after := right _ (if_pos trivial)
    cases stored : roster.server.chat.registered user with
    | none => rfl
    | some session =>
        obtain ⟨other, member, _⟩ := (after.listed user (some session)).mp
          ((Chat.mem_entries roster.server.chat user _).mpr ⟨session, stored, rfl⟩)
        change Function.update roster.members user none user = some other at member
        rw [Function.update_self] at member
        cases member
  · intro strangers next moved
    exact current_of_sound (sound_step sound strangers moved)

/-- The roster is current in each state of a run precisely when no registered user ever
logs out. -/
theorem current_iff_strangers_leave (events : List ChatEvent) :
    Throughout (step strings) (Current strings) start events ↔
      Along (step strings) StrangersLeave start events := by
  rw [throughout_iff_along (step strings) (Current strings) events
    (current_of_sound sound_start)]
  apply along_iff_along (step strings) (Sound strings) _ _ _ _ events sound_start
  · intro roster event next sound strangers moved
    exact sound_step sound strangers moved
  · intro roster event sound
    exact current_step_iff sound event

/-- Alice stays listed with the session that her logout ended. -/
theorem listed_after_logout :
    ¬Throughout (step ChatServer.springStrings) (Current ChatServer.springStrings) start
      [.connect "alice-session", .join "alice" "alice-session", .logout "alice"] := by
  intro always
  have last := ((always.2 _ rfl).2 _ rfl).2 _ rfl
  obtain ⟨session, member, _⟩ :=
    (last.listed "alice" (some "alice-session")).mp (by decide)
  cases member

end Roster

end SpringExamples
