/-
The chat room: who is registered with which script session, and what was said.

Each operation is translated as the state it leaves and the message it sends.  What
the roster is for is said apart from the map that stores it: a function from user
names to sessions that a join updates and a reset clears.
-/

import Mathlib.Data.Finset.Dedup
import Mathlib.Data.List.AList
import SpringExamples.Chat.DwrAdapter

set_option autoImplicit false

namespace SpringExamples

open Dwr

abbrev Users := AList fun _ : String => String

def Users.putIfAbsent (users : Users) (user sessionId : String) : Users :=
  if user ∈ users then users else users.insert user sessionId

structure Chat where
  users : Users
  chatMessages : List String

inductive ChatChannel where
  | messageChannel
  | rosterChannel
  | directMessageChannel
  deriving DecidableEq

namespace Chat

def empty : Chat :=
  { users := ∅
    chatMessages := [] }

def reset (_ : Chat) : Chat :=
  { users := ∅
    chatMessages := [] }

/-- `sessionId` is the script session of the page that calls. -/
def join (chat : Chat) (user sessionId : String) : Chat × ChatChannel × Message String :=
  let others := if user ∈ chat.users then chat.users.erase user else chat.users
  ({ chat with users := Users.putIfAbsent others user sessionId },
    .rosterChannel, Message.withPayload user)

def directMessage (chat : Chat) (user msg : String) : ChatChannel × Message String :=
  let sessionId := chat.users.lookup user
  (.directMessageChannel, (Message.withPayload msg).setHeader dwrTargetSessionId sessionId)

/-- The loop of `getUsers`: each key, and what is found under it. -/
def entries (chat : Chat) : List (String × Option String) :=
  chat.users.keys.map fun k => (k, chat.users.lookup k)

/-- Java prints a missing value as `null`. -/
def entryText (entry : String × Option String) : String :=
  entry.1 ++ ":" ++ entry.2.getD "null"

def getUsers (chat : Chat) : Finset String := (chat.entries.map entryText).toFinset

def getChatMessages (chat : Chat) : List String := chat.chatMessages

def groupMessage (chat : Chat) (msg : String) : Chat × ChatChannel × Message String :=
  ({ chat with chatMessages := chat.chatMessages ++ [msg] },
    .messageChannel, Message.withPayload msg)

/-- Logging out ends the script session and leaves the roster as it is. -/
def logout (chat : Chat) (user : String) (context : ServerContext) : ServerContext :=
  match context.getScriptSessionById (chat.users.lookup user) with
  | some scriptSession => context.invalidate scriptSession
  | none => context

def registered (chat : Chat) (user : String) : Option String := chat.users.lookup user

theorem mem_entries (chat : Chat) (user : String) (found : Option String) :
    (user, found) ∈ chat.entries ↔
      ∃ session, chat.registered user = some session ∧ found = some session := by
  unfold entries registered
  rw [List.mem_map]
  constructor
  · intro given
    obtain ⟨k, member, same⟩ := given
    cases same
    obtain ⟨session, stored⟩ :=
      Option.isSome_iff_exists.mp (AList.lookup_isSome.mpr (AList.mem_keys.mpr member))
    exact ⟨session, stored, stored⟩
  · intro given
    obtain ⟨session, stored, same⟩ := given
    have present : user ∈ chat.users := AList.lookup_isSome.mp (by rw [stored]; rfl)
    exact ⟨user, AList.mem_keys.mp present, by rw [same, stored]⟩

theorem mem_getUsers (chat : Chat) (text : String) :
    text ∈ chat.getUsers ↔
      ∃ user session, chat.registered user = some session ∧ text = user ++ ":" ++ session := by
  unfold getUsers
  rw [List.mem_toFinset, List.mem_map]
  constructor
  · intro given
    obtain ⟨⟨user, found⟩, member, same⟩ := given
    obtain ⟨session, stored, rfl⟩ := (chat.mem_entries user found).mp member
    exact ⟨user, session, stored, same.symm⟩
  · intro given
    obtain ⟨user, session, stored, same⟩ := given
    exact ⟨(user, some session), (chat.mem_entries user _).mpr ⟨session, stored, rfl⟩, same.symm⟩

@[simp] theorem registered_reset (chat : Chat) : chat.reset.registered = fun _ => none := rfl

/-- Removing first and putting if absent replaces whatever was registered. -/
@[simp] theorem registered_join (chat : Chat) (user sessionId : String) :
    (chat.join user sessionId).1.registered =
      Function.update chat.registered user (some sessionId) := by
  have absent : user ∉ if user ∈ chat.users then chat.users.erase user else chat.users := by
    by_cases present : user ∈ chat.users
    · rw [if_pos present, AList.mem_erase]
      exact fun both => both.1 rfl
    · rw [if_neg present]
      exact present
  funext other
  simp only [registered, join, Users.putIfAbsent, if_neg absent]
  by_cases same : other = user
  · subst same
    rw [AList.lookup_insert, Function.update_self]
  · rw [AList.lookup_insert_ne same, Function.update_of_ne same]
    by_cases present : user ∈ chat.users
    · rw [if_pos present, AList.lookup_erase_ne same]
      rfl
    · rw [if_neg present]
      rfl

@[simp] theorem registered_groupMessage (chat : Chat) (msg : String) :
    (chat.groupMessage msg).1.registered = chat.registered := rfl

@[simp] theorem directMessage_target (chat : Chat) (user msg : String) :
    (chat.directMessage user msg).2.headers dwrTargetSessionId = chat.registered user :=
  Message.setHeader_headers_self _ _ _

end Chat

end SpringExamples
