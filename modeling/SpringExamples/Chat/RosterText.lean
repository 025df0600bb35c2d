/-
The roster as text: what `getUsers` writes for each user and what the page reads back.

The server joins the name and the session with a colon, and the page takes what stands
before the first one.  Nothing is escaped on either side.
-/

import SpringExamples.Chat.Pages
import SpringExamples.Foundation.DelimitedText

set_option autoImplicit false

namespace SpringExamples

open Dwr DelimitedText

namespace Pages

/-- The array that a Java set is sent as, in the order in which the set is iterated. -/
structure ArrayOf (set : Finset String) where
  items : List String
  nodup : items.Nodup
  same : items.toFinset = set

structure RosterView where
  handles : List String
  content : String
  /-- The handles that a click may make the addressee of direct messages; one that is no plain id
  is not found in the page, so these are the most. -/
  addressees : List String

/-- The callback of `refreshRoster`; `user` is undefined before the page joins. -/
def showRoster (user : Option String) (usrs : List String) : RosterView :=
  let handles := usrs.map beforeColon
  { handles := handles
    content := handles.foldl (fun content usr => content ++ ("<span " ++
      (if some usr = user then "class=\"me\"" else "class=\"member\" ") ++
      " id=\"" ++ usr ++ "\">" ++ usr ++ "</span><br/> ")) ""
    addressees := handles.filter fun v => some v ≠ user }

/-- The handles are the users of the chat room, each of them once, and whoever is addressed
by a direct message is registered. -/
structure RosterKept (chat : Chat) (view : RosterView) : Prop where
  listed : ∀ name, view.handles.count name = if name ∈ chat.users then 1 else 0
  addressed : ∀ user ∈ view.addressees, ∀ msg,
    (chat.directMessage user msg).2.headers dwrTargetSessionId ≠ none

def Named (chat : Chat) : Prop := ∀ user ∈ chat.users, ':' ∉ user.toList

theorem toList_entry (user session : String) :
    (user ++ ":" ++ session).toList = user.toList ++ ':' :: session.toList := by
  have colon : ":".toList = [':'] := by decide
  rw [String.toList_append, String.toList_append, colon, List.append_assoc,
    List.singleton_append]

theorem toList_beforeColon (text : String) :
    (beforeColon text).toList = beforeFirst ':' text.toList := by
  unfold beforeColon beforeFirst
  rw [String.toList_ofList]

theorem not_mem_beforeColon (text : String) : ':' ∉ (beforeColon text).toList := by
  rw [toList_beforeColon]
  exact not_mem_beforeFirst ':' text.toList

theorem beforeColon_entry_iff (user session : String) :
    beforeColon (user ++ ":" ++ session) = user ↔ ':' ∉ user.toList := by
  rw [← String.toList_inj, toList_beforeColon, toList_entry]
  exact beforeFirst_tagged_iff ':' user.toList session.toList

theorem registered_isSome (chat : Chat) (user : String) :
    (∃ session, chat.registered user = some session) ↔ user ∈ chat.users :=
  Option.isSome_iff_exists.symm.trans AList.lookup_isSome

/-- Names without a colon are shown as they are. -/
theorem mem_roster_iff {chat : Chat} (named : Named chat) (name : String) :
    name ∈ roster chat.getUsers ↔ name ∈ chat.users := by
  unfold roster
  rw [Finset.mem_image]
  constructor
  · intro given
    obtain ⟨text, listed, same⟩ := given
    obtain ⟨user, session, registered, entry⟩ := (chat.mem_getUsers text).mp listed
    have member := (registered_isSome chat user).mp ⟨session, registered⟩
    rw [entry, (beforeColon_entry_iff user session).mpr (named user member)] at same
    exact same ▸ member
  · intro member
    obtain ⟨session, registered⟩ := (registered_isSome chat name).mpr member
    exact ⟨_, (chat.mem_getUsers _).mpr ⟨name, session, registered, rfl⟩,
      (beforeColon_entry_iff name session).mpr (named name member)⟩

/-- The handles in any order are the set that the pages keep. -/
theorem toFinset_handles (user : Option String) {set : Finset String} (usrs : ArrayOf set) :
    (showRoster user usrs.items).handles.toFinset = roster set := by
  calc (usrs.items.map beforeColon).toFinset
      = usrs.items.toFinset.image beforeColon :=
        Multiset.toFinset_map beforeColon (usrs.items : Multiset String)
    _ = roster set := congrArg roster usrs.same

theorem mem_handles_iff {chat : Chat} (named : Named chat) (user : Option String)
    (usrs : ArrayOf chat.getUsers) (name : String) :
    name ∈ (showRoster user usrs.items).handles ↔ name ∈ chat.users := by
  rw [← List.mem_toFinset, toFinset_handles, mem_roster_iff named]

theorem mem_items_iff {chat : Chat} (usrs : ArrayOf chat.getUsers) (text : String) :
    text ∈ usrs.items ↔
      ∃ user session, chat.registered user = some session ∧ text = user ++ ":" ++ session := by
  rw [← List.mem_toFinset, usrs.same]
  exact chat.mem_getUsers text

/-- Entries of one user are the same entry. -/
theorem nodup_handles {chat : Chat} (named : Named chat) (user : Option String)
    (usrs : ArrayOf chat.getUsers) : (showRoster user usrs.items).handles.Nodup := by
  refine List.Nodup.map_on ?_ usrs.nodup
  intro left leftListed right rightListed same
  obtain ⟨first, session, registered, entry⟩ := (mem_items_iff usrs left).mp leftListed
  obtain ⟨second, session', registered', entry'⟩ := (mem_items_iff usrs right).mp rightListed
  have plain := named first ((registered_isSome chat first).mp ⟨session, registered⟩)
  have plain' := named second ((registered_isSome chat second).mp ⟨session', registered'⟩)
  rw [entry, entry', (beforeColon_entry_iff first session).mpr plain,
    (beforeColon_entry_iff second session').mpr plain'] at same
  rw [same, registered'] at registered
  cases registered
  rw [entry, entry', same]

theorem addressee_mem_handles {user : Option String} {usrs : List String} {addressee : String}
    (member : addressee ∈ (showRoster user usrs).addressees) :
    addressee ∈ (showRoster user usrs).handles :=
  List.mem_of_mem_filter member

/-- Reading the roster back undoes writing it precisely when no name contains a colon. -/
theorem roster_kept_iff (chat : Chat) (user : Option String) (usrs : ArrayOf chat.getUsers) :
    RosterKept chat (showRoster user usrs.items) ↔ Named chat := by
  constructor
  · intro kept name member
    have once := kept.listed name
    rw [if_pos member] at once
    have shown : name ∈ (showRoster user usrs.items).handles := by
      apply List.count_pos_iff.mp
      rw [once]
      exact Nat.one_pos
    obtain ⟨text, _, same⟩ := List.mem_map.mp shown
    rw [← same]
    exact not_mem_beforeColon text
  · intro named
    constructor
    · intro name
      rw [(nodup_handles named user usrs).count]
      simp only [mem_handles_iff named]
    · intro addressee member msg
      have listed := (mem_handles_iff named user usrs addressee).mp (addressee_mem_handles member)
      obtain ⟨session, registered⟩ := (registered_isSome chat addressee).mpr listed
      rw [Chat.directMessage_target, registered]
      exact Option.some_ne_none session

/-- The page lists and addresses a user whom nobody has registered. -/
theorem colon_name_cut :
    let chat := (Chat.empty.join "team:alice" "s1").1
    ∃ usrs : ArrayOf chat.getUsers,
      (showRoster none usrs.items).addressees = ["team"] ∧ "team" ∉ chat.users ∧
        ¬RosterKept chat (showRoster none usrs.items) := by
  intro chat
  refine ⟨{ items := ["team:alice:s1"], nodup := by decide, same := by decide }, ?_, ?_, ?_⟩
  · decide
  · decide
  · intro kept
    have once := kept.listed "team:alice"
    rw [if_pos (by decide)] at once
    revert once
    decide

end Pages

end SpringExamples
