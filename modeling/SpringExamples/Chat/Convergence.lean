/-
Whether the pages converge on the server.

A page is behind the server only for a while if it is about to fetch the view again, or if
the last response on its way is current.  A change that is pushed keeps this up for every
page; a reset does so only for its caller, and a response that overtakes another for nobody.
-/

import SpringExamples.Chat.RosterText
import SpringExamples.Foundation.Refreshing

set_option autoImplicit false

namespace SpringExamples

open Runs Dwr

namespace Pages

section Views

inductive View where
  | transcript
  | roster
  deriving DecidableEq

def View.Shown : View → Type
  | .transcript => String
  | .roster => Finset String

instance (view : View) : DecidableEq view.Shown :=
  match view with
  | .transcript => inferInstanceAs (DecidableEq String)
  | .roster => inferInstanceAs (DecidableEq (Finset String))

def View.call : View → Call
  | .transcript => .getChatMessages
  | .roster => .getUsers

def View.callbackFunction : View → String
  | .transcript => "handleMessage"
  | .roster => "handleRoster"

def View.ofChat (chat : Chat) : (view : View) → view.Shown
  | .transcript => Pages.transcript chat.getChatMessages
  | .roster => Pages.roster chat.getUsers

def View.ofPage (page : Page) : (view : View) → view.Shown
  | .transcript => page.transcript
  | .roster => page.handles

def View.ofReply : (view : View) → Reply → Option view.Shown
  | .transcript, .chatMessages lines => some (Pages.transcript lines)
  | .roster, .users usrs => some (Pages.roster usrs)
  | _, _ => none

/-- How a view reaches the page of a session. -/
def View.refreshing (view : View) (session : String) : Refreshing Packet view.Shown where
  refreshes
    | .request caller call => caller = session ∧ call = view.call
    | .reply caller reply => caller = session ∧ reply = .resetDone
    | .push reached callbackFunction =>
        reached = session ∧ callbackFunction = some view.callbackFunction
  carries
    | .reply caller reply => if caller = session then view.ofReply reply else none
    | _ => none

instance (view : View) (session : String) :
    DecidablePred (view.refreshing session).refreshes := fun packet =>
  match packet with
  | .request _ _ => inferInstanceAs (Decidable (_ ∧ _))
  | .reply _ _ => inferInstanceAs (Decidable (_ ∧ _))
  | .push _ _ => inferInstanceAs (Decidable (_ ∧ _))

/-- The page of the session shows what the chat room would, or is going to. -/
def Site.Tracks (site : Site) (chat : Chat) (session : String) (view : View) : Prop :=
  (view.refreshing session).Tracked site.flight (view.ofPage (site.pages session))
    (view.ofChat chat)

instance (site : Site) (chat : Chat) (session : String) (view : View) :
    Decidable (site.Tracks chat session view) :=
  Refreshing.decidableTracked _ _ _ _

end Views

/-- A name has no colon; a reset finds every other page with nothing to clear, or about to
fetch anew; and a page gets what it fetched in the order in which it was served. -/
def CarefulDelivery (site : Site) (before : List Packet) : Packet → Prop
  | .request _ (.join user) => ':' ∉ user.toList
  | .request session .reset =>
      ∀ other ∈ site.context.scriptSessions, other ≠ session →
        site.Tracks Chat.empty other .transcript ∧ site.Tracks Chat.empty other .roster
  | .reply session (.users _) =>
      ∀ earlier ∈ before, (View.roster.refreshing session).carries earlier = none
  | .reply session (.chatMessages _) =>
      ∀ earlier ∈ before, (View.transcript.refreshing session).carries earlier = none
  | _ => True

def Careful (site : Site) : Move → Prop
  | .deliver index =>
      ∀ packet, site.flight[index]? = some packet →
        CarefulDelivery site (site.flight.take index) packet
  | _ => True

section Rooms

theorem named_join {chat : Chat} (named : Named chat) {user : String} (plain : ':' ∉ user.toList)
    (session : String) : Named (chat.join user session).1 := by
  intro other member
  obtain ⟨found, registered⟩ := (registered_isSome _ other).mpr member
  rw [Chat.registered_join] at registered
  by_cases same : other = user
  · rw [same]
    exact plain
  · rw [Function.update_of_ne same] at registered
    exact named other ((registered_isSome chat other).mp ⟨found, registered⟩)

end Rooms

section Packets

variable {strings : StringUtils}

/-- A message that names no session is pushed to every session. -/
theorem pushed_broadcast (context : ServerContext) (channel : ChatChannel) (payload : String) :
    pushed strings context (channel, Message.withPayload payload) =
      context.scriptSessions.map fun session =>
        .push session (some channel.adapter.defaultCallbackFunctionName) := by
  have unnamed : ∀ name, (Message.withPayload payload).headers name = none := fun _ => rfl
  unfold pushed Dwr.Adapter.handleMessage
  dsimp only
  rw [Option.map_some, unnamed, unnamed, strings.hasText_null]
  simp [FunctionCall.reached, ServerContext.getAllScriptSessions]

theorem push_mem_pushed {context : ServerContext} {session : String}
    (live : session ∈ context.scriptSessions) (channel : ChatChannel) (payload : String) :
    Packet.push session (some channel.adapter.defaultCallbackFunctionName) ∈
      pushed strings context (channel, Message.withPayload payload) := by
  rw [pushed_broadcast]
  exact List.mem_map_of_mem live

theorem carries_pushed (view : View) (session : String) (context : ServerContext)
    (channel : ChatChannel) (payload : String) :
    ∀ packet ∈ pushed strings context (channel, Message.withPayload payload),
      (view.refreshing session).carries packet = none := by
  intro packet member
  rw [pushed_broadcast] at member
  obtain ⟨reached, _, same⟩ := List.mem_map.mp member
  rw [← same]
  rfl

theorem carries_reply {view : View} {reply : Reply} (empty : view.ofReply reply = none)
    (session caller : String) :
    (view.refreshing session).carries (.reply caller reply) = none := by
  change (if caller = session then view.ofReply reply else none) = none
  rw [empty, ite_self]

theorem carries_answer {view : View} {reply : Reply} (empty : view.ofReply reply = none)
    (session caller : String) :
    ∀ packet ∈ [Packet.reply caller reply],
      (view.refreshing session).carries packet = none := by
  intro packet member
  rw [List.mem_singleton.mp member]
  exact carries_reply empty session caller

/-- What the server sends for a call that it passes on to every session. -/
theorem carries_notified {view : View} {reply : Reply} (empty : view.ofReply reply = none)
    (session caller : String) (context : ServerContext) (channel : ChatChannel)
    (payload : String) :
    ∀ packet ∈ pushed strings context (channel, Message.withPayload payload) ++
        [.reply caller reply],
      (view.refreshing session).carries packet = none := by
  intro packet member
  rcases List.mem_append.mp member with push | answer
  · exact carries_pushed view session context channel payload packet push
  · exact carries_answer empty session caller packet answer

theorem carries_reply_other {view : View} {session caller : String} (other : caller ≠ session)
    (reply : Reply) : (view.refreshing session).carries (.reply caller reply) = none :=
  if_neg other

theorem carries_reply_self (view : View) (session : String) (reply : Reply) :
    (view.refreshing session).carries (.reply session reply) = view.ofReply reply :=
  if_pos rfl

end Packets

section Steps

variable {strings : StringUtils} {site next : Site} {chat : Chat} {session : String} {view : View}
  {before after added : List Packet} {packet : Packet}

/-- Packets that carry nothing are sent, and the page stays as it is. -/
theorem tracks_sent (tracks : site.Tracks chat session view)
    (flight : next.flight = site.flight ++ added)
    (page : view.ofPage (next.pages session) = view.ofPage (site.pages session))
    (silent : ∀ packet ∈ added, (view.refreshing session).carries packet = none) :
    next.Tracks chat session view := by
  unfold Site.Tracks
  rw [flight, page]
  exact Refreshing.tracked_sent tracks silent

/-- A packet is delivered that has nothing to do with the view. -/
theorem tracks_delivered (tracks : site.Tracks chat session view)
    (split : site.flight = before ++ packet :: after)
    (flight : next.flight = before ++ after ++ added)
    (page : view.ofPage (next.pages session) = view.ofPage (site.pages session))
    (idle : ¬(view.refreshing session).refreshes packet)
    (carries : (view.refreshing session).carries packet = none)
    (silent : ∀ packet ∈ added, (view.refreshing session).carries packet = none) :
    next.Tracks chat session view := by
  unfold Site.Tracks at tracks ⊢
  rw [split] at tracks
  rw [flight, page]
  exact Refreshing.tracked_sent (Refreshing.tracked_delivered tracks idle carries) silent

theorem tracks_of_sent (flight : next.flight = before ++ added) (member : packet ∈ added)
    (refreshes : (view.refreshing session).refreshes packet) :
    next.Tracks chat session view := by
  unfold Site.Tracks
  rw [flight]
  exact Refreshing.tracked_of_underway (List.mem_append_right before member) refreshes

def Site.without (site : Site) (before after : List Packet) : Site :=
  { site with flight := before ++ after }

/-- The server answers with what is current. -/
theorem tracks_fetched {caller : String} {call : Call} {reply : Reply}
    (tracks : site.Tracks site.chat session view)
    (split : site.flight = before ++ .request caller call :: after)
    (answered : view.ofReply reply = some (view.ofChat site.chat)) :
    (site.without (before ++ after) [.reply caller reply]).Tracks site.chat session view := by
  by_cases own : caller = session
  · subst own
    exact Refreshing.tracked_answered ((carries_reply_self view caller reply).trans answered)
  · refine tracks_delivered tracks split rfl rfl (fun both => own both.1) rfl ?_
    intro packet member
    rw [List.mem_singleton.mp member]
    exact carries_reply_other own reply

/-- The page of another session has nothing to clear, or is about to fetch anew. -/
theorem tracks_reset {caller : String} (other : session ≠ caller)
    (live : session ∈ site.context.scriptSessions)
    (split : site.flight = before ++ .request caller .reset :: after)
    (careful : CarefulDelivery site before (.request caller .reset)) :
    (site.without (before ++ after) [.reply caller .resetDone]).Tracks Chat.empty session
      view := by
  obtain ⟨lines, names⟩ := careful session live other
  have cleared : site.Tracks Chat.empty session view := by
    cases view with
    | transcript => exact lines
    | roster => exact names
  refine tracks_delivered cleared split rfl rfl ?_ rfl ?_
  · intro both
    cases view with
    | transcript => exact nomatch both.2
    | roster => exact nomatch both.2
  · intro packet member
    rw [List.mem_singleton.mp member]
    exact carries_reply_other (Ne.symm other) .resetDone

theorem tracks_request {caller : String} {call : Call}
    (live : session ∈ site.context.scriptSessions)
    (tracks : site.Tracks site.chat session view)
    (split : site.flight = before ++ .request caller call :: after)
    (careful : CarefulDelivery site before (.request caller call)) :
    (deliver strings (site.without before after) (.request caller call)).Tracks
      (serve strings site caller call).1 session view := by
  cases call with
  | join user =>
      cases view with
      | transcript =>
          exact tracks_delivered tracks split rfl rfl (fun both => nomatch both.2) rfl
            (carries_notified rfl session caller site.context .rosterChannel user)
      | roster =>
          exact tracks_of_sent rfl (List.mem_append_left _
            (push_mem_pushed live .rosterChannel user)) ⟨rfl, rfl⟩
  | groupMessage msg =>
      cases view with
      | transcript =>
          exact tracks_of_sent rfl (List.mem_append_left _
            (push_mem_pushed live .messageChannel msg)) ⟨rfl, rfl⟩
      | roster =>
          exact tracks_delivered tracks split rfl rfl (fun both => nomatch both.2) rfl
            (carries_notified rfl session caller site.context .messageChannel msg)
  | reset =>
      by_cases own : session = caller
      · exact tracks_of_sent rfl List.mem_cons_self ⟨own.symm, rfl⟩
      · have cleared : (site.without (before ++ after) [.reply caller .resetDone]).Tracks
            Chat.empty session view :=
          tracks_reset own live split careful
        exact cleared
  | getUsers =>
      cases view with
      | transcript =>
          exact tracks_delivered tracks split rfl rfl (fun both => nomatch both.2) rfl
            (carries_answer rfl session caller)
      | roster =>
          have answered : (site.without (before ++ after)
              [.reply caller (.users site.chat.getUsers)]).Tracks site.chat session .roster :=
            tracks_fetched tracks split rfl
          exact answered
  | getChatMessages =>
      cases view with
      | transcript =>
          have answered : (site.without (before ++ after)
              [.reply caller (.chatMessages site.chat.getChatMessages)]).Tracks site.chat session
                .transcript :=
            tracks_fetched tracks split rfl
          exact answered
      | roster =>
          exact tracks_delivered tracks split rfl rfl (fun both => nomatch both.2) rfl
            (carries_answer rfl session caller)

theorem carries_request (view : View) (session caller : String) (call : Call) :
    (view.refreshing session).carries (.request caller call) = none := rfl

theorem mem_refreshed {packet : Packet}
    (member : packet ∈ refreshChatTranscript session ++ refreshRoster session) :
    packet = .request session .getChatMessages ∨ packet = .request session .getUsers := by
  rcases List.mem_append.mp member with lines | names
  · exact Or.inl (List.mem_singleton.mp lines)
  · exact Or.inr (List.mem_singleton.mp names)

theorem request_mem_refreshed (view : View) (session : String) :
    Packet.request session view.call ∈
      refreshChatTranscript session ++ refreshRoster session := by
  cases view with
  | transcript => exact List.mem_append_left _ List.mem_cons_self
  | roster => exact List.mem_append_right _ List.mem_cons_self

theorem carries_callback (view : View) (session caller : String) (page : Page) (reply : Reply) :
    ∀ packet ∈ (callback caller page reply).2, (view.refreshing session).carries packet = none := by
  intro packet member
  cases reply with
  | resetDone =>
      rcases mem_refreshed member with same | same
      · rw [same, carries_request]
      · rw [same, carries_request]
  | joined => cases member
  | said => cases member
  | users usrs => cases member
  | chatMessages lines => cases member

theorem ofPage_callback (session : String) (page : Page) (reply : Reply) :
    view.ofPage (callback session page reply).1 =
      (view.ofReply reply).getD (view.ofPage page) := by
  cases view with
  | transcript =>
      cases reply with
      | joined => rfl
      | said => rfl
      | resetDone => rfl
      | users usrs => rfl
      | chatMessages lines => rfl
  | roster =>
      cases reply with
      | joined => rfl
      | said => rfl
      | resetDone => rfl
      | users usrs => rfl
      | chatMessages lines => rfl

theorem oldest_of_careful {caller : String} {reply : Reply} {shown : view.Shown}
    (careful : CarefulDelivery site before (.reply caller reply))
    (carried : view.ofReply reply = some shown) :
    ∀ earlier ∈ before, (view.refreshing caller).carries earlier = none := by
  cases view with
  | transcript =>
      cases reply with
      | chatMessages lines => exact careful
      | joined => cases carried
      | said => cases carried
      | resetDone => cases carried
      | users usrs => cases carried
  | roster =>
      cases reply with
      | users usrs => exact careful
      | joined => cases carried
      | said => cases carried
      | resetDone => cases carried
      | chatMessages lines => cases carried

theorem tracks_reply {caller : String} {reply : Reply}
    (tracks : site.Tracks chat session view)
    (split : site.flight = before ++ .reply caller reply :: after)
    (careful : CarefulDelivery site before (.reply caller reply)) :
    (deliver strings (site.without before after) (.reply caller reply)).Tracks chat session
      view := by
  have silent := carries_callback view session caller (site.pages caller) reply
  by_cases own : session = caller
  · subst own
    by_cases done : reply = .resetDone
    · subst done
      exact tracks_of_sent rfl (request_mem_refreshed view session) ⟨rfl, rfl⟩
    · have idle : ¬(view.refreshing session).refreshes (.reply session reply) :=
        fun both => done both.2
      have page : view.ofPage ((deliver strings (site.without before after)
          (.reply session reply)).pages session) =
            (view.ofReply reply).getD (view.ofPage (site.pages session)) := by
        change view.ofPage (Function.update site.pages session _ session) = _
        rw [Function.update_self]
        exact ofPage_callback session (site.pages session) reply
      cases carried : view.ofReply reply with
      | none =>
          rw [carried] at page
          exact tracks_delivered tracks split rfl page idle (carries_reply carried _ _) silent
      | some shown =>
          rw [carried] at page
          unfold Site.Tracks at tracks ⊢
          rw [split] at tracks
          rw [page]
          have carries := (carries_reply_self view session reply).trans carried
          exact Refreshing.tracked_sent (Refreshing.tracked_displayed tracks idle carries
            (oldest_of_careful careful carried)) silent
  · refine tracks_delivered tracks split rfl ?_ (fun both => own both.1.symm)
      (carries_reply_other (Ne.symm own) reply) silent
    change view.ofPage (Function.update site.pages caller _ session) = _
    rw [Function.update_of_ne own]

theorem carries_invoke (view : View) (session reached : String)
    (callbackFunction : Option String) :
    ∀ packet ∈ invoke reached callbackFunction,
      (view.refreshing session).carries packet = none := by
  intro packet member
  unfold invoke at member
  split at member
  · rw [List.mem_singleton.mp member, carries_request]
  · split at member
    · rw [List.mem_singleton.mp member, carries_request]
    · cases member

theorem invoke_view (view : View) (session : String) :
    invoke session (some view.callbackFunction) = [.request session view.call] := by
  cases view with
  | transcript => rfl
  | roster => rfl

theorem tracks_push {reached : String} {callbackFunction : Option String}
    (tracks : site.Tracks chat session view)
    (split : site.flight = before ++ .push reached callbackFunction :: after) :
    (deliver strings (site.without before after) (.push reached callbackFunction)).Tracks chat
      session view := by
  by_cases own : reached = session ∧ callbackFunction = some view.callbackFunction
  · obtain ⟨same, named⟩ := own
    subst same named
    have member : Packet.request reached view.call ∈
        invoke reached (some view.callbackFunction) := by
      rw [invoke_view]
      exact List.mem_singleton_self _
    exact tracks_of_sent rfl member ⟨rfl, rfl⟩
  · exact tracks_delivered tracks split rfl rfl own rfl
      (carries_invoke view session reached callbackFunction)

end Steps

section Runs

variable {strings : StringUtils} {site next : Site}

structure Sound (site : Site) : Prop where
  named : Named site.chat
  tracks : ∀ session ∈ site.context.scriptSessions, ∀ view, site.Tracks site.chat session view

theorem sound_start : Sound start := ⟨nofun, nofun⟩

theorem sound_deliver {before after : List Packet} {packet : Packet} (sound : Sound site)
    (split : site.flight = before ++ packet :: after)
    (careful : CarefulDelivery site before packet) :
    Sound (deliver strings (site.without before after) packet) := by
  cases packet with
  | request caller call =>
      constructor
      · cases call with
        | join user => exact named_join sound.named careful caller
        | groupMessage msg => exact sound.named
        | reset => exact nofun
        | getUsers => exact sound.named
        | getChatMessages => exact sound.named
      · intro session live view
        exact tracks_request live (sound.tracks session live view) split careful
  | reply caller reply =>
      refine ⟨sound.named, ?_⟩
      intro session live view
      exact tracks_reply (sound.tracks session live view) split careful
  | push reached callbackFunction =>
      refine ⟨sound.named, ?_⟩
      intro session live view
      exact tracks_push (sound.tracks session live view) split

/-- A button changes nothing that is shown, and what it sends carries no view. -/
theorem sound_sent {added : List Packet} (sound : Sound site) (chat : next.chat = site.chat)
    (context : next.context = site.context) (flight : next.flight = site.flight ++ added)
    (pages : ∀ session view, View.ofPage (next.pages session) view =
      View.ofPage (site.pages session) view)
    (silent : ∀ packet ∈ added, ∃ session call, packet = .request session call) :
    Sound next := by
  constructor
  · rw [chat]
    exact sound.named
  · intro session live view
    rw [context] at live
    rw [chat]
    refine tracks_sent (sound.tracks session live view) flight (pages session view) ?_
    intro packet member
    obtain ⟨caller, call, same⟩ := silent packet member
    rw [same, carries_request]

theorem sound_load {session : String} (sound : Sound site)
    (absent : session ∉ site.context.scriptSessions) :
    Sound
      { site with
        context := site.context.connect session
        pages := Function.update site.pages session Page.loaded
        flight := site.flight ++ (refreshRoster session ++ refreshChatTranscript session) } := by
  refine ⟨sound.named, ?_⟩
  intro other live view
  rcases List.mem_cons.mp live with same | old
  · subst same
    have member : Packet.request other view.call ∈
        refreshRoster other ++ refreshChatTranscript other := by
      cases view with
      | transcript => exact List.mem_append_right _ List.mem_cons_self
      | roster => exact List.mem_append_left _ List.mem_cons_self
    exact tracks_of_sent rfl member ⟨rfl, rfl⟩
  · refine tracks_sent (sound.tracks other old view) rfl ?_ ?_
    · have different : other ≠ session := fun same => absent (same ▸ old)
      change View.ofPage (Function.update site.pages session _ other) view = _
      rw [Function.update_of_ne different]
    · intro packet member
      rcases List.mem_append.mp member with names | lines
      · rw [List.mem_singleton.mp names, carries_request]
      · rw [List.mem_singleton.mp lines, carries_request]

theorem ofPage_withUser (pages : String → Page) (session uid other : String) (view : View) :
    View.ofPage (Function.update pages session { pages session with user := uid } other) view =
      View.ofPage (pages other) view := by
  by_cases same : other = session
  · subst same
    rw [Function.update_self]
    cases view with
    | transcript => rfl
    | roster => rfl
  · rw [Function.update_of_ne same]

theorem sound_step {move : Move} (sound : Sound site) (careful : Careful site move)
    (moved : step strings site move = some next) : Sound next := by
  have request : ∀ caller call, ∀ packet ∈ [Packet.request caller call],
      ∃ session call, packet = .request session call :=
    fun caller call packet member => ⟨caller, call, List.mem_singleton.mp member⟩
  cases move with
  | load session =>
      dsimp only [step] at moved
      split at moved
      · cases moved
      · rename_i absent
        cases moved
        exact sound_load sound absent
  | joinBtn session uid =>
      dsimp only [step] at moved
      split at moved
      · cases moved
        exact sound_sent sound rfl rfl rfl
          (fun other view => ofPage_withUser site.pages session uid other view) (request _ _)
      · cases moved
  | resetBtn session =>
      dsimp only [step] at moved
      split at moved
      · cases moved
        exact sound_sent sound rfl rfl rfl (fun _ _ => rfl) (request _ _)
      · cases moved
  | sayBtn session message =>
      dsimp only [step] at moved
      split at moved
      · cases moved
        exact sound_sent sound rfl rfl rfl (fun _ _ => rfl) (request _ _)
      · cases moved
  | deliver index =>
      obtain ⟨packet, found, same⟩ := Option.map_eq_some_iff.mp moved
      obtain ⟨less, here⟩ := List.getElem?_eq_some_iff.mp found
      have split : site.flight =
          site.flight.take index ++ packet :: site.flight.drop (index + 1) := by
        rw [← here, ← List.drop_eq_getElem_cons less, List.take_append_drop]
      rw [← same, List.eraseIdx_eq_take_drop_succ]
      exact sound_deliver sound split (careful packet found)

theorem converged_of_sound (sound : Sound site) (quiet : site.flight = []) : Converged site := by
  intro session live
  have displayed : ∀ view, View.ofPage (site.pages session) view = View.ofChat site.chat view := by
    intro view
    have tracks := sound.tracks session live view
    unfold Site.Tracks at tracks
    rw [quiet] at tracks
    exact Refreshing.displayed_of_quiet tracks
  have names : (site.pages session).handles = roster site.chat.getUsers := displayed .roster
  refine ⟨displayed .transcript, fun name => ?_⟩
  rw [names]
  exact mem_roster_iff sound.named name

/-- In a careful run every page shows what is on the server whenever nothing is in flight. -/
theorem converged_of_careful (moves : List Move)
    (careful : Along (step strings) Careful start moves) :
    Throughout (step strings) (fun site => site.flight = [] → Converged site) start moves := by
  apply throughout_of_along (step strings) Sound Careful _ _ sound_start careful
  · intro site move next sound met moved
    exact sound_step sound met moved
  · intro site sound quiet
    exact converged_of_sound sound quiet

instance (site : Site) (before : List Packet) : DecidablePred (CarefulDelivery site before) :=
  fun packet =>
    match packet with
    | .request _ (.join _) => inferInstanceAs (Decidable (_ ∉ _))
    | .request _ .reset =>
        inferInstanceAs (Decidable (∀ other ∈ _, other ≠ _ → _ ∧ _))
    | .request _ (.groupMessage _) => isTrue trivial
    | .request _ .getUsers => isTrue trivial
    | .request _ .getChatMessages => isTrue trivial
    | .reply _ (.users _) => inferInstanceAs (Decidable (∀ earlier ∈ before, _ = none))
    | .reply _ (.chatMessages _) => inferInstanceAs (Decidable (∀ earlier ∈ before, _ = none))
    | .reply _ .joined => isTrue trivial
    | .reply _ .said => isTrue trivial
    | .reply _ .resetDone => isTrue trivial
    | .push _ _ => isTrue trivial

instance (site : Site) : DecidablePred (Careful site) := fun move =>
  match move with
  | .deliver index =>
      match found : site.flight[index]? with
      | none => isTrue fun packet same => by
          rw [found] at same
          cases same
      | some packet =>
          decidable_of_iff (CarefulDelivery site (site.flight.take index) packet) (by
            unfold Careful
            simp [found])
  | .load _ => isTrue trivial
  | .joinBtn _ _ => isTrue trivial
  | .resetBtn _ => isTrue trivial
  | .sayBtn _ _ => isTrue trivial

/-- Two pages are loaded, and one of them joins and says something. -/
def aliceSpeaks : List Move :=
  [.load "alice-page", .load "bob-page"] ++ List.replicate 8 (.deliver 0) ++
    [.joinBtn "alice-page" "alice"] ++ List.replicate 8 (.deliver 0) ++
    [.sayBtn "alice-page" "hi"] ++ List.replicate 8 (.deliver 0)

theorem pages_converge :
    Throughout (step ChatServer.springStrings) (fun site => site.flight = [] → Converged site)
      start aliceSpeaks :=
  converged_of_careful aliceSpeaks (by decide +kernel)

/-- After a reset by another page a page goes on showing what was said before. -/
theorem stale_after_reset :
    ¬Throughout (step ChatServer.springStrings) (fun site => site.flight = [] → Converged site)
      start (aliceSpeaks ++ [.resetBtn "alice-page"] ++ List.replicate 6 (.deliver 0)) := by
  intro always
  obtain ⟨last, ran, quiet, shown, stored⟩ := exists_run_of_any
    (step ChatServer.springStrings) start
    (aliceSpeaks ++ [.resetBtn "alice-page"] ++ List.replicate 6 (.deliver 0))
    (fun last => last.flight = [] ∧ (last.pages "bob-page").transcript =
      "<div>alice: hi<br/></div>" ∧ last.chat.chatMessages = [] ∧
        "bob-page" ∈ last.context.scriptSessions) (by decide +kernel)
  have converged := throughout_last (step ChatServer.springStrings) always ran quiet
  obtain ⟨lines, _⟩ := converged "bob-page" stored.2
  rw [shown, stored.1] at lines
  exact absurd lines (by decide)

end Runs

end Pages

end SpringExamples
