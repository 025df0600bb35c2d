/-
Direct messages, from the page they are said on to the page that shows them.

A page addresses one of the members it has listed, or nobody, and the reply to any message of
its own makes it address nobody again.  What the browser makes of the text put into a region is
a parameter, and it is only relied on for text that stands for itself.  The requests, the
pushes and the replies of direct messages travel beside the other packets, and are delivered in
any order too.  What was said, what became of it on the server and what a page was told to show
is recorded.
-/

import SpringExamples.Chat.Convergence

set_option autoImplicit false

namespace SpringExamples

open Runs Dwr

namespace Pages

inductive DirectPacket where
  | request (session user msg : String)
  | push (session : String) (callbackFunction : Option String) (param : Param String)
  | reply (session : String)

/-- What a page keeps for direct messages. -/
structure DirectPage where
  privateMessageUser : Option String
  /-- The names that a click may call `setupDirectMessage` for, at the most: a name that is the id
  of another element of the page leaves its handler there. -/
  clickable : Finset String
  /-- The text that was put into the region last. -/
  dm : String
  shown : List String
  deriving DecidableEq

structure DirectMessage where
  user : String
  msg : String
  deriving DecidableEq

/-- A direct message that was served: where its addressee was registered, which sessions were
live, and which of them it was pushed to. -/
structure ServedMessage where
  message : DirectMessage
  registered : Option String
  live : List String
  reached : List String

structure Room where
  site : Site
  direct : String → DirectPage
  flight : List DirectPacket
  said : List DirectMessage
  served : List ServedMessage

inductive RoomMove where
  | page (move : Move)
  /-- A click calls `setupDirectMessage`; where elements enclose each other, one click may do so
  for several names in turn. -/
  | member (session handle : String)
  | sayBtn (session message : String)
  | deliver (index : Nat)
  deriving DecidableEq

def DirectPage.loaded : DirectPage :=
  { privateMessageUser := none
    clickable := ∅
    dm := ""
    shown := [] }

def Room.start : Room :=
  { site := Pages.start
    direct := fun _ => DirectPage.loaded
    flight := []
    said := []
    served := [] }

def divs (lines : List String) : String :=
  lines.foldl (fun dm msg => dm ++ ("<div> " ++ msg ++ " </div>")) ""

/-- No character that HTML escapes or normalises, and no quoted attribute for jQuery to remove. -/
def Plain (text : String) : Prop :=
  ∀ c ∈ text.toList, c ∉ ['&', '<', '>', '"', Char.ofNat 160, Char.ofNat 13, Char.ofNat 0]

instance : DecidablePred Plain := fun text => List.decidableBAll _ text.toList

/-- What `html()` gives back after `html(text)`: elements with plain text come back as they were. -/
structure Markup where
  html : String → String
  plain : ∀ lines, (∀ line ∈ lines, Plain line) → html (divs lines) = divs lines

namespace DirectPage

def setupDirectMessage (page : DirectPage) (handle : Option String) : DirectPage :=
  { page with privateMessageUser := handle }

def undoDirectMessage (page : DirectPage) : DirectPage := page.setupDirectMessage none

def handleDirectMessage (markup : Markup) (page : DirectPage) (msg : String) : DirectPage :=
  { page with
    dm := markup.html page.dm ++ ("<div> " ++ msg ++ " </div>")
    shown := page.shown ++ [msg] }

end DirectPage

/-- The text that a push makes the page show; a message is not a text. -/
def shows (callbackFunction : Option String) : Param String → Option String
  | .payload msg => if callbackFunction = some "handleDirectMessage" then some msg else none
  | .message _ => none

namespace Room

def onPage (room : Room) (session : String) (change : DirectPage → DirectPage) : Room :=
  { room with direct := Function.update room.direct session (change (room.direct session)) }

/-- What the other scripts of the page do for direct messages. -/
def attended (room : Room) : Move → Room
  | .load session => room.onPage session fun _ => DirectPage.loaded
  | .deliver index =>
      match room.site.flight[index]? with
      | some (.reply session .said) => room.onPage session DirectPage.undoDirectMessage
      | some (.reply session (.users usrs)) =>
          room.onPage session fun page =>
            { page with
              clickable := page.clickable ∪
                (roster usrs).erase (room.site.pages session).user }
      | _ => room
  | _ => room

/-- A page has a session id with text, and says something to everybody only if it addresses
nobody. -/
def Allowed (strings : StringUtils) (room : Room) : Move → Prop
  | .load session => strings.hasText (some session) = true
  | .sayBtn session _ => (room.direct session).privateMessageUser = none
  | _ => True

instance (strings : StringUtils) (room : Room) : DecidablePred (room.Allowed strings) := fun move =>
  match move with
  | .load _ => inferInstanceAs (Decidable (_ = true))
  | .sayBtn _ _ => inferInstanceAs (Decidable (_ = none))
  | .joinBtn _ _ => isTrue trivial
  | .resetBtn _ => isTrue trivial
  | .deliver _ => isTrue trivial

variable (strings : StringUtils) (markup : Markup)

def directCall (site : Site) (user msg : String) : Option (FunctionCall String) :=
  let sent := site.chat.directMessage user msg
  sent.1.adapter.handleMessage strings (some site.context) sent.2

def pushes : Option (FunctionCall String) → List DirectPacket
  | some call => call.reached.map fun session => .push session call.callbackFunction call.param
  | none => []

def reachedBy : Option (FunctionCall String) → List String
  | some call => call.reached
  | none => []

def deliver (room : Room) : DirectPacket → Room
  | .request session user msg =>
      let call := directCall strings room.site user msg
      { room with
        flight := room.flight ++ (pushes call ++ [.reply session])
        served := room.served ++
          [{ message := { user := user, msg := msg }
             registered := room.site.chat.registered user
             live := room.site.context.scriptSessions
             reached := reachedBy call }] }
  | .push session callbackFunction param =>
      match shows callbackFunction param with
      | some msg => room.onPage session fun page => page.handleDirectMessage markup msg
      | none => room
  | .reply session => room.onPage session DirectPage.undoDirectMessage

def step (room : Room) : RoomMove → Option Room
  | .page move =>
      if room.Allowed strings move then
        (Pages.step strings room.site move).map fun site => { room.attended move with site := site }
      else none
  | .member session handle =>
      if session ∈ room.site.context.scriptSessions ∧ handle ∈ (room.direct session).clickable then
        some (room.onPage session fun page => page.setupDirectMessage (some handle))
      else none
  | .sayBtn session message =>
      if room.site.Chatting session then
        (room.direct session).privateMessageUser.map fun user =>
          let toSend := "from " ++ (room.site.pages session).user ++ ":" ++ message
          { room with
            flight := room.flight ++ [.request session user toSend]
            said := room.said ++ [{ user := user, msg := toSend }] }
      else none
  | .deliver index =>
      room.flight[index]?.map fun packet =>
        deliver strings markup { room with flight := room.flight.eraseIdx index } packet

end Room

section Sessions

def Packet.session : Packet → String
  | .request session _ => session
  | .reply session _ => session
  | .push session _ => session

/-- Packets come from open pages and go to open pages, and whoever is registered is registered
with an open page. -/
structure Connected (site : Site) : Prop where
  distinct : site.context.scriptSessions.Nodup
  packets : ∀ packet ∈ site.flight, packet.session ∈ site.context.scriptSessions
  registered : ∀ user session, site.chat.registered user = some session →
    session ∈ site.context.scriptSessions

theorem connected_start : Connected start := ⟨List.nodup_nil, nofun, nofun⟩

variable {strings : StringUtils} {site next : Site}

theorem session_of_pushed {context : ServerContext} {channel : ChatChannel} {payload : String}
    {packet : Packet}
    (sent : packet ∈ pushed strings context (channel, Message.withPayload payload)) :
    packet.session ∈ context.scriptSessions := by
  rw [pushed_broadcast] at sent
  obtain ⟨session, live, same⟩ := List.mem_map.mp sent
  exact same ▸ live

theorem connected_request {session : String} (call : Call) (connected : Connected site)
    (live : session ∈ site.context.scriptSessions) :
    Connected (Pages.deliver strings site (.request session call)) := by
  have notified : ∀ channel payload reply, ∀ packet ∈ site.flight ++
      (pushed strings site.context (channel, Message.withPayload payload) ++
        [.reply session reply]), packet.session ∈ site.context.scriptSessions := by
    intro channel payload reply packet member
    rcases List.mem_append.mp member with old | new
    · exact connected.packets packet old
    · rcases List.mem_append.mp new with sent | answer
      · exact session_of_pushed sent
      · rw [List.mem_singleton.mp answer]
        exact live
  have answered : ∀ reply, ∀ packet ∈ site.flight ++ [.reply session reply],
      packet.session ∈ site.context.scriptSessions := by
    intro reply packet member
    rcases List.mem_append.mp member with old | answer
    · exact connected.packets packet old
    · rw [List.mem_singleton.mp answer]
      exact live
  cases call with
  | join user =>
      refine ⟨connected.distinct, notified _ _ _, ?_⟩
      intro other found registered
      change (site.chat.join user session).1.registered other = some found at registered
      rw [Chat.registered_join] at registered
      by_cases same : other = user
      · subst same
        rw [Function.update_self] at registered
        cases registered
        exact live
      · rw [Function.update_of_ne same] at registered
        exact connected.registered other found registered
  | groupMessage msg => exact ⟨connected.distinct, notified _ _ _, connected.registered⟩
  | reset => exact ⟨connected.distinct, answered _, nofun⟩
  | getUsers => exact ⟨connected.distinct, answered _, connected.registered⟩
  | getChatMessages => exact ⟨connected.distinct, answered _, connected.registered⟩

/-- What an open page sends. -/
theorem connected_sent {session : String} {added : List Packet} (connected : Connected site)
    (live : session ∈ site.context.scriptSessions) (chat : next.chat = site.chat)
    (context : next.context = site.context) (flight : next.flight = site.flight ++ added)
    (own : ∀ packet ∈ added, packet.session = session) : Connected next := by
  refine ⟨context ▸ connected.distinct, ?_, ?_⟩
  · intro packet member
    rw [context]
    rw [flight] at member
    rcases List.mem_append.mp member with old | new
    · exact connected.packets packet old
    · exact own packet new ▸ live
  · rw [chat, context]
    exact connected.registered

theorem session_of_refreshed {session : String} {packet : Packet}
    (member : packet ∈ refreshChatTranscript session ++ refreshRoster session) :
    packet.session = session := by
  rcases mem_refreshed member with same | same
  · exact same ▸ rfl
  · exact same ▸ rfl

theorem session_of_callback {session : String} {page : Page} {reply : Reply} {packet : Packet}
    (member : packet ∈ (callback session page reply).2) : packet.session = session := by
  cases reply with
  | resetDone => exact session_of_refreshed member
  | _ => cases member

theorem session_of_invoke {session : String} {callbackFunction : Option String} {packet : Packet}
    (member : packet ∈ invoke session callbackFunction) : packet.session = session := by
  unfold invoke at member
  split at member
  · exact List.mem_singleton.mp member ▸ rfl
  · split at member
    · exact List.mem_singleton.mp member ▸ rfl
    · cases member

theorem connected_deliver {packet : Packet} (connected : Connected site)
    (live : packet.session ∈ site.context.scriptSessions) :
    Connected (Pages.deliver strings site packet) := by
  cases packet with
  | request session call => exact connected_request call connected live
  | reply session reply =>
      exact connected_sent connected live rfl rfl rfl fun _ => session_of_callback
  | push session callbackFunction =>
      exact connected_sent connected live rfl rfl rfl fun _ => session_of_invoke

theorem connected_step {move : Move} (connected : Connected site)
    (moved : Pages.step strings site move = some next) : Connected next := by
  cases move with
  | load session =>
      obtain ⟨fresh, same⟩ := Option.ite_none_left_eq_some.mp moved
      cases same
      refine ⟨List.nodup_cons.mpr ⟨fresh, connected.distinct⟩, ?_, ?_⟩
      · intro packet member
        rcases List.mem_append.mp member with old | new
        · exact List.mem_cons_of_mem session (connected.packets packet old)
        · rw [session_of_refreshed (List.mem_append.mpr (List.mem_append.mp new).symm)]
          exact List.mem_cons_self
      · intro user found registered
        exact List.mem_cons_of_mem session (connected.registered user found registered)
  | joinBtn session uid =>
      obtain ⟨joining, same⟩ := Option.ite_none_right_eq_some.mp moved
      cases same
      exact connected_sent connected joining.1 rfl rfl rfl
        fun _ member => List.mem_singleton.mp member ▸ rfl
  | resetBtn session =>
      obtain ⟨chatting, same⟩ := Option.ite_none_right_eq_some.mp moved
      cases same
      exact connected_sent connected chatting.1 rfl rfl rfl
        fun _ member => List.mem_singleton.mp member ▸ rfl
  | sayBtn session message =>
      obtain ⟨chatting, same⟩ := Option.ite_none_right_eq_some.mp moved
      cases same
      exact connected_sent connected chatting.1 rfl rfl rfl
        fun _ member => List.mem_singleton.mp member ▸ rfl
  | deliver index =>
      obtain ⟨packet, found, same⟩ := Option.map_eq_some_iff.mp moved
      rw [← same]
      apply connected_deliver
      · exact ⟨connected.distinct,
          fun other member => connected.packets other (List.mem_of_mem_eraseIdx member),
          connected.registered⟩
      · exact connected.packets packet (List.mem_of_getElem? found)

theorem context_step {move : Move} (moved : Pages.step strings site move = some next) :
    next.context = site.context ∨
      ∃ session, move = .load session ∧ next.context = site.context.connect session := by
  cases move with
  | load session =>
      obtain ⟨_, same⟩ := Option.ite_none_left_eq_some.mp moved
      cases same
      exact Or.inr ⟨session, rfl, rfl⟩
  | joinBtn session uid =>
      obtain ⟨_, same⟩ := Option.ite_none_right_eq_some.mp moved
      cases same
      exact Or.inl rfl
  | resetBtn session =>
      obtain ⟨_, same⟩ := Option.ite_none_right_eq_some.mp moved
      cases same
      exact Or.inl rfl
  | sayBtn session message =>
      obtain ⟨_, same⟩ := Option.ite_none_right_eq_some.mp moved
      cases same
      exact Or.inl rfl
  | deliver index =>
      obtain ⟨packet, _, same⟩ := Option.map_eq_some_iff.mp moved
      rw [← same]
      cases packet with
      | _ => exact Or.inl rfl

theorem scriptSessions_subset_step {move : Move}
    (moved : Pages.step strings site move = some next) :
    site.context.scriptSessions ⊆ next.context.scriptSessions := by
  rcases context_step moved with same | ⟨session, _, same⟩
  · rw [same]
    exact List.Subset.refl _
  · rw [same]
    exact List.subset_cons_self session _

end Sessions

section Deliveries

variable {strings : StringUtils} {site : Site}

/-- The message names the session that its addressee is registered with, or none. -/
theorem directCall_eq (strings : StringUtils) (site : Site) (user msg : String) :
    Room.directCall strings site user msg =
      some
        { sessions :=
            if strings.hasText (site.chat.registered user) then
              [site.context.getScriptSessionById (site.chat.registered user)]
            else site.context.getAllScriptSessions.map some
          callbackFunction := some "handleDirectMessage"
          param := .payload msg } := by
  have target := Chat.directMessage_target site.chat user msg
  have different : dwrScriptFunctionName ≠ dwrTargetSessionId := by decide
  have unnamed : (site.chat.directMessage user msg).2.headers dwrScriptFunctionName = none :=
    Function.update_of_ne different (site.chat.users.lookup user)
      (Message.withPayload msg).headers
  unfold Room.directCall Dwr.Adapter.handleMessage
  dsimp only
  rw [Option.map_some, target, unnamed, strings.hasText_null]
  rfl

def ServedMessage.addressees (served : ServedMessage) : List String :=
  match served.registered with
  | some session => [session]
  | none => served.live

/-- A direct message reaches the page of its addressee, or every page if there is no addressee. -/
theorem reachedBy_directCall (connected : Connected site)
    (text : ∀ session ∈ site.context.scriptSessions, strings.hasText (some session) = true)
    (user msg : String) :
    Room.reachedBy (Room.directCall strings site user msg) =
      match site.chat.registered user with
      | some session => [session]
      | none => site.context.scriptSessions := by
  rw [directCall_eq]
  unfold Room.reachedBy FunctionCall.reached
  dsimp only
  cases registered : site.chat.registered user with
  | none =>
      rw [strings.hasText_null]
      simp [ServerContext.getAllScriptSessions]
  | some session =>
      have live := connected.registered user session registered
      rw [text session live, if_pos rfl]
      simp [ServerContext.getScriptSessionById, Option.filter, live]

def DirectPacket.requested : DirectPacket → Option DirectMessage
  | .request _ user msg => some { user := user, msg := msg }
  | _ => none

def DirectPacket.showsOn (session : String) : DirectPacket → Option String
  | .push reached callbackFunction param =>
      if reached = session then shows callbackFunction param else none
  | _ => none

theorem requested_pushes (call : Option (FunctionCall String)) :
    (Room.pushes call).filterMap DirectPacket.requested = [] := by
  cases call with
  | none => rfl
  | some call =>
      apply List.filterMap_eq_nil_iff.mpr
      intro packet member
      obtain ⟨session, _, same⟩ := List.mem_map.mp member
      exact same ▸ rfl

theorem showsOn_map_push {reached : List String} (once : reached.Nodup) (msg session : String) :
    (reached.map fun other => DirectPacket.push other (some "handleDirectMessage")
        (.payload msg)).filterMap (DirectPacket.showsOn session) =
      if session ∈ reached then [msg] else [] := by
  induction reached with
  | nil => rfl
  | cons first rest ih =>
      obtain ⟨other, later⟩ := List.nodup_cons.mp once
      rw [List.map_cons, List.filterMap_cons, ih later]
      by_cases same : first = session
      · subst same
        simp [DirectPacket.showsOn, shows, other]
      · simp [DirectPacket.showsOn, same, Ne.symm same]

/-- Whoever is reached is shown the message once. -/
theorem showsOn_pushes {user msg : String}
    (once : (Room.reachedBy (Room.directCall strings site user msg)).Nodup) (session : String) :
    (Room.pushes (Room.directCall strings site user msg)).filterMap
        (DirectPacket.showsOn session) =
      if session ∈ Room.reachedBy (Room.directCall strings site user msg) then [msg] else [] := by
  rw [directCall_eq] at once ⊢
  exact showsOn_map_push once msg session

theorem nodup_reachedBy (connected : Connected site)
    (text : ∀ session ∈ site.context.scriptSessions, strings.hasText (some session) = true)
    (user msg : String) : (Room.reachedBy (Room.directCall strings site user msg)).Nodup := by
  rw [reachedBy_directCall connected text]
  cases site.chat.registered user with
  | none => exact connected.distinct
  | some session => exact List.nodup_singleton session

theorem reached_open (connected : Connected site)
    (text : ∀ session ∈ site.context.scriptSessions, strings.hasText (some session) = true)
    (user msg : String) :
    Room.reachedBy (Room.directCall strings site user msg) ⊆ site.context.scriptSessions := by
  rw [reachedBy_directCall connected text]
  cases registered : site.chat.registered user with
  | none => exact List.Subset.refl _
  | some session =>
      exact List.cons_subset.mpr ⟨connected.registered user session registered,
        List.nil_subset _⟩

/-- What leaves the flight with a packet. -/
theorem flight_perm {Item : Type} {flight : List DirectPacket} {index : Nat}
    {packet : DirectPacket} (found : flight[index]? = some packet)
    (look : DirectPacket → Option Item) :
    (flight.filterMap look).Perm
      ((look packet).toList ++ (flight.eraseIdx index).filterMap look) := by
  obtain ⟨less, same⟩ := List.getElem?_eq_some_iff.mp found
  have split : (packet :: flight.eraseIdx index).Perm flight :=
    same ▸ List.getElem_cons_eraseIdx_perm less
  refine (split.filterMap look).symm.trans ?_
  cases looked : look packet with
  | none => rw [List.filterMap_cons_none looked]; rfl
  | some item => rw [List.filterMap_cons_some looked]; rfl

end Deliveries

section Accounts

/-- Where every direct message is. -/
structure Accounted (strings : StringUtils) (room : Room) : Prop where
  connected : Connected room.site
  text : ∀ session ∈ room.site.context.scriptSessions, strings.hasText (some session) = true
  said : (room.served.map ServedMessage.message ++
    room.flight.filterMap DirectPacket.requested).Perm room.said
  shown : ∀ session, ((room.direct session).shown ++
    room.flight.filterMap (DirectPacket.showsOn session)).Perm
      ((room.served.filter fun served => session ∈ served.reached).map
        fun served => served.message.msg)
  rendered : ∀ session, (∀ msg ∈ (room.direct session).shown, Plain msg) →
    (room.direct session).dm = divs (room.direct session).shown
  addressed : ∀ served ∈ room.served, served.reached = served.addressees
  live : ∀ served ∈ room.served, served.reached ⊆ room.site.context.scriptSessions

theorem accounted_start (strings : StringUtils) : Accounted strings Room.start where
  connected := connected_start
  text := nofun
  said := .nil
  shown := fun _ => .nil
  rendered := fun _ _ => rfl
  addressed := nofun
  live := nofun

variable {strings : StringUtils} {markup : Markup} {room next : Room}

/-- Nothing is shown on a page that is not open, and nothing is on its way to it. -/
theorem nothing_shown (accounted : Accounted strings room) {session : String}
    (closed : session ∉ room.site.context.scriptSessions) :
    (room.direct session).shown = [] ∧
      room.flight.filterMap (DirectPacket.showsOn session) = [] := by
  have none : (room.served.filter fun served => session ∈ served.reached) = [] := by
    apply List.filter_eq_nil_iff.mpr
    intro served member reached
    exact closed (accounted.live served member (of_decide_eq_true reached))
  have empty := accounted.shown session
  rw [none] at empty
  exact List.append_eq_nil_iff.mp empty.eq_nil

/-- A page is as it was, or has just been loaded. -/
def Room.Kept (room next : Room) (session : String) : Prop :=
  ((next.direct session).shown = (room.direct session).shown ∧
      (next.direct session).dm = (room.direct session).dm) ∨
    (next.direct session = DirectPage.loaded ∧ session ∉ room.site.context.scriptSessions)

theorem accounted_kept (accounted : Accounted strings room) (connected : Connected next.site)
    (text : ∀ session ∈ next.site.context.scriptSessions, strings.hasText (some session) = true)
    (stays : room.site.context.scriptSessions ⊆ next.site.context.scriptSessions)
    (flight : next.flight = room.flight) (said : next.said = room.said)
    (served : next.served = room.served) (kept : ∀ session, room.Kept next session) :
    Accounted strings next := by
  refine ⟨connected, text, ?_, ?_, ?_, ?_, ?_⟩
  · rw [flight, said, served]
    exact accounted.said
  · intro session
    rw [flight, served]
    have before := accounted.shown session
    rcases kept session with ⟨shown, _⟩ | ⟨loaded, closed⟩
    · rw [shown]
      exact before
    · rw [(nothing_shown accounted closed).1] at before
      rw [loaded]
      exact before
  · intro session
    rcases kept session with ⟨shown, dm⟩ | ⟨loaded, _⟩
    · rw [shown, dm]
      exact accounted.rendered session
    · rw [loaded]
      exact fun _ => rfl
  · rw [served]
    exact accounted.addressed
  · rw [served]
    exact fun one member => List.Subset.trans (accounted.live one member) stays

theorem kept_onPage {session : String} {change : DirectPage → DirectPage}
    (same : (change (room.direct session)).shown = (room.direct session).shown ∧
      (change (room.direct session)).dm = (room.direct session).dm) (other : String) :
    room.Kept (room.onPage session change) other := by
  refine Or.inl ?_
  change (Function.update room.direct session _ other).shown = _ ∧
    (Function.update room.direct session _ other).dm = _
  by_cases own : other = session
  · subst own
    rw [Function.update_self]
    exact same
  · rw [Function.update_of_ne own]
    exact ⟨rfl, rfl⟩

theorem attended_keeps (room : Room) (move : Move) :
    (room.attended move).flight = room.flight ∧ (room.attended move).said = room.said ∧
      (room.attended move).served = room.served := by
  cases move with
  | deliver index =>
      unfold Room.attended
      dsimp only
      split
      · exact ⟨rfl, rfl, rfl⟩
      · exact ⟨rfl, rfl, rfl⟩
      · exact ⟨rfl, rfl, rfl⟩
  | _ => exact ⟨rfl, rfl, rfl⟩

theorem kept_attended {move : Move} {site : Site}
    (moved : Pages.step strings room.site move = some site) (session : String) :
    room.Kept (room.attended move) session := by
  cases move with
  | load loaded =>
      obtain ⟨closed, _⟩ := Option.ite_none_left_eq_some.mp moved
      by_cases own : session = loaded
      · subst own
        exact Or.inr ⟨Function.update_self session _ room.direct, closed⟩
      · refine Or.inl ?_
        change (Function.update room.direct loaded _ session).shown = _ ∧
          (Function.update room.direct loaded _ session).dm = _
        rw [Function.update_of_ne own]
        exact ⟨rfl, rfl⟩
  | deliver index =>
      unfold Room.attended
      dsimp only
      split
      · exact kept_onPage ⟨rfl, rfl⟩ session
      · exact kept_onPage ⟨rfl, rfl⟩ session
      · exact Or.inl ⟨rfl, rfl⟩
  | _ => exact Or.inl ⟨rfl, rfl⟩

theorem text_step {move : Move} {site : Site} (accounted : Accounted strings room)
    (allowed : room.Allowed strings move)
    (moved : Pages.step strings room.site move = some site) :
    ∀ session ∈ site.context.scriptSessions, strings.hasText (some session) = true := by
  rcases context_step moved with same | ⟨loaded, named, same⟩
  · rw [same]
    exact accounted.text
  · subst named
    rw [same]
    intro session live
    rcases List.mem_cons.mp live with new | old
    · exact new ▸ allowed
    · exact accounted.text session old

section Delivering

variable {index : Nat} {packet : DirectPacket}

/-- A packet is delivered that neither asks for a direct message nor shows one. -/
theorem accounted_dropped (accounted : Accounted strings room)
    (found : room.flight[index]? = some packet) (requested : packet.requested = none)
    (silent : ∀ session, packet.showsOn session = none) :
    Accounted strings { room with flight := room.flight.eraseIdx index } := by
  refine ⟨accounted.connected, accounted.text, ?_, fun session => ?_, accounted.rendered,
    accounted.addressed, accounted.live⟩
  · have rest := flight_perm found DirectPacket.requested
    rw [requested] at rest
    exact (rest.symm.append_left _).trans accounted.said
  · have rest := flight_perm found (DirectPacket.showsOn session)
    rw [silent session] at rest
    exact (rest.symm.append_left _).trans (accounted.shown session)

theorem accounted_request {session user msg : String} (accounted : Accounted strings room)
    (found : room.flight[index]? = some (.request session user msg)) :
    Accounted strings (Room.deliver strings markup
      { room with flight := room.flight.eraseIdx index } (.request session user msg)) := by
  have reached := reachedBy_directCall accounted.connected accounted.text user msg
  have once := nodup_reachedBy accounted.connected accounted.text user msg
  refine ⟨accounted.connected, accounted.text, ?_, fun other => ?_, accounted.rendered, ?_, ?_⟩
  · have rest := flight_perm found DirectPacket.requested
    refine List.Perm.trans (.of_eq ?_) ((rest.symm.append_left _).trans accounted.said)
    dsimp only [Room.deliver]
    rw [List.filterMap_append, List.filterMap_append, requested_pushes, List.map_append,
      List.append_assoc]
    simp [DirectPacket.requested]
  · have rest := flight_perm found (DirectPacket.showsOn other)
    have before := (rest.symm.append_left _).trans (accounted.shown other)
    dsimp only [Room.deliver]
    rw [List.filterMap_append, List.filterMap_append, showsOn_pushes once, List.filter_append,
      List.map_append]
    refine List.Perm.trans (.of_eq ?_) (before.append_right _)
    by_cases told : other ∈ Room.reachedBy (Room.directCall strings room.site user msg)
    · simp [DirectPacket.showsOn, told]
    · simp [DirectPacket.showsOn, told]
  · intro served member
    rcases List.mem_append.mp member with old | new
    · exact accounted.addressed served old
    · rw [List.mem_singleton.mp new]
      exact reached
  · intro served member
    rcases List.mem_append.mp member with old | new
    · exact accounted.live served old
    · rw [List.mem_singleton.mp new]
      exact reached_open accounted.connected accounted.text user msg

theorem accounted_shown {session : String} {callbackFunction : Option String}
    {param : Param String} {msg : String} (accounted : Accounted strings room)
    (found : room.flight[index]? = some (.push session callbackFunction param))
    (shows : shows callbackFunction param = some msg) :
    Accounted strings (Room.onPage { room with flight := room.flight.eraseIdx index } session
      fun page => page.handleDirectMessage markup msg) := by
  refine ⟨accounted.connected, accounted.text, ?_, fun other => ?_, fun other => ?_,
    accounted.addressed, accounted.live⟩
  · have rest := flight_perm found DirectPacket.requested
    exact (rest.symm.append_left _).trans accounted.said
  · have rest := flight_perm found (DirectPacket.showsOn other)
    have before := (rest.symm.append_left _).trans (accounted.shown other)
    refine List.Perm.trans (.of_eq ?_) before
    change (Function.update room.direct session _ other).shown ++
      (room.flight.eraseIdx index).filterMap (DirectPacket.showsOn other) = _
    by_cases own : session = other
    · subst own
      rw [Function.update_self]
      simp [DirectPacket.showsOn, shows, DirectPage.handleDirectMessage]
    · rw [Function.update_of_ne (Ne.symm own)]
      simp [DirectPacket.showsOn, own]
  · change (∀ shown ∈ (Function.update room.direct session _ other).shown, Plain shown) →
      (Function.update room.direct session _ other).dm =
        divs (Function.update room.direct session _ other).shown
    by_cases own : other = session
    · subst own
      rw [Function.update_self]
      intro plain
      have before : ∀ shown ∈ (room.direct other).shown, Plain shown :=
        fun shown member => plain shown (List.mem_append_left [msg] member)
      change markup.html (room.direct other).dm ++ _ = divs ((room.direct other).shown ++ [msg])
      rw [accounted.rendered other before, markup.plain _ before, divs, divs, List.foldl_append]
      rfl
    · rw [Function.update_of_ne own]
      exact accounted.rendered other

theorem accounted_deliver (accounted : Accounted strings room)
    (found : room.flight[index]? = some packet) :
    Accounted strings (Room.deliver strings markup
      { room with flight := room.flight.eraseIdx index } packet) := by
  cases packet with
  | request session user msg => exact accounted_request accounted found
  | push session callbackFunction param =>
      dsimp only [Room.deliver]
      split
      · rename_i msg shows
        exact accounted_shown accounted found shows
      · rename_i silent
        refine accounted_dropped accounted found rfl fun other => ?_
        change (if session = other then shows callbackFunction param else none) = none
        rw [silent, ite_self]
  | reply session =>
      have dropped := accounted_dropped accounted found rfl fun _ => rfl
      exact accounted_kept dropped dropped.connected dropped.text (List.Subset.refl _) rfl rfl rfl
        (kept_onPage ⟨rfl, rfl⟩)

end Delivering

theorem accounted_step {move : RoomMove} (accounted : Accounted strings room)
    (moved : room.step strings markup move = some next) : Accounted strings next := by
  cases move with
  | page move =>
      obtain ⟨allowed, mapped⟩ := Option.ite_none_right_eq_some.mp moved
      obtain ⟨site, stepped, same⟩ := Option.map_eq_some_iff.mp mapped
      subst same
      obtain ⟨flight, said, served⟩ := attended_keeps room move
      exact accounted_kept accounted (connected_step accounted.connected stepped)
        (text_step accounted allowed stepped) (scriptSessions_subset_step stepped) flight said
        served (kept_attended stepped)
  | member session handle =>
      obtain ⟨_, same⟩ := Option.ite_none_right_eq_some.mp moved
      cases same
      exact accounted_kept accounted accounted.connected accounted.text (List.Subset.refl _) rfl
        rfl rfl (kept_onPage ⟨rfl, rfl⟩)
  | sayBtn session message =>
      obtain ⟨_, mapped⟩ := Option.ite_none_right_eq_some.mp moved
      obtain ⟨user, _, same⟩ := Option.map_eq_some_iff.mp mapped
      subst same
      refine ⟨accounted.connected, accounted.text, ?_, fun other => ?_, accounted.rendered,
        accounted.addressed, accounted.live⟩
      · dsimp only
        rw [List.filterMap_append, ← List.append_assoc]
        exact accounted.said.append_right _
      · dsimp only
        have quiet : [DirectPacket.request session user
            ("from " ++ (room.site.pages session).user ++ ":" ++ message)].filterMap
              (DirectPacket.showsOn other) = [] := rfl
        rw [List.filterMap_append, quiet, List.append_nil]
        exact accounted.shown other
  | deliver index =>
      obtain ⟨packet, found, same⟩ := Option.map_eq_some_iff.mp moved
      subst same
      exact accounted_deliver accounted found

end Accounts

section Runs

variable {strings : StringUtils} {markup : Markup} {room next : Room}

def RoomMove.ofPage : RoomMove → List Move
  | .page move => [move]
  | _ => []

/-- For the transcript and the roster direct messages do not exist. -/
theorem site_step {move : RoomMove} (moved : room.step strings markup move = some next) :
    run (Pages.step strings) room.site move.ofPage = some next.site := by
  cases move with
  | page move =>
      obtain ⟨_, mapped⟩ := Option.ite_none_right_eq_some.mp moved
      obtain ⟨site, stepped, same⟩ := Option.map_eq_some_iff.mp mapped
      subst same
      rw [RoomMove.ofPage, run_cons, stepped]
      rfl
  | member session handle =>
      obtain ⟨_, same⟩ := Option.ite_none_right_eq_some.mp moved
      cases same
      rfl
  | sayBtn session message =>
      obtain ⟨_, mapped⟩ := Option.ite_none_right_eq_some.mp moved
      obtain ⟨user, _, same⟩ := Option.map_eq_some_iff.mp mapped
      subst same
      rfl
  | deliver index =>
      obtain ⟨packet, _, same⟩ := Option.map_eq_some_iff.mp moved
      subst same
      cases packet with
      | request session user msg => rfl
      | reply session => rfl
      | push session callbackFunction param =>
          dsimp only [Room.deliver]
          split
          · rfl
          · rfl

theorem site_run {moves : List RoomMove}
    (ran : run (Room.step strings markup) room moves = some next) :
    run (Pages.step strings) room.site (moves.flatMap RoomMove.ofPage) = some next.site := by
  induction moves generalizing room with
  | nil =>
      cases ran
      rfl
  | cons move rest ih =>
      obtain ⟨middle, moved, later⟩ := run_cons_some (Room.step strings markup) ran
      rw [List.flatMap_cons, run_append, site_step moved, Option.bind_some]
      exact ih later

/-- In whatever order the packets are delivered: a page shows the messages that were pushed to it,
each once, and its region for direct messages lists them if they are plain; each message is pushed
to the page of its addressee alone, or to every page if its addressee is not registered when it is
served; and each message that was said is served once.  The transcript and the roster are not
concerned. -/
theorem direct_messages_shown_once (moves : List RoomMove) (last : Room)
    (ran : run (Room.step strings markup) Room.start moves = some last) :
    (∀ session,
      ((∀ msg ∈ (last.direct session).shown, Plain msg) →
          (last.direct session).dm = divs (last.direct session).shown) ∧
        ((last.direct session).shown ++
            last.flight.filterMap (DirectPacket.showsOn session)).Perm
          ((last.served.filter fun served => session ∈ served.reached).map
            fun served => served.message.msg)) ∧
      (∀ served ∈ last.served, served.reached = served.addressees) ∧
      (last.served.map ServedMessage.message ++
        last.flight.filterMap DirectPacket.requested).Perm last.said ∧
      run (Pages.step strings) start (moves.flatMap RoomMove.ofPage) = some last.site := by
  have accounted := run_invariant (Room.step strings markup) (Accounted strings)
    (fun room move next accounted moved => accounted_step accounted moved)
    (accounted_start strings) ran
  exact ⟨fun session => ⟨accounted.rendered session, accounted.shown session⟩,
    accounted.addressed, accounted.said, site_run ran⟩

/-- A browser that is only given plain text. -/
def plainMarkup : Markup :=
  { html := fun text => text
    plain := fun _ _ => rfl }

def aliceAndBobJoin : List Move :=
  [.load "alice-page", .load "bob-page"] ++ List.replicate 8 (.deliver 0) ++
    [.joinBtn "alice-page" "alice"] ++ List.replicate 8 (.deliver 0) ++
    [.joinBtn "bob-page" "bob"] ++ List.replicate 8 (.deliver 0)

/-- Alice picks Bob from her roster, and what she says is shown to Bob alone. -/
theorem whisper_shown_to_bob :
    ∃ last, run (Room.step ChatServer.springStrings plainMarkup) Room.start
        (aliceAndBobJoin.map .page ++
          [.member "alice-page" "bob", .sayBtn "alice-page" "psst"] ++
          List.replicate 3 (.deliver 0)) = some last ∧
      (last.direct "bob-page").dm = divs ["from alice:psst"] ∧
        (last.direct "alice-page").dm = divs [] := by
  obtain ⟨last, ran, bob, alice⟩ := exists_run_of_any
    (Room.step ChatServer.springStrings plainMarkup) Room.start
    (aliceAndBobJoin.map .page ++ [.member "alice-page" "bob", .sayBtn "alice-page" "psst"] ++
      List.replicate 3 (.deliver 0))
    (fun last => (last.direct "bob-page").shown = ["from alice:psst"] ∧
      (last.direct "alice-page").shown = []) (by decide +kernel)
  have shows := (direct_messages_shown_once _ last ran).1
  refine ⟨last, ran, ?_, ?_⟩
  · have plain : ∀ msg ∈ (last.direct "bob-page").shown, Plain msg := by
      rw [bob]
      decide
    rw [(shows "bob-page").1 plain, bob]
  · have plain : ∀ msg ∈ (last.direct "alice-page").shown, Plain msg := by
      rw [alice]
      exact nofun
    rw [(shows "alice-page").1 plain, alice]

end Runs

end Pages

end SpringExamples
