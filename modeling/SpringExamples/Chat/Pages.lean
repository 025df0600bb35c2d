/-
The chat room as its pages show it.

Pages and server exchange packets, which are delivered one at a time and in any order: a
request is answered, a change is pushed to every page, and a page that is told of a change
fetches the transcript or the roster anew.  A response replaces the whole view.
-/

import Mathlib.Data.Finset.Image
import SpringExamples.Chat.PrivateMessages

set_option autoImplicit false

namespace SpringExamples

open Runs Dwr

namespace Pages

inductive Call where
  | join (user : String)
  | groupMessage (msg : String)
  | reset
  | getUsers
  | getChatMessages
  deriving DecidableEq

inductive Reply where
  | joined
  | said
  | resetDone
  | users (usrs : Finset String)
  | chatMessages (lines : List String)
  deriving DecidableEq

inductive Packet where
  | request (session : String) (call : Call)
  | reply (session : String) (reply : Reply)
  /-- A function of the page is called from the server. -/
  | push (session : String) (callbackFunction : Option String)
  deriving DecidableEq

structure Page where
  user : String
  transcript : String
  handles : Finset String
  /-- Either the region for chatting is shown or the one for joining. -/
  chatRegion : Bool
  deriving DecidableEq

structure Site where
  chat : Chat
  context : ServerContext
  pages : String → Page
  flight : List Packet

/-- What `split(':')` puts first. -/
def beforeColon (text : String) : String := String.ofList (text.toList.takeWhile fun c => c ≠ ':')

def roster (usrs : Finset String) : Finset String := usrs.image beforeColon

def transcript (lines : List String) : String :=
  "<div>" ++ lines.foldl (fun t line => t ++ (line ++ "<br/>")) "" ++ "</div>"

def Page.loaded : Page :=
  { user := ""
    transcript := ""
    handles := ∅
    chatRegion := false }

def start : Site :=
  { chat := Chat.empty
    context := { scriptSessions := [] }
    pages := fun _ => Page.loaded
    flight := [] }

def refreshRoster (session : String) : List Packet := [.request session .getUsers]

def refreshChatTranscript (session : String) : List Packet := [.request session .getChatMessages]

variable (strings : StringUtils)

def pushed (context : ServerContext) (sent : ChatChannel × Message String) : List Packet :=
  match sent.1.adapter.handleMessage strings (some context) sent.2 with
  | some call => call.reached.map fun session => .push session call.callbackFunction
  | none => []

/-- What a call does to the chat room, and the packets it sends. -/
def serve (site : Site) (session : String) : Call → Chat × List Packet
  | .join user =>
      let joined := site.chat.join user session
      (joined.1, pushed strings site.context joined.2 ++ [.reply session .joined])
  | .groupMessage msg =>
      let said := site.chat.groupMessage msg
      (said.1, pushed strings site.context said.2 ++ [.reply session .said])
  | .reset => (site.chat.reset, [.reply session .resetDone])
  | .getUsers => (site.chat, [.reply session (.users site.chat.getUsers)])
  | .getChatMessages => (site.chat, [.reply session (.chatMessages site.chat.getChatMessages)])

/-- What a callback does to the page, and the requests it makes. -/
def callback (session : String) (page : Page) : Reply → Page × List Packet
  | .joined => ({ page with chatRegion := true }, [])
  | .said => (page, [])
  | .resetDone =>
      ({ page with chatRegion := false }, refreshChatTranscript session ++ refreshRoster session)
  | .users usrs => ({ page with handles := roster usrs }, [])
  | .chatMessages lines => ({ page with transcript := transcript lines }, [])

def invoke (session : String) (callbackFunction : Option String) : List Packet :=
  if callbackFunction = some "handleMessage" then refreshChatTranscript session
  else if callbackFunction = some "handleRoster" then refreshRoster session
  else []

def deliver (site : Site) : Packet → Site
  | .request session call =>
      let served := serve strings site session call
      { site with
        chat := served.1
        flight := site.flight ++ served.2 }
  | .reply session reply =>
      let called := callback session (site.pages session) reply
      { site with
        pages := Function.update site.pages session called.1
        flight := site.flight ++ called.2 }
  | .push session callbackFunction =>
      { site with flight := site.flight ++ invoke session callbackFunction }

inductive Move where
  | load (session : String)
  | joinBtn (session uid : String)
  | resetBtn (session : String)
  | sayBtn (session message : String)
  | deliver (index : Nat)
  deriving DecidableEq

def Site.Joining (site : Site) (session : String) : Prop :=
  session ∈ site.context.scriptSessions ∧ (site.pages session).chatRegion = false

def Site.Chatting (site : Site) (session : String) : Prop :=
  session ∈ site.context.scriptSessions ∧ (site.pages session).chatRegion = true

instance (site : Site) (session : String) : Decidable (site.Joining session) := by
  unfold Site.Joining
  infer_instance

instance (site : Site) (session : String) : Decidable (site.Chatting session) := by
  unfold Site.Chatting
  infer_instance

def step (site : Site) : Move → Option Site
  | .load session =>
      if session ∈ site.context.scriptSessions then none
      else
        some
          { site with
            context := site.context.connect session
            pages := Function.update site.pages session Page.loaded
            flight := site.flight ++ (refreshRoster session ++ refreshChatTranscript session) }
  | .joinBtn session uid =>
      if site.Joining session then
        some
          { site with
            pages := Function.update site.pages session
              { site.pages session with user := uid }
            flight := site.flight ++ [.request session (.join uid)] }
      else none
  | .resetBtn session =>
      if site.Chatting session then
        some { site with flight := site.flight ++ [.request session .reset] }
      else none
  | .sayBtn session message =>
      if site.Chatting session then
        let toSend := (site.pages session).user ++ ": " ++ message
        some { site with flight := site.flight ++ [.request session (.groupMessage toSend)] }
      else none
  | .deliver index =>
      site.flight[index]?.map fun packet =>
        deliver strings { site with flight := site.flight.eraseIdx index } packet

/-- Every page shows the transcript of the server and names its users. -/
def Converged (site : Site) : Prop :=
  ∀ session ∈ site.context.scriptSessions,
    (site.pages session).transcript = transcript site.chat.chatMessages ∧
      ∀ name, name ∈ (site.pages session).handles ↔ name ∈ site.chat.users

end Pages

end SpringExamples
