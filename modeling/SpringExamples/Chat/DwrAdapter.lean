/-
The DWR push adapter: `AsyncHttpRequestHandlingMessageAdapter.handleMessage`.

A message on the adapter's channel becomes a call of a JavaScript function on a
collection of script sessions.  Two headers of the message choose the function and
the session.  DWR's own bookkeeping of script sessions is what its documentation says
of it: which sessions are live, all of them, and one of them by its id.
-/

import Mathlib.Data.List.Basic
import SpringExamples.Integration.Message

set_option autoImplicit false

namespace SpringExamples.Dwr

def dwrPrefix : String := "org.springframework.integration.dwr.DwrMessageHeaders"

def dwrScriptFunctionName : String := dwrPrefix ++ "CallbackFunctionName"

def dwrTargetSessionId : String := dwrPrefix ++ "TargetDwrSessionId"

/-- Spring's test for a text that is neither null nor blank. -/
structure StringUtils where
  hasText : Option String → Bool
  hasText_null : hasText none = false

structure ServerContext where
  scriptSessions : List String
  deriving DecidableEq

namespace ServerContext

def getAllScriptSessions (context : ServerContext) : List String := context.scriptSessions

def getScriptSessionById (context : ServerContext) (sessionId : Option String) : Option String :=
  sessionId.filter fun id => id ∈ context.scriptSessions

def connect (context : ServerContext) (session : String) : ServerContext :=
  { scriptSessions := session :: context.scriptSessions }

def invalidate (context : ServerContext) (session : String) : ServerContext :=
  { scriptSessions := context.scriptSessions.filter fun live => live ≠ session }

end ServerContext

inductive Param (Payload : Type) where
  | payload (payload : Payload)
  | message (message : Message Payload)

/-- What `Util.addFunctionCall` is asked to do; a session of the collection may be null. -/
structure FunctionCall (Payload : Type) where
  sessions : List (Option String)
  callbackFunction : Option String
  param : Param Payload

def FunctionCall.reached {Payload : Type} (call : FunctionCall Payload) : List String :=
  call.sessions.filterMap id

structure Adapter where
  extractPayload : Bool := true
  defaultCallbackFunctionName : String := "handleMessage"

/-- Nothing is pushed as long as DWR has no server context. -/
def Adapter.handleMessage {Payload : Type} (adapter : Adapter) (strings : StringUtils)
    (serverContext : Option ServerContext) (message : Message Payload) :
    Option (FunctionCall Payload) :=
  serverContext.map fun context =>
    let callbackFunction := message.headers dwrScriptFunctionName
    let targetSession := message.headers dwrTargetSessionId
    { sessions :=
        if strings.hasText targetSession then [context.getScriptSessionById targetSession]
        else context.getAllScriptSessions.map some
      callbackFunction :=
        if strings.hasText callbackFunction then callbackFunction
        else some adapter.defaultCallbackFunctionName
      param := if adapter.extractPayload then .payload message.payload else .message message }

section Targets

variable {Payload : Type} (adapter : Adapter) (strings : StringUtils) (context : ServerContext)
  (message : Message Payload)

/-- A message that names a session reaches that session or nobody. -/
theorem reached_of_target {sessionId : String}
    (named : message.headers dwrTargetSessionId = some sessionId)
    (text : strings.hasText (some sessionId) = true) (session : String) :
    (∃ call, adapter.handleMessage strings (some context) message = some call ∧
        session ∈ call.reached) ↔
      session = sessionId ∧ sessionId ∈ context.scriptSessions := by
  simp only [Adapter.handleMessage, named, text, Option.map_some, if_true, Option.some.injEq,
    exists_eq_left', FunctionCall.reached, ServerContext.getScriptSessionById]
  by_cases live : sessionId ∈ context.scriptSessions
  · simp [Option.filter, live]
  · simp [Option.filter, live]

/-- A message that names no session reaches every live session. -/
theorem reached_of_broadcast
    (unnamed : strings.hasText (message.headers dwrTargetSessionId) = false) (session : String) :
    (∃ call, adapter.handleMessage strings (some context) message = some call ∧
        session ∈ call.reached) ↔
      session ∈ context.scriptSessions := by
  simp only [Adapter.handleMessage, unnamed, Option.map_some, Option.some.injEq,
    exists_eq_left', FunctionCall.reached, ServerContext.getAllScriptSessions]
  simp

end Targets

end SpringExamples.Dwr
