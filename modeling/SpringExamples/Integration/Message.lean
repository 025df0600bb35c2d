/-
Spring Integration messages, as far as the channel adapters read and write them.

Headers are a partial map from names to texts; a header that is absent and a header
that is null are the same thing.
-/

import Mathlib.Logic.Function.Basic

set_option autoImplicit false

namespace SpringExamples

structure Message (Payload : Type) where
  payload : Payload
  headers : String → Option String

namespace Message

variable {Payload : Type}

def withPayload (payload : Payload) : Message Payload :=
  { payload := payload
    headers := fun _ => none }

/-- A null value leaves the header absent. -/
def setHeader (message : Message Payload) (name : String) (value : Option String) :
    Message Payload :=
  { message with headers := Function.update message.headers name value }

def copyHeaders (message : Message Payload) (headers : String → Option String) :
    Message Payload :=
  { message with headers := fun name => (headers name).or (message.headers name) }

def setHeaderIfAbsent (message : Message Payload) (name value : String) : Message Payload :=
  match message.headers name with
  | some _ => message
  | none => message.setHeader name (some value)

@[simp] theorem setHeader_headers_self (message : Message Payload) (name : String)
    (value : Option String) : (message.setHeader name value).headers name = value := by
  change Function.update message.headers name value name = value
  rw [Function.update_self]

end Message

end SpringExamples
