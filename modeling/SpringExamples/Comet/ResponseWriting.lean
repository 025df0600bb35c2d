/-
How one broadcast is written to one suspended resource.

`HttpMessageBroadcaster.broadcast` lets a converter write into a buffer that wraps the
response, and copies the buffer to the response when the converter has returned.  Any call on
the response may throw whatever it likes, a write after some of its bytes, and a converter may
write, reset and throw as it likes.  What was done to the real response is recorded.
-/

import SpringExamples.Foundation.Effects
import SpringExamples.Comet.ContentNegotiation

set_option autoImplicit false

namespace SpringExamples.Comet

inductive ResponseCall where
  | getOutputStream
  | addHeader (name value : String)
  | reset
  | write (bytes : List UInt8)
  | flush
  /-- `AtmosphereResource.resume`, which completes the response. -/
  | resume
  deriving DecidableEq, Repr

inductive Thrown where
  | ioException
  | illegalState
  | indexOutOfBounds
  | conversion
  | messagingException (description : String)
  deriving DecidableEq, Repr

/-- How a call on the response throws, and how much of it was done before: of a write so many
bytes. -/
structure Fault where
  thrown : Thrown
  done : Nat
  deriving DecidableEq, Repr

def ResponseCall.partly (made : ResponseCall) (fault : Fault) : List ResponseCall :=
  match made with
  | .write bytes => [.write (bytes.take fault.done)]
  | _ => if fault.done = 0 then [] else [made]

/-- The calls that send something to the client or complete the response. -/
def ResponseCall.sends : ResponseCall → Bool
  | .write _ => true
  | .resume => true
  | .getOutputStream => false
  | .addHeader _ _ => false
  | .reset => false
  | .flush => false

/-- What was done to the response, oldest first. -/
abbrev Response := Prog.Faulty (List ResponseCall)

/-- What a converter does to the response it is given. -/
inductive WrapperCall where
  | write (b : UInt8)
  | writeSlice (b : List UInt8) (off len : Nat)
  | addHeader (name value : String)
  | resetBuffer
  | reset
  deriving DecidableEq, Repr

structure Conversion where
  calls : List WrapperCall
  throws : Bool
  deriving DecidableEq, Repr

/-- What the buffer holds after the calls, if none of them throws. -/
def contentAfter (content : List UInt8) : List WrapperCall → Option (List UInt8)
  | [] => some content
  | .write b :: rest => contentAfter (content ++ [b]) rest
  | .writeSlice b off len :: rest =>
      if off + len ≤ b.length then contentAfter (content ++ (b.drop off).take len) rest else none
  | .addHeader _ _ :: rest => contentAfter content rest
  | .resetBuffer :: rest => contentAfter [] rest
  | .reset :: rest => contentAfter [] rest

/-- The whole body that the conversion makes, if it makes one. -/
def Conversion.body (conversion : Conversion) : Option (List UInt8) :=
  if conversion.throws then none else contentAfter [] conversion.calls

/-- One broadcast to the resource: what its request accepts, the class of the merged payload,
what each converter would do, and the attribute `RESUME_ON_BROADCAST` of the request. -/
structure Round (MediaType : Type) where
  accept : List MediaType
  payloadClass : String
  convert : HttpMessageConverter MediaType → MediaType → Conversion
  resumeOnBroadcast : Option Bool

namespace Round

variable {MediaType : Type} (types : MediaTypes MediaType)
  (messageConverters : List (HttpMessageConverter MediaType)) (round : Round MediaType)

def writing (write : Except Unit Unit) : Written MediaType :=
  writeMessage types messageConverters round.accept round.payloadClass write

/-- The whole body that the round writes, if its converter is found and makes one. -/
def body : Option (List UInt8) :=
  (round.writing types messageConverters (.ok ())).through.bind fun found =>
    (round.convert found.1 found.2).body

/-- What a round may send, by how it ended: a round that returns sent its whole body and then
resumed the resource if its request asked for that, and one that throws sent nothing, a beginning
of its whole body, or all of it before the resumption broke. -/
def Sends (ended : Except Thrown Unit) (sent : List ResponseCall) : Prop :=
  match ended with
  | .ok () => ∃ content, round.body types messageConverters = some content ∧
      sent = .write content :: if round.resumeOnBroadcast = some true then [.resume] else []
  | .error _ => sent = [] ∨
      ∃ content, round.body types messageConverters = some content ∧
        ((∃ part, part <+: content ∧ sent = [.write part]) ∨
          round.resumeOnBroadcast = some true ∧ sent = [.write content, .resume])

end Round

namespace HttpMessageBroadcaster

section Programs

variable (fails : Nat → Option Fault)

def call (made : ResponseCall) : Prog Thrown Response Unit :=
  Prog.interrupted fails
    (fun fault => do
      Prog.modify fun calls => calls ++ made.partly fault
      Prog.throw fault.thrown)
    (Prog.modify fun calls => calls ++ [made])

/-- The wrapper's own buffer stands beside the response it wraps. -/
def perform : WrapperCall → Prog Thrown (Response × List UInt8) Unit
  | .write b => Prog.modify fun state => (state.1, state.2 ++ [b])
  | .writeSlice b off len =>
      if off + len ≤ b.length then
        Prog.modify fun state => (state.1, state.2 ++ (b.drop off).take len)
      else Prog.throw .indexOutOfBounds
  | .addHeader name value => Prog.callee (call fails (.addHeader name value))
  | .resetBuffer => Prog.modify fun state => (state.1, [])
  | .reset => do
      Prog.callee (call fails .reset)
      Prog.modify fun state => (state.1, [])

def performAll (throws : Bool) : List WrapperCall → Prog Thrown (Response × List UInt8) Unit
  | [] => if throws then Prog.throw .conversion else pure ()
  | first :: rest => do
      perform fails first
      performAll throws rest

def throwAs (outcome : Except String Unit) :
    Prog Thrown (Response × List UInt8) Unit :=
  match outcome with
  | .ok () => pure ()
  | .error description => Prog.throw (.messagingException description)

variable {MediaType : Type} (types : MediaTypes MediaType)
  (messageConverters : List (HttpMessageConverter MediaType)) (round : Round MediaType)

/-- The converter that `writeMessage` finds runs on the wrapper; its exceptions are replaced. -/
def convertInto : Prog Thrown (Response × List UInt8) Unit :=
  match (round.writing types messageConverters (.ok ())).through with
  | none => throwAs (round.writing types messageConverters (.ok ())).outcome
  | some (converter, acceptType) =>
      Prog.tryCatch
        (performAll fails (round.convert converter acceptType).throws
          (round.convert converter acceptType).calls)
        fun _ => throwAs (round.writing types messageConverters (.error ())).outcome

def cannotGetOutputStream : String :=
  "Cannot get the Servlet OutputStream for delivering async Message to browser client.  " ++
    "Ensure that you've set 'useStreamForFlushingComments' to true in the AtmosphereServlet."

def failedToWrite : String := "Failed to write async Message to browser client."

def buffered : Prog Thrown Response (List UInt8) :=
  Prog.withLocals [] do
    convertInto fails types messageConverters round
    let state ← Prog.get
    pure state.2

def copyToResponse (content : List UInt8) : Prog Thrown Response Unit :=
  Prog.tryCatch
    (do
      call fails .getOutputStream
      call fails (.write content)
      call fails .getOutputStream
      call fails .flush)
    fun thrown =>
      match thrown with
      | .ioException => Prog.throw (.messagingException failedToWrite)
      | other => Prog.throw other

def deliver : Prog Thrown Response Unit := do
  Prog.tryCatch (call fails .getOutputStream) fun _ =>
    Prog.throw (.messagingException cannotGetOutputStream)
  let content ← buffered fails types messageConverters round
  copyToResponse fails content
  if round.resumeOnBroadcast = some true then call fails .resume else pure ()

/-- A broadcast that was made: how it ended, and the numbers of the calls on the response that
it was made with. -/
structure Made (MediaType : Type) where
  round : Round MediaType
  ended : Except Thrown Unit
  first : Nat
  last : Nat

def deliverAll : List (Round MediaType) → Response → List (Made MediaType) × Response
  | [], response => ([], response)
  | round :: rest, response =>
      let delivered := deliver fails types messageConverters round response
      let later := deliverAll rest delivered.2
      (⟨round, delivered.1, response.calls, delivered.2.calls⟩ :: later.1, later.2)

end Programs

/-- What was sent so far, and no call since the first one threw. -/
structure Going (fails : Nat → Option Fault) (first : Nat) (sent : List ResponseCall)
    (response : Response) : Prop where
  sent : response.world.filter ResponseCall.sends = sent
  later : first ≤ response.calls
  quiet : ∀ number, first ≤ number → number < response.calls → fails number = none

/-- What was sent so far, and a call since the first one threw, unless it is excused. -/
structure Stopped (fails : Nat → Option Fault) (first : Nat) (excused : Prop)
    (sent : List ResponseCall) (response : Response) : Prop where
  sent : response.world.filter ResponseCall.sends = sent
  broken : excused ∨
    ∃ number, first ≤ number ∧ number < response.calls ∧ fails number ≠ none

/-- What copying the content has sent: all of it if it returned, else at most a beginning. -/
def Copied (fails : Nat → Option Fault) (first : Nat) (sent : List ResponseCall)
    (content : List UInt8) (ended : Except Thrown Unit) (response : Response) : Prop :=
  match ended with
  | .ok () => Going fails first (sent ++ [.write content]) response
  | .error _ => Stopped fails first False sent response ∨
      ∃ part, part <+: content ∧ Stopped fails first False (sent ++ [.write part]) response

section Rules

variable {fails : Nat → Option Fault} {first : Nat} {sent : List ResponseCall}

theorem Stopped.weaken {excused other : Prop} {response : Response}
    (stopped : Stopped fails first excused sent response) (implied : excused → other) :
    Stopped fails first other sent response :=
  ⟨stopped.sent, stopped.broken.imp_left implied⟩

theorem call_going (made : ResponseCall) :
    Triple (Going fails first sent) (call fails made) fun ended response =>
      match ended with
      | .ok () => Going fails first (sent ++ [made].filter ResponseCall.sends) response
      | .error _ => ∃ fault, Stopped fails first False
          (sent ++ (made.partly fault).filter ResponseCall.sends) response := by
  intro response going
  unfold call
  cases turn : fails response.calls with
  | none =>
      rw [Prog.interrupted_works turn]
      refine ⟨?_, Nat.le_succ_of_le going.later, ?_⟩
      · change (response.world ++ [made]).filter ResponseCall.sends = _
        rw [List.filter_append, going.sent]
      · intro number since before
        rcases Nat.lt_succ_iff_lt_or_eq.mp before with earlier | last
        · exact going.quiet number since earlier
        · exact last ▸ turn
  | some fault =>
      rw [Prog.interrupted_breaks turn]
      refine ⟨fault, ?_, Or.inr ⟨response.calls, going.later, Nat.lt_succ_self _, ?_⟩⟩
      · change (response.world ++ made.partly fault).filter ResponseCall.sends = _
        rw [List.filter_append, going.sent]
      · rw [turn]
        exact Option.some_ne_none fault

theorem partly_quiet {made : ResponseCall} (quiet : made.sends = false) (fault : Fault) :
    (made.partly fault).filter ResponseCall.sends = [] := by
  cases made with
  | write bytes => cases quiet
  | resume => cases quiet
  | _ =>
      unfold ResponseCall.partly
      dsimp only
      split <;> rfl

/-- A call that sends nothing. -/
theorem call_quiet {made : ResponseCall} (quiet : made.sends = false) :
    Triple (Going fails first sent) (call fails made) fun ended response =>
      match ended with
      | .ok () => Going fails first sent response
      | .error _ => Stopped fails first False sent response := by
  refine Triple.consequence (call_going made) (fun _ => id) ?_
  intro ended response given
  cases ended with
  | ok done =>
      rw [List.filter_singleton, quiet] at given
      exact (List.append_nil sent) ▸ given
  | error thrown =>
      obtain ⟨fault, stopped⟩ := given
      rw [partly_quiet quiet fault, List.append_nil] at stopped
      exact stopped

/-- On the wrapper nothing is sent, and what returns has left the content in the buffer. -/
theorem perform_going (made : WrapperCall) (rest : List WrapperCall) (content : List UInt8) :
    Triple (fun state => Going fails first sent state.1 ∧ state.2 = content) (perform fails made)
      fun ended state =>
        match ended with
        | .ok () => Going fails first sent state.1 ∧
            contentAfter content (made :: rest) = contentAfter state.2 rest
        | .error _ =>
            Stopped fails first (contentAfter content (made :: rest) = none) sent state.1 := by
  cases made with
  | write b =>
      intro state before
      obtain ⟨going, same⟩ := before
      subst same
      exact ⟨going, rfl⟩
  | writeSlice b off len =>
      intro state before
      obtain ⟨going, same⟩ := before
      subst same
      have unfolded : contentAfter state.2 (.writeSlice b off len :: rest) =
          if off + len ≤ b.length then contentAfter (state.2 ++ (b.drop off).take len) rest
          else none := rfl
      have performed : perform fails (.writeSlice b off len) =
          if off + len ≤ b.length then
            Prog.modify fun state => (state.1, state.2 ++ (b.drop off).take len)
          else Prog.throw .indexOutOfBounds := rfl
      rw [performed, unfolded]
      by_cases within : off + len ≤ b.length
      · rw [if_pos within, if_pos within]
        exact ⟨going, rfl⟩
      · rw [if_neg within, if_neg within]
        exact ⟨going.sent, Or.inl rfl⟩
  | addHeader name value =>
      refine Triple.consequence (Triple.callee_locals (call_quiet rfl)) (fun _ => id) ?_
      intro ended state called
      obtain ⟨reached, same⟩ := called
      subst same
      cases ended with
      | ok done => exact ⟨reached, rfl⟩
      | error thrown => exact reached.weaken False.elim
  | resetBuffer =>
      intro state before
      exact ⟨before.1, rfl⟩
  | reset =>
      refine Triple.bind (Triple.callee_locals (call_quiet rfl)) ?_ ?_
      · intro done state called
        exact ⟨called.1, rfl⟩
      · intro thrown state called
        exact called.1.weaken False.elim

/-- The calls of a conversion return with its body in the buffer; they throw only if there is
none or if the response throws. -/
theorem performAll_going (throws : Bool) (calls : List WrapperCall) (content : List UInt8) :
    Triple (fun state => Going fails first sent state.1 ∧ state.2 = content)
      (performAll fails throws calls) fun ended state =>
        match ended with
        | .ok () => Going fails first sent state.1 ∧ throws = false ∧
            contentAfter content calls = some state.2
        | .error _ =>
            Stopped fails first (throws = true ∨ contentAfter content calls = none) sent
              state.1 := by
  induction calls generalizing content with
  | nil =>
      intro state before
      obtain ⟨going, same⟩ := before
      subst same
      cases throws with
      | true => exact ⟨going.sent, Or.inl (Or.inl rfl)⟩
      | false => exact ⟨going, rfl, rfl⟩
  | cons call rest ih =>
      refine Triple.bind (perform_going call rest content) ?_ ?_
      · intro done state reached
        obtain ⟨going, same⟩ := reached
        rw [same]
        exact ih state.2 state ⟨going, rfl⟩
      · intro thrown state stopped
        exact stopped.weaken Or.inr

variable {MediaType : Type} (types : MediaTypes MediaType)
  (messageConverters : List (HttpMessageConverter MediaType)) (round : Round MediaType)

theorem writing_unfound {types : MediaTypes MediaType}
    {messageConverters : List (HttpMessageConverter MediaType)} {round : Round MediaType}
    (unfound : (round.writing types messageConverters (.ok ())).through = none) :
    ∃ description,
      (round.writing types messageConverters (.ok ())).outcome = .error description := by
  revert unfound
  simp only [Round.writing, writeMessage]
  split
  · exact fun _ => ⟨_, rfl⟩
  · intro impossible
    cases impossible
  · intro impossible
    cases impossible

theorem writing_thrown :
    ∃ description,
      (round.writing types messageConverters (.error ())).outcome = .error description := by
  simp only [Round.writing, writeMessage]
  split
  · exact ⟨_, rfl⟩
  · rename_i impossible
    cases impossible
  · exact ⟨_, rfl⟩

theorem convertInto_going :
    Triple (fun state => Going fails first sent state.1 ∧ state.2 = [])
      (convertInto fails types messageConverters round) fun ended state =>
        match ended with
        | .ok () => Going fails first sent state.1 ∧
            round.body types messageConverters = some state.2
        | .error _ =>
            Stopped fails first (round.body types messageConverters = none) sent state.1 := by
  unfold convertInto
  cases found : (round.writing types messageConverters (.ok ())).through with
  | none =>
      intro state before
      obtain ⟨description, same⟩ := writing_unfound found
      dsimp only
      rw [same]
      refine ⟨before.1.sent, Or.inl ?_⟩
      unfold Round.body
      rw [found]
      rfl
  | some hit =>
      obtain ⟨converter, acceptType⟩ := hit
      have body : round.body types messageConverters =
          (round.convert converter acceptType).body := by
        unfold Round.body
        rw [found]
        rfl
      rw [body]
      refine Triple.tryCatch (performAll_going _ _ []) ?_ ?_
      · intro thrown state stopped
        obtain ⟨description, same⟩ := writing_thrown types messageConverters round
        rw [same]
        refine stopped.weaken ?_
        rintro (throws | unmade)
        · exact if_pos throws
        · unfold Conversion.body
          rw [unmade, ite_self]
      · intro done state reached
        obtain ⟨going, returns, content⟩ := reached
        refine ⟨going, ?_⟩
        unfold Conversion.body
        rw [returns]
        exact content

theorem buffered_going :
    Triple (Going fails first sent) (buffered fails types messageConverters round)
      fun ended response =>
        match ended with
        | .ok content => Going fails first sent response ∧
            round.body types messageConverters = some content
        | .error _ =>
            Stopped fails first (round.body types messageConverters = none) sent response := by
  intro response going
  have converts : Triple (fun state => Going fails first sent state.1 ∧ state.2 = [])
      (convertInto fails types messageConverters round) _ :=
    convertInto_going types messageConverters round
  have converted := converts (response, []) ⟨going, rfl⟩
  unfold buffered Prog.withLocals
  rw [Prog.bind_apply]
  generalize convertInto fails types messageConverters round (response, []) = outcome
    at converted ⊢
  obtain ⟨ended, after⟩ := outcome
  cases ended with
  | ok done => exact converted
  | error thrown => exact converted

/-- The call of `write` may stop after a beginning of the content; the others send nothing. -/
theorem copyToResponse_going (content : List UInt8) :
    Triple (Going fails first sent) (copyToResponse fails content)
      (Copied fails first sent content) := by
  have block : Triple (Going fails first sent)
      (do
        call fails .getOutputStream
        call fails (.write content)
        call fails .getOutputStream
        call fails .flush)
      (Copied fails first sent content) := by
    have whole : ∀ response, Stopped fails first False (sent ++ [.write content]) response →
        ∃ part, part <+: content ∧
          Stopped fails first False (sent ++ [.write part]) response :=
      fun response stopped => ⟨content, List.prefix_rfl, stopped⟩
    refine Triple.bind (call_quiet rfl) ?_ (fun thrown response => Or.inl)
    intro _
    refine Triple.bind (call_going (.write content)) ?_ ?_
    · intro _
      refine Triple.bind (call_quiet rfl) ?_ fun thrown response stopped =>
        Or.inr (whole response stopped)
      intro _
      refine Triple.consequence (call_quiet rfl) (fun _ => id) ?_
      intro ended response reached
      cases ended with
      | ok done => exact reached
      | error thrown => exact Or.inr (whole response reached)
    · intro thrown response given
      obtain ⟨fault, stopped⟩ := given
      exact Or.inr ⟨content.take fault.done, List.take_prefix _ _, stopped⟩
  refine Triple.tryCatch block ?_ (fun _ _ => id)
  intro thrown response given
  cases thrown with
  | _ => exact given

theorem deliver_going :
    Triple (Going fails first sent) (deliver fails types messageConverters round)
      fun ended response =>
        ∃ part, round.Sends types messageConverters ended part ∧
          match ended with
          | .ok () => (round.body types messageConverters).isSome = true ∧
              Going fails first (sent ++ part) response
          | .error _ => Stopped fails first (round.body types messageConverters = none)
              (sent ++ part) response := by
  have nothing : ∀ thrown response,
      Stopped fails first (round.body types messageConverters = none) sent response →
        ∃ part, round.Sends types messageConverters (.error thrown) part ∧
          Stopped fails first (round.body types messageConverters = none) (sent ++ part)
            response := by
    intro thrown response stopped
    exact ⟨[], Or.inl rfl, (List.append_nil sent).symm ▸ stopped⟩
  have opens : Triple (Going fails first sent)
      (Prog.tryCatch (call fails .getOutputStream) fun _ =>
        Prog.throw (.messagingException cannotGetOutputStream)) fun ended response =>
        match ended with
        | .ok () => Going fails first sent response
        | .error _ => Stopped fails first False sent response :=
    Triple.tryCatch (call_quiet rfl) (fun _ _ => id) (fun _ _ => id)
  unfold deliver
  refine Triple.bind opens ?_
    (fun thrown response stopped => nothing thrown response (stopped.weaken False.elim))
  intro _
  refine Triple.bind (buffered_going types messageConverters round) ?_ nothing
  intro content
  have copies : Triple
      (fun response => Going fails first sent response ∧
        round.body types messageConverters = some content)
      (copyToResponse fails content) fun ended response =>
        round.body types messageConverters = some content ∧
          Copied fails first sent content ended response :=
    fun response given => ⟨given.2, copyToResponse_going content response given.1⟩
  refine Triple.bind copies ?_ ?_
  · intro _ response given
    obtain ⟨made, going⟩ := given
    by_cases resumes : round.resumeOnBroadcast = some true
    · simp only [if_pos resumes]
      have resumed := call_going .resume response going
      generalize call fails .resume response = outcome at resumed ⊢
      obtain ⟨ended, after⟩ := outcome
      cases ended with
      | ok done =>
          refine ⟨[.write content, .resume], ⟨content, made, ?_⟩, ?_, ?_⟩
          · rw [if_pos resumes]
          · rw [made]
            rfl
          · rw [List.append_assoc] at resumed
            exact resumed
      | error thrown =>
          -- The resumption may have been made before it threw, or not.
          obtain ⟨fault, stopped⟩ := resumed
          by_cases before : fault.done = 0
          · refine ⟨[.write content], Or.inr ⟨content, made, Or.inl ⟨content, ?_, rfl⟩⟩, ?_⟩
            · exact List.prefix_rfl
            · simp only [ResponseCall.partly, if_pos before, List.filter_nil,
                List.append_nil] at stopped
              exact stopped.weaken False.elim
          · refine ⟨[.write content, .resume], Or.inr ⟨content, made, Or.inr ⟨resumes, rfl⟩⟩, ?_⟩
            simp only [ResponseCall.partly, if_neg before, List.append_assoc] at stopped
            exact stopped.weaken False.elim
    · simp only [if_neg resumes]
      refine ⟨[.write content], ⟨content, made, ?_⟩, ?_, going⟩
      · rw [if_neg resumes]
      · rw [made]
        rfl
  · intro thrown response given
    obtain ⟨made, stopped | ⟨part, prefixed, stopped⟩⟩ := given
    · exact nothing thrown response (stopped.weaken False.elim)
    · exact ⟨[.write part], Or.inr ⟨content, made, Or.inl ⟨part, prefixed, rfl⟩⟩,
        stopped.weaken False.elim⟩

/-- A round returns if its conversion makes a body and none of its calls on the response throws. -/
def Made.Right (fails : Nat → Option Fault) (made : Made MediaType) : Prop :=
  made.ended = .ok () ↔
    (made.round.body types messageConverters).isSome = true ∧
      ∀ number, made.first ≤ number → number < made.last → fails number = none

variable (fails) in
theorem deliver_right (response : Response) :
    ∃ part,
      round.Sends types messageConverters
          (deliver fails types messageConverters round response).1 part ∧
        Made.Right types messageConverters fails
          ⟨round, (deliver fails types messageConverters round response).1, response.calls,
            (deliver fails types messageConverters round response).2.calls⟩ ∧
        (deliver fails types messageConverters round response).2.world.filter ResponseCall.sends =
          response.world.filter ResponseCall.sends ++ part := by
  have start : Going fails response.calls (response.world.filter ResponseCall.sends) response :=
    ⟨rfl, Nat.le_refl _, fun number since before => absurd since (Nat.not_le.mpr before)⟩
  obtain ⟨part, sends, reached⟩ := deliver_going types messageConverters round response start
  refine ⟨part, sends, ?_, ?_⟩
  · unfold Made.Right
    dsimp only
    generalize deliver fails types messageConverters round response = outcome at reached
    obtain ⟨ended, after⟩ := outcome
    cases ended with
    | ok done => exact iff_of_true rfl ⟨reached.1, reached.2.quiet⟩
    | error thrown =>
        refine iff_of_false nofun ?_
        rintro ⟨made, quiet⟩
        rcases reached.broken with unmade | ⟨number, since, before, breaks⟩
        · rw [unmade] at made
          cases made
        · exact breaks (quiet number since before)
  · generalize deliver fails types messageConverters round response = outcome at reached
    obtain ⟨ended, after⟩ := outcome
    cases ended with
    | ok done => exact reached.2.sent
    | error thrown => exact reached.sent

end Rules

def streamed : Round MimeType :=
  { accept := [⟨"application", "json"⟩]
    payloadClass := "java.util.ArrayList"
    convert := fun _ _ =>
      { calls := [.write 91, .reset, .writeSlice [91, 93] 0 2]
        throws := false }
    resumeOnBroadcast := none }

def polled : Round MimeType := { streamed with resumeOnBroadcast := some true }

/-- The second write stops after one byte, and the third round sends its body again. -/
example :
    let fails := fun number => if number = 9 then some ⟨.ioException, 1⟩ else none
    let outcome := deliverAll fails springMediaTypes
      (HttpMessageMapper.messageConverters listClasses true true) [streamed, polled, polled]
      { world := [], calls := 0 }
    outcome.1.map Made.ended =
        [.ok (), .error (.messagingException failedToWrite), .ok ()] ∧
      outcome.2.world.filter ResponseCall.sends =
        [.write [91, 93], .write [91], .write [91, 93], .resume] := by
  decide

end HttpMessageBroadcaster

end SpringExamples.Comet
