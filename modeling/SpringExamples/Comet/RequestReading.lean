/-
What `HttpMessageMapper` reads from a request.

A body is read by the first converter that can read it as the type that is asked for; the
payload of any other request is the map of its parameters.  Spring's converters are
parameters: objects that say what they can read, and that read a request or throw.
Classes are given by their names.
-/

import SpringExamples.Foundation.FirstMatch
import SpringExamples.Foundation.MultiMap
import SpringExamples.Integration.Message

set_option autoImplicit false

namespace SpringExamples.Comet

inductive HttpMethod where
  | get
  | post
  | head
  | options
  | put
  | delete
  | trace
  deriving DecidableEq, Repr

def HttpMethod.toString : HttpMethod → String
  | .get => "GET"
  | .post => "POST"
  | .head => "HEAD"
  | .options => "OPTIONS"
  | .put => "PUT"
  | .delete => "DELETE"
  | .trace => "TRACE"

structure ContentType where
  type : String
  subtype : String
  parameters : List (String × String)
  deriving DecidableEq, Repr

def ContentType.toString (contentType : ContentType) : String :=
  contentType.parameters.foldl
    (fun text parameter => text ++ ";" ++ parameter.1 ++ "=" ++ parameter.2)
    (contentType.type ++ "/" ++ contentType.subtype)

structure ServletRequest where
  method : HttpMethod
  contentType : Option ContentType
  headers : String → Option String
  body : List UInt8
  parameterMap : MultiMap String String
  uri : String
  userPrincipal : Option String

inductive RequestPayload (Content : Type) where
  | content (object : Content)
  | parameters (map : MultiMap String String)

structure MessagingException where
  description : String
  cause : Option String
  deriving DecidableEq, Repr

variable {Converter Content : Type}

namespace HttpMessageMapper

def isReadable (request : ServletRequest) : Bool :=
  !(request.method = .get || request.method = .head || request.method = .options) &&
    request.contentType.isSome

def convertParameterMap (parameterMap : MultiMap String String) : MultiMap String String :=
  parameterMap.entries.foldl (fun convertedMap entry => convertedMap.addAll entry.1 entry.2)
    MultiMap.empty

/-- What a body is read as when no type is asked for. -/
def defaultType (contentType : ContentType) : String :=
  if contentType.type = "text" then "java.lang.String" else "[B"

def build (request : ServletRequest) (toHeaders : (String → Option String) → String → Option String)
    (payload : RequestPayload Content) : Message (RequestPayload Content) :=
  ((((Message.withPayload payload).copyHeaders (toHeaders request.headers)).setHeader
    "http_requestUrl" (some request.uri)).setHeader
    "http_requestMethod" (some request.method.toString)).setHeader
    "http_userPrincipal" request.userPrincipal

section Reading

variable (canRead : Converter → String → ContentType → Bool)
  (read : Converter → String → ServletRequest → Except String Content)
  (messageConverters : List Converter)

def generatePayloadFromRequestBody (request : ServletRequest) (contentType : ContentType)
    (expectedType : Option String) : Except MessagingException Content :=
  let type := expectedType.getD (defaultType contentType)
  match messageConverters.find? fun converter => canRead converter type contentType with
  | some converter =>
      match read converter type request with
      | .ok object => .ok object
      | .error ex => .error
          { description := "Could not convert request: failure occurred during conversion of " ++
              "expected type [" ++ type ++ "] from content type [" ++ contentType.toString ++ "]"
            cause := some ex }
  | none => .error
      { description := "Could not convert request: no suitable HttpMessageConverter found for " ++
          "expected type [" ++ type ++ "] and content type [" ++ contentType.toString ++ "]"
        cause := none }

/-- A readable request has a content type.  The body is read with null for the type that the
caller expects. -/
def readMessage (request : ServletRequest) (_expectedType : Option String)
    (toHeaders : (String → Option String) → String → Option String) :
    Except MessagingException (Message (RequestPayload Content)) :=
  let payload : Except MessagingException (RequestPayload Content) :=
    match isReadable request, request.contentType with
    | true, some contentType =>
        (generatePayloadFromRequestBody canRead read messageConverters request contentType
          none).map .content
    | _, _ => .ok (.parameters (convertParameterMap request.parameterMap))
  payload.map (build request toHeaders)

end Reading

end HttpMessageMapper

structure IllegalStateException where
  message : String
  cause : MessagingException
  deriving DecidableEq, Repr

/-- The field has no setter. -/
def requestPayloadType : Option String := none

/-- The message that is sent to the channel. -/
def publish (canRead : Converter → String → ContentType → Bool)
    (read : Converter → String → ServletRequest → Except String Content)
    (messageConverters : List Converter) (request : ServletRequest)
    (toHeaders : (String → Option String) → String → Option String) :
    Except IllegalStateException (Message (RequestPayload Content)) :=
  (HttpMessageMapper.readMessage canRead read messageConverters request requestPayloadType
    toHeaders).mapError fun ex => { message := "Could not read request body.", cause := ex }

namespace HttpMessageMapper

def HasBody (request : ServletRequest) (contentType : ContentType) : Prop :=
  request.method ≠ .get ∧ request.method ≠ .head ∧ request.method ≠ .options ∧
    request.contentType = some contentType

section Honouring

variable (canRead : Converter → String → ContentType → Bool)
  (read : Converter → String → ServletRequest → Except String Content)
  (messageConverters : List Converter) (request : ServletRequest)

/-- The first converter that can read the body as the type. -/
abbrev Reader (contentType : ContentType) (type : String) : Converter → Prop :=
  FirstMatch (fun other => canRead other type contentType = true) messageConverters

def ReadAs (contentType : ContentType) (type : String) (object : Content) : Prop :=
  ∃ converter, Reader canRead messageConverters contentType type converter ∧
    read converter type request = .ok object

/-- No converter can read the body as the type, or the first that can throws. -/
def Unread (contentType : ContentType) (type : String) : Prop :=
  (∀ converter ∈ messageConverters, canRead converter type contentType = false) ∨
    ∃ converter thrown, Reader canRead messageConverters contentType type converter ∧
      read converter type request = .error thrown

/-- The payload is the body as the expected type, or as the default for its content type if
none is expected; without a body it is the parameters. -/
structure Honoured {Error : Type} (expectedType : Option String)
    (outcome : Except Error (Message (RequestPayload Content))) : Prop where
  body : ∀ contentType, HasBody request contentType → ∀ message, outcome = .ok message →
    ∃ object,
      ReadAs canRead read messageConverters request contentType
        (expectedType.getD (defaultType contentType)) object ∧
      message.payload = .content object
  fails : ∀ contentType, HasBody request contentType →
    ((∃ error, outcome = .error error) ↔
      Unread canRead read messageConverters request contentType
        (expectedType.getD (defaultType contentType)))
  parameters : (∀ contentType, ¬HasBody request contentType) →
    ∃ message map, outcome = .ok message ∧ message.payload = .parameters map ∧
      map.entries = request.parameterMap.entries.filter fun entry => !entry.2.isEmpty

/-- The type that is expected is the default one, or no converter can read either. -/
def ReadAlike (expectedType : Option String) : Prop :=
  ∀ contentType, HasBody request contentType → ∀ type, expectedType = some type →
    type = defaultType contentType ∨
      ∀ converter ∈ messageConverters, canRead converter type contentType = false ∧
        canRead converter (defaultType contentType) contentType = false

end Honouring

section Outcomes

theorem isReadable_iff (request : ServletRequest) :
    isReadable request = true ↔ ∃ contentType, HasBody request contentType := by
  unfold isReadable HasBody
  cases given : request.contentType with
  | none => simp
  | some contentType =>
      simp only [Bool.and_eq_true, Bool.not_eq_true', Bool.or_eq_false_iff, decide_eq_false_iff_not,
        Option.isSome_some, and_true, Option.some.injEq, exists_and_left, exists_eq', and_assoc]

theorem entries_convertParameterMap (parameterMap : MultiMap String String) :
    (convertParameterMap parameterMap).entries =
      parameterMap.entries.filter fun entry => !entry.2.isEmpty :=
  MultiMap.entries_collect parameterMap.entries parameterMap.distinct
    fun _ impossible => absurd impossible List.not_mem_nil

variable {canRead : Converter → String → ContentType → Bool}
  {read : Converter → String → ServletRequest → Except String Content}
  {messageConverters : List Converter} {request : ServletRequest} {contentType : ContentType}

theorem generatePayload_ok_iff (expectedType : Option String) (object : Content) :
    generatePayloadFromRequestBody canRead read messageConverters request contentType
        expectedType = .ok object ↔
      ReadAs canRead read messageConverters request contentType
        (expectedType.getD (defaultType contentType)) object := by
  simp only [generatePayloadFromRequestBody, ReadAs, ← FirstMatch.find?_eq_some_iff]
  cases messageConverters.find? fun converter =>
      canRead converter (expectedType.getD (defaultType contentType)) contentType with
  | none => simp
  | some converter =>
      cases answer : read converter (expectedType.getD (defaultType contentType)) request with
      | ok found => simp [answer]
      | error thrown => simp [answer]

theorem generatePayload_error_iff (expectedType : Option String) :
    (∃ exception, generatePayloadFromRequestBody canRead read messageConverters request contentType
        expectedType = .error exception) ↔
      Unread canRead read messageConverters request contentType
        (expectedType.getD (defaultType contentType)) := by
  simp only [generatePayloadFromRequestBody, Unread, ← FirstMatch.find?_eq_some_iff]
  cases searched : messageConverters.find? fun converter =>
      canRead converter (expectedType.getD (defaultType contentType)) contentType with
  | none =>
      have unable := List.find?_eq_none.mp searched
      simp only [Bool.not_eq_true] at unable
      exact iff_of_true ⟨_, rfl⟩ (Or.inl unable)
  | some converter =>
      have able := List.find?_some searched
      have listed := List.mem_of_find?_eq_some searched
      have readable : ¬∀ other ∈ messageConverters,
          canRead other (expectedType.getD (defaultType contentType)) contentType = false := by
        intro unable
        rw [unable converter listed] at able
        cases able
      cases answer : read converter (expectedType.getD (defaultType contentType)) request with
      | ok found => simp [answer, readable]
      | error thrown => simp [answer]

theorem map_eq_ok_iff {Error First Second : Type} (build : First → Second)
    (outcome : Except Error First) (result : Second) :
    outcome.map build = .ok result ↔ ∃ first, outcome = .ok first ∧ build first = result := by
  cases outcome with
  | ok first => simp [Except.map]
  | error error => simp [Except.map]

theorem map_eq_error_iff {Error First Second : Type} (build : First → Second)
    (outcome : Except Error First) (error : Error) :
    outcome.map build = .error error ↔ outcome = .error error := by
  cases outcome with
  | ok first => simp [Except.map]
  | error thrown => simp [Except.map]

theorem HasBody.unique {other : ContentType} (first : HasBody request contentType)
    (second : HasBody request other) : other = contentType :=
  Option.some.inj (second.2.2.2.symm.trans first.2.2.2)

variable {toHeaders : (String → Option String) → String → Option String}

theorem readMessage_body (body : HasBody request contentType) (expectedType : Option String) :
    readMessage canRead read messageConverters request expectedType toHeaders =
      (generatePayloadFromRequestBody canRead read messageConverters request contentType none).map
        fun object => build request toHeaders (.content object) := by
  have readable := (isReadable_iff request).mpr ⟨contentType, body⟩
  unfold readMessage
  rw [readable, body.2.2.2]
  dsimp only
  cases generatePayloadFromRequestBody canRead read messageConverters request contentType none with
  | ok object => rfl
  | error exception => rfl

theorem readMessage_parameters (bodiless : ∀ contentType, ¬HasBody request contentType)
    (expectedType : Option String) :
    readMessage canRead read messageConverters request expectedType toHeaders =
      .ok (build request toHeaders (.parameters (convertParameterMap request.parameterMap))) := by
  have unreadable : isReadable request = false := by
    apply Bool.eq_false_iff.mpr
    intro readable
    obtain ⟨contentType, body⟩ := (isReadable_iff request).mp readable
    exact bodiless contentType body
  unfold readMessage
  rw [unreadable]
  rfl

theorem readMessage_ok_iff (body : HasBody request contentType) (expectedType : Option String)
    (message : Message (RequestPayload Content)) :
    readMessage canRead read messageConverters request expectedType toHeaders = .ok message ↔
      ∃ object,
        ReadAs canRead read messageConverters request contentType (defaultType contentType)
          object ∧
        build request toHeaders (.content object) = message := by
  rw [readMessage_body body, map_eq_ok_iff]
  simp only [generatePayload_ok_iff, Option.getD_none]

theorem readMessage_error_iff (body : HasBody request contentType)
    (expectedType : Option String) :
    (∃ exception, readMessage canRead read messageConverters request expectedType toHeaders =
        .error exception) ↔
      Unread canRead read messageConverters request contentType (defaultType contentType) := by
  rw [readMessage_body body]
  simp only [map_eq_error_iff]
  exact generatePayload_error_iff none

end Outcomes

section Honour

variable {canRead : Converter → String → ContentType → Bool}
  {read : Converter → String → ServletRequest → Except String Content}
  {messageConverters : List Converter} {request : ServletRequest} {contentType : ContentType}
  {toHeaders : (String → Option String) → String → Option String}

theorem honoured_parameters (bodiless : ∀ contentType, ¬HasBody request contentType)
    (expectedType : Option String) :
    Honoured canRead read messageConverters request expectedType
      (readMessage canRead read messageConverters request expectedType toHeaders) where
  body := fun contentType body => absurd body (bodiless contentType)
  fails := fun contentType body => absurd body (bodiless contentType)
  parameters := fun _ => ⟨_, _, readMessage_parameters bodiless expectedType, rfl,
    entries_convertParameterMap request.parameterMap⟩

/-- A body that is to be read as the default type is read so. -/
theorem honoured_default {expectedType : Option String} (body : HasBody request contentType)
    (default : expectedType.getD (defaultType contentType) = defaultType contentType) :
    Honoured canRead read messageConverters request expectedType
      (readMessage canRead read messageConverters request expectedType toHeaders) where
  body := by
    intro other otherBody message returned
    obtain ⟨object, readAs, same⟩ := (readMessage_ok_iff body expectedType message).mp returned
    rw [body.unique otherBody, default]
    exact ⟨object, readAs, congrArg Message.payload same.symm⟩
  fails := by
    intro other otherBody
    rw [body.unique otherBody, default]
    exact readMessage_error_iff body expectedType
  parameters := fun bodiless => absurd body (bodiless contentType)

/-- A body that nothing can read, neither as the type that is expected nor as the default. -/
theorem honoured_unreadable {type : String} (body : HasBody request contentType)
    (unable : ∀ converter ∈ messageConverters, canRead converter type contentType = false ∧
      canRead converter (defaultType contentType) contentType = false) :
    Honoured canRead read messageConverters request (some type)
      (readMessage canRead read messageConverters request (some type) toHeaders) where
  body := by
    intro other otherBody message returned
    obtain ⟨_, ⟨converter, found, _⟩, _⟩ :=
      (readMessage_ok_iff body (some type) message).mp returned
    have able := found.passes
    rw [(unable converter found.mem).2] at able
    cases able
  fails := by
    intro other otherBody
    rw [body.unique otherBody]
    refine iff_of_true ((readMessage_error_iff body (some type)).mpr ?_) ?_
    · exact Or.inl fun converter member => (unable converter member).2
    · exact Or.inl fun converter member => (unable converter member).1
  parameters := fun bodiless => absurd body (bodiless contentType)

theorem honoured_of_readAlike {expectedType : Option String}
    (alike : ReadAlike canRead messageConverters request expectedType) :
    Honoured canRead read messageConverters request expectedType
      (readMessage canRead read messageConverters request expectedType toHeaders) := by
  by_cases given : ∃ contentType, HasBody request contentType
  · obtain ⟨contentType, body⟩ := given
    cases expectedType with
    | none => exact honoured_default body rfl
    | some type =>
        rcases alike contentType body type rfl with same | unable
        · exact honoured_default body same
        · exact honoured_unreadable body unable
  · exact honoured_parameters (fun contentType body => given ⟨contentType, body⟩) expectedType

/-- Converters that throw at everything but one type. -/
def readsOnly (Content : Type) [Inhabited Content] (type : String) (_ : Converter) (asked : String)
    (_ : ServletRequest) : Except String Content :=
  if asked = type then .ok default else .error ""

theorem readsOnly_self [Inhabited Content] (type : String) (converter : Converter) :
    readsOnly Content type converter type request = .ok default :=
  if_pos rfl

theorem readsOnly_other [Inhabited Content] {type asked : String} (different : asked ≠ type)
    (converter : Converter) :
    readsOnly Content type converter asked request = .error "" :=
  if_neg different

/-- What is read as the default type would not be read as the other. -/
theorem unable_default_of_honoured [Inhabited Content] {type : String}
    (body : HasBody request contentType) (different : type ≠ defaultType contentType)
    (honoured : Honoured canRead (readsOnly Content (defaultType contentType)) messageConverters
      request (some type)
      (readMessage canRead (readsOnly Content (defaultType contentType)) messageConverters request
        (some type) toHeaders)) :
    ∀ converter ∈ messageConverters,
      canRead converter (defaultType contentType) contentType = false := by
  rcases FirstMatch.none_or (fun other => canRead other (defaultType contentType) contentType)
    messageConverters with unable | ⟨converter, found⟩
  · exact unable
  · have asked := honoured.body contentType body (build request toHeaders (.content default))
    obtain ⟨object, ⟨reader, _, answer⟩, _⟩ := asked ((readMessage_ok_iff body (some type) _).mpr
      ⟨default, ⟨converter, found, readsOnly_self _ converter⟩, rfl⟩)
    rw [Option.getD_some, readsOnly_other different reader] at answer
    cases answer

/-- Nothing is read, so that nothing may be readable as the other type. -/
theorem unable_expected_of_honoured [Inhabited Content] {type : String}
    (body : HasBody request contentType)
    (noDefault : ∀ converter ∈ messageConverters,
      canRead converter (defaultType contentType) contentType = false)
    (honoured : Honoured canRead (readsOnly Content type) messageConverters request (some type)
      (readMessage canRead (readsOnly Content type) messageConverters request (some type)
        toHeaders)) :
    ∀ converter ∈ messageConverters, canRead converter type contentType = false := by
  have failed := (honoured.fails contentType body).mp
    ((readMessage_error_iff body (some type)).mpr (Or.inl noDefault))
  rcases failed with unable | ⟨converter, thrown, _, answer⟩
  · exact unable
  · rw [Option.getD_some, readsOnly_self type converter] at answer
    cases answer

end Honour

/-- Whatever the converters read, the expected type is honoured precisely when it makes no
difference: it is the default one, or nothing can read either. -/
theorem honoured_iff_readAlike [Inhabited Content]
    (canRead : Converter → String → ContentType → Bool) (messageConverters : List Converter)
    (request : ServletRequest) (expectedType : Option String)
    (toHeaders : (String → Option String) → String → Option String) :
    (∀ read : Converter → String → ServletRequest → Except String Content,
        Honoured canRead read messageConverters request expectedType
          (readMessage canRead read messageConverters request expectedType toHeaders)) ↔
      ReadAlike canRead messageConverters request expectedType := by
  constructor
  · intro honoured contentType body type expected
    subst expected
    by_cases same : type = defaultType contentType
    · exact Or.inl same
    · have noDefault := unable_default_of_honoured body same (honoured (readsOnly Content _))
      have noExpected :=
        unable_expected_of_honoured body noDefault (honoured (readsOnly Content type))
      exact Or.inr fun converter member =>
        ⟨noExpected converter member, noDefault converter member⟩
  · intro alike read
    exact honoured_of_readAlike alike

def greeting : ServletRequest :=
  { method := .post
    contentType := some { type := "text", subtype := "plain", parameters := [] }
    headers := fun name => if name = "Content-Type" then some "text/plain" else none
    body := [104, 105]
    parameterMap := MultiMap.empty
    uri := "/publish"
    userPrincipal := none }

/-- Bytes are expected and a text is read.  Each converter reads one class, by whose name it
goes, and what it reads is named by that class. -/
theorem text_read_for_bytes :
    ¬Honoured (fun converter type _ => converter == type) (fun _ type _ => .ok type)
      ["[B", "java.lang.String"] greeting (some "[B")
      (readMessage (fun converter type _ => converter == type) (fun _ type _ => .ok type)
        ["[B", "java.lang.String"] greeting (some "[B") fun headers => headers) := by
  intro honoured
  obtain ⟨object, ⟨converter, _, answer⟩, same⟩ := honoured.body
    { type := "text", subtype := "plain", parameters := [] } ⟨nofun, nofun, nofun, rfl⟩ _ rfl
  cases answer
  have classes : "java.lang.String" = "[B" := RequestPayload.content.inj same
  revert classes
  decide

section Publishing

variable {canRead : Converter → String → ContentType → Bool}
  {read : Converter → String → ServletRequest → Except String Content}
  {messageConverters : List Converter} {request : ServletRequest}

theorem honoured_mapError {Error Other : Type} {expectedType : Option String}
    {outcome : Except Error (Message (RequestPayload Content))} (wrap : Error → Other)
    (honoured : Honoured canRead read messageConverters request expectedType outcome) :
    Honoured canRead read messageConverters request expectedType (outcome.mapError wrap) := by
  cases outcome with
  | ok message =>
      refine ⟨?_, ?_, ?_⟩
      · intro contentType body other same
        cases same
        exact honoured.body contentType body message rfl
      · intro contentType body
        rw [← honoured.fails contentType body]
        exact ⟨nofun, nofun⟩
      · intro bodiless
        obtain ⟨other, map, same, rest⟩ := honoured.parameters bodiless
        cases same
        exact ⟨message, map, rfl, rest⟩
  | error error =>
      refine ⟨?_, ?_, ?_⟩
      · intro contentType body message impossible
        cases impossible
      · intro contentType body
        rw [← honoured.fails contentType body]
        exact iff_of_true ⟨wrap error, rfl⟩ ⟨error, rfl⟩
      · intro bodiless
        obtain ⟨_, _, impossible, _⟩ := honoured.parameters bodiless
        cases impossible

/-- The one caller of `readMessage` expects no type. -/
theorem publish_honoured (toHeaders : (String → Option String) → String → Option String) :
    Honoured canRead read messageConverters request requestPayloadType
      (publish canRead read messageConverters request toHeaders) := by
  apply honoured_mapError
  apply honoured_of_readAlike
  intro contentType _ type impossible
  cases impossible

end Publishing

end HttpMessageMapper

end SpringExamples.Comet
