/-
The Content-Type announced at subscription and the converter that writes later.

`subscribe` searches the message converters for a supported media type the client
accepts and announces it, because the headers cannot be set again.  `writeMessage`
searches them for one that can write the class of the payload.  Spring's media types
and converters are parameters; of the media types only what both searches rely on is
required.
-/

import SpringExamples.Foundation.FirstMatch

set_option autoImplicit false

namespace SpringExamples.Comet

structure MediaTypes (MediaType : Type) where
  all : MediaType
  applicationJson : MediaType
  isCompatibleWith : MediaType → MediaType → Bool
  isWildcardType : MediaType → Bool
  isWildcardSubtype : MediaType → Bool
  print : MediaType → String
  compatible_self : ∀ mediaType, isCompatibleWith mediaType mediaType = true
  compatible_all : ∀ mediaType, isCompatibleWith mediaType all = true

/-- A converter supports some media types and, by its name, some classes. -/
structure HttpMessageConverter (MediaType : Type) where
  supportedMediaTypes : List MediaType
  nonempty : supportedMediaTypes ≠ []
  supports : String → Bool

structure Written (MediaType : Type) where
  outcome : Except String Unit
  through : Option (HttpMessageConverter MediaType × MediaType)

variable {MediaType : Type} (types : MediaTypes MediaType)

/-- A Java list of media types as text. -/
def MediaTypes.printList (mediaTypes : List MediaType) : String :=
  "[" ++ ", ".intercalate (mediaTypes.map types.print) ++ "]"

def MediaTypes.concrete (mediaType : MediaType) : Bool :=
  !types.isWildcardType mediaType && !types.isWildcardSubtype mediaType

namespace HttpMessageConverter

def canWrite (converter : HttpMessageConverter MediaType) (payloadClass : String)
    (mediaType : MediaType) : Bool :=
  converter.supports payloadClass &&
    converter.supportedMediaTypes.any fun supported => types.isCompatibleWith supported mediaType

/-- The type itself, or else the converter's default, if that is concrete. -/
def contentType (converter : HttpMessageConverter MediaType) (supportedMediaType : MediaType) :
    Option MediaType :=
  if types.concrete supportedMediaType then some supportedMediaType
  else
    let defaultType := converter.supportedMediaTypes.head converter.nonempty
    if types.concrete defaultType then some defaultType else none

end HttpMessageConverter

def acceptOrJson (accept : List MediaType) : List MediaType :=
  if accept.isEmpty then [types.applicationJson] else accept

def writeMessage (messageConverters : List (HttpMessageConverter MediaType))
    (accept : List MediaType) (payloadClass : String) (write : Except Unit Unit) :
    Written MediaType :=
  let acceptTypes := acceptOrJson types accept
  let found := messageConverters.findSome? fun converter =>
    (acceptTypes.find? (converter.canWrite types payloadClass)).map fun acceptType =>
      (converter, acceptType)
  match found, write with
  | none, _ =>
      { outcome := .error ("Could not convert reply: no suitable HttpMessageConverter found " ++
          "for type [" ++ payloadClass ++ "] and accept types [" ++ types.printList acceptTypes ++
          "]")
        through := none }
  | some (converter, acceptType), .ok () =>
      { outcome := .ok ()
        through := some (converter, acceptType) }
  | some (converter, acceptType), .error () =>
      { outcome := .error ("Could not convert reply: failed to convert response of type [" ++
          payloadClass ++ "] to accepted type [" ++ types.print acceptType ++ "]")
        through := some (converter, acceptType) }

theorem contentType_mem {converter : HttpMessageConverter MediaType}
    {supported announced : MediaType} (member : supported ∈ converter.supportedMediaTypes)
    (chosen : converter.contentType types supported = some announced) :
    announced ∈ converter.supportedMediaTypes := by
  simp only [HttpMessageConverter.contentType] at chosen
  split at chosen
  · cases chosen
    exact member
  · split at chosen
    · cases chosen
      exact List.head_mem converter.nonempty
    · cases chosen

def Writes (accept : List MediaType) (payloadClass : String)
    (converter : HttpMessageConverter MediaType) : Prop :=
  ∃ acceptType ∈ acceptOrJson types accept, converter.canWrite types payloadClass acceptType = true

theorem writes_iff_find? (converter : HttpMessageConverter MediaType) (accept : List MediaType)
    (payloadClass : String) :
    (∃ hit, ((acceptOrJson types accept).find? (converter.canWrite types payloadClass)).map
        (fun acceptType => (converter, acceptType)) = some hit) ↔
      Writes types accept payloadClass converter := by
  unfold Writes
  rw [← List.find?_isSome]
  cases (acceptOrJson types accept).find? (converter.canWrite types payloadClass) with
  | none => simp
  | some acceptType => simp

theorem writeMessage_through_iff (messageConverters : List (HttpMessageConverter MediaType))
    (accept : List MediaType) (payloadClass : String) (write : Except Unit Unit)
    (converter : HttpMessageConverter MediaType) :
    (∃ acceptType, (writeMessage types messageConverters accept payloadClass write).through =
        some (converter, acceptType)) ↔
      FirstMatch (Writes types accept payloadClass) messageConverters converter := by
  have through : ∀ result,
      (writeMessage types messageConverters accept payloadClass write).through = some result ↔
        (messageConverters.findSome? fun other =>
          ((acceptOrJson types accept).find? (other.canWrite types payloadClass)).map
            fun acceptType => (other, acceptType)) = some result := by
    intro result
    simp only [writeMessage]
    cases messageConverters.findSome? fun other =>
      ((acceptOrJson types accept).find? (other.canWrite types payloadClass)).map
        fun acceptType => (other, acceptType) with
    | none => exact Iff.rfl
    | some found =>
        cases write with
        | ok done => exact Iff.rfl
        | error thrown => exact Iff.rfl
  simp only [through, FirstMatch.findSome?_eq_some_iff, writes_iff_find?]
  constructor
  · intro given
    obtain ⟨acceptType, other, first, found⟩ := given
    obtain ⟨_, _, same⟩ := Option.map_eq_some_iff.mp found
    cases same
    exact first
  · intro first
    obtain ⟨⟨other, acceptType⟩, found⟩ :=
      (writes_iff_find? types converter accept payloadClass).mpr first.passes
    obtain ⟨_, _, same⟩ := Option.map_eq_some_iff.mp found
    cases same
    exact ⟨acceptType, converter, first, found⟩

section Subscription

variable [DecidableEq MediaType]

/-- The test of a subscription: a supported type other than the catch-all is acceptable. -/
def MediaTypes.accepts (acceptType supportedMediaType : MediaType) : Bool :=
  supportedMediaType ≠ types.all && types.isCompatibleWith supportedMediaType acceptType

/-- The outer result is whether the search stopped here, the inner one the header it set. -/
def subscribeThrough (converter : HttpMessageConverter MediaType) (accept : List MediaType) :
    Option (Option MediaType) :=
  accept.findSome? fun acceptType =>
    (converter.supportedMediaTypes.find? (types.accepts acceptType)).map
      (converter.contentType types)

def subscribe (messageConverters : List (HttpMessageConverter MediaType))
    (accept : List MediaType) : Option MediaType :=
  (messageConverters.findSome? fun converter => subscribeThrough types converter accept).join

/-- Whatever Content-Type was announced, the converter written through supports one like it. -/
def AnnouncedAsWritten (messageConverters : List (HttpMessageConverter MediaType))
    (accept : List MediaType) (payloadClass : String) : Prop :=
  ∀ announced, subscribe types messageConverters accept = some announced →
    ∀ write converter acceptType,
      (writeMessage types messageConverters accept payloadClass write).through =
          some (converter, acceptType) →
        ∃ supported ∈ converter.supportedMediaTypes,
          types.isCompatibleWith announced supported = true

/-- The converter has something to offer for one of the accept types. -/
def Offers (accept : List MediaType) (converter : HttpMessageConverter MediaType) : Prop :=
  ∃ acceptType ∈ accept, ∃ supported ∈ converter.supportedMediaTypes,
    types.accepts acceptType supported = true

/-- What the converter announces for the first accept type it has something to offer for. -/
def Announces (accept : List MediaType) (converter : HttpMessageConverter MediaType)
    (announced : MediaType) : Prop :=
  ∃ acceptType supported,
    FirstMatch (fun other => ∃ offered ∈ converter.supportedMediaTypes,
      types.accepts other offered = true) accept acceptType ∧
    FirstMatch (fun offered => types.accepts acceptType offered = true)
      converter.supportedMediaTypes supported ∧
    converter.contentType types supported = some announced

/-- The first converter with something to offer cannot write the payload class, and what it
announces is incompatible with every type of the first converter that can write it. -/
def Shadowed (messageConverters : List (HttpMessageConverter MediaType))
    (accept : List MediaType) (payloadClass : String) : Prop :=
  ∃ announcer writer announced,
    FirstMatch (Offers types accept) messageConverters announcer ∧
    announcer.supports payloadClass = false ∧
    Announces types accept announcer announced ∧
    FirstMatch (Writes types accept payloadClass) messageConverters writer ∧
    ∀ supported ∈ writer.supportedMediaTypes, types.isCompatibleWith announced supported = false

theorem announces_mem {accept : List MediaType} {converter : HttpMessageConverter MediaType}
    {announced : MediaType} (announces : Announces types accept converter announced) :
    announced ∈ converter.supportedMediaTypes := by
  obtain ⟨_, supported, _, found, chosen⟩ := announces
  exact contentType_mem types found.mem chosen

theorem stops_iff (converter : HttpMessageConverter MediaType) (acceptType : MediaType) :
    (∃ hit, (converter.supportedMediaTypes.find? (types.accepts acceptType)).map
        (converter.contentType types) = some hit) ↔
      ∃ supported ∈ converter.supportedMediaTypes, types.accepts acceptType supported = true := by
  rw [← List.find?_isSome]
  cases converter.supportedMediaTypes.find? (types.accepts acceptType) with
  | none => simp
  | some supported => simp

theorem subscribeThrough_isSome_iff (converter : HttpMessageConverter MediaType)
    (accept : List MediaType) :
    (∃ hit, subscribeThrough types converter accept = some hit) ↔
      Offers types accept converter := by
  unfold Offers subscribeThrough
  rw [← Option.isSome_iff_exists, List.findSome?_isSome_iff]
  constructor
  · intro given
    obtain ⟨acceptType, member, hits⟩ := given
    exact ⟨acceptType, member,
      (stops_iff types converter acceptType).mp (Option.isSome_iff_exists.mp hits)⟩
  · intro given
    obtain ⟨acceptType, member, offered⟩ := given
    exact ⟨acceptType, member,
      Option.isSome_iff_exists.mpr ((stops_iff types converter acceptType).mpr offered)⟩

theorem subscribeThrough_eq_iff (converter : HttpMessageConverter MediaType)
    (accept : List MediaType) (announced : MediaType) :
    subscribeThrough types converter accept = some (some announced) ↔
      Announces types accept converter announced := by
  unfold subscribeThrough Announces
  rw [FirstMatch.findSome?_eq_some_iff]
  simp only [stops_iff]
  simp only [Option.map_eq_some_iff, FirstMatch.find?_eq_some_iff]
  constructor
  · intro given
    obtain ⟨acceptType, first, supported, found, chosen⟩ := given
    exact ⟨acceptType, supported, first, found, chosen⟩
  · intro given
    obtain ⟨acceptType, supported, first, found, chosen⟩ := given
    exact ⟨acceptType, first, supported, found, chosen⟩

theorem subscribe_eq_some_iff (messageConverters : List (HttpMessageConverter MediaType))
    (accept : List MediaType) (announced : MediaType) :
    subscribe types messageConverters accept = some announced ↔
      ∃ announcer, FirstMatch (Offers types accept) messageConverters announcer ∧
        Announces types accept announcer announced := by
  unfold subscribe
  rw [Option.join_eq_some_iff, FirstMatch.findSome?_eq_some_iff]
  simp only [subscribeThrough_isSome_iff, subscribeThrough_eq_iff]

theorem all_mem_of_writes {converter : HttpMessageConverter MediaType} {accept : List MediaType}
    {payloadClass : String} (nonempty : accept ≠ [])
    (writes : Writes types accept payloadClass converter)
    (nothing : ¬Offers types accept converter) : types.all ∈ converter.supportedMediaTypes := by
  obtain ⟨acceptType, member, able⟩ := writes
  rw [acceptOrJson, if_neg (by rw [List.isEmpty_iff]; exact nonempty)] at member
  rw [HttpMessageConverter.canWrite, Bool.and_eq_true, List.any_eq_true] at able
  obtain ⟨_, supported, listed, compatible⟩ := able
  by_cases catchAll : supported = types.all
  · exact catchAll ▸ listed
  · refine absurd ⟨acceptType, member, supported, listed, ?_⟩ nothing
    rw [MediaTypes.accepts, compatible, Bool.and_true]
    exact decide_eq_true catchAll

theorem writes_of_offers {converter : HttpMessageConverter MediaType} {accept : List MediaType}
    {payloadClass : String} (offers : Offers types accept converter)
    (supports : converter.supports payloadClass = true) :
    Writes types accept payloadClass converter := by
  obtain ⟨acceptType, member, supported, listed, accepted⟩ := offers
  rw [MediaTypes.accepts, Bool.and_eq_true] at accepted
  refine ⟨acceptType, ?_, ?_⟩
  · rw [acceptOrJson, if_neg]
    · exact member
    · rw [List.isEmpty_iff]
      exact List.ne_nil_of_mem member
  · rw [HttpMessageConverter.canWrite, supports, Bool.true_and, List.any_eq_true]
    exact ⟨supported, listed, accepted.2⟩

theorem announced_as_written_iff_unshadowed
    (messageConverters : List (HttpMessageConverter MediaType)) (accept : List MediaType)
    (payloadClass : String) :
    AnnouncedAsWritten types messageConverters accept payloadClass ↔
      ¬Shadowed types messageConverters accept payloadClass := by
  constructor
  · intro consistent given
    obtain ⟨announcer, writer, announced, offers, _, announces, writes, incompatible⟩ := given
    have subscribed := (subscribe_eq_some_iff types messageConverters accept announced).mpr
      ⟨announcer, offers, announces⟩
    obtain ⟨acceptType, through⟩ := (writeMessage_through_iff types messageConverters accept
      payloadClass (.ok ()) writer).mpr writes
    obtain ⟨supported, listed, compatible⟩ := consistent announced subscribed _ _ _ through
    rw [incompatible supported listed] at compatible
    cases compatible
  · intro clear announced subscribed write writer acceptType through
    obtain ⟨announcer, offers, announces⟩ :=
      (subscribe_eq_some_iff types messageConverters accept announced).mp subscribed
    have writes := (writeMessage_through_iff types messageConverters accept payloadClass write
      writer).mp ⟨acceptType, through⟩
    have nonempty : accept ≠ [] := by
      obtain ⟨offered, member, _⟩ := offers.passes
      exact List.ne_nil_of_mem member
    rcases FirstMatch.compare offers writes with nothing | same | unable
    · exact ⟨types.all, all_mem_of_writes types nonempty writes.passes nothing,
        types.compatible_all announced⟩
    · subst same
      exact ⟨announced, announces_mem types announces, types.compatible_self announced⟩
    · have unsupported : announcer.supports payloadClass = false := by
        apply Bool.eq_false_iff.mpr
        exact fun supports => unable (writes_of_offers types offers.passes supports)
      by_contra incompatible
      refine clear ⟨announcer, writer, announced, offers, unsupported, announces, writes, ?_⟩
      intro supported listed
      apply Bool.eq_false_iff.mpr
      exact fun compatible => incompatible ⟨supported, listed, compatible⟩

/-- If the payload class can be written at all, the first converter with something to offer
supports it. -/
def OffererSupports (messageConverters : List (HttpMessageConverter MediaType))
    (accept : List MediaType) (payloadClass : String) : Prop :=
  (∃ writer ∈ messageConverters, Writes types accept payloadClass writer) →
    ∀ offerer, FirstMatch (Offers types accept) messageConverters offerer →
      offerer.supports payloadClass = true

omit [DecidableEq MediaType] in
/-- A concrete type of a converter without the class is like no type of a converter with it. -/
def Separate (messageConverters : List (HttpMessageConverter MediaType)) (payloadClass : String) :
    Prop :=
  ∀ other ∈ messageConverters, other.supports payloadClass = false →
    ∀ writer ∈ messageConverters, writer.supports payloadClass = true →
      ∀ announced ∈ other.supportedMediaTypes, types.concrete announced = true →
        ∀ supported ∈ writer.supportedMediaTypes,
          types.isCompatibleWith announced supported = false

omit [DecidableEq MediaType] in
/-- A converter with a type other than the catch-all has a concrete default. -/
def Definite (messageConverters : List (HttpMessageConverter MediaType)) : Prop :=
  ∀ converter ∈ messageConverters,
    (∃ supported ∈ converter.supportedMediaTypes, supported ≠ types.all) →
      types.concrete (converter.supportedMediaTypes.head converter.nonempty) = true

theorem announced_of_offerer {messageConverters : List (HttpMessageConverter MediaType)}
    {accept : List MediaType} {payloadClass : String}
    (offererSupports : OffererSupports types messageConverters accept payloadClass) :
    AnnouncedAsWritten types messageConverters accept payloadClass := by
  rw [announced_as_written_iff_unshadowed]
  intro given
  obtain ⟨announcer, writer, _, offers, unsupported, _, writes, _⟩ := given
  have supports := offererSupports ⟨writer, writes.mem, writes.passes⟩ announcer offers
  exact Bool.false_ne_true (unsupported.symm.trans supports)

omit [DecidableEq MediaType] in
theorem supports_of_writes {converter : HttpMessageConverter MediaType} {accept : List MediaType}
    {payloadClass : String} (writes : Writes types accept payloadClass converter) :
    converter.supports payloadClass = true := by
  obtain ⟨_, _, able⟩ := writes
  rw [HttpMessageConverter.canWrite, Bool.and_eq_true] at able
  exact able.1

omit [DecidableEq MediaType] in
theorem concrete_contentType {converter : HttpMessageConverter MediaType}
    (definite : types.concrete
      (converter.supportedMediaTypes.head converter.nonempty) = true)
    (supported : MediaType) :
    ∃ announced, converter.contentType types supported = some announced ∧
      types.concrete announced = true := by
  unfold HttpMessageConverter.contentType
  by_cases concrete : types.concrete supported = true
  · exact ⟨supported, if_pos concrete, concrete⟩
  · refine ⟨_, ?_, definite⟩
    rw [if_neg concrete]
    exact if_pos definite

/-- A converter with a concrete default announces something concrete if it offers anything. -/
theorem announces_of_offers {converter : HttpMessageConverter MediaType} {accept : List MediaType}
    (offers : Offers types accept converter)
    (definite : (∃ supported ∈ converter.supportedMediaTypes, supported ≠ types.all) →
      types.concrete (converter.supportedMediaTypes.head converter.nonempty) = true) :
    ∃ announced, Announces types accept converter announced ∧
      types.concrete announced = true := by
  obtain ⟨hit, stops⟩ := (subscribeThrough_isSome_iff types converter accept).mpr offers
  have found := stops
  unfold subscribeThrough at found
  rw [FirstMatch.findSome?_eq_some_iff] at found
  obtain ⟨acceptType, _, offered⟩ := found
  obtain ⟨supported, first, same⟩ := Option.map_eq_some_iff.mp offered
  have member := List.mem_of_find?_eq_some first
  have accepted := List.find?_some first
  rw [MediaTypes.accepts, Bool.and_eq_true] at accepted
  have default := definite ⟨supported, member, of_decide_eq_true accepted.1⟩
  obtain ⟨announced, chosen, concrete⟩ := concrete_contentType types default supported
  refine ⟨announced, ?_, concrete⟩
  rw [← subscribeThrough_eq_iff, stops, ← same, chosen]

theorem offerer_of_announced {messageConverters : List (HttpMessageConverter MediaType)}
    {accept : List MediaType} {payloadClass : String}
    (separate : Separate types messageConverters payloadClass)
    (definite : Definite types messageConverters)
    (consistent : AnnouncedAsWritten types messageConverters accept payloadClass) :
    OffererSupports types messageConverters accept payloadClass := by
  intro written offerer offers
  by_contra without
  have unsupported := Bool.eq_false_iff.mpr without
  obtain ⟨candidate, listed, able⟩ := written
  obtain ⟨writer, writes⟩ := FirstMatch.exists_of_mem listed able
  obtain ⟨announced, announces, concrete⟩ :=
    announces_of_offers types offers.passes (definite offerer offers.mem)
  apply (announced_as_written_iff_unshadowed types messageConverters accept payloadClass).mp
    consistent
  exact ⟨offerer, writer, announced, offers, unsupported, announces, writes,
    separate offerer offers.mem unsupported writer writes.mem
      (supports_of_writes types writes.passes) announced (announces_mem types announces) concrete⟩

/-- The announced type is one of the writing converter's whenever the first converter with
something to offer supports the class; and where types tell apart which converters have the class,
only then. -/
theorem announced_as_written_when_offerer_supports
    (messageConverters : List (HttpMessageConverter MediaType)) (accept : List MediaType)
    (payloadClass : String) :
    (OffererSupports types messageConverters accept payloadClass →
        AnnouncedAsWritten types messageConverters accept payloadClass) ∧
      (Separate types messageConverters payloadClass → Definite types messageConverters →
        AnnouncedAsWritten types messageConverters accept payloadClass →
          OffererSupports types messageConverters accept payloadClass) :=
  ⟨announced_of_offerer types, offerer_of_announced types⟩

end Subscription

structure MimeType where
  type : String
  subtype : String
  deriving DecidableEq

/-- Spring's media types, short of its rule for subtypes that share a suffix. -/
def springMediaTypes : MediaTypes MimeType where
  all := ⟨"*", "*"⟩
  applicationJson := ⟨"application", "json"⟩
  isCompatibleWith mine other :=
    mine.type = "*" || other.type = "*" || (mine.type = other.type &&
      (mine.subtype = other.subtype || mine.subtype = "*" || other.subtype = "*"))
  isWildcardType mediaType := mediaType.type = "*"
  isWildcardSubtype mediaType := mediaType.subtype = "*"
  print mediaType := mediaType.type ++ "/" ++ mediaType.subtype
  compatible_self mediaType := by simp
  compatible_all mediaType := by simp

structure PayloadClasses where
  isAssignableTo : String → String → Bool
  jacksonSerializes : String → Bool
  isXmlRootElement : String → Bool

/-- The list that `HttpMessageMapper` builds; two of its converters need a library. -/
def HttpMessageMapper.messageConverters (classes : PayloadClasses)
    (jacksonPresent jaxb2Present : Bool) : List (HttpMessageConverter MimeType) :=
  let xml : List MimeType := [⟨"application", "xml"⟩, ⟨"text", "xml"⟩, ⟨"application", "*+xml"⟩]
  let multipartAwareForm : HttpMessageConverter MimeType :=
    { supportedMediaTypes :=
        [⟨"application", "x-www-form-urlencoded"⟩, ⟨"multipart", "form-data"⟩]
      nonempty := List.cons_ne_nil _ _
      supports := fun type => classes.isAssignableTo type "org.springframework.util.MultiValueMap" }
  let serializing : HttpMessageConverter MimeType :=
    { supportedMediaTypes := [⟨"application", "x-java-serialized-object"⟩]
      nonempty := List.cons_ne_nil _ _
      supports := fun type => classes.isAssignableTo type "java.io.Serializable" }
  let mappingJackson : HttpMessageConverter MimeType :=
    { supportedMediaTypes := [⟨"application", "json"⟩]
      nonempty := List.cons_ne_nil _ _
      supports := classes.jacksonSerializes }
  let byteArray : HttpMessageConverter MimeType :=
    { supportedMediaTypes := [⟨"application", "octet-stream"⟩, ⟨"*", "*"⟩]
      nonempty := List.cons_ne_nil _ _
      supports := fun type => type = "[B" }
  let string : HttpMessageConverter MimeType :=
    { supportedMediaTypes := [⟨"text", "plain"⟩, ⟨"*", "*"⟩]
      nonempty := List.cons_ne_nil _ _
      supports := fun type => type = "java.lang.String" }
  let resource : HttpMessageConverter MimeType :=
    { supportedMediaTypes := [⟨"*", "*"⟩]
      nonempty := List.cons_ne_nil _ _
      supports := fun type => classes.isAssignableTo type "org.springframework.core.io.Resource" }
  let source : HttpMessageConverter MimeType :=
    { supportedMediaTypes := xml
      nonempty := List.cons_ne_nil _ _
      supports := fun type => classes.isAssignableTo type "javax.xml.transform.Source" }
  let jaxb2RootElement : HttpMessageConverter MimeType :=
    { supportedMediaTypes := xml
      nonempty := List.cons_ne_nil _ _
      supports := classes.isXmlRootElement }
  [multipartAwareForm, serializing] ++ (if jacksonPresent then [mappingJackson] else []) ++
    [byteArray, string, resource, source] ++ (if jaxb2Present then [jaxb2RootElement] else [])

def listClasses : PayloadClasses where
  isAssignableTo type target := type = "java.util.ArrayList" && target = "java.io.Serializable"
  jacksonSerializes type := type = "java.util.ArrayList"
  isXmlRootElement _ := false

theorem separate_messageConverters (jacksonPresent jaxb2Present : Bool) :
    Separate springMediaTypes
      (HttpMessageMapper.messageConverters listClasses jacksonPresent jaxb2Present)
      "java.util.ArrayList" := by
  unfold Separate
  cases jacksonPresent <;> cases jaxb2Present <;> decide

theorem definite_messageConverters (jacksonPresent jaxb2Present : Bool) :
    Definite springMediaTypes
      (HttpMessageMapper.messageConverters listClasses jacksonPresent jaxb2Present) := by
  unfold Definite
  cases jacksonPresent <;> cases jaxb2Present <;> decide

/-- For a merged payload and the list that `HttpMessageMapper` builds, the condition is exact,
whatever the client accepts. -/
theorem mapper_announced_as_written_iff (jacksonPresent jaxb2Present : Bool)
    (accept : List MimeType) :
    AnnouncedAsWritten springMediaTypes
        (HttpMessageMapper.messageConverters listClasses jacksonPresent jaxb2Present) accept
        "java.util.ArrayList" ↔
      OffererSupports springMediaTypes
        (HttpMessageMapper.messageConverters listClasses jacksonPresent jaxb2Present) accept
        "java.util.ArrayList" :=
  ⟨offerer_of_announced springMediaTypes (separate_messageConverters _ _)
    (definite_messageConverters _ _), announced_of_offerer springMediaTypes⟩

/-- Only the Jackson converter offers a client that accepts JSON alone anything. -/
theorem json_announced_as_written :
    AnnouncedAsWritten springMediaTypes (HttpMessageMapper.messageConverters listClasses true true)
      [⟨"application", "json"⟩] "java.util.ArrayList" := by
  apply (announced_as_written_when_offerer_supports springMediaTypes _ _ _).1
  have offerers : ∀ offerer ∈ HttpMessageMapper.messageConverters listClasses true true,
      Offers springMediaTypes [⟨"application", "json"⟩] offerer →
        offerer.supports "java.util.ArrayList" = true := by
    unfold Offers
    decide
  intro _ offerer offers
  exact offerers offerer offers.mem offers.passes

/-- Where types do not tell the converters apart, the first may announce by chance what the second
writes. -/
example :
    let xml : (String → Bool) → HttpMessageConverter MimeType := fun supports =>
      { supportedMediaTypes := [⟨"application", "xml"⟩]
        nonempty := List.cons_ne_nil _ _
        supports := supports }
    let messageConverters := [xml fun _ => false, xml fun _ => true]
    AnnouncedAsWritten springMediaTypes messageConverters [⟨"application", "xml"⟩] "Order" ∧
      ¬OffererSupports springMediaTypes messageConverters [⟨"application", "xml"⟩] "Order" := by
  intro xml messageConverters
  constructor
  · intro announced subscribed write converter acceptType through
    have told : subscribe springMediaTypes messageConverters [⟨"application", "xml"⟩] =
        some ⟨"application", "xml"⟩ := by decide
    cases told.symm.trans subscribed
    have writes := (writeMessage_through_iff springMediaTypes messageConverters
      [⟨"application", "xml"⟩] "Order" write converter).mp ⟨acceptType, through⟩
    have same : converter.supportedMediaTypes = [⟨"application", "xml"⟩] := by
      rcases List.mem_cons.mp writes.mem with first | second
      · rw [first]
      · rw [List.mem_singleton.mp second]
    rw [same]
    exact ⟨_, List.mem_singleton_self _, by decide⟩
  · intro supports
    have writable : Writes springMediaTypes [⟨"application", "xml"⟩] "Order"
        (xml fun _ => true) := by
      unfold Writes
      decide
    have offers : Offers springMediaTypes [⟨"application", "xml"⟩] (xml fun _ => false) := by
      unfold Offers
      decide
    exact Bool.false_ne_true (supports ⟨_, List.mem_cons_of_mem _ List.mem_cons_self, writable⟩
      (xml fun _ => false) ⟨offers, [], _, rfl, nofun⟩)

/-- A client that accepts anything is told that a form will follow, and receives a
serialized Java object. -/
theorem form_announced_object_written :
    ¬AnnouncedAsWritten springMediaTypes (HttpMessageMapper.messageConverters listClasses true true)
      [⟨"*", "*"⟩] "java.util.ArrayList" := by
  intro consistent
  have announced : subscribe springMediaTypes
      (HttpMessageMapper.messageConverters listClasses true true) [⟨"*", "*"⟩] =
        some ⟨"application", "x-www-form-urlencoded"⟩ := by decide
  obtain ⟨supported, listed, compatible⟩ := consistent _ announced (.ok ()) _ _ rfl
  change supported ∈ [(⟨"application", "x-java-serialized-object"⟩ : MimeType)] at listed
  rw [List.mem_singleton] at listed
  subst listed
  revert compatible
  decide

end SpringExamples.Comet
