import StoreGate.Proofs.Http.Fetching
import StoreGate.Proofs.Proxy.LinkRoutes
import StoreGate.Proofs.Proxy.Rejections
/-!
# How the link of an issued token is served

A link without headers that is reached directly is handed on as the location of a redirect, and any
other link is fetched with its headers and the range that the client wants.  Not all that creation
accepts can be sent, since it looks for line breaks and colons alone: a link that is no value of a
header is not handed on, and nothing is sent if one of the headers cannot be.
-/

namespace StoreGate

namespace Gateway

variable {World : Type}

section Fetching

/-- What is wrong with a header that cannot be sent: its name, or else its value. -/
def headerFault (header : String × String) : String :=
  match Http.headerName? header.1 with
  | none => "invalid proxy header: " ++ header.1
  | some name => "invalid value for proxy header: " ++ name

/-- An answer that tells of a failure. -/
def refusal (status : Nat) (message : String) : Http.Response :=
  .withLength (.ofJson status (.object [("error", .string message)]))

/-- What a client is sent when a host has answered, or could not be asked. -/
def relayed : Except Http.Fault (Http.Response × Url) → Http.Response
  | .error fault => refusal 502 ("Network error: Upstream request failed: " ++ fault.message)
  | .ok (response, _) => forward response

/-- The headers with which a link is fetched. -/
def addedHeaders (link : ResolvedLink) (range : Option String) : Http.Headers :=
  link.headers.entries.map Http.lowered ++ range.toList.map fun value => ("range", value)

/-- The client that fetches a link. -/
def clientOf (relay : Relay World) (link : ResolvedLink) : Http.Client World :=
  relay.client (link.tunnel.getD .direct)

/-- The request with which a link is fetched from its address. -/
def requestOf (relay : Relay World) (link : ResolvedLink) (range : Option String) (url : Url) :
    Http.Request :=
  Http.getRequest (clientOf relay link).userAgent url (addedHeaders link range)

end Fetching

section Serving

/-- How a link is served, case by case, to a client that may want a range of it. -/
structure IsServed (relay : Relay World) (link : ResolvedLink) (range : Option String)
    (answer : StateM World Http.Response) : Prop where
  /-- The client is sent to a link that is reached directly and needs no headers. -/
  redirected : isRedirected link = true → Http.isHeaderValue link.link = true →
    answer = pure ⟨302, [("location", link.link), ("content-length", "0")], []⟩
  notLocation : isRedirected link = true → Http.isHeaderValue link.link = false →
    answer = pure (refusal 400 "Invalid link: proxy link target is not a valid location")
  /-- Any other link is fetched with its headers, and what is answered is passed on. -/
  fetched : isRedirected link = false →
    (∀ header ∈ link.headers.entries, Http.IsSendable header) →
    ∀ url, Url.parse link.link = .ok url → Http.IsFetchable url →
      answer = relayed <$> (clientOf relay link).sendWithin Http.redirectLimit
        (requestOf relay link range url)
  /-- That link is asked for before anything else happens. -/
  attempted : isRedirected link = false →
    (∀ header ∈ link.headers.entries, Http.IsSendable header) →
    ∀ url, Url.parse link.link = .ok url → Http.IsFetchable url →
      ∃ rest, answer = (clientOf relay link).network (requestOf relay link range url) >>= rest
  unreachable : isRedirected link = false →
    (∀ header ∈ link.headers.entries, Http.IsSendable header) →
    (∀ url, Url.parse link.link = .ok url → ¬ Http.IsFetchable url) →
      ∃ url, answer = pure (relayed (.error (.building url)))
  /-- Nothing is sent if one of the headers cannot be; the first of them is named. -/
  notSendable : isRedirected link = false → ∀ before header after,
    link.headers.entries = before ++ header :: after →
    (∀ earlier ∈ before, Http.IsSendable earlier) → ¬ Http.IsSendable header →
      answer = pure (refusal 400 ("Invalid link: " ++ headerFault header))

section Redeeming

variable {relay : Relay World} {credentials : Credentials} {now : Nat} {token : String}
  {link : ResolvedLink}

end Redeeming

variable {issuedAt now : Nat} {nonce : Nonce} {request : LinkRequest} {token : String}

/-- Whether a link can be served: as the location of a redirect, or else with all its headers. -/
def IsServable (link : ResolvedLink) : Prop :=
  if isRedirected link then Http.isHeaderValue link.link = true
  else ∀ header ∈ link.headers.entries, Http.IsSendable header

theorem IsServed.refused {relay : Relay World} {link : ResolvedLink} {range : Option String}
    {answer : StateM World Http.Response} (served : IsServed relay link range answer)
    (notServable : ¬ IsServable link) : ∃ reason, answer = pure (refusal 400 reason) := by
  unfold IsServable at notServable
  cases direct : isRedirected link with
  | true =>
      rw [if_pos direct, Bool.not_eq_true] at notServable
      exact ⟨_, served.notLocation direct notServable⟩
  | false =>
      rw [if_neg (by simp [direct])] at notServable
      push Not at notServable
      obtain ⟨other, member, faulty⟩ := notServable
      have someFaulty : (link.headers.entries.find? fun header =>
          decide (¬ Http.IsSendable header)).isSome :=
        List.find?_isSome.mpr ⟨other, member, by simpa using faulty⟩
      obtain ⟨header, first⟩ := Option.isSome_iff_exists.mp someFaulty
      obtain ⟨isFaulty, before, after, areHeaders, earlier⟩ :=
        List.find?_eq_some_iff_append.mp first
      have allBefore : ∀ other ∈ before, Http.IsSendable other := fun other member => by
        simpa using earlier other member
      exact ⟨_, served.notSendable direct before header after areHeaders allBefore
        (by simpa using isFaulty)⟩

end Serving

end Gateway

end StoreGate
