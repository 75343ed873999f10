import StoreGate.Http.Client
import StoreGate.Proofs.RecordedCalls
/-!
# What is sent to fetch something from an address

A draft for an address of the web with a host is sent as one request: it has no user information in
its address, which becomes a header, and the client adds the headers that every request has.  What
redirects ask for is sent behind it.  No other draft is sent at all.
-/

namespace StoreGate

namespace Http

/-- Whether a header can be sent: its name is a token, and its value may be one. -/
structure IsSendable (header : String × String) : Prop where
  name : (headerName? header.1).isSome
  value : isHeaderValue header.2 = true

instance : DecidablePred IsSendable := fun header =>
  decidable_of_iff ((headerName? header.1).isSome ∧ isHeaderValue header.2 = true)
    ⟨fun sendable => ⟨sendable.1, sendable.2⟩, fun sendable => ⟨sendable.name, sendable.value⟩⟩

/-- A header as it is sent, with its name in lower case. -/
def lowered (header : String × String) : String × String :=
  (String.ofList (header.1.toList.map Char.toLower), header.2)

/-- Whether something can be fetched from an address: it is one of the web and has a host. -/
structure IsFetchable (url : Url) : Prop where
  host : url.host.isSome
  web : url.scheme = "http" ∨ url.scheme = "https"

/-- The address that is asked for in a request, which has no user information. -/
def bare (url : Url) : Url :=
  { url with username := "", password := none }

/-- The user information of an address, as it is sent. -/
def authorization (url : Url) : Headers :=
  if url.username.isEmpty && url.password.isNone then []
  else
    let decoded (text : String) : String := Utf8.decodeLossy (PercentEncoding.decode text)
    [("authorization", basicCredential (decoded url.username) (decoded (url.password.getD "")))]

/-- The request for an address with some headers.  A client adds those that every request has. -/
def getRequest (agent : String) (url : Url) (added : Headers) : Request :=
  let headers := authorization url ++ added
  let usual := [("accept", "*/*"), ("user-agent", agent), ("host", url.hostText)]
  ⟨"GET", bare url, usual.filter (fun header => (headers.lookup header.1).isNone) ++ headers, []⟩

theorem make_of_host {url : Url} {method address : String} (parsed : Url.parse address = .ok url)
    (hosted : url.host.isSome) :
    Draft.make method address = .ok ⟨method, bare url, authorization url, []⟩ := by
  have notNone : url.host.isNone = false := by simpa using hosted
  simp only [Draft.make, parsed, notNone, Bool.false_eq_true, if_false, authorization]
  split <;> rfl

theorem bearer_of_value {token : String} (isValue : isHeaderValue ("Bearer " ++ token) = true)
    (request : Request) : Draft.bearer (.ok request) token =
      .ok (Draft.addHeader "authorization" ("Bearer " ++ token) request) := by
  change (if isHeaderValue ("Bearer " ++ token) = true then _ else _) = _
  rw [if_pos isValue]
  rfl

namespace Client

variable {World : Type} (client : Client World)

theorem send_of_web {request : Request}
    (web : request.url.scheme = "http" ∨ request.url.scheme = "https") :
    client.send (.ok request) =
      client.sendWithin redirectLimit
        { request with
          headers := [("accept", "*/*"), ("user-agent", client.userAgent),
              ("host", request.url.hostText)].filter (fun header =>
                (request.headers.lookup header.1).isNone) ++ request.headers } := by
  have reachable : ¬ (request.url.scheme ≠ "http" ∧ request.url.scheme ≠ "https") :=
    fun foreign => web.elim foreign.1 foreign.2
  simp only [send, reachable, if_false]

/-- The client with a record of what it sends. -/
def logged : Client (Recorded World Request) :=
  { client with network := fun request state =>
      let (response, world) := client.network request state.1
      (response, (world, state.2 ++ [request])) }

/-- Once a request is sent, sending is over, or goes on with what a redirect asks for. -/
theorem sent_or_redirected (redirects : Nat) (request : Request)
    (state : Recorded World Request) :
    ((client.logged.sendWithin redirects request).run state).2.2 = state.2 ++ [request] ∨
      ∃ fewer next world, redirects = fewer + 1 ∧
        (client.logged.sendWithin redirects request).run state =
          (client.logged.sendWithin fewer next).run (world, state.2 ++ [request]) := by
  have ran : (client.logged.network request).run state = pure
      ((client.network request state.1).1,
        ((client.network request state.1).2, state.2 ++ [request])) :=
    rfl
  rw [sendWithin, StateT.run_bind, ran, pure_bind]
  cases (client.network request state.1).1 with
  | none => exact .inl rfl
  | some response =>
      dsimp only
      split
      · exact .inl rfl
      · exact .inl rfl
      · split
        · exact .inl rfl
        · exact .inr ⟨_, _, _, rfl, rfl⟩

/-- A request is sent before those that redirects ask for. -/
theorem sent_sendWithin (redirects : Nat) (request : Request) (state : Recorded World Request) :
    ∃ later, ((client.logged.sendWithin redirects request).run state).2.2 =
      state.2 ++ request :: later := by
  induction redirects generalizing request state with
  | zero =>
      obtain ended | ⟨fewer, _, _, noMore, _⟩ := client.sent_or_redirected 0 request state
      · exact ⟨[], ended⟩
      · cases noMore
  | succ redirects ih =>
      obtain ended | ⟨fewer, next, world, isLess, goesOn⟩ :=
        client.sent_or_redirected (redirects + 1) request state
      · exact ⟨[], ended⟩
      · cases isLess
        obtain ⟨later, sent⟩ := ih next (world, state.2 ++ [request])
        exact ⟨next :: later, by rw [goesOn, sent, List.append_assoc, List.singleton_append]⟩

/-- A call does nothing to the world but to send what was drafted. -/
theorem world_call {α : Type} (store : Store) (purpose : String) (read : Json → Option α)
    (draft : Draft) (world : World) :
    ((call client store purpose read draft).runOn world).2 =
      ((client.send draft).run world).2 := by
  unfold call
  rw [Action.runOn_bind]
  have ran : Action.runOn (liftM (client.send draft)) world =
      (.ok ((client.send draft).run world).1, ((client.send draft).run world).2) := rfl
  rw [ran]
  dsimp only
  split
  · rfl
  · repeat' split
    all_goals rfl

/-- The first request of a call is the one that was drafted, with the headers of every request. -/
theorem call_sends {α : Type} (store : Store) (purpose : String) (read : Json → Option α)
    {request : Request} (web : request.url.scheme = "http" ∨ request.url.scheme = "https")
    (world : World) :
    ∃ later, ((call client.logged store purpose read (.ok request)).runOn (world, [])).2.2 =
      { request with
        headers := [("accept", "*/*"), ("user-agent", client.userAgent),
            ("host", request.url.hostText)].filter (fun header =>
              (request.headers.lookup header.1).isNone) ++ request.headers } :: later := by
  rw [world_call, send_of_web _ web]
  exact client.sent_sendWithin redirectLimit _ (world, [])

end Client

end Http

end StoreGate
