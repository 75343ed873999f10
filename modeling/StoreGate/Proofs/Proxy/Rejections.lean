import StoreGate.Gateway.Server
import StoreGate.Proofs.Proxy.SignatureSpelling
/-!
# Rejections tell nothing of a secret

A token is authentic under a table if it shows the secret that the table has for its user.  A token
that is authentic under neither of two tables with the same users is refused with the same failure
under both, and the gateways of the two tables give the same answer.  Whatever is checked before the
secret is compared sees the token and the users alone, and nothing is checked behind a comparison
that fails.
-/

namespace StoreGate

/-- Two outcomes that are the same failure. -/
def RefusedAlike {ε α : Type} (one other : Except ε α) : Prop :=
  ∃ fault, one = .error fault ∧ other = .error fault

namespace RefusedAlike

variable {ε ε' α β : Type} {one other : Except ε α}

theorem of_fault (fault : ε) : RefusedAlike (.error fault : Except ε α) (.error fault) :=
  ⟨fault, rfl, rfl⟩

/-- Behind a common step, two outcomes are refused alike if they are so for what it gives. -/
theorem bind {first : Except ε α} {next otherNext : α → Except ε β}
    (later : ∀ value, first = .ok value → RefusedAlike (next value) (otherNext value)) :
    RefusedAlike (first >>= next) (first >>= otherNext) := by
  cases first with
  | ok value => exact later value rfl
  | error fault => exact of_fault fault

/-- Nothing is reached behind a refusal. -/
theorem bind_of_alike (alike : RefusedAlike one other) (next otherNext : α → Except ε β) :
    RefusedAlike (one >>= next) (other >>= otherNext) := by
  obtain ⟨fault, rfl, rfl⟩ := alike
  exact of_fault fault

theorem mapError (alike : RefusedAlike one other) (rename : ε → ε') :
    RefusedAlike (one.mapError rename) (other.mapError rename) := by
  obtain ⟨fault, rfl, rfl⟩ := alike
  exact of_fault (rename fault)

end RefusedAlike

namespace Credentials

/-- Whether a user is known can be told from the list of users. -/
theorem secret?_isSome_iff {credentials : Credentials} {user : String} :
    (credentials.secret? user).isSome ↔ user ∈ credentials.names := by
  rw [secret?, TextMap.get?, List.lookup_isSome_iff, names, TextMap.keys, List.mem_map]
  exact exists_congr fun entry => and_congr_right fun _ => beq_iff_eq.trans eq_comm

end Credentials

namespace SignedToken

variable {α : Type}

/-- The code that a secret gives for the content of a token, as its signature is written. -/
def signatureOf (secret : String) (token : Parts) : List Char :=
  Base64Url.encodeBytes
    (Crypto.Sha256.authenticate (Utf8.encode secret) (signedBytes token.header token.claims))

/-- Under all secrets that do not give its signature, a token is refused for the same fault. -/
theorem verify_alike {read : Json → Option α} {issuer secret other : String} {now : Nat}
    {token : Parts} (foreign : token.signature ≠ signatureOf secret token)
    (alsoForeign : token.signature ≠ signatureOf other token) :
    RefusedAlike (verify read issuer secret now token) (verify read issuer other now token) := by
  have differs : ∀ key code, token.signature ≠ signatureOf key token →
      decodePart token.signature = .ok code →
      code ≠ Crypto.Sha256.authenticate (Utf8.encode key)
        (signedBytes token.header token.claims) := by
    rintro key code isForeign decoded rfl
    exact isForeign (decodePart_eq_ok_iff.mp decoded)
  refine .bind fun header _ => .bind fun named _ => ?_
  by_cases isNamed : named = algorithm
  · simp only [ne_eq, isNamed, not_true_eq_false, if_false]
    refine .bind fun code decoded => ?_
    simp only [differs _ _ foreign decoded, differs _ _ alsoForeign decoded, not_false_eq_true,
      if_true]
    exact .of_fault _
  · simp only [ne_eq, isNamed, not_false_eq_true, if_true]
    exact .of_fault _

end SignedToken

namespace ProxyToken

open SignedToken

/-- Whether a token shows the secret that a table has for its user: an unsigned token holds it, and
a signed token carries the code that it gives. -/
inductive IsAuthentic (credentials : Credentials) (token : String) : Prop
  | unsigned (bytes : List UInt8) (document : Json) (payload : Payload) (user secret : String)
      (isToken : token = unsignedMark ++ Base64Url.encode bytes)
      (parsed : Json.parse? bytes = some document)
      (readable : Payload.ofJson? document = some payload)
      (divided : Text.splitTextAt? ':' payload.credential = some (user, secret))
      (known : credentials.secret? user = some secret)
  | signed (parts : Parts) (user secret : String)
      (isSigned : Text.afterText? unsignedMark token = none) (divided : parts? token = some parts)
      (isUser : subject? parts = some user) (known : credentials.secret? user = some secret)
      (isSignature : parts.signature = signatureOf secret parts)

variable {first second : Credentials}

theorem resolveUnsigned_alike {encoded : String}
    (strange : ¬ IsAuthentic first (unsignedMark ++ encoded))
    (alsoStrange : ¬ IsAuthentic second (unsignedMark ++ encoded)) :
    RefusedAlike (resolveUnsigned first encoded) (resolveUnsigned second encoded) := by
  refine .bind fun bytes decoded => .bind fun payload read => .bind fun (user, secret) divided => ?_
  rw [orFail_eq_ok_iff] at decoded read divided
  obtain rfl := Base64Url.decode?_eq_some_iff.mp decoded
  obtain ⟨document, parsed, readable⟩ := Option.bind_eq_some_iff.mp read
  have isOther : ∀ credentials : Credentials,
      ¬ IsAuthentic credentials (unsignedMark ++ Base64Url.encode bytes) →
        credentials.verify user secret = false := by
    intro credentials isStrange
    rw [← Bool.not_eq_true, credentials.verify_iff]
    exact fun known =>
      isStrange (.unsigned bytes document payload user secret rfl parsed readable divided known)
  simp only [isOther first strange, isOther second alsoStrange, Bool.not_false, if_true]
  exact .of_fault _

/-- The secret of a user is found under both tables or under neither. -/
theorem secrets_alike (sameUsers : first.names = second.names) (user : String) :
    RefusedAlike (orFail (.unauthorized ("unknown proxy user: " ++ user)) (first.secret? user))
        (orFail (.unauthorized ("unknown proxy user: " ++ user)) (second.secret? user)) ∨
      ∃ secret other, first.secret? user = some secret ∧ second.secret? user = some other := by
  have sameKnown : (first.secret? user).isSome ↔ (second.secret? user).isSome := by
    rw [Credentials.secret?_isSome_iff, Credentials.secret?_isSome_iff, sameUsers]
  cases known : first.secret? user with
  | some secret =>
      rw [known] at sameKnown
      obtain ⟨other, alsoKnown⟩ := Option.isSome_iff_exists.mp (sameKnown.mp rfl)
      exact .inr ⟨secret, other, rfl, alsoKnown⟩
  | none =>
      rw [known] at sameKnown
      have unknown := Option.not_isSome_iff_eq_none.mp (mt sameKnown.mpr nofun)
      rw [unknown]
      exact .inl (.of_fault _)

theorem resolveSigned_alike (sameUsers : first.names = second.names) {token : String}
    (isSigned : Text.afterText? unsignedMark token = none) (strange : ¬ IsAuthentic first token)
    (alsoStrange : ¬ IsAuthentic second token) (now : Nat) :
    RefusedAlike (resolveSigned now first token) (resolveSigned now second token) := by
  refine .bind fun parts divided => .bind fun user isUser => ?_
  rw [orFail_eq_ok_iff] at divided isUser
  rcases secrets_alike sameUsers user with unknown | ⟨secret, other, known, alsoKnown⟩
  · exact unknown.bind_of_alike _ _
  · rw [known, alsoKnown]
    refine .bind_of_alike (.mapError (verify_alike ?_ ?_) _) _ _
    · exact fun isSignature =>
        strange (.signed parts user secret isSigned divided isUser known isSignature)
    · exact fun isSignature =>
        alsoStrange (.signed parts user other isSigned divided isUser alsoKnown isSignature)

theorem resolve_alike (sameUsers : first.names = second.names) {token : String}
    (strange : ¬ IsAuthentic first token) (alsoStrange : ¬ IsAuthentic second token) (now : Nat) :
    RefusedAlike (resolve now first token) (resolve now second token) := by
  unfold resolve
  split
  · rename_i encoded marked
    obtain rfl := Text.afterText?_eq_some_iff.mp marked
    exact resolveUnsigned_alike strange alsoStrange
  · rename_i isSigned
    exact resolveSigned_alike sameUsers isSigned strange alsoStrange now

/-- An unsigned token is authentic exactly if it was issued with the secret that its user has. -/
theorem isAuthentic_issued_iff {credentials : Credentials} {request : LinkRequest}
    (valid : request.IsValid) :
    IsAuthentic credentials
        (unsignedMark ++ Base64Url.encode (Utf8.encode (payloadOf request).toJson.text)) ↔
      credentials.secret? request.user = some request.secret := by
  have parsed := Json.parse?_text (Payload.isExact_toJson (payloadOf request))
  have divided : Text.splitTextAt? ':' (payloadOf request).credential =
      some (request.user, request.secret) :=
    Text.splitTextAt?_eq_some_iff.mpr ⟨valid.userUndivided, rfl⟩
  constructor
  · intro authentic
    cases authentic with
    | unsigned bytes document payload user secret isToken isDocument readable isDivided known =>
        have sameBytes := Base64Url.encode_injective ((String.append_right_inj _).mp isToken)
        rw [← sameBytes, parsed] at isDocument
        cases isDocument
        rw [Payload.ofJson?_toJson] at readable
        cases readable
        rw [divided] at isDivided
        cases isDivided
        exact known
    | signed parts user secret isSigned =>
        rw [Text.afterText?_eq_some_iff.mpr rfl] at isSigned
        cases isSigned
  · exact fun known => .unsigned _ _ _ _ _ rfl parsed (Payload.ofJson?_toJson _) divided known

/-- A token whose signature is no base64 text is not authentic. -/
theorem not_isAuthentic_of_padded {credentials : Credentials} {header claims : String}
    (isSigned : Text.afterText? unsignedMark (joined header claims "=") = none) :
    ¬ IsAuthentic credentials (joined header claims "=") := by
  intro authentic
  cases authentic with
  | unsigned bytes document payload user secret isToken =>
      rw [Text.afterText?_eq_some_iff.mpr isToken] at isSigned
      cases isSigned
  | signed parts user secret _ divided _ _ isSignature =>
      rw [parts_of_joined divided] at isSignature
      dsimp only at isSignature
      have foreign : Base64Url.value? '=' = none := by decide
      have padded : '=' ∈ "=".toList := by decide
      exact Base64Url.not_mem_encodeBytes foreign _ (isSignature ▸ padded)

end ProxyToken

namespace Gateway

open ProxyToken SignedToken

variable {World Other : Type} {gateway : Gateway World} {now : Nat} {request : Request}
  {raw token : String} {filename : Option String}

/-- What a client is sent for an outcome. -/
def responseOf : Outcome Http.Response → Http.Response
  | .ok response => response
  | .error failure => failure.response.withLength

/-- Under a method of all routes, a request for a token is answered with what redeeming it gives. -/
theorem answer_of_token (asked : Route.ofTarget? request.target = some (.link raw filename))
    (decoded : decodeLink raw filename = .ok token)
    (common : methods.contains request.method = true) :
    gateway.answer now request = (fun outcome =>
      if request.method = "HEAD" then { responseOf outcome with body := [] }
      else responseOf outcome) <$>
        redeem gateway.relay gateway.credentials now token request.range := by
  simp only [answer, asked, common, Bool.not_true, Bool.false_eq_true, if_false, answerRoute,
    decoded]
  rw [map_eq_pure_bind]
  refine (bind_assoc _ _ _).trans (congrArg _ (funext fun outcome => ?_))
  cases outcome <;> rfl

theorem redeem_of_refused {failure : Failure} {relay : Relay World} {credentials : Credentials}
    (refused : resolve now credentials token = .error failure) (range : Option String) :
    redeem relay credentials now token range = pure (.error failure) := by
  rw [redeem, refused]

/-- Two gateways give the same answer to every request for a token, and ask nobody.  A client that
gets it is sent the failure. -/
def AnswerAlike (now : Nat) (token : String) (failure : Failure) (one : Gateway World)
    (other : Gateway Other) : Prop :=
  ∀ (request : Request) (raw : String) (filename : Option String),
    Route.ofTarget? request.target = some (.link raw filename) →
    decodeLink raw filename = .ok token →
    ∃ response, one.answer now request = pure response ∧ other.answer now request = pure response ∧
      (request.method = "GET" → response = failure.response.withLength)

theorem answerAlike_of_refused {one : Gateway World} {other : Gateway Other} {failure : Failure}
    (refused : resolve now one.credentials token = .error failure)
    (alsoRefused : resolve now other.credentials token = .error failure) :
    AnswerAlike now token failure one other := by
  intro request raw filename asked decoded
  by_cases common : methods.contains request.method = true
  · rw [answer_of_token asked decoded common, answer_of_token asked decoded common,
      redeem_of_refused refused, redeem_of_refused alsoRefused, map_pure, map_pure]
    refine ⟨_, rfl, rfl, fun isGet => ?_⟩
    rw [isGet]
    rfl
  · have answered : ∀ {World : Type} (gateway : Gateway World), gateway.answer now request =
        pure (Http.Response.withLength ⟨405, [("allow", ",".intercalate methods)], []⟩) := by
      intro World gateway
      simp only [answer, asked, common, Bool.not_false, if_true]
    refine ⟨_, answered one, answered other, fun isGet => ?_⟩
    rw [isGet] at common
    exact absurd rfl common

/-- A token that shows the secret of its user under neither of two tables with the same users is
refused with one failure under both, at any time, and the gateways of the tables give the same
answer to every request for it. -/
theorem rejections_alike (now : Nat) (first second : Credentials) (token : String)
    (sameUsers : first.names = second.names) (strange : ¬ IsAuthentic first token)
    (alsoStrange : ¬ IsAuthentic second token) :
    ∃ failure, resolve now first token = .error failure ∧
      resolve now second token = .error failure ∧
      ∀ (World Other : Type) (one : Gateway World) (other : Gateway Other),
        one.credentials = first → other.credentials = second →
        AnswerAlike now token failure one other := by
  obtain ⟨failure, refused, alsoRefused⟩ := resolve_alike sameUsers strange alsoStrange now
  refine ⟨failure, refused, alsoRefused, ?_⟩
  rintro World Other one other rfl rfl
  exact answerAlike_of_refused refused alsoRefused

/-- Two tokens for the user of a request: one holds the secret of the request, and one has a
signature that is no code at all. -/
def guesses : List String :=
  [unsignedMark ++ Base64Url.encode (Utf8.encode (payloadOf minuteRequest).toJson.text),
    joined (Base64Url.encode (documentBytes headerJson))
      (Base64Url.encode (documentBytes (claimsOf 1000 default minuteRequest).toJson)) "="]

theorem not_isAuthentic_of_mem_guesses {credentials : Credentials}
    (differ : credentials.secret? minuteRequest.user ≠ some minuteRequest.secret)
    (member : token ∈ guesses) : ¬ IsAuthentic credentials token := by
  simp only [guesses, List.mem_cons, List.not_mem_nil, or_false] at member
  rcases member with rfl | rfl
  · exact mt (isAuthentic_issued_iff (LinkRequest.validate_eq_ok_iff.mp rfl)).mp differ
  · have isSigned := afterText?_sign minuteRequest.secret
      (claimsOf 1000 default minuteRequest).toJson
    rw [sign_eq_joined] at isSigned
    have undivided := Base64Url.not_mem_encodeBytes (by decide : Base64Url.value? '.' = none)
      (documentBytes headerJson)
    exact not_isAuthentic_of_padded
      (afterText?_joined isSigned (by simpa [Base64Url.encode] using undivided) "=")

/-- Neither token tells which of two other secrets the user has. -/
theorem rejections_alike_guesses :
    (Credentials.ofEntries ["user:s3cret"]).names = (Credentials.ofEntries ["user:other"]).names ∧
      ∀ token ∈ guesses,
        ¬ IsAuthentic (Credentials.ofEntries ["user:s3cret"]) token ∧
        ¬ IsAuthentic (Credentials.ofEntries ["user:other"]) token ∧
        ∃ failure, resolve 1059 (Credentials.ofEntries ["user:s3cret"]) token = .error failure ∧
          resolve 1059 (Credentials.ofEntries ["user:other"]) token = .error failure ∧
          ∀ (World Other : Type) (one : Gateway World) (other : Gateway Other),
            one.credentials = Credentials.ofEntries ["user:s3cret"] →
            other.credentials = Credentials.ofEntries ["user:other"] →
            AnswerAlike 1059 token failure one other := by
  refine ⟨rfl, fun token member => ?_⟩
  have strange : ¬ IsAuthentic (Credentials.ofEntries ["user:s3cret"]) token :=
    not_isAuthentic_of_mem_guesses (by decide) member
  have alsoStrange : ¬ IsAuthentic (Credentials.ofEntries ["user:other"]) token :=
    not_isAuthentic_of_mem_guesses (by decide) member
  exact ⟨strange, alsoStrange, rejections_alike 1059 _ _ token rfl strange alsoStrange⟩

end Gateway

end StoreGate
