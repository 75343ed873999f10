import StoreGate.Proofs.Proxy.LinkLines
import StoreGate.Proofs.Proxy.Redeeming
import StoreGate.Proofs.Proxy.TokenDocuments
import StoreGate.Proofs.SealedBoxOpening
/-!
# Tokens stand for their requests

A token is redeemed as the link, the headers, the tunnel and the user of the request that it was
made for, in each of its three forms.  It is redeemed until the second in which it expires, which
lies the whole seconds of its lifetime after the second of its making, but at least one.  If 64 bits
cannot count so far, no token is made.
-/

namespace StoreGate.ProxyToken

open SignedToken

private theorem header_ne_mark :
    Base64Url.encodeBytes (documentBytes headerJson) ≠ "base64".toList := by
  decide

/-- A signed token is never taken for an unsigned one. -/
theorem afterText?_sign (secret : String) (claims : Json) :
    Text.afterText? unsignedMark (sign secret claims) = none := by
  rw [Option.eq_none_iff_forall_ne_some]
  intro rest marked
  have foreign : Base64Url.value? '.' = none := by decide
  have joined := congrArg String.toList (Text.afterText?_eq_some_iff.mp marked)
  have split : unsignedMark.toList = "base64".toList ++ ['.'] := by decide
  rw [String.toList_append, split, sign, String.toList_ofList, List.append_assoc] at joined
  -- Both texts are divided at their first dot, which neither beginning can hold.
  have sameBeginning := Text.append_mark_inj (Base64Url.not_mem_encodeBytes foreign _)
    (by decide) joined
  exact header_ne_mark sameBeginning.1

section Signed

variable {claims : Claims}

theorem subject?_toJson (fits : ∀ second ∈ claims.expiry, second < bitLimit 64)
    (header signature : List Char) :
    subject? ⟨header, Base64Url.encodeBytes (documentBytes claims.toJson), signature⟩ =
      some claims.subject := by
  have parsed : Json.parse? (documentBytes claims.toJson) = some claims.toJson :=
    Json.parse?_text (Claims.isExact_toJson fits)
  have found : claims.toJson.fields? ["sub"] = some ⟨[("sub", .string claims.subject)]⟩ := by
    cases expiry : claims.expiry <;> simp [Claims.toJson, expiry, Json.fields?_object, Json.known]
  simp [subject?, Base64Url.decodeSymbols_encodeBytes, parsed, found, Json.Fields.required,
    Json.text?]

theorem checkClaims_toJson {now : Nat} (live : ∀ second ∈ claims.expiry, now ≤ second) :
    checkClaims now claims.issuer claims.toJson = .ok () := by
  have found : claims.toJson.fields? registeredClaims =
      some ⟨[("iss", .string claims.issuer), ("sub", .string claims.subject)] ++
        (claims.expiry.map fun second => ("exp", Json.integer second)).toList⟩ := by
    cases expiry : claims.expiry <;>
      simp [Claims.toJson, expiry, Json.fields?_object, Json.known, registeredClaims]
  have storable : Json.null.isStorable = true := by decide
  refine checkClaims_eq_ok_iff.mpr ⟨_, found, ?_⟩
  cases expiry : claims.expiry with
  | none =>
    constructor <;> simp [List.lookup_cons, isPassable, isAudience, storable]
  | some second =>
    have later := live second expiry
    constructor <;> simp [List.lookup_cons, isPassable, isAudience, storable, later]

theorem verify_sign {now : Nat} {secret : String} {parts : Parts}
    (divided : parts? (sign secret claims.toJson) = some parts)
    (fits : ∀ second ∈ claims.expiry, second < bitLimit 64)
    (live : ∀ second ∈ claims.expiry, now ≤ second) :
    verify Claims.ofJson? claims.issuer secret now parts = .ok claims := by
  rw [parts?_sign] at divided
  cases divided
  exact verify_eq_ok_iff.mpr ⟨⟨_, _, rfl, Json.parse?_text isExact_headerJson,
    headerAlgorithm?_headerJson⟩, rfl, _, _, rfl, Json.parse?_text (Claims.isExact_toJson fits),
    Claims.ofJson?_toJson fits, checkClaims_toJson live⟩

theorem claims_of_verify {now : Nat} {secret : String} {parts : Parts} {accepted : Claims}
    (divided : parts? (sign secret claims.toJson) = some parts)
    (fits : ∀ second ∈ claims.expiry, second < bitLimit 64)
    (verified : verify Claims.ofJson? issuer secret now parts = .ok accepted) :
    accepted = claims := by
  rw [parts?_sign] at divided
  cases divided
  obtain ⟨_, _, bytes, document, isClaims, parsed, readable, _⟩ := verify_eq_ok_iff.mp verified
  have sameBytes : documentBytes claims.toJson = bytes :=
    Base64Url.encode_injective (congrArg String.ofList isClaims)
  rw [← sameBytes, documentBytes, Json.parse?_text (Claims.isExact_toJson fits)] at parsed
  cases parsed
  rw [Claims.ofJson?_toJson fits] at readable
  exact (Option.some.inj readable).symm

end Signed

section Requests

/-- What an unsigned token says of a request. -/
def payloadOf (request : LinkRequest) : Payload :=
  ⟨request.user ++ ":" ++ request.secret, request.link, request.headers, request.tunnel⟩

/-- What a signed token says of a request's link. -/
def dataOf (nonce : Nonce) (request : LinkRequest) : LinkData :=
  let lines := String.ofList (linkLines request.link request.headers)
  if request.isSealed then
    ⟨SealedBox.sealText request.secret nonce lines, SealedBox.format, request.tunnel⟩
  else ⟨Base64Url.encode (Utf8.encode lines), plainFormat, request.tunnel⟩

def claimsOf (now : Nat) (nonce : Nonce) (request : LinkRequest) : Claims :=
  ⟨issuer, request.user, expiry now request.lifetime, dataOf nonce request⟩

variable {now later : Nat} {nonce : Nonce} {credentials : Credentials} {request : LinkRequest}

theorem validate_of_create {token : String} (created : create now nonce request = .ok token) :
    request.validate = .ok () := by
  obtain ⟨_, passed, _⟩ := bind_eq_ok_iff.mp created
  exact mapError_eq_ok_iff.mp passed

theorem isSigned_of_mortal (mortal : request.lifetime.isZero = false) :
    request.isSigned = true := by
  simp [LinkRequest.isSigned, mortal]

theorem mem_expiry_iff {lifetime : Duration} {second : Nat} :
    second ∈ expiry now lifetime ↔
      lifetime.isZero = false ∧ second = now + max 1 lifetime.seconds := by
  rw [Option.mem_def, expiry]
  split
  · rename_i forEver
    simp [forEver]
  · rename_i mortal
    simp [mortal, eq_comm]

theorem isCountable_iff {lifetime : Duration} :
    isCountable now lifetime = true ↔ ∀ second ∈ expiry now lifetime, second < bitLimit 64 := by
  simp [isCountable, Option.all_eq_true]

/-- The seconds of a lifetime can be counted if it has no end or the end has 64 bits. -/
theorem isCountable_iff_room {lifetime : Duration} :
    isCountable now lifetime = true ↔
      lifetime.isZero = true ∨ now + max 1 lifetime.seconds < bitLimit 64 := by
  rw [isCountable_iff]
  constructor
  · intro fits
    cases forEver : lifetime.isZero with
    | true => exact .inl rfl
    | false => exact .inr (fits _ (mem_expiry_iff.mpr ⟨forEver, rfl⟩))
  · intro room second isExpiry
    obtain ⟨mortal, rfl⟩ := mem_expiry_iff.mp isExpiry
    exact room.resolve_left (by simp [mortal])

theorem create_of_unsigned (valid : request.validate = .ok ())
    (isSigned : request.isSigned = false) :
    create now nonce request =
      .ok (unsignedMark ++ Base64Url.encode (Utf8.encode (payloadOf request).toJson.text)) := by
  rw [create, valid]
  simp [isSigned]
  rfl

theorem create_of_signed (valid : request.validate = .ok ()) (isSigned : request.isSigned = true)
    (countable : isCountable now request.lifetime = true) :
    create now nonce request = .ok (sign request.secret (claimsOf now nonce request).toJson) := by
  rw [create, valid]
  simp [isSigned, countable]
  rfl

/-- No token is issued whose end cannot be counted. -/
theorem create_of_overflow (valid : request.validate = .ok ())
    (uncountable : isCountable now request.lifetime = false) :
    create now nonce request = .error .overflow := by
  have mortal : request.lifetime.isZero = false := by
    rw [← Bool.not_eq_true] at uncountable ⊢
    exact fun forEver => uncountable (isCountable_iff_room.mpr (.inl forEver))
  rw [create, valid]
  simp [isSigned_of_mortal mortal, uncountable]
  rfl

theorem isCountable_of_create {token : String} (created : create now nonce request = .ok token) :
    isCountable now request.lifetime = true := by
  by_contra uncountable
  rw [create_of_overflow (validate_of_create created) (Bool.not_eq_true _ ▸ uncountable)] at created
  cases created

theorem openData_dataOf :
    openData request.secret (dataOf nonce request) =
      .ok (String.ofList (linkLines request.link request.headers)) := by
  have differ : plainFormat ≠ SealedBox.format := by decide
  unfold dataOf
  split
  · simp [openData, SealedBox.openText_sealText]
  · simp [openData, differ, mapError_eq_ok_iff, decodeBase64Text_eq_ok_iff]

theorem tunnel_dataOf : (dataOf nonce request).tunnel = request.tunnel := by
  unfold dataOf
  split <;> rfl

/-- An unsigned token stands for its request even if the link and the headers pass no check. -/
theorem resolve_payloadOf (undivided : ':' ∉ request.user.toList)
    (known : credentials.secret? request.user = some request.secret) :
    resolve later credentials
      (unsignedMark ++ Base64Url.encode (Utf8.encode (payloadOf request).toJson.text)) =
      .ok ⟨request.link, request.headers, request.tunnel, request.user⟩ := by
  have marked := Text.afterText?_eq_some_iff.mpr
    (rfl : unsignedMark ++ Base64Url.encode (Utf8.encode (payloadOf request).toJson.text) = _)
  have divided : Text.splitTextAt? ':' (payloadOf request).credential =
      some (request.user, request.secret) :=
    Text.splitTextAt?_eq_some_iff.mpr ⟨undivided, rfl⟩
  rw [resolve, marked]
  exact resolveUnsigned_eq_ok_iff.mpr ⟨_, _, payloadOf request, request.secret, rfl,
    Json.parse?_text (Payload.isExact_toJson _), Payload.ofJson?_toJson _, divided, known, rfl, rfl,
    rfl⟩

theorem resolve_unsigned (valid : request.IsValid)
    (known : credentials.secret? request.user = some request.secret) :
    resolve later credentials
      (unsignedMark ++ Base64Url.encode (Utf8.encode (payloadOf request).toJson.text)) =
      .ok ⟨request.link, request.headers, request.tunnel, request.user⟩ :=
  resolve_payloadOf valid.userUndivided known

/-- A signed token stands for its request if the link and the headers can stand on lines. -/
theorem resolve_claimsOf (stands : StandOnLines request.link request.headers)
    (known : credentials.secret? request.user = some request.secret)
    (countable : isCountable now request.lifetime = true)
    (live : ∀ second ∈ expiry now request.lifetime, later < second) :
    resolve later credentials (sign request.secret (claimsOf now nonce request).toJson) =
      .ok ⟨request.link, request.headers, request.tunnel, request.user⟩ := by
  have divided := parts?_sign request.secret (claimsOf now nonce request).toJson
  have fits := isCountable_iff.mp countable
  have verified := verify_sign divided fits fun second isExpiry =>
    Nat.le_of_lt (live second isExpiry)
  rw [resolve, afterText?_sign]
  refine resolveSigned_eq_ok_iff.mpr ⟨_, request.secret, _, _, request.link.toList,
    request.headers.entries.map headerLine, request.headers.entries, divided,
    subject?_toJson fits _ _, known, verified, live, openData_dataOf, ?_,
    readHeaders_headerLines stands, ?_, ?_, ?_, ?_⟩
  · rw [String.toList_ofList]
    exact fields_linkLines stands
  · simpa using stands.present
  · simp
  · exact (TextMap.ofList_entries request.headers).symm
  · exact tunnel_dataOf.symm

theorem resolve_signed (valid : request.IsValid)
    (known : credentials.secret? request.user = some request.secret)
    (countable : isCountable now request.lifetime = true)
    (live : ∀ second ∈ expiry now request.lifetime, later < second) :
    resolve later credentials (sign request.secret (claimsOf now nonce request).toJson) =
      .ok ⟨request.link, request.headers, request.tunnel, request.user⟩ :=
  resolve_claimsOf (standOnLines_of_isValid valid) known countable live

/-- A token that was issued stands for its request while it lives. -/
theorem resolve_created {token : String} (created : create now nonce request = .ok token)
    (known : credentials.secret? request.user = some request.secret)
    (live : ∀ second ∈ expiry now request.lifetime, later < second) :
    resolve later credentials token =
      .ok ⟨request.link, request.headers, request.tunnel, request.user⟩ := by
  have passed := validate_of_create created
  have valid := LinkRequest.validate_eq_ok_iff.mp passed
  have countable := isCountable_of_create created
  cases isSigned : request.isSigned with
  | false =>
      obtain rfl := Except.ok.inj ((create_of_unsigned passed isSigned).symm.trans created)
      exact resolve_unsigned valid known
  | true =>
      obtain rfl := Except.ok.inj ((create_of_signed passed isSigned countable).symm.trans created)
      exact resolve_signed valid known countable live

theorem resolve_expired (known : credentials.secret? request.user = some request.secret)
    (countable : isCountable now request.lifetime = true)
    {second : Nat} (isExpiry : expiry now request.lifetime = some second)
    (passed : second ≤ later) :
    ∃ reason, resolve later credentials (sign request.secret (claimsOf now nonce request).toJson) =
      .error (.unauthorized reason) := by
  have divided := parts?_sign request.secret (claimsOf now nonce request).toJson
  have fits := isCountable_iff.mp countable
  rw [resolve, afterText?_sign]
  apply resolveSigned_eq_unauthorized divided (subject?_toJson fits _ _) known
  intro accepted verified
  rw [claims_of_verify divided fits verified]
  exact ⟨second, isExpiry, passed⟩

end Requests

/-- A token stands for its request as long as it lives, and is refused for want of authority from
the second in which it expires, which has to fit in 64 bits. -/
theorem resolve_create (now later : Nat) (nonce : Nonce) (credentials : Credentials)
    (request : LinkRequest) (valid : request.validate = .ok ())
    (known : credentials.secret? request.user = some request.secret)
    (noOverflow : request.lifetime.isZero = true ∨
      now + max 1 request.lifetime.seconds < bitLimit 64) :
    ∃ token, create now nonce request = .ok token ∧
      if request.lifetime.isZero = true ∨ later < now + max 1 request.lifetime.seconds then
        resolve later credentials token =
          .ok ⟨request.link, request.headers, request.tunnel, request.user⟩
      else ∃ reason, resolve later credentials token = .error (.unauthorized reason) := by
  have isValid := LinkRequest.validate_eq_ok_iff.mp valid
  have countable := isCountable_iff_room.mpr noOverflow
  cases isSigned : request.isSigned with
  | false =>
      have forEver : request.lifetime.isZero = true := by
        rw [LinkRequest.isSigned, Bool.or_eq_false_iff] at isSigned
        simpa using isSigned.2
      refine ⟨_, create_of_unsigned valid isSigned, ?_⟩
      rw [if_pos (Or.inl forEver)]
      exact resolve_unsigned isValid known
  | true =>
      refine ⟨_, create_of_signed valid isSigned countable, ?_⟩
      split
      · rename_i inTime
        apply resolve_signed isValid known countable
        intro second isExpiry
        obtain ⟨mortal, rfl⟩ := mem_expiry_iff.mp isExpiry
        exact inTime.resolve_left (by simp [mortal])
      · rename_i late
        rw [not_or, Bool.not_eq_true, Nat.not_lt] at late
        exact resolve_expired known countable (mem_expiry_iff.mpr ⟨late.1, rfl⟩) late.2

/-- A sealed link that lives for half a second is redeemed in the second of its making only.  Its
secret and its header hold the marks at which texts are divided. -/
theorem resolve_create_half_second :
    ∃ token, create 1000 default ⟨"https://a.b/c", TextMap.ofList [("Range", "bytes: 0-9")], none,
        ⟨500000000⟩, "user", "pass:word", true, none⟩ = .ok token ∧
      resolve 1000 (Credentials.ofEntries ["user:pass:word"]) token =
        .ok ⟨"https://a.b/c", TextMap.ofList [("Range", "bytes: 0-9")], none, "user"⟩ ∧
      ∃ reason, resolve 1001 (Credentials.ofEntries ["user:pass:word"]) token =
        .error (.unauthorized reason) := by
  have redeemed := fun later => resolve_create 1000 later default
    (Credentials.ofEntries ["user:pass:word"]) ⟨"https://a.b/c",
      TextMap.ofList [("Range", "bytes: 0-9")], none, ⟨500000000⟩, "user", "pass:word", true, none⟩
    rfl rfl (by decide)
  obtain ⟨token, isToken, inTime⟩ := redeemed 1000
  obtain ⟨sameToken, isSameToken, late⟩ := redeemed 1001
  rw [isToken] at isSameToken
  cases isSameToken
  exact ⟨token, isToken, inTime, late⟩

/-- A link that lives for half a second. -/
def briefRequest : LinkRequest :=
  ⟨"https://a.b/c", TextMap.empty, none, ⟨500000000⟩, "user", "pass:word", false, none⟩

/-- In the last second that 64 bits can count no link is issued that lives for half a second,
although its lifetime has no whole second to be added and has just begun. -/
theorem create_brief_in_last_second :
    briefRequest.validate = .ok () ∧
    (Credentials.ofEntries ["user:pass:word"]).secret? briefRequest.user =
      some briefRequest.secret ∧
    bitLimit 64 - 1 + briefRequest.lifetime.seconds < bitLimit 64 ∧
    bitLimit 64 - 1 < bitLimit 64 - 1 + max 1 briefRequest.lifetime.seconds ∧
    ¬ ∃ token, create (bitLimit 64 - 1) default briefRequest = .ok token := by
  have overflows : create (bitLimit 64 - 1) default briefRequest = .error .overflow :=
    create_of_overflow rfl (by decide)
  refine ⟨rfl, rfl, by decide, by decide, ?_⟩
  rintro ⟨token, created⟩
  rw [overflows] at created
  cases created

end StoreGate.ProxyToken
