import StoreGate.Proofs.Proxy.TokenRoundTrip
/-!
# No token is redeemed without its user's secret

The user of a signed token is read from its claims before anything is verified, and the claims are
read twice more: as the record that is returned, and for what every token must say.  Each reading
finds the same members, since a document in which one of them stands twice is refused, and so is one
that is written as an array: too short for its data, or too long for a subject alone.
-/

namespace StoreGate.ProxyToken

open SignedToken

/-- An unsigned token whose payload holds the credential of the user, and the link beside it. -/
def HoldsCredential (token secret : String) (resolved : ResolvedLink) : Prop :=
  ∃ bytes document payload,
    token = unsignedMark ++ Base64Url.encode bytes ∧ Json.parse? bytes = some document ∧
    Payload.ofJson? document = some payload ∧ ':' ∉ resolved.user.toList ∧
    payload.credential = resolved.user ++ ":" ++ secret ∧ resolved.link = payload.link ∧
    resolved.headers = payload.headers ∧ resolved.tunnel = payload.tunnel

/-- The one member of each name that matters in the claims of a redeemed token. -/
structure AreClaimsOf (user : String) (now : Nat) (members : List (String × Json)) : Prop where
  issuer : Json.known ["iss"] members = [("iss", .string issuer)]
  subject : Json.known ["sub"] members = [("sub", .string user)]
  expiry : Json.known ["exp"] members = [] ∨
    ∃ second : Nat, Json.known ["exp"] members = [("exp", .integer second)] ∧ now < second

/-- A token of three parts that is signed with a secret and claims to be issued for a user. -/
def IsSignedFor (token secret user : String) (now : Nat) : Prop :=
  ∃ parts : Parts,
    token.toList = parts.header ++ '.' :: (parts.claims ++ '.' :: parts.signature) ∧
    ('.' ∉ parts.header ∧ '.' ∉ parts.claims ∧ '.' ∉ parts.signature) ∧
    (∃ bytes header, parts.header = Base64Url.encodeBytes bytes ∧
      Json.parse? bytes = some header ∧ headerAlgorithm? header = some algorithm) ∧
    parts.signature = Base64Url.encodeBytes (Crypto.Sha256.authenticate (Utf8.encode secret)
      (signedBytes parts.header parts.claims)) ∧
    ∃ bytes members, parts.claims = Base64Url.encodeBytes bytes ∧
      Json.parse? bytes = some (.object members) ∧ AreClaimsOf user now members

theorem lookup_of_required {fields : Json.Fields} {name : String} {text : String}
    (found : fields.required name Json.text? = some text) :
    fields.given.lookup name = some (.string text) := by
  obtain ⟨value, isGiven, isText⟩ := Option.bind_eq_some_iff.mp found
  cases value <;> cases isText
  exact isGiven

theorem Claims.ofJson?_eq_some_iff {document : Json} {claims : Claims} :
    ofJson? document = some claims ↔ ∃ fields,
      document.fields? ["iss", "sub", "exp", "data"] = some fields ∧
      fields.required "iss" Json.text? = some claims.issuer ∧
      fields.required "sub" Json.text? = some claims.subject ∧
      fields.optional "exp" (Json.natural? 64) = some claims.expiry ∧
      fields.required "data" readData? = some claims.data := by
  simp only [ofJson?, Option.bind_eq_bind, Option.bind_eq_some_iff]
  constructor
  · rintro ⟨fields, found, issuer, isIssuer, subject, isSubject, expiry, isExpiry, data, isData,
      returned⟩
    cases returned
    exact ⟨fields, found, isIssuer, isSubject, isExpiry, isData⟩
  · rintro ⟨fields, found, isIssuer, isSubject, isExpiry, isData⟩
    exact ⟨fields, found, _, isIssuer, _, isSubject, _, isExpiry, _, isData, rfl⟩

/-- Both readings of the claims are of one object: an array too short to hold more than a subject
holds no data. -/
theorem object_of_readings {document : Json} {claims : Claims} {subject : Json.Fields}
    (readable : Claims.ofJson? document = some claims)
    (found : document.fields? ["sub"] = some subject) :
    ∃ members, document = .object members := by
  obtain ⟨fields, isRecord, _, _, _, isData⟩ := Claims.ofJson?_eq_some_iff.mp readable
  cases document with
  | object members => exact ⟨members, rfl⟩
  | array items =>
    have short : items.length ≤ 1 := by
      simp only [Json.fields?, Json.spelledFields?] at found
      split at found
      · assumption
      · cases found
    cases items with
    | nil =>
      cases isRecord
      cases isData
    | cons item others =>
      have alone := List.eq_nil_of_length_eq_zero (Nat.le_zero.mp (Nat.le_of_succ_le_succ short))
      subst alone
      cases isRecord
      cases isData
  | _ => cases found

theorem second_of_expiry {fields : Json.Fields} {expiry : Option Nat} {given : Int}
    (isExpiry : fields.optional "exp" (Json.natural? 64) = some expiry)
    (isGiven : fields.given.lookup "exp" = some (.integer given)) :
    ∃ second : Nat, given = second ∧ expiry = some second := by
  rw [Json.Fields.optional, Json.Fields.withDefault, isGiven] at isExpiry
  simp only [Json.nullable?, Json.natural?, Json.integerWithin?] at isExpiry
  split at isExpiry
  · rename_i inside
    cases isExpiry
    exact ⟨given.toNat, (Int.toNat_of_nonneg inside.1).symm, rfl⟩
  · cases isExpiry

theorem areClaimsOf {document : Json} {claims : Claims} {user : String} {now : Nat}
    {peeked : Json.Fields} (found : document.fields? ["sub"] = some peeked)
    (isUser : peeked.required "sub" Json.text? = some user)
    (readable : Claims.ofJson? document = some claims)
    (passed : checkClaims now issuer document = .ok ())
    (live : ∀ second ∈ claims.expiry, now < second) :
    ∃ members, document = .object members ∧ AreClaimsOf user now members := by
  obtain ⟨members, rfl⟩ := object_of_readings readable found
  obtain ⟨fields, isRecord, _, _, isExpiry, _⟩ := Claims.ofJson?_eq_some_iff.mp readable
  obtain ⟨registered, areRegistered, passed⟩ := checkClaims_eq_ok_iff.mp passed
  -- All three readings keep members of the one list, and the last refuses a repeated name among
  -- those that matter here.
  obtain ⟨rfl, _⟩ := Json.fields?_eq_some found
  obtain ⟨rfl, _⟩ := Json.fields?_eq_some isRecord
  obtain ⟨rfl, once⟩ := Json.fields?_eq_some areRegistered
  have isIssuer := passed.issuer
  have isSubject := lookup_of_required isUser
  rw [Json.lookup_known (by decide)] at isIssuer isSubject
  refine ⟨members, rfl, ?_, ?_, ?_⟩
  · rw [Json.known_singleton (by decide) once, isIssuer]
    rfl
  · rw [Json.known_singleton (by decide) once, isSubject]
    rfl
  · rw [Json.known_singleton (by decide) once]
    cases given : members.lookup "exp" with
    | none => exact Or.inl rfl
    | some value =>
      have inRecord : (Json.known ["iss", "sub", "exp", "data"] members).lookup "exp" =
          some value := by
        rw [Json.lookup_known (by decide), given]
      have inRegistered : (Json.known registeredClaims members).lookup "exp" = some value := by
        rw [Json.lookup_known (by decide), given]
      obtain ⟨second, rfl, _⟩ := passed.expiry value inRegistered
      obtain ⟨second, rfl, isLast⟩ := second_of_expiry isExpiry inRecord
      exact Or.inr ⟨second, rfl, live second isLast⟩

theorem subject?_eq_some_iff {token : Parts} {user : String} :
    subject? token = some user ↔ ∃ bytes document fields,
      token.claims = Base64Url.encodeBytes bytes ∧ Json.parse? bytes = some document ∧
      document.fields? ["sub"] = some fields ∧ fields.required "sub" Json.text? = some user := by
  simp only [subject?, Option.bind_eq_bind, Option.bind_eq_some_iff,
    Base64Url.decodeSymbols_eq_some_iff]
  constructor
  · rintro ⟨bytes, isClaims, document, parsed, fields, found, isUser⟩
    exact ⟨bytes, document, fields, isClaims, parsed, found, isUser⟩
  · rintro ⟨bytes, document, fields, isClaims, parsed, found, isUser⟩
    exact ⟨bytes, isClaims, document, parsed, fields, found, isUser⟩

/-- A token is redeemed for a user of the table only, and only if it shows the secret of that user:
it holds the secret itself, or it is signed with it, names the user and has not expired. -/
theorem resolve_sound (now : Nat) (credentials : Credentials) (token : String)
    (resolved : ResolvedLink) (accepted : resolve now credentials token = .ok resolved) :
    ∃ secret, credentials.secret? resolved.user = some secret ∧
      (HoldsCredential token secret resolved ∨ IsSignedFor token secret resolved.user now) := by
  unfold resolve at accepted
  split at accepted
  · rename_i encoded marked
    obtain ⟨bytes, document, payload, secret, rfl, parsed, readable, divided, known, isLink,
      isHeaders, isTunnel⟩ := resolveUnsigned_eq_ok_iff.mp accepted
    obtain ⟨undivided, joined⟩ := Text.splitTextAt?_eq_some_iff.mp divided
    exact ⟨secret, known, Or.inl ⟨bytes, document, payload, Text.afterText?_eq_some_iff.mp marked,
      parsed, readable, undivided, joined, isLink, isHeaders, isTunnel⟩⟩
  · obtain ⟨parts, secret, claims, _, _, _, _, divided, isUser, known, verified, live, _⟩ :=
      resolveSigned_eq_ok_iff.mp accepted
    obtain ⟨header, signature, bytes, document, isClaims, parsed, readable, passed⟩ :=
      verify_eq_ok_iff.mp verified
    obtain ⟨joined, whole⟩ := parts?_eq_some_iff.mp divided
    obtain ⟨peekedBytes, peeked, fields, arePeeked, parsedFirst, found, isUser⟩ :=
      subject?_eq_some_iff.mp isUser
    have sameBytes : peekedBytes = bytes :=
      Base64Url.encode_injective (congrArg String.ofList (arePeeked.symm.trans isClaims))
    rw [sameBytes, parsed] at parsedFirst
    cases parsedFirst
    obtain ⟨members, rfl, areClaims⟩ := areClaimsOf found isUser readable passed live
    exact ⟨secret, known, Or.inr ⟨parts, joined, whole, header, signature, bytes, members, isClaims,
      parsed, areClaims⟩⟩

/-- A user's tokens of either form are redeemed, and show the secret. -/
theorem resolve_sound_user :
    (∃ resolved, resolve 1059 (Credentials.ofEntries ["user:pass:word"])
        "base64.eyJ1IjoidXNlcjpwYXNzOndvcmQiLCJ2IjoiaHR0cHM6Ly9hLmIvYyJ9" = .ok resolved ∧
      ∃ secret, (Credentials.ofEntries ["user:pass:word"]).secret? resolved.user = some secret ∧
        (HoldsCredential "base64.eyJ1IjoidXNlcjpwYXNzOndvcmQiLCJ2IjoiaHR0cHM6Ly9hLmIvYyJ9" secret
            resolved ∨
          IsSignedFor "base64.eyJ1IjoidXNlcjpwYXNzOndvcmQiLCJ2IjoiaHR0cHM6Ly9hLmIvYyJ9" secret
            resolved.user 1059)) ∧
    ∃ token resolved,
      resolve 1059 (Credentials.ofEntries ["user:pass:word"]) token = .ok resolved ∧
      ∃ secret, (Credentials.ofEntries ["user:pass:word"]).secret? resolved.user = some secret ∧
        (HoldsCredential token secret resolved ∨ IsSignedFor token secret resolved.user 1059) := by
  constructor
  · have found : (resolve 1059 (Credentials.ofEntries ["user:pass:word"])
        "base64.eyJ1IjoidXNlcjpwYXNzOndvcmQiLCJ2IjoiaHR0cHM6Ly9hLmIvYyJ9").toOption =
        some ⟨"https://a.b/c", TextMap.empty, none, "user"⟩ := by
      decide +kernel
    have accepted := toOption_eq_some_iff.mp found
    exact ⟨_, accepted, resolve_sound _ _ _ _ accepted⟩
  · have valid : LinkRequest.validate ⟨"https://a.b/c", TextMap.empty, none, ⟨60000000000⟩, "user",
        "pass:word", false, none⟩ = .ok () := rfl
    have live : ∀ second ∈ expiry 1000 ⟨60000000000⟩, 1059 < second := by decide
    have known : (Credentials.ofEntries ["user:pass:word"]).secret? "user" = some "pass:word" := rfl
    have isValid := LinkRequest.validate_eq_ok_iff.mp valid
    have accepted := @resolve_signed _ _ default _ _ isValid known (by decide) live
    exact ⟨_, _, accepted, resolve_sound _ _ _ _ accepted⟩

end StoreGate.ProxyToken
