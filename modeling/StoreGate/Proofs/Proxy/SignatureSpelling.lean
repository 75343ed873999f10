import StoreGate.Proofs.Proxy.TokenRoundTrip
/-!
# One spelling of a signature

The signature of a token is the one base64 text of the one code that the secret gives for the first
two parts.  Once a token is accepted, any other text in the place of its signature has the token
refused for want of authority, whether the text is the base64 of another code or of none.
-/

namespace StoreGate

namespace SignedToken

variable {α : Type}

/-- A token put together from its three parts. -/
def joined (header claims signature : String) : String :=
  header ++ "." ++ claims ++ "." ++ signature

theorem toList_joined (header claims signature : String) :
    (joined header claims signature).toList =
      header.toList ++ '.' :: (claims.toList ++ '.' :: signature.toList) := by
  simp [joined]

/-- Whether it is the signature of a token that is at fault: it is not base64, or not the code. -/
inductive Fault.OfSignature : Fault → Prop
  | base64 (fault : Base64Url.Fault) : OfSignature (.base64 fault)
  | code : OfSignature .invalidSignature

/-- A token that can be divided into parts has as many dots as stand between them. -/
theorem parts_of_joined {header claims signature : String} {parts : Parts}
    (divided : parts? (joined header claims signature) = some parts) :
    parts = ⟨header.toList, claims.toList, signature.toList⟩ := by
  obtain ⟨whole, headerUndivided, claimsUndivided, signatureUndivided⟩ :=
    parts?_eq_some_iff.mp divided
  rw [toList_joined] at whole
  have dots := congrArg (List.count '.') whole
  simp only [List.count_append, List.count_cons_self, List.count_eq_zero.mpr headerUndivided,
    List.count_eq_zero.mpr claimsUndivided, List.count_eq_zero.mpr signatureUndivided] at dots
  have noDot : '.' ∉ header.toList ∧ '.' ∉ claims.toList := by
    constructor <;> exact List.count_eq_zero.mp (by omega)
  obtain ⟨sameHeader, others⟩ := Text.append_mark_inj noDot.1 headerUndivided whole
  obtain ⟨sameClaims, sameSignature⟩ := Text.append_mark_inj noDot.2 claimsUndivided others
  rw [sameHeader, sameClaims, sameSignature]

theorem ofSignature_of_decodePart {part : List Char} {fault : Fault}
    (refused : decodePart part = .error fault) : fault.OfSignature := by
  unfold decodePart at refused
  cases read : Base64Url.decode (String.ofList part) with
  | ok bytes =>
      rw [read] at refused
      cases refused
  | error kind =>
      rw [read] at refused
      cases refused
      exact .base64 kind

/-- The header of an accepted token is in order, so with another signature the token is refused for
its signature, at any time. -/
theorem verify_of_other_signature {read : Json → Option α} {issuer secret : String} {now : Nat}
    {token : Parts} {value : α} (accepted : verify read issuer secret now token = .ok value)
    {signature : List Char} (differ : signature ≠ token.signature) (later : Nat) :
    ∃ fault : Fault, fault.OfSignature ∧
      verify read issuer secret later { token with signature } = .error fault := by
  obtain ⟨⟨bytes, header, isHeader, parsed, names⟩, isSignature, _⟩ := verify_eq_ok_iff.mp accepted
  have readHeader : decodePart token.header = .ok bytes := decodePart_eq_ok_iff.mpr isHeader
  have named : orJsonFault (Json.parse? bytes >>= headerAlgorithm?) = .ok algorithm :=
    orJsonFault_eq_ok_iff.mpr (Option.bind_eq_some_iff.mpr ⟨header, parsed, names⟩)
  unfold verify
  simp only [bind, Except.bind] at named ⊢
  rw [readHeader]
  dsimp only
  rw [named]
  dsimp only
  rw [if_neg (not_not.mpr rfl)]
  cases decoded : decodePart signature with
  | error fault => exact ⟨fault, ofSignature_of_decodePart decoded, rfl⟩
  | ok code =>
      have isOther : code ≠ Crypto.Sha256.authenticate (Utf8.encode secret)
          (signedBytes token.header token.claims) := by
        rintro rfl
        exact differ ((decodePart_eq_ok_iff.mp decoded).trans isSignature.symm)
      dsimp only
      rw [if_pos isOther]
      exact ⟨_, .code, rfl⟩

end SignedToken

namespace ProxyToken

open SignedToken

/-- Whether a token is taken for an unsigned one can be told from its first part. -/
theorem afterText?_joined {header claims signature : String}
    (isSigned : Text.afterText? unsignedMark (joined header claims signature) = none)
    (undivided : '.' ∉ header.toList) (other : String) :
    Text.afterText? unsignedMark (joined header claims other) = none := by
  rw [Option.eq_none_iff_forall_ne_some] at isSigned ⊢
  intro rest marked
  have split : unsignedMark.toList = "base64".toList ++ ['.'] := by decide
  have whole := congrArg String.toList (Text.afterText?_eq_some_iff.mp marked)
  rw [toList_joined, String.toList_append, split, List.append_assoc] at whole
  obtain ⟨isMark, _⟩ := Text.append_mark_inj undivided (by decide) whole
  refine isSigned (claims ++ "." ++ signature) (Text.afterText?_eq_some_iff.mpr ?_)
  apply String.toList_inj.mp
  rw [toList_joined, isMark, String.toList_append, split]
  simp

/-- Once a signed token is accepted, the same token with any other text for its signature is refused
for want of authority, at any time: the signature has no second spelling. -/
theorem other_signature_unauthorized (now : Nat) (credentials : Credentials)
    (header claims signature : String) (resolved : ResolvedLink)
    (isSigned : Text.afterText? unsignedMark (joined header claims signature) = none)
    (accepted : resolve now credentials (joined header claims signature) = .ok resolved)
    (other : String) (differ : other ≠ signature) (undivided : '.' ∉ other.toList) (later : Nat) :
    ∃ fault : SignedToken.Fault, fault.OfSignature ∧
      resolve later credentials (joined header claims other) =
        .error (.unauthorized ("invalid proxy token: " ++ fault.message)) := by
  rw [resolve, isSigned] at accepted
  obtain ⟨parts, secret, _, _, _, _, _, divided, isUser, known, verified, _⟩ :=
    resolveSigned_eq_ok_iff.mp accepted
  have isWhole := parts_of_joined divided
  subst isWhole
  obtain ⟨_, headerUndivided, claimsUndivided, _⟩ := parts?_eq_some_iff.mp divided
  have otherDivided : parts? (joined header claims other) =
      some ⟨header.toList, claims.toList, other.toList⟩ :=
    parts?_eq_some_iff.mpr
      ⟨toList_joined header claims other, headerUndivided, claimsUndivided, undivided⟩
  -- The user is read from the claims alone, so it is the same secret that the signature is held to.
  have sameUser : subject? ⟨header.toList, claims.toList, other.toList⟩ = some resolved.user :=
    isUser
  have otherSymbols : other.toList ≠ signature.toList :=
    fun same => differ (String.toList_inj.mp same)
  obtain ⟨fault, ofSignature, refused⟩ := verify_of_other_signature verified otherSymbols later
  refine ⟨fault, ofSignature, ?_⟩
  rw [resolve, afterText?_joined isSigned headerUndivided other]
  dsimp only
  rw [resolveSigned, otherDivided]
  simp only [orFail, bind, Except.bind, sameUser, known, refused]
  rfl

theorem sign_eq_joined (secret : String) (claims : Json) :
    let header := Base64Url.encode (documentBytes headerJson)
    let body := Base64Url.encode (documentBytes claims)
    let signed := signedBytes header.toList body.toList
    sign secret claims = joined header body
      (Base64Url.encode (Crypto.Sha256.authenticate (Utf8.encode secret) signed)) := by
  apply String.toList_inj.mp
  rw [toList_joined, sign]
  simp only [Base64Url.encode, String.toList_ofList]

/-- A link that lives for a minute. -/
def minuteRequest : LinkRequest :=
  ⟨"https://a.b/c", TextMap.empty, none, ⟨60000000000⟩, "user", "pass:word", false, none⟩

/-- A user's token is accepted, and is refused when its signature is padded. -/
theorem other_signature_unauthorized_padded : ∃ header claims signature resolved,
    Text.afterText? unsignedMark (joined header claims signature) = none ∧
    resolve 1059 (Credentials.ofEntries ["user:pass:word"]) (joined header claims signature) =
      .ok resolved ∧
    (signature ++ "=" ≠ signature ∧ '.' ∉ (signature ++ "=").toList) ∧
    ∃ fault : SignedToken.Fault, fault.OfSignature ∧
      resolve 1059 (Credentials.ofEntries ["user:pass:word"])
        (joined header claims (signature ++ "=")) =
          .error (.unauthorized ("invalid proxy token: " ++ fault.message)) := by
  have valid : minuteRequest.validate = .ok () := rfl
  have live : ∀ second ∈ expiry 1000 minuteRequest.lifetime, 1059 < second := by decide
  have accepted := @resolve_signed _ _ default (Credentials.ofEntries ["user:pass:word"]) _
    (LinkRequest.validate_eq_ok_iff.mp valid) rfl (by decide) live
  have isSigned := afterText?_sign minuteRequest.secret (claimsOf 1000 default minuteRequest).toJson
  rw [sign_eq_joined] at accepted isSigned
  have differ : ∀ text : String, text ++ "=" ≠ text := by
    intro text same
    have lengths := congrArg String.length same
    rw [String.length_append] at lengths
    exact Nat.succ_ne_self _ lengths
  have noDot : ∀ code, '.' ∉ (Base64Url.encode code ++ "=").toList := by
    intro code
    have undivided := Base64Url.not_mem_encodeBytes (by decide : Base64Url.value? '.' = none) code
    simpa [Base64Url.encode] using undivided
  refine ⟨_, _, _, _, isSigned, accepted, ⟨differ _, noDot _⟩, ?_⟩
  exact other_signature_unauthorized 1059 _ _ _ _ _ isSigned accepted _ (differ _) (noDot _) 1059

end ProxyToken

end StoreGate
