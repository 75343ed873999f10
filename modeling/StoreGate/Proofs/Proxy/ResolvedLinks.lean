import StoreGate.Proofs.Proxy.TokenRoundTrip
/-!
# What a redeemed token can stand for

A link and its headers are checked when their token is issued, and a token that was issued stands
for nothing else.  Whoever has a secret can make other tokens, and redeeming asks of them only what
it needs to read them: the lines of a signed token hold a link with some text, and headers whose
names end before the first mark, while an unsigned token holds any link with any headers.
-/

namespace StoreGate

/-- Whether a link and its headers are such that a request for them passes the check. -/
structure ResolvedLink.CouldBeIssued (resolved : ResolvedLink) : Prop where
  link : resolved.link ≠ ""
  linkOnLine : ∀ char ∈ resolved.link.toList, isLineBreak char = false
  headers : ∀ header ∈ resolved.headers.entries, LinkRequest.isValidHeader header = true

/-- A request for what a link stands for, without end and in plain text. -/
def ResolvedLink.request (resolved : ResolvedLink) (secret : String) : LinkRequest :=
  ⟨resolved.link, resolved.headers, resolved.tunnel, ⟨0⟩, resolved.user, secret, false, none⟩

namespace ProxyToken

open SignedToken

variable {now : Nat} {credentials : Credentials} {resolved : ResolvedLink}

/-- A signed token is redeemed as what stands on lines, and as anything that does. -/
theorem exists_signed_iff :
    (∃ token, Text.afterText? unsignedMark token = none ∧
        resolve now credentials token = .ok resolved) ↔
      (credentials.secret? resolved.user).isSome ∧
        StandOnLines resolved.link resolved.headers := by
  constructor
  · rintro ⟨token, isSigned, accepted⟩
    rw [resolve, isSigned] at accepted
    obtain ⟨_, _, _, _, _, _, _, _, _, known, _, _, _, found, read, hasLink, isLink, areHeaders,
      _⟩ := resolveSigned_eq_ok_iff.mp accepted
    rw [known, isLink, areHeaders]
    exact ⟨rfl, standOnLines_of_read found read hasLink⟩
  · rintro ⟨isKnown, stands⟩
    obtain ⟨secret, known⟩ := Option.isSome_iff_exists.mp isKnown
    have forEver : ∀ second ∈ expiry 0 (resolved.request secret).lifetime, now < second := by
      intro second isExpiry
      cases isExpiry
    have redeemed := @resolve_claimsOf 0 now default credentials (resolved.request secret) stands
      known rfl forEver
    exact ⟨_, afterText?_sign _ _, redeemed⟩

/-- An unsigned token is redeemed as any link of a user whose name can stand before a secret. -/
theorem exists_unsigned_iff :
    (∃ encoded, resolve now credentials (unsignedMark ++ encoded) = .ok resolved) ↔
      (credentials.secret? resolved.user).isSome ∧ ':' ∉ resolved.user.toList := by
  constructor
  · rintro ⟨encoded, accepted⟩
    rw [resolve, Text.afterText?_eq_some_iff.mpr rfl] at accepted
    obtain ⟨_, _, _, secret, _, _, _, divided, known, _⟩ := resolveUnsigned_eq_ok_iff.mp accepted
    rw [known]
    exact ⟨rfl, (Text.splitTextAt?_eq_some_iff.mp divided).1⟩
  · rintro ⟨isKnown, undivided⟩
    obtain ⟨secret, known⟩ := Option.isSome_iff_exists.mp isKnown
    exact ⟨_, @resolve_payloadOf now credentials (resolved.request secret) undivided known⟩

/-- Whatever a token that was issued is redeemed as, it is what it was issued for. -/
theorem resolved_of_create {issuedAt : Nat} {nonce : Nonce} {request : LinkRequest} {token : String}
    (created : create issuedAt nonce request = .ok token)
    (known : credentials.secret? request.user = some request.secret)
    (accepted : resolve now credentials token = .ok resolved) :
    resolved = ⟨request.link, request.headers, request.tunnel, request.user⟩ := by
  by_cases live : ∀ second ∈ expiry issuedAt request.lifetime, now < second
  · rw [resolve_created created known live] at accepted
    exact (Except.ok.inj accepted).symm
  · push Not at live
    obtain ⟨second, isExpiry, passed⟩ := live
    have countable := isCountable_of_create created
    have isToken : create issuedAt nonce request = .ok _ :=
      create_of_signed (validate_of_create created)
        (isSigned_of_mortal (mem_expiry_iff.mp isExpiry).1) countable
    obtain rfl := Except.ok.inj (isToken.symm.trans created)
    obtain ⟨reason, refused⟩ := resolve_expired known countable isExpiry passed
    exact absurd (refused.symm.trans accepted) nofun

/-- Signed tokens are redeemed as exactly what can stand on lines, and unsigned ones as exactly the
links of users whose names can stand before a secret, as far as some text of the link is there.
What creation checks beyond that is true of the tokens it issued. -/
theorem links_checked_at_creation_only (now : Nat) (credentials : Credentials) :
    (∀ resolved : ResolvedLink,
      (∃ token, Text.afterText? unsignedMark token = none ∧
          resolve now credentials token = .ok resolved) ↔
        (credentials.secret? resolved.user).isSome ∧
          StandOnLines resolved.link resolved.headers) ∧
    (∀ resolved : ResolvedLink, resolved.link ≠ "" →
      ((∃ encoded, resolve now credentials (unsignedMark ++ encoded) = .ok resolved) ↔
        (credentials.secret? resolved.user).isSome ∧ ':' ∉ resolved.user.toList)) ∧
    (∀ (issuedAt : Nat) (nonce : Nonce) (request : LinkRequest) (token : String)
        (resolved : ResolvedLink), create issuedAt nonce request = .ok token →
      credentials.secret? request.user = some request.secret →
      resolve now credentials token = .ok resolved → resolved.CouldBeIssued) := by
  refine ⟨fun resolved => exists_signed_iff, fun resolved _ => exists_unsigned_iff, ?_⟩
  intro issuedAt nonce request token resolved created known accepted
  obtain rfl := resolved_of_create created known accepted
  have valid := LinkRequest.validate_eq_ok_iff.mp (validate_of_create created)
  exact ⟨valid.link, valid.linkOnLine, valid.headers⟩

/-- A link of two lines, with a header whose value has two as well. -/
def brokenLink : ResolvedLink :=
  ⟨"a\nb", TextMap.ofList [("X", "c\r\nd")], none, "user"⟩

/-- A link that ends in a carriage return, with a header that has no name and one whose name holds a
colon. -/
def namelessLink : ResolvedLink :=
  ⟨"a\r", TextMap.ofList [("", "c"), ("b:", "d")], none, "user"⟩

theorem standOnLines_namelessLink : StandOnLines namelessLink.link namelessLink.headers :=
  ⟨by decide, by decide, by decide +kernel⟩

/-- The one link is what an unsigned token is redeemed as, and the other what a signed token is; a
link that was issued passes the check. -/
theorem links_checked_at_creation_only_user :
    (∃ encoded, resolve 1000 (Credentials.ofEntries ["user:pass:word"])
      (unsignedMark ++ encoded) = .ok brokenLink) ∧
    (∃ token, Text.afterText? unsignedMark token = none ∧
      resolve 1000 (Credentials.ofEntries ["user:pass:word"]) token = .ok namelessLink) ∧
    ∃ token resolved, resolve 1000 (Credentials.ofEntries ["user:pass:word"]) token =
      .ok resolved ∧ resolved.CouldBeIssued := by
  obtain ⟨signed, unsigned, issued⟩ :=
    links_checked_at_creation_only 1000 (Credentials.ofEntries ["user:pass:word"])
  refine ⟨(unsigned brokenLink (by decide)).mpr (by decide),
    (signed namelessLink).mpr ⟨rfl, standOnLines_namelessLink⟩, ?_⟩
  have valid : (ResolvedLink.request ⟨"https://a.b/c", TextMap.empty, none, "user"⟩
    "pass:word").validate = .ok () := rfl
  have created : create 1000 default _ = .ok _ := create_of_unsigned valid rfl
  have redeemed := @resolve_unsigned 1000 (Credentials.ofEntries ["user:pass:word"]) _
    (LinkRequest.validate_eq_ok_iff.mp valid) rfl
  exact ⟨_, _, redeemed, issued _ _ _ _ _ created rfl redeemed⟩

/-- Links that no request could be issued for are redeemed, both from an unsigned and from a signed
token. -/
theorem redeemed_links_not_issued :
    (resolve 0 (Credentials.ofEntries ["alice:s3cret"])
        "base64.eyJ1IjoiYWxpY2U6czNjcmV0IiwidiI6ImFcbmJcciJ9" =
          .ok ⟨"a\nb\r", TextMap.empty, none, "alice"⟩ ∧
      ¬ ResolvedLink.CouldBeIssued ⟨"a\nb\r", TextMap.empty, none, "alice"⟩) ∧
    (resolve 0 (Credentials.ofEntries ["user:pass:word"])
        (sign "pass:word" (claimsOf 0 default (namelessLink.request "pass:word")).toJson) =
          .ok namelessLink ∧
      ¬ namelessLink.CouldBeIssued) := by
  refine ⟨⟨?_, fun issued => ?_⟩, ?_, fun issued => ?_⟩
  · have redeemed : (resolve 0 (Credentials.ofEntries ["alice:s3cret"])
        "base64.eyJ1IjoiYWxpY2U6czNjcmV0IiwidiI6ImFcbmJcciJ9").toOption =
          some ⟨"a\nb\r", TextMap.empty, none, "alice"⟩ := by decide +kernel
    exact toOption_eq_some_iff.mp redeemed
  · exact absurd (issued.linkOnLine '\n' (by decide)) (by decide)
  · exact @resolve_claimsOf 0 0 default _ (namelessLink.request "pass:word")
      standOnLines_namelessLink rfl rfl (by decide)
  · exact absurd (issued.linkOnLine '\r' (by decide)) (by decide)

end ProxyToken

end StoreGate
