import StoreGate.Proofs.Proxy.SignedTokenForm
/-!
# When a token is redeemed

Redeeming succeeds exactly when each of its steps does, so that what a redeemed token says can be
read off from its success.  What follows here says so for either form of tokens.
-/

namespace StoreGate.ProxyToken

open SignedToken

theorem resolveSigned_eq_ok_iff {now : Nat} {credentials : Credentials} {token : String}
    {resolved : ResolvedLink} :
    resolveSigned now credentials token = .ok resolved ↔
      ∃ parts secret claims lines link rest headers,
        parts? token = some parts ∧ subject? parts = some resolved.user ∧
        credentials.secret? resolved.user = some secret ∧
        verify Claims.ofJson? issuer secret now parts = .ok claims ∧
        (∀ second ∈ claims.expiry, now < second) ∧
        openData secret claims.data = .ok lines ∧
        Text.fields '\n' lines.toList = link :: rest ∧ readHeaders rest = some headers ∧
        link ≠ [] ∧ resolved.link = String.ofList link ∧
        resolved.headers = TextMap.ofList headers ∧ resolved.tunnel = claims.data.tunnel := by
  simp only [resolveSigned, bind_eq_ok_iff, orFail_eq_ok_iff, mapError_eq_ok_iff,
    throw_bind_else_eq_ok_iff]
  constructor
  · rintro ⟨parts, divided, user, isUser, secret, known, claims, verified, live, lines, opened,
      read⟩
    split at read
    · cases read
    · rename_i link rest found
      simp only [bind_eq_ok_iff, orFail_eq_ok_iff, throw_bind_else_eq_ok_iff] at read
      obtain ⟨headers, areHeaders, hasLink, returned⟩ := read
      cases returned
      refine ⟨parts, secret, claims, lines, link, rest, headers, divided, isUser, known, verified,
        ?_, opened, found, areHeaders, ?_, rfl, rfl, rfl⟩
      · intro second isExpiry
        simpa [Option.mem_def.mp isExpiry] using live
      · simpa using hasLink
  · rintro ⟨parts, secret, claims, lines, link, rest, headers, divided, isUser, known, verified,
      live, opened, found, areHeaders, hasLink, isLink, isHeaders, isTunnel⟩
    refine ⟨parts, divided, resolved.user, isUser, secret, known, claims, verified, ?_, lines,
      opened, ?_⟩
    · cases isExpiry : claims.expiry with
      | none => simp
      | some second => simpa using live second isExpiry
    · rw [found]
      simp only [bind_eq_ok_iff, orFail_eq_ok_iff, throw_bind_else_eq_ok_iff]
      refine ⟨headers, areHeaders, by simpa using hasLink, ?_⟩
      rw [← isLink, ← isHeaders, ← isTunnel]
      rfl

/-- A token whose user is known is refused for want of authority when no claims of it that verify
are still in time. -/
theorem resolveSigned_eq_unauthorized {now : Nat} {credentials : Credentials} {token : String}
    {parts : Parts} {user secret : String} (divided : parts? token = some parts)
    (isUser : subject? parts = some user) (known : credentials.secret? user = some secret)
    (expired : ∀ claims, verify Claims.ofJson? issuer secret now parts = .ok claims →
      ∃ second ∈ claims.expiry, second ≤ now) :
    ∃ reason, resolveSigned now credentials token = .error (.unauthorized reason) := by
  unfold resolveSigned
  rw [divided]
  simp only [orFail, bind, Except.bind, isUser, known]
  cases verified : verify Claims.ofJson? issuer secret now parts with
  | ok claims =>
      obtain ⟨second, isExpiry, passed⟩ := expired claims verified
      have isPassed : claims.expiry.any (· ≤ now) = true := by
        rw [Option.mem_def.mp isExpiry]
        simpa using passed
      simp only [mapError_ok, isPassed, if_true]
      exact ⟨_, rfl⟩
  | error fault => exact ⟨_, rfl⟩

theorem resolveUnsigned_eq_ok_iff {credentials : Credentials} {encoded : String}
    {resolved : ResolvedLink} :
    resolveUnsigned credentials encoded = .ok resolved ↔
      ∃ bytes document payload secret,
        encoded = Base64Url.encode bytes ∧ Json.parse? bytes = some document ∧
        Payload.ofJson? document = some payload ∧
        Text.splitTextAt? ':' payload.credential = some (resolved.user, secret) ∧
        credentials.secret? resolved.user = some secret ∧ resolved.link = payload.link ∧
        resolved.headers = payload.headers ∧ resolved.tunnel = payload.tunnel := by
  simp only [resolveUnsigned, bind_eq_ok_iff, orFail_eq_ok_iff, throw_bind_else_eq_ok_iff,
    Base64Url.decode?_eq_some_iff, Prod.exists]
  constructor
  · rintro ⟨bytes, isEncoded, payload, found, user, secret, divided, verified, returned⟩
    obtain ⟨document, parsed, readable⟩ := Option.bind_eq_some_iff.mp found
    cases returned
    have known := (credentials.verify_iff user secret).mp (by simpa using verified)
    exact ⟨bytes, document, payload, secret, isEncoded, parsed, readable, divided, known, rfl, rfl,
      rfl⟩
  · rintro ⟨bytes, document, payload, secret, isEncoded, parsed, readable, divided, known, isLink,
      isHeaders, isTunnel⟩
    have verified := (credentials.verify_iff resolved.user secret).mpr known
    refine ⟨bytes, isEncoded, payload, Option.bind_eq_some_iff.mpr ⟨document, parsed, readable⟩,
      resolved.user, secret, divided, by simp [verified], ?_⟩
    rw [← isLink, ← isHeaders, ← isTunnel]
    rfl

end StoreGate.ProxyToken
