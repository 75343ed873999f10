import StoreGate.CommandLine.Run
import StoreGate.Proofs.Proxy.TokenRoundTrip
/-!
# What becomes of a token in the second of its making

The second in which a token expires is the sum of the present second and the lifetime, and has to
have 64 bits.  While the sum fits, the token is redeemed in the second of its making, since its
lifetime is counted as one second at least.  When it does not fit, no token is issued at all.
-/

namespace StoreGate.ProxyToken

/-- A valid request with a lifetime leads to a token that is redeemed in the second of its making if
the end of its lifetime fits in 64 bits; otherwise issuing the token breaks off. -/
theorem redeemed_at_once_unless_overflow (now : Nat) (nonce : Nonce) (credentials : Credentials)
    (request : LinkRequest) (valid : request.validate = .ok ())
    (known : credentials.secret? request.user = some request.secret)
    (mortal : request.lifetime.isZero = false) :
    if now + max 1 request.lifetime.seconds < bitLimit 64 then
      ∃ token, create now nonce request = .ok token ∧
        resolve now credentials token =
          .ok ⟨request.link, request.headers, request.tunnel, request.user⟩
    else create now nonce request = .error .overflow := by
  split
  · rename_i fits
    have countable := isCountable_iff_room.mpr (.inr fits)
    refine ⟨_, create_of_signed valid (isSigned_of_mortal mortal) countable, ?_⟩
    apply resolve_signed (LinkRequest.validate_eq_ok_iff.mp valid) known countable
    intro second isExpiry
    obtain ⟨_, rfl⟩ := mem_expiry_iff.mp isExpiry
    omega
  · rename_i overflows
    have uncountable : isCountable now request.lifetime ≠ true := fun countable =>
      overflows ((isCountable_iff_room.mp countable).resolve_left (by simp [mortal]))
    exact create_of_overflow valid (Bool.not_eq_true _ ▸ uncountable)

/-- A link for a user, with a lifetime in seconds. -/
def lastingRequest (seconds : Nat) : LinkRequest :=
  ⟨"https://a.b/c", TextMap.empty, none, Duration.ofSeconds seconds, "user", "pass:word", false,
    some "c"⟩

theorem validate_lastingRequest (seconds : Nat) : (lastingRequest seconds).validate = .ok () := by
  simp [LinkRequest.validate, lastingRequest, TextMap.empty, isLineBreak]

/-- The longest lifetime that ends within 64 bits leads to a token that is redeemed, and one more
second to none. -/
theorem redeemed_at_once_unless_overflow_longest :
    (∃ token, create 1000 default (lastingRequest (bitLimit 64 - 1001)) = .ok token ∧
      resolve 1000 (Credentials.ofEntries ["user:pass:word"]) token =
        .ok ⟨"https://a.b/c", TextMap.empty, none, "user"⟩) ∧
    create 1000 default (lastingRequest (bitLimit 64 - 1000)) = .error .overflow := by
  have redeemed := fun seconds mortal =>
    redeemed_at_once_unless_overflow 1000 default (Credentials.ofEntries ["user:pass:word"])
      (lastingRequest seconds) (validate_lastingRequest seconds) rfl mortal
  exact ⟨(if_pos (by decide)).mp (redeemed (bitLimit 64 - 1001) (by decide)),
    (if_neg (by decide)).mp (redeemed (bitLimit 64 - 1000) (by decide))⟩

/-- The longest lifetime that can be asked for on the command line is one that a request may have,
and no link is issued for it. -/
theorem longest_lifetime_overflows :
    (lastingRequest (bitLimit 64 - 1)).validate = .ok () ∧
    (lastingRequest (bitLimit 64 - 1)).lifetime.isZero = false ∧
    (lastingRequest (bitLimit 64 - 1)).lifetime.nanoseconds ≤ Duration.longest.nanoseconds ∧
    create 1000 default (lastingRequest (bitLimit 64 - 1)) = .error .overflow ∧
    CommandLine.issueLink 1000 default GatewayConfig.standard
      ⟨"https://a.b/c", "user", some "pass:word", [], none, bitLimit 64 - 1, false, some "c"⟩ =
        .error .overflow := by
  have overflows : create 1000 default (lastingRequest (bitLimit 64 - 1)) = .error .overflow :=
    create_of_overflow (validate_lastingRequest _) (by decide)
  refine ⟨validate_lastingRequest _, by decide, by decide, overflows, ?_⟩
  change (ProxyLink.create 1000 default GatewayConfig.standardBaseUrl
    (lastingRequest (bitLimit 64 - 1))).mapError
      (CommandLine.Mishap.ofHalt "Failed to create proxy link") = _
  rw [ProxyLink.create, overflows]
  rfl

end StoreGate.ProxyToken
