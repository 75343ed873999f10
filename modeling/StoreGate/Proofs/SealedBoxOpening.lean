import StoreGate.Proofs.Base64Canonical
import StoreGate.Proofs.Outcomes
/-!
# What is sealed can be opened

The key stream depends on the length of the payload only, so adding it a second time takes it away
again.  A sealed form is cut at the same places where it was put together, its tag is the one that
is computed again, and the payload comes back under the same secret.
-/

namespace StoreGate

namespace Crypto.ChaCha20

theorem zipWith_xor_cancel {bytes keys : List UInt8} (enough : bytes.length ≤ keys.length) :
    List.zipWith (· ^^^ ·) (List.zipWith (· ^^^ ·) bytes keys) keys = bytes := by
  induction bytes generalizing keys with
  | nil => rfl
  | cons byte bytes ih =>
      cases keys with
      | nil => simp at enough
      | cons key keys =>
          have others := ih (Nat.le_of_succ_le_succ enough)
          rw [List.zipWith_cons_cons, List.zipWith_cons_cons, others, UInt8.xor_assoc,
            UInt8.xor_self, UInt8.xor_zero]

theorem apply_apply (key nonce : List UInt8) (counter : Nat) (bytes : List UInt8) :
    apply key nonce counter (apply key nonce counter bytes) = bytes := by
  have enough : bytes.length ≤ (stream key nonce counter (bytes.length / 64 + 1)).length := by
    rw [length_stream]
    omega
  have sameLength := length_apply key nonce counter bytes
  rw [apply, sameLength, apply, zipWith_xor_cancel enough]

end Crypto.ChaCha20

namespace SealedBox

theorem crypt_crypt (key nonce bytes : List UInt8) :
    crypt key nonce (crypt key nonce bytes) = bytes :=
  Crypto.ChaCha20.apply_apply _ _ _ _

theorem length_crypt (key nonce bytes : List UInt8) :
    (crypt key nonce bytes).length = bytes.length :=
  Crypto.ChaCha20.length_apply _ _ _ _

theorem length_tag (key nonce encrypted : List UInt8) :
    (tag key nonce encrypted).length = tagSize :=
  Crypto.Poly1305.length_tag _ _

theorem take_encrypt (key : LinkKey) (nonce : Nonce) (payload : List UInt8) :
    (encrypt key nonce payload).take nonceSize = nonce.bytes := by
  rw [encrypt, List.append_assoc]
  exact List.take_left' nonce.size

theorem drop_encrypt (key : LinkKey) (nonce : Nonce) (payload : List UInt8) :
    (encrypt key nonce payload).drop nonceSize =
      crypt key.bytes nonce.bytes payload ++
        tag key.bytes nonce.bytes (crypt key.bytes nonce.bytes payload) := by
  rw [encrypt, List.append_assoc]
  exact List.drop_left' nonce.size

theorem decrypt_encrypt (key : LinkKey) (nonce : Nonce) (payload : List UInt8) :
    decrypt key (encrypt key nonce payload) = .ok payload := by
  have long : ¬ (encrypt key nonce payload).length < nonceSize + tagSize := by
    rw [length_encrypt]
    omega
  rw [decrypt, if_neg long]
  simp only [take_encrypt, drop_encrypt, List.length_append, length_tag, Nat.add_sub_cancel,
    List.take_left, List.drop_left, if_true, crypt_crypt]

/-- A sealed text is opened under the secret that it was sealed with. -/
theorem openText_sealText (secret : String) (nonce : Nonce) (text : String) :
    openText secret (sealText secret nonce text) = .ok text := by
  simp only [openText, bind_eq_ok_iff, mapError_eq_ok_iff]
  exact ⟨_, decodeBase64_eq_ok_iff.mpr rfl, _, decrypt_encrypt _ _ _, Utf8.decode_encode text⟩

end SealedBox

end StoreGate
