import Mathlib.Data.Set.Function
import StoreGate.Proofs.SealedBoxOpening
/-!
# Frames of sealed payloads

A sealed form is a nonce, a byte for each byte of the payload, and the tag of those bytes.  Each
byte between the nonce and the tag is one of the payload with a byte of the key stream added, and
the key stream runs through the blocks of the cipher from the second one on.  Opening accepts
exactly what is framed so, and gives the payload that was framed: a nonce and a payload are worth
the same as their frame, and a nonce and a text the same as their spelling in base64.
-/

namespace StoreGate

namespace Crypto.ChaCha20

/-- A byte of the key stream: the blocks follow each other without gaps. -/
theorem getElem?_stream (key nonce : List UInt8) {count index : Nat} (counter : Nat)
    (inside : index < 64 * count) :
    (stream key nonce counter count)[index]? =
      (block key nonce (counter + index / 64))[index % 64]? := by
  induction count generalizing counter index with
  | zero => omega
  | succ count ih =>
      rw [stream]
      by_cases first : index < 64
      · rw [List.getElem?_append_left (by rw [length_block]; exact first)]
        have noBlock : index / 64 = 0 := by omega
        have samePlace : index % 64 = index := by omega
        rw [noBlock, samePlace, Nat.add_zero]
      · rw [List.getElem?_append_right (by rw [length_block]; omega), length_block,
          ih (counter + 1) (by omega)]
        have nextBlock : counter + 1 + (index - 64) / 64 = counter + index / 64 := by omega
        have samePlace : (index - 64) % 64 = index % 64 := by omega
        rw [nextBlock, samePlace]

end Crypto.ChaCha20

namespace SealedBox

variable {key : LinkKey} {nonce : Nonce} {payload box : List UInt8}

/-- The byte of the key stream that is added to a byte of a payload. -/
def keyByte (key nonce : List UInt8) (index : Nat) : UInt8 :=
  (Crypto.ChaCha20.block (Crypto.ChaCha20.subkey key (nonce.take 16)) (shortNonce nonce)
    (1 + index / 64)).getD (index % 64) 0

/-- How a payload is framed under a key and a nonce. -/
structure IsFrame (key : LinkKey) (nonce : Nonce) (payload box : List UInt8) : Prop where
  size : box.length = nonceSize + payload.length + tagSize
  begins : box.take nonceSize = nonce.bytes
  encrypted : ∀ index (inside : index < payload.length),
    box[nonceSize + index]? = some (payload[index] ^^^ keyByte key.bytes nonce.bytes index)
  ends : box.drop (nonceSize + payload.length) =
    tag key.bytes nonce.bytes ((box.drop nonceSize).take payload.length)

section Frames

theorem getElem?_crypt (key nonce : List UInt8) {bytes : List UInt8} {index : Nat}
    (inside : index < bytes.length) :
    (crypt key nonce bytes)[index]? = some (bytes[index] ^^^ keyByte key nonce index) := by
  have enough : index < 64 * (bytes.length / 64 + 1) := by omega
  have place : index % 64 < (Crypto.ChaCha20.block (Crypto.ChaCha20.subkey key (nonce.take 16))
      (shortNonce nonce) (1 + index / 64)).length := by
    rw [Crypto.ChaCha20.length_block]
    omega
  rw [crypt, Crypto.ChaCha20.apply, List.getElem?_zipWith, List.getElem?_eq_getElem inside,
    Crypto.ChaCha20.getElem?_stream _ _ _ enough, keyByte, List.getD_eq_getElem?_getD,
    List.getElem?_eq_getElem place]
  rfl

theorem isFrame_encrypt (key : LinkKey) (nonce : Nonce) (payload : List UInt8) :
    IsFrame key nonce payload (encrypt key nonce payload) := by
  have between : ((encrypt key nonce payload).drop nonceSize).take payload.length =
      crypt key.bytes nonce.bytes payload := by
    rw [drop_encrypt]
    exact List.take_left' (length_crypt _ _ _)
  constructor
  case size => exact length_encrypt key nonce payload
  case begins => exact take_encrypt key nonce payload
  case encrypted =>
    intro index inside
    have inCrypt : index < (crypt key.bytes nonce.bytes payload).length := by
      rwa [length_crypt]
    rw [← List.getElem?_drop, drop_encrypt, List.getElem?_append_left inCrypt,
      getElem?_crypt _ _ inside]
  case ends =>
    rw [between, ← List.drop_drop, drop_encrypt]
    exact List.drop_left' (length_crypt _ _ _)

theorem IsFrame.eq_encrypt (framed : IsFrame key nonce payload box) :
    box = encrypt key nonce payload := by
  have between : (box.drop nonceSize).take payload.length =
      crypt key.bytes nonce.bytes payload := by
    apply List.ext_getElem?
    intro index
    by_cases inside : index < payload.length
    · rw [List.getElem?_take_of_lt inside, List.getElem?_drop, framed.encrypted index inside,
        getElem?_crypt _ _ inside]
    · rw [List.getElem?_eq_none, List.getElem?_eq_none]
      · rw [length_crypt]
        omega
      · rw [List.length_take]
        omega
  calc box
    _ = box.take nonceSize ++ ((box.drop nonceSize).take payload.length ++
        (box.drop nonceSize).drop payload.length) := by
      rw [List.take_append_drop, List.take_append_drop]
    _ = encrypt key nonce payload := by
      rw [List.drop_drop, framed.ends, framed.begins, between, encrypt, List.append_assoc]

theorem isFrame_iff : IsFrame key nonce payload box ↔ box = encrypt key nonce payload := by
  constructor
  · exact IsFrame.eq_encrypt
  · rintro rfl
    exact isFrame_encrypt key nonce payload

end Frames

section Opening

theorem decrypt_of_short (short : box.length < nonceSize + tagSize) :
    decrypt key box = .error (.cryptographic "Ciphertext too short") := by
  rw [decrypt, if_pos short]

/-- What is opened is the frame of its payload under the nonce that it begins with. -/
theorem eq_encrypt_of_decrypt (opened : decrypt key box = .ok payload) :
    ∃ nonce : Nonce, nonce.bytes = box.take nonceSize ∧ box = encrypt key nonce payload := by
  unfold decrypt at opened
  split at opened
  · cases opened
  · rename_i long
    dsimp only at opened
    split at opened
    · rename_i tagged
      cases opened
      have size : (box.take nonceSize).length = nonceSize := by
        rw [List.length_take]
        omega
      refine ⟨⟨box.take nonceSize, size⟩, rfl, ?_⟩
      rw [encrypt, crypt_crypt, ← tagged, List.append_assoc, List.take_append_drop,
        List.take_append_drop]
    · cases opened

theorem decrypt_eq_ok_iff : decrypt key box = .ok payload ↔
    ∃ nonce : Nonce, nonce.bytes = box.take nonceSize ∧ box = encrypt key nonce payload := by
  constructor
  · exact eq_encrypt_of_decrypt
  · rintro ⟨nonce, _, rfl⟩
    exact decrypt_encrypt key nonce payload

theorem encrypt_injective {other : Nonce} {second : List UInt8}
    (same : encrypt key nonce payload = encrypt key other second) :
    nonce = other ∧ payload = second := by
  have nonces : nonce.bytes = other.bytes := by
    rw [← take_encrypt key nonce payload, same, take_encrypt]
  have opened := decrypt_encrypt key nonce payload
  rw [same, decrypt_encrypt] at opened
  cases nonce
  cases other
  cases nonces
  exact ⟨rfl, (Except.ok.inj opened).symm⟩

/-- A nonce and a payload are worth the same as a sealed form that is accepted. -/
theorem encrypt_bijOn (key : LinkKey) :
    Set.BijOn (fun parts : Nonce × List UInt8 => encrypt key parts.1 parts.2) Set.univ
      {box | ∃ payload, decrypt key box = .ok payload} := by
  refine ⟨?mapsTo, ?injOn, ?surjOn⟩
  case mapsTo =>
    rintro ⟨nonce, payload⟩ _
    exact ⟨payload, decrypt_encrypt key nonce payload⟩
  case injOn =>
    rintro ⟨nonce, payload⟩ _ ⟨other, second⟩ _ same
    obtain ⟨rfl, rfl⟩ := encrypt_injective same
    rfl
  case surjOn =>
    rintro box ⟨payload, opened⟩
    obtain ⟨nonce, _, rfl⟩ := decrypt_eq_ok_iff.mp opened
    exact ⟨(nonce, payload), trivial, rfl⟩

end Opening

section Texts

theorem openText_eq_ok_iff {secret sealed text : String} :
    openText secret sealed = .ok text ↔ ∃ nonce, sealed = sealText secret nonce text := by
  constructor
  · intro opened
    simp only [openText, bind_eq_ok_iff, mapError_eq_ok_iff, decodeBase64_eq_ok_iff,
      Utf8.decode_eq_ok_iff] at opened
    obtain ⟨box, rfl, payload, decrypted, rfl⟩ := opened
    obtain ⟨nonce, _, rfl⟩ := decrypt_eq_ok_iff.mp decrypted
    exact ⟨nonce, rfl⟩
  · rintro ⟨nonce, rfl⟩
    exact openText_sealText secret nonce text

/-- Whether a sealed text begins with a nonce. -/
def Carries (sealed : String) (nonce : Nonce) : Prop :=
  ∃ box, decodeBase64 sealed = .ok box ∧ box.take nonceSize = nonce.bytes

theorem carries_sealText_iff {secret text : String} {other : Nonce} :
    Carries (sealText secret nonce text) other ↔ nonce = other := by
  constructor
  · rintro ⟨box, decoded, begins⟩
    have same := Base64Url.encode_injective (decodeBase64_eq_ok_iff.mp decoded)
    rw [← same, take_encrypt] at begins
    cases nonce
    cases other
    cases begins
    rfl
  · rintro rfl
    exact ⟨_, decodeBase64_eq_ok_iff.mpr rfl, take_encrypt _ nonce _⟩

theorem existsUnique_sealed (secret text : String) (nonce : Nonce) :
    ∃! sealed, openText secret sealed = .ok text ∧ Carries sealed nonce := by
  refine ⟨sealText secret nonce text, ⟨openText_sealText secret nonce text,
    carries_sealText_iff.mpr rfl⟩, ?_⟩
  rintro sealed ⟨opened, carries⟩
  obtain ⟨other, rfl⟩ := openText_eq_ok_iff.mp opened
  rw [carries_sealText_iff.mp carries]

end Texts

/-- Encrypting frames a payload, and it is the only way to frame it under a nonce.  Decrypting gives
a payload exactly for its frame under the nonce that the frame begins with, and fails for everything
shorter than a nonce and a tag; so pairs of a nonce and a payload and accepted frames match one to
one.  A sealed text is opened exactly if it is the base64 of the frame of the text's bytes, and for
each nonce and text there is exactly one. -/
theorem framing_is_exact (key : LinkKey) (secret : String) :
    (∀ nonce payload box, box = encrypt key nonce payload ↔ IsFrame key nonce payload box) ∧
    (∀ box payload, decrypt key box = .ok payload ↔
      ∃ nonce : Nonce, nonce.bytes = box.take nonceSize ∧ box = encrypt key nonce payload) ∧
    (∀ box : List UInt8, box.length < 40 →
      decrypt key box = .error (.cryptographic "Ciphertext too short")) ∧
    Set.BijOn (fun parts : Nonce × List UInt8 => encrypt key parts.1 parts.2) Set.univ
      {box | ∃ payload, decrypt key box = .ok payload} ∧
    (∀ sealed text, openText secret sealed = .ok text ↔ ∃ nonce, sealed =
      Base64Url.encode (encrypt (LinkKey.derive secret) nonce (Utf8.encode text))) ∧
    ∀ nonce text, ∃! sealed, openText secret sealed = .ok text ∧ Carries sealed nonce := by
  refine ⟨?frames, ?opens, ?short, encrypt_bijOn key, ?texts, ?unique⟩
  case frames =>
    intro nonce payload box
    exact isFrame_iff.symm
  case opens =>
    intro box payload
    exact decrypt_eq_ok_iff
  case short =>
    intro box short
    exact decrypt_of_short short
  case texts =>
    intro sealed text
    exact openText_eq_ok_iff
  case unique =>
    intro nonce text
    exact existsUnique_sealed secret text nonce

end SealedBox

end StoreGate
