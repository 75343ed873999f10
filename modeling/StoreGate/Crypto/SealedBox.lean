import StoreGate.Base64Url
import StoreGate.Crypto.Blake2b
import StoreGate.Crypto.ChaCha20
import StoreGate.Crypto.Poly1305
import StoreGate.Failure
/-!
# Sealed payloads

A payload is sealed with XChaCha20-Poly1305 under a key derived from a shared secret. The sealed
form is the nonce, the encrypted bytes and the tag; as text it is written in base64. Opening checks
the tag before it decrypts anything.
-/

namespace StoreGate

/-- A symmetric key of 32 bytes. -/
structure LinkKey where
  bytes : List UInt8
  size : bytes.length = 32

namespace LinkKey

/-- What is hashed in front of the secret, so that the key serves this purpose only. -/
def context : String := "debridgate/proxy-link/v1"

/-- The key of a shared secret. -/
def derive (secret : String) : LinkKey :=
  ⟨Crypto.Blake2b.digest 32 (Utf8.encode context ++ Utf8.encode secret),
    Crypto.Blake2b.length_digest (by decide) _⟩

/-- The text that stands for a key in messages to people; it shows nothing of the key. -/
def redacted : String := "LinkKey([REDACTED])"

end LinkKey

/-- The 24 bytes that make two sealings of one payload differ. -/
structure Nonce where
  bytes : List UInt8
  size : bytes.length = 24

namespace Nonce

/-- The nonce of some bytes, cut or filled up with zeros to its size. -/
def ofBytes (bytes : List UInt8) : Nonce :=
  ⟨(bytes ++ List.replicate 24 0).take 24, by simp⟩

instance : Inhabited Nonce := ⟨ofBytes []⟩

end Nonce

namespace SealedBox

def nonceSize : Nat := 24

def tagSize : Nat := 16

/-- The name of the format, recorded beside payloads that are sealed. -/
def format : String := "xchacha20poly1305"

/-- Zeros that fill bytes up to a multiple of sixteen. -/
def filling (bytes : List UInt8) : List UInt8 :=
  List.replicate ((16 - bytes.length % 16) % 16) 0

/-- The short nonce that goes with the subkey of a long one. -/
def shortNonce (nonce : List UInt8) : List UInt8 :=
  [0, 0, 0, 0] ++ nonce.drop 16

/-- The tag of encrypted bytes. -/
def tag (key nonce encrypted : List UInt8) : List UInt8 :=
  let subkey := Crypto.ChaCha20.subkey key (nonce.take 16)
  let oneTime := (Crypto.ChaCha20.block subkey (shortNonce nonce) 0).take 32
  Crypto.Poly1305.tag oneTime
    (encrypted ++ filling encrypted ++ Crypto.littleEndianBytes 8 0 ++
      Crypto.littleEndianBytes 8 encrypted.length)

/-- Encrypts or decrypts: adding the key stream twice changes nothing. -/
def crypt (key nonce bytes : List UInt8) : List UInt8 :=
  Crypto.ChaCha20.apply (Crypto.ChaCha20.subkey key (nonce.take 16)) (shortNonce nonce) 1 bytes

/-- The sealed form of a payload. -/
def encrypt (key : LinkKey) (nonce : Nonce) (payload : List UInt8) : List UInt8 :=
  let encrypted := crypt key.bytes nonce.bytes payload
  nonce.bytes ++ encrypted ++ tag key.bytes nonce.bytes encrypted

/-- The payload of a sealed form. -/
def decrypt (key : LinkKey) (box : List UInt8) : Outcome (List UInt8) :=
  if box.length < nonceSize + tagSize then .error (.cryptographic "Ciphertext too short")
  else
    let nonce := box.take nonceSize
    let body := box.drop nonceSize
    let encrypted := body.take (body.length - tagSize)
    if body.drop (body.length - tagSize) = tag key.bytes nonce encrypted then
      .ok (crypt key.bytes nonce encrypted)
    else .error (.cryptographic "Decryption failed: aead::Error")

theorem length_encrypt (key : LinkKey) (nonce : Nonce) (payload : List UInt8) :
    (encrypt key nonce payload).length = nonceSize + payload.length + tagSize := by
  simp [encrypt, crypt, tag, nonce.size, Crypto.ChaCha20.length_apply, Crypto.Poly1305.length_tag,
    nonceSize, tagSize, Nat.add_assoc]

end SealedBox

/-- Decodes base64, as callers hand it in. -/
def decodeBase64 (text : String) : Outcome (List UInt8) :=
  (Base64Url.decode text).mapError fun fault => .invalidInput ("Invalid base64: " ++ fault.message)

/-- Decodes base64 that must hold text. -/
def decodeBase64Text (text : String) : Outcome String := do
  let bytes ← decodeBase64 text
  (Utf8.decode bytes).mapError fun fault => .invalidInput ("Invalid UTF-8: " ++ fault.message)

namespace SealedBox

/-- Seals a text under the key of a secret, and writes the result in base64. -/
def sealText (secret : String) (nonce : Nonce) (text : String) : String :=
  Base64Url.encode (encrypt (LinkKey.derive secret) nonce (Utf8.encode text))

/-- Opens what was sealed as text. -/
def openText (secret sealed : String) : Outcome String := do
  let box ← (decodeBase64 sealed).mapError fun failure =>
    .cryptographic ("Sealed payload is not base64: " ++ failure.message)
  let payload ← decrypt (LinkKey.derive secret) box
  (Utf8.decode payload).mapError fun fault =>
    .cryptographic ("Decrypted payload is not UTF-8: " ++ fault.message)

end SealedBox

end StoreGate
