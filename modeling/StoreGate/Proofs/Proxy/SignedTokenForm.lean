import StoreGate.Proofs.Base64Canonical
import StoreGate.Proofs.Json.RoundTrip
import StoreGate.Proofs.TextParts
/-!
# When a signed token is accepted

A token is cut at its two dots.  It is accepted exactly when its header names the algorithm, its
third part is the one authentication code of the first two under the secret, and its second part
holds a document that the reader takes and whose registered claims pass.
-/

namespace StoreGate.SignedToken

variable {α : Type}

/-- The three parts of a token, none of which holds a dot. -/
theorem parts?_eq_some_iff {token : String} {parts : Parts} :
    parts? token = some parts ↔
      token.toList = parts.header ++ '.' :: (parts.claims ++ '.' :: parts.signature) ∧
      '.' ∉ parts.header ∧ '.' ∉ parts.claims ∧ '.' ∉ parts.signature := by
  obtain ⟨header, claims, signature⟩ := parts
  constructor
  · intro divided
    unfold parts? at divided
    split at divided
    · rename_i all
      cases divided
      obtain ⟨headerWhole, ⟨_, none⟩ | ⟨afterHeader, joined, others⟩⟩ := Text.fields_eq_cons all
      · cases none
      obtain ⟨claimsWhole, ⟨_, none⟩ | ⟨afterClaims, rfl, last⟩⟩ := Text.fields_eq_cons others
      · cases none
      obtain ⟨signatureWhole, ⟨rfl, _⟩ | ⟨after, _, none⟩⟩ := Text.fields_eq_cons last
      · exact ⟨joined, headerWhole, claimsWhole, signatureWhole⟩
      · exact absurd none (Text.fields_ne_nil '.' after)
    · cases divided
  · rintro ⟨joined, headerWhole, claimsWhole, signatureWhole⟩
    rw [parts?, joined, Text.fields_append headerWhole, Text.fields_append claimsWhole,
      Text.fields_of_not_mem signatureWhole]

theorem decodePart_eq_ok_iff {part : List Char} {bytes : List UInt8} :
    decodePart part = .ok bytes ↔ part = Base64Url.encodeBytes bytes := by
  rw [decodePart, mapError_eq_ok_iff, Base64Url.decode_eq_ok_iff, Base64Url.encode,
    String.ofList_inj]

theorem orJsonFault_eq_ok_iff {found : Option α} {value : α} :
    orJsonFault found = .ok value ↔ found = some value := by
  cases found <;> simp [orJsonFault]

theorem headerAlgorithm?_headerJson : headerAlgorithm? headerJson = some algorithm := by
  decide

theorem isExact_headerJson : headerJson.isExact = true := by
  decide

/-- What the registered claims of an accepted token say at a time in seconds. -/
structure ArePassed (now : Nat) (issuer : String) (fields : Json.Fields) : Prop where
  issuer : fields.given.lookup "iss" = some (.string issuer)
  expiry : ∀ value, fields.given.lookup "exp" = some value →
    ∃ second : Int, value = .integer second ∧ now ≤ second
  start : isPassable ((fields.given.lookup "nbf").getD .null) = true
  storable : ((fields.given.lookup "aud").getD .null).isStorable = true
  audience : isAudience ((fields.given.lookup "aud").getD .null) = false

theorem checkClaims_eq_ok_iff {now : Nat} {issuer : String} {claims : Json} :
    checkClaims now issuer claims = .ok () ↔
    ∃ fields, claims.fields? registeredClaims = some fields ∧ ArePassed now issuer fields := by
  simp only [checkClaims, bind_eq_ok_iff, orJsonFault_eq_ok_iff]
  refine exists_congr fun fields => and_congr_right fun _ => ?_
  have named : ((fields.given.lookup "iss").getD .null).text? = some issuer ↔
      fields.given.lookup "iss" = some (.string issuer) := by
    cases found : fields.given.lookup "iss" with
    | none => simp [Json.text?]
    | some value => cases value <;> simp [Json.text?]
  rw [throw_bind_else_eq_ok_iff]
  constructor
  · rintro ⟨kept, passed⟩
    have keeps : isPassable ((fields.given.lookup "nbf").getD .null) = true ∧
        ((fields.given.lookup "aud").getD .null).isStorable = true := by
      simpa using kept
    split at passed
    · rename_i noExpiry
      rw [throw_bind_else_eq_ok_iff, throw_else_eq_ok_iff] at passed
      obtain ⟨isNamed, audience, _⟩ := passed
      exact ⟨named.mp (by simpa using isNamed), by simp [noExpiry], keeps.1, keeps.2,
        by simpa using audience⟩
    · rename_i second expiry
      rw [throw_bind_else_eq_ok_iff, throw_bind_else_eq_ok_iff, throw_else_eq_ok_iff] at passed
      obtain ⟨later, isNamed, audience, _⟩ := passed
      exact ⟨named.mp (by simpa using isNamed), by simpa [expiry] using later, keeps.1, keeps.2,
        by simpa using audience⟩
    · cases passed
  · rintro ⟨issuer, expiry, start, storable, audience⟩
    refine ⟨by simp [start, storable], ?_⟩
    split
    · rw [throw_bind_else_eq_ok_iff, throw_else_eq_ok_iff]
      exact ⟨by simp [issuer, Json.text?], by simp [audience], rfl⟩
    · rename_i second given
      obtain ⟨_, same, later⟩ := expiry _ given
      cases same
      rw [throw_bind_else_eq_ok_iff, throw_bind_else_eq_ok_iff, throw_else_eq_ok_iff]
      exact ⟨by omega, by simp [issuer, Json.text?], by simp [audience], rfl⟩
    · rename_i other given
      obtain ⟨second, same, later⟩ := expiry _ given
      exact absurd same (other second)

/-- A token is accepted exactly when its header names the algorithm, its signature is the code of
its first two parts, and its claims are readable and pass. -/
theorem verify_eq_ok_iff {read : Json → Option α} {issuer secret : String} {now : Nat}
    {token : Parts} {value : α} :
    verify read issuer secret now token = .ok value ↔
      (∃ bytes header, token.header = Base64Url.encodeBytes bytes ∧
        Json.parse? bytes = some header ∧ headerAlgorithm? header = some algorithm) ∧
      token.signature = Base64Url.encodeBytes (Crypto.Sha256.authenticate (Utf8.encode secret)
        (signedBytes token.header token.claims)) ∧
      ∃ bytes document, token.claims = Base64Url.encodeBytes bytes ∧
        Json.parse? bytes = some document ∧ read document = some value ∧
        checkClaims now issuer document = .ok () := by
  simp only [verify, bind_eq_ok_iff, decodePart_eq_ok_iff, orJsonFault_eq_ok_iff,
    throw_bind_else_eq_ok_iff]
  constructor
  · rintro ⟨headerBytes, isHeader, named, found, isNamed, code, isCode, same, claimsBytes, isClaims,
      document, isDocument, readValue, readable, _, passed, returned⟩
    obtain ⟨header, parsed, names⟩ := Option.bind_eq_some_iff.mp found
    rw [not_not] at isNamed same
    subst isNamed same
    cases returned
    exact ⟨⟨headerBytes, header, isHeader, parsed, names⟩, isCode, claimsBytes, document, isClaims,
      isDocument, readable, passed⟩
  · rintro ⟨⟨headerBytes, header, isHeader, parsed, named⟩, signature, claimsBytes, document,
      isClaims, isDocument, readable, passed⟩
    exact ⟨headerBytes, isHeader, algorithm, Option.bind_eq_some_iff.mpr ⟨header, parsed, named⟩,
      not_not.mpr rfl, _, signature, not_not.mpr rfl, claimsBytes, isClaims, document, isDocument,
      value, readable, (), passed, rfl⟩

/-- The parts of a token that was signed. -/
theorem parts?_sign (secret : String) (claims : Json) :
    parts? (sign secret claims) = some {
      header := Base64Url.encodeBytes (documentBytes headerJson)
      claims := Base64Url.encodeBytes (documentBytes claims)
      signature := Base64Url.encodeBytes (Crypto.Sha256.authenticate (Utf8.encode secret)
        (signedBytes (Base64Url.encodeBytes (documentBytes headerJson))
          (Base64Url.encodeBytes (documentBytes claims)))) } := by
  have foreign : Base64Url.value? '.' = none := by decide
  have noDot := Base64Url.not_mem_encodeBytes foreign
  exact parts?_eq_some_iff.mpr ⟨by simp [sign], noDot _, noDot _, noDot _⟩

end StoreGate.SignedToken
