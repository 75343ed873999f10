import StoreGate.Proofs.Json.Records
import StoreGate.Proofs.Json.RoundTrip
import StoreGate.Proofs.TextMaps
import StoreGate.Proxy.Token
/-!
# Tokens' documents are read back

The payload of an unsigned token and the claims of a signed one are written as objects without
repeated names.  Their readers find each field again, an absent one as its default, and their
documents hold only numbers that fit, so they survive being written as text.
-/

namespace StoreGate

theorem Tunnel.ofJson?_name (tunnel : Tunnel) : ofJson? (.string tunnel.name) = some tunnel := by
  cases tunnel <;> rfl

namespace Json

theorem isExact_ofTextMap (map : TextMap) : (ofTextMap map).isExact = true := by
  have values : ∀ entries : List (String × String),
      haveExactValues (entries.map fun entry => (entry.1, .string entry.2)) = true := by
    intro entries
    induction entries with
    | nil => rfl
    | cons entry rest ih => simp [haveExactValues, isExact, ih]
  simp [ofTextMap, isExact, values]

end Json

namespace ProxyToken

open Json

section Payload

theorem Payload.ofJson?_toJson (payload : Payload) : ofJson? payload.toJson = some payload := by
  obtain ⟨credential, link, headers, tunnel⟩ := payload
  have readHeaders := textMap?_ofTextMap headers
  by_cases noHeaders : headers.entries = []
  · have isEmpty : headers = TextMap.empty := TextMap.ext noHeaders
    subst isEmpty
    cases tunnel <;>
      simp [ofJson?, toJson, TextMap.isEmpty, TextMap.empty, tunnelMembers, fields?_object, known,
        Fields.required, Fields.optional, Fields.withDefault, List.lookup_cons, text?, nullable?,
        Tunnel.ofJson?_name]
  · have notEmpty : headers.isEmpty = false := by simpa [TextMap.isEmpty] using noHeaders
    cases tunnel <;>
      simp [ofJson?, toJson, notEmpty, tunnelMembers, fields?_object, known, Fields.required,
        Fields.optional, Fields.withDefault, List.lookup_cons, text?, nullable?, readHeaders,
        Tunnel.ofJson?_name]

theorem Payload.isExact_toJson (payload : Payload) : payload.toJson.isExact = true := by
  obtain ⟨credential, link, headers, tunnel⟩ := payload
  have exactHeaders := isExact_ofTextMap headers
  by_cases noHeaders : headers.isEmpty <;> cases tunnel <;>
    simp [toJson, noHeaders, tunnelMembers, isExact, haveExactValues, exactHeaders]

end Payload

section Claims

variable {claims : Claims}

theorem Claims.readData?_toJson (data : LinkData) :
    readData? (.object ([("enc_link", .string data.link), ("enc_format", .string data.format)] ++
      tunnelMembers data.tunnel)) = some data := by
  obtain ⟨link, format, tunnel⟩ := data
  cases tunnel <;>
    simp [readData?, tunnelMembers, fields?_object, known, Fields.required, Fields.optional,
      Fields.withDefault, List.lookup_cons, text?, nullable?, Tunnel.ofJson?_name]

theorem Claims.ofJson?_toJson (fits : ∀ second ∈ claims.expiry, second < bitLimit 64) :
    ofJson? claims.toJson = some claims := by
  obtain ⟨issuer, subject, expiry, data⟩ := claims
  have readData := Claims.readData?_toJson data
  rw [List.cons_append, List.cons_append, List.nil_append] at readData
  cases expiry with
  | none =>
      simp [ofJson?, toJson, fields?_object, known, Fields.required, Fields.optional,
        Fields.withDefault, List.lookup_cons, text?, readData]
  | some second =>
      have bound := fits second rfl
      have read : nullable? (natural? 64) (.integer second) = some (some second) := by
        simp [nullable?, natural?, integerWithin?]
        omega
      simp [ofJson?, toJson, fields?_object, known, Fields.required, Fields.optional,
        Fields.withDefault, List.lookup_cons, text?, readData, read]

theorem Claims.isExact_toJson (fits : ∀ second ∈ claims.expiry, second < bitLimit 64) :
    claims.toJson.isExact = true := by
  obtain ⟨issuer, subject, expiry, ⟨link, format, tunnel⟩⟩ := claims
  cases expiry with
  | none => cases tunnel <;> simp [toJson, tunnelMembers, isExact, haveExactValues]
  | some second =>
      have bound := fits second rfl
      have fitsInteger : fitsInteger second = true := by
        simp [fitsInteger]
        omega
      cases tunnel <;> simp [toJson, tunnelMembers, isExact, haveExactValues, fitsInteger]

end Claims

end ProxyToken

end StoreGate
