import StoreGate.LockedLink
import StoreGate.Proofs.Base64Canonical
import StoreGate.Proofs.StoreNames
import StoreGate.Proofs.TextParts
/-!
# Locked links are an exact code

An address whose parts can be told apart again has one link for each store, and a store reads that
link only.  Everything else is refused as an invalid link, whatever its fault: the mark of another
store, base64 in another spelling, bytes that are no text, a missing colon, or an empty part.
-/

namespace StoreGate

namespace LockedLink

/-- An address whose two parts are found again behind the colon that joins them. -/
structure IsReadable (address : LockedLink) : Prop where
  root : address.rootId ≠ ""
  undivided : ':' ∉ address.rootId.toList
  file : address.fileId ≠ ""

/-- Reading divides the text of a link where writing has joined it, and nowhere else. -/
theorem decode_eq_ok_iff {store : Store} {link : String} {address : LockedLink} :
    decode store link = .ok address ↔ address.IsReadable ∧ link = encode store address := by
  obtain ⟨rootId, fileId⟩ := address
  constructor
  · intro decoded
    unfold decode at decoded
    split at decoded
    · cases decoded
    · rename_i encoded marked
      split at decoded
      · cases decoded
      · rename_i text isText
        split at decoded
        · cases decoded
        · rename_i root file divided
          split at decoded
          · cases decoded
          · rename_i whole
            cases decoded
            rw [Bool.or_eq_true, not_or, String.isEmpty_iff, String.isEmpty_iff] at whole
            obtain ⟨undivided, joined⟩ := Text.splitTextAt?_eq_some_iff.mp divided
            refine ⟨⟨whole.1, undivided, whole.2⟩, ?_⟩
            rw [Text.afterText?_eq_some_iff.mp marked,
              decodeBase64Text_eq_ok_iff.mp isText, joined]
            rfl
  · rintro ⟨readable, rfl⟩
    have marked : Text.afterText? (mark store) (encode store ⟨rootId, fileId⟩) =
        some (Base64Url.encode (Utf8.encode (rootId ++ ":" ++ fileId))) :=
      Text.afterText?_eq_some_iff.mpr rfl
    have isText := decodeBase64Text_eq_ok_iff.mpr
      (rfl : Base64Url.encode (Utf8.encode (rootId ++ ":" ++ fileId)) = _)
    have divided : Text.splitTextAt? ':' (rootId ++ ":" ++ fileId) = some (rootId, fileId) :=
      Text.splitTextAt?_eq_some_iff.mpr ⟨readable.undivided, rfl⟩
    have whole : (rootId.isEmpty || fileId.isEmpty) = false := by
      simpa using ⟨readable.root, readable.file⟩
    simp [decode, marked, isText, divided, whole]

/-- Whatever is wrong with a link, it is refused in the same way. -/
theorem invalidLink_of_decode {store : Store} {link : String} {failure : Failure}
    (refused : decode store link = .error failure) : ∃ reason, failure = .invalidLink reason := by
  unfold decode at refused
  split at refused
  · cases refused
    exact ⟨_, rfl⟩
  · split at refused
    · cases refused
      exact ⟨_, rfl⟩
    · split at refused
      · cases refused
        exact ⟨_, rfl⟩
      · split at refused
        · cases refused
          exact ⟨_, rfl⟩
        · cases refused

theorem decode_eq_invalidLink {store : Store} {link : String}
    (foreign : ∀ address : LockedLink, address.IsReadable → link ≠ encode store address) :
    ∃ reason, decode store link = .error (.invalidLink reason) := by
  cases decoded : decode store link with
  | ok address =>
      obtain ⟨readable, same⟩ := decode_eq_ok_iff.mp decoded
      exact absurd same (foreign address readable)
  | error failure =>
      obtain ⟨reason, rfl⟩ := invalidLink_of_decode decoded
      exact ⟨reason, rfl⟩

/-- What stands between the scheme and the next slash names the store. -/
theorem store_of_encode {first second : Store} {address other : LockedLink}
    (same : encode first address = encode second other) : first = second := by
  have characters := congrArg String.toList same
  simp only [encode, mark, String.toList_append, List.append_assoc, List.append_cancel_left_eq]
    at characters
  apply Store.name_injective
  apply String.toList_inj.mp
  exact (Text.append_mark_inj first.slash_not_mem_name second.slash_not_mem_name characters).1

theorem decode_foreign {store other : Store} (differ : store ≠ other) (address : LockedLink) :
    ∃ reason, decode other (encode store address) = .error (.invalidLink reason) :=
  decode_eq_invalidLink fun _ _ same => differ (store_of_encode same)

/-- A store reads exactly the links that it writes for readable addresses, each as the address that
it was written for.  It refuses every other text, and with them all links of other stores. -/
theorem decode_exact (store : Store) (link : String) :
    (∀ rootId fileId, decode store link = .ok ⟨rootId, fileId⟩ ↔
      rootId ≠ "" ∧ ':' ∉ rootId.toList ∧ fileId ≠ "" ∧ link = encode store ⟨rootId, fileId⟩) ∧
    ((¬ ∃ rootId fileId, rootId ≠ "" ∧ ':' ∉ rootId.toList ∧ fileId ≠ "" ∧
        link = encode store ⟨rootId, fileId⟩) →
      ∃ reason, decode store link = .error (.invalidLink reason)) ∧
    ∀ other address, other ≠ store → link = encode other address →
      ∃ reason, decode store link = .error (.invalidLink reason) := by
  refine ⟨fun rootId fileId => ?_, fun foreign => ?_, ?_⟩
  · rw [decode_eq_ok_iff]
    constructor
    · rintro ⟨readable, same⟩
      exact ⟨readable.root, readable.undivided, readable.file, same⟩
    · rintro ⟨root, undivided, file, same⟩
      exact ⟨⟨root, undivided, file⟩, same⟩
  · apply decode_eq_invalidLink
    intro address readable same
    exact foreign ⟨address.rootId, address.fileId, readable.root, readable.undivided,
      readable.file, same⟩
  · rintro other address differ rfl
    apply decode_eq_invalidLink
    intro _ _ same
    exact differ (store_of_encode same)

/-- The second colon belongs to the file, and the link is no link of another store. -/
theorem decode_exact_colons :
    ("42" ≠ "" ∧ ':' ∉ "42".toList ∧ "a:b" ≠ "") ∧ Store.pikPak ≠ .seedr ∧
    decode .seedr (encode .seedr ⟨"42", "a:b"⟩) = .ok ⟨"42", "a:b"⟩ ∧
    ∃ reason, decode .pikPak (encode .seedr ⟨"42", "a:b"⟩) = .error (.invalidLink reason) := by
  have parts : "42" ≠ "" ∧ ':' ∉ "42".toList ∧ "a:b" ≠ "" := by decide
  have differ : Store.pikPak ≠ .seedr := by decide
  have atHome := (decode_exact .seedr (encode .seedr ⟨"42", "a:b"⟩)).1 "42" "a:b"
  have abroad := (decode_exact .pikPak (encode .seedr ⟨"42", "a:b"⟩)).2.2 .seedr ⟨"42", "a:b"⟩
  exact ⟨parts, differ, atHome.mpr ⟨parts.1, parts.2.1, parts.2.2, rfl⟩,
    abroad differ.symm rfl⟩

end LockedLink

end StoreGate
