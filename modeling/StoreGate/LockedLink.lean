import StoreGate.Crypto.SealedBox
import StoreGate.Text.Split
/-!
# Locked links

A locked link addresses a file of a store by the identifier of the item that it was listed with and
its own identifier, joined by a colon and written in base64 after the store's mark. The first colon
divides the two, so the identifier of the item must not hold one.
-/

namespace StoreGate

structure LockedLink where
  /-- The item that the file belongs to. -/
  rootId : String
  fileId : String
  deriving DecidableEq, Repr

namespace LockedLink

/-- What all locked links begin with. -/
def scheme : String := "debridgate://store/"

/-- What the links of a store begin with. -/
def mark (store : Store) : String :=
  scheme ++ store.name ++ "/"

def encode (store : Store) (address : LockedLink) : String :=
  mark store ++ Base64Url.encode (Utf8.encode (address.rootId ++ ":" ++ address.fileId))

/-- Reads a link that a store has handed out. -/
def decode (store : Store) (link : String) : Outcome LockedLink :=
  match Text.afterText? (mark store) link with
  | none => .error (.invalidLink ("not a " ++ store.name ++ " locked link"))
  | some encoded =>
    match decodeBase64Text encoded with
    | .error failure => .error (.invalidLink ("malformed locked link: " ++ failure.message))
    | .ok decoded =>
      match Text.splitTextAt? ':' decoded with
      | none => .error (.invalidLink "locked link is missing file id")
      | some (rootId, fileId) =>
        if rootId.isEmpty || fileId.isEmpty then .error (.invalidLink "locked link has empty id")
        else .ok ⟨rootId, fileId⟩

end LockedLink

end StoreGate
