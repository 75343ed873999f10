import StoreGate.Drive.Browser
import StoreGate.Item
/-!
# What every store offers

The operations that callers can ask of any store, whatever its service is like. A store that has no
notion of an operation answers that it is not supported.
-/

namespace StoreGate

/-- What to add to a store. -/
inductive AddInput where
  /-- A magnet link or a bare info hash. -/
  | magnet (link : String)
  /-- The content of a torrent file. -/
  | torrent (bytes : List UInt8)
  deriving Repr

structure Provider (World : Type) where
  store : Store
  /-- The owner of the caller's account. -/
  user : Caller World → Action World User
  /-- Adds an item. One that is not ready in time is described as far as it is known. -/
  add : Caller World → AddInput → Action (Session World) Item
  /-- One item with its files. -/
  item : Caller World → String → Action World Item
  /-- A page of all items, the newest first. -/
  list : Caller World → PageRange → Action (Session World) ItemPage
  /-- Removes an item and answers with its identifier. -/
  remove : Caller World → String → Action (Session World) String
  /-- The status of magnets that may not have been added. -/
  check : Caller World → List String → Action World (List MagnetCheck)
  /-- The address behind a locked link. -/
  resolve : Caller World → String → Action World String
  /-- The drive, for stores that have one to browse. -/
  browser : Option (DriveBrowser World)

end StoreGate
