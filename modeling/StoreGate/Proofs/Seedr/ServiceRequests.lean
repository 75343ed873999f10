import StoreGate.Proofs.RecordedCalls
import StoreGate.Proofs.Seedr.ItemFiles
/-!
# The requests to the service of a Seedr account

What a drive asks of its service is put down beside the world, in order.  Requests are only added,
so the first one stays the first, whatever a walk goes on to ask for.
-/

namespace StoreGate.Seedr

variable {World α : Type}

/-- What the service is asked for, with the credential of an account. -/
inductive Request where
  | root (key : String)
  | folder (key : String) (id : Nat)
  | file (key : String) (id : Nat)
  | account (key : String)
  deriving DecidableEq, Repr

/-- The service with its requests put down. -/
def Api.recorded (api : Api World) : Api (Recorded World Request) where
  root key := (api.root key).recorded (.root key)
  folder key id := (api.folder key id).recorded (.folder key id)
  file key id := (api.file key id).recorded (.file key id)
  account key := (api.account key).recorded (.account key)

/-- The drive with its requests put down. -/
def Drive.recorded (drive : Drive World) : Drive (Recorded World Request) where
  api := drive.api.recorded
  clock := drive.clock.beside (List Request)
  apiKey := drive.apiKey
  listing := drive.listing
  pageBudget := drive.pageBudget

/-- A drive whose service reads the contents of folders from a table, and knows a place for every
file. -/
def Drive.ofTable (table : Nat → Outcome Contents) : Drive Unit where
  api := {
    root := fun _ => Action.fail (.network "connection reset")
    folder := fun _ id => Action.ofOutcome (table id)
    file := fun _ id => pure ⟨"Film", "https://files.example/" ++ toString id⟩
    account := fun _ => Action.fail (.network "connection reset") }
  clock := ⟨fun _ => 0, fun _ => Timestamp.epoch, fun _ world => world⟩
  apiKey := some "key"
  listing := ⟨.seedr, Listing.standardLifetime⟩
  pageBudget := 1

/-- A caller without a credential who does not give up. -/
def guest : Caller (Recorded Unit Request) := ⟨none, none, fun _ => false⟩

/-- Whether a request is the first one that has been made. -/
def IsFirst (request : Request) (now : Recorded World Request) : Prop :=
  now.2.head? = some request

theorem keeps_isFirst (action : Action World α) (request first : Request) :
    (action.recorded request).Keeps (IsFirst first) := by
  rintro ⟨world, requests⟩ isFirst
  rw [Action.runOn_recorded, IsFirst, List.head?_append]
  rw [IsFirst] at isFirst
  rw [isFirst, Option.some_or]

theorem keeps_withPrefetched {kept : World → Prop} {walk : Action (Prefetched World) α}
    (walked : walk.Keeps fun state => kept state.world) (folderId : Nat) (contents : Contents) :
    (Drive.withPrefetched folderId contents walk).Keeps kept :=
  fun world holds => walked ⟨some (folderId, contents), world⟩ holds

theorem Prefetched.keeps_take? {kept : World → Prop} (folderId : Nat) :
    (Prefetched.take? folderId : Action (Prefetched World) _).Keeps fun state =>
      kept state.world := by
  intro state holds
  rw [runOn_take?]
  split
  · split <;> exact holds
  · exact holds

/-- Listing a folder keeps what fetching folders keeps, whether a folder was fetched before or
not. -/
theorem Drive.keeps_folders {drive : Drive World} {key : String} {kept : World → Prop}
    (fetched : ∀ folderId, (drive.api.folder key folderId).Keeps kept) (folderId : String)
    (token : Option String) :
    (drive.folders key folderId token).Keeps fun state => kept state.world := by
  unfold Drive.folders
  cases readId? folderId with
  | none => exact Action.keeps_throw _
  | some id =>
      refine (Prefetched.keeps_take? id).bind fun found => ?_
      cases found with
      | some contents => exact Action.keeps_pure _
      | none =>
          have outside : (Prefetched.outside (drive.api.folder key id)).Keeps fun state =>
              kept state.world := fun state holds => fetched id state.world holds
          exact outside.bind fun contents => Action.keeps_pure _

end StoreGate.Seedr
