import StoreGate.Proofs.ListingPages
import StoreGate.Proofs.NewestFirst
import StoreGate.Proofs.PikPak.LaterListings
import StoreGate.Proofs.PikPak.ServiceCalls
/-!
# Where served listings come from

Calls follow one after another, for any accounts.  A page that is served without asking the service
is cut from the listing that was fetched for the same account last.  Since then its lifetime has not
gone by, no item of the account has been removed, and no download has been started for it, however
the call that started it has ended.
-/

namespace StoreGate.PikPak

variable {World : Type}

/-- What happens next: a call on the items of an account, or something that goes on around such
calls, like any other question to the service, or time that passes. -/
inductive Turn (World : Type) where
  | call (caller : Caller (Watched World)) (request : Request)
  | aside (action : Action (Watched World) Unit)

/-- The key of the account that a turn is about. -/
def Turn.key? (drive : Drive World) : Turn World → Option String
  | .call caller _ => (caller.apiKeyOr drive.apiKey).toOption
  | .aside _ => none

/-- A session in which no call has been made to the service yet. -/
def unasked (session : Session World) : Session (Watched World) :=
  ⟨session.listings, session.world, []⟩

/-- A turn that has been taken. -/
structure Episode (World : Type) where
  before : Session World
  turn : Turn World
  answer? : Option Answer
  /-- The calls that have been made to the service meanwhile. -/
  calls : List ServiceCall
  after : Session World

/-- The answer to a turn, and the session behind it. -/
def Turn.perform (drive : Drive World) : Turn World → Session (Watched World) →
    Option Answer × Session (Watched World)
  | .call caller request, session =>
    let (answer, session) := respond drive.watched caller request session
    (some answer, session)
  | .aside action, session => (none, ((Session.outside action).runOn session).2)

/-- Takes a turn, and records what it does. -/
def Turn.take (drive : Drive World) (turn : Turn World) (session : Session World) : Episode World :=
  let (answer?, ⟨listings, ⟨world, calls⟩⟩) := turn.perform drive (unasked session)
  ⟨session, turn, answer?, calls, ⟨listings, world⟩⟩

/-- Turns that have been taken one after another, and the session that they have led to. -/
inductive Run (drive : Drive World) : List (Episode World) → Session World → Prop
  | start (world : World) : Run drive [] ⟨Cache.empty, world⟩
  | take {history : List (Episode World)} {session : Session World}
      (run : Run drive history session) (turn : Turn World) :
      Run drive (history ++ [turn.take drive session]) (turn.take drive session).after

namespace Episode

/-- Whether a call has fetched a listing for the account of a key. -/
def Fetches (drive : Drive World) (key : String) (items : List ItemSummary)
    (episode : Episode World) : Prop :=
  ∃ caller range, episode.turn = .call caller (.list range) ∧
    caller.apiKeyOr drive.apiKey = .ok key ∧ episode.calls ≠ [] ∧
    (drive.watched.fetchListing key).runOn ⟨episode.before.world, []⟩ =
      (.ok items, ⟨episode.after.world, episode.calls⟩)

/-- What a kept listing of an account never outlasts: a call that goes to fetch a listing, one that
removes an item, and one that starts a download, whatever becomes of it. -/
inductive Disturbs (drive : Drive World) (key : String) (episode : Episode World) : Prop
  | list (caller : Caller (Watched World)) (range : PageRange)
      (turn : episode.turn = .call caller (.list range))
      (account : caller.apiKeyOr drive.apiKey = .ok key) (asked : episode.calls ≠ [])
  | remove (caller : Caller (Watched World)) (id removed : String)
      (turn : episode.turn = .call caller (.remove id))
      (account : caller.apiKeyOr drive.apiKey = .ok key)
      (answered : episode.answer? = some (.id (.ok removed)))
  | add (caller : Caller (Watched World)) (input : AddInput)
      (turn : episode.turn = .call caller (.add input))
      (account : caller.apiKeyOr drive.apiKey = .ok key)
      (started : ⟨.addUrl, true⟩ ∈ episode.calls)

/-- Why an entry is kept behind an episode: it has just been fetched, or it has been kept before and
nothing has disturbed it. -/
def Explains (drive : Drive World) (account : String) (entry : Cache.Entry (List ItemSummary))
    (episode : Episode World) : Prop :=
  (∃ key items, accountKey key = account ∧ episode.Fetches drive key items ∧
    entry = ⟨Listing.newestFirst items,
      Cache.expiry (drive.clock.now episode.after.world) drive.listing.lifetime⟩) ∨
  (episode.before.listings.find? (drive.listing.key account) = some entry ∧
    ∀ key, accountKey key = account → ¬ episode.Disturbs drive key)

end Episode

section Effects

variable {drive : Drive World} {key : String} {session : Session World}

/-- Whether nothing is left under a key, and everything under the others. -/
def Cleared (key : String) (before : Cache (List ItemSummary)) (after : Session World) : Prop :=
  after.listings.find? key = none ∧
    ∀ other, other ≠ key → after.listings.find? other = before.find? other

theorem keeps_cleared_outside {α : Type} {before : Cache (List ItemSummary)}
    (action : Action World α) : (Session.outside action).Keeps (Cleared key before) :=
  fun _ cleared => cleared

theorem cleared_forget (listing : Listing) (account : String) (session : Session World) :
    Cleared (listing.key account) session.listings ((listing.forget account).runOn session).2 :=
  ⟨session.listings.find?_erase _, fun _ differ => session.listings.find?_erase_of_ne differ⟩

theorem keeps_cleared_forget {before : Cache (List ItemSummary)} (listing : Listing)
    (account : String) :
    (listing.forget account : Action (Session World) Unit).Keeps
      (Cleared (listing.key account) before) := by
  intro session cleared
  obtain ⟨absent, unchanged⟩ := cleared_forget listing account session
  exact ⟨absent, fun other differ => (unchanged other differ).trans (cleared.2 other differ)⟩

/-- Once a download has been announced, the listing of its account is gone for the rest of the
call. -/
theorem cleared_announcing (drive : Drive World) (key : String) (caller : Caller World)
    (magnet : Magnet) (task : Task) (started : Nat) (session : Session World) :
    Cleared (drive.listing.key (accountKey key)) session.listings
      (rest drive key caller (.announcing magnet task started) session).2 := by
  have dropped : Cleared (drive.listing.key (accountKey key)) session.listings
      ((drive.announce key magnet task).runOn session).2 := cleared_forget _ _ session
  refine Action.runOn_bind_keeps dropped fun item => ?_
  refine (keeps_cleared_outside _).bind fun waited => ?_
  exact (keeps_cleared_forget _ _).bind fun _ => keeps_cleared_outside _

/-- Either nothing has been removed, or the listing of the account is gone. -/
theorem remove_cases (caller : Caller World) (account : caller.apiKeyOr drive.apiKey = .ok key)
    (id : String) (session : Session World) :
    (∃ halt world, respond drive caller (.remove id) session =
      (.id (.error halt), { session with world })) ∨
    Cleared (drive.listing.key (accountKey key)) session.listings
      (respond drive caller (.remove id) session).2 := by
  rw [← rest_stage account, Request.stage, rest_advance 0 none, advance, onward,
    Session.runOn_outside]
  cases drive.api.trash key [id] |>.runOn session.world with
  | mk result world =>
      cases result with
      | error halt => exact .inl ⟨halt, world, rfl⟩
      | ok _ => exact .inr (cleared_forget drive.listing (accountKey key) { session with world })

/-- Either no download has been started, or the listing of the account is gone. -/
theorem add_cases (caller : Caller (Watched World))
    (account : caller.apiKeyOr drive.apiKey = .ok key) (input : AddInput)
    (session : Session (Watched World)) (nothing : StartsNothing session.world) :
    ((respond drive.watched caller (.add input) session).2.listings = session.listings ∧
      StartsNothing (respond drive.watched caller (.add input) session).2.world) ∨
    Cleared (drive.listing.key (accountKey key)) session.listings
      (respond drive.watched caller (.add input) session).2 := by
  have isKey : caller.apiKeyOr drive.watched.apiKey = .ok key := account
  have listed : ∀ filter, (drive.watched.api.listFiles key filter).Keeps StartsNothing :=
    fun filter => keeps_startsNothing (by decide) _
  -- Whatever comes before the link is added only lists files, and drops nothing.
  have sought := keeps_seek listed caller input session.world nothing
  rw [← rest_stage isKey, Request.stage, rest_advance 0 none, advance, onward,
    Session.runOn_outside]
  cases seen : (drive.watched.seek caller key input).runOn session.world with
  | mk result world =>
      rw [seen] at sought
      cases result with
      | error halt => exact .inl ⟨rfl, sought⟩
      | ok found =>
          obtain ⟨magnet, file⟩ := found
          cases file with
          | some file => exact .inl ⟨rfl, keeps_present listed caller magnet file world sought⟩
          | none =>
              dsimp only
              rw [rest_advance 0 none, advance, onward, Session.runOn_outside]
              cases started : (drive.watched.api.addUrl key magnet.rawLink).runOn world with
              | mk result world =>
                  cases result with
                  | error halt => exact .inl ⟨rfl, startsNothing_of_refused started sought⟩
                  | ok task =>
                      exact .inr (cleared_announcing drive.watched key caller magnet task 0
                        ⟨session.listings, world⟩)

end Effects

section Steps

variable {drive : Drive World} {caller : Caller (Watched World)} {own : String}

/-- A page is served from the kept listing without a call, or the service is asked for the
listing. -/
theorem list_cases (account : caller.apiKeyOr drive.apiKey = .ok own) (range : PageRange)
    (session : Session World) {episode : Episode World}
    (taken : (Turn.call caller (.list range)).take drive session = episode) :
    (∃ entry, drive.listing.live? drive.clock (accountKey own) session = some entry ∧
      episode.answer? = some (.page (.ok (range.slice entry.value))) ∧ episode.calls = [] ∧
      episode.after.listings = session.listings) ∨
    (drive.listing.live? drive.clock (accountKey own) session = none ∧ episode.calls ≠ [] ∧
      (∃ halt, (drive.watched.fetchListing own).runOn ⟨session.world, []⟩ =
        (.error halt, ⟨episode.after.world, episode.calls⟩)) ∧
      episode.after.listings = drive.listing.looked drive.clock (accountKey own) session) ∨
    (drive.listing.live? drive.clock (accountKey own) session = none ∧ episode.calls ≠ [] ∧
      ∃ items, episode.answer? = some (.page (.ok (range.slice (Listing.newestFirst items)))) ∧
        (drive.watched.fetchListing own).runOn ⟨session.world, []⟩ =
          (.ok items, ⟨episode.after.world, episode.calls⟩) ∧
        episode.after.listings = (drive.listing.looked drive.clock (accountKey own) session).set
          (drive.clock.now episode.after.world) (drive.listing.key (accountKey own))
          (Listing.newestFirst items) drive.listing.lifetime) := by
  have isKey : caller.apiKeyOr drive.watched.apiKey = .ok own := account
  have asked := hasAsked_fetchListing drive own (unasked session).world
  rw [Turn.take, Turn.perform, ← rest_stage isKey, Request.stage, rest, answer] at taken
  obtain ⟨entry, live, paged⟩ | ⟨absent, halt, world, failed, paged⟩ |
      ⟨absent, items, world, fetched, paged⟩ :=
    Listing.page_cases drive.watched.listing drive.watched.clock (accountKey own) range
      (drive.watched.fetchListing own) (unasked session)
  · rw [paged] at taken
    subst taken
    exact .inl ⟨entry, live, rfl, rfl, rfl⟩
  · rw [paged] at taken
    rw [failed] at asked
    subst taken
    exact .inr (.inl ⟨absent, asked, ⟨halt, failed⟩, rfl⟩)
  · rw [paged] at taken
    rw [fetched] at asked
    subst taken
    exact .inr (.inr ⟨absent, asked, items, rfl, fetched, rfl⟩)

/-- Only calls for an account disturb its listing. -/
theorem key?_of_disturbs {key : String} {episode : Episode World}
    (disturbs : episode.Disturbs drive key) : episode.turn.key? drive = some key := by
  cases disturbs with
  | list _ _ turn account _ | remove _ _ _ turn account _ | add _ _ turn account _ =>
      rw [turn, Turn.key?, account]
      rfl

theorem key?_call (account : caller.apiKeyOr drive.apiKey = .ok own) (request : Request) :
    (Turn.call caller request).key? drive = some own := by
  rw [Turn.key?, account]
  rfl

theorem key?_take (account : caller.apiKeyOr drive.apiKey = .ok own) (request : Request)
    (session : Session World) :
    ((Turn.call caller request).take drive session).turn.key? drive = some own :=
  key?_call account request

variable {account : String} {entry : Cache.Entry (List ItemSummary)}

/-- A call leaves the listings of other accounts alone. -/
theorem find?_take_of_other (known : caller.apiKeyOr drive.apiKey = .ok own) (request : Request)
    (session : Session World) (others : accountKey own ≠ account) :
    ((Turn.call caller request).take drive session).after.listings.find?
      (drive.listing.key account) = session.listings.find? (drive.listing.key account) := by
  have isKey : caller.apiKeyOr drive.watched.apiKey = .ok own := known
  have differ : drive.listing.key account ≠ drive.listing.key (accountKey own) :=
    Listing.key_ne (.inr (Ne.symm others))
  cases request with
  | list range =>
      obtain ⟨_, _, _, _, same⟩ | ⟨_, _, _, left⟩ | ⟨_, _, _, _, _, left⟩ :=
        list_cases known range session rfl
      · rw [same]
      · rw [left]
        exact Listing.find?_looked_of_ne differ
      · rw [left]
        exact (Cache.find?_put_of_ne _ _ differ).trans (Listing.find?_looked_of_ne differ)
  | add input =>
      obtain ⟨same, _⟩ | cleared :=
        add_cases caller known input (unasked session) List.not_mem_nil
      · exact congrArg (·.find? (drive.listing.key account)) same
      · exact cleared.2 _ differ
  | remove id =>
      obtain ⟨halt, world, failed⟩ | cleared := remove_cases caller isKey id (unasked session)
      · exact congrArg (fun result => result.2.listings.find? (drive.listing.key account)) failed
      · exact cleared.2 _ differ

theorem explains_of_unchanged {episode : Episode World}
    (same : episode.after.listings = episode.before.listings)
    (harmless : ∀ key, ¬ episode.Disturbs drive key)
    (kept : episode.after.listings.find? (drive.listing.key account) = some entry) :
    episode.Explains drive account entry := by
  rw [same] at kept
  exact .inr ⟨kept, fun key _ => harmless key⟩

/-- What is left to explain of a call is the listing of its own account. -/
theorem explains_of_call {request : Request} {session : Session World}
    (known : caller.apiKeyOr drive.apiKey = .ok own)
    (explained : ((Turn.call caller request).take drive session).after.listings.find?
        (drive.listing.key (accountKey own)) = some entry →
      ((Turn.call caller request).take drive session).Explains drive (accountKey own) entry)
    (kept : ((Turn.call caller request).take drive session).after.listings.find?
      (drive.listing.key account) = some entry) :
    ((Turn.call caller request).take drive session).Explains drive account entry := by
  by_cases same : accountKey own = account
  · subst same
    exact explained kept
  · refine .inr ⟨(find?_take_of_other known request session same).symm.trans kept, ?_⟩
    intro key isAccount disturbs
    have isOwn : own = key :=
      Option.some.inj ((key?_call known request).symm.trans (key?_of_disturbs disturbs))
    exact same (isOwn ▸ isAccount)

theorem explains_list (known : caller.apiKeyOr drive.apiKey = .ok own) (range : PageRange)
    (session : Session World)
    (kept : ((Turn.call caller (.list range)).take drive session).after.listings.find?
      (drive.listing.key account) = some entry) :
    ((Turn.call caller (.list range)).take drive session).Explains drive account entry := by
  obtain ⟨_, _, _, asked, same⟩ | ⟨absent, _, _, left⟩ | ⟨absent, asked, items, _, fetched, left⟩ :=
    list_cases known range session rfl
  · refine explains_of_unchanged same (fun key disturbs => ?_) kept
    cases disturbs with
    | list _ _ _ _ gone => exact gone asked
    | remove _ _ _ turn _ _ | add _ _ turn _ _ => cases turn
  · refine explains_of_call known (fun kept => ?_) kept
    rw [left, Listing.find?_looked_of_absent absent] at kept
    cases kept
  · refine explains_of_call known (fun kept => ?_) kept
    rw [left] at kept
    cases (Cache.find?_put _ _ _).symm.trans kept
    exact .inl ⟨own, items, rfl, ⟨caller, range, rfl, known, asked, fetched⟩, rfl⟩

theorem explains_remove (known : caller.apiKeyOr drive.apiKey = .ok own) (id : String)
    (session : Session World)
    (kept : ((Turn.call caller (.remove id)).take drive session).after.listings.find?
      (drive.listing.key account) = some entry) :
    ((Turn.call caller (.remove id)).take drive session).Explains drive account entry := by
  have isKey : caller.apiKeyOr drive.watched.apiKey = .ok own := known
  obtain ⟨halt, world, failed⟩ | cleared := remove_cases caller isKey id (unasked session)
  · have same := congrArg (fun result => result.2.listings) failed
    refine explains_of_unchanged same (fun key disturbs => ?_) kept
    cases disturbs with
    | list _ _ turn _ _ | add _ _ turn _ _ => cases turn
    | remove _ _ _ _ _ answered =>
        cases (congrArg Prod.fst failed).symm.trans (Option.some.inj answered)
  · refine explains_of_call known (fun kept => ?_) kept
    cases cleared.1.symm.trans kept

theorem explains_add (known : caller.apiKeyOr drive.apiKey = .ok own) (input : AddInput)
    (session : Session World)
    (kept : ((Turn.call caller (.add input)).take drive session).after.listings.find?
      (drive.listing.key account) = some entry) :
    ((Turn.call caller (.add input)).take drive session).Explains drive account entry := by
  obtain ⟨same, nothing⟩ | cleared :=
    add_cases caller known input (unasked session) List.not_mem_nil
  · refine explains_of_unchanged same (fun key disturbs => ?_) kept
    cases disturbs with
    | list _ _ turn _ _ | remove _ _ _ turn _ _ => cases turn
    | add _ _ _ _ started => exact nothing started
  · refine explains_of_call known (fun kept => ?_) kept
    cases cleared.1.symm.trans kept

/-- A caller without an account changes no listing. -/
theorem listings_of_unknown {drive : Drive World} {caller : Caller World} {failure : Failure}
    (unknown : caller.apiKeyOr drive.apiKey = .error failure) (request : Request)
    (session : Session World) :
    (respond drive caller request session).2.listings = session.listings := by
  have noKey : Session.outside (drive.keyOf caller) = throw (.failure failure) := by
    rw [Drive.keyOf, unknown]
    rfl
  cases request with
  | list range => rw [respond, Drive.list, noKey]; rfl
  | remove id => rw [respond, Drive.remove, noKey]; rfl
  | add input =>
      unfold respond Drive.add
      rw [noKey]
      cases input with
      | torrent bytes => rfl
      | magnet link =>
          dsimp only
          cases Magnet.parse link <;> rfl

theorem explains_take (turn : Turn World) (session : Session World)
    (kept : (turn.take drive session).after.listings.find? (drive.listing.key account) =
      some entry) :
    (turn.take drive session).Explains drive account entry := by
  cases turn with
  | aside action =>
      refine explains_of_unchanged rfl (fun key disturbs => ?_) kept
      cases key?_of_disturbs disturbs
  | call caller request =>
      cases known : caller.apiKeyOr drive.apiKey with
      | ok own =>
          cases request with
          | list range => exact explains_list known range session kept
          | add input => exact explains_add known input session kept
          | remove id => exact explains_remove known id session kept
      | error failure =>
          have isUnknown : caller.apiKeyOr drive.watched.apiKey = .error failure := known
          have same := listings_of_unknown isUnknown request (unasked session)
          refine explains_of_unchanged same (fun key disturbs => ?_) kept
          have isKey : (Turn.call caller request).key? drive = some key :=
            key?_of_disturbs disturbs
          rw [Turn.key?, known] at isKey
          cases isKey

/-- What is kept for an account has been fetched for it, and nothing has disturbed it since. -/
theorem fetched_of_kept {history : List (Episode World)} {session : Session World}
    (run : Run drive history session)
    (kept : session.listings.find? (drive.listing.key account) = some entry) :
    ∃ earlier fetch between key items, history = earlier ++ fetch :: between ∧
      accountKey key = account ∧ fetch.Fetches drive key items ∧
      entry = ⟨Listing.newestFirst items,
        Cache.expiry (drive.clock.now fetch.after.world) drive.listing.lifetime⟩ ∧
      ∀ episode ∈ between, ∀ key, accountKey key = account → ¬ episode.Disturbs drive key := by
  -- The latest turn either has fetched the entry, or leaves it to the turns before.
  induction run with
  | start world => cases kept
  | @take history session run turn ih =>
      obtain ⟨key, items, isAccount, fetches, stored⟩ | ⟨before, harmless⟩ :=
        explains_take turn session kept
      · exact ⟨history, _, [], key, items, rfl, isAccount, fetches, stored, by simp⟩
      · obtain ⟨earlier, fetch, between, key, items, rfl, isAccount, fetches, stored, calm⟩ :=
          ih before
        refine ⟨earlier, fetch, between ++ [turn.take drive session], key, items, by simp,
          isAccount, fetches, stored, ?_⟩
        intro episode member
        cases List.mem_append.mp member with
        | inl earlier => exact calm episode earlier
        | inr last =>
            cases List.mem_singleton.mp last
            exact harmless

end Steps

/-- A page that is served without asking the service is cut from the listing that was fetched for
its account last.  That was less than a lifetime ago, and since then no call for the account has
removed an item or started a download.  Accounts are told apart by digests of their keys, so no key
that has been used may share its digest with the key of the account; and no clock ever reads as much
as 2 ^ 63 seconds. -/
theorem served_without_asking (drive : Drive World) {history : List (Episode World)}
    {session : Session World} (run : Run drive history session) {caller : Caller (Watched World)}
    {key : String} (account : caller.apiKeyOr drive.apiKey = .ok key)
    (separate : ∀ episode ∈ history, ∀ other, episode.turn.key? drive = some other →
      accountKey other = accountKey key → other = key)
    (bounded : drive.clock.now session.world < bitLimit 63 * nanosecondsPerSecond)
    {range : PageRange} {page : ItemPage}
    (served : ((Turn.call caller (.list range)).take drive session).answer? =
      some (.page (.ok page)))
    (silent : ((Turn.call caller (.list range)).take drive session).calls = []) :
    ∃ earlier fetch between items found, history = earlier ++ fetch :: between ∧
      fetch.Fetches drive key items ∧ Listing.IsNewestFirst items found ∧
      page = range.slice found ∧
      drive.clock.now session.world <
        drive.clock.now fetch.after.world + drive.listing.lifetime.nanoseconds ∧
      ∀ episode ∈ between, ¬ episode.Disturbs drive key := by
  obtain ⟨entry, live, answered, _, _⟩ | ⟨_, asked, _⟩ | ⟨_, asked, _⟩ :=
    list_cases account range session rfl
  · obtain ⟨found, isLive⟩ := Option.filter_eq_some_iff.mp live
    obtain ⟨earlier, fetch, between, other, items, rfl, isAccount, fetches, rfl, calm⟩ :=
      fetched_of_kept run found
    -- The fetch was made for the digest of the key; no other key that was used has it.
    have same : other = key := by
      obtain ⟨caller, range, turn, known, _⟩ := fetches
      refine separate fetch (by simp) other ?_ isAccount
      rw [turn]
      exact key?_call known _
    subst same
    cases answered.symm.trans served
    refine ⟨earlier, fetch, between, items, _, rfl, fetches, Listing.isNewestFirst items, rfl,
      ?_, ?_⟩
    · exact Cache.lt_lifetime_of_isLive isLive bounded
    · exact fun episode member => calm episode member other rfl
  · exact absurd silent asked
  · exact absurd silent asked

section SharedDrive

/-- A folder that came from a magnet link. -/
def downloaded (id name createdTime : String) : File :=
  { plainFile id folderKind name showUrl with createdTime }

def winter : File := downloaded "winter" "Winter" "2024-01-02T00:00:00Z"

def summer : File := downloaded "summer" "Summer" "2024-07-08T00:00:00Z"

def winterSummary : ItemSummary :=
  { showSummary with id := "winter", name := "Winter", addedAt := ⟨1704153600, 0⟩ }

def summerSummary : ItemSummary :=
  { showSummary with id := "summer", name := "Summer", addedAt := ⟨1720396800, 0⟩ }

/-- A drive that is the world of one account, and is closed to every other one. -/
def sharedDrive : Drive (List File) where
  api := {
    listFiles := fun key filter => do
      if key ≠ "key" then Action.fail (.network "connection reset")
      if filter.parentId = "" then return ⟨[plainFile "pack" folderKind packName ""], ""⟩
      return ⟨← get, ""⟩
    file := fun _ id => Action.fail (.notFound id)
    addUrl := fun _ _ => Action.fail (.network "connection reset")
    listTasks := fun _ _ => pure []
    trash := fun key ids => if key = "key" then modify (·.filter (·.id ∉ ids)) else pure ()
    account := fun _ => Action.fail (.network "connection reset")
    membership := fun _ => Action.fail (.network "connection reset") }
  clock := ⟨fun _ => 0, fun _ => Timestamp.epoch, fun _ world => world⟩
  apiKey := some "key"
  policy := PollPolicy.standard
  listing := ⟨.pikPak, Listing.standardLifetime⟩
  availability := Availability.unknown
  pageBudget := 1

def owner : Caller (Watched (List File)) := ⟨none, none, fun _ => false⟩

def guest : Caller (Watched (List File)) := ⟨some "guest", none, fun _ => false⟩

/-- The owner removes an item. -/
def removal : Episode (List File) :=
  (Turn.call owner (.remove "old")).take sharedDrive
    ⟨Cache.empty, [downloaded "old" "Old" "", winter, summer]⟩

/-- The owner fetches what is left. -/
def ownFetch : Episode (List File) :=
  (Turn.call owner (.list ⟨0, 1⟩)).take sharedDrive removal.after

/-- A guest asks for a listing, in vain. -/
def guestFetch : Episode (List File) :=
  (Turn.call guest (.list .first)).take sharedDrive ownFetch.after

/-- The guest removes an item. -/
def guestRemoval : Episode (List File) :=
  (Turn.call guest (.remove "winter")).take sharedDrive guestFetch.after

/-- The owner asks for the second page. -/
def lastPage : Episode (List File) :=
  (Turn.call owner (.list ⟨1, 1⟩)).take sharedDrive guestRemoval.after

theorem account_owner : owner.apiKeyOr sharedDrive.apiKey = .ok "key" := rfl

theorem account_guest : guest.apiKeyOr sharedDrive.apiKey = .ok "guest" := rfl

theorem guest_ne_owner : accountKey "guest" ≠ accountKey "key" := by decide +kernel

theorem summaries_of_seasons :
    [winter, summer].filterMap Drive.summary? = [winterSummary, summerSummary] := by
  decide +kernel

theorem newestFirst_seasons :
    Listing.newestFirst [winterSummary, summerSummary] = [summerSummary, winterSummary] := by
  simp [Listing.newestFirst, List.mergeSort, List.MergeSort.Internal.splitInTwo, winterSummary,
    summerSummary, Timestamp.atMost]

/-- What the owner has fetched is kept while the guest goes on. -/
theorem kept_guestRemoval :
    guestRemoval.after.listings.find? (sharedDrive.listing.key (accountKey "key")) =
      some ⟨[summerSummary, winterSummary], Cache.expiry 0 sharedDrive.listing.lifetime⟩ := by
  calc guestRemoval.after.listings.find? _
      = guestFetch.after.listings.find? _ := find?_take_of_other account_guest _ _ guest_ne_owner
    _ = ownFetch.after.listings.find? _ := find?_take_of_other account_guest _ _ guest_ne_owner
    _ = some ⟨Listing.newestFirst ([winter, summer].filterMap Drive.summary?),
          Cache.expiry 0 sharedDrive.listing.lifetime⟩ := Cache.find?_put _ _ _
    _ = _ := by rw [summaries_of_seasons, newestFirst_seasons]

/-- The second page is served without asking after turns of a guest. -/
theorem served_without_asking_small :
    (Run sharedDrive [removal, ownFetch, guestFetch, guestRemoval] guestRemoval.after ∧
      removal.Disturbs sharedDrive "key" ∧ guestFetch.turn.key? sharedDrive = some "guest" ∧
      guestRemoval.Disturbs sharedDrive "guest" ∧
      lastPage.answer? = some (.page (.ok ⟨[winterSummary], 2⟩)) ∧ lastPage.calls = []) ∧
    ∃ earlier fetch between items found,
      [removal, ownFetch, guestFetch, guestRemoval] = earlier ++ fetch :: between ∧
      fetch.Fetches sharedDrive "key" items ∧ Listing.IsNewestFirst items found ∧
      ⟨[winterSummary], 2⟩ = PageRange.slice ⟨1, 1⟩ found ∧
      sharedDrive.clock.now guestRemoval.after.world <
        sharedDrive.clock.now fetch.after.world + sharedDrive.listing.lifetime.nanoseconds ∧
      ∀ episode ∈ between, ¬ episode.Disturbs sharedDrive "key" := by
  have run : Run sharedDrive [removal, ownFetch, guestFetch, guestRemoval] guestRemoval.after :=
    .take (.take (.take (.take (.start _) _) _) _) _
  have live : sharedDrive.listing.live? sharedDrive.clock (accountKey "key") guestRemoval.after =
      some _ :=
    Listing.live?_of_found kept_guestRemoval (Cache.isLive_of_lt_lifetime _ (by decide))
  have fromGuest : guestFetch.turn.key? sharedDrive = some "guest" := key?_take account_guest _ _
  obtain ⟨entry, found, answered, silent, _⟩ | ⟨absent, _⟩ | ⟨absent, _⟩ :=
    list_cases account_owner ⟨1, 1⟩ guestRemoval.after rfl
  · cases live.symm.trans found
    refine ⟨⟨run, ?_, fromGuest, ?_, answered, silent⟩, ?_⟩
    · exact .remove owner "old" "old" rfl rfl rfl
    · exact .remove guest "winter" "winter" rfl rfl rfl
    apply served_without_asking sharedDrive run account_owner ?_ (by decide) answered silent
    intro episode member other isKey same
    have ofGuest (known : some "guest" = some other) : other = "key" :=
      absurd (Option.some.inj known ▸ same) guest_ne_owner
    simp only [List.mem_cons, List.not_mem_nil, or_false] at member
    rcases member with rfl | rfl | rfl | rfl
    · exact Option.some.inj (isKey.symm.trans (key?_take account_owner _ _))
    · exact Option.some.inj (isKey.symm.trans (key?_take account_owner _ _))
    · exact ofGuest (fromGuest.symm.trans isKey)
    · exact ofGuest ((key?_take account_guest _ _).symm.trans isKey)
  · cases live.symm.trans absent
  · cases live.symm.trans absent

end SharedDrive

end StoreGate.PikPak
