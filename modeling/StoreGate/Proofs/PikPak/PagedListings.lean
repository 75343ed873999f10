import Mathlib.Logic.Relation
import StoreGate.Proofs.NewestFirst
import StoreGate.Proofs.PikPak.PackFolders
import StoreGate.Proofs.PikPak.ServedListings
/-!
# Paging through a listing

A caller asks for one page after another while other calls go on.  The first page fetches the folder
of downloads and sorts what came from magnet links, newest first.  The other pages are cut from what
the first one has kept, as long as its lifetime lasts and nobody adds or removes an item.  So the
pages make up one listing, whatever has become of the folder meanwhile.
-/

namespace StoreGate.PikPak

namespace File

/-- Whether a file came from an address that begins as magnet links do and is one. -/
def isFromMagnet (file : File) : Bool :=
  Magnet.scheme.toList.isPrefixOf file.sourceUrl.toList && (Magnet.parse file.sourceUrl).isOk

/-- How listings show a file that came from a magnet link. -/
def shown (file : File) : ItemSummary :=
  ⟨file.id, file.name, Drive.hashOf file.sourceUrl, file.sizeInBytes,
    if file.isComplete then .downloaded else .downloading, file.addedAt⟩

theorem summary?_eq (file : File) :
    Drive.summary? file = if file.isFromMagnet then some file.shown else none := by
  have begins : (Text.afterText? Magnet.scheme file.sourceUrl).isSome =
      Magnet.scheme.toList.isPrefixOf file.sourceUrl.toList := by
    rw [Bool.eq_iff_iff, Option.isSome_iff_exists, List.isPrefixOf_iff_prefix]
    constructor
    · rintro ⟨rest, split⟩
      rw [Text.afterText?_eq_some_iff.mp split, String.toList_append]
      exact List.prefix_append _ _
    · rintro ⟨rest, split⟩
      refine ⟨String.ofList rest, Text.afterText?_eq_some_iff.mpr (String.toList_inj.mp ?_)⟩
      rw [String.toList_append, String.toList_ofList, split]
  unfold Drive.summary? isFromMagnet shown Drive.hashOf
  rw [begins]
  cases Magnet.scheme.toList.isPrefixOf file.sourceUrl.toList with
  | false => simp
  | true => cases Magnet.parse file.sourceUrl <;> simp [Except.isOk, Except.toBool]

theorem filterMap_summary? (files : List File) :
    files.filterMap Drive.summary? = (files.filter isFromMagnet).map shown := by
  induction files with
  | nil => rfl
  | cons file files ih =>
      rw [List.filterMap_cons, summary?_eq, List.filter_cons, ih]
      cases file.isFromMagnet <;> rfl

end File

section Fetches

variable {World α : Type} {steady : World → Prop} {drive : Drive World} {key : String}

theorem gives_watch {call : Action World α} {result : Except Halt α} (kind : CallKind)
    (gives : call.Gives steady result) :
    (watch kind call).Gives (fun watched => steady watched.world) result :=
  fun watched isSteady => gives watched.world isSteady

variable {root : FileList} {folder : File} {answers : Option String → Outcome FileList}
  {pages : List (List File)}

theorem gives_fetchListing
    (rooted : (drive.api.listFiles key (FileFilter.completed "" none)).Gives steady (.ok root))
    (isPack : root.files.find? (·.name = packName) = some folder)
    (listed : ∀ token, (drive.api.listFiles key (FileFilter.completed folder.id token)).Gives steady
      (Action.resultOf (answers token)))
    (finite : Contents.Follow answers FileList.next? FileList.files none ⟨pages, none⟩)
    (enough : pages.length ≤ drive.pageBudget) :
    (drive.watched.fetchListing key).Gives (fun watched => steady watched.world)
      (.ok ((pages.flatten.filter File.isFromMagnet).map File.shown)) := by
  have used : (drive.watched.packFolder key).Gives (fun watched => steady watched.world)
      (.ok folder) := by
    refine (gives_watch .listFiles rooted).bind_ok ?_
    rw [isPack]
    exact Action.leads_pure folder
  have files : (drive.watched.packFiles key).Gives (fun watched => steady watched.world)
      (.ok pages.flatten) :=
    gives_packFiles_of_folder used (fun token => gives_watch .listFiles (listed token)) finite
      enough
  rw [← File.filterMap_summary?]
  exact files.bind_ok (Action.leads_pure _)

end Fetches

/-- Whether a turn leaves the listing of an account alone: it neither adds an item there nor removes
one. -/
def Turn.Spares {World : Type} (drive : Drive World) (account : String) : Turn World → Prop
  | .aside _ => True
  | .call _ (.list _) => True
  | .call caller (.add _) | .call caller (.remove _) =>
    ∀ key, caller.apiKeyOr drive.apiKey = .ok key → accountKey key ≠ account

/-- A turn is taken before a deadline, and it leaves the listing of an account alone. -/
def CalmStep {World : Type} (drive : Drive World) (account : String) (deadline : Instant)
    (session next : Session World) : Prop :=
  drive.clock.now session.world < deadline ∧
    ∃ turn : Turn World, turn.Spares drive account ∧ next = (turn.take drive session).after

abbrev Calmly {World : Type} (drive : Drive World) (account : String) (deadline : Instant) :
    Session World → Session World → Prop :=
  Relation.ReflTransGen (CalmStep drive account deadline)

def pageCall {World : Type} (caller : Caller (Watched World)) (offset size : Nat) : Turn World :=
  .call caller (.list ⟨offset, size⟩)

/-- Calls for one page after another, all of one size.  Other turns are taken between them, and all
of them before a deadline. -/
inductive Paging {World : Type} (drive : Drive World) (caller : Caller (Watched World))
    (account : String) (deadline : Instant) (size : Nat) :
    (offset : Nat) → Session World → List (Episode World) → Prop
  | done (offset : Nat) (session : Session World) :
      Paging drive caller account deadline size offset session []
  | page {offset : Nat} {session later : Session World} {rest : List (Episode World)}
      (calm : Calmly drive account deadline session later)
      (inTime : drive.clock.now later.world < deadline)
      (others : Paging drive caller account deadline size (offset + size)
        ((pageCall caller offset size).take drive later).after rest) :
      Paging drive caller account deadline size offset session
        ((pageCall caller offset size).take drive later :: rest)

/-- Whether calls have been answered by pages of one size that show a listing from an offset on. -/
structure ShowPages {World : Type} (listing : List ItemSummary) (offset size : Nat)
    (episodes : List (Episode World)) (pages : List ItemPage) : Prop where
  answered : episodes.map (·.answer?) = pages.map fun page => some (.page (.ok page))
  totals : ∀ page ∈ pages, page.total = listing.length
  joined : pages.flatMap (·.items) = (listing.drop offset).take (pages.length * size)

theorem showPages_nil {World : Type} (listing : List ItemSummary) (offset size : Nat) :
    ShowPages listing offset size ([] : List (Episode World)) [] :=
  ⟨rfl, by simp, by simp⟩

theorem ShowPages.cons {World : Type} {listing : List ItemSummary} {offset size : Nat}
    {episode : Episode World} {episodes : List (Episode World)} {pages : List ItemPage}
    (answered : episode.answer? = some (.page (.ok (PageRange.slice ⟨offset, size⟩ listing))))
    (rest : ShowPages listing (offset + size) size episodes pages) :
    ShowPages listing offset size (episode :: episodes)
      (PageRange.slice ⟨offset, size⟩ listing :: pages) := by
  refine ⟨?_, List.forall_mem_cons.mpr ⟨rfl, rest.totals⟩, ?_⟩
  · rw [List.map_cons, List.map_cons, answered, rest.answered]
  · rw [List.flatMap_cons, rest.joined, List.length_cons]
    exact PageRange.slice_append offset size pages.length listing

section Pages

variable {World : Type} {drive : Drive World} {account : String} {deadline : Instant}
  {session later : Session World} {entry : Cache.Entry (List ItemSummary)}

/-- A live listing stays where it is in every turn that leaves it alone. -/
theorem find?_take_of_spares {turn : Turn World} (spares : turn.Spares drive account)
    (live : entry.isLive (drive.clock.now session.world) = true)
    (kept : session.listings.find? (drive.listing.key account) = some entry) :
    (turn.take drive session).after.listings.find? (drive.listing.key account) = some entry := by
  cases turn with
  | aside action => exact kept
  | call caller request =>
      cases known : caller.apiKeyOr drive.apiKey with
      | error failure =>
          have isUnknown : caller.apiKeyOr drive.watched.apiKey = .error failure := known
          have same := listings_of_unknown isUnknown request (unasked session)
          exact (congrArg (·.find? (drive.listing.key account)) same).trans kept
      | ok own =>
          by_cases others : accountKey own = account
          · subst others
            cases request with
            | add input => exact absurd rfl (spares own known)
            | remove id => exact absurd rfl (spares own known)
            | list range =>
                -- A look finds the live listing, so nothing is fetched in its place.
                have found := Listing.live?_of_found kept live
                obtain ⟨_, _, _, _, same⟩ | ⟨absent, _⟩ | ⟨absent, _⟩ :=
                  list_cases known range session rfl
                · rw [same]
                  exact kept
                · cases found.symm.trans absent
                · cases found.symm.trans absent
          · exact (find?_take_of_other known request session others).trans kept

theorem find?_of_calmly (calm : Calmly drive account deadline session later)
    (lasts : ∀ now, now < deadline → entry.isLive now = true)
    (kept : session.listings.find? (drive.listing.key account) = some entry) :
    later.listings.find? (drive.listing.key account) = some entry := by
  induction calm with
  | refl => exact kept
  | tail _ step ih =>
      obtain ⟨inTime, turn, spares, rfl⟩ := step
      exact find?_take_of_spares spares (lasts _ inTime) ih

variable {caller : Caller (Watched World)} {key : String}

/-- While a listing is live, pages are cut from it and nobody is asked. -/
theorem served_of_found (known : caller.apiKeyOr drive.apiKey = .ok key)
    (kept : session.listings.find? (drive.listing.key (accountKey key)) = some entry)
    (live : entry.isLive (drive.clock.now session.world) = true) (range : PageRange) :
    ((Turn.call caller (.list range)).take drive session).answer? =
        some (.page (.ok (range.slice entry.value))) ∧
      ((Turn.call caller (.list range)).take drive session).calls = [] := by
  have found := Listing.live?_of_found kept live
  obtain ⟨other, isLive, answered, silent, _⟩ | ⟨absent, _⟩ | ⟨absent, _⟩ :=
    list_cases known range session rfl
  · cases found.symm.trans isLive
    exact ⟨answered, silent⟩
  · cases found.symm.trans absent
  · cases found.symm.trans absent

/-- The pages that are asked for one after another make up a stretch of the kept listing. -/
theorem pages_of_paging {size offset : Nat} {episodes : List (Episode World)}
    (known : caller.apiKeyOr drive.apiKey = .ok key)
    (paging : Paging drive caller (accountKey key) deadline size offset session episodes)
    (lasts : ∀ now, now < deadline → entry.isLive now = true)
    (kept : session.listings.find? (drive.listing.key (accountKey key)) = some entry) :
    (∀ episode ∈ episodes, episode.calls = []) ∧
      ∃ pages, ShowPages entry.value offset size episodes pages := by
  induction paging with
  | done offset => exact ⟨by simp, [], showPages_nil entry.value offset size⟩
  | @page offset session later rest calm inTime others ih =>
      have still := find?_of_calmly calm lasts kept
      have live := lasts _ inTime
      obtain ⟨answered, silent⟩ := served_of_found known still live ⟨offset, size⟩
      have spares : (pageCall caller offset size).Spares drive (accountKey key) := trivial
      obtain ⟨calls, pages, shows⟩ := ih (find?_take_of_spares spares live still)
      exact ⟨List.forall_mem_cons.mpr ⟨silent, calls⟩, _, shows.cons answered⟩

end Pages

section Fetched

variable {World : Type} {steady : World → Prop} {drive : Drive World}
  {caller : Caller (Watched World)} {key : String} {items : List ItemSummary}
  {session : Session World}

/-- The first page fetches the listing, which is kept from then on. -/
theorem fetched_of_absent (known : caller.apiKeyOr drive.apiKey = .ok key)
    (given : (drive.watched.fetchListing key).Gives (fun watched => steady watched.world)
      (.ok items))
    (isSteady : steady session.world)
    (absent : drive.listing.live? drive.clock (accountKey key) session = none) (range : PageRange) :
    let opening := (Turn.call caller (.list range)).take drive session
    opening.answer? = some (.page (.ok (range.slice (Listing.newestFirst items)))) ∧
      opening.calls ≠ [] ∧
      opening.after.listings.find? (drive.listing.key (accountKey key)) =
        some ⟨Listing.newestFirst items,
          Cache.expiry (drive.clock.now opening.after.world) drive.listing.lifetime⟩ := by
  have fetched := (given ⟨session.world, []⟩ isSteady).1
  obtain ⟨_, live, _⟩ | ⟨_, _, ⟨halt, failed⟩, _⟩ | ⟨_, asked, other, answered, found, left⟩ :=
    list_cases known range session rfl
  · cases live.symm.trans absent
  · rw [failed] at fetched
    cases fetched
  · rw [found] at fetched
    cases fetched
    refine ⟨answered, asked, ?_⟩
    rw [left]
    exact Cache.find?_put _ _ _

end Fetched

/-- For every drive whose root shows a folder of downloads on its first page, however the folder is
split into pages: calls for one page after another, within the lifetime of the listing that the
first one has fetched, show what came from magnet links once each, newest first, and files of the
same time in the order of the drive.  All pages tell the same total, and only the first call asks
the service.  Any other offset and limit, be they the largest words there are, give a page of the
same listing, whose ends lie within it. -/
theorem pages_show_listing {World : Type} (drive : Drive World) {caller : Caller (Watched World)}
    {key : String} (steady : World → Prop) (root : FileList) (folder : File)
    (answers : Option String → Outcome FileList) (pages : List (List File))
    (account : caller.apiKeyOr drive.apiKey = .ok key)
    (rooted : (drive.api.listFiles key (FileFilter.completed "" none)).Gives steady (.ok root))
    (isPack : root.files.find? (·.name = packName) = some folder)
    (listed : ∀ token, (drive.api.listFiles key (FileFilter.completed folder.id token)).Gives steady
      (Action.resultOf (answers token)))
    (finite : Contents.Follow answers FileList.next? FileList.files none ⟨pages, none⟩)
    (enough : pages.length ≤ drive.pageBudget) (session : Session World)
    (isSteady : steady session.world)
    (absent : drive.listing.live? drive.clock (accountKey key) session = none) (size : Nat) :
    let opening := (pageCall caller 0 size).take drive session
    let deadline := drive.clock.now opening.after.world + drive.listing.lifetime.nanoseconds
    ∃ listing, Listing.IsNewestFirst ((pages.flatten.filter File.isFromMagnet).map File.shown)
        listing ∧
      opening.calls ≠ [] ∧
      (∀ rest, Paging drive caller (accountKey key) deadline size size opening.after rest →
        (∀ episode ∈ rest, episode.calls = []) ∧
        ∃ shown, ShowPages listing 0 size (opening :: rest) shown ∧
          (listing.length ≤ shown.length * size → shown.flatMap (·.items) = listing)) ∧
      ∀ later, later = session ∨ (Calmly drive (accountKey key) deadline opening.after later ∧
          drive.clock.now later.world < deadline) →
        ∀ (bits : Nat) (offset limit total : BitVec bits), total.toNat = listing.length →
          ((pageCall caller offset.toNat limit.toNat).take drive later).answer? =
            some (.page (.ok ⟨listing.extract (PageRange.firstWord offset total).toNat
              (PageRange.lastWord offset limit total).toNat, total.toNat⟩)) ∧
          (PageRange.firstWord offset total).toNat ≤
            (PageRange.lastWord offset limit total).toNat ∧
          (PageRange.lastWord offset limit total).toNat ≤ listing.length := by
  intro opening deadline
  let listing := Listing.newestFirst ((pages.flatten.filter File.isFromMagnet).map File.shown)
  have given := gives_fetchListing rooted isPack listed finite enough
  have fetched := fetched_of_absent account given isSteady absent
  obtain ⟨answered, asked, kept⟩ := fetched ⟨0, size⟩
  have lasts : ∀ now, now < deadline → Cache.Entry.isLive ⟨listing, Cache.expiry
      (drive.clock.now opening.after.world) drive.listing.lifetime⟩ now = true :=
    fun now inTime => Cache.isLive_of_lt_lifetime listing inTime
  refine ⟨listing, Listing.isNewestFirst _, asked, fun rest paging => ?_, ?_⟩
  · obtain ⟨silent, others, shows⟩ := pages_of_paging account paging lasts kept
    have behind : ShowPages listing (0 + size) size rest others := by
      rw [Nat.zero_add]
      exact shows
    have whole := behind.cons answered
    refine ⟨silent, _, whole, fun all => ?_⟩
    rw [whole.joined, List.drop_zero, List.take_of_length_le all]
  · intro later isLater bits offset limit total counted
    obtain ⟨ordered, inside, words⟩ := PageRange.slice_of_words _ offset limit total counted
    refine ⟨?_, ordered, inside⟩
    rw [← words]
    rcases isLater with rfl | ⟨calm, inTime⟩
    · exact (fetched ⟨offset.toNat, limit.toNat⟩).1
    · have still := find?_of_calmly calm lasts kept
      exact (served_of_found account still (lasts _ inTime) _).1

section Shelf

def album : File := downloaded "album" "Album" "2024-01-02T00:00:00Z"

def novel : File := downloaded "novel" "Novel" "2024-03-04T05:06:07Z"

/-- As old as the album. -/
def series : File := downloaded "series" "Series" "2024-01-02T00:00:00Z"

def letter : File := plainFile "letter" fileKind "Letter" "https://example.com"

theorem isFromMagnet_downloaded (id name createdTime : String) :
    (downloaded id name createdTime).isFromMagnet = true := by
  have begins : Magnet.scheme.toList.isPrefixOf showUrl.toList = true := by decide
  have isMagnet : (Magnet.parse showUrl).isOk = true := by decide +kernel
  exact Bool.and_eq_true_iff.mpr ⟨begins, isMagnet⟩

theorem filter_shelf : ([[album, letter], [novel, series]].flatten.filter File.isFromMagnet) =
    [album, novel, series] := by
  have isNone : letter.isFromMagnet = false := rfl
  simp [isNone, album, novel, series, isFromMagnet_downloaded]

def shelfAnswers : Option String → Outcome FileList
  | none => .ok ⟨[album, letter], "2"⟩
  | some _ => .ok ⟨[novel, series], ""⟩

theorem follow_shelfAnswers : Contents.Follow shelfAnswers FileList.next? FileList.files none
    ⟨[[album, letter], [novel, series]], none⟩ := by
  let front : FileList := ⟨[album, letter], "2"⟩
  let behind : FileList := ⟨[novel, series], ""⟩
  exact .more front rfl rfl (.last behind rfl rfl)

def shelfRoot : FileList := ⟨[plainFile "pack" folderKind packName ""], ""⟩

/-- A drive with four files in its folder of downloads, on two pages, until all of them are gone. -/
def shelfDrive : Drive Bool :=
  { smallDrive with
    api := { smallDrive.api with
      listFiles := fun _ filter => do
        if filter.parentId = "" then return shelfRoot
        if ← get then Action.ofOutcome (shelfAnswers filter.pageToken) else return ⟨[], ""⟩ }
    pageBudget := 2 }

def watchedCaller : Caller (Watched Bool) := ⟨none, none, fun _ => false⟩

/-- Everything is thrown away, but not through the store. -/
def throwAway : Turn Bool := .aside (modify fun watched => { watched with world := false })

def frontPage : Episode Bool := (pageCall watchedCaller 0 2).take shelfDrive ⟨Cache.empty, true⟩

def backPage : Episode Bool :=
  (pageCall watchedCaller 2 2).take shelfDrive (throwAway.take shelfDrive frontPage.after).after

/-- The second page shows the rest of what the first one has fetched, though it is gone by then. -/
theorem pages_show_listing_gone :
    (watchedCaller.apiKeyOr shelfDrive.apiKey = .ok "key" ∧
      shelfRoot.files.find? (·.name = packName) = some (plainFile "pack" folderKind packName "") ∧
      Contents.Follow shelfAnswers FileList.next? FileList.files none
        ⟨[[album, letter], [novel, series]], none⟩ ∧ backPage.before.world = false) ∧
    ∃ listing, Listing.IsNewestFirst [album.shown, novel.shown, series.shown] listing ∧
      frontPage.calls ≠ [] ∧ backPage.calls = [] ∧
      ∃ shown, ShowPages listing 0 2 [frontPage, backPage] shown ∧
        shown.flatMap (·.items) = listing := by
  have rooted : (shelfDrive.api.listFiles "key" (FileFilter.completed "" none)).Gives (· = true)
      (.ok shelfRoot) := fun world isFull => ⟨rfl, isFull⟩
  have listed : ∀ token, (shelfDrive.api.listFiles "key" (FileFilter.completed "pack" token)).Gives
      (· = true) (Action.resultOf (shelfAnswers token)) := by
    rintro token world rfl
    cases token <;> exact ⟨rfl, rfl⟩
  have calm : Calmly shelfDrive (accountKey "key") 300000000000 frontPage.after
      (throwAway.take shelfDrive frontPage.after).after :=
    .single ⟨by decide, throwAway, trivial, rfl⟩
  have paging : Paging shelfDrive watchedCaller (accountKey "key") 300000000000 2 2
      frontPage.after [backPage] := .page calm (by decide) (.done 4 _)
  obtain ⟨listing, newest, asked, served, _⟩ := pages_show_listing shelfDrive (· = true) shelfRoot
    (plainFile "pack" folderKind packName "") shelfAnswers [[album, letter], [novel, series]]
    (show watchedCaller.apiKeyOr shelfDrive.apiKey = .ok "key" from rfl) rooted (by decide) listed
    follow_shelfAnswers (by decide) ⟨Cache.empty, true⟩ rfl rfl 2
  rw [filter_shelf] at newest
  obtain ⟨silent, shown, shows, whole⟩ := served [backPage] paging
  refine ⟨⟨rfl, by decide, follow_shelfAnswers, rfl⟩, listing, newest, asked,
    silent backPage List.mem_cons_self, shown, shows, whole ?_⟩
  have pages : 2 = shown.length := by simpa using congrArg List.length shows.answered
  have items : listing.length = 3 := newest.shown.length_eq
  omega

end Shelf

end StoreGate.PikPak
