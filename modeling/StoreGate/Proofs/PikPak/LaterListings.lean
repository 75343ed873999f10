import StoreGate.Proofs.PikPak.ListingsAtLarge
/-!
# What later list calls show

Removing an item drops the kept listing, and adding one drops it twice, but neither can take a
listing away from a list call that has fetched it and not kept it yet, and adding drops nothing if
its download cannot be started.
-/

namespace StoreGate.PikPak

variable {World : Type} {drive : Drive World} {key : String} {scene later : Scene World}

def Fetch.Shows (id : String) (fetch : Fetch) : Prop :=
  ∃ item ∈ fetch.items, item.id = id

/-- Whether no list call that begins from now on shows an item that was moved to the trash at a
moment, unless a listing fetched since then shows it again. -/
def StaysGone (drive : Drive World) (key id : String) (trashed : Nat) (scene : Scene World) :
    Prop :=
  ∀ later, Reaches drive key scene later → FreshSince trashed (Fetch.Shows id) later →
    ∀ call ∈ later.calls, scene.moment ≤ call.begun →
      ∀ page source, call.stage = .listed page source → ∀ item ∈ page.items, item.id ≠ id

/-- Whether no list call that begins from now on is served from a listing that was fetched before a
moment. -/
def StaysFresh (drive : Drive World) (key : String) (started : Nat) (scene : Scene World) : Prop :=
  ∀ later, Reaches drive key scene later → ∀ call ∈ later.calls, scene.moment ≤ call.begun →
    ∀ page fetch, call.stage = .listed page (some fetch) → started ≤ fetch.moment

theorem slice_all (items : List ItemSummary) :
    (PageRange.slice ⟨0, items.length⟩ items).items = items := by
  simp [PageRange.slice]

/-- Whatever a page shows, the listing that it was served from shows. -/
theorem shows_of_listed (consistent : IsConsistent drive key scene) {call : Call World}
    (member : call ∈ scene.calls) {page : ItemPage} {source : Option Fetch}
    (listed : call.stage = .listed page source) {item : ItemSummary} (shown : item ∈ page.items) :
    ∃ fetch ∈ scene.fetches, source = some fetch ∧ fetch.Shows item.id := by
  have own := (consistent.calls call member).listing
  rw [listed] at own
  obtain ⟨fetch, isFetched, isSource, range, rfl⟩ := own
  exact ⟨fetch, isFetched, isSource, item, List.mem_of_mem_drop (List.mem_of_mem_take shown), rfl⟩

theorem staysGone_of_not_atLarge {id : String} {trashed : Nat}
    (reachable : Reachable drive key scene) (past : trashed < scene.moment)
    (notLarge : FreshSince trashed (Fetch.Shows id) scene →
      ¬ AtLarge drive key (fun fetch => fetch.moment < trashed ∧ fetch.Shows id) scene) :
    StaysGone drive key id trashed scene := by
  intro later run fresh call member since page source listed item shown same
  have consistent := isConsistent_of_reachable (reachable_of_reaches reachable run)
  obtain ⟨fetch, isFetched, rfl, shows⟩ := shows_of_listed consistent member listed shown
  rw [same] at shows
  have old : fetch.moment < trashed :=
    Nat.lt_of_not_le fun recent => fresh fetch isFetched recent shows
  apply notLarge fun known isKnown => fresh known (fetches_subset_of_reaches run isKnown)
  apply atLarge_of_hasReached (isConsistent_of_reachable reachable) run
  · intro known _ recent isStale
    omega
  · refine ⟨call, member, since, Or.inr ?_⟩
    rw [listed]
    exact ⟨old, shows⟩

theorem not_staysGone_of_atLarge {id : String} {trashed : Nat}
    (reachable : Reachable drive key scene) {caller : Caller World}
    (account : caller.apiKeyOr drive.apiKey = .ok key)
    (fresh : FreshSince trashed (Fetch.Shows id) scene)
    (large : AtLarge drive key (fun fetch => fetch.moment < trashed ∧ fetch.Shows id) scene) :
    ¬ StaysGone drive key id trashed scene := by
  intro gone
  obtain ⟨fetch, ⟨_, item, shown, same⟩, served⟩ :=
    reaches_served_of_atLarge (isConsistent_of_reachable reachable) account large
  obtain ⟨later, run, fetches, call, member, since, listed⟩ := served ⟨0, fetch.items.length⟩
  have laterFresh : FreshSince trashed (Fetch.Shows id) later := by
    rw [FreshSince, fetches]
    exact fresh
  refine gone later run laterFresh call member since _ _ listed item ?_ same
  rw [slice_all]
  exact shown

theorem staysFresh_of_not_atLarge {started : Nat} (reachable : Reachable drive key scene)
    (past : started ≤ scene.moment)
    (notLarge : ¬ AtLarge drive key (fun fetch => fetch.moment < started) scene) :
    StaysFresh drive key started scene := by
  intro later run call member since page fetch listed
  apply Nat.le_of_not_lt
  intro old
  apply notLarge
  apply atLarge_of_hasReached (isConsistent_of_reachable reachable) run
  · intro known _ recent isStale
    omega
  · refine ⟨call, member, since, Or.inr ?_⟩
    rw [listed]
    exact old

theorem not_staysFresh_of_atLarge {started : Nat} (reachable : Reachable drive key scene)
    {caller : Caller World} (account : caller.apiKeyOr drive.apiKey = .ok key)
    (large : AtLarge drive key (fun fetch => fetch.moment < started) scene) :
    ¬ StaysFresh drive key started scene := by
  intro staysFresh
  obtain ⟨fetch, old, served⟩ :=
    reaches_served_of_atLarge (isConsistent_of_reachable reachable) account large
  obtain ⟨later, run, _, call, member, since, listed⟩ := served PageRange.first
  exact Nat.not_le.mpr old (staysFresh later run call member since _ fetch listed)

theorem mutation_lt {call : Call World} (reachable : Reachable drive key scene)
    (member : call ∈ scene.calls) {mutation : Nat} (made : call.stage.mutation? = some mutation) : mutation < scene.moment :=
  ((isConsistent_of_reachable reachable).calls call member).mutation mutation made

/-- Once an item has been removed it stays gone from the pages of later list calls exactly if no
listing that shows it and was fetched before is at large, and once an item has been added later list
calls are served from listings that were fetched since exactly if none from before is at large.
Behind a step that drops the kept listing, a listing is at large exactly if a call holds it and
will keep it for others. -/
theorem later_listings_iff (drive : Drive World) (key : String) (scene : Scene World)
    (reachable : Reachable drive key scene) (call : Call World) (member : call ∈ scene.calls) :
    (∀ id trashed, call.stage = .removed (.ok id) trashed →
      (StaysGone drive key id trashed scene ↔
        (FreshSince trashed (Fetch.Shows id) scene →
          ¬ AtLarge drive key (fun fetch => fetch.moment < trashed ∧ fetch.Shows id) scene))) ∧
    (∀ outcome started, call.stage = .added outcome (some started) →
      (StaysFresh drive key started scene ↔
        ¬ AtLarge drive key (fun fetch => fetch.moment < started) scene)) ∧
    ∀ index stale, scene.calls[index]? = some call → call.stage.Drops →
      (AtLarge drive key stale (scene.proceed drive key index call) ↔
        drive.ServesKept (scene.now drive) ∧
          ∃ other ∈ scene.calls, other.stage.Carries stale) := by
  have account := ((isConsistent_of_reachable reachable).calls call member).account
  refine ⟨fun id trashed removed => ?_, fun outcome started added => ?_,
    fun index stale found drops => atLarge_proceed_iff found drops⟩
  · have past := mutation_lt reachable member (by rw [removed]; rfl)
    constructor
    · intro gone fresh large
      exact not_staysGone_of_atLarge reachable account fresh large gone
    · exact staysGone_of_not_atLarge reachable past
  · have past := mutation_lt reachable member (by rw [added]; rfl)
    constructor
    · intro fresh large
      exact not_staysFresh_of_atLarge reachable account large fresh
    · exact staysFresh_of_not_atLarge reachable (Nat.le_of_lt past)

section LateListing

/-- A file of the drive. -/
def plainFile (id kind name sourceUrl : String) : File :=
  ⟨id, kind, name, "", completePhase, "", "", "", "", "", sourceUrl, [], ""⟩

def showUrl : String := "magnet:?xt=urn:btih:0123456789abcdef0123456789abcdef01234567"

/-- A drive whose folder of downloads holds one item until something is moved to the trash, and
which loses every answer to a new download. -/
def smallDrive : Drive Bool where
  api := {
    listFiles := fun _ filter => do
      if filter.parentId = "" then return ⟨[plainFile "pack" folderKind packName ""], ""⟩
      return ⟨if ← get then [plainFile "show" folderKind "Show" showUrl] else [], ""⟩
    file := fun _ id => Action.fail (.notFound id)
    addUrl := fun _ _ => Action.fail (.network "connection reset")
    listTasks := fun _ _ => pure []
    trash := fun _ _ => set false
    account := fun _ => Action.fail (.network "connection reset")
    membership := fun _ => Action.fail (.network "connection reset") }
  clock := ⟨fun _ => 0, fun _ => Timestamp.epoch, fun _ world => world⟩
  apiKey := some "key"
  policy := PollPolicy.standard
  listing := ⟨.pikPak, Listing.standardLifetime⟩
  availability := Availability.unknown
  pageBudget := 1

def showSummary : ItemSummary :=
  ⟨"show", "Show", "0123456789abcdef0123456789abcdef01234567", -1, .downloaded, Timestamp.epoch⟩

def anyCaller : Caller Bool := ⟨none, none, fun _ => false⟩

def showFetch : Fetch := ⟨2, Listing.newestFirst [showSummary]⟩

/-- A list call holds the listing of the small drive. -/
def fetchedScene : Scene Bool where
  session := ⟨Cache.empty, true⟩
  calls := [⟨anyCaller, 0, .keeping PageRange.first showFetch⟩]
  moment := 3
  kept := none
  fetches := [showFetch]

/-- Meanwhile the item has been removed. -/
def removedScene : Scene Bool where
  session := ⟨Cache.empty, false⟩
  calls := [⟨anyCaller, 0, .keeping PageRange.first showFetch⟩,
    ⟨anyCaller, 3, .removed (.ok "show") 4⟩]
  moment := 6
  kept := none
  fetches := [showFetch]

def otherUrl : String := "magnet:?xt=urn:btih:ffffffffffffffffffffffffffffffffffffffff"

def otherMagnet : Magnet := ⟨"ffffffffffffffffffffffffffffffffffffffff", "", otherUrl, otherUrl⟩

/-- The listing has been kept, and another item is not found on the drive. -/
def openedScene : Scene Bool where
  session := ⟨Cache.empty.set 0 (smallDrive.listing.key (accountKey "key")) showFetch.items
    smallDrive.listing.lifetime, true⟩
  calls := [⟨anyCaller, 0, .listed (PageRange.first.slice showFetch.items) (some showFetch)⟩,
    ⟨anyCaller, 4, .starting otherMagnet⟩]
  moment := 6
  kept := some showFetch
  fetches := [showFetch]

/-- Nothing is heard of its download. -/
def unansweredScene : Scene Bool where
  session := openedScene.session
  calls := [⟨anyCaller, 0, .listed (PageRange.first.slice showFetch.items) (some showFetch)⟩,
    ⟨anyCaller, 4, .added (.error (.failure (.network "connection reset"))) (some 6)⟩]
  moment := 7
  kept := some showFetch
  fetches := [showFetch]

theorem reachable_fetchedScene : Reachable smallDrive "key" fetchedScene := by
  refine ⟨⟨Cache.empty, true⟩, rfl, ?_⟩
  have looked : Reaches smallDrive "key" (Scene.start ⟨Cache.empty, true⟩) _ :=
    (Relation.ReflTransGen.single (.begins anyCaller (.list PageRange.first) rfl)).tail
      (.proceeds 0 ⟨anyCaller, 0, .looking PageRange.first⟩ rfl rfl (Nat.le_refl 0))
  exact looked.tail
    (.proceeds 0 ⟨anyCaller, 0, .fetching PageRange.first⟩ rfl rfl (Nat.le_refl 0))

theorem reachable_removedScene : Reachable smallDrive "key" removedScene := by
  refine reachable_of_reaches reachable_fetchedScene ?_
  have trashed : Reaches smallDrive "key" fetchedScene _ :=
    (Relation.ReflTransGen.single (.begins anyCaller (.remove "show") rfl)).tail
      (.proceeds 1 ⟨anyCaller, 3, .trashing "show"⟩ rfl rfl (Nat.le_refl 0))
  exact trashed.tail (.proceeds 1 ⟨anyCaller, 3, .dropping "show" 4⟩ rfl rfl (Nat.le_refl 0))

theorem reachable_unansweredScene : Reachable smallDrive "key" unansweredScene := by
  refine reachable_of_reaches reachable_fetchedScene ?_
  have begun : Reaches smallDrive "key" fetchedScene _ :=
    (Relation.ReflTransGen.single (.proceeds 0
      ⟨anyCaller, 0, .keeping PageRange.first showFetch⟩ rfl rfl (Nat.le_refl 0))).tail
      (.begins anyCaller (.add (.magnet otherUrl)) rfl)
  have opened : Reaches smallDrive "key" fetchedScene openedScene :=
    begun.tail (.proceeds 1 ⟨anyCaller, 4, .opening (.magnet otherUrl)⟩ rfl rfl (Nat.le_refl 0))
  exact opened.tail (.proceeds 1 ⟨anyCaller, 4, .starting otherMagnet⟩ rfl rfl (Nat.le_refl 0))

/-- An item that was removed while a list call held its listing is shown again, and a listing that
was kept before a download could not be started is served still. -/
theorem late_listing :
    (Reachable smallDrive "key" removedScene ∧
      ⟨anyCaller, 3, .removed (.ok "show") 4⟩ ∈ removedScene.calls ∧
      ¬ StaysGone smallDrive "key" "show" 4 removedScene) ∧
    Reachable smallDrive "key" unansweredScene ∧
      ⟨anyCaller, 4, .added (.error (.failure (.network "connection reset"))) (some 6)⟩ ∈
        unansweredScene.calls ∧
      ¬ StaysFresh smallDrive "key" 6 unansweredScene := by
  have positive : 0 < smallDrive.listing.lifetime.nanoseconds := by decide
  have account : anyCaller.apiKeyOr smallDrive.apiKey = .ok "key" := rfl
  refine ⟨⟨reachable_removedScene, List.mem_cons_of_mem _ List.mem_cons_self, ?_⟩,
    reachable_unansweredScene, List.mem_cons_of_mem _ List.mem_cons_self, ?_⟩
  · refine not_staysGone_of_atLarge reachable_removedScene account ?_ ?_
    · intro fetch member recent
      cases List.mem_singleton.mp member
      exact absurd recent (by decide)
    · refine Or.inl ⟨Scene.servesKept_of_lasts (Cache.lasts_of_positive positive), _,
        List.mem_cons_self, by decide, showSummary, ?_, rfl⟩
      exact List.mem_mergeSort.mpr List.mem_cons_self
  · refine not_staysFresh_of_atLarge reachable_unansweredScene account ?_
    exact Or.inr ⟨_, showFetch, Cache.find?_put _ _ _, Cache.lasts_of_positive positive, rfl,
      by decide⟩

/-- The two conditions at the scenes of the small drive. -/
theorem later_listings_iff_small :
    (StaysGone smallDrive "key" "show" 4 removedScene ↔
      (FreshSince 4 (Fetch.Shows "show") removedScene →
        ¬ AtLarge smallDrive "key" (fun fetch => fetch.moment < 4 ∧ fetch.Shows "show")
          removedScene)) ∧
    (StaysFresh smallDrive "key" 6 unansweredScene ↔
      ¬ AtLarge smallDrive "key" (fun fetch => fetch.moment < 6) unansweredScene) := by
  constructor
  · exact (later_listings_iff smallDrive "key" removedScene reachable_removedScene
      ⟨anyCaller, 3, .removed (.ok "show") 4⟩ (List.mem_cons_of_mem _ List.mem_cons_self)).1 _ _ rfl
  · exact (later_listings_iff smallDrive "key" unansweredScene reachable_unansweredScene
      ⟨anyCaller, 4, .added (.error (.failure (.network "connection reset"))) (some 6)⟩
      (List.mem_cons_of_mem _ List.mem_cons_self)).2.1 _ _ rfl

end LateListing

end StoreGate.PikPak
