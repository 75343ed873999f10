import StoreGate.Proofs.PikPak.ServiceCalls
import StoreGate.Proofs.TextParts
/-!
# Items that are reused

Before the store starts a download it looks for an item of the same content.  It takes the first
file whose source mentions the hash in hexadecimal digits, wherever they stand.  So it overlooks
sources that spell the hash in another way, and is misled by sources that mention the hash of other
content than their own.
-/

namespace StoreGate

namespace PikPak

/-- Whether a file comes from the content with a hash: its source is a link to this content, in
whatever spelling. -/
def File.IsOf (hash : String) (file : File) : Prop :=
  ∃ source, Magnet.parse file.sourceUrl = .ok source ∧ source.hash = hash

/-- Whether the source of a file holds the digits of a hash, in upper or lower case. -/
def File.Mentions (hash : String) (file : File) : Prop :=
  ∃ before digits after, file.sourceUrl.toList = before ++ digits ++ after ∧
    digits.map Char.toLower = hash.toList

/-- Whether a file is the first one that mentions a hash. -/
def FirstToMention (hash : String) (files : List File) (file : File) : Prop :=
  ∃ before after, files = before ++ file :: after ∧ file.Mentions hash ∧
    ∀ other ∈ before, ¬ other.Mentions hash

theorem isOf_iff {hash : String} {file : File} (named : hash ≠ "") :
    file.IsOf hash ↔ Drive.hashOf file.sourceUrl = hash := by
  unfold File.IsOf Drive.hashOf
  cases Magnet.parse file.sourceUrl with
  | ok source =>
      constructor
      · rintro ⟨_, same, rfl⟩
        cases same
        rfl
      · exact fun same => ⟨source, rfl, same⟩
  | error failure =>
      refine iff_of_false ?_ named.symm
      rintro ⟨_, contradictory, _⟩
      cases contradictory

theorem FirstToMention.mem {hash : String} {files : List File} {file : File}
    (first : FirstToMention hash files file) : file ∈ files := by
  obtain ⟨before, after, rfl, _⟩ := first
  exact List.mem_append_right _ List.mem_cons_self

theorem comesFrom_iff {hash : String} {file : File} :
    Drive.comesFrom hash file = true ↔ file.Mentions hash := by
  rw [Drive.comesFrom, Text.occursIn_iff, List.IsInfix]
  constructor
  · rintro ⟨before, after, joined⟩
    obtain ⟨most, rest, source, lowered, _⟩ := List.map_eq_append_iff.mp joined.symm
    obtain ⟨start, digits, rfl, _, isHash⟩ := List.map_eq_append_iff.mp lowered
    exact ⟨start, digits, rest, source, isHash⟩
  · rintro ⟨before, digits, after, source, isHash⟩
    refine ⟨before.map Char.toLower, after.map Char.toLower, ?_⟩
    rw [source, List.map_append, List.map_append, isHash]

theorem find?_eq_some_iff {hash : String} {files : List File} {file : File} :
    files.find? (Drive.comesFrom hash) = some file ↔ FirstToMention hash files file := by
  rw [List.find?_eq_some_iff_append, comesFrom_iff]
  have others : ∀ before : List File, (∀ other ∈ before, (!Drive.comesFrom hash other) = true) ↔
      ∀ other ∈ before, ¬ other.Mentions hash := by
    intro before
    simp only [Bool.not_eq_true', ← comesFrom_iff, Bool.not_eq_true]
  constructor
  · rintro ⟨mentions, before, after, joined, silent⟩
    exact ⟨before, after, joined, mentions, (others before).mp silent⟩
  · rintro ⟨before, after, joined, mentions, silent⟩
    exact ⟨mentions, before, after, joined, (others before).mpr silent⟩

theorem find?_eq_none_iff {hash : String} {files : List File} :
    files.find? (Drive.comesFrom hash) = none ↔ ∀ file ∈ files, ¬ file.Mentions hash := by
  rw [List.find?_eq_none]
  simp only [comesFrom_iff]

section Tries

variable {World α : Type}

/-- Whether the service has been asked to start a download. -/
def HasTried (watched : Watched World) : Prop :=
  ∃ call ∈ watched.calls, call.kind = .addUrl

/-- Calls that have been put down stay there. -/
theorem keeps_hasTried (kind : CallKind) (call : Action World α) :
    (watch kind call).Keeps HasTried := by
  rintro watched ⟨tried, member, isAddition⟩
  exact ⟨tried, List.mem_append_left _ member, isAddition⟩

theorem keeps_untried {kind : CallKind} (other : kind ≠ .addUrl) (call : Action World α) :
    (watch kind call).Keeps fun watched => ¬ HasTried watched := by
  rintro watched untried ⟨tried, member, isAddition⟩
  cases List.mem_append.mp member with
  | inl earlier => exact untried ⟨tried, earlier, isAddition⟩
  | inr last =>
      rw [List.mem_singleton.mp last] at isAddition
      exact other isAddition

theorem hasTried_watch (call : Action World α) (watched : Watched World) :
    HasTried ((watch .addUrl call).runOn watched).2 :=
  ⟨_, List.mem_append_right _ List.mem_cons_self, rfl⟩

/-- A download is tried, and nothing behind it makes this undone. -/
theorem hasTried_download (drive : Drive World) (caller : Caller (Watched World)) (key : String)
    (magnet : Magnet) (session : Session (Watched World)) :
    HasTried ((drive.watched.download caller key magnet).runOn session).2.world := by
  have whole : rest drive.watched key caller (.starting magnet) session = _ :=
    rest_advance 0 none (.starting magnet) session
  have same : (rest drive.watched key caller (.starting magnet) session).2 =
      ((drive.watched.download caller key magnet).runOn session).2 := rfl
  have tried := hasTried_watch (drive.api.addUrl key magnet.rawLink) session.world
  rw [← same, whole, advance, onward, Session.runOn_outside]
  cases ran : (drive.watched.api.addUrl key magnet.rawLink).runOn session.world with
  | mk result world =>
      have reached : HasTried world := by
        rw [show watch .addUrl (drive.api.addUrl key magnet.rawLink) =
          drive.watched.api.addUrl key magnet.rawLink from rfl, ran] at tried
        exact tried
      cases result with
      | error halt => exact reached
      | ok task =>
          exact kept_announcing (fun _ => keeps_hasTried _ _) (fun _ => keeps_hasTried _ _)
            (fun _ => keeps_hasTried _ _) (fun _ holds => holds) caller magnet task 0 reached

end Tries

/-- What adding a link is to do: the service is asked for a download exactly if no file comes from
the content of the link, and a file that is used instead comes from it. -/
structure AddsOnce {World : Type} (drive : Drive World) (caller : Caller (Watched World))
    (key link hash : String) (files : List File) (session : Session (Watched World)) : Prop where
  tries : HasTried ((drive.watched.add caller (.magnet link)).runOn session).2.world ↔
    ∀ file ∈ files, ¬ file.IsOf hash
  reuses : ∀ magnet file,
    ((drive.watched.seek caller key (.magnet link)).runOn session.world).1 =
      .ok (magnet, some file) → file.IsOf hash

section Adding

variable {World : Type} {drive : Drive World} {caller : Caller (Watched World)} {key link : String}
  {magnet : Magnet} {files : List File} {session : Session (Watched World)}
  {between : Watched World}

theorem runOn_add (account : caller.apiKeyOr drive.apiKey = .ok key) (input : AddInput) :
    (drive.watched.add caller input).runOn session = (do
      match ← Session.outside (drive.watched.seek caller key input) with
      | (magnet, some file) => Session.outside (drive.watched.present caller key magnet file)
      | (magnet, none) => drive.watched.download caller key magnet).runOn session := by
  have stages : rest drive.watched key caller (Request.stage (.add input)) =
      respond drive.watched caller (.add input) := rest_stage account (.add input)
  have same := congrFun stages session
  exact Prod.ext (Answer.item.inj (congrArg Prod.fst same)).symm (congrArg Prod.snd same).symm

variable (isMagnet : Magnet.parse link = .ok magnet)
  (active : caller.isCancelled session.world = false)
  (listed : (drive.watched.packFiles key).runOn session.world = (.ok files, between))

include isMagnet active listed

theorem runOn_seek : (drive.watched.seek caller key (.magnet link)).runOn session.world =
    (.ok (magnet, files.find? (Drive.comesFrom magnet.hash)), between) := by
  have goesOn : (caller.check "request cancelled").runOn session.world =
      (.ok (), session.world) := by
    rw [Action.runOn_check, active]
    rfl
  rw [Drive.seek, isMagnet]
  refine Action.runOn_bind_eq_ok_iff.mpr ⟨magnet, session.world, rfl, ?_⟩
  refine Action.runOn_bind_eq_ok_iff.mpr ⟨(), session.world, goesOn, ?_⟩
  refine Action.runOn_bind_eq_ok_iff.mpr ⟨_, between, ?_, rfl⟩
  exact Action.runOn_bind_eq_ok_iff.mpr ⟨files, between, listed, rfl⟩

variable (account : caller.apiKeyOr drive.apiKey = .ok key)

include account

theorem runOn_add_of_none (none : files.find? (Drive.comesFrom magnet.hash) = none) :
    (drive.watched.add caller (.magnet link)).runOn session =
      (drive.watched.download caller key magnet).runOn ⟨session.listings, between⟩ := by
  rw [runOn_add account, Action.runOn_bind, Session.runOn_outside,
    runOn_seek isMagnet active listed, none]

/-- The item of the first file that mentions the hash is used. -/
theorem runOn_add_of_first {file : File} (first : FirstToMention magnet.hash files file) :
    (drive.watched.add caller (.magnet link)).runOn session =
      (Session.outside (drive.watched.present caller key magnet file)).runOn
        ⟨session.listings, between⟩ := by
  rw [runOn_add account, Action.runOn_bind, Session.runOn_outside,
    runOn_seek isMagnet active listed, find?_eq_some_iff.mpr first]

variable (untried : ¬ HasTried session.world)

include untried

/-- A download is tried exactly if no file mentions the hash. -/
theorem hasTried_add_iff :
    HasTried ((drive.watched.add caller (.magnet link)).runOn session).2.world ↔
      ∀ file ∈ files, ¬ file.Mentions magnet.hash := by
  have lists : ∀ filter, (drive.watched.api.listFiles key filter).Keeps
      fun watched => ¬ HasTried watched := fun filter => keeps_untried (by decide) _
  have untriedBetween : ¬ HasTried between := by
    have kept := keeps_packFiles lists session.world untried
    rwa [listed] at kept
  rw [← find?_eq_none_iff]
  cases found : files.find? (Drive.comesFrom magnet.hash) with
  | none =>
      rw [runOn_add_of_none isMagnet active listed account found]
      exact iff_of_true (hasTried_download drive caller key magnet _) rfl
  | some file =>
      rw [runOn_add_of_first isMagnet active listed account (find?_eq_some_iff.mp found)]
      exact iff_of_false (keeps_present lists caller magnet file between untriedBetween)
        (Option.some_ne_none file)

theorem addsOnce_iff : AddsOnce drive caller key link magnet.hash files session ↔
    (∀ file, FirstToMention magnet.hash files file → file.IsOf magnet.hash) ∧
      ((∀ file ∈ files, ¬ file.Mentions magnet.hash) →
        ∀ file ∈ files, ¬ file.IsOf magnet.hash) := by
  have tried := hasTried_add_iff isMagnet active listed account untried
  have sought := runOn_seek isMagnet active listed
  constructor
  · intro lawful
    refine ⟨fun file first => lawful.reuses magnet file ?_, fun silent => ?_⟩
    · rw [sought, find?_eq_some_iff.mpr first]
    · exact lawful.tries.mp (tried.mpr silent)
  · rintro ⟨rightly, completely⟩
    refine ⟨⟨fun has => completely (tried.mp has), fun none => tried.mpr ?_⟩, ?_⟩
    · -- If any file mentioned the hash, the first one to do so would come from its content.
      rw [← find?_eq_none_iff]
      cases found : files.find? (Drive.comesFrom magnet.hash) with
      | none => rfl
      | some file =>
          exact absurd (rightly file (find?_eq_some_iff.mp found))
            (none file (List.mem_of_find?_eq_some found))
    · intro other file reused
      rw [sought] at reused
      exact rightly file (find?_eq_some_iff.mp (Prod.mk.inj (Except.ok.inj reused)).2)

end Adding

/-- Adding a link tries a download exactly if the source of no file mentions the hash in hexadecimal
digits, and otherwise uses the item of the first file whose source does.  This is what it is to do
exactly for those drives on which the first file to mention the hash comes from its content, and on
which, where no file mentions the hash, none comes from its content either. -/
theorem add_uses_first_mention {World : Type} (drive : Drive World)
    {caller : Caller (Watched World)} {key link : String} {magnet : Magnet} {files : List File}
    {session : Session (Watched World)} {between : Watched World}
    (account : caller.apiKeyOr drive.apiKey = .ok key)
    (isMagnet : Magnet.parse link = .ok magnet)
    (active : caller.isCancelled session.world = false)
    (untried : ¬ HasTried session.world)
    (listed : (drive.watched.packFiles key).runOn session.world = (.ok files, between)) :
    (HasTried ((drive.watched.add caller (.magnet link)).runOn session).2.world ↔
      ∀ file ∈ files, ¬ file.Mentions magnet.hash) ∧
    (∀ file, FirstToMention magnet.hash files file →
      (drive.watched.add caller (.magnet link)).runOn session =
        (Session.outside (drive.watched.present caller key magnet file)).runOn
          ⟨session.listings, between⟩) ∧
    (AddsOnce drive caller key link magnet.hash files session ↔
      (∀ file, FirstToMention magnet.hash files file → file.IsOf magnet.hash) ∧
        ((∀ file ∈ files, ¬ file.Mentions magnet.hash) →
          ∀ file ∈ files, ¬ file.IsOf magnet.hash)) :=
  ⟨hasTried_add_iff isMagnet active listed account untried,
    fun _ => runOn_add_of_first isMagnet active listed account,
    addsOnce_iff isMagnet active listed account untried⟩

section Packs

def packFolder : File :=
  ⟨"pack", folderKind, packName, "", completePhase, "", "", "", "", "", "", [], ""⟩

/-- A drive with some files in its folder of downloads. -/
def packDrive (files : List File) : Drive Unit where
  api := {
    listFiles := fun _ filter =>
      if filter.parentId = "" then pure ⟨[packFolder], ""⟩ else pure ⟨files, ""⟩
    file := fun _ id => Action.fail (.notFound id)
    addUrl := fun _ _ => Action.fail (.network "connection reset")
    listTasks := fun _ _ => pure []
    trash := fun _ _ => pure ()
    account := fun _ => Action.fail (.network "connection reset")
    membership := fun _ => Action.fail (.network "connection reset") }
  clock := ⟨fun _ => 0, fun _ => Timestamp.epoch, fun _ world => world⟩
  apiKey := some "key"
  policy := PollPolicy.standard
  listing := ⟨.pikPak, Listing.standardLifetime⟩
  availability := Availability.unknown
  pageBudget := 1

/-- A complete file that was downloaded from a link. -/
def packed (sourceUrl : String) : File :=
  ⟨"show", fileKind, "Show", "7", completePhase, "", "", "", "", "", sourceUrl, [], ""⟩

def packCaller : Caller (Watched Unit) := ⟨none, none, fun _ => false⟩

def atFirst : Session (Watched Unit) := ⟨Cache.empty, ⟨(), []⟩⟩

def showHash : String := "c9e15763f722f23e98a29decdfae341b98d53056"

def showMagnet : Magnet :=
  ⟨showHash, "", "magnet:?xt=urn:btih:" ++ showHash, "magnet:?xt=urn:btih:" ++ showHash⟩

/-- The source spells the hash in uppercase letters. -/
def inCapitals : File := packed "magnet:?xt=urn:btih:C9E15763F722F23E98A29DECDFAE341B98D53056"

/-- The source spells the hash in base32. -/
def inBase32 : File := packed "magnet:?xt=urn:btih:ZHQVOY7XELZD5GFCTXWN7LRUDOMNKMCW"

/-- The source is a link to other content, whose name is the hash. -/
def namedByHash : File :=
  packed ("magnet:?xt=urn:btih:dd8255ecdc7ca55fb0bbf81323d87062db1f6d1c&dn=" ++ showHash)

theorem account_packDrive (files : List File) :
    packCaller.apiKeyOr (packDrive files).apiKey = .ok "key" := rfl

theorem active_packCaller : packCaller.isCancelled atFirst.world = false := rfl

theorem parse_showHash : Magnet.parse showHash = .ok showMagnet := rfl

theorem untried_atFirst : ¬ HasTried atFirst.world := by
  rintro ⟨_, member, _⟩
  cases member

theorem listed_packDrive (files : List File) :
    ((packDrive files).watched.packFiles "key").runOn atFirst.world =
      (.ok files, ⟨(), [⟨.listFiles, true⟩, ⟨.listFiles, true⟩]⟩) := rfl

theorem firstToMention_only {hash : String} {file : File} (mentions : file.Mentions hash) :
    FirstToMention hash [file] file :=
  ⟨[], [], rfl, mentions, fun _ member => nomatch member⟩

/-- Capitals do not keep an item from being found again. -/
theorem add_uses_first_mention_capitals :
    (packCaller.apiKeyOr (packDrive [inCapitals]).apiKey = .ok "key" ∧
      Magnet.parse showHash = .ok showMagnet ∧ packCaller.isCancelled atFirst.world = false ∧
      ¬ HasTried atFirst.world ∧
      (((packDrive [inCapitals]).watched.packFiles "key").runOn atFirst.world).1 =
        .ok [inCapitals]) ∧
    ¬ HasTried (((packDrive [inCapitals]).watched.add packCaller (.magnet showHash)).runOn
      atFirst).2.world ∧
    AddsOnce (packDrive [inCapitals]) packCaller "key" showHash showHash [inCapitals] atFirst := by
  have mentions : inCapitals.Mentions showHash := comesFrom_iff.mp (by decide +kernel)
  have isOf : inCapitals.IsOf showHash := (isOf_iff (by decide)).mpr (by decide +kernel)
  have adds := add_uses_first_mention (packDrive [inCapitals]) (account_packDrive [inCapitals])
    parse_showHash active_packCaller untried_atFirst (listed_packDrive [inCapitals])
  obtain ⟨tries, _, law⟩ := adds
  refine ⟨⟨rfl, parse_showHash, active_packCaller, untried_atFirst, rfl⟩, fun tried => ?_, law.mpr ⟨?_, ?_⟩⟩
  · exact tries.mp tried inCapitals List.mem_cons_self mentions
  · intro file first
    rw [List.mem_singleton.mp first.mem]
    exact isOf
  · exact fun silent => absurd mentions (silent inCapitals List.mem_cons_self)

/-- A source in base32 is overlooked and the download tried once more, and an item with the hash for
its name is taken for the content with this hash. -/
theorem addsOnce_fails :
    (HasTried (((packDrive [inBase32]).watched.add packCaller (.magnet showHash)).runOn
        atFirst).2.world ∧ inBase32.IsOf showHash ∧
      ¬ AddsOnce (packDrive [inBase32]) packCaller "key" showHash showHash [inBase32] atFirst) ∧
    (((packDrive [namedByHash]).watched.seek packCaller "key" (.magnet showHash)).runOn
        atFirst.world).1 = .ok (showMagnet, some namedByHash) ∧ ¬ namedByHash.IsOf showHash ∧
      ¬ AddsOnce (packDrive [namedByHash]) packCaller "key" showHash showHash [namedByHash]
        atFirst := by
  constructor
  · have silent : ¬ inBase32.Mentions showHash := fun mentions =>
      absurd (comesFrom_iff.mpr mentions) (by decide +kernel)
    have isOf : inBase32.IsOf showHash := (isOf_iff (by decide)).mpr (by decide +kernel)
    have tried := (hasTried_add_iff parse_showHash active_packCaller (listed_packDrive [inBase32])
      (account_packDrive [inBase32]) untried_atFirst).mpr fun file member =>
        List.mem_singleton.mp member ▸ silent
    exact ⟨tried, isOf, fun lawful => lawful.tries.mp tried inBase32 List.mem_cons_self isOf⟩
  · have mentions : namedByHash.Mentions showHash := comesFrom_iff.mp (by decide +kernel)
    have other : ¬ namedByHash.IsOf showHash := fun isOf =>
      absurd ((isOf_iff (by decide)).mp isOf) (by decide +kernel)
    have found : [namedByHash].find? (Drive.comesFrom showMagnet.hash) = some namedByHash :=
      find?_eq_some_iff.mpr (firstToMention_only mentions)
    have sought := runOn_seek parse_showHash active_packCaller (listed_packDrive [namedByHash])
    rw [found] at sought
    have reused := congrArg Prod.fst sought
    exact ⟨reused, other, fun lawful => other (lawful.reuses _ _ reused)⟩

end Packs

end PikPak

end StoreGate
