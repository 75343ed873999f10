import StoreGate.Proofs.Drive.Tallies
import StoreGate.Proofs.PikPak.CallSteps
/-!
# The calls to the service of a drive

The calls that a drive makes are put down beside its world, with whether they have succeeded.  What
the store finds out about items it finds out by listing files, so only the call that adds a link
starts a download.
-/

namespace StoreGate

namespace Poll

variable {World α β : Type} {kept : World → Prop}

/-- Whether a computation that always gives a value leaves a world as it should be. -/
def KeepsState (kept : World → Prop) (computation : StateM World α) : Prop :=
  ∀ world, kept world → kept (computation.run world).2

theorem KeepsState.bind {first : StateM World α} {next : α → StateM World β}
    (keeps : KeepsState kept first) (rest : ∀ value, KeepsState kept (next value)) :
    KeepsState kept (first >>= next) :=
  fun world holds => rest _ _ (keeps world holds)

theorem keepsState_pure (value : α) : KeepsState kept (pure value : StateM World α) :=
  fun _ holds => holds

theorem keepsState_get : KeepsState kept (get : StateM World World) :=
  fun _ holds => holds

/-- Waiting keeps what looking at the task and pausing keep. -/
theorem keepsState_attempts {fetch : Action World α} {phase : α → TaskPhase}
    {isCancelled : World → Bool} {clock : Clock World} {policy : PollPolicy}
    (fetched : fetch.Keeps kept)
    (paused : ∀ world, kept world → kept (clock.pause policy.interval world))
    (left : Nat) (last : Option α) :
    KeepsState kept (attempts fetch phase isCancelled clock policy left last) := by
  induction left using Nat.strongRecOn generalizing last with
  | _ left ih =>
      rw [attempts.eq_def]
      refine keepsState_get.bind fun world => ?_
      split
      · exact keepsState_pure _
      · refine KeepsState.bind fetched fun result => ?_
        cases result with
        | error halt => exact keepsState_pure _
        | ok task =>
            dsimp only
            cases phase task with
            | complete => exact keepsState_pure _
            | failed => exact keepsState_pure _
            | pending =>
                cases left with
                | zero => exact keepsState_pure _
                | succ left =>
                    refine keepsState_get.bind fun after => ?_
                    split
                    · exact keepsState_pure _
                    · exact KeepsState.bind paused fun _ => ih left (Nat.lt_succ_self left) _

end Poll

namespace PikPak

section Lists

variable {World : Type} {kept : World → Prop} {drive : Drive World} {key : String}

theorem keeps_folderAmong (list : FileList) :
    Action.Keeps kept (match list.files.find? (·.name = packName) with
      | some folder => return folder
      | none => Action.fail (.service .pikPak "'My Pack' folder missing")) := by
  cases list.files.find? (·.name = packName) with
  | some folder => exact Action.keeps_pure folder
  | none => exact Action.keeps_throw _

variable (listed : ∀ filter, (drive.api.listFiles key filter).Keeps kept)

include listed

theorem keeps_packFolder : (drive.packFolder key).Keeps kept :=
  (listed _).bind keeps_folderAmong

theorem keeps_packFiles : (drive.packFiles key).Keeps kept := by
  refine (keeps_packFolder listed).bind fun folder => ?_
  exact Action.keeps_overPages (fun token => listed _) (fun list => Action.keeps_pure _) _ none

theorem keeps_fileOfHash? (hash : String) : (drive.fileOfHash? key hash).Keeps kept :=
  (keeps_packFiles listed).bind fun _ => Action.keeps_pure _

theorem keeps_itemOf (caller : Caller World) (file : File) :
    (drive.itemOf caller key file).Keeps kept := by
  have folders : ∀ folderId token, (drive.folders key folderId token).Keeps kept :=
    fun folderId token => (listed _).bind fun _ => Action.keeps_pure _
  unfold Drive.itemOf
  dsimp only
  split
  · exact Action.keeps_pure _
  · split
    · exact (Flatten.keeps_run folders .pikPak file.id caller drive.pageBudget).bind fun _ =>
        Action.keeps_pure _
    · exact Action.keeps_pure _

theorem keeps_seek (caller : Caller World) (input : AddInput) :
    (drive.seek caller key input).Keeps kept := by
  have found : ∀ magnet : Magnet, Action.Keeps kept (do
      caller.ensureActive
      let file ← drive.fileOfHash? key magnet.hash
      return (magnet, file)) := fun magnet =>
    (Action.keeps_check caller _).bind fun _ =>
      (keeps_fileOfHash? listed magnet.hash).bind fun _ => Action.keeps_pure _
  cases input with
  | magnet link => exact (Action.keeps_ofOutcome (Magnet.parse link)).bind found
  | torrent bytes => exact (Action.keeps_throw _).bind found

theorem keeps_present (caller : Caller World) (magnet : Magnet) (file : File) :
    (drive.present caller key magnet file).Keeps kept :=
  (keeps_itemOf listed caller file).bind fun _ => Action.keeps_pure _

end Lists

section Downloads

variable {World : Type} {kept : World → Prop} {drive : Drive World} {key : String}
  (listed : ∀ filter, (drive.api.listFiles key filter).Keeps kept)
  (described : ∀ id, (drive.api.file key id).Keeps kept)
  (looked : ∀ limit, (drive.api.listTasks key limit).Keeps kept)
  (paused : ∀ world, kept world → kept (drive.clock.pause drive.policy.interval world))

include looked in
theorem keeps_task (id : String) : (drive.task key id).Keeps kept := by
  refine (looked _).bind fun tasks => ?_
  cases tasks.find? (·.id = id) with
  | some task => exact Action.keeps_pure task
  | none => exact Action.keeps_throw _

include looked paused in
theorem keeps_attempts (caller : Caller World) (taskId : String) (left : Nat)
    (last : Option Task) : (drive.attempts caller key taskId left last).Keeps kept :=
  Poll.keepsState_attempts (keeps_task looked taskId) paused left last

include listed described in
theorem keeps_afterWait (caller : Caller World) (item : Item)
    (waited : Except (PollFailure Task) Task) :
    (drive.afterWait caller key item waited).Keeps kept := by
  unfold Drive.afterWait
  split
  · exact (described _).bind fun file =>
      (keeps_itemOf listed caller file).bind fun _ => Action.keeps_pure _
  · exact Action.keeps_throw _
  · exact Action.keeps_pure _
  · exact Action.keeps_throw _

include listed described looked paused in
/-- The rest of a download keeps what its calls and its pauses keep. -/
theorem kept_announcing (caller : Caller World) (magnet : Magnet) (task : Task) (started : Nat)
    {session : Session World} (holds : kept session.world) :
    kept (rest drive key caller (.announcing magnet task started) session).2.world := by
  have announced : Session.Holds kept ((drive.announce key magnet task).runOn session).2 := holds
  have forgets : (drive.listing.forget (accountKey key) : Action (Session World) Unit).Keeps
      (Session.Holds kept) := fun _ holds => holds
  have attempted := keeps_attempts looked paused caller task.id drive.policy.retries none
  refine Action.runOn_bind_keeps announced fun item => ?_
  refine (Session.keeps_outside attempted).bind fun waited => forgets.bind fun _ => ?_
  exact Session.keeps_outside (keeps_afterWait listed described caller item waited)

end Downloads

/-- The kinds of calls that the service answers. -/
inductive CallKind where
  | listFiles
  | file
  | addUrl
  | listTasks
  | trash
  | account
  | membership
  deriving DecidableEq, Repr

/-- A call that the service has answered. -/
structure ServiceCall where
  kind : CallKind
  succeeded : Bool
  deriving DecidableEq, Repr

/-- A world, and the calls that have been made to the service in it. -/
structure Watched (World : Type) where
  world : World
  calls : List ServiceCall

section Watching

variable {World α : Type}

/-- Makes a call and puts it down. -/
def watch (kind : CallKind) (call : Action World α) : Action (Watched World) α :=
  ExceptT.mk fun watched =>
    let (result, world) := call.runOn watched.world
    (result, ⟨world, watched.calls ++ [⟨kind, result.isOk⟩]⟩)

/-- The service with its calls put down. -/
def Api.watched (api : Api World) : Api (Watched World) where
  listFiles key filter := watch .listFiles (api.listFiles key filter)
  file key id := watch .file (api.file key id)
  addUrl key link := watch .addUrl (api.addUrl key link)
  listTasks key limit := watch .listTasks (api.listTasks key limit)
  trash key ids := watch .trash (api.trash key ids)
  account key := watch .account (api.account key)
  membership key := watch .membership (api.membership key)

/-- The drive with its calls put down. -/
def Drive.watched (drive : Drive World) : Drive (Watched World) where
  api := drive.api.watched
  clock := {
    now := fun watched => drive.clock.now watched.world
    time := fun watched => drive.clock.time watched.world
    pause := fun length watched =>
      { watched with world := drive.clock.pause length watched.world } }
  apiKey := drive.apiKey
  policy := drive.policy
  listing := drive.listing
  availability store magnets caller := do
    let watched ← get
    let asking : Caller World :=
      { caller with isCancelled := fun world => caller.isCancelled { watched with world } }
    (drive.availability store magnets asking).onPart Watched.world fun world watched =>
      { watched with world }
  pageBudget := drive.pageBudget

/-- Whether none of the calls that have been made has started a download. -/
def StartsNothing (watched : Watched World) : Prop :=
  ⟨.addUrl, true⟩ ∉ watched.calls

theorem keeps_startsNothing {kind : CallKind} (other : kind ≠ .addUrl) (call : Action World α) :
    (watch kind call).Keeps StartsNothing := by
  intro watched nothing member
  cases List.mem_append.mp member with
  | inl earlier => exact nothing earlier
  | inr last => exact other (congrArg ServiceCall.kind (List.mem_singleton.mp last)).symm

/-- The call that is to start a download has been put down, whether it has succeeded or not. -/
theorem startsNothing_of_refused {call : Action World α} {watched after : Watched World}
    {halt : Halt} (refused : (watch .addUrl call).runOn watched = (.error halt, after))
    (nothing : StartsNothing watched) : StartsNothing after := by
  obtain ⟨failed, rfl⟩ := Prod.mk.inj refused
  intro member
  cases List.mem_append.mp member with
  | inl earlier => exact nothing earlier
  | inr last =>
      rw [failed] at last
      cases List.mem_singleton.mp last

/-- Whether any call has been made. -/
def HasAsked (watched : Watched World) : Prop :=
  watched.calls ≠ []

theorem hasAsked_watch (kind : CallKind) (call : Action World α) (watched : Watched World) :
    HasAsked ((watch kind call).runOn watched).2 :=
  List.append_ne_nil_of_right_ne_nil _ (List.cons_ne_nil _ _)

/-- No listing is fetched without a call. -/
theorem hasAsked_fetchListing (drive : Drive World) (key : String) (watched : Watched World) :
    HasAsked ((drive.watched.fetchListing key).runOn watched).2 := by
  have listed : ∀ filter, (drive.watched.api.listFiles key filter).Keeps HasAsked :=
    fun filter watched _ => hasAsked_watch .listFiles (drive.api.listFiles key filter) watched
  -- The folder of downloads is looked for first, and that is a call already.
  have first : HasAsked ((drive.watched.packFolder key).runOn watched).2 :=
    Action.runOn_bind_keeps (hasAsked_watch .listFiles _ watched) keeps_folderAmong
  refine Action.runOn_bind_keeps (Action.runOn_bind_keeps first fun folder => ?_) fun files =>
    Action.keeps_pure _
  exact Action.keeps_overPages (fun token => listed _) (fun list => Action.keeps_pure _) _ none

end Watching

end PikPak

end StoreGate
