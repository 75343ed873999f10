import StoreGate.Proofs.PikPak.ReusedItems
import StoreGate.Proofs.TaskWaits
/-!
# What comes of a new download

A link whose content the drive does not have yet is handed to the service, once and as it was given,
and the store waits for the task that the service answers with.  What it reports in the end follows
from how that wait ends.
-/

namespace StoreGate.PikPak

variable {World : Type}

/-- A world, and the links that the service has been asked to download, each with the key of the
account. -/
abbrev Noted (World : Type) := Recorded World (String × String)

/-- The service with the links that it is to download put down. -/
def Api.noted (api : Api World) : Api (Noted World) where
  listFiles key filter := (api.listFiles key filter).beside
  file key id := (api.file key id).beside
  addUrl key link := (api.addUrl key link).recorded (key, link)
  listTasks key limit := (api.listTasks key limit).beside
  trash key ids := (api.trash key ids).beside
  account key := (api.account key).beside
  membership key := (api.membership key).beside

/-- The drive with the links that it hands on put down. -/
def Drive.noted (drive : Drive World) : Drive (Noted World) where
  api := drive.api.noted
  clock := drive.clock.beside _
  apiKey := drive.apiKey
  policy := drive.policy
  listing := drive.listing
  availability store magnets caller := do
    let (_, links) ← get
    let asking : Caller World :=
      { caller with isCancelled := fun world => caller.isCancelled (world, links) }
    (drive.availability store magnets asking).beside
  pageBudget := drive.pageBudget

/-- The magnet that an input stands for. -/
def magnetOf : AddInput → Outcome Magnet
  | .magnet link => Magnet.parse link
  | .torrent _ => .error (.unsupported .pikPak "add torrent file")

section Outcomes

variable (drive : Drive World) (caller : Caller World)

/-- Why no download is started, though no item of the content has been found, and the world that is
left behind. -/
inductive Unready (input : AddInput) (start : World) : Halt → World → Prop
  | invalid {failure : Failure} (noMagnet : magnetOf input = .error failure) :
      Unready input start (.failure failure) start
  | anonymous {magnet : Magnet} {failure : Failure} (isMagnet : magnetOf input = .ok magnet)
      (noAccount : caller.apiKeyOr drive.apiKey = .error failure) :
      Unready input start (.failure failure) start
  | cancelled {magnet : Magnet} {key : String} (isMagnet : magnetOf input = .ok magnet)
      (account : caller.apiKeyOr drive.apiKey = .ok key)
      (gaveUp : caller.isCancelled start = true) :
      Unready input start (.failure (.cancelled "request cancelled")) start
  /-- The drive cannot be searched. -/
  | unsearched {magnet : Magnet} {key : String} {halt : Halt} {after : World}
      (isMagnet : magnetOf input = .ok magnet) (account : caller.apiKeyOr drive.apiKey = .ok key)
      (active : caller.isCancelled start = false)
      (stopped : (drive.fileOfHash? key magnet.hash).runOn start = (.error halt, after)) :
      Unready input start halt after

/-- What the search of the drive for the hash of an input gives. -/
structure Finds (input : AddInput) (start : World) (key : String) (magnet : Magnet)
    (found : Option File) (after : World) : Prop where
  isMagnet : magnetOf input = .ok magnet
  account : caller.apiKeyOr drive.apiKey = .ok key
  active : caller.isCancelled start = false
  searched : (drive.fileOfHash? key magnet.hash).runOn start = (.ok found, after)

/-- The wait for a task. -/
def Drive.courseOf (key taskId : String) (start : World) : Poll.Course World Task :=
  ⟨drive.task key taskId, Task.state, caller.isCancelled, drive.clock, drive.policy, start⟩

/-- The status of an item that is not complete, by the task that was seen last. -/
inductive StatusBy : (last : Option Task) → ItemStatus → Prop
  | failed {task : Task} (inError : task.phase = errorPhase) : StatusBy (some task) .failed
  | downloading {task : Task} (isRunning : task.phase = runningPhase) :
      StatusBy (some task) .downloading
  | queued {last : Option Task}
      (other : ∀ task ∈ last, task.phase ≠ errorPhase ∧ task.phase ≠ runningPhase) :
      StatusBy last .queued

/-- What is reported of a download, by how the wait for its task has ended. -/
inductive Reports (key : String) (magnet : Magnet) (added : Task) (time : Timestamp)
    (left : World) : Except (PollFailure Task) Task → Except Halt Item → Prop
  | cancelled {last : Option Task} {reason : String} :
      Reports key magnet added time left (.error ⟨last, .failure (.cancelled reason)⟩)
        (.error (.failure (.cancelled reason)))
  /-- The file of the download is described as any other item, under its own hash and link. -/
  | complete {task : Task} {full : Item} {after : World}
      (described : (drive.api.file key added.fileId >>= drive.itemOf caller key).runOn left =
        (.ok full, after)) :
      Reports key magnet added time left (.ok task)
        (.ok { full with id := added.fileId, hash := magnet.hash, magnet := magnet.link })
  | undescribed {task : Task} {halt : Halt} {after : World}
      (stopped : (drive.api.file key added.fileId >>= drive.itemOf caller key).runOn left =
        (.error halt, after)) :
      Reports key magnet added time left (.ok task) (.error halt)
  | incomplete {last : Option Task} {cause : Failure} {status : ItemStatus}
      (other : ∀ reason, cause ≠ .cancelled reason) (statusBy : StatusBy last status) :
      Reports key magnet added time left (.error ⟨last, .failure cause⟩)
        (.ok ⟨added.fileId, magnet.name, magnet.hash, magnet.link, -1, status, [], time⟩)
  | unfinished {last : Option Task} :
      Reports key magnet added time left (.error ⟨last, .unfinished⟩) (.error .unfinished)
  | overflow {last : Option Task} :
      Reports key magnet added time left (.error ⟨last, .overflow⟩) (.error .overflow)

end Outcomes

section Adding

variable {drive : Drive World} {caller : Caller World} {input : AddInput} {key : String}
  {magnet : Magnet}

theorem statusBy_statusOf (last : Option Task) : StatusBy last (Drive.statusOf last) := by
  cases last with
  | none => exact .queued fun _ member => nomatch member
  | some task =>
      unfold Drive.statusOf
      dsimp only
      split
      next inError => exact .failed inError
      next noError =>
        split
        next isRunning => exact .downloading isRunning
        next notRunning =>
          exact .queued fun other member => by
            obtain rfl := Option.mem_some_iff.mp member
            exact ⟨noError, notRunning⟩

/-- How adding goes on behind the search of the drive. -/
def Drive.addFound (drive : Drive World) (caller : Caller World) (key : String) (magnet : Magnet) :
    Option File → Action (Session World) Item
  | some file => do
    let item ← Session.outside (drive.itemOf caller key file)
    return { item with hash := magnet.hash, magnet := magnet.link }
  | none => drive.download caller key magnet

theorem add_eq (drive : Drive World) (caller : Caller World) (input : AddInput) :
    drive.add caller input = (do
      let magnet ← Action.ofOutcome (magnetOf input)
      let key ← Action.ofOutcome (caller.apiKeyOr drive.apiKey)
      Session.outside caller.ensureActive
      let found ← Session.outside (drive.fileOfHash? key magnet.hash)
      drive.addFound caller key magnet found) := by
  have keyed : Session.outside (drive.keyOf caller) =
      Action.ofOutcome (caller.apiKeyOr drive.apiKey) := by
    rw [Drive.keyOf]
    cases caller.apiKeyOr drive.apiKey <;> rfl
  have searched : ∀ key magnet (found : Option File), drive.addFound caller key magnet found =
      match found with
      | some file => do
        let item ← Session.outside (drive.itemOf caller key file)
        return { item with hash := magnet.hash, magnet := magnet.link }
      | none => drive.download caller key magnet := fun key magnet found => by
    cases found <;> rfl
  simp only [← keyed, searched]
  cases input <;> rfl

/-- A caller that has a magnet and an account, and has not given up, gets what comes of the
search. -/
theorem runOn_add_of_active {session : Session World} (isMagnet : magnetOf input = .ok magnet)
    (account : caller.apiKeyOr drive.apiKey = .ok key)
    (active : caller.isCancelled session.world = false) :
    (drive.add caller input).runOn session =
      (Session.outside (drive.fileOfHash? key magnet.hash) >>=
        drive.addFound caller key magnet).runOn session := by
  rw [add_eq, isMagnet, account]
  simp only [Action.ofOutcome, pure_bind]
  rw [Action.runOn_bind, Session.runOn_outside, Caller.ensureActive, Action.runOn_check, active,
    if_neg Bool.false_ne_true]

theorem runOn_add_of_unready {session : Session World} {halt : Halt} {after : World}
    (unready : Unready drive caller input session.world halt after) :
    (drive.add caller input).runOn session = (.error halt, { session with world := after }) := by
  cases unready with
  | invalid noMagnet => rw [add_eq, noMagnet]; rfl
  | anonymous isMagnet noAccount => rw [add_eq, isMagnet, noAccount]; rfl
  | cancelled isMagnet account gaveUp =>
      rw [add_eq, isMagnet, account]
      simp only [Action.ofOutcome, pure_bind]
      rw [Action.runOn_bind, Session.runOn_outside, Caller.ensureActive, Action.runOn_check,
        if_pos gaveUp]
  | unsearched isMagnet account active stopped =>
      rw [runOn_add_of_active isMagnet account active, Action.runOn_bind, Session.runOn_outside,
        stopped]

theorem runOn_add_of_finds {session : Session World} {found : Option File} {after : World}
    (finds : Finds drive caller input session.world key magnet found after) :
    (drive.add caller input).runOn session =
      (drive.addFound caller key magnet found).runOn { session with world := after } := by
  rw [runOn_add_of_active finds.isMagnet finds.account finds.active, Action.runOn_bind,
    Session.runOn_outside, finds.searched]

theorem unready_or_finds (drive : Drive World) (caller : Caller World) (input : AddInput)
    (start : World) : (∃ halt after, Unready drive caller input start halt after) ∨
      ∃ key magnet found after, Finds drive caller input start key magnet found after := by
  cases isMagnet : magnetOf input with
  | error failure => exact .inl ⟨_, _, .invalid isMagnet⟩
  | ok magnet =>
      cases account : caller.apiKeyOr drive.apiKey with
      | error failure => exact .inl ⟨_, _, .anonymous isMagnet account⟩
      | ok key =>
          cases active : caller.isCancelled start with
          | true => exact .inl ⟨_, _, .cancelled isMagnet account active⟩
          | false =>
              cases searched : (drive.fileOfHash? key magnet.hash).runOn start with
              | mk result after =>
                  cases result with
                  | error halt => exact .inl ⟨_, _, .unsearched isMagnet account active searched⟩
                  | ok found =>
                      exact .inr ⟨key, magnet, found, after, isMagnet, account, active, searched⟩

/-- The item of a download that has not been waited for. -/
def startedItem (magnet : Magnet) (added : Task) (time : Timestamp) : Item :=
  ⟨added.fileId, magnet.name, magnet.hash, magnet.link, -1, .queued, [], time⟩

theorem reports_afterWait (magnet : Magnet) (added : Task) (time : Timestamp) (left : World)
    (waited : Except (PollFailure Task) Task) :
    Reports drive caller key magnet added time left waited
      ((drive.afterWait caller key (startedItem magnet added time) waited).runOn left).1 := by
  cases waited with
  | ok task =>
      have described : drive.afterWait caller key (startedItem magnet added time) (.ok task) =
          (drive.api.file key added.fileId >>= drive.itemOf caller key) >>= fun full =>
            pure { full with id := added.fileId, hash := magnet.hash, magnet := magnet.link } :=
        (bind_assoc _ _ _).symm
      rw [described, Action.runOn_bind]
      cases ran : (drive.api.file key added.fileId >>= drive.itemOf caller key).runOn left with
      | mk result after =>
          cases result with
          | ok full => exact .complete ran
          | error halt => exact .undescribed ran
  | error failure =>
      obtain ⟨last, halt⟩ := failure
      cases halt with
      | unfinished => exact .unfinished
      | overflow => exact .overflow
      | failure cause =>
          have incomplete (other : ∀ reason, cause ≠ .cancelled reason) :
              Reports drive caller key magnet added time left (.error ⟨last, .failure cause⟩)
                (.ok ⟨added.fileId, magnet.name, magnet.hash, magnet.link, -1,
                  Drive.statusOf last, [], time⟩) :=
            .incomplete other (statusBy_statusOf last)
          cases cause with
          | cancelled reason => exact .cancelled
          | _ => exact incomplete nofun

theorem runOn_download (drive : Drive World) (caller : Caller World) (key : String)
    (magnet : Magnet) (session : Session World) :
    ((drive.download caller key magnet).runOn session).1 =
      match (drive.api.addUrl key magnet.rawLink).runOn session.world with
      | (.error halt, _) => .error halt
      | (.ok added, begun) =>
        let (waited, left) := (drive.courseOf caller key added.id begun).run
        ((drive.afterWait caller key (startedItem magnet added (drive.clock.time begun))
          waited).runOn left).1 := by
  rw [Drive.download, Action.runOn_bind, Session.runOn_outside]
  cases (drive.api.addUrl key magnet.rawLink).runOn session.world with
  | mk result begun =>
      cases result with
      | error halt => rfl
      | ok added => rfl

end Adding

section Links

variable {drive : Drive World} {caller : Caller (Noted World)} {key : String} {magnet : Magnet}

/-- Whether exactly some links have been put down. -/
def HasLinks (links : List (String × String)) (noted : Noted World) : Prop :=
  noted.2 = links

/-- Only the call that adds a link is put down. -/
theorem keeps_beside {α : Type} (links : List (String × String)) (action : Action World α) :
    action.beside.Keeps (HasLinks links) :=
  fun _ same => same

theorem links_fileOfHash? {hash : String} {start after : Noted World}
    {result : Except Halt (Option File)}
    (searched : (drive.noted.fileOfHash? key hash).runOn start = (result, after)) :
    after.2 = start.2 := by
  have listed : ∀ filter, (drive.noted.api.listFiles key filter).Keeps (HasLinks start.2) :=
    fun filter => keeps_beside start.2 (drive.api.listFiles key filter)
  have kept := keeps_fileOfHash? listed hash start rfl
  rwa [searched] at kept

theorem links_of_unready {input : AddInput} {start after : Noted World} {halt : Halt}
    (unready : Unready drive.noted caller input start halt after) : after.2 = start.2 := by
  cases unready with
  | unsearched _ _ _ stopped => exact links_fileOfHash? stopped
  | _ => rfl

/-- The link is handed on once, whether the service takes it or not. -/
theorem links_download (drive : Drive World) (caller : Caller (Noted World)) (key : String)
    (magnet : Magnet) (session : Session (Noted World)) :
    HasLinks (session.world.2 ++ [(key, magnet.rawLink)])
      ((drive.noted.download caller key magnet).runOn session).2.world := by
  have handed : HasLinks (session.world.2 ++ [(key, magnet.rawLink)])
      ((drive.noted.api.addUrl key magnet.rawLink).runOn session.world).2 := rfl
  rw [Drive.download, Action.runOn_bind, Session.runOn_outside]
  cases ran : (drive.noted.api.addUrl key magnet.rawLink).runOn session.world with
  | mk result begun =>
      rw [ran] at handed
      cases result with
      | error halt => exact handed
      | ok added =>
          exact kept_announcing (fun _ => keeps_beside _ _) (fun _ => keeps_beside _ _)
            (fun _ => keeps_beside _ _) (fun _ holds => holds) caller magnet added 0 handed

end Links

/-- Adding a link hands it to the service exactly once, as it was given, if the drive has been
searched and no file of its hash found, and not at all if the input is no magnet, there is no
account, the caller has given up at the start, or the search has stopped.  What is reported of a
download that has started follows from how the wait for its task ends. -/
theorem add_reports_wait {World : Type} (drive : Drive World) (caller : Caller (Noted World))
    (input : AddInput) (session : Session (Noted World)) :
    let added := (drive.noted.add caller input).runOn session
    ((∃ halt after, Unready drive.noted caller input session.world halt after) ∨
      ∃ key magnet found after,
        Finds drive.noted caller input session.world key magnet found after) ∧
    (∀ halt after, Unready drive.noted caller input session.world halt after →
      added.1 = .error halt ∧ added.2.world.2 = session.world.2) ∧
    ∀ key magnet after, Finds drive.noted caller input session.world key magnet none after →
      added.2.world.2 = session.world.2 ++ [(key, magnet.rawLink)] ∧
      match (drive.noted.api.addUrl key magnet.rawLink).runOn after with
      | (.error halt, _) => added.1 = .error halt
      | (.ok task, begun) => ∃ looks waited left,
        (drive.noted.courseOf caller key task.id begun).Ends looks waited left ∧
          Reports drive.noted caller key magnet task (drive.noted.clock.time begun) left waited
            added.1 := by
  intro added
  refine ⟨unready_or_finds drive.noted caller input session.world, ?_, ?_⟩
  · intro halt after unready
    have refused : added = _ := runOn_add_of_unready unready
    rw [refused]
    exact ⟨rfl, links_of_unready unready⟩
  · intro key magnet after finds
    have downloads : added =
        (drive.noted.download caller key magnet).runOn { session with world := after } :=
      runOn_add_of_finds finds
    have links := links_download drive caller key magnet { session with world := after }
    rw [HasLinks, links_fileOfHash? finds.searched] at links
    rw [downloads, runOn_download]
    refine ⟨links, ?_⟩
    dsimp only
    cases (drive.noted.api.addUrl key magnet.rawLink).runOn after with
    | mk result begun =>
        cases result with
        | error halt => rfl
        | ok task =>
            obtain ⟨looks, waited, left, ends⟩ :=
              (drive.noted.courseOf caller key task.id begun).exists_ends
            refine ⟨looks, waited, left, ends, ?_⟩
            dsimp only
            rw [Poll.Course.run_of_ends ends]
            exact reports_afterWait magnet task _ left waited

section LostTask

def runningTask : Task := ⟨"task", "Show", "show", runningPhase⟩

/-- A drive with nothing on it, whose only task is running when it is looked at for the first time
and cannot be looked at again.  The world is the number of looks. -/
def lossyDrive : Drive Nat where
  api := {
    listFiles := fun _ filter =>
      if filter.parentId = "" then pure ⟨[packFolder], ""⟩ else pure ⟨[], ""⟩
    file := fun _ id => Action.fail (.notFound id)
    addUrl := fun _ _ => pure runningTask
    listTasks := fun _ _ => do
      let looks ← modifyGet fun looks => (looks, looks + 1)
      if looks = 0 then return [runningTask] else Action.fail (.network "connection reset")
    trash := fun _ _ => pure ()
    account := fun _ => Action.fail (.network "connection reset")
    membership := fun _ => Action.fail (.network "connection reset") }
  clock := ⟨fun _ => 0, fun _ => Timestamp.epoch, fun _ world => world⟩
  apiKey := some "key"
  policy := PollPolicy.standard
  listing := ⟨.pikPak, Listing.standardLifetime⟩
  availability := Availability.unknown
  pageBudget := 1

def lossyCaller : Caller (Noted Nat) := ⟨none, none, fun _ => false⟩

/-- A download that was running when it was seen last is reported as such, though the service does
not answer any more. -/
theorem add_reports_wait_lost :
    Finds lossyDrive.noted lossyCaller (.magnet showHash) (0, []) "key" showMagnet none (0, []) ∧
      ((lossyDrive.noted.add lossyCaller (.magnet showHash)).runOn ⟨Cache.empty, (0, [])⟩).1 =
        .ok ⟨"show", "", showHash, showMagnet.link, -1, .downloading, [], Timestamp.epoch⟩ ∧
      ((lossyDrive.noted.add lossyCaller (.magnet showHash)).runOn
        ⟨Cache.empty, (0, [])⟩).2.world.2 = [("key", showMagnet.rawLink)] := by
  have finds : Finds lossyDrive.noted lossyCaller (.magnet showHash) (0, []) "key" showMagnet none
      (0, []) := ⟨parse_showHash, rfl, rfl, rfl⟩
  let begun : Noted Nat := (0, [("key", showMagnet.rawLink)])
  let course := lossyDrive.noted.courseOf lossyCaller "key" "task" begun
  have pending : course.IsPendingFor 1 := fun look isEarlier => by
    obtain rfl := Nat.lt_one_iff.mp isEarlier
    exact ⟨runningTask, rfl, rfl⟩
  have active : course.IsActive 1 := ⟨rfl, rfl, rfl⟩
  have lost : course.Ends 2
      (.error ⟨some runningTask, .failure (.network "connection reset")⟩) (course.after 1) :=
    .stopped (.fault (by decide) pending active rfl)
  obtain ⟨_, _, reported⟩ := add_reports_wait lossyDrive lossyCaller (.magnet showHash)
    ⟨Cache.empty, (0, [])⟩
  obtain ⟨links, looks, waited, left, ends, reports⟩ := reported "key" showMagnet (0, []) finds
  obtain ⟨rfl, rfl⟩ := Prod.mk.inj
    ((Poll.Course.run_of_ends ends).symm.trans (Poll.Course.run_of_ends lost))
  refine ⟨finds, ?_, links⟩
  generalize ((lossyDrive.noted.add lossyCaller (.magnet showHash)).runOn
    ⟨Cache.empty, (0, [])⟩).1 = result at reports ⊢
  cases reports with
  | incomplete _ statusBy =>
      cases statusBy with
      | failed inError => exact absurd inError (by decide)
      | downloading _ => rfl
      | queued other => exact absurd rfl (other runningTask rfl).2

end LostTask

end StoreGate.PikPak
