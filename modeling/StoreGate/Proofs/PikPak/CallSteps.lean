import StoreGate.PikPak.Store
import StoreGate.Proofs.Actions
/-!
# Calls on one account, step by step

Calls that list, add and remove items of one account run beside each other.  Each of them goes on
from one pause to the next without being disturbed: it looks into the kept listings, asks the
service, or changes what is kept.  Between two steps of a call others make theirs, and the drive and
the clock may change by themselves.
-/

namespace StoreGate

namespace Poll

variable {World α : Type}

/-- One attempt: the end of the wait, or a task that is looked at again after a pause, with the
retries that are left then. -/
def attempt (fetch : Action World α) (phase : α → TaskPhase) (isCancelled : World → Bool)
    (policy : PollPolicy) (left : Nat) (last : Option α) :
    StateM World (Except (PollFailure α) α ⊕ α × Nat) := do
  if isCancelled (← get) then return .inl (.error ⟨last, cancelled⟩)
  match ← ExceptT.run fetch with
  | .error halt => return .inl (.error ⟨last, halt⟩)
  | .ok task =>
    match phase task with
    | .complete => return .inl (.ok task)
    | .failed => return .inl (.error ⟨some task, failedByService⟩)
    | .pending =>
      match left with
      | 0 => return .inl (.error ⟨some task, exhausted policy.retries⟩)
      | left + 1 =>
        if isCancelled (← get) then return .inl (.error ⟨some task, cancelled⟩)
        return .inr (task, left)

/-- Waiting is one attempt and, behind a pause, the rest of them. -/
theorem attempts_eq (fetch : Action World α) (phase : α → TaskPhase) (isCancelled : World → Bool)
    (clock : Clock World) (policy : PollPolicy) (left : Nat) (last : Option α) :
    attempts fetch phase isCancelled clock policy left last = (do
      match ← attempt fetch phase isCancelled policy left last with
      | .inl waited => return waited
      | .inr (task, left) =>
        modify (clock.pause policy.interval)
        attempts fetch phase isCancelled clock policy left (some task)) := by
  rw [attempts.eq_def, attempt, bind_assoc]
  refine bind_congr fun world => ?_
  split
  · simp only [pure_bind]
  · rw [bind_assoc]
    refine bind_congr fun result => ?_
    cases result with
    | error halt => simp only [pure_bind]
    | ok task =>
        dsimp only
        cases phase task with
        | complete => simp only [pure_bind]
        | failed => simp only [pure_bind]
        | pending =>
            cases left with
            | zero => simp only [pure_bind]
            | succ left =>
                simp only [bind_assoc]
                refine bind_congr fun world => ?_
                split <;> simp only [pure_bind]

end Poll

namespace PikPak

/-- A listing, sorted, with the moment at which it was fetched. -/
structure Fetch where
  moment : Nat
  items : List ItemSummary

/-- What a call gives in the end. -/
inductive Answer where
  | page (outcome : Except Halt ItemPage)
  | id (outcome : Except Halt String)
  | item (outcome : Except Halt Item)

/-- Where a call stands between two of its steps. -/
inductive Stage where
  /-- About to look for a kept listing. -/
  | looking (range : PageRange)
  | fetching (range : PageRange)
  /-- Holds a listing that is about to be kept. -/
  | keeping (range : PageRange) (fetch : Fetch)
  | listed (page : ItemPage) (source : Option Fetch)
  | unlisted (halt : Halt)
  | trashing (id : String)
  /-- About to drop the kept listing. -/
  | dropping (id : String) (trashed : Nat)
  | removed (outcome : Except Halt String) (trashed : Nat)
  /-- About to look for an item with the hash of a magnet. -/
  | opening (input : AddInput)
  | presenting (magnet : Magnet) (file : File)
  /-- About to start a download. -/
  | starting (magnet : Magnet)
  | announcing (magnet : Magnet) (task : Task) (started : Nat)
  | polling (item : Item) (taskId : String) (left : Nat) (last : Option Task) (started : Nat)
  | pausing (item : Item) (taskId : String) (left : Nat) (last : Task) (started : Nat)
  | settling (item : Item) (waited : Except (PollFailure Task) Task) (started : Nat)
  | describing (item : Item) (waited : Except (PollFailure Task) Task) (started : Nat)
  | added (outcome : Except Halt Item) (started : Option Nat)

namespace Stage

/-- The answer of a call that has come to its end. -/
def answer? : Stage → Option Answer
  | .listed page _ => some (.page (.ok page))
  | .unlisted halt => some (.page (.error halt))
  | .removed outcome _ => some (.id outcome)
  | .added outcome _ => some (.item outcome)
  | _ => none

end Stage

/-- What a call is made for. -/
inductive Request where
  | list (range : PageRange)
  | add (input : AddInput)
  | remove (id : String)

/-- Where a call begins. -/
def Request.stage : Request → Stage
  | .list range => .looking range
  | .add input => .opening input
  | .remove id => .trashing id

namespace Drive

variable {World : Type} {α : Type}

/-- The first step of adding: it finds out whether the drive has the item already. -/
def seek (drive : Drive World) (caller : Caller World) (key : String) (input : AddInput) :
    Action World (Magnet × Option File) := do
  let magnet ← match input with
    | .magnet link => Action.ofOutcome (Magnet.parse link)
    | .torrent _ => Action.fail (.unsupported .pikPak "add torrent file")
  caller.ensureActive
  let file ← drive.fileOfHash? key magnet.hash
  return (magnet, file)

/-- Describes an item that the drive has already. -/
def present (drive : Drive World) (caller : Caller World) (key : String) (magnet : Magnet)
    (file : File) : Action World Item := do
  let item ← drive.itemOf caller key file
  return { item with hash := magnet.hash, magnet := magnet.link }

/-- Drops the listing for a download that has started, and gives the item that it becomes. -/
def announce (drive : Drive World) (key : String) (magnet : Magnet) (task : Task) :
    Action (Session World) Item := do
  drive.listing.forget (accountKey key)
  let session ← get
  return ⟨task.fileId, magnet.name, magnet.hash, magnet.link, -1, .queued, [],
    drive.clock.time session.world⟩

/-- One attempt to see a task completed. -/
def attempt (drive : Drive World) (caller : Caller World) (key taskId : String) (left : Nat)
    (last : Option Task) : Action World (Except (PollFailure Task) Task ⊕ Task × Nat) :=
  Poll.attempt (drive.task key taskId) Task.state caller.isCancelled drive.policy left last

/-- All attempts from one on. -/
def attempts (drive : Drive World) (caller : Caller World) (key taskId : String) (left : Nat)
    (last : Option Task) : Action World (Except (PollFailure Task) Task) :=
  Poll.attempts (drive.task key taskId) Task.state caller.isCancelled drive.clock drive.policy left
    last

def pause (drive : Drive World) : Action World Unit :=
  modify (drive.clock.pause drive.policy.interval)

end Drive

section Steps

variable {World α : Type}

/-- Performs an action of a call, which then stands where its result leads. -/
def onward (action : Action (Session World) α) (next : α → Stage) (stop : Halt → Stage)
    (session : Session World) : Stage × Session World :=
  match action.runOn session with
  | (.ok value, session) => (next value, session)
  | (.error halt, session) => (stop halt, session)

/-- One step of a call, made at a moment at which a given listing is kept. -/
def advance (drive : Drive World) (key : String) (caller : Caller World) (moment : Nat)
    (kept : Option Fetch) : Stage → Session World → Stage × Session World
  | .looking range =>
    onward (drive.listing.lookUp drive.clock (accountKey key))
      (fun
        | some items => .listed (range.slice items) kept
        | none => .fetching range)
      .unlisted
  | .fetching range =>
    onward (Session.outside (drive.fetchListing key))
      (fun items => .keeping range ⟨moment, Listing.newestFirst items⟩)
      .unlisted
  | .keeping range fetch =>
    onward (drive.listing.remember drive.clock (accountKey key) fetch.items)
      (fun _ => .listed (range.slice fetch.items) (some fetch))
      .unlisted
  | .trashing id =>
    onward (Session.outside (drive.api.trash key [id])) (fun _ => .dropping id moment)
      fun halt => .removed (.error halt) moment
  | .dropping id trashed =>
    onward (drive.listing.forget (accountKey key)) (fun _ => .removed (.ok id) trashed)
      fun halt => .removed (.error halt) trashed
  | .opening input =>
    onward (Session.outside (drive.seek caller key input))
      (fun
        | (magnet, some file) => .presenting magnet file
        | (magnet, none) => .starting magnet)
      fun halt => .added (.error halt) none
  | .presenting magnet file =>
    onward (Session.outside (drive.present caller key magnet file))
      (fun item => .added (.ok item) none)
      fun halt => .added (.error halt) none
  | .starting magnet =>
    onward (Session.outside (drive.api.addUrl key magnet.rawLink))
      (fun task => .announcing magnet task moment)
      fun halt => .added (.error halt) (some moment)
  | .announcing magnet task started =>
    onward (drive.announce key magnet task)
      (fun item => .polling item task.id drive.policy.retries none started)
      fun halt => .added (.error halt) (some started)
  | .polling item taskId left last started =>
    onward (Session.outside (drive.attempt caller key taskId left last))
      (fun
        | .inl waited => .settling item waited started
        | .inr (task, left) => .pausing item taskId left task started)
      fun halt => .added (.error halt) (some started)
  | .pausing item taskId left last started =>
    onward (Session.outside drive.pause) (fun _ => .polling item taskId left (some last) started)
      fun halt => .added (.error halt) (some started)
  | .settling item waited started =>
    onward (drive.listing.forget (accountKey key)) (fun _ => .describing item waited started)
      fun halt => .added (.error halt) (some started)
  | .describing item waited started =>
    onward (Session.outside (drive.afterWait caller key item waited))
      (fun item => .added (.ok item) (some started))
      fun halt => .added (.error halt) (some started)
  | stage => fun session => (stage, session)

/-- The answer of an action, and the session behind it. -/
def answer (wrap : Except Halt α → Answer) (action : Action (Session World) α)
    (session : Session World) : Answer × Session World :=
  (wrap (action.runOn session).1, (action.runOn session).2)

/-- What the stores' own functions still do from a stage on, if nothing disturbs them. -/
def rest (drive : Drive World) (key : String) (caller : Caller World) :
    Stage → Session World → Answer × Session World
  | .looking range =>
    answer .page (drive.listing.page drive.clock (accountKey key) range (drive.fetchListing key))
  | .fetching range => answer .page do
    let items := Listing.newestFirst (← Session.outside (drive.fetchListing key))
    drive.listing.remember drive.clock (accountKey key) items
    return range.slice items
  | .keeping range fetch => answer .page do
    drive.listing.remember drive.clock (accountKey key) fetch.items
    return range.slice fetch.items
  | .listed page _ => fun session => (.page (.ok page), session)
  | .unlisted halt => fun session => (.page (.error halt), session)
  | .trashing id => answer .id do
    Session.outside (drive.api.trash key [id])
    drive.listing.forget (accountKey key)
    return id
  | .dropping id _ => answer .id do
    drive.listing.forget (accountKey key)
    return id
  | .removed outcome _ => fun session => (.id outcome, session)
  | .opening input => answer .item do
    match ← Session.outside (drive.seek caller key input) with
    | (magnet, some file) => Session.outside (drive.present caller key magnet file)
    | (magnet, none) => drive.download caller key magnet
  | .presenting magnet file => answer .item (Session.outside (drive.present caller key magnet file))
  | .starting magnet => answer .item (drive.download caller key magnet)
  | .announcing magnet task _ => answer .item do
    let item ← drive.announce key magnet task
    let waited ← Session.outside (drive.attempts caller key task.id drive.policy.retries none)
    drive.listing.forget (accountKey key)
    Session.outside (drive.afterWait caller key item waited)
  | .polling item taskId left last _ => answer .item do
    let waited ← Session.outside (drive.attempts caller key taskId left last)
    drive.listing.forget (accountKey key)
    Session.outside (drive.afterWait caller key item waited)
  | .pausing item taskId left last _ => answer .item do
    Session.outside drive.pause
    let waited ← Session.outside (drive.attempts caller key taskId left (some last))
    drive.listing.forget (accountKey key)
    Session.outside (drive.afterWait caller key item waited)
  | .settling item waited _ => answer .item do
    drive.listing.forget (accountKey key)
    Session.outside (drive.afterWait caller key item waited)
  | .describing item waited _ =>
    answer .item (Session.outside (drive.afterWait caller key item waited))
  | .added outcome _ => fun session => (.item outcome, session)

variable {drive : Drive World} {key : String} {caller : Caller World}

theorem attempts_eq (taskId : String) (left : Nat) (last : Option Task) :
    drive.attempts caller key taskId left last = (do
      match ← drive.attempt caller key taskId left last with
      | .inl waited => return waited
      | .inr (task, left) =>
        drive.pause
        drive.attempts caller key taskId left (some task)) := by
  rw [Drive.attempts, Poll.attempts_eq, liftM_bind]
  refine bind_congr fun found => ?_
  cases found with
  | inl waited => rfl
  | inr retry =>
      dsimp only
      rw [liftM_bind]
      rfl

theorem rest_onward {wrap : Except Halt α → Answer} {β : Type} {action : Action (Session World) β}
    {further : β → Action (Session World) α} {next : β → Stage} {stop : Halt → Stage}
    (continues : ∀ value, rest drive key caller (next value) = answer wrap (further value))
    (stops : ∀ halt session,
      rest drive key caller (stop halt) session = (wrap (.error halt), session))
    (session : Session World) :
    answer wrap (action >>= further) session =
      rest drive key caller (onward action next stop session).1
        (onward action next stop session).2 := by
  unfold answer onward
  rw [Action.runOn_bind]
  cases action.runOn session with
  | mk result session =>
      cases result with
      | ok value =>
          dsimp only
          rw [continues]
          rfl
      | error halt =>
          dsimp only
          rw [stops]

theorem rest_advance (moment : Nat) (kept : Option Fetch) (stage : Stage)
    (session : Session World) :
    rest drive key caller stage session =
      rest drive key caller (advance drive key caller moment kept stage session).1
        (advance drive key caller moment kept stage session).2 := by
  cases stage with
  | looking range =>
      refine rest_onward (fun found => ?_) (fun halt session => rfl) session
      cases found <;> rfl
  | fetching range => exact rest_onward (fun items => rfl) (fun halt session => rfl) session
  | keeping range fetch => exact rest_onward (fun _ => rfl) (fun halt session => rfl) session
  | listed page source => rfl
  | unlisted halt => rfl
  | trashing id => exact rest_onward (fun _ => rfl) (fun halt session => rfl) session
  | dropping id trashed => exact rest_onward (fun _ => rfl) (fun halt session => rfl) session
  | removed outcome trashed => rfl
  | opening input =>
      refine rest_onward (fun found => ?_) (fun halt session => rfl) session
      obtain ⟨magnet, file⟩ := found
      cases file <;> rfl
  | presenting magnet file =>
      rw [rest, ← bind_pure (Session.outside _)]
      exact rest_onward (fun item => rfl) (fun halt session => rfl) session
  | starting magnet => exact rest_onward (fun task => rfl) (fun halt session => rfl) session
  | announcing magnet task started =>
      exact rest_onward (fun item => rfl) (fun halt session => rfl) session
  | polling item taskId left last started =>
      -- The wait is a recursion of its own, of which this step takes one attempt off.
      rw [rest, attempts_eq, Session.outside_bind, bind_assoc]
      refine rest_onward (fun found => ?_) (fun halt session => rfl) session
      cases found with
      | inl waited => rfl
      | inr retry =>
          dsimp only
          rw [Session.outside_bind, bind_assoc]
          rfl
  | pausing item taskId left last started =>
      exact rest_onward (fun _ => rfl) (fun halt session => rfl) session
  | settling item waited started =>
      exact rest_onward (fun _ => rfl) (fun halt session => rfl) session
  | describing item waited started =>
      rw [rest, ← bind_pure (Session.outside _)]
      exact rest_onward (fun item => rfl) (fun halt session => rfl) session
  | added outcome started => rfl

/-- What a request asks of the store, as the store's own functions do it. -/
def respond (drive : Drive World) (caller : Caller World) :
    Request → Session World → Answer × Session World
  | .list range => answer .page (drive.list caller range)
  | .add input => answer .item (drive.add caller input)
  | .remove id => answer .id (drive.remove caller id)

theorem rest_stage (account : caller.apiKeyOr drive.apiKey = .ok key) (request : Request) :
    rest drive key caller request.stage = respond drive caller request := by
  have isKey : Session.outside (drive.keyOf caller) = pure key := by
    rw [Drive.keyOf, account]
    rfl
  cases request with
  | list range => rw [Request.stage, rest, respond, Drive.list, isKey, pure_bind]
  | remove id => rw [Request.stage, rest, respond, Drive.remove, isKey, pure_bind]
  | add input =>
      unfold Request.stage rest respond Drive.add
      cases input with
      | torrent bytes => rfl
      | magnet link =>
          dsimp only [Drive.seek]
          cases Magnet.parse link with
          | error failure => rfl
          | ok magnet =>
              simp only [isKey, Action.ofOutcome, Session.outside_bind, pure_bind, bind_assoc]
              refine congrArg _ (bind_congr fun _ => bind_congr fun file => ?_)
              cases file with
              | none => rfl
              | some file =>
                  change Session.outside (drive.present caller key magnet file) = _
                  unfold Drive.present
                  rw [Session.outside_bind]
                  rfl

/-- Some steps of a call that nothing disturbs. -/
def alone (drive : Drive World) (key : String) (caller : Caller World) :
    (count : Nat) → Stage → Session World → Stage × Session World
  | 0, stage, session => (stage, session)
  | count + 1, stage, session =>
    let next := advance drive key caller 0 none stage session
    alone drive key caller count next.1 next.2

theorem rest_of_answer? {stage : Stage} {given : Answer} (ended : stage.answer? = some given)
    (session : Session World) : rest drive key caller stage session = (given, session) := by
  cases stage <;> cases ended <;> rfl

theorem rest_alone (count : Nat) (stage : Stage) (session : Session World) :
    rest drive key caller stage session =
      rest drive key caller (alone drive key caller count stage session).1
        (alone drive key caller count stage session).2 := by
  induction count generalizing stage session with
  | zero => rfl
  | succ count ih => rw [rest_advance 0 none, ih, alone]

/-- A call that nothing disturbs gives what the store's own function gives. -/
theorem respond_of_alone (account : caller.apiKeyOr drive.apiKey = .ok key) {request : Request}
    {session : Session World} {count : Nat} {given : Answer}
    (ended : (alone drive key caller count request.stage session).1.answer? = some given) :
    respond drive caller request session =
      (given, (alone drive key caller count request.stage session).2) := by
  rw [← rest_stage account, rest_alone count, rest_of_answer? ended]

end Steps

end PikPak

end StoreGate
