import StoreGate.Proofs.Drive.RecursiveListings
import StoreGate.Proofs.Drive.Tallies
/-!
# Walks whose caller gives up

A caller gives up during one of the requests that are made for it.  A walk that goes on to another
request ends in front of that one, and has made exactly the requests up to it.  A walk that makes no
further request does not notice, and ends as it would have ended anyway.
-/

namespace StoreGate

namespace Caller

variable {World Request : Type}

/-- A caller that never gives up. -/
def patient (apiKey clientIp : Option String) : Caller (Recorded World Request) :=
  ⟨apiKey, clientIp, fun _ => false⟩

/-- A caller that gives up during a request.  Requests are counted from one, and a caller that gives
up during request number zero has given up before the start. -/
def quitting (apiKey clientIp : Option String) (limit : Nat) : Caller (Recorded World Request) :=
  ⟨apiKey, clientIp, fun now => limit ≤ now.2.length⟩

end Caller

namespace Action

variable {World State Request α β : Type} {asked : State → List Request} {limit : Nat}
  {words : String}

/-- Whether an action is what becomes of another one if its caller gives up as soon as some requests
have been made: it is the same as long as no further request is made, and otherwise it is cancelled
in front of the next one. -/
structure Cuts (asked : State → List Request) (limit : Nat) (words : String)
    (whole cut : Action State α) : Prop where
  grows : ∀ start, asked start <+: asked (whole.runOn start).2
  same : ∀ start, (asked (whole.runOn start).2).length ≤ limit →
    cut.runOn start = whole.runOn start
  stops : ∀ start, (asked start).length ≤ limit → limit < (asked (whole.runOn start).2).length →
    ∃ left, asked left = (asked (whole.runOn start).2).take limit ∧
      cut.runOn start = (.error (.failure (.cancelled words)), left)

/-- An action that makes no request and does not look at its caller goes on as it is. -/
theorem cuts_of_silent {action : Action State α}
    (silent : ∀ start, asked (action.runOn start).2 = asked start) :
    Cuts asked limit words action action where
  grows start := by simp [silent]
  same _ _ := rfl
  stops start few many := absurd few (Nat.not_le_of_lt (silent start ▸ many))

theorem cuts_pure (value : α) :
    Cuts asked limit words (pure value : Action State α) (pure value) :=
  cuts_of_silent fun _ => rfl

theorem cuts_throw (halt : Halt) :
    Cuts asked limit words (throw halt : Action State α) (throw halt) :=
  cuts_of_silent fun _ => rfl

/-- A request behind a check is not made once the caller has given up. -/
theorem cuts_request (apiKey clientIp : Option String) (action : Action World α)
    (request : Request) :
    Cuts Prod.snd limit words
      ((Caller.patient apiKey clientIp).check words >>= fun _ => action.recorded request)
      ((Caller.quitting apiKey clientIp limit).check words >>= fun _ =>
        action.recorded request) := by
  have made : ∀ start : Recorded World Request,
      ((Caller.patient apiKey clientIp).check words >>= fun _ =>
        action.recorded request).runOn start =
          ((action.runOn start.1).1, ((action.runOn start.1).2, start.2 ++ [request])) := by
    intro start
    rw [runOn_bind, runOn_check]
    exact runOn_recorded action request start.1 start.2
  have length : ∀ start : Recorded World Request,
      (start.2 ++ [request]).length = start.2.length + 1 := fun _ => List.length_append
  have checked : ∀ start : Recorded World Request,
      ((Caller.quitting apiKey clientIp limit).check words).runOn start =
        (if limit ≤ start.2.length then .error (.failure (.cancelled words)) else .ok (),
          start) := by
    intro start
    rw [runOn_check, Caller.quitting]
    simp only [decide_eq_true_eq]
  constructor
  · intro start
    rw [made]
    exact List.prefix_append _ _
  · intro start few
    rw [made, length] at few
    have active : ¬ limit ≤ start.2.length := by omega
    rw [made, runOn_bind, checked, if_neg active]
    rfl
  · intro start few many
    rw [made, length] at many
    have all : limit = start.2.length := by omega
    refine ⟨start, ?_, ?_⟩
    · rw [made, all, List.take_left]
    · rw [runOn_bind, checked, all, if_pos (Nat.le_refl _)]

theorem Cuts.bind {whole cut : Action State α} {next cutNext : α → Action State β}
    (first : Cuts asked limit words whole cut)
    (second : ∀ value, Cuts asked limit words (next value) (cutNext value)) :
    Cuts asked limit words (whole >>= next) (cut >>= cutNext) := by
  constructor
  · intro start
    have grown := first.grows start
    rw [runOn_bind]
    cases ran : whole.runOn start with
    | mk result between =>
        rw [ran] at grown
        cases result with
        | ok value => exact grown.trans ((second value).grows between)
        | error halt => exact grown
  · intro start few
    rw [runOn_bind] at few ⊢
    cases ran : whole.runOn start with
    | mk result between =>
        rw [ran] at few
        cases result with
        | ok value =>
            have fewBetween : (asked (whole.runOn start).2).length ≤ limit := by
              rw [ran]
              exact ((second value).grows between).length_le.trans few
            rw [runOn_bind, first.same start fewBetween, ran]
            exact (second value).same between few
        | error halt =>
            rw [runOn_bind, first.same start (by rwa [ran]), ran]
  · intro start few many
    rw [runOn_bind] at many ⊢
    cases ran : whole.runOn start with
    | mk result between =>
        rw [ran] at many
        rcases Nat.lt_or_ge limit (asked between).length with already | notYet
        · -- The first part is cut already, and what the second part adds is cut off with the rest.
          obtain ⟨left, made, stopped⟩ := first.stops start few (by rwa [ran])
          refine ⟨left, ?_, by rw [runOn_bind, stopped]⟩
          rw [made, ran]
          cases result with
          | ok value =>
              obtain ⟨added, joined⟩ := (second value).grows between
              rw [← joined, List.take_append_of_le_length (Nat.le_of_lt already)]
          | error halt => rfl
        · have goesOn := first.same start (by rwa [ran])
          rw [runOn_bind, goesOn, ran]
          cases result with
          | ok value => exact (second value).stops between notYet many
          | error halt => exact absurd notYet (Nat.not_le_of_lt many)

theorem cuts_collect {visit cutVisit : β → Action State (List α)}
    (visited : ∀ member, Cuts asked limit words (visit member) (cutVisit member))
    (members : List β) :
    Cuts asked limit words (collect visit members) (collect cutVisit members) := by
  induction members with
  | nil => exact cuts_pure []
  | cons first rest ih =>
      refine (visited first).bind fun found => ih.bind fun others => ?_
      exact cuts_pure (found ++ others)

section Pages

variable {Page : Type} {fetch cutFetch : Option String → Action State Page}

theorem cuts_overPages {next? : Page → Option String}
    {visit cutVisit : Page → Action State (List α)}
    (fetched : ∀ token, Cuts asked limit words (fetch token) (cutFetch token))
    (visited : ∀ page, Cuts asked limit words (visit page) (cutVisit page)) (budget : Nat)
    (token : Option String) :
    Cuts asked limit words (overPages fetch next? visit budget token)
      (overPages cutFetch next? cutVisit budget token) := by
  induction budget generalizing token with
  | zero => exact cuts_throw .unfinished
  | succ budget ih =>
      refine (fetched token).bind fun page => (visited page).bind fun found => ?_
      cases next? page with
      | none => exact cuts_pure found
      | some further =>
          exact (ih (some further)).bind fun others => cuts_pure (found ++ others)

theorem cuts_searchPages {next? : Page → Option String} {found? : Page → Option α}
    (fetched : ∀ token, Cuts asked limit words (fetch token) (cutFetch token)) (budget : Nat)
    (token : Option String) :
    Cuts asked limit words (searchPages fetch next? found? budget token)
      (searchPages cutFetch next? found? budget token) := by
  induction budget generalizing token with
  | zero => exact cuts_throw .unfinished
  | succ budget ih =>
      refine (fetched token).bind fun page => ?_
      cases found? page with
      | some value => exact cuts_pure (some value)
      | none =>
          cases next? page with
          | none => exact cuts_pure none
          | some further => exact ih (some further)

end Pages

end Action

namespace Tally

variable {World Request α : Type} {limit : Nat} {words : String}

/-- What has been asked for in the world beside a sum. -/
def asked (tally : Tally (Recorded World Request)) : List Request := tally.world.2

theorem cuts_outside {whole cut : Action (Recorded World Request) α}
    (cuts : Action.Cuts Prod.snd limit words whole cut) :
    Action.Cuts asked limit words (outside whole) (outside cut) where
  grows start := cuts.grows start.world
  same start few := by rw [runOn_outside, runOn_outside, cuts.same start.world few]
  stops start few many := by
    obtain ⟨left, made, stopped⟩ := cuts.stops start.world few many
    exact ⟨{ start with world := left }, made, by rw [runOn_outside, stopped]⟩

theorem cuts_add (size : Int) :
    Action.Cuts (asked : Tally (Recorded World Request) → List Request) limit words (add size)
      (add size) := by
  refine Action.cuts_of_silent fun start => ?_
  rw [runOn_add]
  split
  · split <;> rfl
  · rfl

theorem cuts_fromZero {whole cut : Action (Tally (Recorded World Request)) α}
    (cuts : Action.Cuts asked limit words whole cut) :
    Action.Cuts Prod.snd limit words (fromZero whole) (fromZero cut) where
  grows start := cuts.grows ⟨0, start⟩
  same start few := by rw [runOn_fromZero, runOn_fromZero, cuts.same ⟨0, start⟩ few]
  stops start few many := by
    obtain ⟨left, made, stopped⟩ := cuts.stops ⟨0, start⟩ few many
    exact ⟨left.world, made, by rw [runOn_fromZero, stopped]⟩

end Tally

section Walks

variable {World : Type} {limit : Nat}

/-- A source of folders with its requests put down. -/
def recordedSource (source : FolderSource World) :
    FolderSource (Recorded World (String × Option String)) :=
  fun folderId token => (source folderId token).recorded (folderId, token)

theorem Flatten.cuts_run (apiKey clientIp : Option String) (source : FolderSource World)
    (store : Store) (rootId : String) (budget : Nat) :
    Action.Cuts Prod.snd limit "folder listing cancelled"
      (run (recordedSource source) store rootId (.patient apiKey clientIp) budget)
      (run (recordedSource source) store rootId (.quitting apiKey clientIp limit) budget) := by
  have walks : ∀ levels folderId path, Action.Cuts Tally.asked limit "folder listing cancelled"
      (walk (recordedSource source) store rootId (.patient apiKey clientIp) budget levels folderId
        path)
      (walk (recordedSource source) store rootId (.quitting apiKey clientIp limit) budget levels
        folderId path) := by
    intro levels
    induction levels with
    | zero => exact fun _ _ => Action.cuts_throw _
    | succ levels ih =>
        intro folderId path
        refine Action.cuts_overPages
          (fun token => Tally.cuts_outside (Action.cuts_request apiKey clientIp _ _))
          (fun page => Action.cuts_collect (fun entry => ?_) _) budget none
        cases entry with
        | folder id name => exact ih id _
        | file id name size => exact (Tally.cuts_add size).bind fun _ => Action.cuts_pure _
  exact Tally.cuts_fromZero ((walks _ _ _).bind fun _ => Action.cuts_of_silent fun _ => rfl)

namespace DriveBrowser

variable (apiKey clientIp : Option String) (browser : DriveBrowser World) (asking : Caller World)
  (budget : Nat)

theorem cuts_fetch (query : FileQuery) :
    Action.Cuts Prod.snd limit "request cancelled"
      ((browser.recorded asking budget).fetch (.patient apiKey clientIp) query)
      ((browser.recorded asking budget).fetch (.quitting apiKey clientIp limit) query) :=
  Action.cuts_request apiKey clientIp _ query

theorem cuts_walk (rootId : String) (filesOnly : Bool) (levels : Nat) (folderId path : String) :
    Action.Cuts Prod.snd limit "request cancelled"
      ((browser.recorded asking budget).walk (.patient apiKey clientIp) rootId filesOnly levels
        folderId path)
      ((browser.recorded asking budget).walk (.quitting apiKey clientIp limit) rootId filesOnly
        levels folderId path) := by
  induction levels generalizing folderId path with
  | zero => exact Action.cuts_throw _
  | succ levels ih =>
      refine Action.cuts_overPages (fun token => cuts_fetch apiKey clientIp browser asking budget _)
        (fun page => Action.cuts_collect (fun item => ?_) page.files) _ none
      dsimp only
      split
      · exact (ih item.id _).bind fun inside => Action.cuts_pure _
      · exact Action.cuts_pure _

theorem cuts_folderByName (parentId name : String) :
    Action.Cuts Prod.snd limit "request cancelled"
      ((browser.recorded asking budget).folderByName (.patient apiKey clientIp) parentId name)
      ((browser.recorded asking budget).folderByName (.quitting apiKey clientIp limit) parentId
        name) := by
  refine (Action.cuts_searchPages (fun token => cuts_fetch apiKey clientIp browser asking budget _)
    _ none).bind fun found => ?_
  cases found with
  | some item => exact Action.cuts_pure item
  | none => exact Action.cuts_throw _

theorem cuts_listVideos (parentId : String) :
    Action.Cuts Prod.snd limit "request cancelled"
      ((browser.recorded asking budget).listVideos (.patient apiKey clientIp) parentId)
      ((browser.recorded asking budget).listVideos (.quitting apiKey clientIp limit) parentId) :=
  Action.cuts_overPages (fun _ => cuts_fetch apiKey clientIp browser asking budget _)
    (fun _ => Action.cuts_pure _) _ none

end DriveBrowser

/-- Whether an action, if its caller gives up during a request, makes the requests up to that one
and no other, and is cancelled exactly if it would have made more of them. -/
def StopsAtNextRequest {Request α : Type} (World : Type) (words : String)
    (action : Caller (Recorded World Request) → Action (Recorded World Request) α) : Prop :=
  ∀ (apiKey clientIp : Option String) (start : World) (limit : Nat),
    let whole := (action (.patient apiKey clientIp)).runOn (start, [])
    let cut := (action (.quitting apiKey clientIp limit)).runOn (start, [])
    cut.2.2 = whole.2.2.take (min limit whole.2.2.length) ∧
      cut.1 = if limit < whole.2.2.length then .error (.failure (.cancelled words)) else whole.1

theorem stopsAtNextRequest_of_cuts {Request α : Type} {words : String}
    {action : Caller (Recorded World Request) → Action (Recorded World Request) α}
    (cuts : ∀ apiKey clientIp limit, Action.Cuts Prod.snd limit words
      (action (.patient apiKey clientIp)) (action (.quitting apiKey clientIp limit))) :
    StopsAtNextRequest World words action := by
  intro apiKey clientIp start limit whole cut
  rcases Nat.lt_or_ge limit whole.2.2.length with more | all
  · obtain ⟨left, made, stopped⟩ :=
      (cuts apiKey clientIp limit).stops (start, []) (Nat.zero_le limit) more
    rw [if_pos more, Nat.min_eq_left (Nat.le_of_lt more)]
    exact ⟨(congrArg (·.2.2) stopped).trans made, congrArg Prod.fst stopped⟩
  · have same : cut = whole := (cuts apiKey clientIp limit).same (start, []) all
    rw [if_neg (Nat.not_lt_of_le all), Nat.min_eq_right all, List.take_length, same]
    exact ⟨rfl, rfl⟩

end Walks

/-- Flattening a folder, listing what lies below it with or without folders, looking for a folder by
its name and listing videos: when the caller gives up during a request to the service, each of them
ends in front of the next one, and if there is no next one as if the caller had not given up. -/
theorem walks_stop_at_next_request {World : Type} (source : FolderSource World) (store : Store)
    (browser : DriveBrowser World) (asking : Caller World) (budget : Nat)
    (folderId name : String) :
    StopsAtNextRequest World "folder listing cancelled"
      (fun caller => Flatten.run (recordedSource source) store folderId caller budget) ∧
    StopsAtNextRequest World "request cancelled"
      (fun caller => (browser.recorded asking budget).listRecursive caller folderId) ∧
    StopsAtNextRequest World "request cancelled"
      (fun caller => (browser.recorded asking budget).listFlat caller folderId) ∧
    StopsAtNextRequest World "request cancelled"
      (fun caller => (browser.recorded asking budget).folderByName caller folderId name) ∧
    StopsAtNextRequest World "request cancelled"
      (fun caller => (browser.recorded asking budget).listVideos caller folderId) := by
  refine ⟨?flatten, ?recursive, ?flat, ?named, ?videos⟩
  case flatten =>
    exact stopsAtNextRequest_of_cuts fun apiKey clientIp _ =>
      Flatten.cuts_run apiKey clientIp source store folderId budget
  case recursive =>
    exact stopsAtNextRequest_of_cuts fun apiKey clientIp _ =>
      DriveBrowser.cuts_walk apiKey clientIp browser asking budget folderId false _ folderId ""
  case flat =>
    exact stopsAtNextRequest_of_cuts fun apiKey clientIp _ =>
      DriveBrowser.cuts_walk apiKey clientIp browser asking budget folderId true _ folderId ""
  case named =>
    exact stopsAtNextRequest_of_cuts fun apiKey clientIp _ =>
      DriveBrowser.cuts_folderByName apiKey clientIp browser asking budget folderId name
  case videos =>
    exact stopsAtNextRequest_of_cuts fun apiKey clientIp _ =>
      DriveBrowser.cuts_listVideos apiKey clientIp browser asking budget folderId

end StoreGate
