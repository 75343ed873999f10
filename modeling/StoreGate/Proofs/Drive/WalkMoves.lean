import Mathlib.Algebra.Ring.Int.Defs
import StoreGate.Proofs.Drive.FolderWalks
import StoreGate.Proofs.Drive.Tallies
/-!
# The moves of a walk

On a drive whose answers depend on what it is asked alone, the moves of a walk follow from the
answers: it asks for a page, takes a file, or stops.  Making these moves one after another, with the
sizes of the files added up, comes to the same as the walk.  So a walk gives the files that it takes
before it stops, with the sum of their known sizes, unless this sum overflows.
-/

namespace StoreGate

namespace Action

variable {First Second α β γ : Type} {belongs : First → Second → Prop}

/-- Whether an action ends as another one does wherever their worlds belong together, and leaves
worlds that belong together again. -/
def Mirrors (belongs : First → Second → Prop) (action : Action First α)
    (other : Action Second α) : Prop :=
  ∀ ⦃world outer⦄, belongs world outer → (action.runOn world).1 = (other.runOn outer).1 ∧
    belongs (action.runOn world).2 (other.runOn outer).2

theorem mirrors_pure (value : α) :
    (pure value : Action First α).Mirrors belongs (pure value : Action Second α) :=
  fun _ _ related => ⟨rfl, related⟩

theorem Mirrors.bind {action : Action First α} {other : Action Second α}
    {next : α → Action First β} {otherNext : α → Action Second β}
    (first : action.Mirrors belongs other)
    (second : ∀ value, (next value).Mirrors belongs (otherNext value)) :
    (action >>= next).Mirrors belongs (other >>= otherNext) := by
  intro world outer related
  obtain ⟨same, stays⟩ := first related
  rw [runOn_bind, runOn_bind]
  cases ran : action.runOn world with
  | mk result left =>
      cases mirrored : other.runOn outer with
      | mk otherResult right =>
          rw [ran, mirrored] at same stays
          cases same
          cases result with
          | ok value => exact second value stays
          | error halt => exact ⟨rfl, stays⟩

theorem collect_append (visit : β → Action First (List α)) (members more : List β) :
    collect visit (members ++ more) = (do
      let found ← collect visit members
      let others ← collect visit more
      return found ++ others) := by
  induction members with
  | nil => simp [collect]
  | cons first rest ih =>
      rw [List.cons_append, collect, collect, ih]
      simp only [bind_assoc, pure_bind, List.append_assoc]

/-- Visits that come to several parts of a visit each come to all of the parts. -/
theorem mirrors_collect {visit : β → Action First (List α)} {part : γ → Action Second (List α)}
    {parts : β → List γ}
    (visited : ∀ member, (visit member).Mirrors belongs (collect part (parts member)))
    (members : List β) :
    (collect visit members).Mirrors belongs (collect part (members.flatMap parts)) := by
  induction members with
  | nil => exact mirrors_pure []
  | cons first rest ih =>
      rw [List.flatMap_cons, collect_append]
      exact (visited first).bind fun found => ih.bind fun others => mirrors_pure (found ++ others)

end Action

namespace Tally

variable {World Other : Type}

/-- Whether two worlds belong together and the same has been added up beside them. -/
def Alike (belongs : World → Other → Prop) (tally : Tally World) (other : Tally Other) : Prop :=
  tally.total = other.total ∧ belongs tally.world other.world

theorem mirrors_add {belongs : World → Other → Prop} (size : Int) :
    (add size : Action (Tally World) Unit).Mirrors (Alike belongs)
      (add size : Action (Tally Other) Unit) := by
  rintro ⟨total, world⟩ ⟨_, outer⟩ ⟨rfl, related⟩
  rw [runOn_add, runOn_add]
  split
  · split <;> exact ⟨rfl, rfl, related⟩
  · exact ⟨rfl, rfl, related⟩

end Tally

namespace Flatten

/-- The sum of the positive sizes. -/
def knownSize (files : List ItemFile) : Int :=
  ((files.map ItemFile.size).filter (0 < ·)).sum

theorem knownSize_cons (file : ItemFile) (files : List ItemFile) :
    knownSize (file :: files) = (if 0 < file.size then file.size else 0) + knownSize files := by
  unfold knownSize
  by_cases positive : 0 < file.size <;> simp [positive]

theorem knownSize_nonneg (files : List ItemFile) : 0 ≤ knownSize files := by
  refine List.sum_nonneg fun size member => ?_
  exact Int.le_of_lt (of_decide_eq_true (List.mem_filter.mp member).2)

/-- A page of a folder that is asked for. -/
abbrev PageRequest := String × Option String

/-- What a walk does at a time. -/
inductive Move where
  | ask (request : PageRequest)
  | take (file : ItemFile)
  | stop (halt : Halt)

namespace Move

/-- Makes a move, where the world is what has been asked for so far. -/
def make : Move → Action (Tally (List PageRequest)) (List ItemFile)
  | .ask request => do
    modify fun tally => { tally with world := tally.world ++ [request] }
    return []
  | .take file => do
    Tally.add file.size
    return [file]
  | .stop halt => throw halt

def request? : Move → Option PageRequest
  | .ask request => some request
  | _ => none

def file? : Move → Option ItemFile
  | .take file => some file
  | _ => none

def halt? : Move → Option Halt
  | .stop halt => some halt
  | _ => none

end Move

/-- Makes moves one after another. -/
def makeAll (moves : List Move) : Action (Tally (List PageRequest)) (List ItemFile) :=
  Action.collect Move.make moves

/-- The files that are taken before the first stop. -/
def taken (moves : List Move) : List ItemFile :=
  (moves.takeWhile fun move => move.halt?.isNone).filterMap Move.file?

section Making

variable {tally : Tally (List PageRequest)}

theorem runOn_ask (request : PageRequest) (moves : List Move) (tally : Tally (List PageRequest)) :
    (makeAll (.ask request :: moves)).runOn tally =
      (makeAll moves).runOn { tally with world := tally.world ++ [request] } := by
  have asked : (Move.make (.ask request)).runOn tally =
      (.ok [], { tally with world := tally.world ++ [request] }) := rfl
  rw [makeAll, Action.collect, Action.runOn_bind, asked]
  dsimp only
  rw [Action.runOn_bind, ← makeAll]
  cases (makeAll moves).runOn { tally with world := tally.world ++ [request] } with
  | mk result left => cases result <;> rfl

theorem runOn_stop (halt : Halt) (moves : List Move) (tally : Tally (List PageRequest)) :
    (makeAll (.stop halt :: moves)).runOn tally = (.error halt, tally) :=
  rfl

/-- A file is put in front of those that are taken behind it, if its size can be added. -/
theorem runOn_take (file : ItemFile) (moves : List Move) (tally : Tally (List PageRequest)) :
    (makeAll (.take file :: moves)).runOn tally =
      match (Tally.add file.size).runOn tally with
      | (.error halt, left) => (.error halt, left)
      | (.ok _, left) =>
        (((makeAll moves).runOn left).1.map (file :: ·), ((makeAll moves).runOn left).2) := by
  have unfolded : makeAll (.take file :: moves) =
      Tally.add file.size >>= fun _ => makeAll moves >>= fun others => pure (file :: others) :=
    bind_assoc _ _ _
  rw [unfolded, Action.runOn_bind]
  cases (Tally.add file.size).runOn tally with
  | mk added left =>
      cases added with
      | error halt => rfl
      | ok _ =>
          dsimp only
          rw [Action.runOn_bind]
          cases (makeAll moves).runOn left with
          | mk result right => cases result <;> rfl

/-- What moves come to behind some total: the files that are taken, or what stops the moves, unless
the sizes overflow. -/
def resultFrom (total : Int) (moves : List Move) : Except Halt Flattened :=
  if total + knownSize (taken moves) < bitLimit 63 then
    match moves.findSome? Move.halt? with
    | some halt => .error halt
    | none => .ok ⟨taken moves, total + knownSize (taken moves)⟩
  else .error .overflow

theorem resultFrom_stop {total : Int} (fits : total < bitLimit 63) (halt : Halt)
    (moves : List Move) : resultFrom total (.stop halt :: moves) = .error halt := by
  have nothing : total + knownSize (taken (.stop halt :: moves)) = total := Int.add_zero _
  rw [resultFrom, nothing, if_pos fits]
  rfl

theorem resultFrom_take (total : Int) (file : ItemFile) (moves : List Move) :
    resultFrom total (.take file :: moves) =
      (resultFrom (total + if 0 < file.size then file.size else 0) moves).map fun flat =>
        { flat with files := file :: flat.files } := by
  have first : taken (.take file :: moves) = file :: taken moves := rfl
  have later : (Move.take file :: moves).findSome? Move.halt? = moves.findSome? Move.halt? := rfl
  rw [resultFrom, resultFrom, first, later, knownSize_cons, Int.add_assoc]
  generalize (if 0 < file.size then file.size else 0) = size
  split
  · cases moves.findSome? Move.halt? <;> rfl
  · rfl

theorem resultFrom_of_overflow {total : Int} (tooLarge : bitLimit 63 ≤ total) (moves : List Move) :
    resultFrom total moves = .error .overflow := by
  have others := knownSize_nonneg (taken moves)
  exact if_neg (by omega)

/-- What an action on a tally comes to, with what it has added up. -/
def flattened (ran : Except Halt (List ItemFile) × Tally (List PageRequest)) :
    Except Halt Flattened :=
  ran.1.map fun files => ⟨files, ran.2.total⟩

theorem flattened_map (ran : Except Halt (List ItemFile) × Tally (List PageRequest))
    (file : ItemFile) :
    flattened (ran.1.map (file :: ·), ran.2) =
      (flattened ran).map fun flat => { flat with files := file :: flat.files } := by
  obtain ⟨result, left⟩ := ran
  cases result <;> rfl

theorem flattened_makeAll (moves : List Move) (fits : tally.total < bitLimit 63) :
    flattened ((makeAll moves).runOn tally) = resultFrom tally.total moves := by
  induction moves generalizing tally with
  | nil =>
      have nothing : tally.total + knownSize (taken []) = tally.total := Int.add_zero _
      rw [resultFrom, nothing, if_pos fits]
      rfl
  | cons first rest ih =>
      cases first with
      | ask request =>
          rw [runOn_ask]
          exact ih fits
      | stop halt =>
          rw [runOn_stop, resultFrom_stop fits]
          rfl
      | take file =>
          rw [runOn_take, Tally.runOn_add, resultFrom_take]
          by_cases known : 0 < file.size
          · rw [if_pos known, if_pos known]
            by_cases room : tally.total + file.size < bitLimit 63
            · rw [if_pos room]
              dsimp only
              rw [flattened_map, ih room]
            · rw [if_neg room, resultFrom_of_overflow (Int.not_lt.mp room)]
              rfl
          · rw [if_neg known, if_neg known, Int.add_zero]
            dsimp only
            rw [flattened_map, ih fits]

end Making

/-- The moves over the pages of a folder, with those that a visit to each page takes. -/
def pageMoves (answer : Option String → Outcome FolderPage) (visit : FolderPage → List Move)
    (folderId : String) : (budget : Nat) → (token : Option String) → List Move
  | 0, _ => [.stop .unfinished]
  | budget + 1, token =>
    .ask (folderId, token) ::
      match answer token with
      | .error failure => [.stop (.failure failure)]
      | .ok page =>
        visit page ++
          match page.next? with
          | none => []
          | some further => pageMoves answer visit folderId budget (some further)

/-- The moves of a walk over what lies below a folder. -/
def moves (answers : String → Option String → Outcome FolderPage) (store : Store)
    (rootId : String) (budget : Nat) :
    (levels : Nat) → (place : List String) → (folderId : String) → List Move
  | 0, _, _ => [.stop (.failure (tooDeep rootId))]
  | levels + 1, place, folderId =>
    pageMoves (answers folderId)
      (fun page => page.entries.flatMap fun entry =>
        match entry with
        | .folder id name => moves answers store rootId budget levels (place ++ [name]) id
        | .file id name size => [.take (fileAt store rootId (pathOf place) id name size)])
      folderId budget none

section Walks

variable {World : Type} {belongs : World → List PageRequest → Prop} {source : FolderSource World}
  {answers : String → Option String → Outcome FolderPage} {caller : Caller World}

theorem mirrors_stop (halt : Halt) :
    (throw halt : Action (Tally World) (List ItemFile)).Mirrors (Tally.Alike belongs)
      (makeAll [.stop halt]) :=
  fun _ _ related => ⟨rfl, related⟩

theorem mirrors_take (file : ItemFile) :
    (Tally.add file.size >>= fun _ => pure [file]).Mirrors (Tally.Alike belongs)
      (makeAll [.take file]) := by
  have single : makeAll [.take file] = Tally.add file.size >>= fun _ => pure [file] :=
    bind_assoc _ _ _
  rw [single]
  exact (Tally.mirrors_add file.size).bind fun _ => Action.mirrors_pure [file]

variable (fetched : ∀ folderId token asked, (fetch source caller folderId token).Leads
  (belongs · asked) (belongs · (asked ++ [(folderId, token)]))
  (Action.resultOf (answers folderId token)))

include fetched

/-- What is asked for is answered, and then things go on with the page or stop. -/
theorem mirrors_ask (folderId : String) (token : Option String)
    {next : FolderPage → Action (Tally World) (List ItemFile)} {visit : FolderPage → List Move}
    (visited : ∀ page, (next page).Mirrors (Tally.Alike belongs) (makeAll (visit page))) :
    (Tally.outside (fetch source caller folderId token) >>= next).Mirrors (Tally.Alike belongs)
      (makeAll (.ask (folderId, token) ::
        match answers folderId token with
        | .error failure => [.stop (.failure failure)]
        | .ok page => visit page)) := by
  rintro ⟨total, world⟩ ⟨_, asked⟩ ⟨rfl, related⟩
  obtain ⟨given, stays⟩ := fetched folderId token asked world related
  rw [Action.runOn_bind, Tally.runOn_outside, runOn_ask]
  dsimp only
  cases answered : answers folderId token with
  | error failure =>
      rw [answered] at given
      rw [given]
      exact ⟨rfl, rfl, stays⟩
  | ok page =>
      rw [answered] at given
      rw [given]
      exact visited page ⟨rfl, stays⟩

theorem mirrors_pages (folderId : String)
    {next : FolderPage → Action (Tally World) (List ItemFile)} {visit : FolderPage → List Move}
    (visited : ∀ page, (next page).Mirrors (Tally.Alike belongs) (makeAll (visit page)))
    (budget : Nat) (token : Option String) :
    (Action.overPages (fun token => Tally.outside (fetch source caller folderId token))
      FolderPage.next? next budget token).Mirrors (Tally.Alike belongs)
        (makeAll (pageMoves (answers folderId) visit folderId budget token)) := by
  induction budget generalizing token with
  | zero => exact mirrors_stop .unfinished
  | succ budget ih =>
      refine mirrors_ask fetched folderId token fun page => ?_
      rw [makeAll, Action.collect_append]
      refine (visited page).bind fun found => ?_
      cases page.next? with
      | none => exact fun _ _ related => ⟨congrArg _ (List.append_nil found).symm, related⟩
      | some further =>
          exact (ih (some further)).bind fun others => Action.mirrors_pure (found ++ others)

/-- A walk makes its moves. -/
theorem mirrors_walk (store : Store) (rootId : String) (budget levels : Nat) (place : List String)
    (folderId : String) :
    (walk source store rootId caller budget levels folderId (pathOf place)).Mirrors
      (Tally.Alike belongs)
      (makeAll (moves answers store rootId budget levels place folderId)) := by
  induction levels generalizing place folderId with
  | zero => exact mirrors_stop _
  | succ levels ih =>
      refine mirrors_pages fetched folderId (fun page => ?_) budget none
      refine Action.mirrors_collect (fun entry => ?_) _
      cases entry with
      | file id name size => exact mirrors_take (fileAt store rootId (pathOf place) id name size)
      | folder id name =>
          dsimp only
          rw [← pathOf_append]
          exact ih (place ++ [name]) id

variable (belongs) in
/-- Flattening gives what the moves of the walk come to, and leaves a world in which the pages have
been asked for that the moves ask for. -/
theorem run_of_moves (store : Store) (rootId : String) (budget : Nat) {world : World}
    (begins : belongs world []) :
    ((run source store rootId caller budget).runOn world).1 =
        resultFrom 0 (moves answers store rootId budget (folderLevels + 1) [] rootId) ∧
      belongs ((run source store rootId caller budget).runOn world).2
        ((makeAll (moves answers store rootId budget (folderLevels + 1) [] rootId)).runOn
          ⟨0, []⟩).2.world := by
  have related : Tally.Alike belongs ⟨0, world⟩ ⟨0, []⟩ := ⟨rfl, begins⟩
  obtain ⟨sameResult, sameTotal, stays⟩ :=
    mirrors_walk fetched store rootId budget (folderLevels + 1) [] rootId related
  rw [pathOf] at sameResult sameTotal stays
  have flat : flattened ((makeAll (moves answers store rootId budget (folderLevels + 1) []
      rootId)).runOn ⟨0, []⟩) = resultFrom 0 _ := flattened_makeAll _ (by decide)
  rw [flattened, ← sameResult, ← sameTotal] at flat
  rw [← flat, runOn_run]
  cases walked : (walk source store rootId caller budget (folderLevels + 1) rootId "").runOn
      ⟨0, world⟩ with
  | mk result tally =>
      rw [walked] at stays
      cases result <;> exact ⟨rfl, stays⟩

end Walks

end Flatten

end StoreGate
