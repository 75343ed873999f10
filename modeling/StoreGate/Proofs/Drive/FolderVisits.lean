import StoreGate.Proofs.Drive.Flattening
/-!
# The folders that a walk looks into

A drive that shows every folder on one page is asked once for each folder that a walk looks into:
for the root and then, in depth-first order, for the folders that the walk meets, as long as they
are not too deep and the drive has not failed.  A folder that is listed in two places is asked for
twice.
-/

namespace StoreGate.Flatten

/-- What a folder holds that is shown on one page. -/
def onePage : Outcome FolderPage → Contents FolderEntry
  | .ok page => ⟨[page.entries], none⟩
  | .error failure => ⟨[], some failure⟩

/-- The folder that a walk looks into where it meets one. -/
def entered? : Sight FolderEntry → Option String
  | .entry place (.folder id _) => if place.length < folderLevels then some id else none
  | _ => none

/-- The size that is added up where something is met. -/
def sizeAt : Sight FolderEntry → Int
  | .entry _ (.file _ _ size) => max 0 size
  | _ => 0

/-- What is met until the sizes overflow, with a total to begin with. -/
def fitting : (total : Int) → List (Sight FolderEntry) → List (Sight FolderEntry)
  | _, [] => []
  | total, sight :: rest =>
    if total + sizeAt sight < bitLimit 63 then sight :: fitting (total + sizeAt sight) rest else []

/-- The folders that a walk looks into before the first failure, and before the sizes overflow. -/
def entered (rootId : String) (sights : List (Sight FolderEntry)) : List String :=
  (fitting 0 (metBefore rootId sights)).filterMap entered?

/-- The folders that a walk looks into, its root among them. -/
def visits (contents : String → Contents FolderEntry) (rootId : String) : List String :=
  rootId :: entered rootId (treeBelow contents rootId)

theorem fitting_isPrefix (total : Int) (sights : List (Sight FolderEntry)) :
    fitting total sights <+: sights := by
  induction sights generalizing total with
  | nil => exact List.prefix_rfl
  | cons first rest ih =>
      rw [fitting]
      split
      · exact (List.prefix_cons_inj first).mpr (ih _)
      · exact List.nil_prefix

section Walks

/-- The moves of a walk where it meets something, if every folder is shown on one page. -/
def movesAt (store : Store) (rootId : String) (sight : Sight FolderEntry) : List Move :=
  ((entered? sight).map fun id => Move.ask (id, none)).toList ++ (moveAt? store rootId sight).toList

/-- A walk looks into its folder, if it is not too deep, and then makes the moves for what it
meets. -/
theorem moves_of_onePage {answers : String → Outcome FolderPage} (store : Store) (rootId : String)
    {budget : Nat} (enough : 0 < budget)
    (single : ∀ folderId page, answers folderId = .ok page → page.next? = none)
    {levels : Nat} {place : List String} (depth : place.length + levels = folderLevels + 1)
    (folderId : String) :
    moves (fun id _ => answers id) store rootId budget levels place folderId =
      (if levels = 0 then [] else [.ask (folderId, none)]) ++
        (folderTree FolderEntry.folder? (onePage ∘ answers) levels place folderId).flatMap
          (movesAt store rootId) := by
  induction levels generalizing place folderId with
  | zero => rfl
  | succ levels ih =>
      obtain ⟨budget, rfl⟩ := Nat.exists_eq_succ_of_ne_zero (Nat.ne_of_gt enough)
      rw [moves, pageMoves, folderTree, Function.comp_apply, if_neg (Nat.succ_ne_zero levels),
        List.singleton_append]
      congr 1
      cases answered : answers folderId with
      | error failure => rfl
      | ok page =>
          have all : (onePage (.ok page)).entries = page.entries := List.flatten_singleton
          rw [all, show (onePage (.ok page)).fault.toList = [] from rfl, List.map_nil,
            List.append_nil]
          dsimp only
          rw [single folderId page answered, List.append_nil, List.flatMap_assoc]
          refine List.flatMap_congr fun entry _ => ?_
          rw [List.flatMap_cons]
          cases entry with
          | file id name size => rfl
          | folder id name =>
              have deeper : (place ++ [name]).length + levels = folderLevels + 1 := by
                rw [List.length_append, List.length_singleton]
                omega
              refine (ih deeper id).trans (congrArg (· ++ _) ?_)
              -- The folder is looked into unless no level is left for what lies in it.
              rw [movesAt, entered?]
              by_cases last : levels = 0
              · rw [if_pos last, if_neg (by omega)]
                rfl
              · rw [if_neg last, if_pos (by omega)]
                rfl

/-- The pages that are asked for are those of the folders that are looked into. -/
theorem asked_of_movesAt (store : Store) (rootId : String) (sights : List (Sight FolderEntry))
    {tally : Tally (List PageRequest)} (fits : tally.total < bitLimit 63) :
    ((makeAll (sights.flatMap (movesAt store rootId))).runOn tally).2.world.map Prod.fst =
      tally.world.map Prod.fst ++
        (fitting tally.total (metBefore rootId sights)).filterMap entered? := by
  induction sights generalizing tally with
  | nil => exact (List.append_nil _).symm
  | cons first rest ih =>
      rw [List.flatMap_cons]
      cases first with
      | fault place failure => exact (List.append_nil _).symm
      | tooDeep place => exact (List.append_nil _).symm
      | entry place entry =>
          have met : metBefore rootId (.entry place entry :: rest) =
              .entry place entry :: metBefore rootId rest := List.takeWhile_cons_of_pos rfl
          rw [met, fitting]
          cases entry with
          | folder id name =>
              have same : tally.total + sizeAt (.entry place (.folder id name)) = tally.total :=
                Int.add_zero _
              rw [same, if_pos fits, List.filterMap_cons, movesAt]
              cases isEntered : entered? (.entry place (.folder id name)) with
              | none => exact ih fits
              | some looked =>
                  have after := @ih { tally with world := tally.world ++ [(looked, none)] } fits
                  refine (congrArg (fun ran => ran.2.world.map Prod.fst)
                    (runOn_ask (looked, none) _ tally)).trans (after.trans ?_)
                  rw [List.map_append, List.append_assoc]
                  rfl
          | file id name size =>
              have isSize : (fileAt store rootId (pathOf place) id name size).size = size := rfl
              refine (congrArg (fun ran => ran.2.world.map Prod.fst)
                (runOn_take (fileAt store rootId (pathOf place) id name size) _ tally)).trans ?_
              rw [Tally.runOn_add, isSize]
              by_cases known : 0 < size
              · have added : sizeAt (.entry place (.file id name size)) = size :=
                  Int.max_eq_right (Int.le_of_lt known)
                rw [added, if_pos known]
                by_cases room : tally.total + size < bitLimit 63
                · rw [if_pos room, if_pos room]
                  exact @ih { tally with total := tally.total + size } room
                · rw [if_neg room, if_neg room]
                  exact (List.append_nil _).symm
              · have added : sizeAt (.entry place (.file id name size)) = 0 :=
                  Int.max_eq_left (Int.not_lt.mp known)
                rw [added, Int.add_zero, if_neg known, if_pos fits]
                exact ih fits

theorem asked_of_onePage {answers : String → Outcome FolderPage} (store : Store)
    (rootId : String) {budget : Nat} (enough : 0 < budget)
    (single : ∀ folderId page, answers folderId = .ok page → page.next? = none) :
    ((makeAll (moves (fun id _ => answers id) store rootId budget (folderLevels + 1) []
      rootId)).runOn ⟨0, []⟩).2.world.map Prod.fst = visits (onePage ∘ answers) rootId := by
  have depth : ([] : List String).length + (folderLevels + 1) = folderLevels + 1 := Nat.zero_add _
  rw [moves_of_onePage store rootId enough single depth, if_neg (Nat.succ_ne_zero _),
    List.singleton_append, runOn_ask, asked_of_movesAt]
  · rfl
  · exact (by decide : (0 : Int) < bitLimit 63)

end Walks

/-- What a walk meets is listed in some folder. -/
theorem exists_folder_of_mem {Entry : Type} {folder? : Entry → Option (String × String)}
    {contents : String → Contents Entry} {levels : Nat} {place onTheWay : List String}
    {folderId : String} {entry : Entry}
    (member : .entry onTheWay entry ∈ folderTree folder? contents levels place folderId) :
    ∃ parentId, entry ∈ (contents parentId).entries := by
  induction levels generalizing place folderId with
  | zero => cases List.mem_singleton.mp member
  | succ levels ih =>
      rw [folderTree, List.mem_append, List.mem_flatMap, List.mem_map] at member
      rcases member with ⟨other, isListed, met⟩ | ⟨_, _, contradictory⟩
      · rcases List.mem_cons.mp met with same | below
        · cases same
          exact ⟨folderId, isListed⟩
        · split at below
          · cases below
          · exact ih below
      · cases contradictory

/-- A walk looks into its root and into folders that are listed. -/
theorem exists_folder_of_mem_visits {contents : String → Contents FolderEntry}
    {rootId folderId : String} (member : folderId ∈ visits contents rootId) :
    folderId = rootId ∨ ∃ parentId name, .folder folderId name ∈ (contents parentId).entries := by
  rcases List.mem_cons.mp member with rfl | below
  · exact .inl rfl
  · obtain ⟨sight, met, isEntered⟩ := List.mem_filterMap.mp below
    have inTree := (List.takeWhile_prefix _).subset ((fitting_isPrefix 0 _).subset met)
    unfold entered? at isEntered
    split at isEntered
    · split at isEntered
      · cases isEntered
        obtain ⟨parentId, isListed⟩ := exists_folder_of_mem inTree
        exact .inr ⟨parentId, _, isListed⟩
      · cases isEntered
    · cases isEntered

end StoreGate.Flatten
