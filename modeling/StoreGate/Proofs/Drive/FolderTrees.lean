import Mathlib.Algebra.Order.BigOperators.Group.List
import Mathlib.Algebra.Order.Group.Nat
import Mathlib.Algebra.Ring.Nat
import StoreGate.Flatten
import StoreGate.Proofs.Actions
/-!
# Folders and what lies below them

The folders of a drive may hold each other in any way, so what lies below a folder is a tree that
may have no end.  A depth-first walk meets the entries of that tree down to a level below which it
does not look, and the failures of the drive in between.  What a walk gives follows from what it
meets: the first failure, or else everything that is shown of the entries.
-/

namespace StoreGate

/-- What the drive tells of a folder: the entries on each of its pages, and the failure to list a
further page. -/
structure Contents (Entry : Type) where
  pages : List (List Entry)
  fault : Option Failure

namespace Contents

variable {Entry Other Page : Type}

/-- The entries on all pages. -/
def entries (contents : Contents Entry) : List Entry := contents.pages.flatten

/-- The number of times that the drive is asked for a page. -/
def requests (contents : Contents Entry) : Nat :=
  contents.pages.length + contents.fault.toList.length

/-- The same pages with each entry changed. -/
def map (change : Entry → Other) (contents : Contents Entry) : Contents Other :=
  ⟨contents.pages.map (List.map change), contents.fault⟩

/-- What is found on the pages from a token on, when each page is asked for with the token that the
page before it names.  There is nothing to be found if the pages never end. -/
inductive Follow (answer : Option String → Outcome Page) (next? : Page → Option String)
    (entries : Page → List Entry) : Option String → Contents Entry → Prop
  | fault {token : Option String} {failure : Failure} (failed : answer token = .error failure) :
      Follow answer next? entries token ⟨[], some failure⟩
  | last {token : Option String} (page : Page) (answered : answer token = .ok page)
      (ends : next? page = none) : Follow answer next? entries token ⟨[entries page], none⟩
  | more {token : Option String} (page : Page) {further : String} {pages : List (List Entry)}
      {fault : Option Failure} (answered : answer token = .ok page)
      (named : next? page = some further)
      (rest : Follow answer next? entries (some further) ⟨pages, fault⟩) :
      Follow answer next? entries token ⟨entries page :: pages, fault⟩

end Contents

/-- What a depth-first walk meets.  A place is the names of the folders on the way. -/
inductive Sight (Entry : Type) where
  | entry (place : List String) (entry : Entry)
  /-- The drive fails to list a page of the folder at a place. -/
  | fault (place : List String) (failure : Failure)
  /-- A folder below the deepest level. -/
  | tooDeep (place : List String)

namespace Sight

variable {Entry Other α : Type}

/-- The number of folders on the way. -/
def level : Sight Entry → Nat
  | .entry place _ => place.length
  | .fault place _ => place.length
  | .tooDeep place => place.length

/-- The failure that ends a walk here. -/
def failure? (deep : Failure) : Sight Entry → Option Failure
  | .entry _ _ => none
  | .fault _ failure => some failure
  | .tooDeep _ => some deep

/-- What is shown here. -/
def shown (shows : List String → Entry → List α) : Sight Entry → List α
  | .entry place found => shows place found
  | .fault _ _ => []
  | .tooDeep _ => []

def map (change : Entry → Other) : Sight Entry → Sight Other
  | .entry place found => .entry place (change found)
  | .fault place failure => .fault place failure
  | .tooDeep place => .tooDeep place

end Sight

/-- What a walk gives for what it meets: the failure that it meets first, or all that is shown. -/
def verdict {Entry α : Type} (deep : Failure) (shows : List String → Entry → List α)
    (sights : List (Sight Entry)) : Except Halt (List α) :=
  match sights.findSome? (Sight.failure? deep) with
  | some failure => .error (.failure failure)
  | none => .ok (sights.flatMap (Sight.shown shows))

section Trees

variable {Entry Other : Type}

/-- What lies below a folder, in depth-first order: its entries in the order of its pages, each
folder right in front of what lies below it.  Folders are followed as many levels down as are
left. -/
def folderTree (folder? : Entry → Option (String × String)) (contents : String → Contents Entry) :
    (levels : Nat) → (place : List String) → (folderId : String) → List (Sight Entry)
  | 0, place, _ => [.tooDeep place]
  | levels + 1, place, folderId =>
    (contents folderId).entries.flatMap (fun entry =>
      .entry place entry ::
        match folder? entry with
        | none => []
        | some (id, name) => folderTree folder? contents levels (place ++ [name]) id) ++
    (contents folderId).fault.toList.map (Sight.fault place)

/-- The number of pages that a walk asks for if it meets no failure. -/
def pageRequests (folder? : Entry → Option (String × String)) (contents : String → Contents Entry) :
    (levels : Nat) → (folderId : String) → Nat
  | 0, _ => 0
  | levels + 1, folderId =>
    (contents folderId).requests +
      ((contents folderId).entries.map fun entry =>
        match folder? entry with
        | none => 0
        | some (id, _) => pageRequests folder? contents levels id).sum

variable {folder? : Entry → Option (String × String)} {contents : String → Contents Entry}

theorem pageRequests_le {levels : Nat} {folderId id name : String} {entry : Entry}
    (member : entry ∈ (contents folderId).entries) (isFolder : folder? entry = some (id, name)) :
    pageRequests folder? contents levels id ≤
      pageRequests folder? contents (levels + 1) folderId := by
  rw [pageRequests]
  refine Nat.le_add_left_of_le (List.le_sum_of_mem ?_)
  refine List.mem_map.mpr ⟨entry, member, ?_⟩
  rw [isFolder]

/-- Folders too deep are met at one level, and everything else above it. -/
theorem level_of_mem {levels : Nat} {place : List String} {folderId : String}
    {sight : Sight Entry} (member : sight ∈ folderTree folder? contents levels place folderId) :
    sight.level ≤ place.length + levels ∧
      (sight.level = place.length + levels ↔ ∃ deep, sight = .tooDeep deep) := by
  induction levels generalizing place folderId with
  | zero =>
      rw [folderTree, List.mem_singleton] at member
      subst member
      exact ⟨Nat.le_refl _, iff_of_true rfl ⟨_, rfl⟩⟩
  | succ levels ih =>
      rw [folderTree, List.mem_append, List.mem_flatMap, List.mem_map] at member
      rcases member with ⟨entry, _, met⟩ | ⟨failure, _, rfl⟩
      · rcases List.mem_cons.mp met with rfl | below
        · refine ⟨Nat.le_add_right _ _, iff_of_false ?_ ?_⟩
          · simp [Sight.level]
          · rintro ⟨_, contradictory⟩
            cases contradictory
        · split at below
          · cases below
          · have deeper := ih below
            rw [List.length_append, List.length_singleton] at deeper
            rwa [Nat.add_assoc, Nat.add_comm 1] at deeper
      · refine ⟨Nat.le_add_right _ _, iff_of_false ?_ ?_⟩
        · simp [Sight.level]
        · rintro ⟨_, contradictory⟩
          cases contradictory

end Trees

section Changes

variable {Entry Other Page OtherPage α : Type} {change : Entry → Other}
  {origin? : Entry → Option (String × String)} {folder? : Other → Option (String × String)}
  {contents : String → Contents Entry}

/-- Pages that are shown in another form follow each other in the same way. -/
theorem Contents.Follow.map {answer : Option String → Outcome Page} {next? : Page → Option String}
    {entries : Page → List Entry} {otherNext? : OtherPage → Option String}
    {otherEntries : OtherPage → List Other} {turn : Page → OtherPage} {token : Option String}
    {contents : Contents Entry} (follow : Follow answer next? entries token contents)
    (sameNext : ∀ page, otherNext? (turn page) = next? page)
    (sameEntries : ∀ page, otherEntries (turn page) = (entries page).map change) :
    Follow (fun token => (answer token).map turn) otherNext? otherEntries token
      (contents.map change) := by
  induction follow with
  | fault failed => exact .fault (by rw [failed]; rfl)
  | last page answered ends =>
      rw [Contents.map, List.map_singleton, ← sameEntries]
      exact .last (turn page) (by rw [answered]; rfl) ((sameNext page).trans ends)
  | more page answered named rest ih =>
      rw [Contents.map, List.map_cons, ← sameEntries]
      exact .more (turn page) (by rw [answered]; rfl) ((sameNext page).trans named) ih

theorem Contents.entries_map (contents : Contents Entry) :
    (contents.map change).entries = contents.entries.map change :=
  List.map_flatten.symm

theorem folderTree_map (same : ∀ entry, folder? (change entry) = origin? entry) (levels : Nat)
    (place : List String) (folderId : String) :
    folderTree folder? (fun id => (contents id).map change) levels place folderId =
      (folderTree origin? contents levels place folderId).map (Sight.map change) := by
  induction levels generalizing place folderId with
  | zero => rfl
  | succ levels ih =>
      rw [folderTree, folderTree, List.map_append, List.map_map, List.map_flatMap,
        Contents.entries_map, List.flatMap_map]
      congr 2
      funext entry
      rw [List.map_cons, same]
      cases origin? entry with
      | none => rfl
      | some folder => exact congrArg _ (ih _ _)

theorem pageRequests_map (same : ∀ entry, folder? (change entry) = origin? entry) (levels : Nat)
    (folderId : String) :
    pageRequests folder? (fun id => (contents id).map change) levels folderId =
      pageRequests origin? contents levels folderId := by
  induction levels generalizing folderId with
  | zero => rfl
  | succ levels ih =>
      have sameRequests : ((contents folderId).map change).requests =
          (contents folderId).requests := by
        simp only [Contents.requests, Contents.map, List.length_map]
      rw [pageRequests, pageRequests, sameRequests, Contents.entries_map, List.map_map]
      congr 3
      funext entry
      rw [Function.comp_apply, same]
      cases origin? entry with
      | none => rfl
      | some folder => exact ih _

theorem verdict_map (deep : Failure) (shows : List String → Other → List α)
    (sights : List (Sight Entry)) :
    verdict deep shows (sights.map (Sight.map change)) =
      verdict deep (fun place entry => shows place (change entry)) sights := by
  have sameFailure : Sight.failure? deep ∘ Sight.map change = Sight.failure? deep := by
    funext sight
    cases sight <;> rfl
  have sameShown : ∀ sight : Sight Entry, (sight.map change).shown shows =
      sight.shown fun place entry => shows place (change entry) := by
    intro sight
    cases sight <;> rfl
  unfold verdict
  rw [List.findSome?_map, sameFailure, List.flatMap_map]
  simp only [sameShown]

/-- Walks that show matching things of every entry show matching things in all, or fail in the same
way. -/
theorem verdict_agree {β : Type} {Matches : α → β → Prop} (deep : Failure)
    {shows : List String → Entry → List α} {others : List String → Entry → List β}
    (agree : ∀ place entry, List.Forall₂ Matches (shows place entry) (others place entry))
    (sights : List (Sight Entry)) :
    (∃ first second, verdict deep shows sights = .ok first ∧
      verdict deep others sights = .ok second ∧ List.Forall₂ Matches first second) ∨
    ∃ failure, verdict deep shows sights = .error (.failure failure) ∧
      verdict deep others sights = .error (.failure failure) := by
  unfold verdict
  cases sights.findSome? (Sight.failure? deep) with
  | some failure => exact Or.inr ⟨failure, rfl, rfl⟩
  | none =>
      have itself : List.Forall₂ Eq sights sights := List.forall₂_same.mpr fun _ _ => rfl
      refine Or.inl ⟨_, _, rfl, rfl, List.rel_flatMap itself ?_⟩
      rintro sight _ rfl
      cases sight with
      | entry place entry => exact agree place entry
      | fault place failure => exact .nil
      | tooDeep place => exact .nil

end Changes

end StoreGate
