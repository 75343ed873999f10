import StoreGate.Proofs.Drive.FolderWalks
import StoreGate.Proofs.Drive.Tallies
/-!
# Surveys keep the entries that flattening turns into files

A catalog is a service that lists folders under identifiers of its own.  A survey reads the same
pages as flattening does and gives the listed files themselves, each with the names of the folders
on the way, so that every file of an item can be held against the entry that it was made from.
-/

namespace StoreGate

/-- How a service lists its folders, and how what it lists is shown to a walk. -/
structure Catalog (World Id Page Leaf : Type) where
  list : Id → Option String → Action World Page
  /-- The folders on a page with their names, and the files, in the order of the page. -/
  entries : Page → List ((Id × String) ⊕ Leaf)
  next : Page → Option String
  folderId : Id → String
  leafId : Leaf → String
  leafName : Leaf → String
  leafSize : Leaf → Int

namespace Catalog

variable {World Id Page Leaf : Type}

/-- An entry as a walk sees it. -/
def entryOf (catalog : Catalog World Id Page Leaf) : (Id × String) ⊕ Leaf → FolderEntry
  | .inl (id, name) => .folder (catalog.folderId id) name
  | .inr leaf => .file (catalog.leafId leaf) (catalog.leafName leaf) (catalog.leafSize leaf)

/-- A page as a walk sees it. -/
def pageOf (catalog : Catalog World Id Page Leaf) (page : Page) : FolderPage :=
  ⟨(catalog.entries page).map catalog.entryOf, catalog.next page⟩

/-- One page of a folder, unless the caller has given up. -/
def fetch (catalog : Catalog World Id Page Leaf) (caller : Caller World) (id : Id)
    (token : Option String) : Action World Page := do
  caller.check "folder listing cancelled"
  catalog.list id token

/-- The files on a page under their place, and what is found in its folders. -/
def visit (catalog : Catalog World Id Page Leaf)
    (deeper : List String → Id → Action World (List (List String × Leaf)))
    (place : List String) (page : Page) : Action World (List (List String × Leaf)) :=
  Action.collect
    (fun entry =>
      match entry with
      | .inl (id, name) => deeper (place ++ [name]) id
      | .inr leaf => pure [(place, leaf)])
    (catalog.entries page)

/-- The files below a folder, as many levels down as are left, each under the names of the folders
on the way. -/
def survey (catalog : Catalog World Id Page Leaf) (caller : Caller World) (budget : Nat) :
    (levels : Nat) → (place : List String) → (id : Id) →
      Action World (List (List String × Leaf))
  | 0, _, _ => throw .unfinished
  | levels + 1, place, id =>
    Action.overPages (catalog.fetch caller id) (fun page => (catalog.pageOf page).next?)
      (catalog.visit (survey catalog caller budget levels) place) budget none

/-- The file of an item that a listed file becomes. -/
def fileOf (catalog : Catalog World Id Page Leaf) (store : Store) (rootId : String)
    (found : List String × Leaf) : ItemFile :=
  Flatten.fileAt store rootId (pathOf found.1) (catalog.leafId found.2) (catalog.leafName found.2)
    (catalog.leafSize found.2)

section Walks

variable {State : Type} {belongs : State → World → Prop} {source : FolderSource State}
  {catalog : Catalog World Id Page Leaf} {walker : Caller State} {caller : Caller World}
  {store : Store} {rootId : String} {budget levels : Nat}

theorem fetch_tracks (token : Option String) (id : Id)
    (sees : ∀ state world, belongs state world →
      walker.isCancelled state = caller.isCancelled world)
    (lists : (source (catalog.folderId id) token).Tracks belongs belongs catalog.pageOf
      (catalog.list id token)) :
    (Flatten.fetch source walker (catalog.folderId id) token).Tracks belongs belongs catalog.pageOf
      (catalog.fetch caller id token) :=
  (Action.tracks_check sees).bind fun _ => lists

/-- Visiting the entries of a page finds the files that a survey finds, if the folders on the page
are gathered as they are surveyed. -/
theorem visit_tracks {deeper : List String → Id → Action World (List (List String × Leaf))}
    (followed : ∀ place id, (Flatten.gather source store rootId walker budget levels
      (catalog.folderId id) (pathOf place)).Tracks belongs belongs
        (List.map (catalog.fileOf store rootId)) (deeper place id))
    (place : List String) (page : Page) :
    (Action.collect
      (fun entry =>
        match entry with
        | .folder id name =>
          Flatten.gather source store rootId walker budget levels id (pathOf place ++ "/" ++ name)
        | .file id name size => pure [Flatten.fileAt store rootId (pathOf place) id name size])
      (catalog.pageOf page).entries).Tracks belongs belongs
        (List.map (catalog.fileOf store rootId)) (catalog.visit deeper place page) := by
  refine Action.tracks_collect fun entry _ => ?_
  cases entry with
  | inl folder =>
      obtain ⟨id, name⟩ := folder
      dsimp only [entryOf]
      rw [← pathOf_append]
      exact followed (place ++ [name]) id
  | inr leaf => exact Action.tracks_pure rfl

/-- Gathering the files of a folder gives those that a survey of it finds, in the same order. -/
theorem gather_tracks_survey (store : Store) (rootId : String) (budget : Nat)
    (sees : ∀ state world, belongs state world →
      walker.isCancelled state = caller.isCancelled world)
    (lists : ∀ id token, (source (catalog.folderId id) token).Tracks belongs belongs catalog.pageOf
      (catalog.list id token))
    (levels : Nat) (place : List String) (id : Id) :
    (Flatten.gather source store rootId walker budget levels (catalog.folderId id)
      (pathOf place)).Tracks belongs belongs (List.map (catalog.fileOf store rootId))
        (catalog.survey caller budget levels place id) := by
  induction levels generalizing place id with
  | zero => exact Action.tracks_throw _ _ _
  | succ levels ih =>
      rw [Flatten.gather, survey]
      exact Action.tracks_overPages (fun token => fetch_tracks token id sees (lists id token))
        (visit_tracks ih place) budget none

end Walks

end Catalog

end StoreGate
