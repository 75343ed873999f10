import Mathlib.Data.List.Induction
import Mathlib.Tactic.FinCases
import StoreGate.PikPak.Store
import StoreGate.Proofs.Drive.Tours
import StoreGate.Proofs.TextParts
/-!
# The paths of entries

Flattening, browsing and the single file of an item build a path by putting a slash and a name
behind the path of the folder, and take every name as the drive gives it.  So the segments of a path
are those of the names on the way, and the path is normalized, with one segment for each name, just
if every name on the way is a proper segment by itself.
-/

namespace StoreGate

/-- The texts between the slashes of a path, behind the first one. -/
def segmentsOf (path : String) : List String :=
  (Text.fields '/' path.toList).tail.map String.ofList

/-- A name that is one segment and does not stand for a folder itself or for its parent. -/
structure IsProperName (name : String) : Prop where
  notEmpty : name ≠ ""
  notHere : name ≠ "."
  notParent : name ≠ ".."
  noSlash : '/' ∉ name.toList

/-- An absolute path without empty segments and dots that has one segment for each folder on the way
and ends with the name of the entry. -/
structure IsNormalized (place : List String) (name path : String) : Prop where
  absolute : path.toList.head? = some '/'
  plain : ∀ segment ∈ segmentsOf path, segment ≠ "" ∧ segment ≠ "." ∧ segment ≠ ".."
  levels : (segmentsOf path).length = place.length + 1
  last : (segmentsOf path).getLast? = some name

theorem fields_pathOf (names : List String) :
    Text.fields '/' (pathOf names).toList =
      [] :: names.flatMap fun name => Text.fields '/' name.toList := by
  induction names using List.reverseRecOn with
  | nil => rfl
  | append_singleton names name ih =>
      have characters : (pathOf (names ++ [name])).toList =
          (pathOf names).toList ++ '/' :: name.toList := by
        rw [pathOf_append, String.append_assoc, String.toList_append, String.toList_append]
        rfl
      rw [characters, Text.fields_append_separator, ih, List.flatMap_append,
        List.flatMap_singleton, List.cons_append]

/-- The segments of a path are those of the names that it is made of. -/
theorem segmentsOf_pathOf (names : List String) :
    segmentsOf (pathOf names) =
      names.flatMap fun name => (Text.fields '/' name.toList).map String.ofList := by
  rw [segmentsOf, fields_pathOf, List.tail_cons, List.map_flatMap]

theorem segmentsOf_of_noSlash {names : List String}
    (noSlash : ∀ name ∈ names, '/' ∉ name.toList) : segmentsOf (pathOf names) = names := by
  rw [segmentsOf_pathOf]
  induction names with
  | nil => rfl
  | cons first rest ih =>
      rw [List.flatMap_cons, Text.fields_of_not_mem (noSlash first List.mem_cons_self),
        ih fun name member => noSlash name (List.mem_cons_of_mem _ member), List.map_singleton,
        String.ofList_toList, List.singleton_append]

/-- A path has a segment for each name at least, and more if a slash stands in one of the names. -/
theorem length_le_segmentsOf (names : List String) :
    names.length ≤ (segmentsOf (pathOf names)).length ∧
      ((segmentsOf (pathOf names)).length = names.length ↔
        ∀ name ∈ names, '/' ∉ name.toList) := by
  rw [segmentsOf_pathOf]
  induction names with
  | nil => simp
  | cons first rest ih =>
      have some : 0 < (Text.fields '/' first.toList).length :=
        List.length_pos_of_ne_nil (Text.fields_ne_nil _ _)
      rw [List.flatMap_cons, List.length_append, List.length_map, List.length_cons,
        List.forall_mem_cons, ← Text.length_fields_eq_one_iff, ← ih.2]
      have least := ih.1
      constructor
      · omega
      · omega

theorem head?_pathOf (place : List String) (name : String) :
    (pathOf (place ++ [name])).toList.head? = some '/' := by
  rw [pathOf_eq, String.toList_append]
  rfl

theorem isNormalized_pathOf_iff (place : List String) (name : String) :
    IsNormalized place name (pathOf (place ++ [name])) ↔
      ∀ part ∈ place ++ [name], IsProperName part := by
  have count : (place ++ [name]).length = place.length + 1 := List.length_append
  constructor
  · intro normalized part member
    -- As many segments as names leave no room for a slash, so the segments are the names.
    have noSlash := (length_le_segmentsOf (place ++ [name])).2.mp
      (normalized.levels.trans count.symm)
    have plain := normalized.plain
    rw [segmentsOf_of_noSlash noSlash] at plain
    exact ⟨(plain part member).1, (plain part member).2.1, (plain part member).2.2,
      noSlash part member⟩
  · intro proper
    have segments := segmentsOf_of_noSlash fun part member => (proper part member).noSlash
    refine ⟨head?_pathOf place name, ?_, ?_, ?_⟩
    · rw [segments]
      intro part member
      have isProper := proper part member
      exact ⟨isProper.notEmpty, isProper.notHere, isProper.notParent⟩
    · rw [segments, count]
    · rw [segments, List.getLast?_concat]

/-- A path that tells where an entry lies and what its name is. -/
structure IsEntryPath (place : List String) (name path : String) : Prop where
  absolute : path.toList.head? = some '/'
  ends : ∃ folder, path = folder ++ "/" ++ name
  levels : place.length + 1 ≤ (segmentsOf path).length
  normalized_iff : IsNormalized place name path ↔ ∀ part ∈ place ++ [name], IsProperName part

theorem isEntryPath_pathOf (place : List String) (name : String) :
    IsEntryPath place name (pathOf (place ++ [name])) where
  absolute := head?_pathOf place name
  ends := ⟨pathOf place, pathOf_append place name⟩
  levels := by
    rw [← List.length_singleton (a := name), ← List.length_append]
    exact (length_le_segmentsOf (place ++ [name])).1
  normalized_iff := isNormalized_pathOf_iff place name

namespace Flatten

variable {World : Type}

/-- The names that a tour meets a file under. -/
def fileMet? : List String × FolderEntry → Option (List String × String)
  | (place, .file _ name _) => some (place, name)
  | (_, .folder _ _) => none

theorem shown_have_entryPaths (store : Store) (rootId : String)
    (met : List (List String × FolderEntry)) :
    List.Forall₂ (fun found file => file.name = found.2 ∧ IsEntryPath found.1 found.2 file.path)
      (met.filterMap fileMet?)
      (met.flatMap fun found => shownFile store rootId found.1 found.2) := by
  induction met with
  | nil => exact .nil
  | cons first rest ih =>
      obtain ⟨place, entry⟩ := first
      cases entry with
      | folder id name => exact ih
      | file id name size =>
          refine .cons ⟨rfl, ?_⟩ ih
          dsimp only [fileAt]
          rw [← pathOf_append]
          exact isEntryPath_pathOf place name

theorem files_have_entryPaths {source : FolderSource World} {store : Store} {rootId : String}
    {caller : Caller World} {budget : Nat} {world after : World} {flat : Flattened}
    (gave : (run source store rootId caller budget).runOn world = (.ok flat, after)) :
    ∃ met, ((reading source rootId caller budget).tour (folderLevels + 1) [] rootId).runOn world =
        (.ok met, after) ∧
      List.Forall₂ (fun found file => file.name = found.2 ∧ IsEntryPath found.1 found.2 file.path)
        (met.filterMap fileMet?) flat.files := by
  have gathered := gathers_of_run gave
  have toured := gather_eq_tour source store rootId caller budget (folderLevels + 1) [] rootId
  rw [pathOf] at toured
  rw [toured] at gathered
  obtain ⟨met, toured, shown⟩ := Action.runOn_map_eq_ok_iff.mp gathered
  exact ⟨met, toured, shown ▸ shown_have_entryPaths store rootId met⟩

end Flatten

namespace DriveBrowser

variable {World : Type}

/-- What a listing shows for an item that a tour meets: the item with a path that leads to it. -/
def ShowsMet (found : List String × DriveItem) (item : DriveItem) : Prop :=
  item = { found.2 with path := item.path } ∧ IsEntryPath found.1 found.2.name item.path

theorem shown_have_entryPaths (filesOnly : Bool) (met : List (List String × DriveItem)) :
    List.Forall₂ ShowsMet (met.filter fun found => !(found.2.isFolder && filesOnly))
      (met.flatMap fun found => shownItem filesOnly found.1 found.2) := by
  induction met with
  | nil => exact .nil
  | cons first rest ih =>
      rw [List.flatMap_cons, List.filter_cons, shownItem]
      cases left : first.2.isFolder && filesOnly with
      | true => exact ih
      | false => exact .cons ⟨rfl, isEntryPath_pathOf first.1 first.2.name⟩ ih

theorem items_have_entryPaths {browser : DriveBrowser World} {caller : Caller World}
    {rootId : String} {filesOnly : Bool} {levels : Nat} {world after : World}
    {items : List DriveItem}
    (gave : (browser.walk caller rootId filesOnly levels rootId "").runOn world =
      (.ok items, after)) :
    ∃ met, ((browser.reading caller rootId).tour levels [] rootId).runOn world = (.ok met, after) ∧
      List.Forall₂ ShowsMet (met.filter fun found => !(found.2.isFolder && filesOnly)) items := by
  have toured := browser.walk_eq_tour caller rootId filesOnly levels [] rootId
  rw [pathOf] at toured
  rw [toured] at gave
  obtain ⟨met, toured, rfl⟩ := Action.runOn_map_eq_ok_iff.mp gave
  exact ⟨met, toured, shown_have_entryPaths filesOnly met⟩

end DriveBrowser

/-- Whatever a drive lists, flattening it, browsing it and taking a single file for an item show the
entries that are met, one for one, each under an absolute path that ends with a slash and the name
of the entry and has a segment for each level at least.  The path is normalized, with one segment
for each level and the name as the last one, just if all names on the way are proper segments. -/
theorem paths_normalized_iff {World : Type} (source : FolderSource World) (store : Store)
    (rootId : String) (browser : DriveBrowser World) (parentId : String) (caller : Caller World)
    (budget : Nat) (world : World) :
    (∀ flat after, (Flatten.run source store rootId caller budget).runOn world = (.ok flat, after) →
      ∃ met, ((Flatten.reading source rootId caller budget).tour (folderLevels + 1) []
          rootId).runOn world = (.ok met, after) ∧
        List.Forall₂ (fun found file => file.name = found.2 ∧ IsEntryPath found.1 found.2 file.path)
          (met.filterMap Flatten.fileMet?) flat.files) ∧
    (∀ items after, (browser.listRecursive caller parentId).runOn world = (.ok items, after) →
      ∃ met, ((browser.reading caller parentId).tour (folderLevels + 1) []
          parentId).runOn world = (.ok met, after) ∧
        List.Forall₂ DriveBrowser.ShowsMet met items) ∧
    (∀ items after, (browser.listFlat caller parentId).runOn world = (.ok items, after) →
      ∃ met, ((browser.reading caller parentId).tour (folderLevels + 1) []
          parentId).runOn world = (.ok met, after) ∧
        List.Forall₂ DriveBrowser.ShowsMet (met.filter (!·.2.isFolder)) items) ∧
    ∀ file : PikPak.File, (PikPak.Drive.singleFile file).name = file.name ∧
      IsEntryPath [] file.name (PikPak.Drive.singleFile file).path := by
  refine ⟨fun flat after gave => Flatten.files_have_entryPaths gave, fun items after gave => ?_,
    fun items after gave => ?_, fun file => ⟨rfl, ?_⟩⟩
  · obtain ⟨met, toured, shown⟩ := DriveBrowser.items_have_entryPaths gave
    refine ⟨met, toured, ?_⟩
    simpa only [Bool.and_false, Bool.not_false, List.filter_true] using shown
  · obtain ⟨met, toured, shown⟩ := DriveBrowser.items_have_entryPaths gave
    refine ⟨met, toured, ?_⟩
    simpa only [Bool.and_true] using shown
  · exact isEntryPath_pathOf [] file.name

section Films

/-- A drive with one folder, which holds one file. -/
def filmInBox (folder file folderId : String) (_ : Option String) : Action Unit FolderPage :=
  if folderId = "root" then pure ⟨[.folder "box" folder], none⟩
  else pure ⟨[.file "film" file 7], none⟩

/-- Proper names make a normalized path. -/
theorem paths_normalized_iff_films : ∃ file,
    ((Flatten.run (filmInBox "Films" "a.mkv") .pikPak "root"
      ⟨none, none, fun _ => false⟩ 1).runOn ()).1 = .ok ⟨[file], 7⟩ ∧
    IsNormalized ["Films"] "a.mkv" file.path := by
  obtain ⟨flattened, _⟩ := paths_normalized_iff (filmInBox "Films" "a.mkv") .pikPak "root"
    ⟨fun _ _ => pure (.make [] none), fun _ id => Action.fail (.notFound id), 1⟩ "root"
    ⟨none, none, fun _ => false⟩ 1 ()
  refine ⟨_, rfl, ?_⟩
  obtain ⟨met, toured, shown⟩ := flattened _ _ rfl
  cases toured
  obtain ⟨_, isEntryPath⟩ := (List.forall₂_cons.mp shown).1
  refine isEntryPath.normalized_iff.mpr fun part member => ?_
  fin_cases member <;> exact ⟨by decide, by decide, by decide, by decide⟩

/-- A slash in the name of a folder adds a segment, and two dots stay as they are. -/
theorem path_of_slashed_folder :
    (∃ file, ((Flatten.run (filmInBox "a/b" "f") .pikPak "root"
        ⟨none, none, fun _ => false⟩ 1).runOn ()).1 = .ok ⟨[file], 7⟩ ∧
      file.path = "/a/b/f" ∧ ¬ IsNormalized ["a/b"] "f" file.path) ∧
    ∃ file, ((Flatten.run (filmInBox ".." "f") .pikPak "root"
        ⟨none, none, fun _ => false⟩ 1).runOn ()).1 = .ok ⟨[file], 7⟩ ∧
      file.path = "/../f" ∧ ¬ IsNormalized [".."] "f" file.path := by
  refine ⟨⟨_, rfl, by decide, fun normalized => ?_⟩, _, rfl, by decide, fun normalized => ?_⟩
  · exact absurd normalized.levels (by decide)
  · exact absurd normalized.plain (by decide)

end Films

end StoreGate
