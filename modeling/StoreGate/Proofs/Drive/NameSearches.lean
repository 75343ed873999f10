import StoreGate.Proofs.Actions
import StoreGate.Proofs.Drive.RecursiveListings
import StoreGate.Proofs.LowerCaseForms
import StoreGate.Proofs.TextParts
/-!
# Searches by name

A search shows the items of a page whose names hold the query when both are written in lower case.
They stay in order, and the case of ASCII letters makes no difference.  Since the two are written in
lower case apart from each other, a name that holds the query as it stands may be missed: this
happens exactly to queries that do not tell the forms of their sigmas.
-/

namespace StoreGate

namespace DriveBrowser

variable {World : Type} {query other : String} {page : DrivePage}

/-- Whether the name of an item holds a text as it stands. -/
def namesLiterally (part : List Char) (item : DriveItem) : Bool :=
  Text.occursIn part item.name.toList

/-- What a search is to find on every page that a drive shows: all items whose names hold the
trimmed query as it stands. -/
def FindsLiteralMatches (query : String) : Prop :=
  ∀ (World : Type) (browser : DriveBrowser World) (caller : Caller World) (token : Option String)
    (world after : World) (page : DrivePage),
    (browser.listFiles caller (FileQuery.page "" token)).runOn world = (.ok page, after) →
    ∃ found, (browser.search caller query token).runOn world = (.ok found, after) ∧
      (page.files.filter (namesLiterally (Text.trim query).toList)).Sublist found.files

/-- The items on a page that a search shows. -/
def matching (query : String) (items : List DriveItem) : List DriveItem :=
  items.filter (nameHolds (Text.lowerCase (Text.trim query).toList))

section Runs

theorem search_eq (asks : Text.trim query ≠ "") (browser : DriveBrowser World)
    (caller : Caller World) (token : Option String) :
    browser.search caller query token =
      browser.listFiles caller (FileQuery.page "" token) >>= fun page =>
        pure { page with files := matching query page.files } := by
  have characters : (Text.trim query).toList ≠ [] :=
    fun none => asks (String.toList_inj.mp none)
  have needle : (Text.lowerCase (Text.trim query).toList).isEmpty = false :=
    List.isEmpty_eq_false_iff.mpr (Text.lowerCase_ne_nil characters)
  unfold search
  simp only [needle]
  rfl

theorem runOn_search (asks : Text.trim query ≠ "") {browser : DriveBrowser World}
    {caller : Caller World} {token : Option String} {world after : World}
    (listed : (browser.listFiles caller (FileQuery.page "" token)).runOn world =
      (.ok page, after)) :
    (browser.search caller query token).runOn world =
      (.ok { page with files := matching query page.files }, after) := by
  rw [search_eq asks, Action.runOn_bind, listed]
  rfl

end Runs

section Matches

theorem nameHolds_iff {needle : List Char} {item : DriveItem} :
    nameHolds needle item = true ↔ needle <:+: Text.lowerCase item.name.toList :=
  Text.occursIn_iff

theorem matching_eq_of_same (same : Text.SameButForCase query other) (items : List DriveItem) :
    matching other items = matching query items := by
  unfold matching
  rw [same.trim.lowerCase_eq]

/-- Names that change in case only are shown where they were shown before. -/
theorem matching_map {change : DriveItem → DriveItem}
    (same : ∀ item, Text.SameButForCase (change item).name item.name) (query : String)
    (items : List DriveItem) :
    matching query (items.map change) = (matching query items).map change := by
  unfold matching
  induction items with
  | nil => rfl
  | cons item items ih =>
      have alike : ∀ needle, nameHolds needle (change item) = nameHolds needle item := by
        intro needle
        rw [nameHolds, nameHolds, (same item).lowerCase_eq]
      rw [List.map_cons, List.filter_cons, List.filter_cons, alike, ih]
      split <;> rfl

theorem literal_sublist_matching (tells : Text.tellsForms (Text.trim query).toList = true)
    (items : List DriveItem) :
    (items.filter (namesLiterally (Text.trim query).toList)).Sublist (matching query items) := by
  apply List.monotone_filter_right
  intro item literally
  have isPart : (Text.trim query).toList <:+: item.name.toList := Text.occursIn_iff.mp literally
  exact nameHolds_iff.mpr (Text.lowerCase_infix tells isPart)

/-- A drive with one page. -/
def onePage (page : DrivePage) : DriveBrowser Unit where
  listFiles _ _ := pure page
  fileDetails _ id := Action.fail (.notFound id)
  pageBudget := 1

theorem runOn_search_onePage (asks : Text.trim query ≠ "") (page : DrivePage)
    (caller : Caller Unit) (token : Option String) :
    ((onePage page).search caller query token).runOn () =
      (.ok { page with files := matching query page.files }, ()) :=
  runOn_search asks rfl

theorem findsLiteralMatches_iff (asks : Text.trim query ≠ "") :
    FindsLiteralMatches query ↔ Text.tellsForms (Text.trim query).toList = true := by
  constructor
  · intro finds
    apply Text.lowerCase_infix_iff.mp
    intro whole isPart
    -- The only item of the drive has the text for its name.
    let item := named "item" (String.ofList whole) .file
    have literally : namesLiterally (Text.trim query).toList item = true :=
      Text.occursIn_iff.mpr (by rwa [show item.name.toList = whole from String.toList_ofList])
    obtain ⟨found, searched, sublist⟩ := finds Unit (onePage ⟨[item], none, false⟩)
      ⟨none, none, fun _ => false⟩ none () () ⟨[item], none, false⟩ rfl
    rw [runOn_search_onePage asks] at searched
    cases searched
    have shown : item ∈ matching query [item] :=
      sublist.subset (List.mem_filter.mpr ⟨List.mem_cons_self, literally⟩)
    have holds := nameHolds_iff.mp (List.mem_filter.mp shown).2
    rwa [show item.name.toList = whole from String.toList_ofList] at holds
  · intro tells World browser caller token world after page listed
    exact ⟨_, runOn_search asks listed, literal_sublist_matching tells page.files⟩

end Matches

/-- A search for anything but blanks shows some items of the page that the drive shows, in their
order, and keeps what the page says about the next one.  It shows the same items if the case of
ASCII letters in the query changes, or in the names.  It finds all names that hold the query as it
stands, on whatever page, exactly if the query tells the forms of its sigmas. -/
theorem search_finds_literal_matches_iff (query : String) (asks : Text.trim query ≠ "") :
    (∀ (World : Type) (browser : DriveBrowser World) (caller : Caller World)
      (token : Option String) (world after : World) (page : DrivePage),
      (browser.listFiles caller (FileQuery.page "" token)).runOn world = (.ok page, after) →
      ∃ found : List DriveItem, found.Sublist page.files ∧
        (browser.search caller query token).runOn world =
          (.ok { page with files := found }, after) ∧
        (∀ other, Text.SameButForCase query other →
          (browser.search caller other token).runOn world =
            (.ok { page with files := found }, after)) ∧
        ∀ (change : DriveItem → DriveItem) (changed : DriveBrowser World),
          (∀ item, Text.SameButForCase (change item).name item.name) →
          (changed.listFiles caller (FileQuery.page "" token)).runOn world =
            (.ok { page with files := page.files.map change }, after) →
          (changed.search caller query token).runOn world =
            (.ok { page with files := found.map change }, after)) ∧
    (FindsLiteralMatches query ↔ Text.tellsForms (Text.trim query).toList = true) := by
  refine ⟨?_, findsLiteralMatches_iff asks⟩
  intro World browser caller token world after page listed
  refine ⟨matching query page.files, List.filter_sublist, runOn_search asks listed, ?_, ?_⟩
  · intro other same
    rw [runOn_search (same.trim.ne_empty asks) listed, matching_eq_of_same same]
  · intro change changed same relisted
    rw [runOn_search asks relisted, matching_map same]

section Words

def street : DriveItem := named "street" "Η ΟΔΟΣ 2b" .file

def book : DriveItem := named "book" "ΦΙΛΟΣΟΦΙΑ" .file

/-- The sigma of the query stands between a letter and a blank, so its form is known. -/
theorem search_finds_literal_matches_iff_street :
    Text.trim " ΟΔΟΣ 2B " ≠ "" ∧ Text.SameButForCase " ΟΔΟΣ 2B " " ΟΔΟΣ 2b " ∧
    (∃ found, found.Sublist [book, street] ∧
      ((onePage ⟨[book, street], none, false⟩).search ⟨none, none, fun _ => false⟩ " ΟΔΟΣ 2B "
        none).runOn () = (.ok ⟨found, none, false⟩, ()) ∧
      ((onePage ⟨[book, street], none, false⟩).search ⟨none, none, fun _ => false⟩ " ΟΔΟΣ 2b "
        none).runOn () = (.ok ⟨found, none, false⟩, ())) ∧
    FindsLiteralMatches " ΟΔΟΣ 2B " := by
  have asks : Text.trim " ΟΔΟΣ 2B " ≠ "" := by decide +kernel
  have same : Text.SameButForCase " ΟΔΟΣ 2B " " ΟΔΟΣ 2b " := by decide +kernel
  obtain ⟨shows, finds⟩ := search_finds_literal_matches_iff " ΟΔΟΣ 2B " asks
  obtain ⟨found, sublist, searched, others, _⟩ := shows Unit
    (onePage ⟨[book, street], none, false⟩) ⟨none, none, fun _ => false⟩ none () ()
    ⟨[book, street], none, false⟩ rfl
  exact ⟨asks, same, ⟨found, sublist, searched, others _ same⟩, finds.mpr (by decide +kernel)⟩

/-- The beginning of a word is missed: its last letter is written as at the end of a word, and that
is not how it is written inside the word. -/
theorem search_misses_beginning_of_word :
    namesLiterally (Text.trim "ΦΙΛΟΣ").toList book = true ∧
    ((onePage ⟨[book], none, false⟩).search ⟨none, none, fun _ => false⟩ "ΦΙΛΟΣ" none).runOn () =
      (.ok ⟨[], none, false⟩, ()) ∧
    ¬ FindsLiteralMatches "ΦΙΛΟΣ" := by
  have asks : Text.trim "ΦΙΛΟΣ" ≠ "" := by decide +kernel
  have literally : namesLiterally (Text.trim "ΦΙΛΟΣ").toList book = true := by decide +kernel
  have missed : matching "ΦΙΛΟΣ" [book] = [] := by decide +kernel
  have searched := runOn_search_onePage asks ⟨[book], none, false⟩ ⟨none, none, fun _ => false⟩
    none
  rw [missed] at searched
  refine ⟨literally, searched, fun finds => ?_⟩
  exact absurd ((findsLiteralMatches_iff asks).mp finds) (by decide +kernel)

end Words

end DriveBrowser

end StoreGate
