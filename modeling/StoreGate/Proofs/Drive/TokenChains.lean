import Mathlib.Data.List.Infix
import Mathlib.Logic.Relation
import StoreGate.Flatten
/-!
# Chains of page tokens

Each page of a folder names the token of the next one, so the pages that a loop reads follow from
the token that it begins with.  A chain of tokens that leads back to a page that has been read
already never ends.  On a folder with finitely many pages this is the only way in which a loop can
use up a budget for more pages than there are, and it reads all further pages for another time.
-/

namespace StoreGate

section Chains

variable {Page : Type}

/-- Whether the page of a token names another token as the one to ask for next. -/
def Names (answer : Option String → Outcome Page) (next? : Page → Option String)
    (token further : Option String) : Prop :=
  ∃ page name, answer token = .ok page ∧ next? page = some name ∧ further = some name

/-- Whether the first page of a folder leads to a page that leads back to itself. -/
def Circles (answer : Option String → Outcome Page) (next? : Page → Option String) : Prop :=
  ∃ token, Relation.ReflTransGen (Names answer next?) none token ∧
    Relation.TransGen (Names answer next?) token token

/-- Whether a folder has at most a number of pages. -/
def HasPages (count : Nat) (answer : Option String → Outcome Page) : Prop :=
  ∃ known : List (Option String), known.length ≤ count ∧
    ∀ token page, answer token = .ok page → token ∈ known

/-- The pages that are read from a token on, as far as the budget allows, and what stops a loop that
reads them. -/
def course (answer : Option String → Outcome Page) (next? : Page → Option String) :
    (budget : Nat) → (token : Option String) → List Page × Option Halt
  | 0, _ => ([], some .unfinished)
  | budget + 1, token =>
    match answer token with
    | .error failure => ([], some (.failure failure))
    | .ok page =>
      match next? page with
      | none => ([page], none)
      | some further =>
        let rest := course answer next? budget (some further)
        (page :: rest.1, rest.2)

variable {answer : Option String → Outcome Page} {next? : Page → Option String}
  {token target : Option String} {page : Page} {further : String} {budget larger : Nat}

theorem course_of_fault {failure : Failure} (failed : answer token = .error failure) :
    course answer next? (budget + 1) token = ([], some (.failure failure)) := by
  rw [course, failed]

theorem course_of_last (answered : answer token = .ok page) (ends : next? page = none) :
    course answer next? (budget + 1) token = ([page], none) := by
  rw [course, answered]
  dsimp only
  rw [ends]

theorem course_of_more (answered : answer token = .ok page) (named : next? page = some further) :
    course answer next? (budget + 1) token =
      (page :: (course answer next? budget (some further)).1,
        (course answer next? budget (some further)).2) := by
  rw [course, answered]
  dsimp only
  rw [named]

/-- Either a page names the next one, or a course stops with it under every budget. -/
theorem goes_on_or_stops (answer : Option String → Outcome Page) (next? : Page → Option String)
    (token : Option String) :
    (∃ page further, answer token = .ok page ∧ next? page = some further) ∨
      ∃ found : List Page × Option Halt, found.2 ≠ some .unfinished ∧
        ∀ budget, course answer next? (budget + 1) token = found := by
  cases answered : answer token with
  | error failure =>
      exact Or.inr ⟨([], some (.failure failure)), nofun, fun _ => course_of_fault answered⟩
  | ok page =>
      cases named : next? page with
      | none => exact Or.inr ⟨([page], none), nofun, fun _ => course_of_last answered named⟩
      | some further => exact Or.inl ⟨page, further, rfl, named⟩

/-- A course that comes to an end is the same under a larger budget. -/
theorem course_of_le (finished : (course answer next? budget token).2 ≠ some .unfinished)
    (enough : budget ≤ larger) :
    course answer next? larger token = course answer next? budget token := by
  induction budget generalizing larger token with
  | zero => exact absurd rfl finished
  | succ budget ih =>
      obtain ⟨more, rfl⟩ := Nat.exists_eq_add_of_le' enough
      rw [← Nat.add_assoc]
      rcases goes_on_or_stops answer next? token with
        ⟨page, further, answered, named⟩ | ⟨found, _, fixed⟩
      · rw [course_of_more answered named] at finished
        rw [course_of_more answered named, course_of_more answered named,
          ih finished (Nat.le_add_left _ _)]
      · rw [fixed, fixed]

/-- A larger budget adds pages behind those that are read already. -/
theorem course_isPrefix_course (enough : budget ≤ larger) :
    (course answer next? budget token).1 <+: (course answer next? larger token).1 := by
  induction budget generalizing larger token with
  | zero => exact List.nil_prefix
  | succ budget ih =>
      obtain ⟨more, rfl⟩ := Nat.exists_eq_add_of_le' enough
      rw [← Nat.add_assoc]
      rcases goes_on_or_stops answer next? token with
        ⟨page, further, answered, named⟩ | ⟨found, _, fixed⟩
      · rw [course_of_more answered named, course_of_more answered named]
        exact List.prefix_cons_inj page |>.mpr (ih (Nat.le_add_left _ _))
      · rw [fixed, fixed]

/-- Every page of a course is the page of a token that is led to. -/
theorem reached_of_mem (member : page ∈ (course answer next? budget token).1) :
    ∃ target, Relation.ReflTransGen (Names answer next?) token target ∧
      answer target = .ok page := by
  induction budget generalizing token with
  | zero => cases member
  | succ budget ih =>
      cases answered : answer token with
      | error failure => rw [course_of_fault answered] at member; cases member
      | ok first =>
          cases named : next? first with
          | none =>
              rw [course_of_last answered named, List.mem_singleton] at member
              exact ⟨token, .refl, member ▸ answered⟩
          | some further =>
              rw [course_of_more answered named] at member
              rcases List.mem_cons.mp member with rfl | later
              · exact ⟨token, .refl, answered⟩
              · obtain ⟨target, leads, found⟩ := ih later
                exact ⟨target, .head ⟨first, further, answered, named, rfl⟩ leads, found⟩

/-- A chain that leads back uses up every budget. -/
theorem unfinished_of_leads_back (leads : Relation.ReflTransGen (Names answer next?) token target)
    (back : Relation.TransGen (Names answer next?) target target) (budget : Nat) :
    (course answer next? budget token).2 = some .unfinished := by
  induction budget generalizing token with
  | zero => rfl
  | succ budget ih =>
      have goesOn : ∃ after, Names answer next? token after ∧
          Relation.ReflTransGen (Names answer next?) after target := by
        rcases Relation.ReflTransGen.cases_head leads with rfl | goesOn
        · exact Relation.TransGen.head'_iff.mp back
        · exact goesOn
      obtain ⟨_, ⟨page, further, answered, named, rfl⟩, leadsOn⟩ := goesOn
      rw [course_of_more answered named]
      exact ih leadsOn

/-- A budget for more pages than there are is used up only by a chain that leads back. -/
theorem leads_back_of_unfinished {known : List (Option String)} (few : known.length < budget)
    (all : ∀ target page, Relation.ReflTransGen (Names answer next?) token target →
      answer target = .ok page → target ∈ known)
    (unfinished : (course answer next? budget token).2 = some .unfinished) :
    ∃ target, Relation.ReflTransGen (Names answer next?) token target ∧
      Relation.TransGen (Names answer next?) target target := by
  -- Each step takes its token off the list of those that are known.
  induction budget generalizing token known with
  | zero => cases few
  | succ budget ih =>
      rcases goes_on_or_stops answer next? token with
        ⟨page, further, answered, named⟩ | ⟨found, finite, fixed⟩
      · have names : Names answer next? token (some further) :=
          ⟨page, further, answered, named, rfl⟩
        have isKnown := all token page .refl answered
        by_cases back : Relation.ReflTransGen (Names answer next?) (some further) token
        · exact ⟨token, .refl, .head' names back⟩
        · rw [course_of_more answered named] at unfinished
          have fewer : (known.erase token).length < budget := by
            have some := List.length_pos_of_mem isKnown
            rw [List.length_erase_of_mem isKnown]
            omega
          obtain ⟨target, leads, cycle⟩ := ih fewer (fun target page leads found => by
            have differ : target ≠ token := fun same => back (same ▸ leads)
            exact (List.mem_erase_of_ne differ).mpr (all target page (.head names leads) found))
            unfinished
          exact ⟨target, .head names leads, cycle⟩
      · rw [fixed] at unfinished
        exact absurd unfinished finite

/-- The answers of a drive that has lost the page of a token. -/
def without (lost : Option String) (answer : Option String → Outcome Page) (token : Option String) :
    Outcome Page :=
  if token = lost then .error (.notFound "") else answer token

variable {lost : Option String}

theorem without_of_ne (differ : token ≠ lost) : without lost answer token = answer token :=
  if_neg differ

theorem mem_course_of_without
    (member : page ∈ (course (without lost answer) next? budget token).1) :
    page ∈ (course answer next? budget token).1 := by
  induction budget generalizing token with
  | zero => cases member
  | succ budget ih =>
      by_cases isLost : token = lost
      · rw [course_of_fault (if_pos isLost)] at member
        cases member
      · have same : without lost answer token = answer token := without_of_ne isLost
        cases answered : answer token with
        | error failure =>
            rw [course_of_fault (same.trans answered)] at member
            cases member
        | ok first =>
            cases named : next? first with
            | none =>
                rw [course_of_last (same.trans answered) named] at member
                rwa [course_of_last answered named]
            | some further =>
                rw [course_of_more (same.trans answered) named] at member
                rw [course_of_more answered named]
                exact List.mem_cons.mpr ((List.mem_cons.mp member).imp_right ih)

/-- What leads on to something else leaves its beginning for good at some point. -/
theorem leaves_for_good (leads : Relation.ReflTransGen (Names answer next?) token target)
    (differ : target ≠ token) : ∃ further, Names answer next? token further ∧
      Relation.ReflTransGen (Names (without token answer) next?) further target := by
  -- By the last step: it begins where the chain begins, or the steps before it have left already.
  induction leads with
  | refl => exact absurd rfl differ
  | @tail before target leads names ih =>
      by_cases again : before = token
      · subst again
        exact ⟨target, names, .refl⟩
      · obtain ⟨further, first, leadsOn⟩ := ih again
        obtain ⟨page, name, answered, named, rfl⟩ := names
        exact ⟨further, first,
          leadsOn.tail ⟨page, name, (without_of_ne again).trans answered, named, rfl⟩⟩

/-- A budget for all pages that there are covers every page that is led to. -/
theorem mem_course_of_reached {known : List (Option String)} (few : known.length ≤ budget)
    (all : ∀ target page, answer target = .ok page → target ∈ known)
    (leads : Relation.ReflTransGen (Names answer next?) token target)
    (found : answer target = .ok page) : page ∈ (course answer next? budget token).1 := by
  -- What lies behind a page is found without going through that page again.
  induction budget generalizing answer known token with
  | zero =>
      rw [List.length_eq_zero_iff.mp (Nat.le_zero.mp few)] at all
      cases all target page found
  | succ budget ih =>
      by_cases here : target = token
      · subst here
        cases named : next? page with
        | none => rw [course_of_last found named]; exact List.mem_singleton_self page
        | some further => rw [course_of_more found named]; exact List.mem_cons_self
      · obtain ⟨_, ⟨first, name, answered, named, rfl⟩, leadsOn⟩ := leaves_for_good leads here
        have isKnown := all token first answered
        have some := List.length_pos_of_mem isKnown
        have fewer : (known.erase token).length ≤ budget := by
          rw [List.length_erase_of_mem isKnown]
          omega
        rw [course_of_more answered named]
        refine List.mem_cons_of_mem _ (mem_course_of_without (ih fewer ?_ leadsOn
          ((without_of_ne here).trans found)))
        intro other page isPage
        by_cases same : other = token
        · rw [without, if_pos same] at isPage
          cases isPage
        · rw [without_of_ne same] at isPage
          exact (List.mem_erase_of_ne same).mpr (all other page isPage)

theorem unfinished_iff_circles {count : Nat} (pages : HasPages count answer)
    (enough : count < budget) :
    (course answer next? budget none).2 = some .unfinished ↔ Circles answer next? := by
  obtain ⟨known, few, all⟩ := pages
  constructor
  · exact leads_back_of_unfinished (Nat.lt_of_le_of_lt few enough)
      fun target page _ found => all target page found
  · rintro ⟨target, leads, back⟩
    exact unfinished_of_leads_back leads back budget

theorem findSome?_of_prefix {α β : Type} {choose : α → Option β} {first all : List α}
    (begins : first <+: all) (nothingNew : all ⊆ first) :
    all.findSome? choose = first.findSome? choose := by
  obtain ⟨others, rfl⟩ := begins
  rw [List.findSome?_append]
  cases chosen : first.findSome? choose with
  | some value => rfl
  | none =>
      rw [Option.none_or, List.findSome?_eq_none_iff]
      intro other member
      exact List.findSome?_eq_none_iff.mp chosen other
        (nothingNew (List.mem_append_right _ member))

/-- A budget for one page more than there are settles how a loop over the pages ends, and what can
be found on them. -/
theorem course_settled {count : Nat} (pages : HasPages count answer)
    (next? : Page → Option String) (enough : count < budget) :
    (course answer next? budget none).2 = (course answer next? (count + 1) none).2 ∧
      ∀ {β : Type} (choose : Page → Option β),
        (course answer next? budget none).1.findSome? choose =
          (course answer next? (count + 1) none).1.findSome? choose := by
  -- A chain that leads back shows all of its pages under either budget, and any other one ends.
  by_cases back : Circles answer next?
  · refine ⟨?_, fun choose =>
      findSome?_of_prefix (course_isPrefix_course enough) fun page member => ?_⟩
    · rw [(unfinished_iff_circles pages enough).mpr back,
        (unfinished_iff_circles pages (Nat.lt_succ_self count)).mpr back]
    · obtain ⟨target, leads, found⟩ := reached_of_mem member
      obtain ⟨known, few, all⟩ := pages
      exact mem_course_of_reached (Nat.le_succ_of_le few) all leads found
  · have finished : (course answer next? (count + 1) none).2 ≠ some .unfinished := by
      rwa [ne_eq, unfinished_iff_circles pages (Nat.lt_succ_self count)]
    rw [course_of_le finished enough]
    exact ⟨rfl, fun _ => rfl⟩

end Chains

end StoreGate
