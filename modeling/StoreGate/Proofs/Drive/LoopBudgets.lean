import StoreGate.Proofs.Drive.TokenChains
import StoreGate.Proofs.RecordedCalls
/-!
# Loops under growing budgets

A loop over pages that a drive hands out runs under a budget.  A larger budget does not change a run
that comes to an end, so a loop either returns, under all budgets from some one on in the same way,
or it runs on, and uses up every budget with as many requests.
-/

namespace StoreGate

namespace Action

variable {World Request α β : Type}

/-- What stops an action that ends with a result. -/
def haltOf : Except Halt α → Option Halt
  | .ok _ => none
  | .error halt => some halt

/-- Whether an action is stopped in the same way wherever it starts, and has made a least number of
requests if it is stopped unfinished. -/
structure Stops (least : Nat) (action : Action (Recorded World Request) α)
    (halt : Option Halt) : Prop where
  ends : ∀ start, haltOf (action.runOn start).1 = halt
  grows : ∀ start, start.2.length ≤ (action.runOn start).2.2.length
  spends : ∀ start, (action.runOn start).1 = .error .unfinished →
    start.2.length + least ≤ (action.runOn start).2.2.length

section Stops

variable {least fewer : Nat} {halt other : Option Halt}
  {action : Action (Recorded World Request) α}
  {next : α → Action (Recorded World Request) β}

theorem stops_pure (value : α) :
    (pure value : Action (Recorded World Request) α).Stops least none where
  ends _ := rfl
  grows _ := Nat.le_refl _
  spends _ unfinished := nomatch unfinished

theorem stops_fail (failure : Failure) :
    (fail failure : Action (Recorded World Request) α).Stops least (some (.failure failure)) where
  ends _ := rfl
  grows _ := Nat.le_refl _
  spends _ unfinished := nomatch unfinished

theorem Stops.weaken (stops : action.Stops least halt) (enough : fewer ≤ least) :
    action.Stops fewer halt where
  ends := stops.ends
  grows := stops.grows
  spends start unfinished := by
    have spent := stops.spends start unfinished
    omega

theorem Stops.bind (first : action.Stops least halt)
    (second : ∀ value, (next value).Stops least other) :
    (action >>= next).Stops least (halt.or other) := by
  constructor
  · intro start
    have ends := first.ends start
    rw [runOn_bind]
    cases ran : action.runOn start with
    | mk result between =>
        rw [ran] at ends
        subst ends
        cases result with
        | ok value => exact (second value).ends between
        | error halt => rfl
  · intro start
    have grows := first.grows start
    rw [runOn_bind]
    cases ran : action.runOn start with
    | mk result between =>
        rw [ran] at grows
        cases result with
        | ok value => exact Nat.le_trans grows ((second value).grows between)
        | error halt => exact grows
  · -- What is stopped unfinished has made the requests in the part in which it is stopped.
    intro start unfinished
    have grows := first.grows start
    have spends := first.spends start
    rw [runOn_bind] at unfinished ⊢
    cases ran : action.runOn start with
    | mk result between =>
        rw [ran] at grows spends unfinished
        cases result with
        | ok value =>
            have spent := (second value).spends between unfinished
            dsimp only at grows ⊢
            omega
        | error halt =>
            cases unfinished
            exact spends rfl

theorem Stops.bind_pure (stops : action.Stops least halt) (change : α → β) :
    (action >>= fun value => pure (change value)).Stops least halt := by
  have joined : (action >>= fun value => pure (change value)).Stops least (halt.or none) :=
    stops.bind fun value => stops_pure (change value)
  rwa [Option.or_none] at joined

theorem Stops.map (stops : action.Stops least halt) (change : α → β) :
    (change <$> action).Stops least halt := by
  rw [map_eq_pure_bind]
  exact stops.bind_pure change

theorem stops_collect {visit : β → Action (Recorded World Request) (List α)}
    {stop : β → Option Halt} (visited : ∀ member, (visit member).Stops least (stop member))
    (members : List β) : (collect visit members).Stops least (members.findSome? stop) := by
  induction members with
  | nil => exact stops_pure []
  | cons first rest ih =>
      have joined := (visited first).bind fun found => ih.bind_pure (found ++ ·)
      rw [List.findSome?_cons]
      cases found : stop first with
      | none => rwa [found] at joined
      | some halt => rwa [found] at joined

end Stops

section Pages

variable {Page : Type} {fetch : Option String → Action (Recorded World Request) Page}
  {answer : Option String → Outcome Page} {next? : Page → Option String}
  {token : Option String} {budget : Nat} {halt : Option Halt}

/-- Whether each request for a page is answered in the same way at any time, and put down. -/
def Asks (fetch : Option String → Action (Recorded World Request) Page)
    (answer : Option String → Outcome Page) : Prop :=
  ∀ token start, ((fetch token).runOn start).1 = resultOf (answer token) ∧
    ((fetch token).runOn start).2.2.length = start.2.length + 1

theorem Asks.stops_of_fault (asks : Asks fetch answer) {failure : Failure}
    (failed : answer token = .error failure) (next : Page → Action (Recorded World Request) α) :
    (fetch token >>= next).Stops budget (some (.failure failure)) := by
  have ran : ∀ start, ((fetch token >>= next).runOn start).1 = .error (.failure failure) ∧
      ((fetch token >>= next).runOn start).2.2.length = start.2.length + 1 := by
    intro start
    obtain ⟨given, asked⟩ := asks token start
    rw [failed] at given
    rw [runOn_bind]
    cases found : (fetch token).runOn start with
    | mk result after =>
        rw [found] at given asked
        cases given
        exact ⟨rfl, asked⟩
  refine ⟨fun start => ?_, fun start => ?_, fun start unfinished => ?_⟩
  · rw [(ran start).1]
    rfl
  · rw [(ran start).2]
    exact Nat.le_succ _
  · rw [(ran start).1] at unfinished
    cases unfinished

theorem Asks.stops_of_page (asks : Asks fetch answer) {page : Page}
    (answered : answer token = .ok page) {next : Page → Action (Recorded World Request) α}
    (stops : (next page).Stops budget halt) : (fetch token >>= next).Stops (budget + 1) halt := by
  have ran : ∀ start, ∃ after, (fetch token >>= next).runOn start = (next page).runOn after ∧
      after.2.length = start.2.length + 1 := by
    intro start
    obtain ⟨given, asked⟩ := asks token start
    rw [answered] at given
    rw [runOn_bind]
    cases found : (fetch token).runOn start with
    | mk result after =>
        rw [found] at given asked
        cases given
        exact ⟨after, rfl, asked⟩
  refine ⟨fun start => ?_, fun start => ?_, fun start unfinished => ?_⟩
  all_goals obtain ⟨after, same, asked⟩ := ran start
  · rw [same]
    exact stops.ends after
  · have grows := stops.grows after
    rw [same]
    omega
  · rw [same] at unfinished ⊢
    have spends := stops.spends after unfinished
    omega

/-- A loop over pages stops at the first page whose visit stops it, or with the course of the
pages. -/
theorem stops_overPages (asks : Asks fetch answer)
    {visit : Page → Action (Recorded World Request) (List α)} {stop : Page → Option Halt}
    {whole : Nat} (visited : ∀ page, (visit page).Stops whole (stop page))
    (enough : budget ≤ whole) (token : Option String) :
    (overPages fetch next? visit budget token).Stops budget
      (((course answer next? budget token).1.findSome? stop).or
        (course answer next? budget token).2) := by
  induction budget generalizing token with
  | zero => exact ⟨fun _ => rfl, fun _ => Nat.le_refl _, fun _ _ => Nat.le_refl _⟩
  | succ budget ih =>
      have fewer : budget ≤ whole := Nat.le_of_succ_le enough
      rw [overPages]
      cases answered : answer token with
      | error failure =>
          rw [course_of_fault answered]
          exact asks.stops_of_fault answered _
      | ok page =>
          refine asks.stops_of_page answered ?_
          have first := (visited page).weaken fewer
          cases named : next? page with
          | none =>
              rw [course_of_last answered named, List.findSome?_singleton]
              exact first.bind fun found => stops_pure found
          | some further =>
              rw [course_of_more answered named, List.findSome?_cons]
              have rest := first.bind fun found =>
                (ih fewer (some further)).bind_pure (found ++ ·)
              cases stopped : stop page with
              | none => rwa [stopped] at rest
              | some halt => rwa [stopped] at rest

/-- A loop that only looks at the pages stops with the course of the pages. -/
theorem stops_readPages (asks : Asks fetch answer) (select : Page → List α) (budget : Nat)
    (token : Option String) :
    (overPages fetch next? (fun page => pure (select page)) budget token).Stops budget
      (course answer next? budget token).2 := by
  have stops : (overPages fetch next? (fun page => pure (select page)) budget token).Stops budget
      (((course answer next? budget token).1.findSome? fun _ => none).or
        (course answer next? budget token).2) :=
    stops_overPages asks (fun page => stops_pure (select page)) (Nat.le_refl budget) token
  rwa [List.findSome?_eq_none_iff.mpr fun _ _ => rfl, Option.none_or] at stops

/-- What stops a search through pages that fails if nothing is found. -/
def searchHalt (answer : Option String → Outcome Page) (next? : Page → Option String)
    (found? : Page → Option α) (missing : Failure) (budget : Nat) (token : Option String) :
    Option Halt :=
  match (course answer next? budget token).1.findSome? found? with
  | some _ => none
  | none => (course answer next? budget token).2.or (some (.failure missing))

theorem Asks.stops_search (asks : Asks fetch answer) {found? : Page → Option α}
    {missing : Failure} {next : Option α → Action (Recorded World Request) β}
    (found : ∀ least value, (next (some value)).Stops least none)
    (missed : ∀ least, (next none).Stops least (some (.failure missing))) (budget : Nat)
    (token : Option String) :
    (searchPages fetch next? found? budget token >>= next).Stops budget
      (searchHalt answer next? found? missing budget token) := by
  induction budget generalizing token with
  | zero => exact ⟨fun _ => rfl, fun _ => Nat.le_refl _, fun _ _ => Nat.le_refl _⟩
  | succ budget ih =>
      rw [searchPages, bind_assoc, searchHalt]
      cases answered : answer token with
      | error failure =>
          rw [course_of_fault answered]
          exact asks.stops_of_fault answered _
      | ok page =>
          refine asks.stops_of_page answered ?_
          cases named : next? page with
          | none =>
              rw [course_of_last answered named, List.findSome?_singleton]
              cases found? page with
              | some value => exact found budget value
              | none => exact missed budget
          | some further =>
              rw [course_of_more answered named, List.findSome?_cons]
              cases found? page with
              | some value => exact found budget value
              | none => exact ih (some further)

end Pages

/-- Whether an action under a larger budget does the same, unless the budget at hand is used up. -/
def Refines (action larger : Action World α) : Prop :=
  ∀ start, (action.runOn start).1 = .error .unfinished ∨ larger.runOn start = action.runOn start

section Refines

variable {Page : Type} {action larger : Action World α}

theorem refines_refl (action : Action World α) : action.Refines action :=
  fun _ => Or.inr rfl

theorem refines_unfinished (larger : Action World α) :
    (throw .unfinished : Action World α).Refines larger :=
  fun _ => Or.inl rfl

theorem Refines.bind {next nextLarger : α → Action World β} (first : action.Refines larger)
    (second : ∀ value, (next value).Refines (nextLarger value)) :
    (action >>= next).Refines (larger >>= nextLarger) := by
  intro start
  rw [runOn_bind, runOn_bind]
  rcases first start with unfinished | same
  · -- What uses up the budget in its first part never comes to the second one.
    left
    cases ran : action.runOn start with
    | mk result after =>
        rw [ran] at unfinished
        cases unfinished
        rfl
  · rw [same]
    cases ran : action.runOn start with
    | mk result after =>
        cases result with
        | ok value => exact second value after
        | error halt => exact Or.inr rfl

theorem Refines.map (refines : action.Refines larger) (change : α → β) :
    (change <$> action).Refines (change <$> larger) := by
  rw [map_eq_pure_bind, map_eq_pure_bind]
  exact refines.bind fun value => refines_refl (pure (change value))

theorem refines_collect {visit visitLarger : β → Action World (List α)}
    (visited : ∀ member, (visit member).Refines (visitLarger member)) (members : List β) :
    (collect visit members).Refines (collect visitLarger members) := by
  induction members with
  | nil => exact refines_refl _
  | cons first rest ih =>
      exact (visited first).bind fun found => ih.bind fun others => refines_refl _

variable {fetch : Option String → Action World Page} {next? : Page → Option String}
  {budget more : Nat}

theorem refines_overPages {visit visitLarger : Page → Action World (List α)}
    (visited : ∀ page, (visit page).Refines (visitLarger page)) (enough : budget ≤ more)
    (token : Option String) :
    (overPages fetch next? visit budget token).Refines
      (overPages fetch next? visitLarger more token) := by
  induction budget generalizing more token with
  | zero => exact refines_unfinished _
  | succ budget ih =>
      obtain ⟨rest, rfl⟩ := Nat.exists_eq_add_of_le' enough
      rw [← Nat.add_assoc, overPages, overPages]
      refine (refines_refl _).bind fun page => (visited page).bind fun found => ?_
      cases next? page with
      | none => exact refines_refl _
      | some further =>
          exact (ih (Nat.le_add_left _ _) (some further)).bind fun others => refines_refl _

theorem refines_searchPages {found? : Page → Option α} (enough : budget ≤ more)
    (token : Option String) :
    (searchPages fetch next? found? budget token).Refines
      (searchPages fetch next? found? more token) := by
  induction budget generalizing more token with
  | zero => exact refines_unfinished _
  | succ budget ih =>
      obtain ⟨rest, rfl⟩ := Nat.exists_eq_add_of_le' enough
      rw [← Nat.add_assoc, searchPages, searchPages]
      refine (refines_refl _).bind fun page => ?_
      cases found? page with
      | some value => exact refines_refl _
      | none =>
          cases next? page with
          | none => exact refines_refl _
          | some further => exact ih (Nat.le_add_left _ _) (some further)

end Refines

end Action

section Loops

variable {World Request α : Type} {loop : Nat → Action (Recorded World Request) α}

/-- A loop that never ends: every budget is used up, with as many requests. -/
def RunsOn (loop : Nat → Action (Recorded World Request) α) : Prop :=
  ∀ budget start, ((loop budget).runOn start).1 = .error .unfinished ∧
    start.2.length + budget ≤ ((loop budget).runOn start).2.2.length

/-- A loop that comes to an end, with the same result and the same requests under every budget that
is large enough. -/
def Returns (loop : Nat → Action (Recorded World Request) α) : Prop :=
  ∃ least, ∀ start, ((loop least).runOn start).1 ≠ .error .unfinished ∧
    ∀ budget, least ≤ budget → (loop budget).runOn start = (loop least).runOn start

/-- A loop that returns, except under a condition under which it runs on. -/
structure ReturnsUnless (condition : Prop) (loop : Nat → Action (Recorded World Request) α) :
    Prop where
  runsOn : condition → RunsOn loop
  returns : ¬ condition → Returns loop

/-- A loop that refines itself under larger budgets returns, unless every budget is used up. -/
theorem returnsUnless_of_refines {unfinished : Nat → Prop}
    (ends : ∀ budget start,
      ((loop budget).runOn start).1 = .error .unfinished ↔ unfinished budget)
    (spends : ∀ budget start, ((loop budget).runOn start).1 = .error .unfinished →
      start.2.length + budget ≤ ((loop budget).runOn start).2.2.length)
    (refines : ∀ {budget more}, budget ≤ more → (loop budget).Refines (loop more)) :
    ReturnsUnless (∀ budget, unfinished budget) loop := by
  constructor
  · intro condition budget start
    have endless := (ends budget start).mpr (condition budget)
    exact ⟨endless, spends budget start endless⟩
  · intro condition
    obtain ⟨least, finishes⟩ := not_forall.mp condition
    refine ⟨least, fun start => ?_⟩
    have finished := mt (ends least start).mp finishes
    exact ⟨finished, fun budget enough => (refines enough start).resolve_left finished⟩

/-- What stops a loop under a budget that settles it decides whether the loop returns. -/
theorem returnsUnless_of_stops (halt : Nat → Option Halt) {settling : Nat}
    (stops : ∀ budget, (loop budget).Stops budget (halt budget))
    (refines : ∀ {budget more}, budget ≤ more → (loop budget).Refines (loop more))
    (settled : ∀ budget, settling ≤ budget → halt budget = halt settling) :
    ReturnsUnless (halt settling = some .unfinished) loop := by
  have ends : ∀ budget start, ((loop budget).runOn start).1 = .error .unfinished ↔
      halt budget = some .unfinished := by
    intro budget start
    have ends := (stops budget).ends start
    rw [← ends]
    cases ((loop budget).runOn start).1 with
    | ok value => exact ⟨nofun, nofun⟩
    | error halt => simp [Action.haltOf]
  have returns := returnsUnless_of_refines ends (fun budget => (stops budget).spends) refines
  constructor
  · intro condition budget start
    -- The run under a larger budget is unfinished, so this one cannot have come to an end.
    have longer : ((loop (max budget settling)).runOn start).1 = .error .unfinished := by
      rw [ends, settled _ (Nat.le_max_right _ _), condition]
    have unfinished : ((loop budget).runOn start).1 = .error .unfinished := by
      rcases refines (Nat.le_max_left budget settling) start with unfinished | same
      · exact unfinished
      · rwa [← same]
    exact ⟨unfinished, (stops budget).spends start unfinished⟩
  · exact fun condition => returns.returns fun all => condition (all settling)

end Loops

end StoreGate
