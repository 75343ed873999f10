import StoreGate.Caller
/-!
# What actions give and what they keep

An action goes on from the world that the action before it has left.  Some actions give the same
result whenever they are performed, as long as the world stays of some kind; such results are put
together like the actions themselves.  What every part of an action keeps of a world, the action
keeps, even if it stops halfway.  An action whose parts track the parts of another one tracks the
other one, also where the worlds of the two differ.
-/

namespace StoreGate

namespace Action

variable {World α β : Type}

theorem runOn_bind (action : Action World α) (next : α → Action World β) (world : World) :
    (action >>= next).runOn world =
      match action.runOn world with
      | (.ok value, world) => (next value).runOn world
      | (.error halt, world) => (.error halt, world) := by
  simp only [runOn, ExceptT.run, StateT.run, bind, ExceptT.bind, ExceptT.mk, StateT.bind]
  cases (action : StateM World (Except Halt α)) world with
  | mk result world => cases result <;> rfl

theorem resultOf_map (outcome : Outcome α) (change : α → β) :
    resultOf (outcome.map change) = resultOf outcome >>= fun value => .ok (change value) := by
  cases outcome <;> rfl

/-- An action in two parts gives a value exactly if both parts do, one after the other. -/
theorem runOn_bind_eq_ok_iff {action : Action World α} {next : α → Action World β}
    {world after : World} {value : β} :
    (action >>= next).runOn world = (.ok value, after) ↔
      ∃ given between, action.runOn world = (.ok given, between) ∧
        (next given).runOn between = (.ok value, after) := by
  rw [runOn_bind]
  constructor
  · intro gave
    cases first : action.runOn world with
    | mk result between =>
        rw [first] at gave
        cases result with
        | ok given => exact ⟨given, between, rfl, gave⟩
        | error halt => cases gave
  · rintro ⟨given, between, first, second⟩
    rw [first]
    exact second

theorem runOn_ofOutcome (outcome : Outcome α) (world : World) :
    (ofOutcome outcome).runOn world = (resultOf outcome, world) := by
  cases outcome <;> rfl

theorem runOn_check (caller : Caller World) (words : String) (world : World) :
    (caller.check words).runOn world =
      (if caller.isCancelled world then .error (.failure (.cancelled words)) else .ok (),
        world) := by
  have unfolded : (caller.check words).runOn world =
      (if caller.isCancelled world then fail (.cancelled words) else pure () :
        Action World Unit).runOn world := rfl
  rw [unfolded]
  split <;> rfl

/-- Whether an action gives a result in every world of one kind and leaves a world of another
kind. -/
def Leads (before after : World → Prop) (action : Action World α) (result : Except Halt α) : Prop :=
  ∀ world, before world → (action.runOn world).1 = result ∧ after (action.runOn world).2

section Leads

variable {before between after : World → Prop}

theorem leads_pure (value : α) : (pure value : Action World α).Leads before before (.ok value) :=
  fun _ holds => ⟨rfl, holds⟩

theorem leads_fail (failure : Failure) :
    (fail failure : Action World α).Leads before before (.error (.failure failure)) :=
  fun _ holds => ⟨rfl, holds⟩

theorem Leads.bind_ok {action : Action World α} {next : α → Action World β} {value : α}
    {result : Except Halt β} (first : action.Leads before between (.ok value))
    (second : (next value).Leads between after result) :
    (action >>= next).Leads before after result := by
  intro world holds
  obtain ⟨given, reached⟩ := first world holds
  rw [runOn_bind]
  cases found : action.runOn world with
  | mk outcome middle =>
      rw [found] at given reached
      cases given
      exact second middle reached

theorem Leads.bind_error {action : Action World α} {next : α → Action World β} {halt : Halt}
    (first : action.Leads before after (.error halt)) :
    (action >>= next).Leads before after (.error halt) := by
  intro world holds
  obtain ⟨given, reached⟩ := first world holds
  rw [runOn_bind]
  cases found : action.runOn world with
  | mk outcome middle =>
      rw [found] at given reached
      cases given
      exact ⟨rfl, reached⟩

theorem Leads.map {action : Action World α} {result : Except Halt α}
    (leads : action.Leads before after result) (change : α → β) :
    (action >>= fun value => pure (change value)).Leads before after (result.map change) := by
  cases result with
  | ok value => exact leads.bind_ok (leads_pure (change value))
  | error halt => exact leads.bind_error

/-- A check that never stops an action leaves what it leads to as it is. -/
theorem Leads.check_bind {caller : Caller World} {words : String} {action : Action World α}
    {result : Except Halt α} (active : ∀ world, before world → caller.isCancelled world = false)
    (leads : action.Leads before after result) :
    (caller.check words >>= fun _ => action).Leads before after result := by
  intro world holds
  rw [runOn_bind, runOn_check, active world holds]
  exact leads world holds

end Leads

/-- Whether an action gives a result in every steady world and leaves the world steady. -/
def Gives (steady : World → Prop) (action : Action World α) (result : Except Halt α) : Prop :=
  action.Leads steady steady result

section Gives

variable {steady : World → Prop}

theorem gives_ofOutcome (outcome : Outcome α) :
    (ofOutcome outcome : Action World α).Gives steady (resultOf outcome) :=
  fun world isSteady => by rw [runOn_ofOutcome]; exact ⟨rfl, isSteady⟩

theorem Gives.bind {action : Action World α} {next : α → Action World β}
    {result : Except Halt α} {rest : α → Except Halt β} (first : action.Gives steady result)
    (second : ∀ value, (next value).Gives steady (rest value)) :
    (action >>= next).Gives steady (result >>= rest) := by
  cases result with
  | ok value => exact first.bind_ok (second value)
  | error halt => exact first.bind_error

end Gives

/-- Whether an action leaves a world as it should be, whatever its result is. -/
def Keeps (kept : World → Prop) (action : Action World α) : Prop :=
  ∀ world, kept world → kept (action.runOn world).2

section Keeps

variable {kept : World → Prop}

theorem keeps_pure (value : α) : (pure value : Action World α).Keeps kept :=
  fun _ holds => holds

theorem keeps_throw (halt : Halt) : (throw halt : Action World α).Keeps kept :=
  fun _ holds => holds

theorem keeps_ofOutcome (outcome : Outcome α) : (ofOutcome outcome : Action World α).Keeps kept :=
  fun world holds => by rw [runOn_ofOutcome]; exact holds

theorem keeps_check (caller : Caller World) (words : String) : (caller.check words).Keeps kept :=
  fun world holds => by rw [runOn_check]; exact holds

/-- What the first part of an action brings about stays, if the other part keeps it. -/
theorem runOn_bind_keeps {action : Action World α} {next : α → Action World β} {world : World}
    (reached : kept (action.runOn world).2) (second : ∀ value, (next value).Keeps kept) :
    kept ((action >>= next).runOn world).2 := by
  rw [runOn_bind]
  cases found : action.runOn world with
  | mk result after =>
      rw [found] at reached
      cases result with
      | ok value => exact second value after reached
      | error halt => exact reached

theorem Keeps.bind {action : Action World α} {next : α → Action World β}
    (first : action.Keeps kept) (second : ∀ value, (next value).Keeps kept) :
    (action >>= next).Keeps kept :=
  fun world holds => runOn_bind_keeps (first world holds) second

theorem keeps_collect {visit : β → Action World (List α)} {members : List β}
    (visited : ∀ member ∈ members, (visit member).Keeps kept) :
    (collect visit members).Keeps kept := by
  induction members with
  | nil => exact keeps_pure []
  | cons first rest ih =>
      refine (visited first List.mem_cons_self).bind fun found => ?_
      refine (ih fun member isMember => visited member (List.mem_cons_of_mem _ isMember)).bind ?_
      exact fun others => keeps_pure (found ++ others)

theorem keeps_overPages {Page : Type} {fetch : Option String → Action World Page}
    {next? : Page → Option String} {visit : Page → Action World (List α)}
    (fetched : ∀ token, (fetch token).Keeps kept) (visited : ∀ page, (visit page).Keeps kept)
    (budget : Nat) (token : Option String) :
    (overPages fetch next? visit budget token).Keeps kept := by
  induction budget generalizing token with
  | zero => exact keeps_throw .unfinished
  | succ budget ih =>
      refine (fetched token).bind fun page => (visited page).bind fun found => ?_
      cases next? page with
      | none => exact keeps_pure found
      | some token => exact (ih (some token)).bind fun others => keeps_pure (found ++ others)

end Keeps

/-- Whether an action, from a world that belongs to the world of another action, gives a result only
if the other one gives one too, from which it can be worked out, and leaves worlds that belong
together again. -/
def Tracks {First Second : Type} (before after : First → Second → Prop) (turn : β → α)
    (action : Action First α) (other : Action Second β) : Prop :=
  ∀ ⦃world outer⦄, before world outer → ∀ ⦃value left⦄, action.runOn world = (.ok value, left) →
    ∃ found right, other.runOn outer = (.ok found, right) ∧ after left right ∧ value = turn found

section Tracks

variable {First Second γ δ : Type} {before between after : First → Second → Prop}

theorem tracks_throw (turn : β → α) (halt : Halt) (other : Action Second β) :
    (throw halt : Action First α).Tracks before after turn other := by
  intro _ _ _ _ _ gave
  cases gave

theorem tracks_pure {turn : β → α} {value : α} {found : β} (same : value = turn found) :
    (pure value : Action First α).Tracks before before turn (pure found : Action Second β) := by
  intro _ outer related _ _ gave
  cases gave
  exact ⟨found, outer, rfl, related, same⟩

theorem tracks_check {caller : Caller First} {other : Caller Second} {words : String}
    (sees : ∀ world outer, before world outer →
      caller.isCancelled world = other.isCancelled outer) :
    (caller.check words).Tracks before before id (other.check words) := by
  intro world outer related value left gave
  rw [runOn_check, sees world outer related] at gave
  refine ⟨value, outer, ?_, ?_, rfl⟩
  · rw [runOn_check, (Prod.mk.inj gave).1]
  · rwa [← (Prod.mk.inj gave).2]

theorem Tracks.bind {turn : β → α} {change : δ → γ} {action : Action First α}
    {other : Action Second β} {next : α → Action First γ} {otherNext : β → Action Second δ}
    (first : action.Tracks before between turn other)
    (second : ∀ found, (next (turn found)).Tracks between after change (otherNext found)) :
    (action >>= next).Tracks before after change (other >>= otherNext) := by
  intro world outer related value left gave
  obtain ⟨given, middle, gaveFirst, gaveSecond⟩ := runOn_bind_eq_ok_iff.mp gave
  obtain ⟨found, outerMiddle, foundFirst, relatedMiddle, rfl⟩ := first related gaveFirst
  obtain ⟨result, right, foundSecond, relatedAfter, same⟩ := second found relatedMiddle gaveSecond
  exact ⟨result, right, runOn_bind_eq_ok_iff.mpr ⟨found, outerMiddle, foundFirst, foundSecond⟩,
    relatedAfter, same⟩

theorem tracks_collect {Member Other : Type} {turn : β → α} {label : Other → Member}
    {visit : Member → Action First (List α)} {otherVisit : Other → Action Second (List β)}
    {members : List Other} (visited : ∀ member ∈ members,
      (visit (label member)).Tracks before before (List.map turn) (otherVisit member)) :
    (collect visit (members.map label)).Tracks before before (List.map turn)
      (collect otherVisit members) := by
  induction members with
  | nil => exact tracks_pure rfl
  | cons first rest ih =>
      refine (visited first List.mem_cons_self).bind fun found => ?_
      refine (ih fun member isMember => visited member (List.mem_cons_of_mem _ isMember)).bind ?_
      exact fun others => tracks_pure List.map_append.symm

theorem tracks_overPages {Page Other : Type} {turn : β → α} {shown : Other → Page}
    {fetch : Option String → Action First Page} {otherFetch : Option String → Action Second Other}
    {next? : Page → Option String} {visit : Page → Action First (List α)}
    {otherVisit : Other → Action Second (List β)}
    (fetched : ∀ token, (fetch token).Tracks before before shown (otherFetch token))
    (visited : ∀ page,
      (visit (shown page)).Tracks before before (List.map turn) (otherVisit page))
    (budget : Nat) (token : Option String) :
    (overPages fetch next? visit budget token).Tracks before before (List.map turn)
      (overPages otherFetch (fun page => next? (shown page)) otherVisit budget token) := by
  induction budget generalizing token with
  | zero => exact tracks_throw _ .unfinished _
  | succ budget ih =>
      refine (fetched token).bind fun page => (visited page).bind fun found => ?_
      dsimp only
      cases next? (shown page) with
      | none => exact tracks_pure rfl
      | some token => exact (ih (some token)).bind fun others => tracks_pure List.map_append.symm

end Tracks

end Action

namespace Session

variable {World α β : Type}

theorem runOn_outside (action : Action World α) (session : Session World) :
    (outside action).runOn session =
      ((action.runOn session.world).1, { session with world := (action.runOn session.world).2 }) :=
  rfl

theorem outside_bind (action : Action World α) (next : α → Action World β) :
    outside (action >>= next) = outside action >>= fun value => outside (next value) := by
  funext session
  have whole := Action.runOn_bind action next session.world
  have parts := Action.runOn_bind (outside action) (fun value => outside (next value)) session
  change (outside (action >>= next)).runOn session = _
  rw [runOn_outside, whole]
  refine Eq.trans ?_ parts.symm
  rw [runOn_outside]
  cases action.runOn session.world with
  | mk result world => cases result <;> rfl

/-- Whether the world of a session is as it should be. -/
def Holds (kept : World → Prop) (session : Session World) : Prop :=
  kept session.world

theorem keeps_outside {kept : World → Prop} {action : Action World α} (keeps : action.Keeps kept) :
    (outside action).Keeps (Holds kept) :=
  fun session holds => keeps session.world holds

end Session

end StoreGate
