import StoreGate.Poll
import StoreGate.Proofs.Actions
import StoreGate.Proofs.RecordedCalls
/-!
# How a wait for a task ends

A wait looks at its task again and again and pauses between two looks.  It ends with the first look
that does not find the task pending, with the last look that the policy allows, or when the caller
turns out to have given up: in front of the first look, during a look that finds the task pending
and is not the last one, or in the pause behind such a look.  Nothing else ends it.
-/

namespace StoreGate.Poll

variable {World α : Type}

theorem run_attempts (fetch : Action World α) (phase : α → TaskPhase) (isCancelled : World → Bool)
    (clock : Clock World) (policy : PollPolicy) (left : Nat) (last : Option α) (world : World) :
    (attempts fetch phase isCancelled clock policy left last).run world =
      if isCancelled world then (.error ⟨last, cancelled⟩, world)
      else match fetch.runOn world with
        | (.error halt, after) => (.error ⟨last, halt⟩, after)
        | (.ok task, after) =>
          match phase task, left with
          | .complete, _ => (.ok task, after)
          | .failed, _ => (.error ⟨some task, failedByService⟩, after)
          | .pending, 0 => (.error ⟨some task, exhausted policy.retries⟩, after)
          | .pending, left + 1 =>
            if isCancelled after then (.error ⟨some task, cancelled⟩, after)
            else (attempts fetch phase isCancelled clock policy left (some task)).run
              (clock.pause policy.interval after) := by
  have looked : ∀ next : Except Halt α → StateM World (Except (PollFailure α) α),
      (ExceptT.run fetch >>= next).run world =
        (next (fetch.runOn world).1).run (fetch.runOn world).2 := fun _ => rfl
  rw [attempts.eq_def, StateT.run_bind, StateT.run_get, pure_bind, apply_ite (StateT.run · world),
    looked]
  congr 1
  cases fetch.runOn world with
  | mk result after =>
      cases result with
      | error halt => rfl
      | ok task =>
          dsimp only
          cases phase task with
          | complete => rfl
          | failed => rfl
          | pending =>
              cases left with
              | zero => rfl
              | succ left =>
                  dsimp only
                  rw [StateT.run_bind, StateT.run_get, pure_bind, apply_ite (StateT.run · after)]
                  rfl

/-- A wait, and the world in which it begins. -/
structure Course (World α : Type) where
  fetch : Action World α
  phase : α → TaskPhase
  isCancelled : World → Bool
  clock : Clock World
  policy : PollPolicy
  start : World

namespace Course

/-- What the wait gives, and the world behind it. -/
def run (course : Course World α) : Except (PollFailure α) α × World :=
  (wait course.fetch course.phase course.isCancelled course.clock course.policy).run course.start

/-- The world in which a look begins, where every look before it is followed by a pause.  Looks are
counted from zero. -/
def before (course : Course World α) : (look : Nat) → World
  | 0 => course.start
  | look + 1 =>
    course.clock.pause course.policy.interval (course.fetch.runOn (before course look)).2

/-- The world behind a look. -/
def after (course : Course World α) (look : Nat) : World :=
  (course.fetch.runOn (course.before look)).2

/-- What a look gives. -/
def sees (course : Course World α) (look : Nat) : Except Halt α :=
  (course.fetch.runOn (course.before look)).1

/-- Whether each of the first looks finds the task pending. -/
def IsPendingFor (course : Course World α) (looks : Nat) : Prop :=
  ∀ look < looks, ∃ task, course.sees look = .ok task ∧ course.phase task = .pending

/-- Whether the caller has not given up by the time at which a look begins. -/
def IsActive (course : Course World α) : (look : Nat) → Prop
  | 0 => course.isCancelled course.start = false
  | look + 1 => IsActive course look ∧ course.isCancelled (course.after look) = false ∧
    course.isCancelled (course.before (look + 1)) = false

/-- The last task that the first looks have seen. -/
def lastSeen (course : Course World α) : (looks : Nat) → Option α
  | 0 => none
  | look + 1 =>
    match course.sees look with
    | .ok task => some task
    | .error _ => lastSeen course look

/-- Why a wait gives no complete task, after how many looks, and the world it leaves behind. -/
inductive Stops (course : Course World α) : (looks : Nat) → Halt → World → Prop
  /-- The caller has given up before the wait begins. -/
  | atOnce (gaveUp : course.isCancelled course.start = true) :
      Stops course 0 cancelled course.start
  /-- The caller gives up during a look that is not the last one. -/
  | duringLook {look : Nat} (allowed : look < course.policy.retries)
      (pending : course.IsPendingFor (look + 1)) (active : course.IsActive look)
      (gaveUp : course.isCancelled (course.after look) = true) :
      Stops course (look + 1) cancelled (course.after look)
  /-- The caller gives up in the pause behind a look. -/
  | inPause {look : Nat} (allowed : look < course.policy.retries)
      (pending : course.IsPendingFor (look + 1)) (active : course.IsActive look)
      (goesOn : course.isCancelled (course.after look) = false)
      (gaveUp : course.isCancelled (course.before (look + 1)) = true) :
      Stops course (look + 1) cancelled (course.before (look + 1))
  /-- A look fails. -/
  | fault {look : Nat} {halt : Halt} (allowed : look ≤ course.policy.retries)
      (pending : course.IsPendingFor look) (active : course.IsActive look)
      (seen : course.sees look = .error halt) : Stops course (look + 1) halt (course.after look)
  /-- The service has given the task up. -/
  | failed {look : Nat} {task : α} (allowed : look ≤ course.policy.retries)
      (pending : course.IsPendingFor look) (active : course.IsActive look)
      (seen : course.sees look = .ok task) (hasFailed : course.phase task = .failed) :
      Stops course (look + 1) failedByService (course.after look)
  /-- The task is pending for all looks, whatever the caller does during the last one. -/
  | exhausted (pending : course.IsPendingFor (course.policy.retries + 1))
      (active : course.IsActive course.policy.retries) :
      Stops course (course.policy.retries + 1) (exhausted course.policy.retries)
        (course.after course.policy.retries)

/-- How a wait ends. -/
inductive Ends (course : Course World α) :
    (looks : Nat) → Except (PollFailure α) α → World → Prop
  | completed {look : Nat} {task : α} (allowed : look ≤ course.policy.retries)
      (pending : course.IsPendingFor look) (active : course.IsActive look)
      (seen : course.sees look = .ok task) (isComplete : course.phase task = .complete) :
      Ends course (look + 1) (.ok task) (course.after look)
  | stopped {looks : Nat} {halt : Halt} {world : World} (stops : course.Stops looks halt world) :
      Ends course looks (.error ⟨course.lastSeen looks, halt⟩) world

section Looks

variable {course : Course World α} {look : Nat}

theorem runOn_before (course : Course World α) (look : Nat) :
    course.fetch.runOn (course.before look) = (course.sees look, course.after look) :=
  rfl

theorem lastSeen_of_ok {task : α} (seen : course.sees look = .ok task) :
    course.lastSeen (look + 1) = some task := by
  rw [lastSeen, seen]

theorem lastSeen_of_error {halt : Halt} (seen : course.sees look = .error halt) :
    course.lastSeen (look + 1) = course.lastSeen look := by
  rw [lastSeen, seen]

theorem lastSeen_eq_none_iff {looks : Nat} : course.lastSeen looks = none ↔
    ∀ look < looks, ∀ task, course.sees look ≠ .ok task := by
  induction looks with
  | zero => exact iff_of_true rfl fun _ impossible => absurd impossible (Nat.not_lt_zero _)
  | succ look ih =>
      rw [Nat.forall_lt_succ_right]
      cases seen : course.sees look with
      | ok task =>
          rw [lastSeen_of_ok seen]
          exact iff_of_false (Option.some_ne_none task) fun none => none.2 task rfl
      | error halt =>
          rw [lastSeen_of_error seen, ih]
          exact (and_iff_left fun _ => nofun).symm

theorem isPendingFor_succ {task : α} (pending : course.IsPendingFor look)
    (seen : course.sees look = .ok task) (isPending : course.phase task = .pending) :
    course.IsPendingFor (look + 1) := by
  intro earlier isEarlier
  rcases Nat.lt_succ_iff_lt_or_eq.mp isEarlier with before | rfl
  · exact pending earlier before
  · exact ⟨task, seen, isPending⟩

theorem IsPendingFor.mono {looks : Nat} (pending : course.IsPendingFor looks)
    (fewer : look ≤ looks) : course.IsPendingFor look :=
  fun earlier isEarlier => pending earlier (Nat.lt_of_lt_of_le isEarlier fewer)

theorem isCancelled_before_of_isActive (active : course.IsActive look) :
    course.isCancelled (course.before look) = false := by
  cases look with
  | zero => exact active
  | succ look => exact active.2.2

end Looks

section Runs

variable {course : Course World α} {look : Nat}

/-- What the rest of the wait gives from a look on. -/
def rest (course : Course World α) (look : Nat) : Except (PollFailure α) α × World :=
  (attempts course.fetch course.phase course.isCancelled course.clock course.policy
    (course.policy.retries - look) (course.lastSeen look)).run (course.before look)

theorem rest_of_isCancelled (gaveUp : course.isCancelled (course.before look) = true) :
    course.rest look = (.error ⟨course.lastSeen look, cancelled⟩, course.before look) := by
  rw [rest, run_attempts, if_pos gaveUp]

/-- What comes of a look, unless the caller has given up in front of it. -/
theorem rest_of_isActive (active : course.IsActive look) :
    course.rest look =
      match course.sees look with
      | .error halt => (.error ⟨course.lastSeen look, halt⟩, course.after look)
      | .ok task =>
        match course.phase task, course.policy.retries - look with
        | .complete, _ => (.ok task, course.after look)
        | .failed, _ => (.error ⟨some task, failedByService⟩, course.after look)
        | .pending, 0 => (.error ⟨some task, exhausted course.policy.retries⟩, course.after look)
        | .pending, left + 1 =>
          if course.isCancelled (course.after look) then
            (.error ⟨some task, cancelled⟩, course.after look)
          else (attempts course.fetch course.phase course.isCancelled course.clock course.policy
            left (some task)).run (course.before (look + 1)) := by
  have goesOn : ¬ course.isCancelled (course.before look) = true :=
    Bool.not_eq_true _ ▸ isCancelled_before_of_isActive active
  rw [rest, run_attempts, if_neg goesOn, runOn_before]
  cases course.sees look <;> rfl

theorem rest_of_pending {task : α} (active : course.IsActive look)
    (seen : course.sees look = .ok task) (isPending : course.phase task = .pending)
    (allowed : look < course.policy.retries) :
    course.rest look =
      if course.isCancelled (course.after look) then
        (.error ⟨course.lastSeen (look + 1), cancelled⟩, course.after look)
      else course.rest (look + 1) := by
  have left : course.policy.retries - look = course.policy.retries - (look + 1) + 1 := by omega
  rw [rest_of_isActive active, seen]
  simp only [isPending, left]
  rw [rest, lastSeen_of_ok seen]

/-- The wait comes to every look in front of which nothing ends it. -/
theorem run_eq_rest (pending : course.IsPendingFor look) (active : course.IsActive look)
    (allowed : look ≤ course.policy.retries) : course.run = course.rest look := by
  induction look with
  | zero => rfl
  | succ look ih =>
      obtain ⟨task, seen, isPending⟩ := pending look (Nat.lt_succ_self look)
      have goesOn : ¬ course.isCancelled (course.after look) = true :=
        Bool.not_eq_true _ ▸ active.2.1
      rw [ih (pending.mono (Nat.le_succ look)) active.1 (Nat.le_of_succ_le allowed),
        rest_of_pending active.1 seen isPending allowed, if_neg goesOn]

theorem run_of_stops {looks : Nat} {halt : Halt} {world : World}
    (stops : course.Stops looks halt world) :
    course.run = (.error ⟨course.lastSeen looks, halt⟩, world) := by
  cases stops with
  | atOnce gaveUp =>
      have inFront : course.isCancelled (course.before 0) = true := gaveUp
      exact rest_of_isCancelled inFront
  | @duringLook look allowed pending active gaveUp =>
      obtain ⟨task, seen, isPending⟩ := pending look (Nat.lt_succ_self look)
      rw [run_eq_rest (pending.mono (Nat.le_succ look)) active (Nat.le_of_lt allowed),
        rest_of_pending active seen isPending allowed, if_pos gaveUp]
  | @inPause look allowed pending active goesOn gaveUp =>
      obtain ⟨task, seen, isPending⟩ := pending look (Nat.lt_succ_self look)
      rw [run_eq_rest (pending.mono (Nat.le_succ look)) active (Nat.le_of_lt allowed),
        rest_of_pending active seen isPending allowed, goesOn, if_neg Bool.false_ne_true,
        rest_of_isCancelled gaveUp]
  | @fault look halt allowed pending active seen =>
      rw [run_eq_rest pending active allowed, rest_of_isActive active, seen,
        lastSeen_of_error seen]
  | @failed look task allowed pending active seen hasFailed =>
      rw [run_eq_rest pending active allowed, rest_of_isActive active, seen, lastSeen_of_ok seen]
      simp only [hasFailed]
  | exhausted pending active =>
      obtain ⟨task, seen, isPending⟩ := pending _ (Nat.lt_succ_self _)
      rw [run_eq_rest (pending.mono (Nat.le_succ _)) active (Nat.le_refl _),
        rest_of_isActive active, seen, lastSeen_of_ok seen]
      simp only [isPending, Nat.sub_self]

theorem run_of_ends {looks : Nat} {result : Except (PollFailure α) α} {world : World}
    (ends : course.Ends looks result world) : course.run = (result, world) := by
  cases ends with
  | stopped stops => exact run_of_stops stops
  | @completed look task allowed pending active seen isComplete =>
      rw [run_eq_rest pending active allowed, rest_of_isActive active, seen]
      simp only [isComplete]

/-- A look ends the wait, or another one is allowed, to which the wait comes. -/
theorem ends_or_goes_on (pending : course.IsPendingFor look) (active : course.IsActive look)
    (allowed : look ≤ course.policy.retries) :
    (∃ looks result world, course.Ends looks result world) ∨
      look < course.policy.retries ∧ course.IsPendingFor (look + 1) ∧
        course.IsActive (look + 1) := by
  cases seen : course.sees look with
  | error halt => exact .inl ⟨_, _, _, .stopped (.fault allowed pending active seen)⟩
  | ok task =>
      cases state : course.phase task with
      | complete => exact .inl ⟨_, _, _, .completed allowed pending active seen state⟩
      | failed => exact .inl ⟨_, _, _, .stopped (.failed allowed pending active seen state)⟩
      | pending =>
          have longer := isPendingFor_succ pending seen state
          rcases Nat.lt_or_eq_of_le allowed with another | isLast
          · cases during : course.isCancelled (course.after look) with
            | true => exact .inl ⟨_, _, _, .stopped (.duringLook another longer active during)⟩
            | false =>
                cases paused : course.isCancelled (course.before (look + 1)) with
                | true =>
                    exact .inl ⟨_, _, _, .stopped (.inPause another longer active during paused)⟩
                | false => exact .inr ⟨another, longer, active, during, paused⟩
          · subst isLast
            exact .inl ⟨_, _, _, .stopped (.exhausted longer active)⟩

theorem exists_ends (course : Course World α) :
    ∃ looks result world, course.Ends looks result world := by
  cases gaveUp : course.isCancelled course.start with
  | true => exact ⟨_, _, _, .stopped (.atOnce gaveUp)⟩
  | false =>
      -- With every look that does not end the wait, one retry less is left.
      have comesToEnd : ∀ left look, look + left = course.policy.retries →
          course.IsPendingFor look → course.IsActive look →
          ∃ looks result world, course.Ends looks result world := by
        intro left
        induction left with
        | zero =>
            intro look used pending active
            obtain ended | ⟨another, _⟩ := ends_or_goes_on pending active (Nat.le_of_eq used)
            · exact ended
            · omega
        | succ left ih =>
            intro look used pending active
            obtain ended | ⟨_, longer, further⟩ := ends_or_goes_on pending active (by omega)
            · exact ended
            · exact ih (look + 1) (by omega) longer further
      have none : course.IsPendingFor 0 := fun _ impossible => absurd impossible (Nat.not_lt_zero _)
      exact comesToEnd course.policy.retries 0 (Nat.zero_add _) none gaveUp

end Runs

/-- The same wait with its looks counted. -/
def counted (course : Course World α) : Course (World × Nat) α where
  fetch := course.fetch.counted
  phase := course.phase
  isCancelled := fun world => course.isCancelled world.1
  clock := course.clock.beside Nat
  policy := course.policy
  start := (course.start, 0)

section Counting

variable {course : Course World α}

theorem counted_before (course : Course World α) (look : Nat) :
    course.counted.before look = (course.before look, look) := by
  induction look with
  | zero => rfl
  | succ look ih =>
      rw [before, ih]
      rfl

theorem counted_after (course : Course World α) (look : Nat) :
    course.counted.after look = (course.after look, look + 1) := by
  rw [after, counted_before]
  rfl

theorem counted_sees (course : Course World α) (look : Nat) :
    course.counted.sees look = course.sees look := by
  rw [sees, counted_before]
  rfl

theorem counted_lastSeen (course : Course World α) (looks : Nat) :
    course.counted.lastSeen looks = course.lastSeen looks := by
  induction looks with
  | zero => rfl
  | succ look ih => rw [lastSeen, counted_sees, ih, lastSeen]

theorem IsPendingFor.counted {looks : Nat} (pending : course.IsPendingFor looks) :
    course.counted.IsPendingFor looks := by
  intro look isEarlier
  rw [counted_sees]
  exact pending look isEarlier

theorem IsActive.counted {look : Nat} (active : course.IsActive look) :
    course.counted.IsActive look := by
  induction look with
  | zero => exact active
  | succ look ih =>
      rw [IsActive, counted_after, counted_before]
      exact ⟨ih active.1, active.2⟩

theorem Stops.counted {looks : Nat} {halt : Halt} {world : World}
    (stops : course.Stops looks halt world) :
    course.counted.Stops looks halt (world, looks) := by
  cases stops with
  | atOnce gaveUp => exact .atOnce gaveUp
  | duringLook allowed pending active gaveUp =>
      rw [← counted_after]
      refine .duringLook allowed pending.counted active.counted ?_
      rwa [counted_after]
  | inPause allowed pending active goesOn gaveUp =>
      rw [← counted_before]
      refine .inPause allowed pending.counted active.counted ?_ ?_
      · rwa [counted_after]
      · rwa [counted_before]
  | fault allowed pending active seen =>
      rw [← counted_after]
      exact .fault allowed pending.counted active.counted ((counted_sees _ _).trans seen)
  | failed allowed pending active seen hasFailed =>
      rw [← counted_after]
      exact .failed allowed pending.counted active.counted ((counted_sees _ _).trans seen) hasFailed
  | exhausted pending active =>
      rw [← counted_after]
      exact .exhausted pending.counted active.counted

theorem Ends.counted {looks : Nat} {result : Except (PollFailure α) α} {world : World}
    (ends : course.Ends looks result world) : course.counted.Ends looks result (world, looks) := by
  cases ends with
  | completed allowed pending active seen isComplete =>
      rw [← counted_after]
      exact .completed allowed pending.counted active.counted ((counted_sees _ _).trans seen)
        isComplete
  | stopped stops =>
      rw [← counted_lastSeen]
      exact .stopped stops.counted

theorem Ends.looks_le {looks : Nat} {result : Except (PollFailure α) α} {world : World}
    (ends : course.Ends looks result world) : looks ≤ course.policy.retries + 1 := by
  cases ends with
  | completed allowed => omega
  | stopped stops => cases stops <;> omega

end Counting

end Course

/-- A wait looks at its task at most once more than it may retry.  It gives a task exactly if one of
these looks sees it complete, all looks before that one find it pending, and the caller has not
given up by the time at which that look begins.  Otherwise it stops for the reason that comes first, and
hands back the task that was seen last, or none if no look has seen any. -/
theorem wait_ends_at_first_cause (course : Course World α) :
    ∃ result final looks, course.counted.run = (result, final, looks) ∧
      looks ≤ course.policy.retries + 1 ∧
      (∀ task, result = .ok task ↔ ∃ look, look ≤ course.policy.retries ∧
        course.IsPendingFor look ∧ course.IsActive look ∧ course.sees look = .ok task ∧
        course.phase task = .complete) ∧
      (∀ failure, result = .error failure ↔
        course.Stops looks failure.halt final ∧ failure.last = course.lastSeen looks) ∧
      (course.lastSeen looks = none ↔ ∀ look < looks, ∀ task, course.sees look ≠ .ok task) := by
  obtain ⟨looks, result, final, ends⟩ := course.exists_ends
  have gives : course.counted.run = (result, final, looks) := Course.run_of_ends ends.counted
  refine ⟨result, final, looks, gives, ends.looks_le, fun task => ?_, fun failure => ?_,
    Course.lastSeen_eq_none_iff⟩
  · constructor
    · rintro rfl
      cases ends with
      | completed allowed pending active seen isComplete =>
          exact ⟨_, allowed, pending, active, seen, isComplete⟩
    · rintro ⟨look, allowed, pending, active, seen, isComplete⟩
      have completed := Course.Ends.completed allowed pending active seen isComplete
      have same := gives.symm.trans (Course.run_of_ends completed.counted)
      exact congrArg Prod.fst same
  · constructor
    · rintro rfl
      cases ends with
      | stopped stops => exact ⟨stops, rfl⟩
    · obtain ⟨last, halt⟩ := failure
      rintro ⟨stops, rfl⟩
      have same := gives.symm.trans (Course.run_of_ends (Course.Ends.stopped stops).counted)
      exact congrArg Prod.fst same

section LateCancellation

/-- A task that stays pending, looked at by a caller that gives up during the second look.  The
world is the number of looks. -/
def lateCourse : Course Nat String where
  fetch := do
    modify (· + 1)
    return "task"
  phase := fun _ => .pending
  isCancelled := fun looks => 2 ≤ looks
  clock := ⟨fun _ => 0, fun _ => Timestamp.epoch, fun _ looks => looks⟩
  policy := ⟨1, Duration.ofSeconds 5⟩
  start := 0

/-- A caller that gives up during the last look learns that the task is still pending. -/
theorem wait_ends_at_first_cause_late : lateCourse.isCancelled (lateCourse.after 1) = true ∧
    lateCourse.IsActive 1 ∧ ∃ looks final,
      lateCourse.counted.run = (.error ⟨some "task", exhausted 1⟩, final, looks) ∧ looks ≤ 2 := by
  have pending : lateCourse.IsPendingFor 2 := fun _ _ => ⟨"task", rfl, rfl⟩
  have active : lateCourse.IsActive 1 := ⟨rfl, rfl, rfl⟩
  have ends : lateCourse.Ends 2 (.error ⟨some "task", exhausted 1⟩) 2 :=
    .stopped (.exhausted pending active)
  obtain ⟨result, final, looks, gives, few, _⟩ := wait_ends_at_first_cause lateCourse
  obtain rfl : result = .error ⟨some "task", exhausted 1⟩ :=
    congrArg Prod.fst (gives.symm.trans (Course.run_of_ends ends.counted))
  exact ⟨rfl, active, looks, final, gives, few⟩

end LateCancellation

end StoreGate.Poll
