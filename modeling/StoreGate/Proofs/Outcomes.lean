import StoreGate.Proxy.Token
/-!
# When outcomes succeed

A sequence of steps that may fail succeeds exactly when each of them does, and renaming a failure
changes no success.
-/

namespace StoreGate

variable {ε ε' α β : Type}

theorem bind_eq_ok_iff {first : Except ε α} {next : α → Except ε β} {result : β} :
    (first >>= next) = .ok result ↔ ∃ value, first = .ok value ∧ next value = .ok result := by
  cases first <;> simp [bind, Except.bind]

theorem bind_eq_error_iff {first : Except ε α} {next : α → Except ε β} {fault : ε} :
    (first >>= next) = .error fault ↔
      first = .error fault ∨ ∃ value, first = .ok value ∧ next value = .error fault := by
  cases first <;> simp [bind, Except.bind]

theorem mapError_ok {rename : ε → ε'} {value : α} :
    (Except.ok value).mapError rename = .ok value :=
  rfl

theorem mapError_eq_ok_iff {outcome : Except ε α} {rename : ε → ε'} {value : α} :
    outcome.mapError rename = .ok value ↔ outcome = .ok value := by
  cases outcome with
  | ok result => rw [mapError_ok, Except.ok.injEq, Except.ok.injEq]
  | error fault => exact iff_of_false nofun nofun

theorem toOption_eq_some_iff {outcome : Except ε α} {value : α} :
    outcome.toOption = some value ↔ outcome = .ok value := by
  cases outcome <;> simp [Except.toOption]

theorem throw_else_eq_ok_iff {failed : Prop} [Decidable failed] {fault : ε} {outcome : Except ε α}
    {result : α} :
    (if failed then throw fault else outcome) = .ok result ↔ ¬ failed ∧ outcome = .ok result := by
  by_cases holds : failed <;> simp [holds, throw, throwThe, MonadExceptOf.throw]

/-- What stands behind a check is never reached when the check fails. -/
theorem throw_bind_else_eq_ok_iff {failed : Prop} [Decidable failed] {fault : ε}
    {next : β → Except ε α} {outcome : Except ε α} {result : α} :
    (if failed then throw fault >>= next else outcome) = .ok result ↔
      ¬ failed ∧ outcome = .ok result :=
  throw_else_eq_ok_iff

theorem ProxyToken.orFail_eq_ok_iff {failure : Failure} {found : Option α} {value : α} :
    orFail failure found = .ok value ↔ found = some value := by
  cases found <;> simp [orFail]

end StoreGate
