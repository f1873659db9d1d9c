/-!
# Results that may be errors
-/

namespace PortTunnel

variable {ε α β : Type}

theorem map_eq_ok_iff {result : Except ε α} {change : α → β} {value : β} :
    result.map change = .ok value ↔ ∃ before, result = .ok before ∧ change before = value := by
  cases result <;> simp [Except.map]

theorem map_eq_error_iff {result : Except ε α} {change : α → β} {failure : ε} :
    result.map change = .error failure ↔ result = .error failure := by
  cases result <;> simp [Except.map]

theorem mapError_eq_error_iff {ε' : Type} {result : Except ε α} {change : ε → ε'}
    {failure : ε'} :
    result.mapError change = .error failure ↔
      ∃ cause, result = .error cause ∧ change cause = failure := by
  cases result with
  | ok value => exact ⟨fun same => (nomatch same), fun ⟨_, same, _⟩ => (nomatch same)⟩
  | error cause =>
      change Except.error (change cause) = _ ↔ _
      simp

theorem mapError_bind {ε' : Type} {result : Except ε α} {next : α → Except ε β}
    {change : ε → ε'} :
    (result >>= next).mapError change =
      result.mapError change >>= fun value => (next value).mapError change := by
  cases result <;> rfl

theorem bind_eq_ok_iff {result : Except ε α} {next : α → Except ε β} {value : β} :
    result >>= next = .ok value ↔ ∃ before, result = .ok before ∧ next before = .ok value := by
  cases result <;> simp [bind, Except.bind]

theorem bind_eq_error_iff {result : Except ε α} {next : α → Except ε β} {failure : ε} :
    result >>= next = .error failure ↔
      result = .error failure ∨ ∃ before, result = .ok before ∧ next before = .error failure := by
  cases result <;> simp [bind, Except.bind]

end PortTunnel
