import OrderDesk.Failure

/-! Outcomes that may fail, taken apart step by step. -/

namespace OrderDesk

namespace Outcome

variable {ε α β : Type}

theorem bind_eq_ok {outcome : Except ε α} {next : α → Except ε β} {result : β} :
    (outcome >>= next) = .ok result ↔ ∃ value, outcome = .ok value ∧ next value = .ok result := by
  cases outcome with
  | error cause => exact ⟨nofun, nofun⟩
  | ok value =>
    constructor
    · intro rest
      exact ⟨value, rfl, rest⟩
    · rintro ⟨_, ⟨⟩, rest⟩
      exact rest

theorem check_bind_eq_ok {check : Except ε Unit} {rest : Except ε β} {result : β} :
    (check >>= fun _ => rest) = .ok result ↔ check = .ok () ∧ rest = .ok result :=
  bind_eq_ok.trans ⟨fun ⟨(), passed, ends⟩ => ⟨passed, ends⟩,
    fun ⟨passed, ends⟩ => ⟨(), passed, ends⟩⟩

theorem bind_eq_error {outcome : Except ε α} {next : α → Except ε β} {cause : ε} :
    (outcome >>= next) = .error cause ↔
      outcome = .error cause ∨ ∃ value, outcome = .ok value ∧ next value = .error cause := by
  cases outcome with
  | error other =>
    constructor
    · rintro ⟨⟩
      exact .inl rfl
    · rintro (⟨⟨⟩⟩ | ⟨_, ⟨⟩, _⟩)
      rfl
  | ok value =>
    constructor
    · intro failed
      exact .inr ⟨value, rfl, failed⟩
    · rintro (⟨⟨⟩⟩ | ⟨_, ⟨⟩, failed⟩)
      exact failed

theorem check_bind_eq_error {check : Except ε Unit} {rest : Except ε β} {cause : ε} :
    (check >>= fun _ => rest) = .error cause ↔
      check = .error cause ∨ check = .ok () ∧ rest = .error cause :=
  bind_eq_error.trans (or_congr_right ⟨fun ⟨(), passed, failed⟩ => ⟨passed, failed⟩,
    fun ⟨passed, failed⟩ => ⟨(), passed, failed⟩⟩)

theorem bind_congr {outcome : Except ε α} {first second : α → Except ε β}
    (agree : ∀ value, outcome = .ok value → first value = second value) :
    (outcome >>= first) = (outcome >>= second) := by
  cases outcome with
  | error cause => rfl
  | ok value => exact agree value rfl

theorem ok_bind {value : α} {next : α → Except ε β} : (.ok value >>= next) = next value :=
  rfl

theorem throw_bind {cause : ε} {next : α → Except ε β} : (throw cause >>= next) = throw cause :=
  rfl

theorem throw_ite_eq_ok {condition : Prop} [Decidable condition] {cause : ε}
    {next : α → Except ε β} {rest : Except ε β} {result : β} :
    (if condition then (throw cause >>= next) else rest) = .ok result ↔
      ¬condition ∧ rest = .ok result := by
  split
  · next holds => exact ⟨nofun, fun passed => absurd holds passed.1⟩
  · next passed => exact (and_iff_right passed).symm

theorem mapError_eq_ok {ε' : Type} {label : ε → ε'} {outcome : Except ε α} {value : α} :
    outcome.mapError label = .ok value ↔ outcome = .ok value := by
  cases outcome with
  | error cause => exact ⟨nofun, nofun⟩
  | ok present =>
    change Except.ok present = .ok value ↔ _
    rw [Except.ok.injEq, Except.ok.injEq]

end Outcome

namespace Failure

variable {α : Type} {value : α}

theorem breaking_ok : breaking (.ok value) = .ok value :=
  rfl

theorem refusing_eq_ok {outcome : Except Refusal α} :
    refusing outcome = .ok value ↔ outcome = .ok value :=
  Outcome.mapError_eq_ok

theorem breaking_eq_ok {outcome : Except Fault α} :
    breaking outcome = .ok value ↔ outcome = .ok value :=
  Outcome.mapError_eq_ok

theorem breaking_eq_broken {outcome : Except Fault α} {fault : Fault} :
    breaking outcome = .error (.broken fault) ↔ outcome = .error fault := by
  cases outcome with
  | error cause =>
    change Except.error (broken cause) = .error (broken fault) ↔ _
    rw [Except.error.injEq, Except.error.injEq, broken.injEq]
  | ok present => exact ⟨nofun, nofun⟩

end Failure

end OrderDesk
