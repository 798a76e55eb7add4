import Fcp.Rust.Fallible

/-!
# Methods on a mutable receiver

A method that takes `&mut self` and may return early keeps the changes it has
made to its receiver.  Its outcome is the returned value or error together with
the receiver it leaves behind.
-/

namespace Fcp
namespace Rust

/-- A fallible method whose receiver survives an early return. -/
abbrev Method (σ ε α : Type) : Type :=
  ExceptT ε (StateM σ) α

namespace Method

variable {σ ε α β : Type}

/-- The result of a method and the receiver it leaves behind. -/
def call (method : Method σ ε α) (receiver : σ) : Except ε α × σ :=
  method.run.run receiver

@[simp] theorem call_pure (value : α) (receiver : σ) :
    (pure value : Method σ ε α).call receiver = (.ok value, receiver) := rfl

@[simp] theorem call_get_bind (next : σ → Method σ ε α) (receiver : σ) :
    (get >>= next : Method σ ε α).call receiver =
      (next receiver).call receiver := rfl

@[simp] theorem call_modify_bind
    (change : σ → σ)
    (next : PUnit → Method σ ε α)
    (receiver : σ) :
    (modify change >>= next : Method σ ε α).call receiver =
      (next ⟨⟩).call (change receiver) := rfl

@[simp] theorem call_modify (change : σ → σ) (receiver : σ) :
    (modify change : Method σ ε PUnit).call receiver =
      (.ok ⟨⟩, change receiver) := rfl

/-- A step that does not touch the receiver. -/
theorem call_lift_bind
    (step : Except ε α)
    (next : α → Method σ ε β)
    (receiver : σ) :
    (liftM step >>= next : Method σ ε β).call receiver =
      match step with
      | .ok value => (next value).call receiver
      | .error error => (.error error, receiver) := by
  cases step <;> rfl

theorem call_lift_bind_eq_ok_iff
    {step : Except ε α}
    {next : α → Method σ ε β}
    {receiver later : σ}
    {result : β} :
    (liftM step >>= next : Method σ ε β).call receiver = (.ok result, later) ↔
      ∃ value, step = .ok value ∧
        (next value).call receiver = (.ok result, later) := by
  rw [call_lift_bind]
  cases step <;> simp

theorem call_lift_bind_eq_error_iff
    {step : Except ε α}
    {next : α → Method σ ε β}
    {receiver later : σ}
    {error : ε} :
    (liftM step >>= next : Method σ ε β).call receiver = (.error error, later) ↔
      (step = .error error ∧ receiver = later) ∨
        ∃ value, step = .ok value ∧
          (next value).call receiver = (.error error, later) := by
  rw [call_lift_bind]
  cases step <;> simp

/-- The next step runs on the receiver the first one leaves behind. -/
theorem call_bind
    (method : Method σ ε α)
    (next : α → Method σ ε β)
    (receiver : σ) :
    (method >>= next).call receiver =
      match method.call receiver with
      | (.ok value, middle) => (next value).call middle
      | (.error error, middle) => (.error error, middle) := by
  have unfolded : (method >>= next).call receiver =
      (ExceptT.bindCont next (method.call receiver).1).run
        (method.call receiver).2 := rfl
  rw [unfolded]
  cases method.call receiver with
  | mk result middle => cases result <;> rfl

theorem call_bind_eq_ok_iff
    {method : Method σ ε α}
    {next : α → Method σ ε β}
    {receiver later : σ}
    {result : β} :
    (method >>= next).call receiver = (.ok result, later) ↔
      ∃ value middle, method.call receiver = (.ok value, middle) ∧
        (next value).call middle = (.ok result, later) := by
  rw [call_bind]
  cases method.call receiver with
  | mk outcome middle => cases outcome <;> simp

theorem call_bind_eq_error_iff
    {method : Method σ ε α}
    {next : α → Method σ ε β}
    {receiver later : σ}
    {error : ε} :
    (method >>= next).call receiver = (.error error, later) ↔
      method.call receiver = (.error error, later) ∨
        ∃ value middle, method.call receiver = (.ok value, middle) ∧
          (next value).call middle = (.error error, later) := by
  rw [call_bind]
  cases method.call receiver with
  | mk outcome middle => cases outcome <;> simp

theorem call_map_eq_ok_iff
    {function : α → β}
    {method : Method σ ε α}
    {receiver later : σ}
    {result : β} :
    (function <$> method).call receiver = (.ok result, later) ↔
      ∃ value, method.call receiver = (.ok value, later) ∧
        function value = result := by
  rw [map_eq_pure_bind, call_bind_eq_ok_iff]
  constructor
  · rintro ⟨value, middle, called, returned⟩
    rw [call_pure, Prod.mk.injEq, Except.ok.injEq] at returned
    obtain ⟨rfl, rfl⟩ := returned
    exact ⟨value, called, rfl⟩
  · rintro ⟨value, called, rfl⟩
    exact ⟨value, later, called, call_pure _ _⟩

/-- Call a method on one part of the receiver. -/
def focus
    {τ : Type}
    (part : σ → τ)
    (replace : σ → τ → σ)
    (method : Method τ ε α) : Method σ ε α := do
  let receiver ← get
  let (result, later) := method.call (part receiver)
  modify fun receiver => replace receiver later
  liftM result

theorem call_focus
    {τ : Type}
    (part : σ → τ)
    (replace : σ → τ → σ)
    (method : Method τ ε α)
    (receiver : σ) :
    (focus part replace method).call receiver =
      ((method.call (part receiver)).1,
        replace receiver (method.call (part receiver)).2) := by
  unfold focus
  rw [call_get_bind, call_modify_bind]
  cases (method.call (part receiver)).1 <;> rfl

/-! ## Failure atomicity -/

/-- A failing call leaves this receiver as it was. -/
def AtomicAt (receiver : σ) (method : Method σ ε α) : Prop :=
  ∀ error later, method.call receiver = (.error error, later) →
    later = receiver

theorem AtomicAt.of_ok
    {method : Method σ ε α}
    {receiver later : σ}
    {result : α}
    (succeeds : method.call receiver = (.ok result, later)) :
    AtomicAt receiver method := by
  intro error other failed
  rw [succeeds] at failed
  simp at failed

theorem AtomicAt.get_bind
    {next : σ → Method σ ε α}
    {receiver : σ}
    (atomic : AtomicAt receiver (next receiver)) :
    AtomicAt receiver (get >>= next) :=
  atomic

theorem AtomicAt.lift_bind
    {step : Except ε α}
    {next : α → Method σ ε β}
    {receiver : σ}
    (atomic : ∀ value, AtomicAt receiver (next value)) :
    AtomicAt receiver (liftM step >>= next) := by
  intro error later failed
  rcases call_lift_bind_eq_error_iff.mp failed with
    ⟨-, unchanged⟩ | ⟨value, -, nextFailed⟩
  · exact unchanged.symm
  · exact atomic value error later nextFailed

theorem AtomicAt.bind_of_ok
    {method : Method σ ε α}
    {next : α → Method σ ε β}
    {receiver : σ}
    (atomic : AtomicAt receiver method)
    (total : ∀ value middle, ∃ result later,
      (next value).call middle = (.ok result, later)) :
    AtomicAt receiver (method >>= next) := by
  intro error later failed
  rw [call_bind] at failed
  split at failed
  case h_1 value middle called =>
    obtain ⟨result, other, succeeds⟩ := total value middle
    rw [succeeds] at failed
    simp at failed
  case h_2 stopped middle called =>
    simp only [Prod.mk.injEq] at failed
    rw [← failed.2]
    exact atomic stopped middle called

theorem AtomicAt.map
    {method : Method σ ε α}
    {receiver : σ}
    (atomic : AtomicAt receiver method)
    (function : α → β) :
    AtomicAt receiver (function <$> method) := by
  rw [map_eq_pure_bind]
  exact atomic.bind_of_ok fun value middle => ⟨_, _, call_pure _ _⟩

end Method

end Rust
end Fcp
