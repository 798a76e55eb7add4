import Mathlib.Data.List.Induction
import Mathlib.Data.List.Pairwise

/-!
# Traces of a shared state

Calls change a shared state one at a time, and each is answered by a reply whose
type depends on the call.  A trace keeps the calls with their replies, oldest
first.
-/

namespace Fcp
namespace Reactive

variable {σ κ : Type} {Reply : κ → Type}

/-- A call and its reply. -/
structure Event (κ : Type) (Reply : κ → Type) where
  call : κ
  reply : Reply call

/-- The calls between two states with their replies. -/
inductive Trace
    (step : σ → (call : κ) → Reply call → σ → Prop)
    (initial : σ) : List (Event κ Reply) → σ → Prop
  | start : Trace step initial [] initial
  | next
      {events : List (Event κ Reply)}
      {state later : σ}
      {call : κ}
      {reply : Reply call}
      (trace : Trace step initial events state)
      (taken : step state call reply later) :
      Trace step initial (events ++ [⟨call, reply⟩]) later

/-- A trace whose steps all meet a condition on the events so far and the state
before the step. -/
inductive Guarded
    (step : σ → (call : κ) → Reply call → σ → Prop)
    (condition : List (Event κ Reply) → σ → κ → Prop)
    (initial : σ) : List (Event κ Reply) → σ → Prop
  | start : Guarded step condition initial [] initial
  | next
      {events : List (Event κ Reply)}
      {state later : σ}
      {call : κ}
      {reply : Reply call}
      (guarded : Guarded step condition initial events state)
      (meets : condition events state call)
      (taken : step state call reply later) :
      Guarded step condition initial (events ++ [⟨call, reply⟩]) later

theorem Guarded.trace
    {step : σ → (call : κ) → Reply call → σ → Prop}
    {condition : List (Event κ Reply) → σ → κ → Prop}
    {initial state : σ}
    {events : List (Event κ Reply)}
    (guarded : Guarded step condition initial events state) :
    Trace step initial events state := by
  induction guarded with
  | start => exact .start
  | next _ _ taken inductionHypothesis => exact inductionHypothesis.next taken

/-- A guarded trace that ends with an event meets the condition there. -/
theorem Guarded.exists_of_concat
    {step : σ → (call : κ) → Reply call → σ → Prop}
    {condition : List (Event κ Reply) → σ → κ → Prop}
    {initial later : σ}
    {events : List (Event κ Reply)}
    {event : Event κ Reply}
    (guarded : Guarded step condition initial (events ++ [event]) later) :
    ∃ state, Guarded step condition initial events state ∧
      condition events state event.call ∧
      step state event.call event.reply later := by
  generalize events_eq : events ++ [event] = all at guarded
  cases guarded with
  | start => simp at events_eq
  | next guarded meets taken =>
      obtain ⟨rfl, rfl⟩ := List.append_singleton_inj.mp events_eq
      exact ⟨_, guarded, meets, taken⟩

/-- A guarded trace meets the condition before each of its events. -/
theorem Guarded.exists_of_cons
    {step : σ → (call : κ) → Reply call → σ → Prop}
    {condition : List (Event κ Reply) → σ → κ → Prop}
    {initial later : σ}
    {before after : List (Event κ Reply)}
    {event : Event κ Reply}
    (guarded : Guarded step condition initial (before ++ event :: after)
      later) :
    ∃ state next, Guarded step condition initial before state ∧
      condition before state event.call ∧
      step state event.call event.reply next ∧ Trace step next after later := by
  induction after using List.reverseRecOn generalizing later with
  | nil =>
      obtain ⟨state, first, meets, taken⟩ := guarded.exists_of_concat
      exact ⟨state, later, first, meets, taken, .start⟩
  | append_singleton after last inductionHypothesis =>
      rw [← List.cons_append, ← List.append_assoc] at guarded
      obtain ⟨_, guarded, -, last_taken⟩ := guarded.exists_of_concat
      obtain ⟨state, next, first, meets, taken, rest⟩ :=
        inductionHypothesis guarded
      exact ⟨state, next, first, meets, taken, rest.next last_taken⟩

theorem filterMap_concat
    {α β : Type}
    (stands : α → Option β)
    (members : List α)
    (last : α) :
    (members ++ [last]).filterMap stands =
      members.filterMap stands ++ (stands last).toList := by
  rw [List.filterMap_append, List.filterMap_cons]
  cases stands last <;> rfl

theorem count_flatMap_append
    {β γ : Type}
    [BEq γ]
    (value : γ)
    (first second : β → List γ)
    (members : List β) :
    (members.flatMap fun member => first member ++ second member).count value =
      (members.flatMap first).count value +
        (members.flatMap second).count value := by
  induction members with
  | nil => rfl
  | cons member rest inductionHypothesis =>
      simp only [List.flatMap_cons, List.count_append, inductionHypothesis]
      omega

/-- Members of a list that stand for the same value are the same if no value
occurs twice. -/
theorem eq_of_nodup_filterMap
    {α β : Type}
    {stands : α → Option β}
    {members : List α}
    {first second : α}
    {value : β}
    (nodup : (members.filterMap stands).Nodup)
    (first_mem : first ∈ members)
    (second_mem : second ∈ members)
    (first_stands : stands first = some value)
    (second_stands : stands second = some value) :
    first = second := by
  have apart := List.pairwise_filterMap.mp nodup
  have : Std.Symm fun left right =>
      ∀ one ∈ stands left, ∀ other ∈ stands right, one ≠ other :=
    ⟨fun _ _ distinct other is_other one is_one same =>
      distinct one is_one other is_other same.symm⟩
  by_contra different
  exact apart.forall first_mem second_mem different value first_stands value
    second_stands rfl

/-- Related values can be chosen for all members of a list, and what sets two
members apart sets their values apart. -/
theorem exists_forall₂_pairwise
    {α β : Type}
    {Related : α → β → Prop}
    {Apart : α → α → Prop}
    {ApartValues : β → β → Prop}
    {members : List α}
    (related : ∀ member ∈ members, ∃ value, Related member value)
    (apart : members.Pairwise Apart)
    (transfers : ∀ {first second : α} {one other : β}, Related first one →
      Related second other → Apart first second → ApartValues one other) :
    ∃ values, List.Forall₂ Related members values ∧
      values.Pairwise ApartValues := by
  suffices chosen : ∃ values, List.Forall₂ Related members values ∧
      values.Pairwise ApartValues ∧
      ∀ value ∈ values, ∃ member ∈ members, Related member value by
    obtain ⟨values, all_related, pairwise, -⟩ := chosen
    exact ⟨values, all_related, pairwise⟩
  induction members with
  | nil => exact ⟨[], .nil, .nil, fun _ mem => absurd mem List.not_mem_nil⟩
  | cons first rest inductionHypothesis =>
      obtain ⟨first_apart, rest_apart⟩ := List.pairwise_cons.mp apart
      obtain ⟨values, all_related, pairwise, stem⟩ := inductionHypothesis
        (fun member mem => related member (List.mem_cons_of_mem first mem))
        rest_apart
      obtain ⟨one, one_related⟩ := related first List.mem_cons_self
      refine ⟨one :: values, .cons one_related all_related,
        List.pairwise_cons.mpr ⟨fun other other_mem => ?_, pairwise⟩,
        fun value value_mem => ?_⟩
      · obtain ⟨second, second_mem, second_related⟩ := stem other other_mem
        exact transfers one_related second_related
          (first_apart second second_mem)
      · rcases List.mem_cons.mp value_mem with rfl | value_mem
        · exact ⟨first, List.mem_cons_self, one_related⟩
        · obtain ⟨member, member_mem, member_related⟩ := stem value value_mem
          exact ⟨member, List.mem_cons_of_mem first member_mem, member_related⟩

namespace Trace

variable {step : σ → (call : κ) → Reply call → σ → Prop}
variable {initial state later : σ}
variable {events before after : List (Event κ Reply)}

/-- What every step preserves holds at the end of a trace. -/
theorem invariant
    {Invariant : σ → Prop}
    (preserved : ∀ {state later : σ} {call : κ} {reply : Reply call},
      Invariant state → step state call reply later → Invariant later)
    (trace : Trace step initial events state)
    (holds : Invariant initial) :
    Invariant state := by
  induction trace with
  | start => exact holds
  | next _ taken inductionHypothesis =>
      exact preserved inductionHypothesis taken

theorem append
    (first : Trace step initial before state)
    (second : Trace step state after later) :
    Trace step initial (before ++ after) later := by
  induction second with
  | start =>
      rw [List.append_nil]
      exact first
  | next _ taken inductionHypothesis =>
      rw [← List.append_assoc]
      exact inductionHypothesis.next taken

theorem single
    {call : κ}
    {reply : Reply call}
    (taken : step state call reply later) :
    Trace step state [⟨call, reply⟩] later :=
  start.next taken

theorem eq_of_nil (trace : Trace step initial [] state) : state = initial := by
  generalize events_eq : [] = events at trace
  cases trace with
  | start => rfl
  | next => simp at events_eq

/-- A trace that ends with an event ends with its step. -/
theorem exists_of_concat
    {event : Event κ Reply}
    (trace : Trace step initial (events ++ [event]) later) :
    ∃ state, Trace step initial events state ∧
      step state event.call event.reply later := by
  generalize events_eq : events ++ [event] = all at trace
  cases trace with
  | start => simp at events_eq
  | next trace taken =>
      obtain ⟨rfl, rfl⟩ := List.append_singleton_inj.mp events_eq
      exact ⟨_, trace, taken⟩

/-- A trace of a concatenation passes through a state between the parts. -/
theorem exists_of_append
    (trace : Trace step initial (before ++ after) later) :
    ∃ state, Trace step initial before state ∧
      Trace step state after later := by
  induction after using List.reverseRecOn generalizing later with
  | nil =>
      rw [List.append_nil] at trace
      exact ⟨later, trace, start⟩
  | append_singleton after event inductionHypothesis =>
      rw [← List.append_assoc] at trace
      obtain ⟨_, trace, taken⟩ := trace.exists_of_concat
      obtain ⟨state, first, second⟩ := inductionHypothesis trace
      exact ⟨state, first, second.next taken⟩

/-- A trace passes through a state before and one after each of its events. -/
theorem exists_of_cons
    {event : Event κ Reply}
    (trace : Trace step initial (before ++ event :: after) later) :
    ∃ state next, Trace step initial before state ∧
      step state event.call event.reply next ∧ Trace step next after later := by
  rw [List.append_cons] at trace
  obtain ⟨next, first, second⟩ := trace.exists_of_append
  obtain ⟨state, first, taken⟩ := first.exists_of_concat
  exact ⟨state, next, first, taken, second⟩

/-- A trace of one system is a trace of another that takes the steps of some of
its events and sees nothing of the others. -/
theorem filterMap
    {σ' κ' : Type}
    {Reply' : κ' → Type}
    {step' : σ' → (call : κ') → Reply' call → σ' → Prop}
    {project : σ → σ'}
    {visible : Event κ Reply → Option (Event κ' Reply')}
    (taken : ∀ {state later : σ} {event : Event κ Reply}
        {seen : Event κ' Reply'},
      step state event.call event.reply later → visible event = some seen →
      step' (project state) seen.call seen.reply (project later))
    (hidden : ∀ {state later : σ} {event : Event κ Reply},
      step state event.call event.reply later → visible event = none →
      project later = project state)
    (trace : Trace step initial events state) :
    Trace step' (project initial) (events.filterMap visible)
      (project state) := by
  induction trace with
  | start => exact start
  | @next events state later call reply _ moved inductionHypothesis =>
      rw [List.filterMap_append]
      cases visible_eq : visible ⟨call, reply⟩ with
      | none =>
          rw [hidden moved visible_eq, List.filterMap_cons_none visible_eq,
            List.filterMap_nil, List.append_nil]
          exact inductionHypothesis
      | some seen =>
          rw [List.filterMap_cons_some visible_eq, List.filterMap_nil]
          exact inductionHypothesis.next (taken moved visible_eq)

/-- What settled values forbid of later ones holds along a whole trace. -/
theorem pairwise_of_settles
    {ι : Type}
    {settles : Event κ Reply → Option ι}
    {Before : ι → ι → Prop}
    (Settled : σ → ι → Prop)
    (kept : ∀ {state later : σ} {call : κ} {reply : Reply call} {value : ι},
      step state call reply later → Settled state value → Settled later value)
    (settled : ∀ {state later : σ} {event : Event κ Reply} {value : ι},
      step state event.call event.reply later → settles event = some value →
      Settled later value)
    (before : ∀ {state later : σ} {event : Event κ Reply} {earlier value : ι},
      step state event.call event.reply later → settles event = some value →
      Settled state earlier → Before earlier value)
    (trace : Trace step initial events state) :
    (events.filterMap settles).Pairwise Before ∧
      ∀ value ∈ events.filterMap settles, Settled state value := by
  induction trace with
  | start => exact ⟨List.Pairwise.nil, fun _ mem => absurd mem List.not_mem_nil⟩
  | @next events state later call reply _ moved inductionHypothesis =>
      obtain ⟨pairwise, all_settled⟩ := inductionHypothesis
      rw [List.filterMap_append]
      cases settles_eq : settles ⟨call, reply⟩ with
      | none =>
          rw [List.filterMap_cons_none settles_eq, List.filterMap_nil,
            List.append_nil]
          exact ⟨pairwise, fun value mem => kept moved (all_settled value mem)⟩
      | some value =>
          rw [List.filterMap_cons_some settles_eq, List.filterMap_nil]
          refine ⟨List.pairwise_append.mpr ⟨pairwise, List.pairwise_singleton _ _,
            fun earlier mem _ last => ?_⟩, fun other mem => ?_⟩
          · rw [List.mem_singleton.mp last]
            exact before moved settles_eq (all_settled earlier mem)
          · rcases List.mem_append.mp mem with mem | mem
            · exact kept moved (all_settled other mem)
            · rw [List.mem_singleton.mp mem]
              exact settled moved settles_eq

end Trace

end Reactive
end Fcp
