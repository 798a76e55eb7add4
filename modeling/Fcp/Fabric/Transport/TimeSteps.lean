import Fcp.Fabric.Transport.Runs
import Fcp.Fabric.Transport.Schedules

/-!
# Accepted time steps

A request reads a factor, checks a code and records the time step in separate
operations.  The check may know an old last step, but the record is only made
for a step after all recorded ones.
-/

namespace Fcp
namespace Fabric

/-- The time step of an acceptance. -/
def Acceptance.step : Acceptance → Int
  | activated step => step
  | consumed step => step

namespace Transport

open Rust
open Reactive
open Service

variable {environment : Environment}
variable {state : FabricHttpState}
variable {requests : Nat → Request}
variable {log before after : Log}
variable {pool : Nat → Action Response}
variable {store : Store}
variable {factor : Uuid}

/-- The acceptances on a factor, in the order of their recording. -/
def acceptances (factor : Uuid) (log : Log) : List Acceptance :=
  (log.filterMap storeEvent).filterMap (Store.successful (acceptedOn factor))

/-- A recorded time step was checked before by the request that records it. -/
theorem checked_of_recorded
    {caller : Nat}
    {call : Call}
    {result : call.Result}
    {acceptance : Acceptance}
    (serves : Serves environment state requests
      (before ++ ⟨(caller, .store call), .ok result⟩ :: after) pool store)
    (recorded : acceptedOn factor call result = some acceptance) :
    ∃ attempt : TotpAttempt, attempt.binding.factorId = factor ∧
      ⟨(caller, .verifyTotp attempt), .ok acceptance.step⟩ ∈ before := by
  obtain ⟨-, justified⟩ := serves.guarantee
  unfold acceptedOn at recorded
  split at recorded
  case h_1 | h_2 =>
    split at recorded
    case isTrue same =>
      cases recorded
      obtain ⟨attempt, checked, binding⟩ := justified
      exact ⟨attempt, by rw [binding, ← same], mem_own_iff.mp checked⟩
    case isFalse => cases recorded
  case h_3 => cases recorded

/-- The check of a code gives the step that the environment computes. -/
theorem verified_of_checked
    {caller : Nat}
    {attempt : TotpAttempt}
    {step : Int}
    (serves : Serves environment state requests log pool store)
    (checked : ⟨(caller, .verifyTotp attempt), .ok step⟩ ∈ log) :
    environment.verifyTotp attempt = .ok step := by
  obtain ⟨before, after, rfl⟩ := List.append_of_mem checked
  obtain ⟨_, _, -, moved, -⟩ := serves.exists_of_cons
  cases moved with
  | answered waits taken =>
      cases taken with
      | elsewhere answers => exact answers.symm

/-- On every factor the recorded time steps strictly increase from the one of
its activation on, however requests overlap.  Each was checked by the request
that recorded it; with the codes of the service it is then the current or the
previous step of that request's own clock. -/
theorem time_steps_accepted_once
    (serves : Serves environment state requests log pool store)
    (factor : Uuid) :
    (acceptances factor log = [] ∨ ∃ first rest,
      acceptances factor log = .activated first :: rest.map .consumed ∧
      (first :: rest).Pairwise (· < ·)) ∧
    ∀ before caller call result after acceptance,
      log = before ++ ⟨(caller, .store call), .ok result⟩ :: after →
      acceptedOn factor call result = some acceptance →
        ∃ attempt : TotpAttempt, attempt.binding.factorId = factor ∧
          ⟨(caller, .verifyTotp attempt), .ok acceptance.step⟩ ∈ before ∧
          environment.verifyTotp attempt = .ok acceptance.step ∧
          (environment.verifyTotp = verifyTotp environment.primitives →
            acceptance.step = attempt.now.unixTimestamp.tdiv 30 ∨
              acceptance.step = attempt.now.unixTimestamp.tdiv 30 - 1) := by
  constructor
  · have accepts : Fabric.Accepts store.mfaTotpFactors factor
        (acceptances factor log) :=
      Store.accepts_of_trace factor (trace_of_run serves)
    generalize acceptances factor log = accepted at accepts ⊢
    cases accepts with
    | pending all_pending => exact .inl rfl
    | active row_mem row_id row_active row_last increasing bounded =>
        exact .inr ⟨_, _, rfl, increasing⟩
  · rintro before caller call result after acceptance rfl recorded
    obtain ⟨attempt, bound, checked⟩ := checked_of_recorded serves recorded
    have verified := verified_of_checked serves
      (List.mem_append_left _ checked)
    refine ⟨attempt, bound, checked, verified, fun actual => ?_⟩
    rw [actual] at verified
    exact (verifyTotp_eq_ok verified).1

/-- An enrollment, a step-up and a login with the codes of three steps. -/
theorem time_steps_accepted_once_sample :
    ∃ log pool store,
      Serves sampleEnvironment sampleState sampleRequests log pool store ∧
      acceptances (sampleBytes 16 112) log =
        [.activated 1, .consumed 2, .consumed 3] ∧
      ∃ first rest, acceptances (sampleBytes 16 112) log =
          .activated first :: rest.map .consumed ∧
        (first :: rest).Pairwise (· < ·) := by
  refine ⟨_, _, _, serves_sampleRun, sampleRun_facts.2.1, ?_⟩
  rcases (time_steps_accepted_once serves_sampleRun
    (sampleBytes 16 112)).1 with none_accepted | some_accepted
  · exact absurd (none_accepted.symm.trans sampleRun_facts.2.1) nofun
  · exact some_accepted

end Transport
end Fabric
end Fcp
