import Fcp.Core.ConnectionSession

/-!
# The replay window

A connection remembers the ids of the envelopes it accepted most recently.
Receiving one of them again is answered with no action.  Once an id has left
the window only the kinds that may repeat can be acted upon again.
-/

namespace Fcp
namespace Core

open Reactive

namespace Connection

variable {primitives : Primitives}
variable {connection : Connection}

/-- Receiving an envelope returns at least one action. -/
def ActsOn
    (primitives : Primitives)
    (connection : Connection)
    (envelope : Envelope) : Prop :=
  ∃ actions, actions ≠ [] ∧
    ((Operation.receive envelope).perform primitives connection).1 = .ok actions

/-- The envelopes accepted after the last acceptance of an envelope's id. -/
structure AcceptedSince
    (primitives : Primitives)
    (history : List (Operation × Outcome))
    (envelope : Envelope)
    (later : List Envelope) : Prop where
  split : ∃ earlier, accepted history = earlier ++ envelope :: later
  last : ∀ other ∈ later, other.digest primitives ≠ envelope.digest primitives

/-! ## What a run leaves behind -/

/-- The facts about the accepted envelopes that every operation preserves. -/
structure Remembers
    (primitives : Primitives)
    (connection : Connection)
    (history : List (Operation × Outcome)) : Prop where
  seen_eq : connection.seen = recent maxSeenEnvelopes
    ((accepted history).map (Envelope.digest primitives))
  seen_nodup : connection.seen.Nodup
  admitted : ∀ envelope ∈ accepted history,
    connection.Admits primitives envelope
  spent : ∀ envelope ∈ accepted history,
    envelope.kind.progress ≤ connection.phase.rank

theorem Remembers.of_accepted_eq
    {later : Connection}
    {history next : List (Operation × Outcome)}
    (remembers : connection.Remembers primitives history)
    (accepted_eq : accepted next = accepted history)
    (seen_eq : later.seen = connection.seen)
    (pins_eq : later.pins = connection.pins)
    (rank_le : connection.phase.rank ≤ later.phase.rank) :
    later.Remembers primitives next where
  seen_eq := by rw [seen_eq, accepted_eq, remembers.seen_eq]
  seen_nodup := seen_eq ▸ remembers.seen_nodup
  admitted := by
    intro envelope member
    rw [accepted_eq] at member
    exact (remembers.admitted envelope member).of_pins_eq pins_eq
  spent := by
    intro envelope member
    rw [accepted_eq] at member
    exact Nat.le_trans (remembers.spent envelope member) rank_le

theorem Remembers.receive
    {later : Connection}
    {history : List (Operation × Outcome)}
    {envelope : Envelope}
    {action : Action}
    (remembers : connection.Remembers primitives history)
    (admitted : connection.Admits primitives envelope)
    (fresh : envelope.digest primitives ∉ connection.seen)
    (reacts : Reacts (envelope.digest primitives) envelope.sender connection
      envelope.body action later) :
    (later.remember (envelope.digest primitives)).Remembers primitives
      (history ++ [(.receive envelope, .ok [action])]) := by
  have accepted_eq : accepted (history ++ [(.receive envelope, .ok [action])]) =
      accepted history ++ [envelope] :=
    accepted_concat _ _
  have pins_eq : (later.remember (envelope.digest primitives)).pins =
      connection.pins := reacts.pins_eq
  refine ⟨?_, ?_, ?_, ?_⟩
  · rw [accepted_eq, List.map_append, List.map_singleton,
      ← slide_recent (by decide), ← remembers.seen_eq, ← reacts.seen_eq]
    rfl
  · have distinct := remembers.seen_nodup
    rw [← reacts.seen_eq] at distinct fresh
    exact nodup_slide distinct fresh
  · intro other member
    rw [accepted_eq, List.mem_append, List.mem_singleton] at member
    rcases member with member | rfl
    · exact (remembers.admitted other member).of_pins_eq pins_eq
    · exact admitted.of_pins_eq pins_eq
  · intro other member
    rw [accepted_eq, List.mem_append, List.mem_singleton] at member
    rcases member with member | rfl
    · exact Nat.le_trans (remembers.spent other member) reacts.rank_le
    · exact reacts.progress.1

theorem Remembers.transition
    {later : Connection}
    {history : List (Operation × Outcome)}
    {operation : Operation}
    {actions : List Action}
    (remembers : connection.Remembers primitives history)
    (transition : Transition primitives connection operation actions later) :
    later.Remembers primitives (history ++ [(operation, .ok actions)]) := by
  have pins_eq := transition.pins_eq
  have rank_le := transition.rank_le
  cases transition with
  | receive admitted fresh reacts =>
      exact remembers.receive admitted fresh reacts
  | _ =>
      refine remembers.of_accepted_eq ?_ rfl pins_eq rank_le
      rw [accepted_concat]
      exact List.append_nil _

/-- The window, the pinned tuple and the progress along every run. -/
theorem session_remembers
    (primitives : Primitives)
    (unused : connection.seen = [])
    (operations : List Operation) :
    (connection.session primitives operations).state.Remembers primitives
      (connection.session primitives operations).history := by
  refine session_invariant ?_ Remembers.transition ?_ operations
  · intro connection history remembers operation error
    refine remembers.of_accepted_eq ?_ rfl rfl (Nat.le_refl _)
    rw [accepted_concat, accepted?_error]
    exact List.append_nil _
  · refine ⟨?_, ?_, ?_, ?_⟩ <;> simp [unused, recent]

/-! ## Receiving again -/

theorem actsOn_iff {envelope : Envelope} :
    connection.ActsOn primitives envelope ↔
      connection.Admits primitives envelope ∧
        envelope.digest primitives ∉ connection.seen ∧
        ∃ action later, Reacts (envelope.digest primitives) envelope.sender
          connection envelope.body action later := by
  constructor
  · rintro ⟨actions, nonempty, returned⟩
    obtain ⟨later, performed⟩ : ∃ later,
        (Operation.receive envelope).perform primitives connection =
          (.ok actions, later) := ⟨_, Prod.ext returned rfl⟩
    cases perform_eq_ok_iff.mp performed with
    | duplicate admitted known => exact absurd rfl nonempty
    | receive admitted fresh reacts =>
        exact ⟨admitted, fresh, _, _, reacts⟩
  · rintro ⟨admitted, fresh, action, later, reacts⟩
    have performed := perform_eq_ok_iff.mpr
      (Transition.receive admitted fresh reacts)
    exact ⟨[action], List.cons_ne_nil _ _, congrArg Prod.fst performed⟩

/-- An admitted envelope is answered with no action and no change exactly when
its id is in the window. -/
theorem perform_receive_eq_nil_iff
    {envelope : Envelope}
    (admitted : connection.Admits primitives envelope) :
    (Operation.receive envelope).perform primitives connection =
        (.ok [], connection) ↔
      envelope.digest primitives ∈ connection.seen := by
  rw [perform_eq_ok_iff]
  constructor
  · intro transition
    generalize actions_eq : ([] : List Action) = actions at transition
    generalize later_eq : connection = later at transition
    cases transition with
    | duplicate _ known => exact known
    | receive _ fresh reacts => simp at actions_eq
  · exact .duplicate admitted

theorem AcceptedSince.mem
    {history : List (Operation × Outcome)}
    {envelope : Envelope}
    {later : List Envelope}
    (since : AcceptedSince primitives history envelope later) :
    envelope ∈ accepted history := by
  obtain ⟨earlier, split⟩ := since.split
  rw [split]
  exact List.mem_append_right _ List.mem_cons_self

theorem Remembers.mem_seen_iff
    {history : List (Operation × Outcome)}
    {envelope : Envelope}
    {later : List Envelope}
    (remembers : connection.Remembers primitives history)
    (since : AcceptedSince primitives history envelope later) :
    envelope.digest primitives ∈ connection.seen ↔
      later.length < maxSeenEnvelopes := by
  obtain ⟨earlier, split⟩ := since.split
  have last : envelope.digest primitives ∉
      later.map (Envelope.digest primitives) := by
    intro member
    obtain ⟨other, otherMember, same⟩ := List.mem_map.mp member
    exact since.last other otherMember same
  rw [remembers.seen_eq, split, List.map_append, List.map_cons,
    mem_recent_iff last, List.length_map]

theorem Remembers.not_mem_seen
    {history : List (Operation × Outcome)}
    {envelope : Envelope}
    {later : List Envelope}
    (remembers : connection.Remembers primitives history)
    (since : AcceptedSince primitives history envelope later)
    (beyond : 1024 ≤ later.length) :
    envelope.digest primitives ∉ connection.seen := by
  rw [remembers.mem_seen_iff since]
  exact Nat.not_lt.mpr beyond

/-- After one envelope of a one-time kind no other of that kind is acted upon. -/
theorem Remembers.not_actsOn
    {history : List (Operation × Outcome)}
    {first envelope : Envelope}
    (remembers : connection.Remembers primitives history)
    (member : first ∈ accepted history)
    (oneTime : first.kind.progress ≠ 0)
    (kind_eq : envelope.kind = first.kind) :
    ¬connection.ActsOn primitives envelope := by
  rw [actsOn_iff]
  rintro ⟨-, -, action, later, reacts⟩
  have spent := remembers.spent first member
  have required := reacts.progress.2
  change envelope.kind.progress = 0 ∨ _ < envelope.kind.progress at required
  rw [kind_eq] at required
  rcases required with none | less
  · exact oneTime none
  · exact absurd spent (Nat.not_le.mpr less)

theorem actsOn_candidate_iff
    {envelope : Envelope}
    {parentId : EnvelopeId}
    {sequence : UInt32}
    {fragment : List UInt8}
    (admitted : connection.Admits primitives envelope)
    (evicted : envelope.digest primitives ∉ connection.seen)
    (body_eq : envelope.body = .candidate parentId sequence fragment) :
    connection.ActsOn primitives envelope ↔
      connection.AllowsParent parentId := by
  rw [actsOn_iff, body_eq]
  constructor
  · rintro ⟨-, -, action, later, reacts⟩
    cases reacts with
    | candidate allowed => exact allowed
  · intro allowed
    exact ⟨admitted, evicted, _, _, .candidate allowed⟩

theorem actsOn_cfrControl_iff
    {envelope : Envelope}
    {payload : List UInt8}
    (admitted : connection.Admits primitives envelope)
    (evicted : envelope.digest primitives ∉ connection.seen)
    (body_eq : envelope.body = .cfrControl payload) :
    connection.ActsOn primitives envelope ↔
      connection.phase = .established := by
  rw [actsOn_iff, body_eq]
  constructor
  · rintro ⟨-, -, action, later, reacts⟩
    cases reacts with
    | cfrControl phase_eq => exact phase_eq
  · intro phase_eq
    exact ⟨admitted, evicted, _, _, .cfrControl phase_eq⟩

/-- The window holds exactly the ids accepted most recently, without
repetition.  An accepted envelope is ignored while fewer envelopes than the
window holds were accepted after it.  Offers, answers and closes are never acted
upon twice; an evicted candidate or CFR payload is acted upon again exactly when
its phase and parent checks pass. -/
structure ReplayWindow
    (primitives : Primitives)
    (reached : Session Connection Operation Outcome) : Prop where
  seen_eq :
    let ids := (accepted reached.history).map (Envelope.digest primitives)
    reached.state.seen = ids.drop (ids.length - min ids.length 1024)
  seen_nodup : reached.state.seen.Nodup
  ignored : ∀ envelope later,
    AcceptedSince primitives reached.history envelope later →
      ((Operation.receive envelope).perform primitives reached.state =
          (.ok [], reached.state) ↔
        later.length < 1024)
  once : ∀ first ∈ accepted reached.history,
    first.kind = .offer ∨ first.kind = .answer ∨ first.kind = .close →
      ∀ envelope : Envelope, envelope.kind = first.kind →
        ¬reached.state.ActsOn primitives envelope
  again_candidate : ∀ envelope later parentId sequence fragment,
    AcceptedSince primitives reached.history envelope later →
    1024 ≤ later.length →
    envelope.body = .candidate parentId sequence fragment →
      (reached.state.ActsOn primitives envelope ↔
        reached.state.AllowsParent parentId)
  again_cfrControl : ∀ envelope later payload,
    AcceptedSince primitives reached.history envelope later →
    1024 ≤ later.length →
    envelope.body = .cfrControl payload →
      (reached.state.ActsOn primitives envelope ↔
        reached.state.phase = .established)

/-- The replay window of every run of a created connection is exact. -/
theorem replay_window_exact
    {primitives : Primitives}
    {federation : FederationId}
    {attempt : AttemptId}
    {localEndpoint remoteEndpoint : EndpointIdentity}
    {connection : Connection}
    (created : Connection.new federation attempt localEndpoint remoteEndpoint =
      .ok connection)
    (operations : List Operation) :
    ReplayWindow primitives (connection.session primitives operations) := by
  obtain ⟨-, rfl⟩ := new_eq_ok_iff.mp created
  have remembers := session_remembers primitives
    (rfl : (fresh federation attempt localEndpoint remoteEndpoint).seen = [])
    operations
  refine ⟨?_, remembers.seen_nodup, ?_, ?_, ?_, ?_⟩
  · have cut (count : Nat) :
        count - maxSeenEnvelopes = count - min count 1024 := by
      unfold maxSeenEnvelopes
      omega
    intro ids
    rw [remembers.seen_eq, recent, cut]
  · intro envelope later since
    rw [perform_receive_eq_nil_iff (remembers.admitted envelope since.mem)]
    exact remembers.mem_seen_iff since
  · intro first member oneTime envelope kind_eq
    refine remembers.not_actsOn member ?_ kind_eq
    rcases oneTime with kind | kind | kind <;> rw [kind] <;> decide
  · intro envelope later parentId sequence fragment since beyond body_eq
    exact actsOn_candidate_iff (remembers.admitted envelope since.mem)
      (remembers.not_mem_seen since beyond) body_eq
  · intro envelope later payload since beyond body_eq
    exact actsOn_cfrControl_iff (remembers.admitted envelope since.mem)
      (remembers.not_mem_seen since beyond) body_eq

/-- A run that offers and then receives one close twice. -/
theorem replay_window_exact_sample :
    Connection.new ⟨Vector.replicate 32 0⟩ ⟨Vector.replicate 16 0⟩
        (.sample 0) (.sample 1) = .ok (Connection.sample 0 1) ∧
      ReplayWindow .sample ((Connection.sample 0 1).session .sample
        [.beginOffer (.sample 0) ⟨Vector.replicate 32 0⟩ [],
          .receive ((Connection.sample 1 0).outbound (.sample 1) (.close ⟨0⟩)),
          .receive ((Connection.sample 1 0).outbound (.sample 1)
            (.close ⟨0⟩))]) := by
  have created := new_sample (by decide : (0 : UInt8) ≠ 1)
  exact ⟨created, replay_window_exact created _⟩

end Connection

end Core
end Fcp
