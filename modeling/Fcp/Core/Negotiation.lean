import Fcp.Core.ConnectionNetwork

/-!
# Negotiation between two mirrored connections

A connection takes part in at most one offer and answer.  The handshake records
which envelopes these are and on which side of them the connection stands; it is
an abstraction of the phase, the negotiation ids and the history.  Two mirrored
handshakes agree because what one side accepts the other side has sent.
-/

namespace Fcp
namespace Core

open Reactive

/-- The part of an attempt that a connection has negotiated. -/
inductive Handshake
  | fresh
  | offered (offer : Envelope)
  | invited (offer : Envelope)
  | answered (offer answer : Envelope)
  | concluded (offer answer : Envelope)

/-- Offers and answers move the negotiation. -/
def Envelope.Negotiates (envelope : Envelope) : Prop :=
  envelope.kind = .offer ∨ envelope.kind = .answer

/-- The envelopes sent along a history. -/
def sentEnvelopes (history : List (Operation × Outcome)) : List Envelope :=
  history.flatMap fun exchange => Outcome.sent exchange.2

theorem mem_sentEnvelopes_concat
    {history : List (Operation × Outcome)}
    {operation : Operation}
    {outcome : Outcome}
    {envelope : Envelope} :
    envelope ∈ sentEnvelopes (history ++ [(operation, outcome)]) ↔
      envelope ∈ sentEnvelopes history ∨ envelope ∈ Outcome.sent outcome := by
  simp [sentEnvelopes]

theorem mem_accepted_concat
    {history : List (Operation × Outcome)}
    {exchange : Operation × Outcome}
    {envelope : Envelope} :
    envelope ∈ accepted (history ++ [exchange]) ↔
      envelope ∈ accepted history ∨ accepted? exchange = some envelope := by
  rw [accepted_concat, List.mem_append, Option.mem_toList]

namespace Handshake

/-- The phases in which a connection can be. -/
def phases : Handshake → List Phase
  | .fresh => [.idle]
  | .offered _ => [.offerSent, .closed]
  | .invited _ => [.offerReceived, .closed]
  | .answered _ _ => [.answerSent, .established, .closed]
  | .concluded _ _ => [.answerReceived, .established, .closed]

/-- The ids that a connection holds. -/
def ids (primitives : Primitives) : Handshake → Option NegotiationIds
  | .fresh => none
  | .offered offer | .invited offer => some ⟨offer.digest primitives, none⟩
  | .answered offer answer | .concluded offer answer =>
      some ⟨offer.digest primitives, some (answer.digest primitives)⟩

/-- The negotiating envelopes that a connection has sent. -/
def sent : Handshake → List Envelope
  | .fresh | .invited _ => []
  | .offered offer | .concluded offer _ => [offer]
  | .answered _ answer => [answer]

/-- The negotiating envelopes that a connection has accepted. -/
def received : Handshake → List Envelope
  | .fresh | .offered _ => []
  | .invited offer | .answered offer _ => [offer]
  | .concluded _ answer => [answer]

/-- Offers are offers, and an answer names the offer it answers. -/
def WellFormed (primitives : Primitives) : Handshake → Prop
  | .fresh => True
  | .offered offer | .invited offer => offer.kind = .offer
  | .answered offer answer | .concluded offer answer =>
      offer.kind = .offer ∧ ∃ binding description,
        answer.body = .answer (offer.digest primitives) binding description

theorem closed_mem_phases
    {handshake : Handshake}
    {phase : Phase}
    (mem : phase ∈ handshake.phases)
    (started : phase ≠ .idle) :
    .closed ∈ handshake.phases := by
  cases handshake with
  | fresh => exact absurd (List.mem_singleton.mp mem) started
  | _ => simp [phases]

theorem eq_fresh_of_mem
    {handshake : Handshake}
    (mem : Phase.idle ∈ handshake.phases) :
    handshake = .fresh := by
  cases handshake <;> simp_all [phases]

theorem exists_offered_of_mem
    {handshake : Handshake}
    (mem : Phase.offerSent ∈ handshake.phases) :
    ∃ offer, handshake = .offered offer := by
  cases handshake <;> simp_all [phases]

theorem exists_invited_of_mem
    {handshake : Handshake}
    (mem : Phase.offerReceived ∈ handshake.phases) :
    ∃ offer, handshake = .invited offer := by
  cases handshake <;> simp_all [phases]

theorem established_mem_phases
    {handshake : Handshake}
    (mem : Phase.answerSent ∈ handshake.phases ∨
      Phase.answerReceived ∈ handshake.phases) :
    .established ∈ handshake.phases := by
  cases handshake <;> simp_all [phases]

/-- A handshake describes a connection and its history. -/
structure Describes
    (primitives : Primitives)
    (handshake : Handshake)
    (connection : Connection)
    (history : List (Operation × Outcome)) : Prop where
  wellFormed : handshake.WellFormed primitives
  phase_mem : connection.phase ∈ handshake.phases
  negotiation_eq : connection.negotiation = handshake.ids primitives
  sent_iff : ∀ envelope, envelope ∈ handshake.sent ↔
    envelope ∈ sentEnvelopes history ∧ envelope.Negotiates
  received_iff : ∀ envelope, envelope ∈ handshake.received ↔
    envelope ∈ accepted history ∧ envelope.Negotiates

variable {primitives : Primitives}
variable {handshake : Handshake}
variable {connection later : Connection}
variable {history : List (Operation × Outcome)}
variable {operation : Operation}
variable {outcome : Outcome}

/-! ## One operation -/

/-- An exchange that sends and accepts no offer or answer. -/
theorem Describes.quiet
    (describes : handshake.Describes primitives connection history)
    (nothingSent : ∀ envelope ∈ Outcome.sent outcome, ¬envelope.Negotiates)
    (nothingReceived : ∀ envelope,
      accepted? (operation, outcome) = some envelope → ¬envelope.Negotiates)
    (phase_mem : later.phase ∈ handshake.phases)
    (negotiation_eq : later.negotiation = connection.negotiation) :
    handshake.Describes primitives later
      (history ++ [(operation, outcome)]) where
  wellFormed := describes.wellFormed
  phase_mem := phase_mem
  negotiation_eq := negotiation_eq.trans describes.negotiation_eq
  sent_iff := by
    intro envelope
    rw [describes.sent_iff, mem_sentEnvelopes_concat]
    have silent := nothingSent envelope
    tauto
  received_iff := by
    intro envelope
    rw [describes.received_iff, mem_accepted_concat]
    have silent := nothingReceived envelope
    tauto

/-- An exchange that sends one offer or answer. -/
theorem Describes.send
    {next : Handshake}
    {envelope : Envelope}
    (describes : handshake.Describes primitives connection history)
    (sent_eq : ∀ other, other ∈ Outcome.sent outcome ↔ other = envelope)
    (negotiates : envelope.Negotiates)
    (nothingReceived : accepted? (operation, outcome) = none)
    (wellFormed : next.WellFormed primitives)
    (phase_mem : later.phase ∈ next.phases)
    (negotiation_eq : later.negotiation = next.ids primitives)
    (nextSent : ∀ other, other ∈ next.sent ↔
      other ∈ handshake.sent ∨ other = envelope)
    (nextReceived : next.received = handshake.received) :
    next.Describes primitives later (history ++ [(operation, outcome)]) where
  wellFormed := wellFormed
  phase_mem := phase_mem
  negotiation_eq := negotiation_eq
  sent_iff := by
    intro other
    rw [nextSent, describes.sent_iff, mem_sentEnvelopes_concat, sent_eq]
    constructor
    · rintro (⟨member, moves⟩ | rfl)
      · exact ⟨.inl member, moves⟩
      · exact ⟨.inr rfl, negotiates⟩
    · rintro ⟨member | rfl, moves⟩
      · exact .inl ⟨member, moves⟩
      · exact .inr rfl
  received_iff := by
    intro other
    rw [nextReceived, describes.received_iff, mem_accepted_concat,
      nothingReceived]
    simp

/-- An exchange that accepts one offer or answer. -/
theorem Describes.receive
    {next : Handshake}
    {envelope : Envelope}
    (describes : handshake.Describes primitives connection history)
    (nothingSent : Outcome.sent outcome = [])
    (received : accepted? (operation, outcome) = some envelope)
    (negotiates : envelope.Negotiates)
    (wellFormed : next.WellFormed primitives)
    (phase_mem : later.phase ∈ next.phases)
    (negotiation_eq : later.negotiation = next.ids primitives)
    (nextSent : next.sent = handshake.sent)
    (nextReceived : ∀ other, other ∈ next.received ↔
      other ∈ handshake.received ∨ other = envelope) :
    next.Describes primitives later (history ++ [(operation, outcome)]) where
  wellFormed := wellFormed
  phase_mem := phase_mem
  negotiation_eq := negotiation_eq
  sent_iff := by
    intro other
    rw [nextSent, describes.sent_iff, mem_sentEnvelopes_concat, nothingSent]
    simp
  received_iff := by
    intro other
    rw [nextReceived, describes.received_iff, mem_accepted_concat, received,
      Option.some.injEq]
    constructor
    · rintro (⟨member, moves⟩ | rfl)
      · exact ⟨.inl member, moves⟩
      · exact ⟨.inr rfl, negotiates⟩
    · rintro ⟨member | rfl, moves⟩
      · exact .inl ⟨member, moves⟩
      · exact .inr rfl

theorem not_negotiates_of_accepted?_none
    (nothing : accepted? (operation, outcome) = none)
    (envelope : Envelope)
    (found : accepted? (operation, outcome) = some envelope) :
    ¬envelope.Negotiates := by
  rw [nothing] at found
  exact absurd found (by simp)

theorem not_negotiates_of_mem_sent
    {signed envelope : Envelope}
    (other : ¬signed.Negotiates)
    (sent : envelope ∈ Outcome.sent (.ok [.send signed])) :
    ¬envelope.Negotiates := by
  rw [Outcome.mem_sent_send.mp sent]
  exact other

/-- The handshake after an accepted envelope. -/
theorem Describes.exists_reacts
    {envelope : Envelope}
    {body : Body}
    {action : Action}
    (describes : handshake.Describes primitives connection history)
    (body_eq : envelope.body = body)
    (reacts : Connection.Reacts (envelope.digest primitives) envelope.sender
      connection body action later) :
    ∃ next : Handshake, next.Describes primitives
      (later.remember (envelope.digest primitives))
      (history ++ [(.receive envelope, .ok [action])]) := by
  have phase_mem := describes.phase_mem
  have nothingSent : Outcome.sent (.ok [action]) = [] := by
    simp [Outcome.sent, reacts.sent?_eq_none]
  have silent : ∀ other ∈ Outcome.sent (.ok [action]), ¬other.Negotiates := by
    simp [nothingSent]
  have quiet (kind_ne : ¬envelope.Negotiates) : ∀ other,
      accepted? (.receive envelope, .ok [action]) = some other →
        ¬other.Negotiates := by
    rintro other found
    obtain rfl : envelope = other := Option.some.inj found
    exact kind_ne
  have kind_eq : envelope.kind = body.kind := congrArg Body.kind body_eq
  cases reacts with
  | offer phase_eq =>
      rw [phase_eq] at phase_mem
      obtain rfl := eq_fresh_of_mem phase_mem
      refine ⟨.invited envelope, describes.receive nothingSent rfl
        (.inl kind_eq) kind_eq ?_ rfl rfl ?_⟩
      · simp [Connection.remember, phases]
      · simp [Handshake.received]
  | @answer offerId earlier binding description phase_eq negotiation_eq =>
      rw [phase_eq] at phase_mem
      obtain ⟨offer, rfl⟩ := exists_offered_of_mem phase_mem
      have same := describes.negotiation_eq
      rw [negotiation_eq, ids, Option.some.injEq,
        NegotiationIds.mk.injEq] at same
      obtain ⟨rfl, rfl⟩ := same
      refine ⟨.concluded offer envelope, describes.receive nothingSent rfl
        (.inr kind_eq) ⟨describes.wellFormed, binding, description, body_eq⟩
        ?_ rfl rfl ?_⟩
      · simp [Connection.remember, phases]
      · simp [Handshake.received]
  | candidate allowed =>
      refine ⟨handshake, describes.quiet silent (quiet ?_) phase_mem rfl⟩
      simp [Envelope.Negotiates, kind_eq, Body.kind]
  | close started unfinished =>
      refine ⟨handshake, describes.quiet silent (quiet ?_)
        (closed_mem_phases phase_mem started) rfl⟩
      simp [Envelope.Negotiates, kind_eq, Body.kind]
  | cfrControl phase_eq =>
      refine ⟨handshake, describes.quiet silent (quiet ?_) phase_mem rfl⟩
      simp [Envelope.Negotiates, kind_eq, Body.kind]

/-- Every transition leads to a handshake again. -/
theorem Describes.exists_transition
    {actions : List Action}
    (describes : handshake.Describes primitives connection history)
    (transition : Connection.Transition primitives connection operation actions
      later) :
    ∃ next : Handshake, next.Describes primitives later
      (history ++ [(operation, .ok actions)]) := by
  have phase_mem := describes.phase_mem
  cases transition with
  | beginOffer signer_eq phase_eq bounded =>
      rw [phase_eq] at phase_mem
      obtain rfl := eq_fresh_of_mem phase_mem
      refine ⟨.offered _, describes.send (fun _ => Outcome.mem_sent_send)
        (.inl rfl) rfl ?_ ?_ rfl ?_ rfl⟩
      · exact rfl
      · simp [phases]
      · simp [Handshake.sent]
  | @answer _ _ _ ids signer_eq phase_eq negotiation_eq bounded =>
      rw [phase_eq] at phase_mem
      obtain ⟨offer, rfl⟩ := exists_invited_of_mem phase_mem
      have same := describes.negotiation_eq
      rw [negotiation_eq, Handshake.ids, Option.some.injEq] at same
      subst same
      refine ⟨.answered offer _, describes.send
        (fun _ => Outcome.mem_sent_send) (.inr rfl) rfl
        ⟨describes.wellFormed, _, _, rfl⟩ ?_ rfl ?_ rfl⟩
      · simp [phases]
      · simp [Handshake.sent]
  | candidate signer_eq live negotiation_eq bounded =>
      refine ⟨handshake, describes.quiet
        (fun _ => not_negotiates_of_mem_sent ?_)
        (not_negotiates_of_accepted?_none rfl) phase_mem rfl⟩
      exact not_or.mpr ⟨nofun, nofun⟩
  | cfrControl signer_eq phase_eq bounded =>
      refine ⟨handshake, describes.quiet
        (fun _ => not_negotiates_of_mem_sent ?_)
        (not_negotiates_of_accepted?_none rfl) phase_mem rfl⟩
      exact not_or.mpr ⟨nofun, nofun⟩
  | close signer_eq started unfinished =>
      refine ⟨handshake, describes.quiet
        (fun _ => not_negotiates_of_mem_sent ?_)
        (not_negotiates_of_accepted?_none rfl)
        (closed_mem_phases phase_mem started) rfl⟩
      exact not_or.mpr ⟨nofun, nofun⟩
  | duplicate admitted known =>
      exact ⟨handshake, describes.quiet (by simp [Outcome.sent])
        (not_negotiates_of_accepted?_none rfl) phase_mem rfl⟩
  | receive admitted fresh reacts => exact describes.exists_reacts rfl reacts
  | transportConnected phase_eq =>
      have connected : .established ∈ handshake.phases := by
        apply established_mem_phases
        rcases phase_eq with phase_eq | phase_eq
        · exact .inl (phase_eq ▸ phase_mem)
        · exact .inr (phase_eq ▸ phase_mem)
      exact ⟨handshake, describes.quiet (by simp [Outcome.sent])
        (not_negotiates_of_accepted?_none rfl) connected rfl⟩
  | transportFailed started unfinished =>
      exact ⟨handshake, describes.quiet (by simp [Outcome.sent])
        (not_negotiates_of_accepted?_none rfl)
        (closed_mem_phases phase_mem started) rfl⟩

/-- Some handshake describes a connection and its history. -/
def Exists
    (primitives : Primitives)
    (connection : Connection)
    (history : List (Operation × Outcome)) : Prop :=
  ∃ handshake : Handshake, handshake.Describes primitives connection history

/-- A handshake describes every run of a created connection. -/
theorem exists_session
    (primitives : Primitives)
    (federation : FederationId)
    (attempt : AttemptId)
    (localEndpoint remoteEndpoint : EndpointIdentity)
    (operations : List Operation) :
    Exists primitives
      ((Connection.fresh federation attempt localEndpoint
        remoteEndpoint).session primitives operations).state
      ((Connection.fresh federation attempt localEndpoint
        remoteEndpoint).session primitives operations).history := by
  refine Connection.session_invariant ?_ ?_ ?_ operations
  · rintro connection history ⟨handshake, describes⟩ operation error
    exact ⟨handshake, describes.quiet (by simp [Outcome.sent])
      (not_negotiates_of_accepted?_none (accepted?_error operation error))
      describes.phase_mem rfl⟩
  · rintro connection history operation actions later ⟨handshake, describes⟩
      transition
    exact describes.exists_transition transition
  · refine ⟨.fresh, trivial, List.mem_singleton.mpr rfl, rfl, ?_, ?_⟩
    · simp [Handshake.sent, sentEnvelopes]
    · simp [Handshake.received]

end Handshake

theorem Operation.conveys_applyAnswer_iff
    {operation : Operation}
    {binding : WebRtcBinding}
    {description : List UInt8} :
    operation.Conveys (.applyAnswer binding description) ↔
      ∃ signer, operation = .answer signer binding description := by
  cases operation <;> simp [Conveys, eq_comm]

theorem Operation.conveys_applyOffer_iff
    {operation : Operation}
    {binding : WebRtcBinding}
    {description : List UInt8} :
    operation.Conveys (.applyOffer binding description) ↔
      ∃ signer, operation = .beginOffer signer binding description := by
  cases operation <;> simp [Conveys, eq_comm]

namespace Connection

variable {primitives : Primitives}
variable {connection later : Connection}
variable {operation : Operation}
variable {actions : List Action}

theorem Transition.kind_of_applyAnswer
    {envelope : Envelope}
    {binding : WebRtcBinding}
    {description : List UInt8}
    (transition : Transition primitives connection (.receive envelope)
      [.applyAnswer binding description] later) :
    envelope.kind = .answer := by
  cases transition with
  | receive admitted fresh reacts =>
      generalize body_eq : envelope.body = body at reacts
      cases reacts with
      | answer phase_eq negotiation_eq => exact congrArg Body.kind body_eq

theorem Transition.exists_applyAnswer
    {envelope : Envelope}
    (transition : Transition primitives connection (.receive envelope) actions
      later)
    (nonempty : actions ≠ [])
    (kind_eq : envelope.kind = .answer) :
    ∃ binding description, actions = [.applyAnswer binding description] := by
  cases transition with
  | duplicate admitted known => exact absurd rfl nonempty
  | receive admitted fresh reacts =>
      unfold Envelope.kind at kind_eq
      generalize envelope.body = body at reacts kind_eq
      cases reacts with
      | answer phase_eq negotiation_eq => exact ⟨_, _, rfl⟩
      | _ => simp [Body.kind] at kind_eq

theorem Transition.exists_answer
    {envelope : Envelope}
    (transition : Transition primitives connection operation actions later)
    (sent : envelope ∈ Outcome.sent (.ok actions))
    (kind_eq : envelope.kind = .answer) :
    ∃ signer binding description,
      operation = .answer signer binding description := by
  cases transition with
  | answer signer_eq phase_eq negotiation_eq bounded => exact ⟨_, _, _, rfl⟩
  | duplicate admitted known => simp [Outcome.sent] at sent
  | receive admitted fresh reacts =>
      simp [Outcome.sent, reacts.sent?_eq_none] at sent
  | transportConnected phase_eq => simp [Outcome.sent] at sent
  | transportFailed started unfinished => simp [Outcome.sent] at sent
  | _ =>
      obtain rfl := Outcome.mem_sent_send.mp sent
      cases kind_eq

theorem Transition.exists_offer
    {signer : EndpointSigner}
    {binding : WebRtcBinding}
    {description : List UInt8}
    (transition : Transition primitives connection
      (.beginOffer signer binding description) actions later) :
    ∃ envelope ∈ Outcome.sent (.ok actions), envelope.kind = .offer := by
  cases transition with
  | beginOffer signer_eq phase_eq bounded =>
      exact ⟨_, Outcome.mem_sent_send.mpr rfl, rfl⟩

end Connection

/-! ## Two ends of one attempt -/

namespace ConnectionNetwork

open Connection

section Log

variable {ν : Type} [DecidableEq ν]
variable {network : ConnectionNetwork ν}
variable {node : ν}
variable {envelope : Envelope}

theorem mem_accepted_history_iff :
    envelope ∈ accepted (network.history node) ↔
      ∃ actions, actions ≠ [] ∧
        (node, .receive envelope, .ok actions) ∈ network.log := by
  simp only [accepted, List.mem_filterMap, Network.mem_history_iff,
    Prod.exists, accepted?_eq_some_iff]
  constructor
  · rintro ⟨_, _, logged, rfl, actions, nonempty, rfl⟩
    exact ⟨actions, nonempty, logged⟩
  · rintro ⟨actions, nonempty, logged⟩
    exact ⟨_, _, logged, rfl, actions, nonempty, rfl⟩

theorem mem_sentEnvelopes_history_iff :
    envelope ∈ sentEnvelopes (network.history node) ↔
      ∃ operation outcome, (node, operation, outcome) ∈ network.log ∧
        envelope ∈ Outcome.sent outcome := by
  simp only [sentEnvelopes, List.mem_flatMap, Network.mem_history_iff,
    Prod.exists]

end Log

/-- The envelopes of one attempt that claim to come from either end. -/
def InAttempt
    (federation : FederationId)
    (attempt : AttemptId)
    (left right : EndpointIdentity)
    (envelope : Envelope) : Prop :=
  envelope.federation = federation ∧ envelope.attempt = attempt ∧
    (envelope.sender = left ∨ envelope.sender = right)

/-- One end has applied an answer. -/
def ReceivedAnswer (network : ConnectionNetwork Side) (side : Side) : Prop :=
  ∃ envelope binding description,
    (side, .receive envelope, .ok [.applyAnswer binding description]) ∈
      network.log

/-- One end has sent an answer. -/
def SentAnswer (network : ConnectionNetwork Side) (side : Side) : Prop :=
  ∃ signer binding description actions,
    (side, .answer signer binding description, .ok actions) ∈ network.log

/-- One end has sent an offer. -/
def SentOffer (network : ConnectionNetwork Side) (side : Side) : Prop :=
  ∃ signer binding description actions,
    (side, .beginOffer signer binding description, .ok actions) ∈ network.log

/-- What the two ends of one attempt agree on. -/
structure Agreement (network : ConnectionNetwork Side) : Prop where
  answerReceived : ∀ side, (network.states side).phase = .answerReceived →
    ReceivedAnswer network side
  established : ∀ side, (network.states side).phase = .established →
    ReceivedAnswer network side ∨ SentAnswer network side
  same_ids : ∀ side, ReceivedAnswer network side →
    ∃ offerId answerId,
      (network.states side).negotiation = some ⟨offerId, some answerId⟩ ∧
        (network.states side.other).negotiation =
          some ⟨offerId, some answerId⟩ ∧
        (network.states side.other).phase ∈
          [.answerSent, .established, .closed]
  one_initiator : ¬(ReceivedAnswer network .left ∧ ReceivedAnswer network .right)
  glare : SentOffer network .left → SentOffer network .right →
    ∀ side, (network.states side).phase ∈ [.offerSent, .closed]
  applied_answer : ∀ earlier later side envelope actions binding description,
    network.log = earlier ++ (side, .receive envelope, .ok actions) :: later →
    .applyAnswer binding description ∈ actions →
      ∃ signer outcome,
        (side.other, .answer signer binding description, outcome) ∈ earlier ∧
          envelope ∈ Outcome.sent outcome
  applied_offer : ∀ earlier later side envelope actions binding description,
    network.log = earlier ++ (side, .receive envelope, .ok actions) :: later →
    .applyOffer binding description ∈ actions →
      ∃ signer outcome,
        (side.other, .beginOffer signer binding description, outcome) ∈
            earlier ∧
          envelope ∈ Outcome.sent outcome

section Attempt

variable {primitives : Primitives}
variable {scope : Envelope → Prop}
variable {federation : FederationId}
variable {attempt : AttemptId}
variable {left right : EndpointIdentity}
variable {network : ConnectionNetwork Side}

/-- The two ends before any operation. -/
abbrev ends
    (federation : FederationId)
    (attempt : AttemptId)
    (left right : EndpointIdentity) : Side → Connection :=
  Side.pair (fresh federation attempt left right)
    (fresh federation attempt right left)

theorem exists_handshake
    (reachable : Reachable primitives scope
      (ends federation attempt left right) network)
    (side : Side) :
    ∃ handshake : Handshake, handshake.Describes primitives
      (network.states side) (network.history side) := by
  obtain ⟨operations, session_eq⟩ := reachable.exists_session_eq_run side
  have state_eq := congrArg Session.state session_eq
  have history_eq := congrArg Session.history session_eq
  change network.states side = _ at state_eq
  change network.history side = _ at history_eq
  rw [state_eq, history_eq]
  cases side with
  | left => exact Handshake.exists_session primitives _ _ _ _ operations
  | right => exact Handshake.exists_session primitives _ _ _ _ operations

theorem exists_transition_of_mem
    (reachable : Reachable primitives scope
      (ends federation attempt left right) network)
    {side : Side}
    {operation : Operation}
    {actions : List Action}
    (logged : (side, operation, .ok actions) ∈ network.log) :
    ∃ before after,
      Transition primitives before operation actions after := by
  obtain ⟨earlier, later, log_eq⟩ := List.append_of_mem logged
  obtain ⟨before, -, -, -, -, after, transition⟩ :=
    exists_transition reachable log_eq
  exact ⟨_, after, transition⟩

/-- Exactly the initiator of a concluded handshake has received an answer. -/
theorem receivedAnswer_iff
    (reachable : Reachable primitives scope
      (ends federation attempt left right) network)
    {side : Side}
    {handshake : Handshake}
    (describes : handshake.Describes primitives (network.states side)
      (network.history side)) :
    ReceivedAnswer network side ↔
      ∃ offer answer, handshake = .concluded offer answer := by
  constructor
  · rintro ⟨envelope, binding, description, logged⟩
    obtain ⟨before, after, transition⟩ :=
      exists_transition_of_mem reachable logged
    have kind_eq := transition.kind_of_applyAnswer
    have member : envelope ∈ handshake.received :=
      (describes.received_iff envelope).mpr
        ⟨mem_accepted_history_iff.mpr ⟨_, List.cons_ne_nil _ _, logged⟩,
          .inr kind_eq⟩
    have wellFormed := describes.wellFormed
    cases handshake with
    | concluded offer answer => exact ⟨offer, answer, rfl⟩
    | fresh => simp [Handshake.received] at member
    | offered offer => simp [Handshake.received] at member
    | invited offer =>
        obtain rfl := List.mem_singleton.mp member
        rw [show envelope.kind = .offer from wellFormed] at kind_eq
        exact absurd kind_eq nofun
    | answered offer answer =>
        obtain rfl := List.mem_singleton.mp member
        rw [wellFormed.1] at kind_eq
        exact absurd kind_eq nofun
  · rintro ⟨offer, answer, rfl⟩
    obtain ⟨-, binding, description, body_eq⟩ := describes.wellFormed
    obtain ⟨member, -⟩ := (describes.received_iff answer).mp
      (List.mem_singleton.mpr rfl)
    obtain ⟨actions, nonempty, logged⟩ := mem_accepted_history_iff.mp member
    obtain ⟨before, after, transition⟩ :=
      exists_transition_of_mem reachable logged
    obtain ⟨applied, with_, rfl⟩ := transition.exists_applyAnswer nonempty
      (congrArg Body.kind body_eq)
    exact ⟨answer, applied, with_, logged⟩

theorem sentAnswer_of_answered
    (reachable : Reachable primitives scope
      (ends federation attempt left right) network)
    {side : Side}
    {offer answer : Envelope}
    (describes : (Handshake.answered offer answer).Describes primitives
      (network.states side) (network.history side)) :
    SentAnswer network side := by
  obtain ⟨-, binding, description, body_eq⟩ := describes.wellFormed
  obtain ⟨member, -⟩ := (describes.sent_iff answer).mp
    (List.mem_singleton.mpr rfl)
  obtain ⟨operation, outcome, logged, sent⟩ :=
    mem_sentEnvelopes_history_iff.mp member
  cases outcome with
  | error error => simp [Outcome.sent] at sent
  | ok actions =>
      obtain ⟨before, after, transition⟩ :=
        exists_transition_of_mem reachable logged
      obtain ⟨signer, given, text, rfl⟩ := transition.exists_answer sent
        (congrArg Body.kind body_eq)
      exact ⟨signer, given, text, actions, logged⟩

/-- An end that has sent an offer is an initiator. -/
theorem initiator_of_sentOffer
    (reachable : Reachable primitives scope
      (ends federation attempt left right) network)
    {side : Side}
    {handshake : Handshake}
    (describes : handshake.Describes primitives (network.states side)
      (network.history side))
    (sentOffer : SentOffer network side) :
    (∃ offer, handshake = .offered offer) ∨
      ∃ offer answer, handshake = .concluded offer answer := by
  obtain ⟨signer, binding, description, actions, logged⟩ := sentOffer
  obtain ⟨before, after, transition⟩ :=
    exists_transition_of_mem reachable logged
  obtain ⟨envelope, sent, kind_eq⟩ := transition.exists_offer
  have member : envelope ∈ handshake.sent :=
    (describes.sent_iff envelope).mpr
      ⟨mem_sentEnvelopes_history_iff.mpr ⟨_, _, logged, sent⟩, .inl kind_eq⟩
  have wellFormed := describes.wellFormed
  cases handshake with
  | offered offer => exact .inl ⟨offer, rfl⟩
  | concluded offer answer => exact .inr ⟨offer, answer, rfl⟩
  | fresh => simp [Handshake.sent] at member
  | invited offer => simp [Handshake.sent] at member
  | answered offer answer =>
      obtain rfl := List.mem_singleton.mp member
      obtain ⟨-, given, text, body_eq⟩ := wellFormed
      have answer_kind : envelope.kind = .answer := congrArg Body.kind body_eq
      rw [answer_kind] at kind_eq
      exact absurd kind_eq nofun

/-- What one end acts upon the other end has sent. -/
theorem other_end_sent
    (different : left ≠ right)
    (reachable : Reachable primitives (InAttempt federation attempt left right)
      (ends federation attempt left right) network)
    {earlier later : List (Side × Operation × Outcome)}
    {side : Side}
    {envelope : Envelope}
    {actions : List Action}
    (log_eq : network.log =
      earlier ++ (side, .receive envelope, .ok actions) :: later)
    (nonempty : actions ≠ []) :
    ∃ operation outcome action,
      (side.other, operation, outcome) ∈ earlier ∧
        envelope ∈ Outcome.sent outcome ∧
        actions = [action] ∧ operation.Conveys action := by
  have leftPins := pins_eq reachable .left
  have rightPins := pins_eq reachable .right
  simp only [pins, ends, Side.pair, fresh, Prod.mk.injEq] at leftPins rightPins
  obtain ⟨leftFederation, leftAttempt, leftLocal, leftRemote⟩ := leftPins
  obtain ⟨rightFederation, rightAttempt, rightLocal, rightRemote⟩ := rightPins
  have inScope : (network.states side).Admits primitives envelope →
      InAttempt federation attempt left right envelope := by
    intro admitted
    cases side with
    | left =>
        exact ⟨admitted.federation_eq.trans leftFederation,
          admitted.attempt_eq.trans leftAttempt,
          .inr (admitted.sender_eq.trans leftRemote)⟩
    | right =>
        exact ⟨admitted.federation_eq.trans rightFederation,
          admitted.attempt_eq.trans rightAttempt,
          .inl (admitted.sender_eq.trans rightRemote)⟩
  obtain ⟨origin, operation, outcome, action, logged, sent, mirrors, rest⟩ :=
    acted_upon_was_emitted reachable log_eq nonempty inScope
  have local_eq := mirrors.local_eq
  have origin_eq : origin = side.other := by
    cases origin <;> cases side <;> first
      | rfl
      | (rw [leftLocal, leftRemote] at local_eq
         exact absurd local_eq different)
      | (rw [rightLocal, rightRemote] at local_eq
         exact absurd local_eq.symm different)
  subst origin_eq
  exact ⟨operation, outcome, action, logged, sent, rest⟩

/-- The other end of a concluded handshake has answered the same offer. -/
theorem answered_of_concluded
    (different : left ≠ right)
    (reachable : Reachable primitives (InAttempt federation attempt left right)
      (ends federation attempt left right) network)
    {side : Side}
    {offer answer : Envelope}
    {handshake : Handshake}
    (concluded : (Handshake.concluded offer answer).Describes primitives
      (network.states side) (network.history side))
    (describes : handshake.Describes primitives (network.states side.other)
      (network.history side.other)) :
    ∃ answeredOffer, handshake = .answered answeredOffer answer ∧
      answeredOffer.digest primitives = offer.digest primitives := by
  obtain ⟨-, binding, description, body_eq⟩ := concluded.wellFormed
  have kind_eq : answer.kind = .answer := congrArg Body.kind body_eq
  obtain ⟨member, negotiates⟩ := (concluded.received_iff answer).mp
    (List.mem_singleton.mpr rfl)
  obtain ⟨actions, nonempty, logged⟩ := mem_accepted_history_iff.mp member
  obtain ⟨earlier, later, log_eq⟩ := List.append_of_mem logged
  obtain ⟨operation, outcome, -, sentBefore, sent, -⟩ :=
    other_end_sent different reachable log_eq nonempty
  have sentLogged : (side.other, operation, outcome) ∈ network.log := by
    rw [log_eq]
    exact List.mem_append_left _ sentBefore
  have answerSent : answer ∈ handshake.sent :=
    (describes.sent_iff answer).mpr
      ⟨mem_sentEnvelopes_history_iff.mpr ⟨_, _, sentLogged, sent⟩, negotiates⟩
  have wellFormed := describes.wellFormed
  cases handshake with
  | fresh => simp [Handshake.sent] at answerSent
  | invited other => simp [Handshake.sent] at answerSent
  | offered other =>
      obtain rfl := List.mem_singleton.mp answerSent
      rw [show answer.kind = .offer from wellFormed] at kind_eq
      exact absurd kind_eq nofun
  | concluded other reply =>
      obtain rfl := List.mem_singleton.mp answerSent
      rw [wellFormed.1] at kind_eq
      exact absurd kind_eq nofun
  | answered other reply =>
      obtain rfl := List.mem_singleton.mp answerSent
      obtain ⟨-, otherBinding, otherDescription, other_eq⟩ := wellFormed
      rw [body_eq, Body.answer.injEq] at other_eq
      exact ⟨other, rfl, other_eq.1.symm⟩

/-- When both ends have sent an offer neither gets past it. -/
theorem phase_of_glare
    (different : left ≠ right)
    (reachable : Reachable primitives (InAttempt federation attempt left right)
      (ends federation attempt left right) network)
    {side : Side}
    (sentOffer : SentOffer network side)
    (otherSentOffer : SentOffer network side.other) :
    (network.states side).phase ∈ [.offerSent, .closed] := by
  obtain ⟨handshake, describes⟩ := exists_handshake reachable side
  obtain ⟨other, otherDescribes⟩ := exists_handshake reachable side.other
  rcases initiator_of_sentOffer reachable describes sentOffer with
    ⟨offer, rfl⟩ | ⟨offer, answer, rfl⟩
  · exact describes.phase_mem
  · obtain ⟨answeredOffer, rfl, -⟩ :=
      answered_of_concluded different reachable describes otherDescribes
    rcases initiator_of_sentOffer reachable otherDescribes otherSentOffer with
      ⟨_, same⟩ | ⟨_, _, same⟩
    · exact absurd same nofun
    · exact absurd same nofun

/-- In every reachable state of two mirrored connections an applied answer is
the answer the other end holds, at most one end is an initiator whose offer was
answered, and descriptions arrive as they were supplied. -/
theorem negotiation_agreement
    {primitives : Primitives}
    {federation : FederationId}
    {attempt : AttemptId}
    {left right : EndpointIdentity}
    {leftConnection rightConnection : Connection}
    {network : ConnectionNetwork Side}
    (leftCreated : Connection.new federation attempt left right =
      .ok leftConnection)
    (rightCreated : Connection.new federation attempt right left =
      .ok rightConnection)
    (reachable : Reachable primitives (InAttempt federation attempt left right)
      (Side.pair leftConnection rightConnection) network) :
    Agreement network := by
  obtain ⟨different, rfl⟩ := new_eq_ok_iff.mp leftCreated
  obtain ⟨-, rfl⟩ := new_eq_ok_iff.mp rightCreated
  have concludes : ∀ side, ReceivedAnswer network side →
      ∃ offer answer, (Handshake.concluded offer answer).Describes primitives
        (network.states side) (network.history side) := by
    intro side received
    obtain ⟨handshake, describes⟩ := exists_handshake reachable side
    obtain ⟨offer, answer, rfl⟩ :=
      (receivedAnswer_iff reachable describes).mp received
    exact ⟨offer, answer, describes⟩
  refine ⟨?_, ?_, ?_, ?_, ?_, ?_, ?_⟩
  · intro side phase_eq
    obtain ⟨handshake, describes⟩ := exists_handshake reachable side
    have phase_mem := describes.phase_mem
    rw [phase_eq] at phase_mem
    refine (receivedAnswer_iff reachable describes).mpr ?_
    cases handshake <;> simp_all [Handshake.phases]
  · intro side phase_eq
    obtain ⟨handshake, describes⟩ := exists_handshake reachable side
    have phase_mem := describes.phase_mem
    rw [phase_eq] at phase_mem
    cases handshake with
    | concluded offer answer =>
        exact .inl ((receivedAnswer_iff reachable describes).mpr
          ⟨offer, answer, rfl⟩)
    | answered offer answer =>
        exact .inr (sentAnswer_of_answered reachable describes)
    | _ => simp [Handshake.phases] at phase_mem
  · intro side received
    obtain ⟨offer, answer, concluded⟩ := concludes side received
    obtain ⟨handshake, describes⟩ := exists_handshake reachable side.other
    obtain ⟨answeredOffer, rfl, digest_eq⟩ :=
      answered_of_concluded different reachable concluded describes
    refine ⟨_, _, concluded.negotiation_eq, ?_, describes.phase_mem⟩
    rw [describes.negotiation_eq, Handshake.ids, digest_eq]
  · rintro ⟨leftReceived, rightReceived⟩
    obtain ⟨offer, answer, concluded⟩ := concludes .left leftReceived
    obtain ⟨otherOffer, otherAnswer, otherConcluded⟩ :=
      concludes .right rightReceived
    obtain ⟨_, same, -⟩ := answered_of_concluded different reachable concluded
      otherConcluded
    exact absurd same nofun
  · intro leftSent rightSent side
    cases side with
    | left => exact phase_of_glare different reachable leftSent rightSent
    | right => exact phase_of_glare different reachable rightSent leftSent
  · intro earlier later side envelope actions binding description log_eq applied
    obtain ⟨operation, outcome, action, logged, sent, rfl, conveys⟩ :=
      other_end_sent different reachable log_eq (List.ne_nil_of_mem applied)
    obtain rfl := List.mem_singleton.mp applied
    obtain ⟨signer, rfl⟩ := Operation.conveys_applyAnswer_iff.mp conveys
    exact ⟨signer, outcome, logged, sent⟩
  · intro earlier later side envelope actions binding description log_eq applied
    obtain ⟨operation, outcome, action, logged, sent, rfl, conveys⟩ :=
      other_end_sent different reachable log_eq (List.ne_nil_of_mem applied)
    obtain rfl := List.mem_singleton.mp applied
    obtain ⟨signer, rfl⟩ := Operation.conveys_applyOffer_iff.mp conveys
    exact ⟨signer, outcome, logged, sent⟩

/-- The theorem speaks about a run in which an answer is applied and both ends
report a connected transport. -/
theorem negotiation_agreement_sample :
    ∃ network : ConnectionNetwork Side,
      ReceivedAnswer network .left ∧
        (∀ side, (network.states side).phase = .established) ∧
        Agreement network := by
  obtain ⟨network, answer, reachable, received, phases, -⟩ :=
    exists_sample_negotiation (InAttempt ⟨Vector.replicate 32 0⟩
      ⟨Vector.replicate 16 0⟩ (.sample 0) (.sample 1))
  exact ⟨network, ⟨answer, _, _, received⟩, phases,
    negotiation_agreement (new_sample (by decide : (0 : UInt8) ≠ 1))
      (new_sample (by decide : (1 : UInt8) ≠ 0)) reachable⟩

end Attempt

end ConnectionNetwork

end Core
end Fcp
