import Fcp.Core.ConnectionSession
import Fcp.Webrtc.Session

/-!
# Inbound envelopes

A signed envelope reaches a session through the signaling path or through the
control channel.  Both paths give it to the connection; they differ in what they
make of the action that the connection returns.
-/

namespace Fcp
namespace Webrtc

open Core Reactive Rust Transport

/-! ## One computation at a time -/

/-- The application has taken all that waits for it. -/
def Shared.drained (shared : Shared) : Shared :=
  { shared with signals := [], events := [] }

/-- Answer an operation, after the application has drained the queues if it
would have to wait. -/
def respondDraining
    (primitives : Primitives)
    (engine : Engine)
    (shared : Shared)
    (operation : Operation) : Option (operation.Reply × Shared) :=
  (respond primitives engine shared operation).orElse fun _ =>
    respond primitives engine shared.drained operation

/-- What others can see of a computation. -/
inductive Effect
  | event (event : SessionEvent)
  | engine (call : EngineCall)
  | signal (signal : SignalEvent)
  deriving DecidableEq

/-- The effect of one operation. -/
def effect : Event Operation Operation.Reply → Option Effect
  | ⟨.sendEvent event, true⟩ => some (.event event)
  | ⟨.engine call, _⟩ => some (.engine call)
  | ⟨.trySendSignal signal, true⟩ => some (.signal signal)
  | ⟨.sendSignal signal, true⟩ => some (.signal signal)
  | _ => none

/-- Run a computation by itself beside an application that drains its
queues. -/
def runAlone
    (context : SessionContext)
    (engine : Engine)
    (program : Async α)
    (shared : Shared) :
    Program.Execution Shared Operation Operation.Reply α :=
  program.execute (respondDraining context.primitives engine) shared

/-- The effects of a computation by itself. -/
def effects
    (context : SessionContext)
    (engine : Engine)
    (program : Async α)
    (shared : Shared) : List Effect :=
  (runAlone context engine program shared).events.filterMap effect

section Equations

variable {context : SessionContext} {engine : Engine} {α : Type}
variable {shared later : Shared} {operation : Operation}
variable {reply : operation.Reply} {resume : operation.Reply → Async α}

theorem runAlone_perform
    (replied : respondDraining context.primitives engine shared operation =
      some (reply, later)) :
    runAlone context engine (.perform operation resume) shared =
      ⟨(runAlone context engine (resume reply) later).result,
        ⟨operation, reply⟩ ::
          (runAlone context engine (resume reply) later).events,
        (runAlone context engine (resume reply) later).state⟩ :=
  Program.execute_perform replied

/-- An event always finds room. -/
theorem exists_respondDraining_sendEvent (event : SessionEvent) :
    ∃ later, respondDraining context.primitives engine shared
        (.sendEvent event) = some (true, later) ∧
      later.connection = shared.connection := by
  by_cases room : shared.events.length < engineEventCapacity
  · refine ⟨{ shared with events := shared.events ++ [event] }, ?_, rfl⟩
    rw [respondDraining, respond, if_pos room]
    rfl
  · refine ⟨{ shared.drained with events := [event] }, ?_, rfl⟩
    rw [respondDraining, respond, if_neg room]
    rfl

end Equations

/-! ## Actions of an accepted envelope -/

/-- A description that the engine is given: a session description in UTF-8 with
a fingerprint, bound to both, that the engine parses. -/
structure Applicable
    (context : SessionContext)
    (sdpType : RTCSdpType)
    (binding : WebRtcBinding)
    (description : List UInt8)
    (parsed : RTCSessionDescription) : Prop where
  exists_fingerprint : ∃ fingerprint,
    dtlsFingerprint description = .ok fingerprint ∧
      binding = .derive context.primitives description fingerprint
  exists_sdp : ∃ sdp, fromUtf8 description = some sdp ∧
    context.parseDescription sdpType sdp = .ok parsed

theorem checkDescription_eq_ok_iff
    {context : SessionContext}
    {sdpType : RTCSdpType}
    {mismatch : String}
    {binding : WebRtcBinding}
    {description : List UInt8}
    {parsed : RTCSessionDescription} :
    checkDescription context sdpType mismatch binding description =
        .ok parsed ↔
      Applicable context sdpType binding description parsed := by
  simp only [checkDescription, bind_eq_ok_iff, rejectIf_eq_ok_iff,
    Decidable.not_not, okOr_eq_ok_iff, mapError_eq_ok_iff]
  constructor
  · rintro ⟨fingerprint, found, _, bound, sdp, decoded, parsed_eq⟩
    exact ⟨⟨fingerprint, found, bound⟩, ⟨sdp, decoded, parsed_eq⟩⟩
  · rintro ⟨⟨fingerprint, found, bound⟩, ⟨sdp, decoded, parsed_eq⟩⟩
    exact ⟨fingerprint, found, (), bound, sdp, decoded, parsed_eq⟩

/-- The engine call that a body asks for. -/
inductive Asks (context : SessionContext) : Body → EngineCall → Prop
  | offer
      {binding : WebRtcBinding}
      {description : List UInt8}
      {parsed : RTCSessionDescription}
      (applicable : Applicable context .offer binding description parsed) :
      Asks context (.offer binding description) (.setRemoteDescription parsed)
  | answer
      {offerId : EnvelopeId}
      {binding : WebRtcBinding}
      {description : List UInt8}
      {parsed : RTCSessionDescription}
      (applicable : Applicable context .answer binding description parsed) :
      Asks context (.answer offerId binding description)
        (.setRemoteDescription parsed)
  | candidate
      {parentId : EnvelopeId}
      {sequence : UInt32}
      {fragment : List UInt8}
      {parsed : RTCIceCandidateInit}
      (decoded : context.decodeCandidate fragment = some parsed) :
      Asks context (.candidate parentId sequence fragment)
        (.addIceCandidate parsed)
  | close
      {reason : CloseCode} :
      Asks context (.close reason) .closePeer

theorem Applicable.parsed_eq
    {context : SessionContext}
    {sdpType : RTCSdpType}
    {binding : WebRtcBinding}
    {description : List UInt8}
    {first second : RTCSessionDescription}
    (one : Applicable context sdpType binding description first)
    (other : Applicable context sdpType binding description second) :
    first = second := by
  obtain ⟨sdp, decoded, parsed⟩ := one.exists_sdp
  obtain ⟨otherSdp, otherDecoded, otherParsed⟩ := other.exists_sdp
  cases decoded.symm.trans otherDecoded
  cases parsed.symm.trans otherParsed
  rfl

/-- A body asks for at most one engine call. -/
theorem Asks.call_eq
    {context : SessionContext}
    {body : Body}
    {first second : EngineCall}
    (one : Asks context body first)
    (other : Asks context body second) :
    first = second := by
  cases one with
  | offer applicable =>
      cases other with
      | offer otherApplicable => rw [applicable.parsed_eq otherApplicable]
  | answer applicable =>
      cases other with
      | answer otherApplicable => rw [applicable.parsed_eq otherApplicable]
  | candidate decoded =>
      cases other with
      | candidate otherDecoded =>
          cases decoded.symm.trans otherDecoded
          rfl
  | close =>
      cases other
      rfl

/-- What a call of the engine means for the session. -/
def concluded (returned : Except EngineError α) : Except Error Unit :=
  match returned with
  | .ok _ => .ok ()
  | .error error => .error (.webRtc error)

section Reactions

variable {context : SessionContext}
variable {engine : Engine}
variable {shared : Shared}
variable {id : EnvelopeId}
variable {sender : EndpointIdentity}

theorem runAlone_callEngine (call : EngineCall) :
    runAlone context engine (callEngine call >>= fun _ => pure ()).run shared =
      ⟨some (concluded (engine.returns call)),
        [⟨.engine call, engine.returns call⟩], shared⟩ := by
  rw [run_callEngine_bind, runAlone_perform rfl]
  cases engine.returns call <;> rfl

theorem runAlone_applyDescription
    {sdpType : RTCSdpType}
    {mismatch : String}
    {binding : WebRtcBinding}
    {description : List UInt8}
    {parsed : RTCSessionDescription}
    (applicable : Applicable context sdpType binding description parsed) :
    runAlone context engine
        (applyDescription context sdpType mismatch binding description >>=
          fun _ => pure ()).run shared =
      ⟨some (concluded (engine.returns (.setRemoteDescription parsed))),
        [⟨.engine (.setRemoteDescription parsed),
          engine.returns (.setRemoteDescription parsed)⟩], shared⟩ := by
  rw [applyDescription, bind_assoc, run_settle_bind,
    checkDescription_eq_ok_iff.mpr applicable]
  exact runAlone_callEngine _

theorem run_processActions_closeTransport (reason : CloseCode) :
    (processActions context [.closeTransport reason]).run =
      .perform .exchangeTerminal fun won =>
        if won then
          .perform (.sendEvent (.closed reason)) fun sent =>
            if sent then (callEngine .closePeer >>= fun _ => pure ()).run
            else .done (.error .closed)
        else (callEngine .closePeer >>= fun _ => pure ()).run := by
  refine congrArg (Program.perform _) (funext fun won => ?_)
  cases won with
  | false => rfl
  | true =>
      refine congrArg (Program.perform _) (funext fun sent => ?_)
      cases sent <;> rfl

theorem respondDraining_exchangeTerminal :
    respondDraining context.primitives engine shared .exchangeTerminal =
      some (!shared.terminal, { shared with terminal := true }) := by
  obtain ⟨_, _, _, _, _, _, terminal, _⟩ := shared
  cases terminal <;> rfl

/-- A body that asks for an engine call makes it last and returns its result. -/
theorem processActions_of_asks
    {body : Body}
    {call : EngineCall}
    (asks : Asks context body call) :
    ∃ earlier later,
      runAlone context engine
          (processActions context [Connection.reaction id sender body]).run
          shared =
        ⟨some (concluded (engine.returns call)),
          earlier ++ [⟨.engine call, engine.returns call⟩], later⟩ ∧
      later.connection = shared.connection := by
  cases asks with
  | offer applicable =>
      exact ⟨[], shared, runAlone_applyDescription applicable, rfl⟩
  | answer applicable =>
      exact ⟨[], shared, runAlone_applyDescription applicable, rfl⟩
  | candidate decoded =>
      refine ⟨[], shared, ?_, rfl⟩
      rw [processActions, Connection.reaction, processAction, bind_assoc,
        run_settle_bind, decoded]
      exact runAlone_callEngine _
  | @close reason =>
      have closes (state : Shared) : runAlone context engine
          (callEngine .closePeer >>= fun _ => pure ()).run state =
            ⟨some (concluded (engine.returns .closePeer)),
              [⟨.engine .closePeer, engine.returns .closePeer⟩], state⟩ :=
        runAlone_callEngine _
      rw [Connection.reaction, run_processActions_closeTransport,
        runAlone_perform respondDraining_exchangeTerminal]
      cases shared.terminal with
      | true =>
          simp only [Bool.not_true, Bool.false_eq_true, if_false, closes]
          exact ⟨[_], _, rfl, rfl⟩
      | false =>
          simp only [Bool.not_false, if_true]
          obtain ⟨later, replied, same⟩ := exists_respondDraining_sendEvent
            (.closed reason)
          rw [runAlone_perform replied]
          simp only [if_true, closes]
          exact ⟨[_, _], later, rfl, same⟩

/-- A payload is delivered on both paths. -/
theorem processActions_cfrControl (payload : List UInt8) :
    ∃ later,
      runAlone context engine (processActions context
          [Connection.reaction id sender (.cfrControl payload)]).run shared =
        ⟨some (.ok ()), [⟨.sendEvent (.deliverCfr id sender payload), true⟩],
          later⟩ ∧
      runAlone context engine (pumpActions
          [Connection.reaction id sender (.cfrControl payload)]) shared =
        ⟨some true, [⟨.sendEvent (.deliverCfr id sender payload), true⟩],
          later⟩ ∧
      later.connection = shared.connection := by
  obtain ⟨later, replied, same⟩ := exists_respondDraining_sendEvent
    (.deliverCfr id sender payload)
  exact ⟨later, runAlone_perform replied, runAlone_perform replied, same⟩

/-- All other bodies are refused before the engine is called. -/
theorem processActions_of_not_asks
    {body : Body}
    (unasked : ∀ call, ¬Asks context body call)
    (other : ∀ payload, body ≠ .cfrControl payload) :
    ∃ error, (processActions context
      [Connection.reaction id sender body]).run = .done (.error error) := by
  have refused {sdpType : RTCSdpType} {mismatch : String}
      {binding : WebRtcBinding} {description : List UInt8}
      (inapplicable : ∀ parsed,
        ¬Applicable context sdpType binding description parsed) :
      ∃ error, (applyDescription context sdpType mismatch binding
        description >>= fun _ => processActions context []).run =
          .done (.error error) := by
    rw [applyDescription, bind_assoc, run_settle_bind]
    cases checked : checkDescription context sdpType mismatch binding
        description with
    | error error => exact ⟨error, rfl⟩
    | ok parsed =>
        exact absurd (checkDescription_eq_ok_iff.mp checked)
          (inapplicable parsed)
  cases body with
  | offer binding description =>
      exact refused fun parsed applicable => unasked _ (.offer applicable)
  | answer offerId binding description =>
      exact refused fun parsed applicable => unasked _ (.answer applicable)
  | candidate parentId sequence fragment =>
      rw [Connection.reaction, processActions, processAction, bind_assoc,
        run_settle_bind]
      cases decoded : context.decodeCandidate fragment with
      | none => exact ⟨_, rfl⟩
      | some parsed => exact absurd (.candidate decoded) (unasked _)
  | close reason => exact absurd .close (unasked _)
  | cfrControl payload => exact absurd rfl (other payload)

/-- The pump passes over everything but payloads. -/
theorem pumpActions_of_ne_cfrControl
    {body : Body}
    (other : ∀ payload, body ≠ .cfrControl payload) :
    pumpActions [Connection.reaction id sender body] = .done true := by
  cases body with
  | cfrControl payload => exact absurd rfl (other payload)
  | _ => rfl

end Reactions

/-! ## The two paths -/

section Paths

variable {context : SessionContext}
variable {engine : Engine}
variable {shared : Shared}
variable {wire : List UInt8}
variable {envelope : Envelope}
variable {actions : List Action}
variable {later : Connection}

/-- The signaling path carries out the actions of the connection. -/
theorem runAlone_acceptSignal
    (decoded : Envelope.decodeVerified context.primitives wire = .ok envelope)
    (received : (Core.Operation.receive envelope).perform context.primitives
      shared.connection = (.ok actions, later)) :
    runAlone context engine (acceptSignal context wire).run shared =
      let rest := runAlone context engine (processActions context actions).run
        { shared with connection := later }
      ⟨rest.result, ⟨.connection (.receive envelope), .ok actions⟩ ::
        rest.events, rest.state⟩ := by
  have replied : respondDraining context.primitives engine shared
      (.connection (.receive envelope)) =
        some (.ok actions, { shared with connection := later }) := by
    rw [respondDraining, respond, received]
    rfl
  rw [acceptSignal, run_settle_bind, decoded]
  simp only [Except.mapError]
  rw [run_lockConnection_bind, runAlone_perform replied]

/-- The signaling path returns the error of the connection. -/
theorem runAlone_acceptSignal_refused
    {error : Core.Error}
    (decoded : Envelope.decodeVerified context.primitives wire = .ok envelope)
    (refused : (Core.Operation.receive envelope).perform context.primitives
      shared.connection = (.error error, shared.connection)) :
    runAlone context engine (acceptSignal context wire).run shared =
      ⟨some (.error (.fcp error)),
        [⟨.connection (.receive envelope), .error error⟩], shared⟩ := by
  have replied : respondDraining context.primitives engine shared
      (.connection (.receive envelope)) = some (.error error, shared) := by
    rw [respondDraining, respond, refused]
    rfl
  rw [acceptSignal, run_settle_bind, decoded]
  simp only [Except.mapError]
  rw [run_lockConnection_bind, runAlone_perform replied]
  rfl

/-- The pump carries out the same actions in its own way. -/
theorem runAlone_onMessage
    (decoded : Envelope.decodeVerified context.primitives wire = .ok envelope)
    (received : (Core.Operation.receive envelope).perform context.primitives
      shared.connection = (.ok actions, later)) :
    runAlone context engine (handleControlEvent (some (.onMessage wire)))
        shared =
      let rest := runAlone context engine (pumpActions actions)
        { shared with connection := later }
      ⟨rest.result, ⟨.applyEvent (.controlBinary wire), .ok actions⟩ ::
        rest.events, rest.state⟩ := by
  have replied : respondDraining context.primitives engine shared
      (.applyEvent (.controlBinary wire)) =
        some (.ok actions, { shared with connection := later }) := by
    have applied : (applyEvent context.primitives (.controlBinary wire)).call
        shared.connection = (.ok actions, later) := by
      rw [call_applyEvent_controlBinary, decoded]
      exact received
    rw [respondDraining, respond, applied]
    rfl
  exact runAlone_perform replied

/-- An accepted envelope is a known one or a fresh one that the connection
reacts to. -/
theorem actions_of_received
    (received : (Core.Operation.receive envelope).perform context.primitives
      shared.connection = (.ok actions, later)) :
    (envelope.digest context.primitives ∈ shared.connection.seen ∧
        actions = []) ∨
      envelope.digest context.primitives ∉ shared.connection.seen ∧
        actions = [Connection.reaction (envelope.digest context.primitives)
          envelope.sender envelope.body] := by
  cases Connection.perform_eq_ok_iff.mp received with
  | duplicate admitted known => exact .inl ⟨known, rfl⟩
  | receive admitted fresh reacts =>
      exact .inr ⟨fresh, by rw [reacts.action_eq]⟩

end Paths

/-- Both inbound paths leave the same connection and have the same effects. -/
def PathsAgree
    (context : SessionContext)
    (engine : Engine)
    (shared : Shared)
    (wire : List UInt8) : Prop :=
  (runAlone context engine (handleControlEvent (some (.onMessage wire)))
      shared).state.connection =
    (runAlone context engine (acceptSignal context wire).run
      shared).state.connection ∧
  effects context engine (handleControlEvent (some (.onMessage wire))) shared =
    effects context engine (acceptSignal context wire).run shared

/-- The pump drops whatever asks for an engine call. -/
theorem not_pathsAgree_of_asks
    {context : SessionContext}
    {engine : Engine}
    {shared : Shared}
    {wire : List UInt8}
    {envelope : Envelope}
    {later : Connection}
    {call : EngineCall}
    (decoded : Envelope.decodeVerified context.primitives wire = .ok envelope)
    (received : (Core.Operation.receive envelope).perform context.primitives
      shared.connection = (.ok [Connection.reaction
        (envelope.digest context.primitives) envelope.sender envelope.body],
        later))
    (asks : Asks context envelope.body call) :
    ¬PathsAgree context engine shared wire := by
  have other : ∀ payload, envelope.body ≠ .cfrControl payload := by
    intro payload body_eq
    rw [body_eq] at asks
    cases asks
  obtain ⟨earlier, after, processed, -⟩ := @processActions_of_asks context
    engine { shared with connection := later }
    (envelope.digest context.primitives) envelope.sender _ _ asks
  rintro ⟨-, same⟩
  rw [effects, effects, runAlone_acceptSignal decoded received,
    runAlone_onMessage decoded received, pumpActions_of_ne_cfrControl other,
    processed] at same
  have member (first : Event Operation Operation.Reply) :
      Effect.engine call ∈ List.filterMap effect
        (first :: (earlier ++ [⟨.engine call, engine.returns call⟩])) :=
    List.mem_filterMap.mpr ⟨_, List.mem_cons_of_mem _
      (List.mem_append_right _ List.mem_cons_self), rfl⟩
  exact absurd (same ▸ member _) List.not_mem_nil

/-- The control channel and the signaling path treat an envelope that the
connection accepts alike exactly if the envelope is a known one or asks nothing
of the engine. -/
theorem inbound_paths_agree_iff
    (context : SessionContext)
    (engine : Engine)
    (shared : Shared)
    (wire : List UInt8)
    {envelope : Envelope}
    {actions : List Action}
    {later : Connection}
    (decoded : Envelope.decodeVerified context.primitives wire = .ok envelope)
    (received : (Core.Operation.receive envelope).perform context.primitives
      shared.connection = (.ok actions, later)) :
    PathsAgree context engine shared wire ↔
      envelope.digest context.primitives ∈ shared.connection.seen ∨
        ∀ call, ¬Asks context envelope.body call := by
  rcases actions_of_received received with ⟨known, rfl⟩ | ⟨fresh, rfl⟩
  · refine ⟨fun _ => .inl known, fun _ => ?_⟩
    rw [PathsAgree, effects, effects, runAlone_acceptSignal decoded received,
      runAlone_onMessage decoded received]
    exact ⟨rfl, rfl⟩
  · constructor
    · exact fun agree => .inr fun call asks =>
        not_pathsAgree_of_asks decoded received asks agree
    · rintro (known | unasked)
      · exact absurd known fresh
      · rw [PathsAgree, effects, effects,
          runAlone_acceptSignal decoded received,
          runAlone_onMessage decoded received]
        by_cases payload_body : ∃ payload, envelope.body = .cfrControl payload
        · obtain ⟨payload, body_eq⟩ := payload_body
          obtain ⟨after, processed, delivered, -⟩ := @processActions_cfrControl
            context engine { shared with connection := later }
            (envelope.digest context.primitives) envelope.sender payload
          rw [body_eq, processed, delivered]
          exact ⟨rfl, rfl⟩
        · have other : ∀ payload, envelope.body ≠ .cfrControl payload :=
            fun payload body_eq => payload_body ⟨payload, body_eq⟩
          obtain ⟨error, refused⟩ := @processActions_of_not_asks context
            (envelope.digest context.primitives) envelope.sender _ unasked other
          rw [pumpActions_of_ne_cfrControl other, refused]
          exact ⟨rfl, rfl⟩

/-! ### Sample envelopes -/

/-- A connection of the sample session that has been established. -/
def establishedSample : Connection :=
  { Connection.sample 0 1 with
    phase := .established
    negotiation := some ⟨⟨Vector.replicate 32 0⟩, some ⟨Vector.replicate 32 1⟩⟩ }

/-- The envelope that the remote peer of the sample session signs for a body. -/
def remoteSample (body : Body) : Envelope :=
  (Connection.sample 1 0).outbound (.sample 1) body

theorem remoteSample_verifies {body : Body} (bounded : body.WithinBounds) :
    (remoteSample body).verify .sample = .ok () :=
  Envelope.verify_signedBy (EndpointSigner.sample_honest 1) _ _ _ bounded

/-- The wire of a sample envelope. -/
theorem remoteSample_decoded {body : Body} (bounded : body.WithinBounds) :
    Envelope.decodeVerified .sample
        ((remoteSample body).transcript ++ (remoteSample body).signatures) =
      .ok (remoteSample body) :=
  Envelope.decodeVerified_eq_ok_iff.mpr
    ⟨Envelope.decode_eq_ok_iff.mpr ⟨bounded, rfl⟩,
      remoteSample_verifies bounded⟩

/-- Both ends of the sample session are pinned to each other. -/
theorem remoteSample_admitted
    {connection : Connection}
    {body : Body}
    (bounded : body.WithinBounds)
    (pinned : connection.pins = (Connection.sample 0 1).pins) :
    connection.Admits .sample (remoteSample body) := by
  have admitted : (Connection.sample 0 1).Admits .sample (remoteSample body) :=
    ⟨rfl, rfl, rfl, rfl, remoteSample_verifies bounded⟩
  exact admitted.of_pins_eq pinned

theorem receive_remoteSample
    {connection later : Connection}
    {action : Action}
    {body : Body}
    (bounded : body.WithinBounds)
    (pinned : connection.pins = (Connection.sample 0 1).pins)
    (fresh : (remoteSample body).digest .sample ∉ connection.seen)
    (reacts : Connection.Reacts ((remoteSample body).digest .sample) (.sample 1)
      connection body action later) :
    (Core.Operation.receive (remoteSample body)).perform .sample connection =
      (.ok [Connection.reaction ((remoteSample body).digest .sample)
        (.sample 1) body], later.remember ((remoteSample body).digest .sample)) := by
  rw [← reacts.action_eq]
  exact Connection.perform_eq_ok_iff.mpr
    (.receive (remoteSample_admitted bounded pinned) fresh reacts)

/-- A payload of the remote peer is delivered on both paths. -/
theorem inbound_paths_agree_iff_payload :
    PathsAgree .sample (.sample none) (.new establishedSample)
      ((remoteSample (.cfrControl [])).transcript ++
        (remoteSample (.cfrControl [])).signatures) := by
  have decoded := @remoteSample_decoded (.cfrControl []) (Nat.zero_le _)
  have received := @receive_remoteSample establishedSample _ _ (.cfrControl [])
    (Nat.zero_le _) rfl List.not_mem_nil (.cfrControl rfl)
  refine (inbound_paths_agree_iff .sample (.sample none)
    (.new establishedSample) _ decoded received).mpr (.inr fun call asks => ?_)
  generalize body_eq : (remoteSample (.cfrControl [])).body = body at asks
  cases body_eq
  cases asks

/-- A close that the remote peer sends over the control channel closes the
connection, but neither ends the session nor closes the peer connection. -/
theorem control_channel_close_is_dropped :
    ∃ (context : SessionContext) (engine : Engine) (shared : Shared)
      (wire : List UInt8) (envelope : Envelope) (actions : List Action)
      (later : Connection),
      Envelope.decodeVerified context.primitives wire = .ok envelope ∧
      (Core.Operation.receive envelope).perform context.primitives
        shared.connection = (.ok actions, later) ∧
      (∀ call, ∃ result, engine.returns call = .ok result) ∧
      later.phase = .closed ∧
      effects context engine (handleControlEvent (some (.onMessage wire)))
        shared = [] ∧
      effects context engine (acceptSignal context wire).run shared =
        [.event (.closed ⟨0⟩), .engine .closePeer] ∧
      ¬PathsAgree context engine shared wire := by
  have decoded := @remoteSample_decoded (.close ⟨0⟩) trivial
  have received := @receive_remoteSample establishedSample _ _ (.close ⟨0⟩)
    trivial rfl List.not_mem_nil (.close (by decide) (by decide))
  refine ⟨.sample, .sample none, .new establishedSample, _, _, _, _, decoded,
    received, fun call => ?_, rfl, ?_, ?_,
    not_pathsAgree_of_asks decoded received .close⟩
  · cases call <;> exact ⟨_, rfl⟩
  · rw [effects, @runAlone_onMessage .sample (.sample none)
      (.new establishedSample) _ _ _ _ decoded received]
    rfl
  · rw [effects, @runAlone_acceptSignal .sample (.sample none)
      (.new establishedSample) _ _ _ _ decoded received]
    rfl

/-! ## Refused signals -/

/-- The connection reacts to an envelope that it has not seen. -/
def Acts
    (primitives : Primitives)
    (connection : Connection)
    (envelope : Envelope) : Prop :=
  connection.Admits primitives envelope ∧
    envelope.digest primitives ∉ connection.seen ∧
    ∃ action later, Connection.Reacts (envelope.digest primitives)
      envelope.sender connection envelope.body action later

/-- A session can carry out a body: it is a payload, or it asks for an engine
call and the engine succeeds. -/
def Carried
    (context : SessionContext)
    (engine : Engine)
    (body : Body) : Prop :=
  (∃ payload, body = .cfrControl payload) ∨
    ∃ call result, Asks context body call ∧ engine.returns call = .ok result

section Refusals

variable {context : SessionContext}
variable {engine : Engine}
variable {shared : Shared}
variable {id : EnvelopeId}
variable {sender : EndpointIdentity}
variable {body : Body}

/-- A session reports an error exactly if it cannot carry out the body, and
leaves the connection alone in any case. -/
theorem processActions_result
    (context : SessionContext)
    (engine : Engine)
    (shared : Shared)
    (id : EnvelopeId)
    (sender : EndpointIdentity)
    (body : Body) :
    ((∃ error, (runAlone context engine (processActions context
        [Connection.reaction id sender body]).run shared).result =
          some (.error error)) ↔ ¬Carried context engine body) ∧
      (runAlone context engine (processActions context
        [Connection.reaction id sender body]).run shared).state.connection =
          shared.connection := by
  by_cases payload_body : ∃ payload, body = .cfrControl payload
  · obtain ⟨payload, rfl⟩ := payload_body
    obtain ⟨later, processed, -, same⟩ := @processActions_cfrControl context
      engine shared id sender payload
    rw [processed]
    exact ⟨⟨nofun, fun uncarried => absurd (.inl ⟨payload, rfl⟩) uncarried⟩,
      same⟩
  · by_cases asked : ∃ call, Asks context body call
    · obtain ⟨call, asks⟩ := asked
      obtain ⟨earlier, later, processed, same⟩ := @processActions_of_asks
        context engine shared id sender body call asks
      rw [processed]
      refine ⟨?_, same⟩
      cases returned : engine.returns call with
      | ok result =>
          exact ⟨nofun, fun uncarried =>
            absurd (.inr ⟨call, result, asks, returned⟩) uncarried⟩
      | error error =>
          refine ⟨fun _ carried => ?_, fun _ => ⟨_, rfl⟩⟩
          rcases carried with payload | ⟨other, result, other_asks, succeeded⟩
          · exact payload_body payload
          · cases asks.call_eq other_asks
            cases returned.symm.trans succeeded
    · obtain ⟨error, refused⟩ := @processActions_of_not_asks context id sender
        body (fun call asks => asked ⟨call, asks⟩)
        fun payload body_eq => payload_body ⟨payload, body_eq⟩
      rw [refused]
      refine ⟨⟨fun _ carried => ?_, fun _ => ⟨error, rfl⟩⟩, rfl⟩
      rcases carried with payload | ⟨call, -, asks, -⟩
      · exact payload_body payload
      · exact asked ⟨call, asks⟩

/-- A fresh envelope that the connection reacts to changes the connection. -/
theorem connection_ne_of_acts
    {primitives : Primitives}
    {connection later : Connection}
    {envelope : Envelope}
    (fresh : envelope.digest primitives ∉ connection.seen) :
    later.remember (envelope.digest primitives) ≠ connection := by
  intro same
  rw [← same] at fresh
  exact fresh (List.mem_append_right _ List.mem_cons_self)

end Refusals

/-- A refused signal leaves the connection as it was exactly if the session can
carry out the body of every envelope that the connection reacts to. -/
theorem refused_signals_keep_connection_iff
    (context : SessionContext)
    (engine : Engine)
    (shared : Shared)
    (wire : List UInt8) :
    (∀ error,
      (runAlone context engine (acceptSignal context wire).run shared).result =
        some (.error error) →
      (runAlone context engine (acceptSignal context wire).run
        shared).state.connection = shared.connection) ↔
    ∀ envelope,
      Envelope.decodeVerified context.primitives wire = .ok envelope →
      Acts context.primitives shared.connection envelope →
      Carried context engine envelope.body := by
  constructor
  · rintro kept envelope decoded ⟨admitted, fresh, action, later, reacts⟩
    have received := Connection.perform_eq_ok_iff.mpr
      (.receive admitted fresh reacts)
    rw [reacts.action_eq] at received
    rw [runAlone_acceptSignal decoded received] at kept
    obtain ⟨failed_iff, same⟩ := processActions_result context engine
      { shared with connection := later.remember _ }
      (envelope.digest context.primitives) envelope.sender envelope.body
    by_contra uncarried
    obtain ⟨error, failed⟩ := failed_iff.mpr uncarried
    exact connection_ne_of_acts fresh (same.symm.trans (kept error failed))
  · intro carried error failed
    cases decoded : Envelope.decodeVerified context.primitives wire with
    | error refusal =>
        rw [acceptSignal, run_settle_bind, decoded]
        rfl
    | ok envelope =>
        rcases Connection.perform_cases context.primitives shared.connection
            (.receive envelope) with
          ⟨refusal, refused⟩ | ⟨actions, later, received, transition⟩
        · rw [runAlone_acceptSignal_refused decoded refused]
        · rw [runAlone_acceptSignal decoded received] at failed ⊢
          cases transition with
          | duplicate admitted known => cases failed
          | receive admitted fresh reacts =>
              rw [reacts.action_eq] at failed
              obtain ⟨failed_iff, -⟩ := processActions_result context engine
                { shared with connection := _ }
                (envelope.digest context.primitives) envelope.sender
                envelope.body
              exact absurd (carried envelope decoded
                ⟨admitted, fresh, _, _, reacts⟩) (failed_iff.mp ⟨error, failed⟩)

/-- An offer whose description has no fingerprint is refused with an error, yet
the connection has taken it: when it comes again it is passed over without an
error. -/
theorem refused_offer_is_remembered :
    ∃ (context : SessionContext) (engine : Engine) (shared : Shared)
      (wire : List UInt8) (error : Error),
      (runAlone context engine (acceptSignal context wire).run shared).result =
        some (.error error) ∧
      (runAlone context engine (acceptSignal context wire).run
        shared).state.connection ≠ shared.connection ∧
      (runAlone context engine (acceptSignal context wire).run
        (runAlone context engine (acceptSignal context wire).run
          shared).state).result = some (.ok ()) ∧
      effects context engine (acceptSignal context wire).run
        (runAlone context engine (acceptSignal context wire).run
          shared).state = [] := by
  let offer : Body := .offer ⟨Vector.replicate 32 0⟩ []
  let wire := (remoteSample offer).transcript ++ (remoteSample offer).signatures
  let taken : Connection :=
    { Connection.sample 0 1 with
      negotiation := some ⟨(remoteSample offer).digest .sample, none⟩
      phase := .offerReceived }
  let remembered := taken.remember ((remoteSample offer).digest .sample)
  have bounded : offer.WithinBounds := Nat.zero_le _
  have decoded : Envelope.decodeVerified .sample wire =
      .ok (remoteSample offer) :=
    remoteSample_decoded bounded
  have received : (Core.Operation.receive (remoteSample offer)).perform .sample
      (Connection.sample 0 1) =
        (.ok [.applyOffer ⟨Vector.replicate 32 0⟩ []], remembered) :=
    receive_remoteSample bounded rfl List.not_mem_nil (.offer rfl)
  have again : (Core.Operation.receive (remoteSample offer)).perform .sample
      remembered = (.ok [], remembered) :=
    Connection.perform_eq_ok_iff.mpr (.duplicate
      (remoteSample_admitted bounded rfl) List.mem_cons_self)
  have first := @runAlone_acceptSignal .sample (.sample none)
    (.new (.sample 0 1)) _ _ _ _ decoded received
  have second := @runAlone_acceptSignal .sample (.sample none)
    (.new remembered) _ _ _ _ decoded again
  refine ⟨.sample, .sample none, .new (.sample 0 1), wire,
    .invalidAction "SDP contains no DTLS fingerprint", ?_, ?_, ?_, ?_⟩
  · rw [first]
    rfl
  · rw [first]
    exact connection_ne_of_acts List.not_mem_nil
  · rw [first]
    exact congrArg Program.Execution.result second
  · rw [first, effects]
    exact congrArg (fun alone => alone.events.filterMap effect) second

end Webrtc
end Fcp
