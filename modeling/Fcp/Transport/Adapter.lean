import Fcp.Core.ConnectionTransition

/-!
# Events of a platform adapter

What an adapter of a WebRTC engine reports to the owner of a connection, and how
a report is applied to the connection.
-/

namespace Fcp
namespace Transport

open Core Rust

/-- One event that a platform adapter reports. -/
inductive AdapterEvent
  | connected
  | controlBinary (wire : List UInt8)
  | failed
  | closed

/-- Apply a platform event to one connection. -/
def applyEvent (primitives : Primitives) :
    AdapterEvent → ConnectionM (List Action)
  | .connected => Connection.transportConnected
  | .controlBinary wire => do
      let envelope ← Envelope.decodeVerified primitives wire
      Connection.receive primitives envelope
  | .failed | .closed => do
      Connection.transportFailed
      return []

/-- A binary message is decoded, verified and received. -/
theorem call_applyEvent_controlBinary
    (primitives : Primitives)
    (wire : List UInt8)
    (connection : Connection) :
    (applyEvent primitives (.controlBinary wire)).call connection =
      match Envelope.decodeVerified primitives wire with
      | .ok envelope => (Connection.receive primitives envelope).call connection
      | .error error => (.error error, connection) := by
  rw [applyEvent, Method.call_lift_bind]
  cases Envelope.decodeVerified primitives wire <;> rfl

/-- The operations of a connection that stand behind an event. -/
inductive AdapterEvent.Reports : AdapterEvent → Operation → Prop
  | connected : Reports .connected .transportConnected
  | controlBinary {wire : List UInt8} {envelope : Envelope} :
      Reports (.controlBinary wire) (.receive envelope)
  | failed : Reports .failed .transportFailed
  | closed : Reports .closed .transportFailed

/-- An applied event is an operation of the connection or a wire that is not
decoded. -/
theorem call_applyEvent_cases
    (primitives : Primitives)
    (event : AdapterEvent)
    (connection : Connection) :
    (∃ error, (applyEvent primitives event).call connection =
        (.error error, connection)) ∨
      ∃ operation, event.Reports operation ∧
        (applyEvent primitives event).call connection =
          operation.perform primitives connection := by
  cases event with
  | connected => exact .inr ⟨.transportConnected, .connected, rfl⟩
  | controlBinary wire =>
      rw [call_applyEvent_controlBinary]
      cases Envelope.decodeVerified primitives wire with
      | error error => exact .inl ⟨error, rfl⟩
      | ok envelope => exact .inr ⟨.receive envelope, .controlBinary, rfl⟩
  | failed => exact .inr ⟨.transportFailed, .failed, rfl⟩
  | closed => exact .inr ⟨.transportFailed, .closed, rfl⟩

end Transport
end Fcp
