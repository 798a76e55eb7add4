import Fcp.Parsing.Cursor
import Fcp.Parsing.BigEndian
import Fcp.Parsing.Bits
import Fcp.Rust.Fallible
import Fcp.Rust.Method
import Fcp.Rust.Text
import Fcp.Reactive.Session
import Fcp.Reactive.Network
import Fcp.Reactive.OneTime
import Fcp.Reactive.InOrder
import Fcp.Reactive.Window
import Fcp.Reactive.Register
import Fcp.Reactive.Trace
import Fcp.Reactive.Program
import Fcp.Sql.Table
import Fcp.Sql.Transaction
import Fcp.Sql.Succession
import Fcp.Sql.Evolution
import Fcp.Sql.Confinement
import Fcp.Core.Types
import Fcp.Core.Identity
import Fcp.Core.Envelope
import Fcp.Core.EnvelopeTranscript
import Fcp.Core.EnvelopeReader
import Fcp.Core.EnvelopeCanonical
import Fcp.Core.Configuration
import Fcp.Core.ConfigurationCanonical
import Fcp.Core.Connection
import Fcp.Core.ConnectionTransition
import Fcp.Core.ConnectionSession
import Fcp.Core.Lifecycle
import Fcp.Core.ReplayWindow
import Fcp.Core.ConnectionNetwork
import Fcp.Core.Negotiation
import Fcp.Core.CfrDelivery
import Fcp.Core.CandidateOrder
import Fcp.Server.FederationServer
import Fcp.Client.FederationClient
import Fcp.Client.Acceptance
import Fcp.Client.Convergence
import Fcp.Client.FanOut
import Fcp.Fabric.Address
import Fcp.Fabric.AddressCanonical
import Fcp.Fabric.FederationDelivery
import Fcp.Fabric.SigningTranscripts
import Fcp.Fabric.Clock
import Fcp.Fabric.Policy
import Fcp.Fabric.RemotePeerPolicy
import Fcp.Fabric.Administration
import Fcp.Fabric.OpaqueToken
import Fcp.Fabric.Base64
import Fcp.Fabric.Totp
import Fcp.Fabric.Base32
import Fcp.Fabric.Store.Schema
import Fcp.Fabric.Store.Helpers
import Fcp.Fabric.Store.Accounts
import Fcp.Fabric.Store.Addresses
import Fcp.Fabric.Store.Mfa
import Fcp.Fabric.Store.Sessions
import Fcp.Fabric.Store.Tokens
import Fcp.Fabric.Store.Webauthn
import Fcp.Fabric.Store.Federation
import Fcp.Fabric.Store.Audit
import Fcp.Fabric.Store.Calls
import Fcp.Fabric.Store.CredentialChanges
import Fcp.Fabric.Store.Effects
import Fcp.Fabric.Store.Steps
import Fcp.Fabric.Store.Progress
import Fcp.Fabric.Store.RecoveryCodes
import Fcp.Fabric.Store.Passkeys
import Fcp.Fabric.Store.Families
import Fcp.Fabric.Store.Revocation
import Fcp.Fabric.Store.Factors
import Fcp.Fabric.Store.Spending
import Fcp.Fabric.Store.Tenancy
import Fcp.Fabric.Store.Roles
import Fcp.Fabric.Service.Operations
import Fcp.Fabric.Service.Login
import Fcp.Fabric.Service.Mfa
import Fcp.Fabric.Service.Session
import Fcp.Fabric.Service.StepUp
import Fcp.Fabric.Service.Webauthn
import Fcp.Fabric.Service.FederationIngress
import Fcp.Fabric.Service.Recovery
import Fcp.Fabric.Service.RecoveryRuns
import Fcp.Fabric.Service.PasskeyRuns
import Fcp.Fabric.Service.PasskeyCounters
import Fcp.Fabric.Transport.Browser
import Fcp.Fabric.Transport.Session
import Fcp.Fabric.Transport.Auth
import Fcp.Fabric.Transport.Admin
import Fcp.Fabric.Transport.Passkeys
import Fcp.Fabric.Transport.Requests
import Fcp.Fabric.Transport.Guarantee
import Fcp.Fabric.Transport.Services
import Fcp.Fabric.Transport.Handlers
import Fcp.Fabric.Transport.Runs
import Fcp.Fabric.Transport.Schedules
import Fcp.Fabric.Transport.ActiveFactors
import Fcp.Fabric.Transport.PasswordLogin
import Fcp.Fabric.Transport.TimeSteps
import Fcp.Fabric.Transport.SessionEvidence
import Fcp.Fabric.Transport.RoleChanges
import Fcp.Fabric.Transport.LoginSteps
import Fcp.Fabric.Transport.Enrollment
import Fcp.Fabric.Transport.FederationAdmission
import Fcp.Fabric.Transport.FederationAgreement
import Fcp.Transport.Adapter
import Fcp.Transport.Queue
import Fcp.Webrtc.Engine
import Fcp.Webrtc.Control
import Fcp.Webrtc.Session
import Fcp.Webrtc.InboundSignals
import Fcp.Webrtc.Tasks
import Fcp.Webrtc.Conduct
import Fcp.Webrtc.Termination
import Fcp.Webrtc.PumpLiveness
import Fcp.Webrtc.SignalOrder
import Fcp.Webrtc.CandidateConservation
