import Fcp.Fabric.Store.Federation
import Fcp.Fabric.Store.Mfa
import Fcp.Fabric.Store.Sessions
import Fcp.Fabric.Store.Tokens
import Fcp.Fabric.Store.Webauthn

/-!
# The calls of the store

Every public operation of the store as one atomic step of the database.
-/

namespace Fcp
namespace Fabric

open Rust
open Sql

/-- A store call with its arguments. -/
inductive Call
  | bootstrapTenant (command : BootstrapTenant)
  | inviteAccount (command : InviteAccount)
  | changeRole (command : ChangeRole)
  | storePasswordVerifier (request : StorePasswordVerifier)
  | loginAccount (address : UserAddress)
  | userAddressForAccount (tenant : TenantId) (account : AccountId)
  | rolesForAccount (tenant : TenantId) (account : AccountId)
  | sessionAuthorizationContext (tenant : TenantId) (account : AccountId)
  | hasActiveTotpFactor (tenant : TenantId) (account : AccountId)
  | createTotpDataKeyEnvelope (request : CreateTotpDataKeyEnvelope)
  | totpDataKeyEnvelope (reference : TotpKeyReference)
  | createPendingTotpFactor (request : CreatePendingTotpFactor)
  | activeTotpFactor (tenant : TenantId) (account : AccountId)
  | pendingTotpFactor
      (tenant : TenantId)
      (account : AccountId)
      (factor : Uuid)
  | activateTotpFactor (request : ActivateTotpFactor)
  | consumeTotpStep (request : ConsumeTotpStep)
  | replaceRecoveryCodeSet (request : ReplaceRecoveryCodeSet)
  | consumeRecoveryCode (request : ConsumeRecoveryCode)
  | accessSessionAuthorizationContext (digest : OpaqueTokenDigest)
  | createRefreshSession (request : CreateRefreshSession)
  | rotateRefreshCredential (request : RotateRefreshCredential)
  | revokeRefreshSessionFamily (request : RevokeRefreshSessionFamily)
  | createStepUpGrant (request : CreateStepUpGrant)
  | consumeStepUpGrant (request : ConsumeStepUpGrant)
  | createLoginTransaction (request : CreateLoginTransaction)
  | consumeLoginTransaction (request : ConsumeLoginTransaction)
  | createWebauthnCeremony (request : CreateWebauthnCeremony)
  | consumeWebauthnCeremony (request : ConsumeWebauthnCeremony)
  | activeWebauthnPasskeys (tenant : TenantId) (account : AccountId)
  | registerWebauthnPasskey (request : RegisterWebauthnPasskey)
  | updateWebauthnPasskey (request : UpdateWebauthnPasskey)
  | federationPeerMaterial (localDomain remoteDomain : DomainName)
  | recordFederationReplay (request : RecordFederationReplay)

namespace Call

/-- What a successful call returns. -/
abbrev Result : Call → Type
  | bootstrapTenant _ => BootstrapResult
  | inviteAccount _ => AccountId
  | loginAccount _ => Option LoginAccount
  | userAddressForAccount _ _ => Option UserAddress
  | rolesForAccount _ _ => List Role
  | sessionAuthorizationContext _ _ => Option AuthorizationContext
  | hasActiveTotpFactor _ _ => Bool
  | totpDataKeyEnvelope _ => Option StoredTotpDataKeyEnvelope
  | activeTotpFactor _ _ => Option PersistedTotpFactor
  | pendingTotpFactor _ _ _ => Option PersistedTotpFactor
  | replaceRecoveryCodeSet _ => RecoveryCodeSetRecord
  | consumeRecoveryCode _ => Bool
  | accessSessionAuthorizationContext _ => Option AccessSessionAuthorization
  | createRefreshSession _ => RefreshSessionRecord
  | rotateRefreshCredential _ => RefreshRotation
  | revokeRefreshSessionFamily _ => Bool
  | createStepUpGrant _ => StepUpGrantRecord
  | consumeStepUpGrant _ => Bool
  | createLoginTransaction _ => LoginTransactionRecord
  | consumeLoginTransaction _ => LoginTransactionRecord
  | consumeWebauthnCeremony _ => WebauthnCeremonyRecord
  | activeWebauthnPasskeys _ _ => List StoredWebauthnPasskey
  | federationPeerMaterial _ _ => Option StoredFederationPeerMaterial
  | recordFederationReplay _ => Bool
  | _ => Unit

/-- What a call answers. -/
abbrev Reply (call : Call) : Type :=
  Except StoreError call.Result

/-- The transaction that a call runs. -/
def run (unicode : Unicode) (generated : Generated) :
    (call : Call) → StoreTransaction call.Result
  | bootstrapTenant command => Store.bootstrapTenant generated command
  | inviteAccount command => Store.inviteAccount generated command
  | changeRole command => Store.changeRole generated command
  | storePasswordVerifier request =>
      Store.storePasswordVerifier generated request
  | loginAccount address => return (← get).loginAccount address
  | userAddressForAccount tenant account => do
      (← get).userAddressForAccount unicode tenant account
  | rolesForAccount tenant account =>
      return (← get).rolesForAccount tenant account
  | sessionAuthorizationContext tenant account =>
      return (← get).sessionAuthorizationContext tenant account
  | hasActiveTotpFactor tenant account =>
      return (← get).hasActiveTotpFactor tenant account
  | createTotpDataKeyEnvelope request =>
      Store.createTotpDataKeyEnvelope request
  | totpDataKeyEnvelope reference => do
      (← get).totpDataKeyEnvelope reference
  | createPendingTotpFactor request =>
      Store.createPendingTotpFactor generated request
  | activeTotpFactor tenant account => do
      (← get).activeTotpFactor tenant account
  | pendingTotpFactor tenant account factor => do
      (← get).pendingTotpFactor tenant account factor
  | activateTotpFactor request => Store.activateTotpFactor generated request
  | consumeTotpStep request => Store.consumeTotpStep request
  | replaceRecoveryCodeSet request =>
      Store.replaceRecoveryCodeSet generated request
  | consumeRecoveryCode request => Store.consumeRecoveryCode generated request
  | accessSessionAuthorizationContext digest =>
      return (← get).accessSessionAuthorizationContext generated.now digest
  | createRefreshSession request => Store.createRefreshSession generated request
  | rotateRefreshCredential request =>
      Store.rotateRefreshCredential generated request
  | revokeRefreshSessionFamily request =>
      Store.revokeRefreshSessionFamily generated request
  | createStepUpGrant request => Store.createStepUpGrant generated request
  | consumeStepUpGrant request => Store.consumeStepUpGrant generated request
  | createLoginTransaction request =>
      Store.createLoginTransaction generated request
  | consumeLoginTransaction request =>
      Store.consumeLoginTransaction generated request
  | createWebauthnCeremony request =>
      Store.createWebauthnCeremony generated request
  | consumeWebauthnCeremony request =>
      Store.consumeWebauthnCeremony generated request
  | activeWebauthnPasskeys tenant account =>
      return (← get).activeWebauthnPasskeys tenant account
  | registerWebauthnPasskey request =>
      Store.registerWebauthnPasskey generated request
  | updateWebauthnPasskey request =>
      Store.updateWebauthnPasskey generated request
  | federationPeerMaterial localDomain remoteDomain =>
      return (← get).federationPeerMaterial generated.now localDomain
        remoteDomain
  | recordFederationReplay request =>
      Store.recordFederationReplay generated request

end Call

/-- One call answered by the database: its transaction commits or is rolled
back, or the database itself fails. -/
inductive Store.Step (unicode : Unicode) (store : Store) :
    (call : Call) → call.Reply → Store → Prop
  | answers (generated : Generated) {call reply later}
      (answered : (call.run unicode generated).commit store = (reply, later)) :
      Step unicode store call reply later
  | fails (call : Call) : Step unicode store call (.error .database) store

end Fabric
end Fcp
