import Fcp.Fabric.Store.Calls

/-!
# What a call can do

Every successful call with its guards, the rows that it adds or changes and the
result that it returns.  A call that does not succeed changes nothing.
-/

namespace Fcp
namespace Fabric

open Rust
open Sql
open Sql.Transaction

namespace Store

/-- A successful call, its result and the database after it. -/
inductive Effect (unicode : Unicode) (store : Store) :
    (call : Call) → call.Result → Store → Prop
  | tenantBootstrapped
      {command : BootstrapTenant}
      (generated : Generated)
      {tenants accounts accountRoles auditEvents}
      (valid : command.validate = .ok ())
      (tenants_rows : tenants.rows =
        store.tenants.rows ++ [command.tenant generated])
      (accounts_rows : accounts.rows =
        store.accounts.rows ++ [command.owner generated])
      (roles_rows : accountRoles.rows =
        store.accountRoles.rows ++ [BootstrapTenant.ownerRole generated])
      (audit_rows : auditEvents.rows =
        store.auditEvents.rows ++ [command.audit generated]) :
      Effect unicode store (.bootstrapTenant command)
        (BootstrapTenant.result generated)
        { store with
          tenants := tenants
          accounts := accounts
          accountRoles := accountRoles
          auditEvents := auditEvents }
  | accountInvited
      {command : InviteAccount}
      (generated : Generated)
      {accounts accountRoles auditEvents}
      (valid : command.validate = .ok ())
      (tenant_exists : store.hasTenant command.tenantId = true)
      (accounts_rows : accounts.rows =
        store.accounts.rows ++ [command.account generated])
      (roles_rows : accountRoles.rows =
        store.accountRoles.rows ++ [command.accountRole generated])
      (audit_rows : auditEvents.rows =
        store.auditEvents.rows ++ [command.audit generated]) :
      Effect unicode store (.inviteAccount command) ⟨generated.uuid 0⟩
        { store with
          accounts := accounts
          accountRoles := accountRoles
          auditEvents := auditEvents }
  | roleGranted
      {command : ChangeRole}
      (generated : Generated)
      {accountRoles auditEvents}
      (valid : command.validate = .ok ())
      (grants : command.grant = true)
      (target_exists : store.hasAccount command.tenantId
        command.targetAccountId = true)
      (roles_rows : accountRoles.rows =
        store.accountRoles.rows ++ [command.accountRole generated])
      (audit_rows : auditEvents.rows =
        store.auditEvents.rows ++ [command.audit generated]) :
      Effect unicode store (.changeRole command) ()
        { store with accountRoles := accountRoles, auditEvents := auditEvents }
  | roleRevoked
      {command : ChangeRole}
      (generated : Generated)
      {auditEvents}
      (valid : command.validate = .ok ())
      (revokes : command.grant = false)
      (held : store.accountRoles.count command.selects = 1)
      (audit_rows : auditEvents.rows =
        store.auditEvents.rows ++ [command.audit generated]) :
      Effect unicode store (.changeRole command) ()
        { store with
          accountRoles := store.accountRoles.delete command.selects
          auditEvents := auditEvents }
  | passwordCreated
      {request : StorePasswordVerifier}
      (generated : Generated)
      {passwordCredentials auditEvents}
      (account_exists : store.hasAccount request.tenantId
        request.accountId = true)
      (passwords_rows : passwordCredentials.rows =
        store.passwordCredentials.rows ++ [request.credential generated])
      (audit_rows : auditEvents.rows =
        store.auditEvents.rows ++ [request.audit generated]) :
      Effect unicode store (.storePasswordVerifier request) ()
        { store with
          passwordCredentials := passwordCredentials
          auditEvents := auditEvents }
  | passwordReplaced
      {request : StorePasswordVerifier}
      (generated : Generated)
      {passwordCredentials auditEvents}
      (account_exists : store.hasAccount request.tenantId
        request.accountId = true)
      (passwords_rows : passwordCredentials.rows =
        store.passwordCredentials.rows.map
          (modify (fun row => row.accountId = request.accountId)
            (request.replaces generated)))
      (audit_rows : auditEvents.rows =
        store.auditEvents.rows ++ [request.audit generated]) :
      Effect unicode store (.storePasswordVerifier request) ()
        { store with
          passwordCredentials := passwordCredentials
          auditEvents := auditEvents }
  | accountFound (address : UserAddress) :
      Effect unicode store (.loginAccount address) (store.loginAccount address)
        store
  | addressFound
      {tenant : TenantId}
      {account : AccountId}
      {address : Option UserAddress}
      (found : store.userAddressForAccount unicode tenant account =
        .ok address) :
      Effect unicode store (.userAddressForAccount tenant account) address store
  | rolesFound (tenant : TenantId) (account : AccountId) :
      Effect unicode store (.rolesForAccount tenant account)
        (store.rolesForAccount tenant account) store
  | contextFound (tenant : TenantId) (account : AccountId) :
      Effect unicode store (.sessionAuthorizationContext tenant account)
        (store.sessionAuthorizationContext tenant account) store
  | factorChecked (tenant : TenantId) (account : AccountId) :
      Effect unicode store (.hasActiveTotpFactor tenant account)
        (store.hasActiveTotpFactor tenant account) store
  | envelopeCreated
      {request : CreateTotpDataKeyEnvelope}
      {totpDataKeyEnvelopes}
      (bounded : ¬BadEnvelope request.provider request.wrappingKeyReference
        request.encryptedDataKey)
      (envelopes_rows : totpDataKeyEnvelopes.rows =
        store.totpDataKeyEnvelopes.rows ++ [request.envelope]) :
      Effect unicode store (.createTotpDataKeyEnvelope request) ()
        { store with totpDataKeyEnvelopes := totpDataKeyEnvelopes }
  | envelopeFound
      {reference : TotpKeyReference}
      {envelope : Option StoredTotpDataKeyEnvelope}
      (found : store.totpDataKeyEnvelope reference = .ok envelope) :
      Effect unicode store (.totpDataKeyEnvelope reference) envelope store
  | pendingFactorCreated
      {request : CreatePendingTotpFactor}
      (generated : Generated)
      {mfaTotpFactors auditEvents}
      (account_exists : store.hasAccount request.tenantId
        request.accountId = true)
      (factors_rows : mfaTotpFactors.rows =
        store.mfaTotpFactors.rows ++ [request.factor generated])
      (audit_rows : auditEvents.rows =
        store.auditEvents.rows ++ [request.audit generated]) :
      Effect unicode store (.createPendingTotpFactor request) ()
        { store with
          mfaTotpFactors := mfaTotpFactors
          auditEvents := auditEvents }
  | activeFactorFound
      {tenant : TenantId}
      {account : AccountId}
      {factor : Option PersistedTotpFactor}
      (found : store.activeTotpFactor tenant account = .ok factor) :
      Effect unicode store (.activeTotpFactor tenant account) factor store
  | pendingFactorFound
      {tenant : TenantId}
      {account : AccountId}
      {id : Uuid}
      {factor : Option PersistedTotpFactor}
      (found : store.pendingTotpFactor tenant account id = .ok factor) :
      Effect unicode store (.pendingTotpFactor tenant account id) factor store
  | factorActivated
      {request : ActivateTotpFactor}
      (generated : Generated)
      {mfaTotpFactors accounts auditEvents}
      (factor_pending : store.mfaTotpFactors.count request.selects = 1)
      (account_awaits : store.accounts.count request.selectsAccount = 1)
      (factors_rows : mfaTotpFactors.rows =
        store.mfaTotpFactors.rows.map
          (modify request.selects (request.activates generated)))
      (accounts_rows : accounts.rows =
        store.accounts.rows.map
          (modify request.selectsAccount
            (ActivateTotpFactor.releases generated)))
      (audit_rows : auditEvents.rows =
        store.auditEvents.rows ++ [request.audit generated]) :
      Effect unicode store (.activateTotpFactor request) ()
        { store with
          mfaTotpFactors := mfaTotpFactors
          accounts := accounts
          auditEvents := auditEvents }
  | stepConsumed
      {request : ConsumeTotpStep}
      {mfaTotpFactors}
      (account_active : store.hasAccountIn request.tenantId request.accountId
        .active = true)
      (factor_active : store.mfaTotpFactors.count request.selects = 1)
      (factors_rows : mfaTotpFactors.rows =
        store.mfaTotpFactors.rows.map
          (modify request.selects request.records)) :
      Effect unicode store (.consumeTotpStep request) ()
        { store with mfaTotpFactors := mfaTotpFactors }
  | recoverySetReplaced
      {request : ReplaceRecoveryCodeSet}
      (generated : Generated)
      {recoveryCodeSets recoveryCodeVerifiers auditEvents}
      (bounded : ¬request.Unsafe)
      (account_exists : store.hasAccount request.tenantId
        request.accountId = true)
      (sets_rows : recoveryCodeSets.rows =
        store.recoveryCodeSets.rows.map
            (modify request.selects
              (ReplaceRecoveryCodeSet.invalidates generated)) ++
          [request.set generated])
      (verifiers_rows : recoveryCodeVerifiers.rows =
        store.recoveryCodeVerifiers.rows ++
          ReplaceRecoveryCodeSet.verifierRows generated 1 request.verifiers)
      (audit_rows : auditEvents.rows =
        store.auditEvents.rows ++ [request.audit generated]) :
      Effect unicode store (.replaceRecoveryCodeSet request)
        (request.record generated)
        { store with
          recoveryCodeSets := recoveryCodeSets
          recoveryCodeVerifiers := recoveryCodeVerifiers
          auditEvents := auditEvents }
  | recoveryCodeConsumed
      {request : ConsumeRecoveryCode}
      (generated : Generated)
      {verifier : RecoveryCodeVerifierRow}
      {recoveryCodeVerifiers auditEvents}
      (found : store.recoveryCodeVerifiers.find? (request.selects store) =
        some verifier)
      (verifiers_rows : recoveryCodeVerifiers.rows =
        store.recoveryCodeVerifiers.rows.map
          (modify (request.selects store)
            (ConsumeRecoveryCode.consumes generated)))
      (audit_rows : auditEvents.rows =
        store.auditEvents.rows ++ [request.audit generated]) :
      Effect unicode store (.consumeRecoveryCode request) true
        { store with
          recoveryCodeVerifiers := recoveryCodeVerifiers
          auditEvents := auditEvents }
  | recoveryCodeDenied (request : ConsumeRecoveryCode) :
      Effect unicode store (.consumeRecoveryCode request) false store
  | accessChecked (generated : Generated) (digest : OpaqueTokenDigest) :
      Effect unicode store (.accessSessionAuthorizationContext digest)
        (store.accessSessionAuthorizationContext generated.now digest) store
  | sessionCreated
      {request : CreateRefreshSession}
      (generated : Generated)
      {sessionFamilies refreshCredentials accessSessions auditEvents}
      (account_active : store.hasAccountIn request.tenantId request.accountId
        .active = true)
      (families_rows : sessionFamilies.rows =
        store.sessionFamilies.rows ++ [request.family generated])
      (credentials_rows : refreshCredentials.rows =
        store.refreshCredentials.rows ++ [request.credential generated])
      (access_rows : accessSessions.rows =
        store.accessSessions.rows ++ [request.access generated])
      (audit_rows : auditEvents.rows =
        store.auditEvents.rows ++ [request.audit generated]) :
      Effect unicode store (.createRefreshSession request)
        (request.record generated)
        { store with
          sessionFamilies := sessionFamilies
          refreshCredentials := refreshCredentials
          accessSessions := accessSessions
          auditEvents := auditEvents }
  | credentialRotated
      {request : RotateRefreshCredential}
      (generated : Generated)
      {credential : RefreshCredentialRow}
      {family : SessionFamilyRow}
      {account : AccountRow}
      {refreshCredentials accessSessions auditEvents}
      (presented : store.presentedCredential request.presentedDigest =
        some (credential, family, account))
      (unused : credential.consumedAt = none)
      (live : family.revokedAt = none)
      (unexpired : generated.now < credential.expiresAt)
      (account_active : account.state = .active)
      (credentials_rows : refreshCredentials.rows =
        store.refreshCredentials.rows.map
            (modify (RotateRefreshCredential.selects credential)
              (RotateRefreshCredential.consumes generated)) ++
          [request.successor generated credential])
      (access_rows : accessSessions.rows =
        store.accessSessions.rows.map
            (modify (selectsAccess credential.familyId)
              (revokesAccess generated)) ++
          [request.successorAccess generated credential])
      (audit_rows : auditEvents.rows =
        store.auditEvents.rows ++ [request.audit generated credential]) :
      Effect unicode store (.rotateRefreshCredential request)
        (.rotated (request.record generated credential))
        { store with
          refreshCredentials := refreshCredentials
          accessSessions := accessSessions
          auditEvents := auditEvents }
  | reuseRevoked
      {request : RotateRefreshCredential}
      (generated : Generated)
      {credential : RefreshCredentialRow}
      {family : SessionFamilyRow}
      {account : AccountRow}
      {revocation : RevokeRefreshSessionFamily}
      {sessionFamilies accessSessions auditEvents}
      (presented : store.presentedCredential request.presentedDigest =
        some (credential, family, account))
      (used : credential.consumedAt.isSome = true)
      (live : family.revokedAt = none)
      (revocation_eq : revocation =
        { tenantId := credential.tenantId
          accountId := credential.accountId
          familyId := credential.familyId
          correlationId := request.correlationId })
      (selected : store.sessionFamilies.count revocation.selects = 1)
      (families_rows : sessionFamilies.rows =
        store.sessionFamilies.rows.map
          (modify revocation.selects
            (RevokeRefreshSessionFamily.revokes generated
              "refresh_token_reuse")))
      (access_rows : accessSessions.rows =
        store.accessSessions.rows.map
          (modify (selectsAccess revocation.familyId)
            (revokesAccess generated)))
      (audit_rows : auditEvents.rows = store.auditEvents.rows ++
        [revocation.audit generated "refresh_token_reuse"]) :
      Effect unicode store (.rotateRefreshCredential request) .reuseDetected
        { store with
          sessionFamilies := sessionFamilies
          accessSessions := accessSessions
          auditEvents := auditEvents }
  | reuseUnscoped
      {request : RotateRefreshCredential}
      {credential : RefreshCredentialRow}
      {family : SessionFamilyRow}
      {account : AccountRow}
      (presented : store.presentedCredential request.presentedDigest =
        some (credential, family, account))
      (live : family.revokedAt = none)
      (foreign : family.tenantId ≠ credential.tenantId ∨
        family.accountId ≠ credential.accountId) :
      Effect unicode store (.rotateRefreshCredential request) .reuseDetected
        store
  | rotationDenied
      {request : RotateRefreshCredential}
      (generated : Generated)
      (unavailable : ∀ credential family account,
        store.presentedCredential request.presentedDigest =
            some (credential, family, account) →
          family.revokedAt.isSome = true ∨
            credential.consumedAt = none ∧
              (credential.expiresAt ≤ generated.now ∨
                account.state ≠ .active)) :
      Effect unicode store (.rotateRefreshCredential request) .denied store
  | familyRevoked
      {request : RevokeRefreshSessionFamily}
      (generated : Generated)
      {sessionFamilies accessSessions auditEvents}
      (selected : store.sessionFamilies.count request.selects = 1)
      (families_rows : sessionFamilies.rows =
        store.sessionFamilies.rows.map
          (modify request.selects
            (RevokeRefreshSessionFamily.revokes generated
              "explicit_revocation")))
      (access_rows : accessSessions.rows =
        store.accessSessions.rows.map
          (modify (selectsAccess request.familyId) (revokesAccess generated)))
      (audit_rows : auditEvents.rows = store.auditEvents.rows ++
        [request.audit generated "explicit_revocation"]) :
      Effect unicode store (.revokeRefreshSessionFamily request) true
        { store with
          sessionFamilies := sessionFamilies
          accessSessions := accessSessions
          auditEvents := auditEvents }
  | revocationDenied (request : RevokeRefreshSessionFamily) :
      Effect unicode store (.revokeRefreshSessionFamily request) false store
  | grantCreated
      {request : CreateStepUpGrant}
      (generated : Generated)
      {stepUpGrants auditEvents}
      (unexpired : generated.now < request.expiresAt)
      (family_live : store.hasLiveFamily request.tenantId request.accountId
        request.familyId = true)
      (grants_rows : stepUpGrants.rows =
        store.stepUpGrants.rows ++ [request.grant generated])
      (audit_rows : auditEvents.rows =
        store.auditEvents.rows ++ [request.audit generated]) :
      Effect unicode store (.createStepUpGrant request)
        (request.record generated)
        { store with stepUpGrants := stepUpGrants, auditEvents := auditEvents }
  | grantConsumed
      {request : ConsumeStepUpGrant}
      (generated : Generated)
      {grant : StepUpGrantRow}
      {stepUpGrants auditEvents}
      (found : store.stepUpGrants.find? (request.selects generated.now) =
        some grant)
      (family_live : (store.sessionFamilies.any fun family =>
        family.id = request.familyId ∧ family.revokedAt = none) = true)
      (grants_rows : stepUpGrants.rows =
        store.stepUpGrants.rows.map
          (modify (request.selects generated.now)
            (ConsumeStepUpGrant.consumes generated)))
      (audit_rows : auditEvents.rows =
        store.auditEvents.rows ++ [request.audit generated
          (ConsumeStepUpGrant.consumes generated grant)]) :
      Effect unicode store (.consumeStepUpGrant request) true
        { store with stepUpGrants := stepUpGrants, auditEvents := auditEvents }
  | grantDenied (request : ConsumeStepUpGrant) :
      Effect unicode store (.consumeStepUpGrant request) false store
  | loginTransactionCreated
      {request : CreateLoginTransaction}
      (generated : Generated)
      {loginTransactions auditEvents}
      (account_exists : store.hasAccount request.tenantId
        request.accountId = true)
      (transactions_rows : loginTransactions.rows =
        store.loginTransactions.rows ++ [request.transaction generated])
      (audit_rows : auditEvents.rows =
        store.auditEvents.rows ++ [request.audit generated]) :
      Effect unicode store (.createLoginTransaction request)
        (request.record generated)
        { store with
          loginTransactions := loginTransactions
          auditEvents := auditEvents }
  | loginTransactionConsumed
      {request : ConsumeLoginTransaction}
      (generated : Generated)
      {transaction : LoginTransactionRow}
      {loginTransactions auditEvents}
      (found : store.loginTransactions.find? (request.selects generated.now) =
        some transaction)
      (transactions_rows : loginTransactions.rows =
        store.loginTransactions.rows.map
          (modify (request.selects generated.now)
            (ConsumeLoginTransaction.consumes generated)))
      (audit_rows : auditEvents.rows =
        store.auditEvents.rows ++ [request.audit generated
          (ConsumeLoginTransaction.consumes generated transaction)]) :
      Effect unicode store (.consumeLoginTransaction request)
        (request.record transaction)
        { store with
          loginTransactions := loginTransactions
          auditEvents := auditEvents }
  | ceremonyCreated
      {request : CreateWebauthnCeremony}
      (generated : Generated)
      {webauthnCeremonies auditEvents}
      (account_usable :
        (store.hasAccountIn request.tenantId request.accountId .active ||
          store.hasAccountIn request.tenantId request.accountId
            .mfaEnrollmentRequired) = true)
      (ceremonies_rows : webauthnCeremonies.rows =
        store.webauthnCeremonies.rows ++ [request.ceremony generated])
      (audit_rows : auditEvents.rows =
        store.auditEvents.rows ++ [request.audit generated]) :
      Effect unicode store (.createWebauthnCeremony request) ()
        { store with
          webauthnCeremonies := webauthnCeremonies
          auditEvents := auditEvents }
  | ceremonyConsumed
      {request : ConsumeWebauthnCeremony}
      (generated : Generated)
      {ceremony : WebauthnCeremonyRow}
      {webauthnCeremonies auditEvents}
      (found : store.webauthnCeremonies.find? (request.selects generated.now) =
        some ceremony)
      (ceremonies_rows : webauthnCeremonies.rows =
        store.webauthnCeremonies.rows.map
          (modify (request.selects generated.now)
            (ConsumeWebauthnCeremony.consumes generated)))
      (audit_rows : auditEvents.rows =
        store.auditEvents.rows ++ [request.audit generated
          (ConsumeWebauthnCeremony.consumes generated ceremony)]) :
      Effect unicode store (.consumeWebauthnCeremony request)
        (ConsumeWebauthnCeremony.record ceremony)
        { store with
          webauthnCeremonies := webauthnCeremonies
          auditEvents := auditEvents }
  | passkeysFound (tenant : TenantId) (account : AccountId) :
      Effect unicode store (.activeWebauthnPasskeys tenant account)
        (store.activeWebauthnPasskeys tenant account) store
  | passkeyRegistered
      {request : RegisterWebauthnPasskey}
      (generated : Generated)
      {webauthnCredentials auditEvents}
      (account_active : store.hasAccountIn request.tenantId request.accountId
        .active = true)
      (passkeys_rows : webauthnCredentials.rows =
        store.webauthnCredentials.rows ++ [request.credential generated])
      (audit_rows : auditEvents.rows =
        store.auditEvents.rows ++ [request.audit generated]) :
      Effect unicode store (.registerWebauthnPasskey request) ()
        { store with
          webauthnCredentials := webauthnCredentials
          auditEvents := auditEvents }
  | passkeyUpdated
      {request : UpdateWebauthnPasskey}
      (generated : Generated)
      {webauthnCredentials}
      (account_active : store.hasAccountIn request.tenantId request.accountId
        .active = true)
      (selected : store.webauthnCredentials.count request.selects = 1)
      (passkeys_rows : webauthnCredentials.rows =
        store.webauthnCredentials.rows.map
          (modify request.selects (request.stores generated))) :
      Effect unicode store (.updateWebauthnPasskey request) ()
        { store with webauthnCredentials := webauthnCredentials }
  | peerFound (generated : Generated) (localDomain remoteDomain : DomainName) :
      Effect unicode store (.federationPeerMaterial localDomain remoteDomain)
        (store.federationPeerMaterial generated.now localDomain remoteDomain)
        store
  | replayRecorded
      {request : RecordFederationReplay}
      (generated : Generated)
      {federationReplays auditEvents}
      (unexpired : generated.now < request.expiresAt)
      (peer_exists : (store.federationPeers.any fun peer =>
        peer.id = request.peerId) = true)
      (replays_rows : federationReplays.rows =
        store.federationReplays.rows ++ [request.replay generated])
      (audit_rows : auditEvents.rows =
        store.auditEvents.rows ++ [request.audit generated]) :
      Effect unicode store (.recordFederationReplay request) true
        { store with
          federationReplays := federationReplays
          auditEvents := auditEvents }
  | replayRefused
      {request : RecordFederationReplay}
      (recorded : store.federationReplays.any request.conflicts = true) :
      Effect unicode store (.recordFederationReplay request) false store

end Store

end Fabric
end Fcp
