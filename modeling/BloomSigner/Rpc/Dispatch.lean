import BloomSigner.Rpc.Reads

/-! # Serving requests

`SignerRpcService`: the requests of the Broker and of the revocation control, and the task that
drops expired pairings. A request first passes the network containment if it needs it, then reads
the clock, and is then served. Whatever is served, the Signer goes through calls of its own: a run
of requests is a run of the Signer. -/

namespace BloomSigner.Rpc

open Lib Lib.Program

/-! ## Requests and responses -/

inductive SignerCeremonyPrepareRequest where
  | sealedApproval (request : CeremonyPrepareRequest)
  | policyUpdate (request : PolicyUpdateCeremonyPrepareRequest)

inductive SignerCeremonyCompleteRequest where
  | sealedApproval (request : CeremonyCompleteRequest)
  | policyUpdate (request : PolicyUpdateCeremonyCompleteRequest)

inductive BrokerSignerRequest where
  | systemHello
  | signerReadiness
  | signerCapabilities
  | surfaceStatus
  | surfaceReportEffective (report : SurfaceEffectiveReport)
  | crossSurfacePairStart (request : CrossSurfacePairStartRequest)
  | crossSurfacePrepareSource (request : CrossSurfacePrepareSourceRequest)
  | crossSurfaceCompleteSource (request : CrossSurfaceCompleteSourceRequest)
  | crossSurfaceCompleteDestination (request : CrossSurfaceCompleteDestinationRequest)
  | crossSurfaceAlreadyRegistered (request : CrossSurfaceAlreadyRegisteredRequest)
  | keyGetPublic (keyRef : KeyRef)
  | keyListPublic (walletId : Token)
  | keyDerivationCapabilities (keyRef : KeyRef)
  | keyDerivePrepare (request : CustodyPrepareRequest)
  | keyListDerived (keyRef : KeyRef)
  | derivedAccountList (walletId : Token)
  | keyEnrollPrepare (request : CustodyPrepareRequest)
  | keyEnrollStatus (operationId : OperationId)
  | ceremonyPrepare (request : SignerCeremonyPrepareRequest)
  | ceremonyComplete (request : SignerCeremonyCompleteRequest)
  | ceremonyStatus (id : Digest32)
  | ceremonyCancel (id : Digest32)
  | sealedApprovalStatus (id : Digest32)
  | sealedApprovalRevoke (request : RevokeRequest)
  | sealedApprovalRevokeAll (request : WalletOperationRequest)
  | revocationState (walletId : Token)
  | signerSign (request : SignRequest)
  | signerSignBatch (request : SignRequest)
  | operationStatus (operationId : OperationId)
  | policyRead (walletId : Token)
  | policyCompareAndSwap (request : PolicyCompareAndSwapRequest)
  | walletRegistrationPrepare (request : CustodyPrepareRequest)
  | walletRegistrationStatus (operationId : OperationId)
  | walletUnlockPrepare (request : CustodyPrepareRequest)
  | walletImportPrepare (request : CustodyPrepareRequest)
  | walletExportPrepare (request : CustodyPrepareRequest)
  | walletDeletePrepare (request : CustodyPrepareRequest)
  | credentialListPublic (walletId : Token)
  | credentialAddPrepare (request : CustodyPrepareRequest)
  | credentialRemovePrepare (request : CustodyPrepareRequest)
  | credentialReplacePrepare (request : CustodyPrepareRequest)
  | recoveryPrepare (request : CustodyPrepareRequest)
  | custodyBindOutputRecipient (operationId : OperationId) (recipientKey : Base64UrlBytes)
  | custodyComplete (request : CustodyCompleteRequest)
  | custodyResult (operationId : OperationId)
  | custodyStatus (operationId : OperationId)

structure SignerPreparedApproval where
  contribution : SignerCeremonyContribution
  challenges : List CeremonyChallenge
  webauthnOptions : CeremonyWebAuthnOptions
  verificationCredentials : List WebAuthnCredential

/-- The answer to a request, by the name of its method where the payload does not tell it. -/
inductive BrokerSignerResponse where
  | signerReadiness (readiness : Readiness)
  | signerCapabilities (capabilities : ServiceCapabilities)
  | surface (status : SurfaceStatus)
  | crossSurfacePairStart (pairing : CrossSurfacePairing)
  | crossSurfacePrepareSource (prepared : CrossSurfaceSourcePrepared)
  | crossSurfaceCompleteSource (handoff : CrossSurfaceHandoff)
  | crossSurfaceCompleteDestination (result : CustodyResult)
  | keyGetPublic (key : KeyPublic)
  | keys (keys : List KeyPublic)
  | keyDerivationCapabilities (schemes : List Token)
  | derivedAccountList (accounts : List DerivedAccountDescriptor)
  | preparedCustody (prepared : PreparedCustodyCeremony)
  | preparedApproval (prepared : SignerPreparedApproval)
  | publicStatus (status : CeremonyPublicStatus)
  | completedApproval (receipt : SignerActivationReceipt)
  | completedCustody (result : CustodyResult)
  | ceremonyStatus (status : SignerCeremonyStatus)
  | sealedApproval (status : ApprovalPublicStatus)
  | revokedAll (state : RevocationState)
  | revocationState (snapshot : RevocationSnapshot)
  | signed (result : SigningResult)
  | operationStatus (status : OperationPublicStatus)
  | policyRead (snapshot : SignedPolicySnapshot)
  | policyCompareAndSwap (receipt : PolicyCommitReceipt)
  | credentialListPublic (credentials : List CredentialPublic)

inductive ControlRequest where
  | revoke (request : RevokeRequest)
  | revokeAll (request : WalletOperationRequest)
  | status (walletId : Token)

/-- The request revokes; only a status is asked for on the clock of a read. -/
def ControlRequest.revokes : ControlRequest → Bool
  | .revoke _ | .revokeAll _ => true
  | .status _ => false

inductive ControlResponse where
  | revoke (status : ApprovalPublicStatus)
  | revokeAll (state : RevocationState)
  | status (state : RevocationState)

namespace BrokerSignerRequest

def method : BrokerSignerRequest → BrokerSignerMethod
  | systemHello => .systemHello
  | signerReadiness => .signerReadiness
  | signerCapabilities => .signerCapabilities
  | surfaceStatus => .surfaceStatus
  | surfaceReportEffective _ => .surfaceReportEffective
  | crossSurfacePairStart _ => .crossSurfacePairStart
  | crossSurfacePrepareSource _ => .crossSurfacePrepareSource
  | crossSurfaceCompleteSource _ => .crossSurfaceCompleteSource
  | crossSurfaceCompleteDestination _ => .crossSurfaceCompleteDestination
  | crossSurfaceAlreadyRegistered _ => .crossSurfaceAlreadyRegistered
  | keyGetPublic _ => .keyGetPublic
  | keyListPublic _ => .keyListPublic
  | keyDerivationCapabilities _ => .keyDerivationCapabilities
  | keyDerivePrepare _ => .keyDerivePrepare
  | keyListDerived _ => .keyListDerived
  | derivedAccountList _ => .derivedAccountList
  | keyEnrollPrepare _ => .keyEnrollPrepare
  | keyEnrollStatus _ => .keyEnrollStatus
  | ceremonyPrepare _ => .ceremonyPrepare
  | ceremonyComplete _ => .ceremonyComplete
  | ceremonyStatus _ => .ceremonyStatus
  | ceremonyCancel _ => .ceremonyCancel
  | sealedApprovalStatus _ => .sealedApprovalStatus
  | sealedApprovalRevoke _ => .sealedApprovalRevoke
  | sealedApprovalRevokeAll _ => .sealedApprovalRevokeAll
  | revocationState _ => .revocationState
  | signerSign _ => .signerSign
  | signerSignBatch _ => .signerSignBatch
  | operationStatus _ => .operationStatus
  | policyRead _ => .policyRead
  | policyCompareAndSwap _ => .policyCompareAndSwap
  | walletRegistrationPrepare _ => .walletRegistrationPrepare
  | walletRegistrationStatus _ => .walletRegistrationStatus
  | walletUnlockPrepare _ => .walletUnlockPrepare
  | walletImportPrepare _ => .walletImportPrepare
  | walletExportPrepare _ => .walletExportPrepare
  | walletDeletePrepare _ => .walletDeletePrepare
  | credentialListPublic _ => .credentialListPublic
  | credentialAddPrepare _ => .credentialAddPrepare
  | credentialRemovePrepare _ => .credentialRemovePrepare
  | credentialReplacePrepare _ => .credentialReplacePrepare
  | recoveryPrepare _ => .recoveryPrepare
  | custodyBindOutputRecipient _ _ => .custodyBindOutputRecipient
  | custodyComplete _ => .custodyComplete
  | custodyResult _ => .custodyResult
  | custodyStatus _ => .custodyStatus

end BrokerSignerRequest

/-- `signer_request_requires_containment` -/
def requiresContainment : BrokerSignerMethod → Bool
  | .keyDerivePrepare | .keyEnrollPrepare | .ceremonyPrepare | .ceremonyComplete | .signerSign
  | .signerSignBatch | .policyCompareAndSwap | .walletRegistrationPrepare | .walletUnlockPrepare
  | .walletImportPrepare | .walletExportPrepare | .walletDeletePrepare | .credentialAddPrepare
  | .credentialRemovePrepare | .credentialReplacePrepare | .recoveryPrepare
  | .custodyBindOutputRecipient | .custodyComplete => true
  | _ => false

/-! ## One request -/

/-- What one request meets outside the Signer. Requests are served one at a time, so nothing else
is served between two storage calls of a signature. -/
structure RpcWorld where
  /-- `now_ms_read_only` or `now_ms(false)` -/
  clock : (readOnly : Bool) → Except Failure Nat
  condition : Except Failure ClockCondition
  /-- what the network containment guard answers, if there is one -/
  containment : Except Failure Unit
  sys : CallSystem
  sign : SignWorld

def Turn.alone (turn : Turn) : Turn := { turn with meanwhile := [] }

def SignWorld.alone (world : SignWorld) : SignWorld where
  approvalTerms := Turn.alone world.approvalTerms
  clock := world.clock
  answers := world.answers
  authorization := Turn.alone world.authorization
  storedResult := Turn.alone world.storedResult
  dispatch := Turn.alone world.dispatch
  children := world.children
  finalization := Turn.alone world.finalization

def Stop.failure : Stop → Failure
  | .failed f => f
  | .crashed => .panic "the process ended"

section
variable (env : RpcEnvironment) (world : RpcWorld)

def sign (request : SignRequest) : ServiceM SigningResult := fun s =>
  let outcome := BloomSigner.sign env.toSigningEnvironment (SignWorld.alone world.sign) request
    ⟨s.engine, [], []⟩
  (outcome.1.mapError Stop.failure, { s with engine := outcome.2.engine })

def requireSignatureCount (request : SignRequest) (batch : Bool) : Except Failure Unit :=
  let count := request.unsigned.signatureCount
  reject ((batch = true ∧ ¬(1 ≤ count ∧ count ≤ 32)) ∨ (batch = false ∧ count ≠ 1))
    (error .malformedFrame "signing method does not match the requested signature count")

/-- The options of an approval, with the credentials they name. -/
def preparedApproval (walletId : Token) (prepared : PreparedApprovalCeremony) :
    ServiceM SignerPreparedApproval := do
  let s ← .read id
  let credentials ← liftM (prepared.webauthnOptions.allowedCredentials.mapM fun allowed =>
    (s.boundCredential allowed.credentialId walletId).map (·.credential))
  return ⟨prepared.contribution, prepared.challenges, prepared.webauthnOptions, credentials⟩

/-- `custody.result`: a recovery is told for a while only. -/
def custodyResult (s : Service) (operationId : OperationId) (nowMs : Nat) :
    Except Failure CustodyResult := do
  let receipt ← s.custodyReceipt env.toServiceEnvironment operationId
  let result ← okOr receipt (error .approvalNotFound "custody result not found")
  requireDelivery s result operationId nowMs
  return result

def publicStatusOf (operationId : OperationId) : ServiceM BrokerSignerResponse := do
  let s ← .read id
  let status ← s.publicStatus env.toServiceEnvironment operationId
  return .publicStatus status

def prepareCustodyFor (request : CustodyPrepareRequest) (nowMs : Nat) :
    ServiceM BrokerSignerResponse := do
  let prepared ← prepareCustody env.toServiceEnvironment world.sys request nowMs
  return .preparedCustody prepared

/-- An identifier of a ceremony is the digest its operation is named by. -/
def operationOf (id : Digest32) : OperationId := ⟨id.asStr⟩

def dispatchMethod (nowMs : Nat) : BrokerSignerRequest → ServiceM BrokerSignerResponse
  | .systemHello => .fail (error .unknownMethod
      "system.hello is consumed by the authenticated transport")
  | .signerReadiness => .read fun s =>
      .signerReadiness (readiness env s.engine world.condition world.containment)
  | .signerCapabilities => .read fun s => .signerCapabilities (capabilities env s.engine)
  | .surfaceStatus => .read fun s => .surface (s.surfaceStatus env.toServiceEnvironment)
  | .surfaceReportEffective report => do
    let status ← reportEffective env.toServiceEnvironment report
    return .surface status
  | .crossSurfacePairStart request => do
    let pairing ← crossSurfacePairStart env.toServiceEnvironment world.sys request nowMs
    return .crossSurfacePairStart pairing
  | .crossSurfacePrepareSource request => do
    let prepared ← crossSurfacePrepareSource env.toServiceEnvironment world.sys request nowMs
    return .crossSurfacePrepareSource prepared
  | .crossSurfaceCompleteSource request => do
    let handoff ← crossSurfaceCompleteSource env.toServiceEnvironment world.sys request nowMs
    return .crossSurfaceCompleteSource handoff
  | .crossSurfaceCompleteDestination request => do
    let result ← crossSurfaceCompleteDestination env.toServiceEnvironment world.sys request nowMs
    return .crossSurfaceCompleteDestination result
  | .crossSurfaceAlreadyRegistered request => do
    let status ← crossSurfaceAlreadyRegistered env.toServiceEnvironment request nowMs
    return .publicStatus status
  | .keyGetPublic keyRef => do
    let s ← .read id
    let key ← describeKey env s.engine keyRef
    return .keyGetPublic key
  | .keyListPublic walletId => do
    let s ← .read id
    let keys ← liftM ((enrolledKeyRefs s.engine.db walletId).mapM (describeKey env s.engine))
    return .keys keys
  | .keyDerivationCapabilities keyRef => do
    let s ← .read id
    let backend ← getBackend s.engine.backends keyRef
    return .keyDerivationCapabilities (derivationSchemes backend)
  | .keyListDerived keyRef => do
    let s ← .read id
    let keys ← liftM ((enrolledDerivedKeyRefs s.engine.db keyRef).mapM (describeKey env s.engine))
    return .keys keys
  | .derivedAccountList walletId => do
    let s ← .read id
    let accounts ← derivedAccountDescriptors s.engine.db walletId
    return .derivedAccountList accounts
  | .keyDerivePrepare request | .keyEnrollPrepare request | .walletRegistrationPrepare request
  | .walletUnlockPrepare request | .walletImportPrepare request | .walletExportPrepare request
  | .walletDeletePrepare request | .credentialAddPrepare request
  | .credentialRemovePrepare request | .credentialReplacePrepare request
  | .recoveryPrepare request => prepareCustodyFor env world request nowMs
  | .keyEnrollStatus operationId | .walletRegistrationStatus operationId
  | .custodyStatus operationId => publicStatusOf env operationId
  | .ceremonyPrepare (.sealedApproval request) => do
    let prepared ← prepareApproval env.toServiceEnvironment world.sys request nowMs
    let prepared ← preparedApproval request.terms.walletId prepared
    return .preparedApproval prepared
  | .ceremonyPrepare (.policyUpdate request) => do
    let prepared ← preparePolicyUpdate env.toServiceEnvironment world.sys request nowMs
    return .preparedCustody prepared
  | .ceremonyComplete (.sealedApproval request) => do
    let receipt ← completeApproval env.toServiceEnvironment world.sys request nowMs
    return .completedApproval receipt
  | .ceremonyComplete (.policyUpdate request) => do
    let result ← completePolicyUpdate env.toServiceEnvironment world.sys request nowMs
    return .completedCustody result
  | .ceremonyStatus ceremony => do
    let s ← .read id
    let status ← s.statusAt env.toServiceEnvironment (operationOf ceremony) nowMs
    return .ceremonyStatus status
  | .ceremonyCancel ceremony => do
    cancel env.toServiceEnvironment (operationOf ceremony)
    publicStatusOf env (operationOf ceremony)
  | .sealedApprovalStatus approvalId => do
    let s ← .read id
    let status ← approvalPublicStatus s.engine.db approvalId nowMs
    return .sealedApproval status
  | .sealedApprovalRevoke request => do
    let _ ← onEngine (revokeApprovalCall env.toServiceEnvironment request nowMs)
    let s ← .read id
    let status ← approvalPublicStatus s.engine.db request.approvalId nowMs
    return .sealedApproval status
  | .sealedApprovalRevokeAll request => do
    let state ← onEngine (revokeAllCall env.toServiceEnvironment request nowMs)
    return .revokedAll state
  | .revocationState walletId => .read fun s => .revocationState
      ⟨revocationState env s.engine.db walletId nowMs,
        walletApprovalTombstones s.engine.db walletId⟩
  | .signerSign request => do
    requireSignatureCount request false
    let result ← sign env world request
    return .signed result
  | .signerSignBatch request => do
    requireSignatureCount request true
    let result ← sign env world request
    return .signed result
  | .operationStatus operationId => do
    let s ← .read id
    let status ← operationStatus env s.engine.db operationId
    return .operationStatus status
  | .policyRead walletId => do
    let s ← .read id
    let snapshot ← policySnapshot s.engine.db walletId
    return .policyRead snapshot
  | .policyCompareAndSwap request => do
    let receipt ← onEngine fun e => compareAndSwapPolicy env.crypto e request
    return .policyCompareAndSwap receipt
  | .credentialListPublic walletId => do
    let s ← .read id
    let credentials ← credentialPublic env s.engine.db walletId
    return .credentialListPublic credentials
  | .custodyBindOutputRecipient operationId recipientKey => do
    let prepared ← bindCustodyOutputRecipient env.toServiceEnvironment world.sys operationId
      recipientKey nowMs
    return .preparedCustody prepared
  | .custodyComplete request => do
    let result ← completeCustody env.toServiceEnvironment world.sys request nowMs
    return .completedCustody result
  | .custodyResult operationId => do
    let s ← .read id
    let result ← custodyResult env s operationId nowMs
    return .completedCustody result

def dispatchInner (request : BrokerSignerRequest) : ServiceM BrokerSignerResponse := do
  liftM (if requiresContainment request.method then world.containment else .ok ())
  let nowMs ← liftM (world.clock request.method.isReadOnly)
  dispatchMethod env world nowMs request

def dispatchControlInner : ControlRequest → ServiceM ControlResponse
  | .revoke request => do
    let nowMs ← liftM (world.clock false)
    let _ ← onEngine (revokeApprovalCall env.toServiceEnvironment request nowMs)
    let s ← .read id
    let status ← approvalPublicStatus s.engine.db request.approvalId nowMs
    return .revoke status
  | .revokeAll request => do
    let nowMs ← liftM (world.clock false)
    let state ← onEngine (revokeAllCall env.toServiceEnvironment request nowMs)
    return .revokeAll state
  | .status walletId => do
    let nowMs ← liftM (world.clock true)
    let s ← .read id
    return .status (revocationState env s.engine.db walletId nowMs)

/-- The task that drops expired pairings, or all of them while the clock fails. -/
def expiryTick : ServiceM Unit :=
  match world.clock true with
  | .ok nowMs => expireCrossSurfacePairs nowMs
  | .error _ => clearCrossSurfacePairs

end

/-! ## The process -/

/-- What happens to the process: requests of the Broker and of the revocation control, ticks of the
expiry task, what the administration does, and a new process. -/
inductive RpcEvent where
  | broker (world : RpcWorld) (request : BrokerSignerRequest)
  | control (world : RpcWorld) (request : ControlRequest)
  | expiry (world : RpcWorld)
  | installRemoteSurface (hostname installationId : String) (adminKeySha256 : Digest32)
      (createdAtMs : Nat)
  | setExposureMode (mode : ExposureMode)
  | restart (compiled : Backends) (nowMs : Nat)

/-- The Signer after an event, whatever was answered. -/
def rpcStep (env : RpcEnvironment) (s : Service) : RpcEvent → Service
  | .broker world request => (dispatchInner env world request s).2
  | .control world request => (dispatchControlInner env world request s).2
  | .expiry world => (expiryTick world s).2
  | .installRemoteSurface hostname installationId adminKey createdAtMs =>
    (installRemoteSurface env.toServiceEnvironment hostname installationId adminKey createdAtMs s).2
  | .setExposureMode mode => (setExposureMode env.toServiceEnvironment mode s).2
  | .restart compiled nowMs => s.reopened env.toServiceEnvironment compiled nowMs

end BloomSigner.Rpc
