import Mathlib.Data.List.Nodup
import BloomSigner.Api.Error

/-! # The methods of the authority edge

The methods the Broker may call, their names on the wire, and the ones that are reads: a read is
served without mutation quota and while the audit chain is degraded. -/

namespace BloomSigner

inductive BrokerSignerMethod where
  | systemHello | signerReadiness | signerCapabilities | surfaceStatus | surfaceReportEffective
  | crossSurfacePairStart | crossSurfacePrepareSource | crossSurfaceCompleteSource
  | crossSurfaceCompleteDestination | crossSurfaceAlreadyRegistered | keyGetPublic | keyListPublic
  | keyDerivationCapabilities | keyDerivePrepare | keyListDerived | derivedAccountList
  | keyEnrollPrepare | keyEnrollStatus | ceremonyPrepare | ceremonyComplete | ceremonyStatus
  | ceremonyCancel | sealedApprovalStatus | sealedApprovalRevoke | sealedApprovalRevokeAll
  | revocationState | signerSign | signerSignBatch | operationStatus | policyRead
  | policyCompareAndSwap | walletRegistrationPrepare | walletRegistrationStatus
  | walletUnlockPrepare | walletImportPrepare | walletExportPrepare | walletDeletePrepare
  | credentialListPublic | credentialAddPrepare | credentialRemovePrepare
  | credentialReplacePrepare | recoveryPrepare | custodyBindOutputRecipient | custodyComplete
  | custodyResult | custodyStatus
  deriving DecidableEq, Repr

namespace BrokerSignerMethod

/-- `ALL`, in declaration order. -/
def all : List BrokerSignerMethod :=
  [systemHello, signerReadiness, signerCapabilities, surfaceStatus, surfaceReportEffective,
    crossSurfacePairStart, crossSurfacePrepareSource, crossSurfaceCompleteSource,
    crossSurfaceCompleteDestination, crossSurfaceAlreadyRegistered, keyGetPublic, keyListPublic,
    keyDerivationCapabilities, keyDerivePrepare, keyListDerived, derivedAccountList,
    keyEnrollPrepare, keyEnrollStatus, ceremonyPrepare, ceremonyComplete, ceremonyStatus,
    ceremonyCancel, sealedApprovalStatus, sealedApprovalRevoke, sealedApprovalRevokeAll,
    revocationState, signerSign, signerSignBatch, operationStatus, policyRead,
    policyCompareAndSwap, walletRegistrationPrepare, walletRegistrationStatus,
    walletUnlockPrepare, walletImportPrepare, walletExportPrepare, walletDeletePrepare,
    credentialListPublic, credentialAddPrepare, credentialRemovePrepare,
    credentialReplacePrepare, recoveryPrepare, custodyBindOutputRecipient, custodyComplete,
    custodyResult, custodyStatus]

def asStr : BrokerSignerMethod → String
  | systemHello => "system.hello"
  | signerReadiness => "signer.readiness"
  | signerCapabilities => "signer.capabilities"
  | surfaceStatus => "surface.status"
  | surfaceReportEffective => "surface.report_effective"
  | crossSurfacePairStart => "cross_surface.pair_start"
  | crossSurfacePrepareSource => "cross_surface.prepare_source"
  | crossSurfaceCompleteSource => "cross_surface.complete_source"
  | crossSurfaceCompleteDestination => "cross_surface.complete_destination"
  | crossSurfaceAlreadyRegistered => "cross_surface.already_registered"
  | keyGetPublic => "key.get_public"
  | keyListPublic => "key.list_public"
  | keyDerivationCapabilities => "key.derivation_capabilities"
  | keyDerivePrepare => "key.derive_prepare"
  | keyListDerived => "key.list_derived"
  | derivedAccountList => "wallet.derived_accounts"
  | keyEnrollPrepare => "key.enroll_prepare"
  | keyEnrollStatus => "key.enroll_status"
  | ceremonyPrepare => "ceremony.prepare"
  | ceremonyComplete => "ceremony.complete"
  | ceremonyStatus => "ceremony.status"
  | ceremonyCancel => "ceremony.cancel"
  | sealedApprovalStatus => "sealed_approval.status"
  | sealedApprovalRevoke => "sealed_approval.revoke"
  | sealedApprovalRevokeAll => "sealed_approval.revoke_all"
  | revocationState => "revocation.state"
  | signerSign => "signer.sign"
  | signerSignBatch => "signer.sign_batch"
  | operationStatus => "operation.status"
  | policyRead => "policy.read"
  | policyCompareAndSwap => "policy.compare_and_swap"
  | walletRegistrationPrepare => "wallet.registration_prepare"
  | walletRegistrationStatus => "wallet.registration_status"
  | walletUnlockPrepare => "wallet.unlock_prepare"
  | walletImportPrepare => "wallet.import_prepare"
  | walletExportPrepare => "wallet.export_prepare"
  | walletDeletePrepare => "wallet.delete_prepare"
  | credentialListPublic => "credential.list_public"
  | credentialAddPrepare => "credential.add_prepare"
  | credentialRemovePrepare => "credential.remove_prepare"
  | credentialReplacePrepare => "credential.replace_prepare"
  | recoveryPrepare => "recovery.prepare"
  | custodyBindOutputRecipient => "custody.bind_output_recipient"
  | custodyComplete => "custody.complete"
  | custodyResult => "custody.result"
  | custodyStatus => "custody.status"

def parse (value : String) : Except Failure BrokerSignerMethod :=
  match all.find? (·.asStr = value) with
  | some method => .ok method
  | none => .error (error .unknownMethod ("unknown method " ++ value))

def isReadOnly : BrokerSignerMethod → Bool
  | systemHello | signerReadiness | signerCapabilities | surfaceStatus | keyGetPublic
  | keyListPublic | keyDerivationCapabilities | keyListDerived | derivedAccountList
  | keyEnrollStatus | ceremonyStatus | sealedApprovalStatus | revocationState | operationStatus
  | policyRead | walletRegistrationStatus | credentialListPublic | custodyResult
  | custodyStatus => true
  | keyDerivePrepare | surfaceReportEffective | crossSurfacePairStart | crossSurfacePrepareSource
  | crossSurfaceCompleteSource | crossSurfaceCompleteDestination | crossSurfaceAlreadyRegistered
  | keyEnrollPrepare | ceremonyPrepare | ceremonyComplete | ceremonyCancel | sealedApprovalRevoke
  | sealedApprovalRevokeAll | signerSign | signerSignBatch | policyCompareAndSwap
  | walletRegistrationPrepare | walletUnlockPrepare | walletImportPrepare | walletExportPrepare
  | walletDeletePrepare | credentialAddPrepare | credentialRemovePrepare
  | credentialReplacePrepare | recoveryPrepare | custodyBindOutputRecipient
  | custodyComplete => false

theorem mem_all (method : BrokerSignerMethod) : method ∈ all := by cases method <;> decide

theorem asStr_injective : Function.Injective asStr := by
  have hnodup : (all.map asStr).Nodup := by decide +kernel
  intro m m' h
  exact List.inj_on_of_nodup_map hnodup (mem_all m) (mem_all m') h

theorem find?_asStr :
    all.find? (·.asStr = value) = some method ↔ method.asStr = value := by
  constructor
  · intro h
    simpa using List.find?_some h
  · rintro rfl
    cases hfind : all.find? (·.asStr = method.asStr) with
    | none =>
      have hnone := List.find?_eq_none.mp hfind method (mem_all method)
      simp at hnone
    | some found =>
      have hname : found.asStr = method.asStr := by simpa using List.find?_some hfind
      rw [asStr_injective hname]

theorem parse_eq_ok : parse value = .ok method ↔ method.asStr = value := by
  rw [← find?_asStr]
  unfold parse
  split
  · next found hfind => rw [hfind, Except.ok.injEq, Option.some.injEq]
  · next hfind =>
    rw [hfind]
    constructor <;> intro h <;> cases h

end BrokerSignerMethod

/-- `is_read_only_method`. A method outside the inventory is a mutation. -/
def isReadOnlyMethod (method : Token) : Bool :=
  match BrokerSignerMethod.parse method.asStr with
  | .ok method => method.isReadOnly
  | .error _ => false

/-- A method is read-only when it names a read of the inventory. -/
theorem isReadOnlyMethod_iff : isReadOnlyMethod method ↔
    ∃ m : BrokerSignerMethod, m.asStr = method.asStr ∧ m.isReadOnly := by
  unfold isReadOnlyMethod
  constructor
  · intro h
    split at h
    · next m hparse => exact ⟨m, BrokerSignerMethod.parse_eq_ok.mp hparse, h⟩
    · cases h
  · rintro ⟨m, hname, hread⟩
    rw [BrokerSignerMethod.parse_eq_ok.mpr hname]
    exact hread

end BloomSigner
