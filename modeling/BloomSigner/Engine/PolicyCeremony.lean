import BloomSigner.Api.CeremonyRequests
import BloomSigner.Engine.CustodyCommit
import BloomSigner.Engine.Policy

/-! # Policy ceremonies

A policy update is signed when its ceremony completes, stored as an authorization, and swapped in
later. The first policy of a wallet is signed by its registration. -/

namespace BloomSigner

open Lib

section
variable (crypto : Crypto)

def Custody.UnlockedWallet.signPolicyMessage (unlocked : Custody.UnlockedWallet)
    (message : List UInt8) : Except Failure Base64UrlBytes := do
  reject (unlocked.policySigningSeed.asSlice.length ≠ 32)
    (error .malformedFrame "policy signing seed length is invalid")
  return ⟨crypto.sign ⟨unlocked.policySigningSeed.asSlice⟩ message⟩

def signPolicySnapshot (walletId : Token) (version : Nat) (canonicalPolicy : Base64UrlBytes)
    (policySigningKeyId : Token) (unlocked : Custody.UnlockedWallet) :
    Except Failure SignedPolicySnapshot := do
  let policyVerifyingKey ← unlocked.policyVerifyingKey crypto
  let snapshot : SignedPolicySnapshot := {
    walletId, version, canonicalPolicy, policySigningKeyId
    policyVerifyingKey := ⟨policyVerifyingKey.bytes⟩
    policyDigest := crypto.sha256 canonicalPolicy.decode
    signerSignature := ⟨[]⟩ }
  let signerSignature ← unlocked.signPolicyMessage crypto
    (utf8 "bloom-policy-snapshot/v1" ++ utf8 (crypto.jcs snapshot.json))
  return { snapshot with signerSignature }

def PolicyCommitReceipt.signatureMessage (receipt : PolicyCommitReceipt) : List UInt8 :=
  utf8 "bloom-policy-commit-receipt/v1" ++
    utf8 (crypto.jcs { receipt with signerSignature := ⟨[]⟩ }.json)

def foreignPolicyKey : Failure :=
  error .keyrefMismatch "unlocked policy key belongs to a different wallet"

def prepareInitialPolicyEffect (walletId : Token) (canonicalPolicy : Base64UrlBytes)
    (policySigningKeyId : Token) (unlocked : Custody.UnlockedWallet) :
    Except Failure CeremonyDatabaseEffect := do
  reject (unlocked.walletId ≠ walletId) foreignPolicyKey
  let snapshot ← signPolicySnapshot crypto walletId 1 canonicalPolicy policySigningKeyId unlocked
  let policyVerifyingKey ← unlocked.policyVerifyingKey crypto
  return .initialPolicy snapshot ⟨policyVerifyingKey.bytes⟩ none

def preparePolicyUpdateEffect (db : Db) (request : PolicyUpdateCeremonyPrepareRequest)
    (unlocked : Custody.UnlockedWallet) :
    Except Failure (PolicyCommitReceipt × CeremonyDatabaseEffect) := do
  let update := request.update
  reject (unlocked.walletId ≠ update.walletId) foreignPolicyKey
  reject (crypto.sha256 update.proposedCanonicalPolicy.decode ≠ update.proposedPolicyDigest)
    (error .policyBaselineStale "proposed policy digest mismatch")
  let current ← okOr (db.policies.get? update.walletId) (storage "Query returned no rows")
  reject (current.snapshot.version ≠ update.baselineVersion ∨
      current.snapshot.policyDigest ≠ update.baselineDigest)
    (error .policyBaselineStale "policy compare-and-swap baseline is stale")
  let policyVerifyingKey ← unlocked.policyVerifyingKey crypto
  reject (current.policyVerifyingKey ≠ ⟨policyVerifyingKey.bytes⟩) (error .unauthenticatedPeer
    "unlocked per-wallet policy key does not match installed policy")
  let nextVersion ← okOr (checkedAdd64 update.baselineVersion 1)
    (error .policyBaselineStale "version overflow")
  let policySigningKeyId := current.snapshot.policySigningKeyId
  let snapshot ← signPolicySnapshot crypto update.walletId nextVersion
    update.proposedCanonicalPolicy policySigningKeyId unlocked
  let receipt : PolicyCommitReceipt := {
    operationId := update.operationId
    walletId := update.walletId
    previousVersion := update.baselineVersion
    committed := snapshot
    authorityDiffDigest := update.authorityDiffDigest
    signerKeyId := policySigningKeyId
    signerSignature := ⟨[]⟩ }
  let signerSignature ← unlocked.signPolicyMessage crypto (receipt.signatureMessage crypto)
  let receipt := { receipt with signerSignature }
  return (receipt, .policyUpdatePending ⟨update, request.brokerValidationReceipt, receipt⟩)

def installInitialPolicyBody (keys : Audit.AuditKeyState) (snapshot : SignedPolicySnapshot)
    (policyVerifyingKey : Base64UrlBytes) (db : Db) :
    Except Failure (Outcome SignedPolicySnapshot) := do
  let policies ← okOr (db.policies.insert? snapshot.walletId ⟨snapshot, policyVerifyingKey⟩)
    (storage "UNIQUE constraint failed: policies.wallet_id")
  let db ← Db.appendAudit crypto { db with policies } keys "policy.installed" (.obj [
    ("wallet_id", snapshot.walletId.json),
    ("snapshot", snapshot.json),
    ("policy_signing_key_id", snapshot.policySigningKeyId.json)])
  return .commit db snapshot

def installInitialPolicy (e : Engine) (walletId : Token) (canonicalPolicy : Base64UrlBytes)
    (policySigningKeyId : Token) (unlocked : Custody.UnlockedWallet) :
    Except Failure SignedPolicySnapshot × Engine :=
  let signed : Except Failure (SignedPolicySnapshot × Base64UrlBytes) := do
    reject (unlocked.walletId ≠ walletId) foreignPolicyKey
    let snapshot ← signPolicySnapshot crypto walletId 1 canonicalPolicy policySigningKeyId unlocked
    let policyVerifyingKey ← unlocked.policyVerifyingKey crypto
    return (snapshot, ⟨policyVerifyingKey.bytes⟩)
  precheck e signed fun signed =>
    mutation crypto e (installInitialPolicyBody crypto e.auditKeys signed.1 signed.2)

end

end BloomSigner
