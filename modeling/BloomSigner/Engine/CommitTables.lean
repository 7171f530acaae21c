import BloomSigner.Engine.AccountEffects
import BloomSigner.Engine.Ceremonies

/-! # What a commit writes

A custody commit and an approval commit, taken apart once: the rows each of them inserts, the checks
it made on the way, and the tables it leaves alone. -/

namespace BloomSigner

open Lib

variable {crypto : Crypto} {db db' : Db}

/-! ## Custody -/

theorem insertEnrollment_tables (h : insertEnrollment w db enrollment = .ok db') :
    ∃ enrolledKeys ceremonyBackendEnrollments,
      db' = { db with enrolledKeys, ceremonyBackendEnrollments } := by
  cases enrollment with
  | none => cases h; exact ⟨_, _, rfl⟩
  | some enrollment =>
    obtain ⟨db₁, hroot, h⟩ := bind_eq_ok.mp h
    obtain ⟨_, -, h⟩ := bind_eq_ok.mp h
    cases h
    unfold enrollRoot at hroot
    split at hroot
    · cases hroot; exact ⟨_, _, rfl⟩
    · obtain ⟨_, -, hroot⟩ := bind_eq_ok.mp hroot
      obtain ⟨_, -, hroot⟩ := bind_eq_ok.mp hroot
      cases hroot
      exact ⟨_, _, rfl⟩

theorem commitPetalScope_tables {backends : Backends} {scope : PetalKeyScope}
    (h : commitPetalScope crypto backends keyRef scope t db = .ok db') :
    ∃ petalKeyScopes ceremonyBackendEnrollments,
      db' = { db with petalKeyScopes, ceremonyBackendEnrollments } := by
  obtain ⟨_, -, h⟩ := bind_eq_ok.mp h
  obtain ⟨_, -, h⟩ := bind_eq_ok.mp h
  obtain ⟨_, -, h⟩ := bind_eq_ok.mp h
  obtain ⟨_, -, h⟩ := bind_eq_ok.mp h
  obtain ⟨_, -, h⟩ := bind_eq_ok.mp h
  obtain ⟨_, -, h⟩ := bind_eq_ok.mp h
  cases h
  exact ⟨_, _, rfl⟩

/-- The effect of a ceremony is about policies, keys, scopes and backends. -/
theorem commitEffect_tables {backends : Backends} {commit : CustodySnapshotCommit}
    (h : commitEffect crypto backends commit db = .ok db') :
    ∃ policies policyAuthorizations enrolledKeys petalKeyScopes ceremonyBackendEnrollments,
      db' = { db with
        policies, policyAuthorizations, enrolledKeys, petalKeyScopes,
        ceremonyBackendEnrollments } := by
  unfold commitEffect at h
  cases hcase : commit.effect with
  | none => rw [hcase] at h; cases h; exact ⟨_, _, _, _, _, rfl⟩
  | initialPolicy snapshot policyKey enrollment =>
    rw [hcase] at h
    obtain ⟨policies, -, h⟩ := bind_eq_ok.mp h
    obtain ⟨enrolledKeys, enrollments, rfl⟩ := insertEnrollment_tables h
    exact ⟨_, _, _, _, _, rfl⟩
  | policyUpdatePending pending =>
    rw [hcase] at h
    obtain ⟨_, -, h⟩ := bind_eq_ok.mp h
    cases h
    exact ⟨_, _, _, _, _, rfl⟩
  | enrollKey keyRef scope =>
    rw [hcase] at h
    cases scope with
    | none => cases h; exact ⟨_, _, _, _, _, rfl⟩
    | some scope =>
      obtain ⟨scopes, enrollments, rfl⟩ := commitPetalScope_tables h
      exact ⟨_, _, _, _, _, rfl⟩

/-- The database with the custody records of a commit. -/
def Db.withCustody (db : Db) (credentialAuthorityState : Table Token Nat)
    (ceremonyWallets : Table Token Custody.WalletCustodyBackup)
    (webauthnCredentials : Table Base64UrlBytes CredentialRow) : Db :=
  { db with credentialAuthorityState, ceremonyWallets, webauthnCredentials }

/-- Everything a custody commit checks and writes. -/
structure CustodyCommitted (crypto : Crypto) (backends : Backends)
    (commit : CustodySnapshotCommit) (db db' : Db) : Prop where
  surface : ∃ surface, commit.result.surface = some surface ∧ requireSurfaceAtCommit crypto db
    surface commit.result.ceremonyKind.enrollsCredential = .ok ()
  generations : foldE (commitGeneration commit.result) db.credentialAuthorityState
    commit.wallets = .ok db'.credentialAuthorityState
  wallets : foldE insertWallet ∅ commit.wallets = .ok db'.ceremonyWallets
  credentials : foldE (insertCredential crypto db.webauthnCredentials commit.committedAtMs) ∅
    commit.credentials = .ok db'.webauthnCredentials
  effect : ∃ db₁, commitEffect crypto backends commit (db.withCustody
      db'.credentialAuthorityState db'.ceremonyWallets db'.webauthnCredentials) = .ok db₁ ∧
    db'.policies = db₁.policies ∧ db'.policyAuthorizations = db₁.policyAuthorizations ∧
    db'.enrolledKeys = db₁.enrolledKeys ∧ db'.petalKeyScopes = db₁.petalKeyScopes ∧
    db'.ceremonyBackendEnrollments = db₁.ceremonyBackendEnrollments
  receipts : db.ceremonyReceipts.insert? commit.result.custodyOperationId
    ⟨"custody", crypto.jcs commit.result.serialized, commit.committedAtMs⟩ =
      some db'.ceremonyReceipts
  claims : foldE claimAllocation db.registry commit.committedAllocations = .ok db'.registry
  statuses : db'.ceremonyStatuses =
    db.ceremonyStatuses.set commit.status.operationId commit.status
  tables : ∃ credentialAuthorityState ceremonyWallets webauthnCredentials policies
    policyAuthorizations enrolledKeys petalKeyScopes ceremonyBackendEnrollments ceremonyReceipts
    ceremonyStatuses registry journal, db' = { db with
      credentialAuthorityState, ceremonyWallets, webauthnCredentials, policies,
      policyAuthorizations, enrolledKeys, petalKeyScopes, ceremonyBackendEnrollments,
      ceremonyReceipts, ceremonyStatuses, registry, journal }
  journal : db.journal.chain.rows.length ≤ db'.journal.chain.rows.length

theorem commitCustodyBody_committed {serde : EnrollmentSerde} {backends : Backends}
    (h : commitCustodyBody crypto serde keys backends commit db = .ok (.commit db' u)) :
    CustodyCommitted crypto backends commit db db' := by
  obtain ⟨surface, hsurface, h⟩ := bind_eq_ok.mp h
  obtain ⟨_, hrequired, h⟩ := bind_eq_ok.mp h
  obtain ⟨db₁, hrecords, h⟩ := bind_eq_ok.mp h
  obtain ⟨db₂, heffect, h⟩ := bind_eq_ok.mp h
  obtain ⟨db₃, hreceipt, h⟩ := bind_eq_ok.mp h
  obtain ⟨db₄, happ, h⟩ := bind_eq_ok.mp h
  cases h
  obtain ⟨generations, hgenerations, hrecords⟩ := bind_eq_ok.mp hrecords
  obtain ⟨wallets, hwallets, hrecords⟩ := bind_eq_ok.mp hrecords
  obtain ⟨credentials, hcredentials, hrecords⟩ := bind_eq_ok.mp hrecords
  cases hrecords
  obtain ⟨receipts, hinsert, hreceipt⟩ := bind_eq_ok.mp hreceipt
  obtain ⟨registry, hclaims, hreceipt⟩ := bind_eq_ok.mp hreceipt
  cases hreceipt
  obtain ⟨journal, rfl, hlength⟩ := dbAppendAudit_length happ
  have htables := commitEffect_tables heffect
  obtain ⟨policies, authorizations, keys, scopes, enrollments, rfl⟩ := htables
  exact {
    surface := ⟨surface, okOr_eq_ok.mp hsurface, hrequired⟩
    generations := hgenerations
    wallets := hwallets
    credentials := hcredentials
    effect := ⟨_, heffect, rfl, rfl, rfl, rfl, rfl⟩
    receipts := okOr_eq_ok.mp hinsert
    claims := hclaims
    statuses := rfl
    tables := ⟨_, _, _, _, _, _, _, _, _, _, _, _, rfl⟩
    journal := hlength }

/-- A custody commit goes through, or changes no table. -/
theorem commitCustodySnapshot_cases (crypto : Crypto) (serde : EnrollmentSerde)
    (commit : CustodySnapshotCommit) (e : Engine) :
    (∃ db, CustodyCommitted crypto e.backends commit e.db db ∧
      commitCustodySnapshotWithEffect crypto serde commit e = (.ok (), { e with db })) ∨
    ∃ f e', commitCustodySnapshotWithEffect crypto serde commit e = (.error f, e') ∧
      (e' = e ∨ e' = { e with auditDegraded := true }) := by
  unfold commitCustodySnapshotWithEffect mutation
  split
  · exact .inr ⟨_, _, rfl, .inl rfl⟩
  split
  · cases hbody : commitCustodyBody crypto serde e.auditKeys e.backends commit e.db with
    | error f =>
      refine .inr ⟨f, _, rfl, ?_⟩
      cases f with
      | latched cause => exact .inr rfl
      | protocol cause | panic message => exact .inl rfl
    | ok outcome =>
      cases outcome with
      | commit db a => exact .inl ⟨db, commitCustodyBody_committed hbody, rfl⟩
      | drop a =>
        obtain ⟨_, -, hbody⟩ := bind_eq_ok.mp hbody
        obtain ⟨_, -, hbody⟩ := bind_eq_ok.mp hbody
        obtain ⟨_, -, hbody⟩ := bind_eq_ok.mp hbody
        obtain ⟨_, -, hbody⟩ := bind_eq_ok.mp hbody
        obtain ⟨_, -, hbody⟩ := bind_eq_ok.mp hbody
        obtain ⟨_, -, hbody⟩ := bind_eq_ok.mp hbody
        cases hbody
  · exact .inr ⟨_, _, rfl, .inr rfl⟩

/-! ## Approvals -/

theorem admitEpoch_tables (h : admitEpoch db terms = .ok db') :
    ∃ walletState, db' = { db with walletState } := by
  unfold admitEpoch at h
  split at h
  · cases h; exact ⟨_, rfl⟩
  · obtain ⟨-, -, h⟩ := bind_eq_ok.mp h
    cases h; exact ⟨_, rfl⟩

/-- Everything the commit of an approval checks and writes. -/
structure ApprovalCommitted (crypto : Crypto) (answers : BackendAnswers)
    (terms : SealedApprovalTerms) (receipt : SignerActivationReceipt) (approvalId : Digest32)
    (db db' : Db) : Prop where
  identity : receipt.approvalId = approvalId
  surface : ∃ surface, receipt.surface = some surface ∧
    requireSurfaceAtCommit crypto db surface false = .ok ()
  registered : answers.keyIsRegistered terms.keyRef = .ok true
  scope : validatePetalKeyApproval db terms terms.issuedAtMs = .ok ()
  epoch : ∃ db₁, admitEpoch db terms = .ok db₁ ∧ db'.walletState = db₁.walletState
  generation : receipt.credentialAuthorityGeneration.getD 0 =
    (db.credentialAuthorityState.get? terms.walletId).getD 0
  approval : db.approvals.insert? approvalId ⟨terms.walletId, terms, true, 0, 0⟩ =
    some db'.approvals
  receipts : db.ceremonyReceipts.insert? receipt.activationOperationId
    ⟨"sealed_approval", crypto.jcs receipt.serialized, 0⟩ = some db'.ceremonyReceipts
  statuses : db.ceremonyStatuses.insert? receipt.activationOperationId (receipt.status crypto) =
    some db'.ceremonyStatuses
  tables : ∃ approvals walletState ceremonyReceipts ceremonyStatuses journal, db' =
    { db with approvals, walletState, ceremonyReceipts, ceremonyStatuses, journal }
  journal : db.journal.chain.rows.length ≤ db'.journal.chain.rows.length

theorem persistApprovalBody_committed {receipt : SignerActivationReceipt}
    (hidentity : receipt.approvalId = approvalId)
    (h : persistApprovalBody crypto keys answers terms (some receipt) approvalId db =
      .ok (.commit db' r)) :
    ApprovalCommitted crypto answers terms receipt approvalId db db' := by
  obtain ⟨_, hsurface, h⟩ := bind_eq_ok.mp h
  obtain ⟨surface, hsome, hrequired⟩ := bind_eq_ok.mp hsurface
  obtain ⟨registered, hregistered, h⟩ := bind_eq_ok.mp h
  obtain ⟨_, hyes, h⟩ := bind_eq_ok.mp h
  obtain ⟨_, hscope, h⟩ := bind_eq_ok.mp h
  obtain ⟨db₁, hepoch, h⟩ := bind_eq_ok.mp h
  obtain ⟨_, hgeneration, h⟩ := bind_eq_ok.mp h
  obtain ⟨approvals, happroval, h⟩ := bind_eq_ok.mp h
  obtain ⟨db₂, hstore, h⟩ := bind_eq_ok.mp h
  obtain ⟨db₃, happ, h⟩ := bind_eq_ok.mp h
  cases h
  obtain ⟨receipts, hreceipts, hstore⟩ := bind_eq_ok.mp hstore
  obtain ⟨statuses, hstatuses, hstore⟩ := bind_eq_ok.mp hstore
  cases hstore
  obtain ⟨journal, rfl, hlength⟩ := dbAppendAudit_length happ
  have htables := admitEpoch_tables hepoch
  obtain ⟨walletState, rfl⟩ := htables
  have hgeneration := reject_eq_ok.mp hgeneration
  have hyes : registered = true := by simpa using reject_eq_ok.mp hyes
  subst hyes
  exact {
    identity := hidentity
    surface := ⟨surface, okOr_eq_ok.mp hsome, hrequired⟩
    registered := hregistered
    scope := hscope
    epoch := ⟨_, hepoch, rfl⟩
    generation := by simpa only [ne_eq, Decidable.not_not] using hgeneration
    approval := okOr_eq_ok.mp happroval
    receipts := okOr_eq_ok.mp hreceipts
    statuses := okOr_eq_ok.mp hstatuses
    tables := ⟨_, _, _, _, _, rfl⟩
    journal := hlength }

/-- The commit of an approval goes through, or changes no table. -/
theorem activateApproval_cases (crypto : Crypto) (aead : Custody.Aead) (derive : Derivation)
    (terms : SealedApprovalTerms) (receipt : SignerActivationReceipt) (e : Engine) :
    (∃ approvalId db, terms.approvalId crypto = .ok approvalId ∧
      ApprovalCommitted crypto (e.backends.answers crypto aead derive) terms receipt approvalId
        e.db db ∧
      activateApprovalFromCeremony crypto aead derive terms receipt e =
        (.ok approvalId, { e with db })) ∨
    ∃ f e', activateApprovalFromCeremony crypto aead derive terms receipt e = (.error f, e') ∧
      (e' = e ∨ e' = { e with auditDegraded := true }) := by
  unfold activateApprovalFromCeremony precheck
  dsimp only
  split
  · exact .inr ⟨_, _, rfl, .inl rfl⟩
  next hchecked =>
  obtain ⟨checkedId, hcheckedId, hmatch⟩ := bind_eq_ok.mp hchecked
  have hmatch := not_or.mp (reject_eq_ok.mp hmatch)
  unfold persistApproval precheck
  split
  · exact .inr ⟨_, _, rfl, .inl rfl⟩
  next approvalId hprelude =>
  obtain ⟨_, -, hprelude⟩ := bind_eq_ok.mp hprelude
  obtain ⟨_, -, hprelude⟩ := bind_eq_ok.mp hprelude
  have hidentity : receipt.approvalId = approvalId :=
    (not_not.mp hmatch.1).trans (Except.ok.inj (hcheckedId.symm.trans hprelude))
  dsimp only
  unfold mutation
  split
  · exact .inr ⟨_, _, rfl, .inl rfl⟩
  split
  · cases hbody : persistApprovalBody crypto e.auditKeys (e.backends.answers crypto aead derive)
        terms (some receipt) approvalId e.db with
    | error f =>
      refine .inr ⟨f, _, rfl, ?_⟩
      cases f with
      | latched cause => exact .inr rfl
      | protocol cause | panic message => exact .inl rfl
    | ok outcome =>
      have hcommit : ∃ db, outcome = .commit db approvalId := by
        obtain ⟨_, -, hbody⟩ := bind_eq_ok.mp hbody
        obtain ⟨_, -, hbody⟩ := bind_eq_ok.mp hbody
        obtain ⟨_, -, hbody⟩ := bind_eq_ok.mp hbody
        obtain ⟨_, -, hbody⟩ := bind_eq_ok.mp hbody
        obtain ⟨_, -, hbody⟩ := bind_eq_ok.mp hbody
        obtain ⟨_, -, hbody⟩ := bind_eq_ok.mp hbody
        obtain ⟨_, -, hbody⟩ := bind_eq_ok.mp hbody
        obtain ⟨_, -, hbody⟩ := bind_eq_ok.mp hbody
        obtain ⟨db, -, hbody⟩ := bind_eq_ok.mp hbody
        cases hbody
        exact ⟨db, rfl⟩
      obtain ⟨db, rfl⟩ := hcommit
      exact .inl ⟨approvalId, db, hprelude, persistApprovalBody_committed hidentity hbody, rfl⟩
  · exact .inr ⟨_, _, rfl, .inr rfl⟩

/-! ## Statuses -/

/-- A status is written, or the engine is degraded and nothing changed. -/
theorem persistStatus_cases (crypto : Crypto) (status : CeremonyPublicStatus) (e : Engine) :
    (∃ journal, e.db.journal.chain.rows.length ≤ journal.chain.rows.length ∧
      persistCeremonyPublicStatus crypto status e = (.ok (), { e with db := { e.db with
        ceremonyStatuses := e.db.ceremonyStatuses.set status.operationId status, journal } })) ∨
    ∃ f e', persistCeremonyPublicStatus crypto status e = (.error f, e') ∧
      e' = { e with auditDegraded := true } := by
  unfold persistCeremonyPublicStatus mutation
  split
  · next hdeg => exact .inr ⟨_, _, rfl, by rw [← hdeg]⟩
  split
  · cases hbody : persistCeremonyPublicStatusBody crypto e.auditKeys status e.db with
    | error f =>
      rcases bind_eq_error.mp hbody with happ | ⟨db, -, hret⟩
      · cases f with
        | latched cause => exact .inr ⟨_, _, rfl, rfl⟩
        | protocol cause => exact absurd happ appendAudit_ne_protocol
        | panic message =>
          rcases bind_eq_error.mp happ with happ | ⟨journal, -, hret⟩
          · have hlatched := Audit.appendAudit_latches happ
            obtain ⟨cause, hcause⟩ := hlatched
            cases hcause
          · cases hret
      · cases hret
    | ok outcome =>
      obtain ⟨db, happ, hret⟩ := bind_eq_ok.mp hbody
      obtain ⟨journal, rfl, hlength⟩ := dbAppendAudit_length happ
      cases hret
      exact .inl ⟨journal, hlength, rfl⟩
  · exact .inr ⟨_, _, rfl, rfl⟩

end BloomSigner
