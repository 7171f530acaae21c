import BloomSigner.Engine.Handover

/-! # A registered wallet

The first calls on an empty engine: a wallet is registered with a policy and its backend, an
approval of one signature is installed and used. The export of such a wallet is restored into an
engine that grants the approval one signature. -/

namespace BloomSigner

open Lib Audit

/-- A root key of a local backend. -/
def KeyRef.root (backendInstance : Token) (n : UInt8) : KeyRef where
  backend := ⟨"local"⟩
  backendInstance := backendInstance
  locator := "root"
  keySpec := .secp256k1
  publicKeyFingerprint := ⟨List.replicate 32 n, rfl⟩
  derivation := none

/-- The enrollment of a backend with a root and the children derived from it. -/
def BackendEnrollmentBackup.ofKeys (root : KeyRef) (children : List KeyRef) :
    BackendEnrollmentBackup where
  backend := root.backend
  backendInstance := root.backendInstance
  encryptedRecord := {
    rootKeyId := ⟨root.locator⟩
    rootMaterialKind := .bip32Seed
    pinnedRoot := some root
    wrapFormatVersion := 1
    nonce := ⟨List.replicate 24 0⟩
    encryptedSeed := ⟨List.replicate 48 0⟩
    authorityVerifyingKey := ⟨List.replicate 32 4⟩
    publicDescriptions := []
    derivationRegistry := children
    derivationNamespaces := []
    derivationTombstones := []
    pendingDerivations := ∅ }
  pinnedKeys := root :: children

section
variable (crypto : Crypto) (key : SigningKey)

/-- A first policy, signed with the given key. -/
def SignedPolicySnapshot.first (walletId : Token) : SignedPolicySnapshot :=
  let unsigned : SignedPolicySnapshot := {
    walletId
    version := 1
    canonicalPolicy := ⟨[]⟩
    policyDigest := crypto.sha256 []
    policySigningKeyId := ⟨"policy-key"⟩
    policyVerifyingKey := ⟨(crypto.verifyingKey key).bytes⟩
    signerSignature := ⟨[]⟩ }
  { unsigned with signerSignature := ⟨crypto.sign key
      (utf8 "bloom-policy-snapshot/v1" ++ utf8 (crypto.jcs unsigned.json))⟩ }

def PolicyRow.first (walletId : Token) : PolicyRow :=
  ⟨.first crypto key walletId, ⟨(crypto.verifyingKey key).bytes⟩⟩

/-- A finished ceremony with the given effect on an engine with the local surface. -/
def CustodySnapshotCommit.ofEffect (kind : CeremonyKind) (operationId : OperationId)
    (effect : CeremonyDatabaseEffect) : CustodySnapshotCommit where
  result := {
    surface := some (legacyLocalSurface crypto)
    credentialAuthorityGeneration := none
    ceremonyKind := kind
    custodyOperationId := operationId
    publicStatus := .succeeded
    walletId := none
    publicKeyRefs := []
    credentialSummaries := []
    initialPolicy := none
    receiptDigest := .zero
    encryptedBrowserResult := none
    signerKeyId := ⟨"signer"⟩
    signerSignature := ⟨[]⟩ }
  wallets := []
  credentials := []
  committedAtMs := 1
  status := ⟨.zero, kind, operationId, .succeeded, 1, none, none⟩
  committedAllocations := []
  effect := effect

/-- The registration of a wallet with its first policy and its backend. -/
def registration (operationId : OperationId) (walletId : Token)
    (enrollment : BackendEnrollmentBackup) : CustodySnapshotCommit :=
  .ofEffect crypto .walletRegistration operationId (.initialPolicy (.first crypto key walletId)
    ⟨(crypto.verifyingKey key).bytes⟩ (some enrollment))

end

theorem verifyPolicyBackup_first (crypto : Crypto) (key : SigningKey) (w : Token)
    (hsize : (crypto.verifyingKey key).bytes.length = 32) :
    verifyPolicyBackup crypto ⟨(PolicyRow.first crypto key w).snapshot,
      (PolicyRow.first crypto key w).policyVerifyingKey⟩ = .ok () := by
  refine bind_eq_ok.mpr ⟨(), reject_of_not (not_not.mpr hsize), bind_eq_ok.mpr ⟨(),
    reject_of_not (not_not.mpr (crypto.sign_size _ _)), bind_eq_ok.mpr ⟨(),
      reject_of_not (not_not.mpr rfl), reject_of_not ?_⟩⟩⟩
  rw [Bool.not_eq_false]
  exact crypto.verify_sign _ _

/-- The tables after the registration of a wallet with a root key and the children of the root. -/
def Db.register (crypto : Crypto) (key : SigningKey) (op : OperationId) (w : Token) (root : KeyRef)
    (children : List KeyRef) (db : Db) : Db :=
  let commit := registration crypto key op w (.ofKeys root children)
  { db with
    policies := db.policies.set w (.first crypto key w)
    enrolledKeys := db.enrolledKeys.set root.publicKeyFingerprint ⟨root, true, .walletRoot, some w⟩
    ceremonyBackendEnrollments :=
      db.ceremonyBackendEnrollments.set root.backendInstance (.ofKeys root children)
    ceremonyReceipts := db.ceremonyReceipts.set op
      ⟨"custody", crypto.jcs commit.result.serialized, 1⟩
    ceremonyStatuses := db.ceremonyStatuses.set op commit.status
    ceremonyWallets := ∅
    webauthnCredentials := ∅ }

/-- Nothing is stored yet under the names a registration takes. -/
structure Unregistered (db : Db) (op : OperationId) (w : Token) (root : KeyRef) : Prop where
  policy : db.policies.get? w = none
  key : db.enrolledKeys.get? root.publicKeyFingerprint = none
  enrollment : db.ceremonyBackendEnrollments.get? root.backendInstance = none
  receipt : db.ceremonyReceipts.get? op = none
  surface : db.surfaceState = none

section
variable {crypto : Crypto} {key : SigningKey} {op : OperationId} {w : Token} {root : KeyRef}
variable {children : List KeyRef} {e : Engine} {n : Nat}

theorem enrollRoot_ofKeys {db : Db} (hroot : root.derivation = none)
    (hchildren : ∀ k ∈ children, k.derivation.isSome = true)
    (hkey : db.enrolledKeys.get? root.publicKeyFingerprint = none) :
    enrollRoot w (.ofKeys root children) db = .ok { db with
      enrolledKeys :=
        db.enrolledKeys.set root.publicKeyFingerprint ⟨root, true, .walletRoot, some w⟩ } := by
  have hroots : (root :: children).filter (·.derivation.isNone) = [root] := by
    rw [List.filter_cons, if_pos (by rw [hroot]; rfl), List.filter_eq_nil_iff.mpr]
    intro k hk
    rw [Option.isNone_iff_eq_none, ← Option.not_isSome_iff_eq_none]
    exact not_not.mpr (hchildren k hk)
  unfold enrollRoot
  rw [show (BackendEnrollmentBackup.ofKeys root children).pinnedKeys = root :: children from rfl,
    hroots]
  refine bind_eq_ok.mpr ⟨(), reject_of_not ?_, ?_⟩
  · rintro (h | h | h) <;> exact h rfl
  · rw [Table.insert?_eq_set hkey]
    rfl

/-- An engine registers a wallet it does not know. -/
theorem Engine.Ready.register (h : e.Ready crypto n) (hn : n < 2 ^ 63) (serde : EnrollmentSerde)
    (key : SigningKey) (op : OperationId) (w : Token) (root : KeyRef) (children : List KeyRef)
    (hnew : Unregistered e.db op w root) (hroot : root.derivation = none)
    (hchildren : ∀ k ∈ children, k.derivation.isSome = true) :
    ∃ journal, commitCustodySnapshotWithEffect crypto serde
        (registration crypto key op w (.ofKeys root children)) e =
        (.ok (), { e with db := { e.db.register crypto key op w root children with journal } }) ∧
      Engine.Ready crypto
        { e with db := { e.db.register crypto key op w root children with journal } } (n + 1) := by
  let commit := registration crypto key op w (.ofKeys root children)
  let db := e.db.register crypto key op w root children
  have hrecords : commitCustodyRecords crypto commit e.db =
      .ok { e.db with ceremonyWallets := ∅, webauthnCredentials := ∅ } := rfl
  have heffect : commitEffect crypto e.backends commit
      { e.db with ceremonyWallets := ∅, webauthnCredentials := ∅ } =
      .ok { db with
        ceremonyReceipts := e.db.ceremonyReceipts
        ceremonyStatuses := e.db.ceremonyStatuses } :=
    bind_eq_ok.mpr ⟨_, okOr_eq_ok.mpr (Table.insert?_eq_set hnew.policy _),
      bind_eq_ok.mpr ⟨_, enrollRoot_ofKeys hroot hchildren hnew.key,
        bind_eq_ok.mpr ⟨_, okOr_eq_ok.mpr (Table.insert?_eq_set hnew.enrollment _), rfl⟩⟩⟩
  have hreceipt : commitReceipt crypto commit
      { db with
        ceremonyReceipts := e.db.ceremonyReceipts
        ceremonyStatuses := e.db.ceremonyStatuses } = .ok db :=
    bind_eq_ok.mpr ⟨_, okOr_eq_ok.mpr (Table.insert?_eq_set hnew.receipt _), rfl⟩
  exact h.commitCustody hn rfl hnew.surface hrecords heffect hreceipt rfl

end

/-- The approval of one signature by a key. -/
def SealedApprovalTerms.single (walletId : Token) (keyRef : KeyRef) (expiresAtMs : Nat) :
    SealedApprovalTerms where
  subject := .cli ⟨"cli"⟩ ⟨"transfer"⟩
  walletId := walletId
  keyRef := keyRef
  allowedCryptoSuites := [.secp256k1Keccak256Recoverable]
  selector := .exact [.zero] [.zero]
  limits := ⟨1, 1, [], [], []⟩
  activationMode := .bootBound
  walletRevocationEpoch := 0
  policyVersion := 1
  policyDigest := .zero
  provenanceDigest := .zero
  requestNonce := "nonce"
  issuedAtMs := 1
  notBeforeMs := 1
  expiresAtMs := expiresAtMs
  renewalOf := none

section
variable (crypto : Crypto)

def SealedApprovalTerms.digest (terms : SealedApprovalTerms) : Digest32 :=
  crypto.sha256 (utf8 "bloom-sealed-approval-terms/v1" ++ utf8 (crypto.jcs terms.json))

/-- The request with the digests of its own fields. -/
def UnsignedSignRequest.withDigests (request : UnsignedSignRequest) : UnsignedSignRequest :=
  let identified := { request with operationDigest := request.operationIdentityDigest crypto }
  { identified with attemptDigest := identified.computedAttemptDigest crypto }

/-- A request for the signature an approval of one signature allows. -/
def SignRequest.under (brokerKey : SigningKey) (terms : SealedApprovalTerms)
    (attemptId : Digest32) (operationId : OperationId) : SignRequest :=
  let sample := (SignRequest.sample attemptId).unsigned
  let unsigned := UnsignedSignRequest.withDigests crypto { sample with
    operationId
    approvalId := terms.digest crypto
    walletId := terms.walletId
    keyRef := terms.keyRef }
  ⟨unsigned, ⟨crypto.sign brokerKey unsigned.attemptDigest.bytes⟩⟩

end

def ClockDecision.sample : ClockDecision := ⟨1000, none, 0, ⟨"boot-1"⟩⟩

section
variable {crypto : Crypto} {config : Config} {brokerKey : SigningKey} {key : KeyRef} {db : Db}
variable {w : Token} {x : Nat}

theorem signPrelude_under (hid : config.brokerKeyId = ⟨"broker-key"⟩)
    (hkey : config.brokerPublicKey = crypto.verifyingKey brokerKey) (terms : SealedApprovalTerms)
    (attemptId : Digest32) (oid : OperationId) :
    signPrelude crypto config (.under crypto brokerKey terms attemptId oid)
      ClockDecision.sample.effectiveNowMs = .ok () := by
  have hbound : (SignRequest.under crypto brokerKey terms attemptId oid).unsigned.messagesAreBound
    crypto = true := rfl
  refine bind_eq_ok.mpr ⟨(), bind_eq_ok.mpr ⟨(), reject_of_not ?_, reject_of_not ?_⟩,
    bind_eq_ok.mpr ⟨(), bind_eq_ok.mpr ⟨(), reject_of_not ?_, bind_eq_ok.mpr ⟨(),
      reject_of_not (not_not.mpr (crypto.sign_size _ _)), reject_of_not ?_⟩⟩, reject_of_not ?_⟩⟩
  · rintro (h | h | h | h | h | h | h)
    · exact h rfl
    · exact h rfl
    · exact absurd h (by show ¬30000 ≤ 1; decide)
    · exact absurd h (by show ¬30000 < 1; decide)
    · exact absurd h (by show ¬30000 < 30000 - 1; decide)
    · exact h rfl
    · exact h hbound
  · rintro (h | h) <;> exact h rfl
  · rintro (h | h)
    · exact h rfl
    · exact h hid.symm
  · rw [Bool.not_eq_false, hkey]
    exact crypto.verify_sign _ _
  · show ¬(1000 < 1 ∨ 30000 ≤ 1000)
    decide

theorem approvalPrelude_single (crypto : Crypto) (hkey : key.validate = .ok ())
    (hspec : key.keySpec = .secp256k1) (w : Token) (hx : 30000 ≤ x) (hx' : x ≤ 90000) :
    (SealedApprovalTerms.single w key x).approvalId crypto =
        .ok ((SealedApprovalTerms.single w key x).digest crypto) ∧
      approvalPrelude crypto (.single w key x) =
        .ok ((SealedApprovalTerms.single w key x).digest crypto) := by
  have hvalidate : (SealedApprovalTerms.single w key x).validate = .ok () := by
    refine bind_eq_ok.mpr ⟨(), hkey, bind_eq_ok.mpr ⟨(), reject_of_not ?_, bind_eq_ok.mpr ⟨(), rfl,
      bind_eq_ok.mpr ⟨(), reject_of_not ?_, rfl⟩⟩⟩⟩
    · simp [SealedApprovalTerms.single, hspec, CryptoSuite.keySpec]
    · show ¬(x ≤ 1 ∨ x < 1)
      omega
  have hid : (SealedApprovalTerms.single w key x).approvalId crypto =
      .ok ((SealedApprovalTerms.single w key x).digest crypto) :=
    bind_eq_ok.mpr ⟨(), hvalidate, rfl⟩
  refine ⟨hid, bind_eq_ok.mpr ⟨(), hvalidate, bind_eq_ok.mpr ⟨(), reject_of_not ?_, hid⟩⟩⟩
  show ¬90 * 24 * 60 * 60 * 1000 < x - 1
  omega

theorem validatePetalKeyApproval_single (now : Nat)
    (hclass : ∀ row, db.enrolledKeys.get? key.publicKeyFingerprint = some row →
      row.authorityClass ≠ .petal) :
    validatePetalKeyApproval db (.single w key x) now = .ok () := by
  rw [validatePetalKeyApproval]
  show (if (db.enrolledKeys.get? key.publicKeyFingerprint).map EnrolledKeyRow.authorityClass =
    some .petal then _ else _) = _
  rw [if_neg]
  intro h
  obtain ⟨row, hrow, hpetal⟩ := Option.map_eq_some_iff.mp h
  exact hclass row hrow hpetal

theorem admitRequest_under {attemptId : Digest32} {row : EnrolledKeyRow} (answers : BackendAnswers)
    (brokerKey : SigningKey) (oid : OperationId) (hattempt : db.attempts.get? attemptId = none)
    (happroval : db.approvals.get? ((SealedApprovalTerms.single w key x).digest crypto) =
      some ⟨w, .single w key x, true, 0, 0⟩) (hx : 30000 ≤ x)
    (hrow : db.enrolledKeys.get? key.publicKeyFingerprint = some row) (hkey : row.keyRef = key)
    (hclass : row.authorityClass ≠ .petal)
    (hderivation : ∀ s p q, key.derivation ≠ some (.bip39Multicurve s p q))
    (hanswer : answers.keyIsAvailable key = .ok true) (hepoch : walletEpoch db w = 0) :
    admitRequest answers db
      (SignRequest.under crypto brokerKey (.single w key x) attemptId oid).unsigned
      ClockDecision.sample.effectiveNowMs = .ok (.single w key x) := by
  have hchild : requireActivatedChild db key = .ok () := by
    unfold requireActivatedChild
    split
    · next hd => exact absurd hd (hderivation _ _ _)
    · rfl
  refine bind_eq_ok.mpr ⟨(), reject_of_not ?_, bind_eq_ok.mpr ⟨_, okOr_eq_ok.mpr happroval,
    bind_eq_ok.mpr ⟨(), reject_of_not (by simp), bind_eq_ok.mpr ⟨(), ?_, bind_eq_ok.mpr ⟨(), ?_,
      bind_eq_ok.mpr ⟨(), ?_, bind_eq_ok.mpr ⟨(), reject_of_not (not_not.mpr hepoch), rfl⟩⟩⟩⟩⟩⟩⟩
  · show ¬(db.attempts.get? attemptId).isSome = true
    rw [hattempt]
    exact Bool.false_ne_true
  · show requireKeyAvailable answers db key = .ok ()
    rw [requireKeyAvailable, hrow, Option.map_some, hkey, Option.map_some]
    refine bind_eq_ok.mpr ⟨(), reject_of_not (not_not.mpr rfl), bind_eq_ok.mpr ⟨true, hanswer,
      bind_eq_ok.mpr ⟨(), reject_of_not (by decide), ?_⟩⟩⟩
    rw [if_neg (by simpa using hclass)]
    exact hchild
  · refine validatePetalKeyApproval_single _ fun row' hrow' => ?_
    rw [hrow] at hrow'
    cases hrow'
    exact hclass
  · refine bind_eq_ok.mpr ⟨(), reject_of_not ?_, bind_eq_ok.mpr ⟨(), reject_of_not ?_,
      bind_eq_ok.mpr ⟨(), rfl, bind_eq_ok.mpr ⟨(), rfl, bind_eq_ok.mpr ⟨(), rfl, rfl⟩⟩⟩⟩⟩
    · show ¬(x ≤ 1000 ∨ 1000 < 1 ∨ 1 < 1 ∨ x < 30000)
      omega
    · rintro (h | h) <;> exact h rfl

/-- The first operation of an approval. -/
theorem admitOperation_under {oid : OperationId} (brokerKey : SigningKey)
    (happroval : db.approvals.get? ((SealedApprovalTerms.single w key x).digest crypto) =
      some ⟨w, .single w key x, true, 0, 0⟩)
    (hoperation : db.operations.get? oid = none)
    (hanchor : db.operationClockAnchors.get? oid = none) (attemptId : Digest32) :
    let a := (SealedApprovalTerms.single w key x).digest crypto
    ∃ operations anchors row, row.approvalId = a ∧ db.operations.insert? oid row = some operations ∧
      admitOperation crypto db
        (SignRequest.under crypto brokerKey (.single w key x) attemptId oid).unsigned
        (.single w key x) .sample = .ok (.newOperation,
          { db with operations, operationClockAnchors := anchors }.setCounters a 1 1) := by
  intro a
  let request := (SignRequest.under crypto brokerKey (.single w key x) attemptId oid).unsigned
  let row : OperationRow := {
    operationDigest := request.operationDigest
    retryBindingDigest := retryBindingDigest crypto request
    approvalId := a
    signatureCount := 1
    acceptedAtMs := 1000
    state := .reserved
    normalizedResult := none }
  obtain ⟨operations, hops⟩ := Table.insert?_of_fresh (v := row) hoperation
  obtain ⟨anchors, hanchors⟩ := Table.insert?_of_fresh
    (v := (⟨none, 0, ⟨"boot-1"⟩⟩ : ClockAnchorRow)) hanchor
  refine ⟨operations, anchors, row, rfl, hops, ?_⟩
  have hnew : db.operations.get? request.operationId = none := hoperation
  unfold admitOperation
  rw [hnew]
  refine bind_eq_ok.mpr ⟨_, bind_eq_ok.mpr ⟨(1, 1), ?_, bind_eq_ok.mpr ⟨operations,
    okOr_eq_ok.mpr hops, bind_eq_ok.mpr ⟨anchors, okOr_eq_ok.mpr hanchors, rfl⟩⟩⟩, rfl⟩
  exact bind_eq_ok.mpr ⟨_, okOr_eq_ok.mpr happroval, rfl⟩

/-- The approval of a first signature is installed. -/
theorem Engine.Ready.persistSingle {e : Engine} {n : Nat} (h : e.Ready crypto n) (hn : n < 2 ^ 63)
    (answers : BackendAnswers) (w : Token) (key : KeyRef) (x : Nat) (hkey : key.validate = .ok ())
    (hspec : key.keySpec = .secp256k1) (hx : 30000 ≤ x) (hx' : x ≤ 90000)
    (hanswer : answers.keyIsRegistered key = .ok true)
    (hclass : ∀ row, e.db.enrolledKeys.get? key.publicKeyFingerprint = some row →
      row.authorityClass ≠ .petal) (hwallet : e.db.walletState.get? w = none)
    (hnew : e.db.approvals.get? ((SealedApprovalTerms.single w key x).digest crypto) = none) :
    let db : Db := { e.db with
      walletState := e.db.walletState.set w ⟨0, .derivationRegistryMissing, none, none⟩
      approvals := e.db.approvals.set ((SealedApprovalTerms.single w key x).digest crypto)
        ⟨w, .single w key x, true, 0, 0⟩ }
    ∃ journal, persistApproval crypto e answers (.single w key x) none =
        (.ok ((SealedApprovalTerms.single w key x).digest crypto),
          { e with db := { db with journal } }) ∧
      Engine.Ready crypto { e with db := { db with journal } } (n + 1) := by
  intro db
  obtain ⟨-, hprelude⟩ := approvalPrelude_single crypto hkey hspec w hx hx'
  have hepoch : admitEpoch e.db (.single w key x) = .ok { db with approvals := e.db.approvals } := by
    have hnone : e.db.walletState.get? (SealedApprovalTerms.single w key x).walletId = none := hwallet
    rw [admitEpoch, hnone]
    rfl
  obtain ⟨journal, hrun, hready⟩ := h.persist hn hprelude hanswer
    (validatePetalKeyApproval_single _ hclass) hepoch rfl (Table.insert?_eq_set hnew _)
  exact ⟨journal, hrun, hready⟩

end

theorem walletEnrollments_eq_singleton {db : Db} {w i : Token} {x : BackendEnrollmentBackup}
    (h : db.ceremonyBackendEnrollments.get? i = some x) (hx : x.backendInstance = w)
    (honly : ∀ j y, db.ceremonyBackendEnrollments.get? j = some y → y.backendInstance = w → j = i) :
    walletEnrollments db w = [x] := by
  have hselect : (db.ceremonyBackendEnrollments.select fun _ y => y.backendInstance = w) =
      [(i, x)] :=
    Table.select_eq_singleton h (decide_eq_true hx) fun j y hj hy =>
      honly j y hj (of_decide_eq_true hy)
  have hperm := (List.mergeSort_perm db.ceremonyBackendEnrollments.rows
    (fun a b => decide (utf8 a.1.asStr ≤ utf8 b.1.asStr))).filter fun r =>
      r.2.backendInstance = w
  rw [Table.select] at hselect
  rw [hselect] at hperm
  rw [walletEnrollments, List.filter_map]
  exact congrArg (List.map Prod.snd) (List.perm_singleton.mp hperm)

/-- A backend restores with its pinned keys as roots of the wallet. -/
structure Pinnable (root : KeyRef) (children : List KeyRef) : Prop where
  underived : root.derivation = none
  derived : ∀ k ∈ children, k.derivation.isSome = true
  bound : ∀ k ∈ root :: children, k.backend = root.backend ∧
    k.backendInstance = root.backendInstance ∧ k.validate = .ok ()

def rootRows (w : Token) (pinned : List KeyRef) (keys : Table Digest32 EnrolledKeyRow) :
    Table Digest32 EnrolledKeyRow :=
  pinned.foldl (fun keys k => keys.set k.publicKeyFingerprint ⟨k, false, .walletRoot, some w⟩) keys

theorem foldE_restorePinnedKey {backup : SignerBackupSet} {enrollment : BackendEnrollmentBackup}
    {pinned : List KeyRef} (hbound : ∀ k ∈ pinned, k.backend = enrollment.backend ∧
      k.backendInstance = enrollment.backendInstance ∧ k.validate = .ok ())
    (keys : Table Digest32 EnrolledKeyRow) :
    foldE (restorePinnedKey backup enrollment) keys pinned =
      .ok (rootRows backup.walletId pinned keys) := by
  induction pinned generalizing keys with
  | nil => rfl
  | cons k pinned ih =>
    obtain ⟨hbackend, hinstance, hvalid⟩ := hbound k List.mem_cons_self
    have hk : restorePinnedKey backup enrollment keys k =
        .ok (keys.set k.publicKeyFingerprint ⟨k, false, .walletRoot, some backup.walletId⟩) := by
      refine bind_eq_ok.mpr ⟨(), reject_of_not ?_, bind_eq_ok.mpr ⟨(), hvalid, rfl⟩⟩
      exact not_or.mpr ⟨not_not.mpr hbackend, not_not.mpr hinstance⟩
    rw [foldE_cons, hk, bind_ok]
    exact ih (fun k' hk' => hbound k' (List.mem_cons_of_mem _ hk')) _

theorem Pinnable.registry {root : KeyRef} {children : List KeyRef} (h : Pinnable root children) :
    ∃ registry, derivationRegistryFromEnrollments [.ofKeys root children] = .ok registry := by
  have hrecord : localRecord (.ofKeys root children) =
      .ok (BackendEnrollmentBackup.ofKeys root children).encryptedRecord := by
    refine bind_eq_ok.mpr ⟨(), reject_of_not ?_, rfl⟩
    rintro (hne | ⟨pinned, hpinned, record, ⟨⟩, hne⟩)
    · refine hne ?_
      show children = (root :: children).filter _
      rw [List.filter_cons, if_neg (by rw [h.underived]; exact Bool.false_ne_true)]
      exact (List.filter_eq_self.mpr h.derived).symm
    · rw [show (BackendEnrollmentBackup.ofKeys root children).pinnedKeys = root :: children from rfl,
        List.find?_cons_of_pos (by rw [h.underived]; rfl)] at hpinned
      cases hpinned
      exact hne rfl
  have hrecords : ∃ records, ([BackendEnrollmentBackup.ofKeys root children].filter
      (·.backend.asStr = "local")).mapM localRecord = .ok records := by
    rw [List.filter_singleton]
    cases decide ((BackendEnrollmentBackup.ofKeys root children).backend.asStr = "local") with
    | false => exact ⟨[], rfl⟩
    | true => exact ⟨_, by rw [cond_true, List.mapM_cons, hrecord]; rfl⟩
  obtain ⟨records, hrecords⟩ := hrecords
  rw [derivationRegistryFromEnrollments, hrecords, bind_ok]
  dsimp only
  split
  · exact ⟨none, rfl⟩
  · exact ⟨_, rfl⟩

/-- The Broker of the engines below signs with this key. -/
def brokerKey : SigningKey := ⟨List.replicate 32 2⟩

def standInConfig : Config where
  brokerKeyId := ⟨"broker-key"⟩
  brokerPublicKey := Crypto.standIn.verifyingKey brokerKey
  revocationKeyId := ⟨"revocation-key"⟩
  revocationSigningKey := ⟨List.replicate 32 3⟩

section
variable {e : Engine} {n x : Nat} {w : Token} {root key : KeyRef} {children : List KeyRef}

/-- The restored engine grants the approval of a pinned key one signature, whatever identifiers the
request has. -/
theorem handed_over_authorizes (serde : ExportSerde) (answers : BackendAnswers)
    (h : SoleApproval e.db w (.ofKeys root children) (.first .standIn boundKey w)
      ((SealedApprovalTerms.single w key x).digest .standIn) (.single w key x))
    (hready : e.Ready .standIn n) (hn : n + 2 < 2 ^ 63) (hkeys : e.auditKeys = boundKeys)
    (hpinnable : Pinnable root children)
    (hvalid : key.validate = .ok ()) (hspec : key.keySpec = .secp256k1)
    (hx : 30000 ≤ x) (hx' : x ≤ 90000)
    (hkey : (rootRows w (root :: children) ∅).get? key.publicKeyFingerprint =
      some ⟨key, false, .walletRoot, some w⟩)
    (hderivation : ∀ s p q, key.derivation ≠ some (.bip39Multicurve s p q))
    (hanswer : answers.keyIsAvailable key = .ok true) (backends : Backends) :
    ∃ backup e', (exportWalletBackup serde .standIn e w).1 = .ok backup ∧
      restoreBackup .standIn standInConfig serde.toBackupSerde (.blank e.auditKeys backends) backup =
        (.ok (), e') ∧
      e'.db.enrolledKeys.get? key.publicKeyFingerprint = some ⟨key, false, .walletRoot, some w⟩ ∧
      ∀ attemptId oid, (authorizeSign .standIn standInConfig answers e'
        (.under .standIn brokerKey (.single w key x) attemptId oid) .sample).1 =
          .ok .newOperation := by
  obtain ⟨hid, -⟩ := approvalPrelude_single .standIn hvalid hspec w hx hx'
  obtain ⟨registry, hregistry⟩ := hpinnable.registry
  have hpinned : ∀ backup : SignerBackupSet, backup.walletId = w →
      foldE (restorePinnedKey backup (.ofKeys root children)) ∅
        (BackendEnrollmentBackup.ofKeys root children).pinnedKeys =
        .ok (rootRows w (root :: children) ∅) := by
    rintro backup rfl
    exact foldE_restorePinnedKey hpinnable.bound ∅
  obtain ⟨backup, e₁, e', entries, journal, hexport, hrestore, hready', hdb⟩ :=
    h.handover standInConfig serde hready (Nat.lt_of_succ_lt hn) hkeys rfl hregistry
      (verifyPolicyBackup_first .standIn boundKey w rfl) rfl rfl hid hpinned backends
  have henrolled : e'.db.enrolledKeys.get? key.publicKeyFingerprint =
      some ⟨key, false, .walletRoot, some w⟩ := by
    rw [congrArg Db.enrolledKeys hdb]
    exact hkey
  refine ⟨backup, e', by rw [hexport], hrestore, henrolled, fun attemptId oid => ?_⟩
  have happroval : e'.db.approvals.get? ((SealedApprovalTerms.single w key x).digest .standIn) =
      some ⟨w, .single w key x, true, 0, 0⟩ := by
    rw [congrArg Db.approvals hdb]
    show (Table.update _ _ _).get? _ = _
    rw [Table.get?_update, if_pos rfl, Table.get?_upsert, if_pos rfl]
    rfl
  have hepoch : walletEpoch e'.db w = 0 := by
    rw [walletEpoch, congrArg Db.walletState hdb]
    show (((Table.set _ _ _).get? _).map _).getD 0 = 0
    rw [Table.get?_set, if_pos rfl]
    rfl
  have hattempt : e'.db.attempts.get? attemptId = none := by
    rw [congrArg Db.attempts hdb]
    rfl
  have hop : e'.db.operations.get? oid = none := by
    rw [congrArg Db.operations hdb]
    rfl
  have hanchor : e'.db.operationClockAnchors.get? oid = none := by
    rw [congrArg Db.operationClockAnchors hdb]
    rfl
  have hadmitted := admitRequest_under answers brokerKey oid hattempt happroval hx henrolled rfl
    (by intro hclass; cases hclass) hderivation hanswer hepoch
  obtain ⟨operations, anchors, row, -, -, hoperation⟩ :=
    admitOperation_under brokerKey happroval hop hanchor attemptId
  have hprelude : signPrelude .standIn standInConfig
      (.under .standIn brokerKey (.single w key x) attemptId oid)
      ClockDecision.sample.effectiveNowMs = .ok () :=
    signPrelude_under rfl rfl _ attemptId oid
  obtain ⟨_, _, -, hrun, -⟩ := hready'.authorize hn hprelude hadmitted hoperation
  rw [hrun]

end

end BloomSigner
