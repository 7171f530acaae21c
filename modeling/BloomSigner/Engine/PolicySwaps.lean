import BloomSigner.Lib.Run
import BloomSigner.Engine.PolicyCeremony

/-! # Policy swaps are linear

Clients prepare policy updates against the policy they read, commit them as authorizations and swap
them in, in any order. Every swap moves the version of its wallet up by one, so of the updates
written against one baseline at most one is swapped in. -/

namespace BloomSigner

open Lib

/-- The engine, and the effects that ceremonies have prepared. -/
structure PolicySystem where
  engine : Engine
  prepared : List CeremonyDatabaseEffect := []

inductive PolicyCall where
  | prepareInitialPolicy (walletId : Token) (canonicalPolicy : Base64UrlBytes)
      (policySigningKeyId : Token) (unlocked : Custody.UnlockedWallet)
  | preparePolicyUpdate (request : PolicyUpdateCeremonyPrepareRequest)
      (unlocked : Custody.UnlockedWallet)
  /-- Commit the `n`-th prepared effect; a registration adds the enrollment of its backend. -/
  | commitPrepared (n : Nat) (enrollment : Option BackendEnrollmentBackup)
      (commit : CustodySnapshotCommit)
  /-- Commit a ceremony that is not about policies. -/
  | commitOther (key : Option (KeyRef × Option PetalKeyScope)) (commit : CustodySnapshotCommit)
  | installInitialPolicy (walletId : Token) (canonicalPolicy : Base64UrlBytes)
      (policySigningKeyId : Token) (unlocked : Custody.UnlockedWallet)
  | compareAndSwapPolicy (request : PolicyCompareAndSwapRequest)

/-- The effect a registration commits: the prepared one, with the enrollment of its backend. -/
def CeremonyDatabaseEffect.withEnrollment (enrollment : Option BackendEnrollmentBackup) :
    CeremonyDatabaseEffect → CeremonyDatabaseEffect
  | .initialPolicy snapshot policyVerifyingKey _ =>
    .initialPolicy snapshot policyVerifyingKey enrollment
  | effect => effect

/-- The effect of a ceremony that is not about policies. -/
def CeremonyDatabaseEffect.ofKey : Option (KeyRef × Option PetalKeyScope) → CeremonyDatabaseEffect
  | some (keyRef, petalScope) => .enrollKey keyRef petalScope
  | Option.none => .none

section
variable (crypto : Crypto) (serde : EnrollmentSerde)

/-- The system after a call, whatever it answered. -/
def policyStep (s : PolicySystem) : PolicyCall → PolicySystem
  | .prepareInitialPolicy walletId canonicalPolicy policySigningKeyId unlocked =>
    match prepareInitialPolicyEffect crypto walletId canonicalPolicy policySigningKeyId unlocked with
    | .ok effect => { s with prepared := s.prepared ++ [effect] }
    | .error _ => s
  | .preparePolicyUpdate request unlocked =>
    match preparePolicyUpdateEffect crypto s.engine.db request unlocked with
    | .ok (_, effect) => { s with prepared := s.prepared ++ [effect] }
    | .error _ => s
  | .commitPrepared n enrollment commit =>
    match s.prepared[n]? with
    | some effect =>
      let commit := { commit with effect := effect.withEnrollment enrollment }
      { s with engine := (commitCustodySnapshotWithEffect crypto serde commit s.engine).2 }
    | none => s
  | .commitOther key commit =>
    let commit := { commit with effect := .ofKey key }
    { s with engine := (commitCustodySnapshotWithEffect crypto serde commit s.engine).2 }
  | .installInitialPolicy walletId canonicalPolicy policySigningKeyId unlocked =>
    { s with engine := (BloomSigner.installInitialPolicy crypto s.engine walletId canonicalPolicy
        policySigningKeyId unlocked).2 }
  | .compareAndSwapPolicy request =>
    { s with engine := (BloomSigner.compareAndSwapPolicy crypto s.engine request).2 }

end

/-- A swap that was made, not replayed. -/
structure Swap where
  request : PolicyCompareAndSwapRequest
  receipt : PolicyCommitReceipt

def Swap.walletId (swap : Swap) : Token := swap.request.update.walletId

/-- The version and digest the update was written against. -/
def Swap.baseline (swap : Swap) : Nat × Digest32 :=
  (swap.request.update.baselineVersion, swap.request.update.baselineDigest)

def swapsOf (walletId : Token) (swaps : List Swap) : List Swap :=
  swaps.filter (·.walletId = walletId)

section
variable (crypto : Crypto) (serde : EnrollmentSerde)

/-- The swap a call makes, if it does; a call under a committed operation is a replay. -/
def swapped? (s : PolicySystem) : PolicyCall → Option Swap
  | .compareAndSwapPolicy request =>
    match s.engine.db.policyCommitReceipts.get? request.update.operationId,
      BloomSigner.compareAndSwapPolicy crypto s.engine request with
    | none, (.ok receipt, _) => some ⟨request, receipt⟩
    | _, _ => none
  | _ => none

/-- The swaps of a run, in order. -/
def swaps (s : PolicySystem) : List PolicyCall → List Swap
  | [] => []
  | call :: calls =>
    (swapped? crypto s call).toList ++ swaps (policyStep crypto serde s call) calls

end

/-! ## What a call does to the policy tables -/

/-- The tables a policy lives in. -/
structure SamePolicies (db db' : Db) : Prop where
  policies : db'.policies = db.policies
  authorizations : db'.policyAuthorizations = db.policyAuthorizations
  receipts : db'.policyCommitReceipts = db.policyCommitReceipts

/-- A first policy, over its own digest. -/
structure SignedPolicySnapshot.Initial (crypto : Crypto) (snapshot : SignedPolicySnapshot) :
    Prop where
  version : snapshot.version = 1
  policyDigest : snapshot.policyDigest = crypto.sha256 snapshot.canonicalPolicy.decode

/-- A receipt that commits the policy the update proposes, one version above its baseline. -/
structure PolicyUpdateRequest.CommittedBy (crypto : Crypto) (update : PolicyUpdateRequest)
    (receipt : PolicyCommitReceipt) : Prop where
  version : receipt.committed.version = update.baselineVersion + 1
  canonicalPolicy : receipt.committed.canonicalPolicy = update.proposedCanonicalPolicy
  policyDigest :
    receipt.committed.policyDigest = crypto.sha256 receipt.committed.canonicalPolicy.decode

/-- An effect whose policy was signed by this engine. -/
def CeremonyDatabaseEffect.Signed (crypto : Crypto) : CeremonyDatabaseEffect → Prop
  | .initialPolicy snapshot _ _ => snapshot.Initial crypto
  | .policyUpdatePending pending => pending.update.CommittedBy crypto pending.receipt
  | .none | .enrollKey _ _ => True

/-- What one call can do to the policy tables. -/
inductive PolicyMove (crypto : Crypto) (db db' : Db) : Option Swap → Prop where
  | same (tables : SamePolicies db db') : PolicyMove crypto db db' none
  | installed (row : PolicyRow) (initial : row.snapshot.Initial crypto)
      (policies : db.policies.insert? walletId row = some db'.policies)
      (authorizations : db'.policyAuthorizations = db.policyAuthorizations)
      (receipts : db'.policyCommitReceipts = db.policyCommitReceipts) : PolicyMove crypto db db' none
  | authorized (pending : PendingPolicyAuthorization)
      (signed : pending.update.CommittedBy crypto pending.commitReceipt)
      (authorizations : db.policyAuthorizations.insert? pending.update.operationId pending =
        some db'.policyAuthorizations)
      (policies : db'.policies = db.policies)
      (receipts : db'.policyCommitReceipts = db.policyCommitReceipts) : PolicyMove crypto db db' none
  | swapped (swap : Swap) (pending : PendingPolicyAuthorization) (row : PolicyRow)
      (proposed : crypto.sha256 swap.request.update.proposedCanonicalPolicy.decode =
        swap.request.update.proposedPolicyDigest)
      (authorization : db.policyAuthorizations.get? swap.request.update.operationId = some pending)
      (update : pending.update = swap.request.update)
      (receipt : pending.commitReceipt = swap.receipt)
      (current : db.policies.get? swap.walletId = some row)
      (baseline : (row.snapshot.version, row.snapshot.policyDigest) = swap.baseline)
      (policies : db'.policies = db.policies.update swap.walletId
        ({ · with snapshot := swap.receipt.committed }))
      (receipts : db.policyCommitReceipts.insert? swap.request.update.operationId
        ⟨crypto.jcs swap.request.json, swap.receipt⟩ = some db'.policyCommitReceipts)
      (authorizations : db'.policyAuthorizations = db.policyAuthorizations.erase
        fun oid _ => oid = swap.request.update.operationId) : PolicyMove crypto db db' (some swap)

section
variable {crypto : Crypto} {serde : EnrollmentSerde} {keys : Audit.AuditKeyState}
variable {db db' db₁ : Db}

theorem SamePolicies.trans (h₁ : SamePolicies db db₁) (h₂ : SamePolicies db₁ db') :
    SamePolicies db db' :=
  ⟨h₂.policies.trans h₁.policies, h₂.authorizations.trans h₁.authorizations,
    h₂.receipts.trans h₁.receipts⟩

/-- What a call does around its effect on the policy tables leaves them as they are. -/
theorem PolicyMove.then {swap : Option Swap} (h : PolicyMove crypto db db₁ swap)
    (hsame : SamePolicies db₁ db') : PolicyMove crypto db db' swap := by
  cases h with
  | same tables => exact .same (tables.trans hsame)
  | installed row initial policies authorizations receipts =>
    exact .installed row initial (hsame.policies ▸ policies)
      (hsame.authorizations.trans authorizations) (hsame.receipts.trans receipts)
  | authorized pending signed authorizations policies receipts =>
    exact .authorized pending signed (hsame.authorizations ▸ authorizations)
      (hsame.policies.trans policies) (hsame.receipts.trans receipts)
  | swapped swap pending row proposed authorization update receipt current baseline policies
      receipts authorizations =>
    exact .swapped swap pending row proposed authorization update receipt current baseline
      (hsame.policies.trans policies) (hsame.receipts ▸ receipts)
      (hsame.authorizations.trans authorizations)

theorem PolicyMove.after {swap : Option Swap} (h : PolicyMove crypto db₁ db' swap)
    (hsame : SamePolicies db db₁) : PolicyMove crypto db db' swap := by
  cases h with
  | same tables => exact .same (hsame.trans tables)
  | installed row initial policies authorizations receipts =>
    exact .installed row initial (hsame.policies ▸ policies)
      (authorizations.trans hsame.authorizations) (receipts.trans hsame.receipts)
  | authorized pending signed authorizations policies receipts =>
    exact .authorized pending signed (hsame.authorizations ▸ authorizations)
      (policies.trans hsame.policies) (receipts.trans hsame.receipts)
  | swapped swap pending row proposed authorization update receipt current baseline policies
      receipts authorizations =>
    refine .swapped swap pending row proposed (hsame.authorizations ▸ authorization) update receipt
      (hsame.policies ▸ current) baseline ?_ (hsame.receipts ▸ receipts) ?_
    · rw [policies, hsame.policies]
    · rw [authorizations, hsame.authorizations]

theorem appendAudit_samePolicies (h : db.appendAudit crypto keys event payload = .ok db') :
    SamePolicies db db' := by
  obtain ⟨journal, rfl⟩ := appendAudit_eq_ok h
  exact ⟨rfl, rfl, rfl⟩

/-! ## Ceremonies -/

theorem signPolicySnapshot_eq_ok
    (h : signPolicySnapshot crypto walletId version canonicalPolicy keyId unlocked = .ok snapshot) :
    snapshot.version = version ∧ snapshot.canonicalPolicy = canonicalPolicy ∧
      snapshot.policyDigest = crypto.sha256 canonicalPolicy.decode := by
  obtain ⟨_, -, h⟩ := bind_eq_ok.mp h
  obtain ⟨_, -, h⟩ := bind_eq_ok.mp h
  cases h
  exact ⟨rfl, rfl, rfl⟩

theorem signPolicySnapshot_initial
    (h : signPolicySnapshot crypto walletId 1 canonicalPolicy keyId unlocked = .ok snapshot) :
    snapshot.Initial crypto := by
  obtain ⟨hversion, hpolicy, hdigest⟩ := signPolicySnapshot_eq_ok h
  exact ⟨hversion, hpolicy ▸ hdigest⟩

theorem prepareInitialPolicyEffect_signed
    (h : prepareInitialPolicyEffect crypto walletId canonicalPolicy keyId unlocked = .ok effect) :
    effect.Signed crypto := by
  obtain ⟨_, -, h⟩ := bind_eq_ok.mp h
  obtain ⟨snapshot, hsnapshot, h⟩ := bind_eq_ok.mp h
  obtain ⟨_, -, h⟩ := bind_eq_ok.mp h
  cases h
  exact signPolicySnapshot_initial hsnapshot

theorem preparePolicyUpdateEffect_signed
    (h : preparePolicyUpdateEffect crypto db request unlocked = .ok (receipt, effect)) :
    effect.Signed crypto := by
  obtain ⟨_, -, h⟩ := bind_eq_ok.mp h
  obtain ⟨_, -, h⟩ := bind_eq_ok.mp h
  obtain ⟨current, -, h⟩ := bind_eq_ok.mp h
  obtain ⟨_, -, h⟩ := bind_eq_ok.mp h
  obtain ⟨_, -, h⟩ := bind_eq_ok.mp h
  obtain ⟨_, -, h⟩ := bind_eq_ok.mp h
  obtain ⟨nextVersion, hnext, h⟩ := bind_eq_ok.mp h
  obtain ⟨snapshot, hsnapshot, h⟩ := bind_eq_ok.mp h
  obtain ⟨_, -, h⟩ := bind_eq_ok.mp h
  cases h
  rw [okOr_eq_ok, checkedAdd64_eq_some] at hnext
  obtain ⟨hversion, hpolicy, hdigest⟩ := signPolicySnapshot_eq_ok hsnapshot
  exact ⟨hversion.trans hnext.1, hpolicy, hpolicy ▸ hdigest⟩

theorem withEnrollment_signed {effect : CeremonyDatabaseEffect} (h : effect.Signed crypto)
    (enrollment : Option BackendEnrollmentBackup) :
    (effect.withEnrollment enrollment).Signed crypto := by
  cases effect <;> exact h

theorem ofKey_signed (key : Option (KeyRef × Option PetalKeyScope)) :
    (CeremonyDatabaseEffect.ofKey key).Signed crypto := by
  cases key <;> trivial

/-! ## Commits -/

theorem enrollRoot_samePolicies (h : enrollRoot walletId enrollment db = .ok db') :
    SamePolicies db db' := by
  unfold enrollRoot at h
  split at h
  · cases h; exact ⟨rfl, rfl, rfl⟩
  · obtain ⟨_, -, h⟩ := bind_eq_ok.mp h
    obtain ⟨_, -, h⟩ := bind_eq_ok.mp h
    cases h
    exact ⟨rfl, rfl, rfl⟩

theorem insertEnrollment_samePolicies (h : insertEnrollment walletId db enrollment = .ok db') :
    SamePolicies db db' := by
  cases enrollment with
  | none => cases h; exact ⟨rfl, rfl, rfl⟩
  | some enrollment =>
    obtain ⟨db₁, hroot, h⟩ := bind_eq_ok.mp h
    obtain ⟨_, -, h⟩ := bind_eq_ok.mp h
    cases h
    exact (enrollRoot_samePolicies hroot).trans ⟨rfl, rfl, rfl⟩

theorem commitPetalScope_samePolicies
    (h : commitPetalScope crypto backends keyRef scope now db = .ok db') : SamePolicies db db' := by
  obtain ⟨_, -, h⟩ := bind_eq_ok.mp h
  obtain ⟨_, -, h⟩ := bind_eq_ok.mp h
  obtain ⟨_, -, h⟩ := bind_eq_ok.mp h
  obtain ⟨_, -, h⟩ := bind_eq_ok.mp h
  obtain ⟨_, -, h⟩ := bind_eq_ok.mp h
  obtain ⟨_, -, h⟩ := bind_eq_ok.mp h
  cases h
  exact ⟨rfl, rfl, rfl⟩

theorem commitEnrollKey_samePolicies
    (h : commitEnrollKey crypto backends keyRef scope now db = .ok db') : SamePolicies db db' := by
  cases scope with
  | none => cases h; exact ⟨rfl, rfl, rfl⟩
  | some scope =>
    have h : commitPetalScope crypto backends keyRef scope now _ = .ok db' := h
    have hscope := commitPetalScope_samePolicies h
    exact ⟨hscope.policies, hscope.authorizations, hscope.receipts⟩

theorem commitEffect_move (h : commitEffect crypto backends commit db = .ok db')
    (hsigned : commit.effect.Signed crypto) : PolicyMove crypto db db' none := by
  unfold commitEffect at h
  split at h
  · cases h; exact .same ⟨rfl, rfl, rfl⟩
  · next snapshot key enrollment heffect =>
    rw [heffect] at hsigned
    obtain ⟨policies, hinsert, h⟩ := bind_eq_ok.mp h
    have hmove : PolicyMove crypto db { db with policies } none :=
      .installed ⟨snapshot, key⟩ hsigned (okOr_eq_ok.mp hinsert) rfl rfl
    exact hmove.then (insertEnrollment_samePolicies h)
  · next pending heffect =>
    rw [heffect] at hsigned
    obtain ⟨authorizations, hinsert, h⟩ := bind_eq_ok.mp h
    cases h
    exact .authorized ⟨pending.update, pending.validation, commit.result, pending.receipt⟩ hsigned
      (okOr_eq_ok.mp hinsert) rfl rfl
  · exact .same (commitEnrollKey_samePolicies h)

theorem commitCustodyBody_move
    (h : commitCustodyBody crypto serde keys backends commit db = .ok (.commit db' r))
    (hsigned : commit.effect.Signed crypto) : PolicyMove crypto db db' none := by
  obtain ⟨_, -, h⟩ := bind_eq_ok.mp h
  obtain ⟨_, -, h⟩ := bind_eq_ok.mp h
  obtain ⟨db₁, hrecords, h⟩ := bind_eq_ok.mp h
  obtain ⟨db₂, heffect, h⟩ := bind_eq_ok.mp h
  obtain ⟨db₃, hreceipt, h⟩ := bind_eq_ok.mp h
  obtain ⟨db₄, haudit, h⟩ := bind_eq_ok.mp h
  cases h
  have hbefore : SamePolicies db db₁ := by
    obtain ⟨_, -, hrecords⟩ := bind_eq_ok.mp hrecords
    obtain ⟨_, -, hrecords⟩ := bind_eq_ok.mp hrecords
    obtain ⟨_, -, hrecords⟩ := bind_eq_ok.mp hrecords
    cases hrecords
    exact ⟨rfl, rfl, rfl⟩
  have hafter : SamePolicies db₂ db₃ := by
    obtain ⟨_, -, hreceipt⟩ := bind_eq_ok.mp hreceipt
    obtain ⟨_, -, hreceipt⟩ := bind_eq_ok.mp hreceipt
    cases hreceipt
    exact ⟨rfl, rfl, rfl⟩
  exact ((commitEffect_move heffect hsigned).after hbefore).then
    (hafter.trans (appendAudit_samePolicies haudit))

theorem installInitialPolicyBody_move
    (h : installInitialPolicyBody crypto keys snapshot key db = .ok (.commit db' r))
    (hinitial : snapshot.Initial crypto) : PolicyMove crypto db db' none := by
  obtain ⟨policies, hinsert, h⟩ := bind_eq_ok.mp h
  obtain ⟨db₁, haudit, h⟩ := bind_eq_ok.mp h
  cases h
  have hmove : PolicyMove crypto db { db with policies } none :=
    .installed _ hinitial (okOr_eq_ok.mp hinsert) rfl rfl
  exact hmove.then (appendAudit_samePolicies haudit)

/-- A guarded call that makes no swap moves the policy tables as its committed body does. -/
theorem mutation_move {e : Engine} {body : Db → Except Failure (Outcome α)}
    (h : ∀ db' r, body e.db = .ok (.commit db' r) → PolicyMove crypto e.db db' none) :
    PolicyMove crypto e.db (mutation crypto e body).2.db none := by
  obtain ⟨db', a, hbody, heq⟩ | ⟨a, -, heq⟩ | ⟨f, e', heq, hdb, -⟩ := mutation_cases crypto e body
  · rw [heq]; exact h db' a hbody
  · rw [heq]; exact .same ⟨rfl, rfl, rfl⟩
  · rw [heq, hdb]; exact .same ⟨rfl, rfl, rfl⟩

theorem precheck_move {e : Engine} {x : Except Failure β} {k : β → Except Failure α × Engine}
    (h : ∀ b, x = .ok b → PolicyMove crypto e.db (k b).2.db none) :
    PolicyMove crypto e.db (precheck e x k).2.db none := by
  cases x with
  | error f => exact .same ⟨rfl, rfl, rfl⟩
  | ok b => exact h b rfl

/-! ## Swaps -/

theorem swapPolicy_move (h : swapPolicy crypto keys request db = .ok (.commit db' receipt))
    (hproposed : crypto.sha256 request.update.proposedCanonicalPolicy.decode =
      request.update.proposedPolicyDigest) :
    PolicyMove crypto db db' (some ⟨request, receipt⟩) := by
  obtain ⟨pending, hpending, h⟩ := bind_eq_ok.mp h
  obtain ⟨_, hcovers, h⟩ := bind_eq_ok.mp h
  obtain ⟨row, hrow, h⟩ := bind_eq_ok.mp h
  obtain ⟨_, hbaseline, h⟩ := bind_eq_ok.mp h
  obtain ⟨receipts, hreceipts, h⟩ := bind_eq_ok.mp h
  obtain ⟨db₁, haudit, h⟩ := bind_eq_ok.mp h
  cases h
  rw [reject_eq_ok, not_not] at hcovers
  rw [reject_eq_ok, not_or, not_not, not_not] at hbaseline
  simp only [PendingPolicyAuthorization.covers, Bool.and_eq_true, decide_eq_true_eq] at hcovers
  obtain ⟨journal, rfl⟩ := appendAudit_eq_ok haudit
  exact .swapped ⟨request, pending.commitReceipt⟩ pending row hproposed (okOr_eq_ok.mp hpending)
    hcovers.1.1.1.1 rfl (okOr_eq_ok.mp hrow) (Prod.ext hbaseline.1 hbaseline.2) rfl
    (okOr_eq_ok.mp hreceipts) rfl

theorem swapPolicy_ne_drop : swapPolicy crypto keys request db ≠ .ok (.drop receipt) := by
  intro h
  obtain ⟨pending, -, h⟩ := bind_eq_ok.mp h
  obtain ⟨_, -, h⟩ := bind_eq_ok.mp h
  obtain ⟨row, -, h⟩ := bind_eq_ok.mp h
  obtain ⟨_, -, h⟩ := bind_eq_ok.mp h
  obtain ⟨receipts, -, h⟩ := bind_eq_ok.mp h
  obtain ⟨db₁, -, h⟩ := bind_eq_ok.mp h
  cases h

/-- A call under a committed operation changes no table. -/
theorem compareAndSwapPolicy_committed {e : Engine}
    (hrow : e.db.policyCommitReceipts.get? request.update.operationId = some row) :
    (compareAndSwapPolicy crypto e request).2.db = e.db := by
  cases hcall : compareAndSwapPolicy crypto e request with
  | mk answer e' =>
    cases answer with
    | error f =>
      obtain rfl | ⟨_, -, hcall⟩ := precheck_eq_error hcall
      · rfl
      · exact mutation_eq_error hcall
    | ok receipt =>
      obtain ⟨_, -, hcall⟩ := precheck_eq_ok hcall
      obtain ⟨-, -, ⟨db', hbody, -⟩ | ⟨-, rfl⟩⟩ := mutation_eq_ok hcall
      · unfold compareAndSwapPolicyBody at hbody
        rw [hrow] at hbody
        obtain ⟨_, -, hbody⟩ := bind_eq_ok.mp hbody
        cases hbody
      · rfl

theorem compareAndSwapPolicy_move (s : PolicySystem) (request : PolicyCompareAndSwapRequest) :
    PolicyMove crypto s.engine.db (compareAndSwapPolicy crypto s.engine request).2.db
      (swapped? crypto s (.compareAndSwapPolicy request)) := by
  rw [swapped?]
  cases hrow : s.engine.db.policyCommitReceipts.get? request.update.operationId with
  | some row =>
    rw [compareAndSwapPolicy_committed hrow]
    exact .same ⟨rfl, rfl, rfl⟩
  | none =>
    cases hcall : compareAndSwapPolicy crypto s.engine request with
    | mk answer e' =>
      cases answer with
      | error f =>
        have hsame : e'.db = s.engine.db := by
          obtain rfl | ⟨_, -, hcall⟩ := precheck_eq_error hcall
          · rfl
          · exact mutation_eq_error hcall
        show PolicyMove crypto s.engine.db e'.db none
        rw [hsame]
        exact .same ⟨rfl, rfl, rfl⟩
      | ok receipt =>
        obtain ⟨_, hproposed, hcall⟩ := precheck_eq_ok hcall
        rw [reject_eq_ok, not_not] at hproposed
        have hbody : compareAndSwapPolicyBody crypto s.engine.auditKeys request s.engine.db =
            swapPolicy crypto s.engine.auditKeys request s.engine.db := by
          unfold compareAndSwapPolicyBody
          rw [hrow]
        obtain ⟨-, -, ⟨db', hswap, rfl⟩ | ⟨hswap, -⟩⟩ := mutation_eq_ok hcall
        · exact swapPolicy_move (hbody.symm.trans hswap) hproposed
        · exact absurd (hbody.symm.trans hswap) swapPolicy_ne_drop

/-! ## One step -/

/-- Every prepared effect was signed by this engine. -/
def PolicySystem.PreparedSigned (crypto : Crypto) (s : PolicySystem) : Prop :=
  ∀ effect ∈ s.prepared, effect.Signed crypto

theorem policyStep_move {s : PolicySystem} (hs : s.PreparedSigned crypto) (call : PolicyCall) :
    PolicyMove crypto s.engine.db (policyStep crypto serde s call).engine.db
      (swapped? crypto s call) := by
  have hsame : SamePolicies s.engine.db s.engine.db := ⟨rfl, rfl, rfl⟩
  cases call with
  | prepareInitialPolicy =>
    rw [policyStep]
    split <;> exact .same hsame
  | preparePolicyUpdate =>
    rw [policyStep]
    split <;> exact .same hsame
  | commitPrepared n enrollment commit =>
    rw [policyStep]
    split
    · next effect heffect =>
      have hsigned := withEnrollment_signed (hs effect (List.mem_of_getElem? heffect)) enrollment
      exact mutation_move fun _ _ h => commitCustodyBody_move h hsigned
    · exact .same hsame
  | commitOther key commit =>
    exact mutation_move fun _ _ h => commitCustodyBody_move h (ofKey_signed key)
  | installInitialPolicy walletId canonicalPolicy policySigningKeyId unlocked =>
    refine precheck_move fun signed hsigned => ?_
    obtain ⟨_, -, hsigned⟩ := bind_eq_ok.mp hsigned
    obtain ⟨snapshot, hsnapshot, hsigned⟩ := bind_eq_ok.mp hsigned
    obtain ⟨_, -, hsigned⟩ := bind_eq_ok.mp hsigned
    cases hsigned
    exact mutation_move fun _ _ h =>
      installInitialPolicyBody_move h (signPolicySnapshot_initial hsnapshot)
  | compareAndSwapPolicy request => exact compareAndSwapPolicy_move s request

theorem policyStep_preparedSigned {s : PolicySystem} (hs : s.PreparedSigned crypto)
    (call : PolicyCall) : (policyStep crypto serde s call).PreparedSigned crypto := by
  have hadd : ∀ effect : CeremonyDatabaseEffect, effect.Signed crypto →
      ({ s with prepared := s.prepared ++ [effect] } : PolicySystem).PreparedSigned crypto := by
    intro effect heffect other hother
    rcases List.mem_append.mp hother with hother | hother
    · exact hs other hother
    · rw [List.mem_singleton.mp hother]
      exact heffect
  cases call with
  | prepareInitialPolicy =>
    rw [policyStep]
    split
    · next effect heffect => exact hadd effect (prepareInitialPolicyEffect_signed heffect)
    · exact hs
  | preparePolicyUpdate =>
    rw [policyStep]
    split
    · next effect heffect => exact hadd effect (preparePolicyUpdateEffect_signed heffect)
    · exact hs
  | commitPrepared =>
    rw [policyStep]
    split <;> exact hs
  | commitOther | installInitialPolicy | compareAndSwapPolicy => exact hs

/-! ## The invariant -/

/-- The policy tables after the swaps `history`. -/
structure PolicyInv (crypto : Crypto) (db : Db) (history : List Swap) : Prop where
  authorized : db.policyAuthorizations.get? oid = some pending →
    pending.update.CommittedBy crypto pending.commitReceipt
  digest : db.policies.get? w = some row →
    row.snapshot.policyDigest = crypto.sha256 row.snapshot.canonicalPolicy.decode
  version : db.policies.get? w = some row →
    row.snapshot.version = 1 + (swapsOf w history).length
  latest : db.policies.get? w = some row → ∀ swap ∈ (swapsOf w history).getLast?,
    row.snapshot = swap.receipt.committed ∧
      row.snapshot.canonicalPolicy = swap.request.update.proposedCanonicalPolicy
  below : swap ∈ history → ∃ row, db.policies.get? swap.walletId = some row ∧
    swap.baseline.1 < row.snapshot.version
  receipts : swap ∈ history →
    db.policyCommitReceipts.get? swap.request.update.operationId =
      some ⟨crypto.jcs swap.request.json, swap.receipt⟩
  proposed : swap ∈ history → crypto.sha256 swap.request.update.proposedCanonicalPolicy.decode =
    swap.request.update.proposedPolicyDigest
  baselines : history.Pairwise fun x y => x.walletId = y.walletId → x.baseline ≠ y.baseline

variable {history : List Swap}

/-- A wallet without a policy has no swaps. -/
theorem PolicyInv.swapsOf_eq_nil (inv : PolicyInv crypto db history)
    (hw : db.policies.get? w = none) : swapsOf w history = [] := by
  refine List.filter_eq_nil_iff.mpr fun swap hswap heq => ?_
  obtain ⟨row, hrow, -⟩ := inv.below hswap
  rw [of_decide_eq_true heq, hw] at hrow
  cases hrow

theorem swapsOf_append (w : Token) (swap : Swap) :
    swapsOf w (history ++ [swap]) =
      swapsOf w history ++ if swap.walletId = w then [swap] else [] := by
  rw [swapsOf, List.filter_append, ← swapsOf]
  split
  · next h => simp [h]
  · next h => simp [h]

theorem PolicyInv.congr (inv : PolicyInv crypto db history) (h : SamePolicies db db') :
    PolicyInv crypto db' history where
  authorized hp := inv.authorized (h.authorizations ▸ hp)
  digest hrow := inv.digest (h.policies ▸ hrow)
  version hrow := inv.version (h.policies ▸ hrow)
  latest hrow := inv.latest (h.policies ▸ hrow)
  below hswap := h.policies ▸ inv.below hswap
  receipts hswap := h.receipts ▸ inv.receipts hswap
  proposed := inv.proposed
  baselines := inv.baselines

theorem PolicyInv.install (inv : PolicyInv crypto db history) {row : PolicyRow}
    (hinitial : row.snapshot.Initial crypto)
    (hpolicies : db.policies.insert? w row = some db'.policies)
    (hauthorizations : db'.policyAuthorizations = db.policyAuthorizations)
    (hreceipts : db'.policyCommitReceipts = db.policyCommitReceipts) :
    PolicyInv crypto db' history := by
  have hnil := inv.swapsOf_eq_nil (Table.insert?_eq_some hpolicies).1
  have hrow : ∀ {w' row'}, db'.policies.get? w' = some row' →
      w' = w ∧ row' = row ∨ db.policies.get? w' = some row' := by
    intro w' row' h
    rw [Table.get?_insert? hpolicies] at h
    split at h
    · next hw => cases h; exact .inl ⟨hw, rfl⟩
    · exact .inr h
  refine ⟨fun hp => inv.authorized (hauthorizations ▸ hp), ?_, ?_, ?_, ?_,
    fun hswap => hreceipts ▸ inv.receipts hswap, inv.proposed, inv.baselines⟩
  · intro w' row' h
    rcases hrow h with ⟨rfl, rfl⟩ | h
    · exact hinitial.policyDigest
    · exact inv.digest h
  · intro w' row' h
    rcases hrow h with ⟨rfl, rfl⟩ | h
    · rw [hinitial.version, hnil, List.length_nil]
    · exact inv.version h
  · intro w' row' h
    rcases hrow h with ⟨rfl, rfl⟩ | h
    · rw [hnil]
      intro swap hswap
      cases hswap
    · exact inv.latest h
  · intro swap hswap
    obtain ⟨row', hrow', hlt⟩ := inv.below hswap
    refine ⟨row', ?_, hlt⟩
    have hne : swap.walletId ≠ w := by
      intro heq
      rw [heq, (Table.insert?_eq_some hpolicies).1] at hrow'
      cases hrow'
    rw [Table.get?_insert? hpolicies, if_neg hne, hrow']

theorem PolicyInv.authorize (inv : PolicyInv crypto db history)
    {pending : PendingPolicyAuthorization}
    (hsigned : pending.update.CommittedBy crypto pending.commitReceipt)
    (hauthorizations : db.policyAuthorizations.insert? oid pending =
      some db'.policyAuthorizations)
    (hpolicies : db'.policies = db.policies)
    (hreceipts : db'.policyCommitReceipts = db.policyCommitReceipts) :
    PolicyInv crypto db' history := by
  refine ⟨?_, fun h => inv.digest (hpolicies ▸ h), fun h => inv.version (hpolicies ▸ h),
    fun h => inv.latest (hpolicies ▸ h), fun hswap => hpolicies ▸ inv.below hswap,
    fun hswap => hreceipts ▸ inv.receipts hswap, inv.proposed, inv.baselines⟩
  intro oid' pending' h
  rw [Table.get?_insert? hauthorizations] at h
  split at h
  · cases h; exact hsigned
  · exact inv.authorized h

theorem PolicyInv.swap {swap : Swap} (inv : PolicyInv crypto db history)
    (hmove : PolicyMove crypto db db' (some swap)) : PolicyInv crypto db' (history ++ [swap]) := by
  cases hmove with
  | swapped swap pending row proposed authorization update receipt current baseline policies
      receipts authorizations =>
  have hsigned := inv.authorized authorization
  rw [update, receipt] at hsigned
  have hbaseline : row.snapshot.version = swap.request.update.baselineVersion :=
    congrArg Prod.fst baseline
  have hversion : swap.receipt.committed.version = row.snapshot.version + 1 := by
    rw [hsigned.version, hbaseline]
  -- the row of the swapped wallet, and every other row
  have hrow : ∀ {w row'}, db'.policies.get? w = some row' →
      (swap.walletId = w ∧ row'.snapshot = swap.receipt.committed) ∨
        (swap.walletId ≠ w ∧ db.policies.get? w = some row') := by
    intro w row' h
    rw [policies, Table.get?_update] at h
    split at h
    · next hw =>
      obtain ⟨old, -, rfl⟩ := Option.map_eq_some_iff.mp h
      exact .inl ⟨hw.symm, rfl⟩
    · next hw => exact .inr ⟨fun heq => hw heq.symm, h⟩
  refine ⟨?_, ?_, ?_, ?_, ?_, ?_, ?_, ?_⟩
  · intro oid pending' h
    rw [authorizations, Table.get?_erase, Option.filter_eq_some_iff] at h
    exact inv.authorized h.1
  · intro w row' h
    rcases hrow h with ⟨-, hsnapshot⟩ | ⟨-, h⟩
    · rw [hsnapshot]
      exact hsigned.policyDigest
    · exact inv.digest h
  · intro w row' h
    rw [swapsOf_append, List.length_append]
    rcases hrow h with ⟨rfl, hsnapshot⟩ | ⟨hne, h⟩
    · rw [if_pos rfl, hsnapshot, hversion, inv.version current, List.length_singleton,
        Nat.add_assoc]
    · rw [if_neg hne, inv.version h, List.length_nil, Nat.add_zero]
  · intro w row' h
    rw [swapsOf_append]
    rcases hrow h with ⟨rfl, hsnapshot⟩ | ⟨hne, h⟩
    · rw [if_pos rfl, List.getLast?_concat, hsnapshot]
      rintro _ ⟨⟩
      exact ⟨rfl, hsigned.canonicalPolicy⟩
    · rw [if_neg hne, List.append_nil]
      exact inv.latest h
  · intro other hother
    rw [policies, Table.get?_update]
    rcases List.mem_append.mp hother with hother | hother
    · obtain ⟨row', hrow', hlt⟩ := inv.below hother
      rw [hrow']
      split
      · next hw =>
        rw [hw, current] at hrow'
        cases hrow'
        exact ⟨_, rfl, Nat.lt_of_lt_of_le hlt (hversion ▸ Nat.le_succ _)⟩
      · exact ⟨row', rfl, hlt⟩
    · rw [List.mem_singleton.mp hother, if_pos rfl, current]
      refine ⟨_, rfl, ?_⟩
      show swap.request.update.baselineVersion < swap.receipt.committed.version
      rw [hversion, hbaseline]
      exact Nat.lt_succ_self _
  · intro other hother
    rw [Table.get?_insert? receipts]
    rcases List.mem_append.mp hother with hother | hother
    · have hold := inv.receipts hother
      have hne : other.request.update.operationId ≠ swap.request.update.operationId := by
        intro heq
        rw [heq, (Table.insert?_eq_some receipts).1] at hold
        cases hold
      rw [if_neg hne, hold]
    · rw [List.mem_singleton.mp hother, if_pos rfl]
  · intro other hother
    rcases List.mem_append.mp hother with hother | hother
    · exact inv.proposed hother
    · rw [List.mem_singleton.mp hother]
      exact proposed
  · refine List.pairwise_append.mpr ⟨inv.baselines, List.pairwise_singleton _ _, ?_⟩
    intro other hother new hnew hwallet heq
    rw [List.mem_singleton.mp hnew] at hwallet heq
    obtain ⟨row', hrow', hlt⟩ := inv.below hother
    rw [hwallet, current] at hrow'
    cases hrow'
    rw [heq, hbaseline] at hlt
    exact absurd hlt (Nat.lt_irrefl _)

theorem PolicyInv.step {swap : Option Swap} (inv : PolicyInv crypto db history)
    (hmove : PolicyMove crypto db db' swap) : PolicyInv crypto db' (history ++ swap.toList) := by
  cases swap with
  | some swap => exact inv.swap hmove
  | none =>
    rw [Option.toList_none, List.append_nil]
    cases hmove with
    | same tables => exact inv.congr tables
    | installed row initial policies authorizations receipts =>
      exact inv.install initial policies authorizations receipts
    | authorized pending signed authorizations policies receipts =>
      exact inv.authorize signed authorizations policies receipts

theorem run_policyInv {s : PolicySystem} (hs : s.PreparedSigned crypto)
    (inv : PolicyInv crypto s.engine.db history) (calls : List PolicyCall) :
    PolicyInv crypto (run (policyStep crypto serde) s calls).engine.db
      (history ++ swaps crypto serde s calls) := by
  induction calls generalizing s history with
  | nil => rw [swaps, List.append_nil]; exact inv
  | cons call calls ih =>
    rw [swaps, ← List.append_assoc]
    exact ih (policyStep_preparedSigned hs call) (inv.step (policyStep_move hs call))

/-! ## Replays -/

theorem compareAndSwapPolicy_replay {e : Engine} (hdegraded : e.auditDegraded = false)
    (hver : e.journalVerifies crypto)
    (hproposed : crypto.sha256 request.update.proposedCanonicalPolicy.decode =
      request.update.proposedPolicyDigest)
    (hrow : e.db.policyCommitReceipts.get? request.update.operationId =
      some ⟨crypto.jcs request.json, receipt⟩) :
    compareAndSwapPolicy crypto e request = (.ok receipt, e) := by
  have hbody : compareAndSwapPolicyBody crypto e.auditKeys request e.db = .ok (.drop receipt) := by
    unfold compareAndSwapPolicyBody
    rw [hrow]
    dsimp only
    rw [reject_of_not (fun h => h rfl), bind_ok]
    rfl
  unfold compareAndSwapPolicy
  dsimp only
  rw [reject_of_not (fun h => h hproposed), precheck, mutation, hdegraded,
    if_neg Bool.false_ne_true, if_pos hver, hbody]

/-- A committed operation takes no other request. -/
theorem compareAndSwapPolicy_conflict {e : Engine}
    (hrow : e.db.policyCommitReceipts.get? request.update.operationId = some row)
    (hne : row.requestJcs ≠ crypto.jcs request.json) :
    ∃ f e', compareAndSwapPolicy crypto e request = (.error f, e') ∧ e'.db = e.db := by
  cases hcall : compareAndSwapPolicy crypto e request with
  | mk answer e' =>
    have hdb : (compareAndSwapPolicy crypto e request).2.db = e.db :=
      compareAndSwapPolicy_committed hrow
    rw [hcall] at hdb
    cases answer with
    | error f => exact ⟨f, e', rfl, hdb⟩
    | ok receipt =>
      obtain ⟨_, -, hcall⟩ := precheck_eq_ok hcall
      obtain ⟨-, -, ⟨_, hbody, -⟩ | ⟨hbody, -⟩⟩ := mutation_eq_ok hcall
      all_goals
        unfold compareAndSwapPolicyBody at hbody
        rw [hrow] at hbody
        obtain ⟨_, hsame, -⟩ := bind_eq_ok.mp hbody
        rw [reject_eq_ok, not_not] at hsame
        exact absurd hsame hne

end

/-! ## Runs -/

/-- An engine before any policy is installed. -/
def Engine.withoutPolicies (e : Engine) : Engine :=
  { e with db := { e.db with policies := ∅, policyAuthorizations := ∅, policyCommitReceipts := ∅ } }

/-- From an engine without policies, whatever the clients do in whatever order: the version of a
wallet is one more than the number of its swaps, its policy and digest are those of the last swap,
each swap moves the version up by one, and no two swaps of a wallet share a baseline. An engine
that takes calls at all answers a swap again with its own receipt and changes nothing, and refuses
any other request under its operation. -/
theorem run_policy_linear (crypto : Crypto) (serde : EnrollmentSerde) (e₀ : Engine)
    (calls : List PolicyCall) :
    let s₀ : PolicySystem := ⟨e₀.withoutPolicies, []⟩
    let s := run (policyStep crypto serde) s₀ calls
    let history := swaps crypto serde s₀ calls
    (∀ w row, s.engine.db.policies.get? w = some row →
      row.snapshot.version = 1 + (swapsOf w history).length ∧
      row.snapshot.policyDigest = crypto.sha256 row.snapshot.canonicalPolicy.decode ∧
      ∀ swap ∈ (swapsOf w history).getLast?, row.snapshot = swap.receipt.committed ∧
        row.snapshot.canonicalPolicy = swap.request.update.proposedCanonicalPolicy) ∧
    (∀ call swap, swapped? crypto s call = some swap → ∃ row row',
      s.engine.db.policies.get? swap.walletId = some row ∧
      (policyStep crypto serde s call).engine.db.policies.get? swap.walletId = some row' ∧
      row'.snapshot.version = row.snapshot.version + 1) ∧
    (history.Pairwise fun x y => x.walletId = y.walletId → x.baseline ≠ y.baseline) ∧
    ∀ swap ∈ history,
      (s.engine.auditDegraded = false → s.engine.journalVerifies crypto →
        compareAndSwapPolicy crypto s.engine swap.request = (.ok swap.receipt, s.engine)) ∧
      ∀ request : PolicyCompareAndSwapRequest,
        request.update.operationId = swap.request.update.operationId →
        request.json ≠ swap.request.json →
        (crypto.jcs swap.request.json = crypto.jcs request.json →
          swap.request.json = request.json) →
        ∃ f e', compareAndSwapPolicy crypto s.engine request = (.error f, e') ∧
          e'.db = s.engine.db := by
  intro s₀ s history
  have hsigned₀ : s₀.PreparedSigned crypto := by intro effect heffect; cases heffect
  have hempty : PolicyInv crypto s₀.engine.db [] := {
    authorized := by intro _ _ h; cases h
    digest := by intro _ _ h; cases h
    version := by intro _ _ h; cases h
    latest := by intro _ _ h; cases h
    below := by intro _ h; cases h
    receipts := by intro _ h; cases h
    proposed := by intro _ h; cases h
    baselines := .nil }
  have inv : PolicyInv crypto s.engine.db history := run_policyInv hsigned₀ hempty calls
  have hsigned : s.PreparedSigned crypto :=
    run_invariant (P := PolicySystem.PreparedSigned crypto)
      (fun _ call h => policyStep_preparedSigned h call) hsigned₀ calls
  refine ⟨fun w row hrow => ⟨inv.version hrow, inv.digest hrow, inv.latest hrow⟩, ?_,
    inv.baselines, fun swap hswap => ⟨fun hdegraded hver => ?_, ?_⟩⟩
  · intro call swap hswapped
    have hmove : PolicyMove crypto s.engine.db (policyStep crypto serde s call).engine.db
        (swapped? crypto s call) := policyStep_move hsigned call
    rw [hswapped] at hmove
    have inv' := inv.swap hmove
    cases hmove with
    | swapped _ _ row _ _ _ _ current _ policies =>
      have hrow' : (policyStep crypto serde s call).engine.db.policies.get? swap.walletId =
          some { row with snapshot := swap.receipt.committed } := by
        rw [policies, Table.get?_update, if_pos rfl, current]
        rfl
      refine ⟨row, _, current, hrow', ?_⟩
      rw [inv'.version hrow', inv.version current, swapsOf_append, if_pos rfl,
        List.length_append, List.length_singleton, Nat.add_assoc]
  · exact compareAndSwapPolicy_replay hdegraded hver (inv.proposed hswap) (inv.receipts hswap)
  · intro request hid hne hjcs
    have hrow := inv.receipts hswap
    rw [← hid] at hrow
    exact compareAndSwapPolicy_conflict hrow fun heq => hne (hjcs heq).symm

end BloomSigner
