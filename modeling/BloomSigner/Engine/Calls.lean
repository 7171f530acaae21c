import Mathlib.Data.Fintype.EquivFin
import BloomSigner.Engine.CustodyCommit
import BloomSigner.Engine.Isolation
import BloomSigner.Engine.Permanence
import BloomSigner.Engine.RestoredAuthority

/-! # Runs of an engine

The calls that enroll keys, sign, revoke and manage accounts, as steps of one engine. Three facts
hold after every run from an empty database: a key is stored under its own fingerprint, a clock
anchor belongs to an operation, and the columns of a scope are those of the scope. -/

namespace BloomSigner

open Lib Lib.Program

/-- What an engine is built with. -/
structure Environment where
  crypto : Crypto
  aead : Custody.Aead
  derive : Derivation
  config : Config
  serde : ExportSerde
  enrollments : EnrollmentSerde

inductive EngineCall where
  | enrollKey (keyRef : KeyRef)
  | enrollWalletRootKey (walletId : Token) (keyRef : KeyRef)
  | commitCustody (commit : CustodySnapshotCommit)
  | refreshBackendEnrollment (walletId : Token) (keyRef : KeyRef)
  | account (call : AccountCall)
  | sign (call : SignCall)
  | revokeApproval (request : RevokeApproval)
  | revokeAll (request : RevokeAll)

/-- The engine after a call, whatever it answered. -/
def engineStep (env : Environment) (e : Engine) : EngineCall → Engine
  | .enrollKey keyRef => (enrollKey env.crypto env.aead env.derive keyRef e).2
  | .enrollWalletRootKey walletId keyRef =>
    (enrollWalletRootKey env.crypto env.aead env.derive walletId keyRef e).2
  | .commitCustody commit =>
    (commitCustodySnapshotWithEffect env.crypto env.enrollments commit e).2
  | .refreshBackendEnrollment walletId keyRef => (refreshBackendEnrollment walletId keyRef e).2
  | .account call => (call.exec env.crypto env.derive e).2
  | .sign call => signStep env.crypto env.config e call
  | .revokeApproval request =>
    (revokeApproval env.crypto env.config env.serde.toSerde e request).2
  | .revokeAll request => (revokeAll env.crypto env.config env.serde.toSerde e request).2

/-- The tables agree with each other. -/
structure Consistent (crypto : Crypto) (db : Db) : Prop where
  keyed : KeyedByFingerprint db
  anchored : ∀ oid anchor, db.operationClockAnchors.get? oid = some anchor →
    ∃ row, db.operations.get? oid = some row
  scopesFit : ∀ f row, db.petalKeyScopes.get? f = some row → row.WellFormed crypto

variable {crypto : Crypto} {env : Environment} {keys : Audit.AuditKeyState} {db db' : Db}
variable {e : Engine}

theorem consistent_blank (crypto : Crypto) (keys : Audit.AuditKeyState) (backends : Backends) :
    Consistent crypto (Engine.blank keys backends).db :=
  ⟨(by intro _ _ h; cases h), (by intro _ _ h; cases h), (by intro _ _ h; cases h)⟩

/-- No operation is lost. -/
def OperationsKept (db db' : Db) : Prop :=
  ∀ oid row, db.operations.get? oid = some row → ∃ row', db'.operations.get? oid = some row'

theorem Consistent.of_frame (h : Consistent crypto db) (hkeys : db'.enrolledKeys = db.enrolledKeys)
    (hscopes : db'.petalKeyScopes = db.petalKeyScopes)
    (hanchors : db'.operationClockAnchors = db.operationClockAnchors)
    (hkept : OperationsKept db db') : Consistent crypto db' where
  keyed f row hrow := h.keyed f row (hkeys ▸ hrow)
  anchored oid anchor hanchor := by
    obtain ⟨row, hrow⟩ := h.anchored oid anchor (hanchors ▸ hanchor)
    exact hkept oid row hrow
  scopesFit f row hrow := h.scopesFit f row (hscopes ▸ hrow)

theorem OperationsKept.of_eq (h : db'.operations = db.operations) : OperationsKept db db' :=
  fun _ row hrow => ⟨row, h ▸ hrow⟩

theorem operationsKept_setOperation (db : Db) (oid : OperationId)
    (f : OperationRow → OperationRow) : OperationsKept db (db.setOperation oid f) := by
  intro oid' row hrow
  rw [Db.setOperation]
  dsimp only
  rw [Table.get?_update, hrow]
  split
  · exact ⟨_, rfl⟩
  · exact ⟨row, rfl⟩

theorem Consistent.audited (happ : db.appendAudit crypto keys event payload = .ok db')
    (h : Consistent crypto db) : Consistent crypto db' := by
  obtain ⟨journal, rfl⟩ := appendAudit_eq_ok happ
  exact h.of_frame rfl rfl rfl (.of_eq rfl)

theorem mutation_consistent {body : Db → Except Failure (Outcome α)}
    (h : Consistent crypto e.db)
    (hbody : ∀ db a, body e.db = .ok (.commit db a) → Consistent crypto db) :
    Consistent crypto (mutation crypto e body).2.db := by
  obtain ⟨db, a, hb, heq⟩ | ⟨a, -, heq⟩ | ⟨f, e', heq, hdb, -⟩ := mutation_cases crypto e body
  · rw [heq]; exact hbody db a hb
  · rw [heq]; exact h
  · rw [heq, hdb]; exact h

theorem precheck_consistent {x : Except Failure β} {k : β → Except Failure α × Engine}
    (h : Consistent crypto e.db) (hk : ∀ b, Consistent crypto (k b).2.db) :
    Consistent crypto (precheck e x k).2.db := by
  cases x with
  | error f => exact h
  | ok b => exact hk b

/-! ## Enrolling keys -/

theorem KeyedByFingerprint.set (h : KeyedByFingerprint db) (row : EnrolledKeyRow) (f : Digest32)
    (hf : row.keyRef.publicKeyFingerprint = f) :
    ∀ g row', (db.enrolledKeys.set f row).get? g = some row' →
      row'.keyRef.publicKeyFingerprint = g := by
  intro g row' hrow
  rw [Table.get?_set] at hrow
  split at hrow
  · next hg => cases hrow; rw [hf, hg]
  · exact h g row' hrow

theorem Consistent.enroll (h : Consistent crypto db) (row : EnrolledKeyRow) (f : Digest32)
    (hf : row.keyRef.publicKeyFingerprint = f) :
    Consistent crypto { db with enrolledKeys := db.enrolledKeys.set f row } :=
  ⟨h.keyed.set row f hf, h.anchored, h.scopesFit⟩

theorem enrollKeyBody_consistent (h : Consistent crypto db)
    (hbody : enrollKeyBody crypto keys keyRef db = .ok (.commit db' u)) :
    Consistent crypto db' := by
  obtain ⟨db₁, happ, hbody⟩ := bind_eq_ok.mp hbody
  cases hbody
  refine .audited happ ⟨fun f row hrow => ?_, h.anchored, h.scopesFit⟩
  dsimp only at hrow
  rw [Table.get?_upsert] at hrow
  split at hrow
  · next hf =>
    subst hf
    cases hold : db.enrolledKeys.get? keyRef.publicKeyFingerprint <;> rw [hold] at hrow <;>
      cases hrow <;> rfl
  · exact h.keyed f row hrow

theorem enrollWalletKeyBody_consistent (h : Consistent crypto db)
    (hbody : enrollWalletKeyBody crypto keys authorityClass event w keyRef db =
      .ok (.commit db' u)) : Consistent crypto db' := by
  obtain ⟨db₁, happ, hbody⟩ := bind_eq_ok.mp hbody
  cases hbody
  exact .audited happ (h.enroll ⟨keyRef, true, authorityClass, some w⟩ _ rfl)

/-! ## Custody ceremonies -/

theorem insertEnrollment_consistent (hins : insertEnrollment w db enrollment = .ok db')
    (h : Consistent crypto db) : Consistent crypto db' := by
  cases enrollment with
  | none => cases hins; exact h
  | some enrollment =>
    obtain ⟨db₁, hroot, hins⟩ := bind_eq_ok.mp hins
    obtain ⟨_, -, hins⟩ := bind_eq_ok.mp hins
    cases hins
    have h₁ : Consistent crypto db₁ := by
      unfold enrollRoot at hroot
      split at hroot
      · cases hroot; exact h
      · next root others _ =>
        obtain ⟨_, -, hroot⟩ := bind_eq_ok.mp hroot
        obtain ⟨enrolledKeys, hkeys, hroot⟩ := bind_eq_ok.mp hroot
        cases hroot
        refine ⟨fun f row hrow => ?_, h.anchored, h.scopesFit⟩
        dsimp only at hrow
        rw [Table.get?_insert? (okOr_eq_ok.mp hkeys)] at hrow
        split at hrow
        · next hf => cases hrow; exact hf.symm
        · exact h.keyed f row hrow
    exact h₁.of_frame rfl rfl rfl (.of_eq rfl)

/-- A new scope is stored with the columns of its scope. -/
theorem commitPetalScope_consistent {backends : Backends} {scope : PetalKeyScope}
    (hscope : commitPetalScope crypto backends keyRef scope t db = .ok db')
    (h : Consistent crypto db) : Consistent crypto db' := by
  obtain ⟨digest, hdigest, hscope⟩ := bind_eq_ok.mp hscope
  obtain ⟨expires, -, hscope⟩ := bind_eq_ok.mp hscope
  obtain ⟨scopes, hscopes, hscope⟩ := bind_eq_ok.mp hscope
  obtain ⟨stored, hstored, hscope⟩ := bind_eq_ok.mp hscope
  obtain ⟨_, -, hscope⟩ := bind_eq_ok.mp hscope
  obtain ⟨_, -, hscope⟩ := bind_eq_ok.mp hscope
  cases hscope
  refine ⟨h.keyed, h.anchored, fun f row hrow => ?_⟩
  have hold : ∀ f row, scopes.get? f = some row → db.petalKeyScopes.get? f = some row := by
    unfold releaseExpiredScope at hscopes
    split at hscopes
    · cases hscopes; exact fun f row hrow => hrow
    · obtain ⟨_, -, hscopes⟩ := bind_eq_ok.mp hscopes
      cases hscopes
      intro f row hrow
      rw [Table.get?_erase] at hrow
      exact (Option.filter_eq_some_iff.mp hrow).1
  obtain ⟨_, -, hstored⟩ := bind_eq_ok.mp hstored
  cases hstored
  dsimp only at hrow
  rw [Table.get?_insertIfAbsent] at hrow
  split at hrow
  · next hf =>
    cases hlast : scopes.get? keyRef.publicKeyFingerprint with
    | none => rw [hlast] at hrow; cases hrow; exact ⟨rfl, rfl, hdigest⟩
    | some old => rw [hlast] at hrow; cases hrow; exact h.scopesFit _ _ (hold _ _ hlast)
  · exact h.scopesFit _ _ (hold f row hrow)

theorem commitEffect_consistent {backends : Backends} {commit : CustodySnapshotCommit}
    (heffect : commitEffect crypto backends commit db = .ok db') (h : Consistent crypto db) :
    Consistent crypto db' := by
  unfold commitEffect at heffect
  cases hcase : commit.effect with
  | none => rw [hcase] at heffect; cases heffect; exact h
  | initialPolicy snapshot policyKey enrollment =>
    rw [hcase] at heffect
    obtain ⟨policies, -, heffect⟩ := bind_eq_ok.mp heffect
    exact insertEnrollment_consistent heffect (h.of_frame rfl rfl rfl (.of_eq rfl))
  | policyUpdatePending pending =>
    rw [hcase] at heffect
    obtain ⟨_, -, heffect⟩ := bind_eq_ok.mp heffect
    cases heffect
    exact h.of_frame rfl rfl rfl (.of_eq rfl)
  | enrollKey keyRef scope =>
    rw [hcase] at heffect
    cases scope with
    | none => cases heffect; exact h.enroll ⟨keyRef, true, .unscoped, none⟩ _ rfl
    | some scope =>
      exact commitPetalScope_consistent heffect
        (h.enroll ⟨keyRef, true, .petal, some scope.walletId⟩ _ rfl)

theorem commitCustodyBody_consistent {serde : EnrollmentSerde} (h : Consistent crypto db)
    (hbody : commitCustodyBody crypto serde keys backends commit db = .ok (.commit db' u)) :
    Consistent crypto db' := by
  obtain ⟨_, -, hbody⟩ := bind_eq_ok.mp hbody
  obtain ⟨_, -, hbody⟩ := bind_eq_ok.mp hbody
  obtain ⟨db₁, h₁, hbody⟩ := bind_eq_ok.mp hbody
  obtain ⟨db₂, h₂, hbody⟩ := bind_eq_ok.mp hbody
  obtain ⟨db₃, h₃, hbody⟩ := bind_eq_ok.mp hbody
  obtain ⟨db₄, h₄, hbody⟩ := bind_eq_ok.mp hbody
  cases hbody
  obtain ⟨_, -, h₁⟩ := bind_eq_ok.mp h₁
  obtain ⟨_, -, h₁⟩ := bind_eq_ok.mp h₁
  obtain ⟨_, -, h₁⟩ := bind_eq_ok.mp h₁
  cases h₁
  obtain ⟨_, -, h₃⟩ := bind_eq_ok.mp h₃
  obtain ⟨_, -, h₃⟩ := bind_eq_ok.mp h₃
  cases h₃
  have hrecords := commitEffect_consistent h₂ (h.of_frame rfl rfl rfl (.of_eq rfl))
  exact .audited h₄ (hrecords.of_frame rfl rfl rfl (.of_eq rfl))

/-! ## Signing -/

theorem storeReceipt_consistent (hstore : storeReceipt crypto db receipt = .ok db')
    (h : Consistent crypto db) : Consistent crypto db' := by
  cases receipt with
  | none => cases hstore; exact h
  | some receipt =>
    obtain ⟨_, -, hstore⟩ := bind_eq_ok.mp hstore
    obtain ⟨_, -, hstore⟩ := bind_eq_ok.mp hstore
    cases hstore
    exact h.of_frame rfl rfl rfl (.of_eq rfl)

theorem admitEpoch_consistent (hepoch : admitEpoch db terms = .ok db') (h : Consistent crypto db) :
    Consistent crypto db' := by
  unfold admitEpoch at hepoch
  split at hepoch
  · cases hepoch
    exact h.of_frame rfl rfl rfl (.of_eq rfl)
  · obtain ⟨_, -, hepoch⟩ := bind_eq_ok.mp hepoch
    cases hepoch
    exact h

theorem persistApprovalBody_consistent (h : Consistent crypto db)
    (hbody : persistApprovalBody crypto keys answers terms receipt a db = .ok (.commit db' r)) :
    Consistent crypto db' := by
  obtain ⟨_, -, hbody⟩ := bind_eq_ok.mp hbody
  obtain ⟨_, -, hbody⟩ := bind_eq_ok.mp hbody
  obtain ⟨_, -, hbody⟩ := bind_eq_ok.mp hbody
  obtain ⟨_, -, hbody⟩ := bind_eq_ok.mp hbody
  obtain ⟨db₁, hepoch, hbody⟩ := bind_eq_ok.mp hbody
  obtain ⟨_, -, hbody⟩ := bind_eq_ok.mp hbody
  obtain ⟨approvals, -, hbody⟩ := bind_eq_ok.mp hbody
  obtain ⟨db₂, hreceipt, hbody⟩ := bind_eq_ok.mp hbody
  obtain ⟨db₃, happ, hbody⟩ := bind_eq_ok.mp hbody
  cases hbody
  have h₁ := admitEpoch_consistent hepoch h
  exact .audited happ (storeReceipt_consistent hreceipt (h₁.of_frame rfl rfl rfl (.of_eq rfl)))

/-- An anchor is written together with its operation. -/
theorem admitOperation_consistent
    (hadmitted : admitOperation crypto db request terms clock = .ok (a, db'))
    (h : Consistent crypto db) : Consistent crypto db' := by
  unfold admitOperation at hadmitted
  split at hadmitted
  · obtain ⟨_, -, hadmitted⟩ := bind_eq_ok.mp hadmitted
    cases hadmitted
    exact h
  · obtain ⟨_, hreserve, hadmitted⟩ := bind_eq_ok.mp hadmitted
    cases hadmitted
    obtain ⟨_, -, hreserve⟩ := bind_eq_ok.mp hreserve
    obtain ⟨operations, hops, hreserve⟩ := bind_eq_ok.mp hreserve
    obtain ⟨anchors, hanchors, hreserve⟩ := bind_eq_ok.mp hreserve
    cases hreserve
    rw [okOr_eq_ok] at hops hanchors
    refine ⟨h.keyed, fun oid anchor hanchor => ?_, h.scopesFit⟩
    change anchors.get? oid = some anchor at hanchor
    change ∃ row, operations.get? oid = some row
    rw [Table.get?_insert? hanchors] at hanchor
    rw [Table.get?_insert? hops]
    split at hanchor
    · next hoid => rw [if_pos hoid]; exact ⟨_, rfl⟩
    · next hoid => rw [if_neg hoid]; exact h.anchored oid anchor hanchor

theorem authorizeSignBody_consistent (h : Consistent crypto db)
    (hbody : authorizeSignBody crypto keys answers request clock db = .ok (.commit db' r)) :
    Consistent crypto db' := by
  obtain ⟨terms, -, hbody⟩ := bind_eq_ok.mp hbody
  obtain ⟨⟨authorization, db₁⟩, hadmitted, hbody⟩ := bind_eq_ok.mp hbody
  obtain ⟨attempts, -, hbody⟩ := bind_eq_ok.mp hbody
  obtain ⟨db₂, happ, hbody⟩ := bind_eq_ok.mp hbody
  cases hbody
  have h₁ := admitOperation_consistent hadmitted h
  exact .audited happ (h₁.of_frame rfl rfl rfl (.of_eq rfl))

theorem creditEffect_consistent {effect : SignerOperationEffect}
    (hcredit : creditEffect db op effect = .ok db') (h : Consistent crypto db) :
    Consistent crypto db' := by
  cases effect with
  | released =>
    obtain ⟨_, -, -, -, rfl⟩ := creditRelease_eq_ok hcredit
    exact h.of_frame rfl rfl rfl (.of_eq rfl)
  | committed | quarantined => cases hcredit; exact h

theorem Consistent.setOperation (h : Consistent crypto db) (oid : OperationId)
    (f : OperationRow → OperationRow) : Consistent crypto (db.setOperation oid f) :=
  h.of_frame rfl rfl rfl (operationsKept_setOperation db oid f)

theorem finalizeOperationBody_consistent (h : Consistent crypto db)
    (hbody : finalizeOperationBody crypto keys oid effect db = .ok (.commit db' r)) :
    Consistent crypto db' := by
  obtain ⟨op, -, hbody⟩ := bind_eq_ok.mp hbody
  split at hbody
  · cases hbody
    exact h
  · obtain ⟨_, -, hbody⟩ := bind_eq_ok.mp hbody
    obtain ⟨db₁, hcredit, hbody⟩ := bind_eq_ok.mp hbody
    obtain ⟨db₂, happ, hbody⟩ := bind_eq_ok.mp hbody
    cases hbody
    exact .audited happ ((creditEffect_consistent hcredit h).setOperation oid _)

theorem commitOperationResultBody_consistent (h : Consistent crypto db)
    (hbody : commitOperationResultBody crypto keys oid result db = .ok (.commit db' r)) :
    Consistent crypto db' := by
  obtain ⟨op, -, hbody⟩ := bind_eq_ok.mp hbody
  obtain ⟨db₁, happ, hbody⟩ := bind_eq_ok.mp hbody
  cases hbody
  exact .audited happ (h.setOperation oid _)

theorem markOperationDispatchedBody_consistent (h : Consistent crypto db)
    (hbody : markOperationDispatchedBody crypto keys oid keyRef ids db = .ok (.commit db' r)) :
    Consistent crypto db' := by
  obtain ⟨op, -, hbody⟩ := bind_eq_ok.mp hbody
  obtain ⟨db₁, happ, hbody⟩ := bind_eq_ok.mp hbody
  cases hbody
  exact .audited happ (h.setOperation oid _)

theorem signStep_consistent (h : Consistent crypto e.db) (call : SignCall) :
    Consistent crypto (signStep crypto config e call).db := by
  cases call with
  | persistApproval answers terms receipt =>
    exact precheck_consistent h fun _ => mutation_consistent h fun _ _ hb =>
      persistApprovalBody_consistent h hb
  | authorizeSign answers request clock =>
    exact precheck_consistent h fun _ => mutation_consistent h fun _ _ hb =>
      authorizeSignBody_consistent h hb
  | markOperationDispatched oid keyRef ids =>
    exact mutation_consistent h fun _ _ hb => markOperationDispatchedBody_consistent h hb
  | commitOperationResult oid result =>
    exact precheck_consistent h fun _ => mutation_consistent h fun _ _ hb =>
      commitOperationResultBody_consistent h hb
  | finalizeOperation oid effect =>
    exact precheck_consistent h fun _ => mutation_consistent h fun _ _ hb =>
      finalizeOperationBody_consistent h hb

/-! ## Revoking -/

theorem storeRevocationOperation_consistent
    (hstore : storeRevocationOperation crypto db oid w digest result = .ok db')
    (h : Consistent crypto db) : Consistent crypto db' := by
  obtain ⟨_, -, hstore⟩ := bind_eq_ok.mp hstore
  cases hstore
  exact h.of_frame rfl rfl rfl (.of_eq rfl)

theorem revokeApprovalBody_consistent {serde : Serde} (h : Consistent crypto db)
    (hbody : revokeApprovalBody crypto config serde keys request db = .ok (.commit db' r)) :
    Consistent crypto db' := by
  obtain ⟨stored, -, hbody⟩ := bind_eq_ok.mp hbody
  cases stored with
  | some result => cases hbody
  | none =>
    obtain ⟨approval, -, hbody⟩ := bind_eq_ok.mp hbody
    cases ht : db.approvalTombstones.get? request.approvalId with
    | some existing =>
      simp only [ht] at hbody
      obtain ⟨db₁, hstore, hbody⟩ := bind_eq_ok.mp hbody
      obtain ⟨db₂, happ, hbody⟩ := bind_eq_ok.mp hbody
      cases hbody
      exact .audited happ (storeRevocationOperation_consistent hstore h)
    | none =>
      simp only [ht] at hbody
      obtain ⟨db₁, hstore, hbody⟩ := bind_eq_ok.mp hbody
      obtain ⟨db₂, happ, hbody⟩ := bind_eq_ok.mp hbody
      cases hbody
      exact .audited happ (storeRevocationOperation_consistent hstore
        (h.of_frame rfl rfl rfl (.of_eq rfl)))

theorem revokeAllBody_consistent {serde : Serde} (h : Consistent crypto db)
    (hbody : revokeAllBody crypto config serde keys request db = .ok (.commit db' r)) :
    Consistent crypto db' := by
  obtain ⟨stored, -, hbody⟩ := bind_eq_ok.mp hbody
  cases stored with
  | some result => cases hbody
  | none =>
    obtain ⟨epoch, -, hbody⟩ := bind_eq_ok.mp hbody
    obtain ⟨db₁, hstore, hbody⟩ := bind_eq_ok.mp hbody
    obtain ⟨db₂, happ, hbody⟩ := bind_eq_ok.mp hbody
    cases hbody
    exact .audited happ (storeRevocationOperation_consistent hstore
      (h.of_frame rfl rfl rfl (.of_eq rfl)))

/-! ## Accounts -/

/-- There is a wallet name outside any list. -/
theorem exists_fresh_token (names : List Token) : ∃ A, A ∉ names := by
  have hinj : Function.Injective fun n : Nat => (⟨String.ofList (List.replicate n 'a')⟩ : Token) := by
    intro m n hmn
    have hlists := String.ofList_injective (Token.mk.inj hmn)
    simpa using congrArg List.length hlists
  have : Infinite Token := .of_injective _ hinj
  obtain ⟨A, hA⟩ := Infinite.exists_notMem_finset names.toFinset
  exact ⟨A, fun hmem => hA (List.mem_toFinset.mpr hmem)⟩

/-- An account call writes the key table, the registry and the journal only. -/
theorem accountCall_tables (crypto : Crypto) (derive : Derivation) (e : Engine) (call : AccountCall) :
    ∃ enrolledKeys registry journal, (call.exec crypto derive e).2.db =
      { e.db with enrolledKeys, registry, journal } := by
  -- seen from a wallet the call does not concern
  cases call with
  | allocate w op requests unlocked t =>
    obtain ⟨A, hA⟩ := exists_fresh_token [w]
    rw [exec_snd_allocate]
    refine (framed_allocateBip39Accounts (A := A) (fun hw => ?_) op requests unlocked t e).tables
    exact hA (hw ▸ List.mem_cons_self)
  | retire w keyRef t =>
    obtain ⟨A, hA⟩ := exists_fresh_token [w, keyRef.backendInstance]
    have hframed : Framed A (fun _ => True) (retireBip39Account crypto w keyRef t) :=
      framed_retireBip39Account (by rintro rfl; simp at hA) (by rintro rfl; simp at hA) t
    exact (hframed e).tables
  | tombstoneFailed keyRef t =>
    obtain ⟨A, hA⟩ : ∃ A, ∀ d ∈ keyRef.derivation, d.isBip39Of A = false := by
      rcases keyRef.derivation with _ | _ | ⟨seedRef, profile, path⟩
      · exact ⟨⟨""⟩, (by intro d hd; cases hd)⟩
      · exact ⟨⟨""⟩, fun d hd => by cases hd; rfl⟩
      · obtain ⟨A, hA⟩ := exists_fresh_token [seedRef]
        refine ⟨A, fun d hd => ?_⟩
        cases hd
        exact decide_eq_false fun hw => hA (hw ▸ List.mem_cons_self)
    have hframed : Framed A (fun _ => False) (tombstoneFailedBip39Account crypto keyRef t) :=
      framed_tombstoneFailedBip39Account keyRef t hA fun _ hC => hC.elim
    exact (hframed e).tables
  | recover t =>
    obtain ⟨A, hA⟩ := exists_fresh_token (e.db.registry.allocations.rows.map (·.1.1))
    have hframe : Frame A (fun _ => False) e (recoverIncompleteBip39Allocations crypto t e).2 := by
      refine framed_recoverIncompleteBip39Allocations t e (fun k row hrow _ _ hk => ?_)
        fun _ _ _ _ _ _ _ _ hC => hC.elim
      exact hA (hk ▸ List.mem_map.mpr ⟨(k, row), Table.get?_eq_some.mp hrow, rfl⟩)
    exact hframe.tables

theorem refreshBackendEnrollment_tables (w : Token) (keyRef : KeyRef) (e : Engine) :
    ∃ ceremonyBackendEnrollments, (refreshBackendEnrollment w keyRef e).2.db =
      { e.db with ceremonyBackendEnrollments } := by
  unfold refreshBackendEnrollment
  rw [read_bind]
  cases hrecord : e.backends.localEncryptedBackup keyRef with
  | error f => rw [lift_bind_error rfl]; exact ⟨_, rfl⟩
  | ok record =>
    rw [lift_bind_ok rfl, read_bind]
    split
    · exact ⟨_, rfl⟩
    · exact ⟨_, rfl⟩

theorem accountCall_enrolled (crypto : Crypto) (derive : Derivation) (e : Engine) (call : AccountCall) :
    EnrolledFrom e.db.enrolledKeys (call.exec crypto derive e).2.db.enrolledKeys := by
  have hsteps : Keeps (AccountStep fun _ _ => True) (call.exec crypto derive) := by
    cases call with
    | allocate w op requests unlocked t =>
      have hmoves : Moves crypto (fun _ _ => True) w
          (allocateBip39Accounts crypto derive w op requests unlocked t) :=
        moves_allocateBip39Accounts op requests unlocked t fun _ _ _ _ _ _ => trivial
      exact (hmoves.andThen fun _ => moves_pure ()).steps
    | retire w keyRef t => exact (moves_retireBip39Account keyRef t).steps
    | tombstoneFailed keyRef t =>
      exact (moves_tombstoneFailedBip39Account (w := ⟨""⟩) keyRef t).steps
    | recover t => exact (moves_recoverIncompleteBip39Allocations (w := ⟨""⟩) t).steps
  exact (hsteps e).enrolled

theorem accountCall_consistent (h : Consistent crypto e.db) (derive : Derivation)
    (call : AccountCall) : Consistent crypto (call.exec crypto derive e).2.db := by
  obtain ⟨enrolledKeys, registry, journal, hdb⟩ := accountCall_tables crypto derive e call
  have henrolled := accountCall_enrolled crypto derive e call
  rw [hdb] at henrolled ⊢
  refine ⟨fun f row hrow => ?_, h.anchored, h.scopesFit⟩
  rcases henrolled f row hrow with ⟨row', hrow', hkey, -⟩ | ⟨hf, -⟩
  · rw [hkey]
    exact h.keyed f row' hrow'
  · exact hf

/-! ## Runs -/

theorem engineStep_consistent (h : Consistent env.crypto e.db) (call : EngineCall) :
    Consistent env.crypto (engineStep env e call).db := by
  cases call with
  | enrollKey keyRef =>
    exact precheck_consistent h fun _ => mutation_consistent h fun _ _ hb =>
      enrollKeyBody_consistent h hb
  | enrollWalletRootKey walletId keyRef =>
    exact precheck_consistent h fun _ => mutation_consistent h fun _ _ hb =>
      enrollWalletKeyBody_consistent h hb
  | commitCustody commit =>
    exact mutation_consistent h fun _ _ hb => commitCustodyBody_consistent h hb
  | refreshBackendEnrollment walletId keyRef =>
    obtain ⟨enrollments, hdb⟩ := refreshBackendEnrollment_tables walletId keyRef e
    rw [engineStep, hdb]
    exact h.of_frame rfl rfl rfl (.of_eq rfl)
  | account call => exact accountCall_consistent h env.derive call
  | sign call => exact signStep_consistent h call
  | revokeApproval request =>
    exact precheck_consistent h fun _ => mutation_consistent h fun _ _ hb =>
      revokeApprovalBody_consistent h hb
  | revokeAll request =>
    exact mutation_consistent h fun _ _ hb => revokeAllBody_consistent h hb

/-- The tables of an engine that was opened on an empty database agree after any calls. -/
theorem run_consistent (env : Environment) (keys : Audit.AuditKeyState) (backends : Backends)
    (calls : List EngineCall) :
    Consistent env.crypto (run (engineStep env) (.blank keys backends) calls).db :=
  run_invariant (P := fun e : Engine => Consistent env.crypto e.db)
    (fun _ call h => engineStep_consistent h call) (consistent_blank _ keys backends) calls

end BloomSigner
