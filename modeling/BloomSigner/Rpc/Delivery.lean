import BloomSigner.Ceremony.StandIn
import BloomSigner.Ceremony.Finality
import BloomSigner.Rpc.Containment

/-! # The delivery of a recovery

The result of a recovery is told for a quarter of an hour after it was committed, and no longer. The
Signer looks at the window wherever it tells a result again, except where the destination of a
pairing asks: there it tells the receipt of the pairing's operation, whatever its kind, and the
deadline of the pairing is what bounds it. -/

namespace BloomSigner.Rpc

open Lib Lib.Program

def deliveryWindowMs : Nat := 15 * 60 * 1000

def pairingWindowMs : Nat := 10 * 60 * 1000

/-- A custody receipt of the operation was committed at most a window before. -/
def Delivered (db : Db) (op : OperationId) (t window : Nat) : Prop :=
  ∃ row, db.ceremonyReceipts.get? op = some row ∧ row.receiptKind = "custody" ∧
    t ≤ row.committedAtMs + window

/-! ## Pairings and receipts -/

/-- Every pairing ends soon after its opening, and soon after the receipt of its operation if that
was committed later. -/
structure PairsBounded (t : Nat) (s : Service) : Prop where
  opened : ∀ pairingId pair, s.crossSurface.get? pairingId = some pair →
    pair.pairing.expiresAtMs ≤ t + pairingWindowMs
  receipted : ∀ pairingId pair row, s.crossSurface.get? pairingId = some pair →
    s.engine.db.ceremonyReceipts.get? pair.pairing.operationId = some row →
    row.receiptKind = "custody" → pair.pairing.expiresAtMs ≤ row.committedAtMs + pairingWindowMs

section
variable {env : ServiceEnvironment} {sys : CallSystem} {s s' : Service} {t t' : Nat}

theorem PairsBounded.mono (h : PairsBounded t s) (ht : t ≤ t') : PairsBounded t' s where
  opened pairingId pair hpair :=
    (h.opened pairingId pair hpair).trans (Nat.add_le_add_right ht _)
  receipted := h.receipted

/-- The pairings are some of those that were there, and no receipt was written. -/
theorem PairsBounded.of_same (h : PairsBounded t s)
    (hpairs : ∀ pairingId pair', s'.crossSurface.get? pairingId = some pair' →
      ∃ pair, s.crossSurface.get? pairingId = some pair ∧ pair'.pairing = pair.pairing)
    (hreceipts : s'.engine.db.ceremonyReceipts = s.engine.db.ceremonyReceipts) :
    PairsBounded t s' where
  opened pairingId pair' hpair' := by
    obtain ⟨pair, hpair, heq⟩ := hpairs pairingId pair' hpair'
    exact heq ▸ h.opened pairingId pair hpair
  receipted pairingId pair' row hpair' hrow hkind := by
    obtain ⟨pair, hpair, heq⟩ := hpairs pairingId pair' hpair'
    rw [hreceipts] at hrow
    rw [heq] at hrow ⊢
    exact h.receipted pairingId pair row hpair hrow hkind

theorem PairsBounded.of_receipts (h : PairsBounded t s)
    (hpairs : s'.crossSurface = s.crossSurface)
    (hreceipts : s'.engine.db.ceremonyReceipts = s.engine.db.ceremonyReceipts) :
    PairsBounded t s' :=
  h.of_same (fun _ pair' hpair' => ⟨pair', hpairs ▸ hpair', rfl⟩) hreceipts

theorem PairsBounded.of_none (h : s.crossSurface = ∅) : PairsBounded t s where
  opened pairingId pair hpair := by rw [h] at hpair; cases hpair
  receipted pairingId pair row hpair := by rw [h] at hpair; cases hpair

/-- A receipt that is committed now leaves every pairing its window. -/
theorem PairsBounded.receipt (h : PairsBounded t s) {row : CeremonyReceiptRow}
    (hpairs : s'.crossSurface = s.crossSurface)
    (hinsert : s.engine.db.ceremonyReceipts.insert? op row =
      some s'.engine.db.ceremonyReceipts)
    (hrow : row.receiptKind = "custody" → row.committedAtMs = t) : PairsBounded t s' where
  opened pairingId pair hpair := h.opened pairingId pair (hpairs ▸ hpair)
  receipted pairingId pair row' hpair hrow' hkind := by
    rw [hpairs] at hpair
    rw [Table.get?_insert? hinsert] at hrow'
    split at hrow'
    · cases hrow'
      rw [hrow hkind]
      exact h.opened pairingId pair hpair
    · exact h.receipted pairingId pair row' hpair hrow' hkind

theorem checkPairStart_window {request : CrossSurfacePairStartRequest}
    (h : checkPairStart env s request t = .ok u) :
    request.expiresAtMs ≤ t + pairingWindowMs ∧
      s.custodyReceipt env request.operationId = .ok none := by
  obtain ⟨_, -, h⟩ := bind_eq_ok.mp h
  obtain ⟨_, hdeadline, h⟩ := bind_eq_ok.mp h
  obtain ⟨_, -, h⟩ := bind_eq_ok.mp h
  obtain ⟨receipt, hreceipt, h⟩ := bind_eq_ok.mp h
  obtain ⟨_, hnone, -⟩ := bind_eq_ok.mp h
  have hwindow := (not_or.mp (reject_eq_ok.mp hdeadline)).2
  rw [reject_eq_ok, Bool.not_eq_true, Option.isSome_eq_false_iff, Option.isNone_iff_eq_none]
    at hnone
  refine ⟨?_, hnone ▸ hreceipt⟩
  have hmin : min (t + 10 * 60 * 1000) (2 ^ 64 - 1) ≤ t + pairingWindowMs := Nat.min_le_left _ _
  exact (Nat.le_of_not_lt hwindow).trans hmin

/-- What a ceremony does at a time keeps the bounds of that time. -/
theorem pairsBounded_permits (env : ServiceEnvironment) (t : Nat) :
    PairPermits env t fun s s' => PairsBounded t s → PairsBounded t s' where
  refl _ h := h
  trans _ _ _ h h' hs := h' (h hs)
  applied s s' happlied h := by
    obtain ⟨_, _, _, _, hdb⟩ := happlied.engine.tables
    exact h.of_receipts happlied.crossSurface (by rw [hdb])
  pending _ _ h := h.of_receipts rfl rfl
  status _ _ _ _ h := h.of_receipts rfl rfl
  custody _ _ _ _ _ hcommitted ht _ h := h.receipt rfl hcommitted.receipts fun _ => ht
  approval _ _ _ _ _ _ hcommitted h :=
    h.receipt rfl hcommitted.receipts fun hkind =>
      absurd (show "sealed_approval" = "custody" from hkind) (by decide)
  release s p h := by
    refine h.of_same (fun pairingId pair hpair => ⟨pair, ?_, rfl⟩) rfl
    change (s.crossSurface.erase p).get? pairingId = some pair at hpair
    rw [Table.get?_erase, Option.filter_eq_some_iff] at hpair
    exact hpair.1
  annotate s pairingId f hf h := by
    refine h.of_same (fun otherId pair' hpair' => ?_) rfl
    change (s.crossSurface.update pairingId f).get? otherId = some pair' at hpair'
    rw [Table.get?_update] at hpair'
    split at hpair'
    · obtain ⟨pair, hpair, rfl⟩ := Option.map_eq_some_iff.mp hpair'
      exact ⟨pair, hpair, hf pair⟩
    · exact ⟨pair', hpair', rfl⟩
  lease s request pairingId pair hcheck hop hexpires h := by
    obtain ⟨hwindow, hnone⟩ := checkPairStart_window hcheck
    have hold : ∀ otherId other, (s.unexpiredPairs t).get? otherId = some other →
        s.crossSurface.get? otherId = some other := fun otherId other hother => by
      rw [Service.unexpiredPairs, Table.get?_erase, Option.filter_eq_some_iff] at hother
      exact hother.1
    refine ⟨fun otherId other hother => ?_, fun otherId other row hother hrow hkind => ?_⟩
    · change ((s.unexpiredPairs t).set pairingId pair).get? otherId = some other at hother
      rw [Table.get?_set] at hother
      split at hother
      · cases hother
        rw [hexpires]
        exact hwindow
      · exact h.opened otherId other (hold otherId other hother)
    · change ((s.unexpiredPairs t).set pairingId pair).get? otherId = some other at hother
      rw [Table.get?_set] at hother
      split at hother
      · cases hother
        rw [hop] at hrow
        exact absurd hkind (custodyReceipt_none hnone hrow)
      · exact h.receipted otherId other row (hold otherId other hother) hrow hkind

/-! ## Signing -/

/-- Every approval was there before, for the same wallet. -/
def ApprovalsFrom (approvals approvals' : Table Digest32 ApprovalRow) : Prop :=
  ∀ a row', approvals'.get? a = some row' →
    ∃ row, approvals.get? a = some row ∧ row'.walletId = row.walletId

theorem ApprovalsFrom.refl (approvals : Table Digest32 ApprovalRow) :
    ApprovalsFrom approvals approvals := fun _ row h => ⟨row, h, rfl⟩

theorem approvalsFrom_withCounters (approvals : Table Digest32 ApprovalRow) (a : Digest32)
    (n m : Nat) : ApprovalsFrom approvals (approvals.update a (·.withCounters n m)) := by
  intro b row' hrow'
  rw [Table.get?_update] at hrow'
  split at hrow'
  · obtain ⟨row, hrow, rfl⟩ := Option.map_eq_some_iff.mp hrow'
    exact ⟨row, hrow, rfl⟩
  · exact ⟨row', hrow', rfl⟩

/-- What the storage calls of a signature leave alone: the receipts of ceremonies, and which approvals
there are. -/
structure SignKeeps (db db' : Db) : Prop where
  receipts : db'.ceremonyReceipts = db.ceremonyReceipts
  approvals : ApprovalsFrom db.approvals db'.approvals

theorem SignKeeps.refl (db : Db) : SignKeeps db db := ⟨rfl, .refl _⟩

theorem signStep_keeps {crypto : Crypto} {config : Config} {e : Engine} {call : SignCall}
    (h : SignCall.signs call = true) : SignKeeps e.db (signStep crypto config e call).db := by
  have hrefl : SignKeeps e.db e.db := .refl _
  cases call with
  | persistApproval => cases h
  | authorizeSign answers request clock =>
    refine precheck_rel (R := SignKeeps) hrefl fun _ _ => mutation_rel (R := SignKeeps) hrefl
      fun db _ hbody => ?_
    obtain ⟨terms, -, hbody⟩ := bind_eq_ok.mp hbody
    obtain ⟨admitted, hadmission, hbody⟩ := bind_eq_ok.mp hbody
    obtain ⟨attempts, -, hbody⟩ := bind_eq_ok.mp hbody
    obtain ⟨db₂, haudit, hbody⟩ := bind_eq_ok.mp hbody
    cases hbody
    obtain ⟨journal, rfl⟩ := appendAudit_eq_ok haudit
    suffices hadmitted : SignKeeps e.db admitted.2 from
      ⟨hadmitted.receipts, hadmitted.approvals⟩
    unfold admitOperation at hadmission
    split at hadmission
    · obtain ⟨_, -, hadmission⟩ := bind_eq_ok.mp hadmission
      cases hadmission
      exact ⟨rfl, .refl _⟩
    · obtain ⟨db₁, hreserve, hadmission⟩ := bind_eq_ok.mp hadmission
      cases hadmission
      obtain ⟨_, -, hreserve⟩ := bind_eq_ok.mp hreserve
      obtain ⟨_, -, hreserve⟩ := bind_eq_ok.mp hreserve
      obtain ⟨_, -, hreserve⟩ := bind_eq_ok.mp hreserve
      cases hreserve
      exact ⟨rfl, approvalsFrom_withCounters _ _ _ _⟩
  | markOperationDispatched op keyRef ids =>
    refine mutation_rel (R := SignKeeps) hrefl fun db _ hbody => ?_
    obtain ⟨row, -, hbody⟩ := bind_eq_ok.mp hbody
    obtain ⟨db₁, haudit, hbody⟩ := bind_eq_ok.mp hbody
    cases hbody
    obtain ⟨journal, rfl⟩ := appendAudit_eq_ok haudit
    exact ⟨rfl, .refl _⟩
  | commitOperationResult op result =>
    refine precheck_rel (R := SignKeeps) hrefl fun _ _ => mutation_rel (R := SignKeeps) hrefl
      fun db _ hbody => ?_
    obtain ⟨row, -, hbody⟩ := bind_eq_ok.mp hbody
    obtain ⟨db₁, haudit, hbody⟩ := bind_eq_ok.mp hbody
    cases hbody
    obtain ⟨journal, rfl⟩ := appendAudit_eq_ok haudit
    exact ⟨rfl, .refl _⟩
  | finalizeOperation op effect =>
    refine precheck_rel (R := SignKeeps) hrefl fun _ _ => mutation_rel (R := SignKeeps) hrefl
      fun db _ hbody => ?_
    obtain ⟨row, -, hbody⟩ := bind_eq_ok.mp hbody
    split at hbody
    · cases hbody; exact ⟨rfl, .refl _⟩
    · obtain ⟨_, -, hbody⟩ := bind_eq_ok.mp hbody
      obtain ⟨db₁, hcredit, hbody⟩ := bind_eq_ok.mp hbody
      obtain ⟨db₂, haudit, hbody⟩ := bind_eq_ok.mp hbody
      cases hbody
      obtain ⟨journal, rfl⟩ := appendAudit_eq_ok haudit
      cases effect with
      | released =>
        obtain ⟨approval, -, -, -, rfl⟩ := creditRelease_eq_ok hcredit
        exact ⟨rfl, approvalsFrom_withCounters _ _ _ _⟩
      | committed | quarantined => cases hcredit; exact ⟨rfl, .refl _⟩

/-! ## Runs -/

/-- A call that a served request or the administration makes at a time. -/
def SignerCall.AtTime (t : Nat) : SignerCall → Prop
  | .ceremony _ (.expirePairs _) => True
  | .ceremony _ call => ∀ t' ∈ call.nowMs?, t' = t
  | .engine (.sign call) => SignCall.signs call = true
  | .engine (.revokeApproval _) | .engine (.revokeAll _)
  | .compareAndSwapPolicy _ | .latchAuditDegraded | .installRemoteSurface .. | .reportEffective _
  | .setExposureMode _ | .restart _ _ => True
  | _ => False

/-- A call of the engine writes no receipt. -/
theorem PairsBounded.engine (h : PairsBounded t s) {e : Engine}
    (hreceipts : e.db.ceremonyReceipts = s.engine.db.ceremonyReceipts) :
    PairsBounded t { s with engine := e } := h.of_receipts rfl hreceipts

theorem PairsBounded.administered {Q : SurfaceStatus → Prop} (h : PairsBounded t s)
    (hs : Administered Q s s') : PairsBounded t s' := by
  cases hs with
  | same => exact h
  | degraded => exact h.engine rfl
  | stored journal _ _ _ => exact h.engine rfl

theorem reopened_pairsBounded (compiled : Backends) (nowMs : Nat) :
    PairsBounded t (s.reopened env compiled nowMs) := by
  unfold Service.reopened startService
  split
  · next s' e' hstart =>
    have hpairs : s'.crossSurface = ∅ := by
      obtain ⟨_, e₁, -, hstart⟩ := bind_apply_eq_ok hstart
      rw [read_bind] at hstart
      obtain ⟨_, e₂, -, hstart⟩ := bind_apply_eq_ok hstart
      obtain ⟨_, e₃, -, hstart⟩ := bind_apply_eq_ok hstart
      obtain ⟨_, e₄, -, hstart⟩ := bind_apply_eq_ok hstart
      cases hstart
      rfl
    exact (PairsBounded.of_none hpairs).administered (administered_fenceRemoteSurface s')
  · exact .of_none rfl

theorem signerStep_pairsBounded (h : PairsBounded t s) (call : SignerCall)
    (ht : SignerCall.AtTime t call) : PairsBounded t (signerStep env s call) := by
  have hpermits := pairsBounded_permits env t
  cases call with
  | ceremony sys call =>
    cases call with
    | expirePairs t' => exact hpermits.retainPairs _ s h
    | _ => exact hpermits.dispatch ht s h
  | engine call =>
    cases call with
    | sign call =>
      exact h.engine (signStep_keeps ht).receipts
    | revokeApproval request =>
      refine h.engine (precheck_rel
        (R := fun db db' : Db => db'.ceremonyReceipts = db.ceremonyReceipts) rfl fun _ _ =>
        mutation_rel (R := fun db db' : Db => db'.ceremonyReceipts = db.ceremonyReceipts) rfl
          fun db _ hbody => ?_)
      obtain ⟨_, _, _, _, _, _, -, rfl⟩ := revokeApprovalBody_revokes hbody
      rfl
    | revokeAll request =>
      refine h.engine (mutation_rel
        (R := fun db db' : Db => db'.ceremonyReceipts = db.ceremonyReceipts) rfl
        fun db _ hbody => ?_)
      obtain ⟨_, _, _, _, _, _, -, rfl⟩ := revokeAllBody_revokes hbody
      rfl
    | _ => exact ht.elim
  | compareAndSwapPolicy request =>
    obtain ⟨_, _, _, _, hdb⟩ := @compareAndSwapPolicy_tables env.crypto request s.engine
    refine h.engine ?_
    rw [hdb]
  | latchAuditDegraded => exact h.engine rfl
  | installRemoteSurface hostname installationId adminKey createdAtMs =>
    exact h.administered (installRemoteSurface_assigns hostname installationId adminKey createdAtMs s)
  | reportEffective report => exact h.administered (administered_reportEffective report s)
  | setExposureMode mode => exact h.administered (administered_setExposureMode mode s)
  | restart compiled nowMs => exact reopened_pairsBounded compiled nowMs
  | _ => exact ht.elim

end

/-- The time a request that changes something is served at. -/
def RpcEvent.changesAt : RpcEvent → Option Nat
  | .broker world request =>
    if request.method.isReadOnly then none else (world.clock false).toOption
  | .control world request => if request.revokes then (world.clock false).toOption else none
  | .expiry _ | .installRemoteSurface .. | .setExposureMode _ | .restart _ _ => none

/-- The clock of the requests that change something does not go back. -/
def Timely (events : List RpcEvent) : Prop :=
  (events.filterMap RpcEvent.changesAt).Pairwise (· ≤ ·)

section
variable {env : RpcEnvironment} {s : Service} {t : Nat}

theorem atTime_of_makes {contained : Prop} {call : SignerCall} (h : Rpc.Makes contained t call) :
    SignerCall.AtTime t call := by
  cases call with
  | ceremony sys call =>
    cases call with
    | expirePairs t' => trivial
    | clearPairs => exact h.elim
    | _ => exact h.1
  | engine call =>
    cases call with
    | sign call => exact h.1
    | revokeApproval request | revokeAll request => trivial
    | _ => exact h.elim
  | compareAndSwapPolicy request | latchAuditDegraded | reportEffective report => trivial
  | _ => exact h.elim

/-- The calls of an event are made at its time, if it changes something at one. -/
theorem RpcEvent.atTime {event : RpcEvent} {call : SignerCall} (h : event.Makes call)
    (ht : ∀ t' ∈ event.changesAt, t' = t) : SignerCall.AtTime t call := by
  cases event with
  | broker world request =>
    obtain ⟨hread, t', hclock, hmakes⟩ := h
    have heq : t' = t := ht t' (by simp [RpcEvent.changesAt, hread, hclock, Except.toOption])
    exact heq ▸ atTime_of_makes hmakes
  | control world request =>
    obtain ⟨hrevokes, t', hclock, hmakes⟩ := h
    have heq : t' = t := ht t' (by simp [RpcEvent.changesAt, hrevokes, hclock, Except.toOption])
    exact heq ▸ atTime_of_makes hmakes
  | expiry world =>
    rw [RpcEvent.Makes] at h
    split at h
    · rw [h]; trivial
    · rw [h]; exact fun t' ht' => by cases ht'
  | installRemoteSurface hostname installationId adminKey createdAtMs => rw [h]; trivial
  | setExposureMode mode => rw [h]; trivial
  | restart compiled nowMs => rw [h]; trivial

theorem rpcStep_pairsBounded (h : PairsBounded t s) (event : RpcEvent)
    (ht : ∀ t' ∈ event.changesAt, t' = t) : PairsBounded t (rpcStep env s event) :=
  (rpcStep_reaches s event).invariant
    (fun _ call hmakes hs => signerStep_pairsBounded hs call (event.atTime hmakes ht)) h

/-- Over a run whose clock does not go back the pairings stay bounded, by the time of the run. -/
theorem run_pairsBounded (env : RpcEnvironment) (h : PairsBounded t s) (events : List RpcEvent)
    (hfrom : ∀ t' ∈ events.filterMap RpcEvent.changesAt, t ≤ t') (htimely : Timely events) :
    ∃ t', PairsBounded t' (run (rpcStep env) s events) := by
  induction events generalizing s t with
  | nil => exact ⟨t, h⟩
  | cons event events ih =>
    show ∃ t', PairsBounded t' (run (rpcStep env) (rpcStep env s event) events)
    cases hat : event.changesAt with
    | none =>
      have hsame : (event :: events).filterMap RpcEvent.changesAt =
          events.filterMap RpcEvent.changesAt := List.filterMap_cons_none hat
      rw [Timely, hsame] at htimely
      rw [hsame] at hfrom
      exact ih (rpcStep_pairsBounded h event fun t' ht' => by rw [hat] at ht'; cases ht')
        hfrom htimely
    | some t₁ =>
      have hcons : (event :: events).filterMap RpcEvent.changesAt =
          t₁ :: events.filterMap RpcEvent.changesAt := List.filterMap_cons_some hat
      rw [Timely, hcons, List.pairwise_cons] at htimely
      rw [hcons] at hfrom
      have hbounded : PairsBounded t₁ (rpcStep env s event) :=
        rpcStep_pairsBounded (h.mono (hfrom t₁ List.mem_cons_self)) event fun t' ht' => by
          rw [hat, Option.mem_some] at ht'
          exact ht'.symm
      exact ih hbounded htimely.1 htimely.2

end

/-! ## Telling a result -/

section
variable {env : ServiceEnvironment} {sys : CallSystem} {s s' : Service} {t : Nat}
  {result : CustodyResult}

theorem Delivered.mono {db : Db} (h : Delivered db op t window) (hle : window ≤ window') :
    Delivered db op t window' := by
  obtain ⟨row, hrow, hkind, ht⟩ := h
  exact ⟨row, hrow, hkind, ht.trans (Nat.add_le_add_left hle _)⟩

theorem delivered_of_valid {db : Db} (h : recoveryResultDeliveryValid db op t = true) :
    Delivered db op t deliveryWindowMs := by
  unfold recoveryResultDeliveryValid at h
  obtain ⟨hne, hle⟩ := Bool.and_eq_true_iff.mp h
  cases hrow : (db.ceremonyReceipts.get? op).filter (·.receiptKind = "custody") with
  | none =>
    rw [hrow] at hne
    exact absurd rfl (of_decide_eq_true hne)
  | some row =>
    obtain ⟨hget, hkind⟩ := Option.filter_eq_some_iff.mp hrow
    rw [hrow] at hle
    exact ⟨row, hget, of_decide_eq_true hkind,
      (of_decide_eq_true hle).trans (Nat.min_le_left _ _)⟩

theorem delivered_of_required (h : requireDelivery s result op t = .ok u)
    (hkind : result.ceremonyKind = .walletRecovery) :
    Delivered s.engine.db op t deliveryWindowMs := by
  refine delivered_of_valid ?_
  cases hvalid : recoveryResultDeliveryValid s.engine.db op t with
  | true => rfl
  | false => exact absurd ⟨hkind, hvalid⟩ (reject_eq_ok.mp h)

theorem statusAt_delivered (h : s.statusAt env op t = .ok (.completedCustody result))
    (hkind : result.ceremonyKind = .walletRecovery) :
    Delivered s.engine.db op t deliveryWindowMs := by
  obtain ⟨status, hstatus, h⟩ := bind_eq_ok.mp h
  cases status with
  | completedCustody result' =>
    dsimp only at h
    split at h
    · cases h
    · next hvalid =>
      cases h
      refine delivered_of_valid ?_
      rw [not_and, Bool.not_eq_false] at hvalid
      exact hvalid hkind
  | _ => cases h

theorem completedCustody_delivered {request : CustodyCompleteRequest}
    (h : completedCustody env s request t = .ok (some result))
    (hkind : result.ceremonyKind = .walletRecovery) :
    Delivered s.engine.db request.custodyOperationId t deliveryWindowMs := by
  unfold completedCustody at h
  split at h
  · obtain ⟨_, hrequired, h⟩ := bind_eq_ok.mp h
    cases h
    exact delivered_of_required hrequired hkind
  · obtain ⟨receipt, -, h⟩ := bind_eq_ok.mp h
    cases receipt with
    | none => cases h
    | some receipt =>
      obtain ⟨_, hrequired, h⟩ := bind_eq_ok.mp h
      obtain ⟨_, -, h⟩ := bind_eq_ok.mp h
      cases h
      exact delivered_of_required hrequired hkind

theorem orTerminalize_eq_ok {x : ServiceM α} {c : PendingContribution}
    (h : orTerminalize env op c t x s = (.ok a, s')) : x s = (.ok a, s') := by
  obtain ⟨outcome, s₁, hx, h⟩ := bind_apply_eq_ok h
  cases outcome with
  | ok a' => cases h; exact attempt_eq_ok hx
  | error cause =>
    obtain ⟨_, s₂, -, h⟩ := bind_apply_eq_ok h
    cases h

/-- A custody ceremony tells a receipt within its window, or commits the result that it tells. -/
theorem completeCustodyInner_delivered {request : CustodyCompleteRequest} {policyUpdate : Bool}
    (h : completeCustodyInner env sys request t policyUpdate s = (.ok result, s'))
    (hkind : result.ceremonyKind = .walletRecovery) :
    Delivered s'.engine.db request.custodyOperationId t deliveryWindowMs := by
  obtain ⟨_, s₁, hlift, h⟩ := bind_apply_eq_ok h
  rw [lift_apply, Prod.mk.injEq] at hlift
  obtain ⟨-, rfl⟩ := hlift
  rw [read_bind] at h
  obtain ⟨done, s₂, hlift, h⟩ := bind_apply_eq_ok h
  rw [lift_apply, Prod.mk.injEq] at hlift
  obtain ⟨hdone, rfl⟩ := hlift
  cases done with
  | some told =>
    cases h
    exact completedCustody_delivered hdone hkind
  | none =>
    obtain ⟨pending, s₃, -, h⟩ := bind_apply_eq_ok h
    obtain ⟨applied, s₄, happly, hcommit⟩ := bind_apply_eq_ok (orTerminalize_eq_ok h)
    obtain ⟨hchecked, -, -⟩ := applyCustody_ok happly
    rcases commitCustody_cases env sys applied s₄ with ⟨f, s₅, hrun, -⟩ |
      ⟨state, envelope, told, db, backends, -, htold, hcommitted, ⟨f, hrun⟩ | hrun⟩
    · rw [hrun] at hcommit; cases hcommit
    · rw [hrun] at hcommit; cases hcommit
    · rw [hrun] at hcommit
      cases hcommit
      have hop : (custodyCommit s₄ applied.completion applied.outcome
          result).result.custodyOperationId = request.custodyOperationId := by
        rw [← hchecked.complete]
        show result.custodyOperationId = _
        rw [htold]
        rfl
      have hinsert := hcommitted.receipts
      rw [hop] at hinsert
      refine ⟨_, (Table.get?_insert? hinsert).trans (if_pos rfl), rfl, ?_⟩
      show t ≤ applied.completion.nowMs + deliveryWindowMs
      rw [hchecked.time]
      exact Nat.le_add_right _ _

/-- The destination of a pairing is told the receipt of its operation, if there is one. -/
theorem takeDestination_receipt {request : CrossSurfaceCompleteDestinationRequest}
    (h : takeDestination env request t s = (.ok (.inl result), s')) :
    ∃ pair, s.crossSurface.get? request.pairingId = some pair ∧
      t < pair.pairing.expiresAtMs ∧ pair.pairing.operationId = request.operationId ∧
      s.custodyReceipt env request.operationId = .ok (some result) ∧ s'.engine = s.engine := by
  unfold takeDestination at h
  obtain ⟨_, s₁, hdrop, h⟩ := bind_apply_eq_ok h
  cases hdrop
  obtain ⟨pair, s₂, hfind, h⟩ := bind_apply_eq_ok h
  obtain ⟨found, s₃, hread, hlift⟩ := bind_apply_eq_ok hfind
  cases hread
  rw [lift_apply, Prod.mk.injEq, okOr_eq_ok] at hlift
  obtain ⟨hget, rfl⟩ := hlift
  obtain ⟨_, s₄, hlift, h⟩ := bind_apply_eq_ok h
  rw [lift_apply, Prod.mk.injEq] at hlift
  obtain ⟨hsame, rfl⟩ := hlift
  have hop : pair.pairing.operationId = request.operationId := by simpa using reject_eq_ok.mp hsame
  rw [read_bind] at h
  obtain ⟨receipt, s₅, hlift, h⟩ := bind_apply_eq_ok h
  rw [lift_apply, Prod.mk.injEq] at hlift
  obtain ⟨hreceipt, rfl⟩ := hlift
  cases receipt with
  | some told =>
    cases h
    dsimp only [id] at hget
    rw [Table.get?_erase, Option.filter_eq_some_iff] at hget
    obtain ⟨hpair, hlive⟩ := hget
    rw [Bool.not_not, CrossSurfacePairState.live, Bool.and_eq_true] at hlive
    exact ⟨pair, hpair, of_decide_eq_true hlive.1, hop, hop ▸ hreceipt, rfl⟩
  | none =>
    obtain ⟨_, s₆, -, h⟩ := bind_apply_eq_ok h
    obtain ⟨_, s₇, -, h⟩ := bind_apply_eq_ok h
    obtain ⟨_, s₈, -, h⟩ := bind_apply_eq_ok h
    obtain ⟨_, s₉, -, h⟩ := bind_apply_eq_ok h
    obtain ⟨_, s₁₀, -, h⟩ := bind_apply_eq_ok h
    obtain ⟨_, s₁₁, -, h⟩ := bind_apply_eq_ok h
    obtain ⟨_, s₁₂, -, h⟩ := bind_apply_eq_ok h
    obtain ⟨_, s₁₃, -, h⟩ := bind_apply_eq_ok h
    cases h

theorem custodyReceipt_row (h : s.custodyReceipt env op = .ok (some result)) :
    ∃ row, s.engine.db.ceremonyReceipts.get? op = some row ∧ row.receiptKind = "custody" := by
  rw [Service.custodyReceipt, custodyReceipt, receiptOf] at h
  split at h
  · cases h
  · next row hrow =>
    obtain ⟨hget, hkind⟩ := Option.filter_eq_some_iff.mp hrow
    exact ⟨row, hget, of_decide_eq_true hkind⟩

/-- What an addition commits is an addition, so a recovery that the destination of a pairing is told
was committed before, and the pairing has not ended. -/
theorem completeDestination_delivered {request : CrossSurfaceCompleteDestinationRequest}
    {t₀ : Nat} (hbounded : PairsBounded t₀ s)
    (h : crossSurfaceCompleteDestination env sys request t s = (.ok result, s'))
    (hkind : result.ceremonyKind = .walletRecovery) :
    Delivered s'.engine.db request.operationId t deliveryWindowMs := by
  obtain ⟨outcome, s₁, hinner, h⟩ := bind_apply_eq_ok h
  cases outcome with
  | error cause =>
    dsimp only at h
    rw [read_bind] at h
    split at h
    · obtain ⟨_, s₂, -, h⟩ := bind_apply_eq_ok h
      cases h
    · cases h
  | ok told =>
    cases h
    obtain ⟨outcome, s₂, htake, hinner⟩ := bind_apply_eq_ok (attempt_eq_ok hinner)
    cases outcome with
    | inl told =>
      cases hinner
      obtain ⟨pair, hpair, hlive, hop, hreceipt, hengine⟩ := takeDestination_receipt htake
      obtain ⟨row, hrow, hcustody⟩ := custodyReceipt_row hreceipt
      have hbound := hbounded.receipted _ pair row hpair (hop ▸ hrow) hcustody
      rw [hengine]
      exact Delivered.mono ⟨row, hrow, hcustody, hlive.le.trans hbound⟩ (by decide)
    | inr taken =>
      obtain ⟨outcome, s₃, hadd, hfinish⟩ := bind_apply_eq_ok hinner
      cases outcome with
      | error cause =>
        obtain ⟨_, s₄, -, hfinish⟩ := bind_apply_eq_ok hfinish
        obtain ⟨_, s₅, -, hfinish⟩ := bind_apply_eq_ok hfinish
        cases hfinish
      | ok added =>
        obtain ⟨_, s₄, -, hfinish⟩ := bind_apply_eq_ok hfinish
        cases hfinish
        obtain ⟨_, s₅, -, hcommit⟩ := bind_apply_eq_ok (attempt_eq_ok hadd)
        unfold commitDestination at hcommit
        rw [read_bind] at hcommit
        obtain ⟨_, s₆, -, hcommit⟩ := bind_apply_eq_ok hcommit
        cases hcommit
        cases hkind

end

/-! ## Responses -/

/-- The result of a custody ceremony that a response tells. -/
def BrokerSignerResponse.custody? : BrokerSignerResponse → Option CustodyResult
  | .completedCustody result | .crossSurfaceCompleteDestination result
  | .ceremonyStatus (.completedCustody result) => some result
  | _ => none

/-- The custody operation whose result a request asks for. -/
def BrokerSignerRequest.custodyOperation : BrokerSignerRequest → Option OperationId
  | .custodyResult op => some op
  | .custodyComplete request => some request.custodyOperationId
  | .ceremonyComplete (.policyUpdate request) => some request.custody.custodyOperationId
  | .ceremonyStatus id => some (operationOf id)
  | .crossSurfaceCompleteDestination request => some request.operationId
  | _ => none

/-- The program answers like this whenever it answers. -/
def Answers (P : α → Prop) (x : ServiceM α) : Prop := ∀ s a s', x s = (.ok a, s') → P a

section
variable {env : RpcEnvironment} {world : RpcWorld} {t : Nat} {P : BrokerSignerResponse → Prop}

theorem answers_pure {P : α → Prop} {a : α} (h : P a) : Answers P (pure a : ServiceM α) := by
  intro s a' s' heq
  cases heq
  exact h

theorem Answers.bind {P : β → Prop} {x : ServiceM α} {f : α → ServiceM β}
    (h : ∀ a, Answers P (f a)) : Answers P (x >>= f) := by
  intro s b s' heq
  obtain ⟨a, s₁, -, heq⟩ := bind_apply_eq_ok heq
  exact h a s₁ b s' heq

theorem answers_read {P : α → Prop} {f : Service → α} (h : ∀ s, P (f s)) :
    Answers P (.read f : ServiceM α) := by
  intro s a s' heq
  cases heq
  exact h s

theorem answers_of {x : ServiceM α} {r : α → BrokerSignerResponse} (h : ∀ a, P (r a)) :
    Answers P (do
      let a ← x
      return r a) := .bind fun a => answers_pure (h a)

theorem answers_afterRead {f : Service → ServiceM α} {r : α → BrokerSignerResponse}
    (h : ∀ a, P (r a)) : Answers P (do
      let s ← .read id
      let a ← f s
      return r a) := .bind fun _ => answers_of h

/-- A request that asks for no custody operation is told no result of one. -/
theorem dispatchMethod_silent (request : BrokerSignerRequest)
    (h : request.custodyOperation = none) :
    Answers (·.custody? = none) (dispatchMethod env world t request) := by
  have hnone : ∀ {α : Type} {r : α → BrokerSignerResponse}, (∀ a, (r a).custody? = none) →
      ∀ x : ServiceM α, Answers (·.custody? = none) (do
        let a ← x
        return r a) := fun hr x => answers_of hr
  cases request with
  | systemHello => intro s a s' heq; cases heq
  | signerReadiness | signerCapabilities | surfaceStatus | revocationState _ =>
    exact answers_read fun _ => rfl
  | surfaceReportEffective _ | crossSurfacePairStart _ | crossSurfacePrepareSource _
  | crossSurfaceCompleteSource _ | crossSurfaceAlreadyRegistered _ | sealedApprovalRevokeAll _
  | policyCompareAndSwap _ | custodyBindOutputRecipient _ _ => exact hnone (fun _ => rfl) _
  | keyDerivePrepare _ | keyEnrollPrepare _ | walletRegistrationPrepare _ | walletUnlockPrepare _
  | walletImportPrepare _ | walletExportPrepare _ | walletDeletePrepare _ | credentialAddPrepare _
  | credentialRemovePrepare _ | credentialReplacePrepare _ | recoveryPrepare _ =>
    exact hnone (fun _ => rfl) _
  | keyGetPublic _ | keyListPublic _ | keyDerivationCapabilities _ | keyListDerived _
  | derivedAccountList _ | sealedApprovalStatus _ | operationStatus _ | policyRead _
  | credentialListPublic _ | keyEnrollStatus _ | walletRegistrationStatus _ | custodyStatus _ =>
    exact answers_afterRead fun _ => rfl
  | ceremonyPrepare request =>
    cases request with
    | sealedApproval request => exact .bind fun _ => answers_of fun _ => rfl
    | policyUpdate request => exact hnone (fun _ => rfl) _
  | ceremonyComplete request =>
    cases request with
    | sealedApproval request => exact hnone (fun _ => rfl) _
    | policyUpdate request => cases h
  | ceremonyCancel _ => exact .bind fun _ => answers_afterRead fun _ => rfl
  | sealedApprovalRevoke _ => exact .bind fun _ => answers_afterRead fun _ => rfl
  | signerSign _ | signerSignBatch _ => exact .bind fun _ => answers_of fun _ => rfl
  | custodyResult _ | custodyComplete _ | ceremonyStatus _ | crossSurfaceCompleteDestination _ =>
    cases h

/-- What a response tells of a recovery was committed at most a window before. -/
theorem dispatchMethod_delivered {t₀ : Nat} {s s' : Service} {response : BrokerSignerResponse}
    {result : CustodyResult} (hbounded : PairsBounded t₀ s) (request : BrokerSignerRequest)
    (h : dispatchMethod env world t request s = (.ok response, s'))
    (htold : response.custody? = some result) (hkind : result.ceremonyKind = .walletRecovery) :
    ∃ op, request.custodyOperation = some op ∧
      Delivered s'.engine.db op t deliveryWindowMs := by
  cases hop : request.custodyOperation with
  | none =>
    rw [dispatchMethod_silent request hop s response s' h] at htold
    cases htold
  | some op =>
    refine ⟨op, rfl, ?_⟩
    cases request with
    | custodyResult op =>
      cases hop
      obtain ⟨s₀, _, hread, h⟩ := bind_apply_eq_ok h
      cases hread
      obtain ⟨_, _, hlift, h⟩ := bind_apply_eq_ok h
      rw [lift_apply, Prod.mk.injEq] at hlift
      obtain ⟨hresult, rfl⟩ := hlift
      cases h
      cases htold
      obtain ⟨receipt, -, hresult⟩ := bind_eq_ok.mp hresult
      obtain ⟨_, -, hresult⟩ := bind_eq_ok.mp hresult
      obtain ⟨_, hrequired, hresult⟩ := bind_eq_ok.mp hresult
      cases hresult
      exact delivered_of_required hrequired hkind
    | ceremonyStatus id =>
      cases hop
      obtain ⟨s₀, _, hread, h⟩ := bind_apply_eq_ok h
      cases hread
      obtain ⟨status, _, hlift, h⟩ := bind_apply_eq_ok h
      rw [lift_apply, Prod.mk.injEq] at hlift
      obtain ⟨hstatus, rfl⟩ := hlift
      cases h
      cases status with
      | completedCustody told => cases htold; exact statusAt_delivered hstatus hkind
      | _ => cases htold
    | custodyComplete request =>
      cases hop
      obtain ⟨told, _, hcomplete, h⟩ := bind_apply_eq_ok h
      cases h
      cases htold
      exact completeCustodyInner_delivered hcomplete hkind
    | ceremonyComplete request =>
      cases request with
      | sealedApproval request => cases hop
      | policyUpdate request =>
        cases hop
        obtain ⟨told, _, hcomplete, h⟩ := bind_apply_eq_ok h
        cases h
        cases htold
        exact completeCustodyInner_delivered hcomplete hkind
    | crossSurfaceCompleteDestination request =>
      cases hop
      obtain ⟨told, _, hcomplete, h⟩ := bind_apply_eq_ok h
      cases h
      cases htold
      exact completeDestination_delivered hbounded hcomplete hkind
    | _ => cases hop

/-- Whatever was served before, and whichever request asks: a response that tells the result of a
recovery does so within a quarter of an hour of its commit, as long as the clock of the requests that
change something did not go back. -/
theorem recovery_told_in_window (env : RpcEnvironment) (s : Service) (hstart : s.crossSurface = ∅)
    (events : List RpcEvent) (htimely : Timely events) (world : RpcWorld)
    (request : BrokerSignerRequest) (response : BrokerSignerResponse) (s' : Service)
    (hresponse : dispatchInner env world request (run (rpcStep env) s events) = (.ok response, s'))
    (result : CustodyResult) (htold : response.custody? = some result)
    (hkind : result.ceremonyKind = .walletRecovery) :
    ∃ op t row, request.custodyOperation = some op ∧
      world.clock request.method.isReadOnly = .ok t ∧
      s'.engine.db.ceremonyReceipts.get? op = some row ∧ row.receiptKind = "custody" ∧
      t ≤ row.committedAtMs + 15 * 60 * 1000 := by
  obtain ⟨t₀, hbounded⟩ := run_pairsBounded env (PairsBounded.of_none (t := 0) hstart) events
    (fun t' _ => Nat.zero_le t') htimely
  obtain ⟨_, s₁, hlift, hresponse⟩ := bind_apply_eq_ok hresponse
  rw [lift_apply, Prod.mk.injEq] at hlift
  obtain ⟨-, rfl⟩ := hlift
  obtain ⟨t, s₂, hlift, hresponse⟩ := bind_apply_eq_ok hresponse
  rw [lift_apply, Prod.mk.injEq] at hlift
  obtain ⟨hclock, rfl⟩ := hlift
  obtain ⟨op, hop, row, hrow, hcustody, hwindow⟩ :=
    dispatchMethod_delivered hbounded request hresponse htold hkind
  exact ⟨op, t, row, hop, hclock, hrow, hcustody, hwindow⟩

end

/-! ## A recovery that was committed before -/

def recoveredResult : CustodyResult := { anyResult with ceremonyKind := .walletRecovery }

def rpcReading : RpcEnvironment :=
  { rpcStandIn with ceremonies := .reading .standIn [] [recoveredResult] [] }

/-- The service of a Signer that committed a recovery. -/
def recoveredService : Service :=
  { engine := { Engine.blank boundKeys ∅ with db := {
      ceremonyReceipts := (∅ : Table OperationId CeremonyReceiptRow).set ⟨"operation-1"⟩
        ⟨"custody", Crypto.standIn.jcs recoveredResult.serialized, 10000⟩ } } }

def quietEvents : List RpcEvent :=
  [.expiry containmentLost, .control containmentLost (.revokeAll ⟨⟨"operation-2"⟩, ⟨"first"⟩⟩),
    .control containmentLost (.revokeAll ⟨⟨"operation-3"⟩, ⟨"second"⟩⟩)]

/-- What a Signer after the events answers to a request for the result. -/
def askedAgain : Except Failure BrokerSignerResponse × Service :=
  dispatchInner rpcReading containmentLost (.custodyResult ⟨"operation-1"⟩)
    (run (rpcStep rpcReading) recoveredService quietEvents)

theorem askedAgain_told :
    (askedAgain.1.toOption.bind BrokerSignerResponse.custody?) = some recoveredResult := by
  decide +kernel

theorem recovery_told_in_window_asked :
    ∃ response, askedAgain.1 = .ok response ∧ response.custody? = some recoveredResult ∧
      ∃ op t row, (BrokerSignerRequest.custodyResult ⟨"operation-1"⟩).custodyOperation = some op ∧
        containmentLost.clock true = .ok t ∧
        askedAgain.2.engine.db.ceremonyReceipts.get? op = some row ∧
        row.receiptKind = "custody" ∧ t ≤ row.committedAtMs + 15 * 60 * 1000 := by
  have htold := askedAgain_told
  cases hrun : askedAgain with
  | mk answer s' =>
    rw [hrun] at htold
    cases answer with
    | error f => cases htold
    | ok response =>
      exact ⟨response, rfl, htold, recovery_told_in_window rpcReading recoveredService rfl
        quietEvents (by unfold Timely; decide) containmentLost _ response s' hrun recoveredResult
        htold rfl⟩

end BloomSigner.Rpc
