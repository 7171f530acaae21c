import BloomSigner.Ceremony.RevocationsKept
import BloomSigner.Engine.Lifecycle
import BloomSigner.Registry.SharedNumber
import BloomSigner.Rpc.Containment

/-! # What every request respects

Whatever is asked of the process in whatever order, what its database goes through is work on
accounts, the commits of ceremonies, the storage calls of signatures, revocations, policy swaps,
changes of the surfaces and openings. A relation that these respect relates the database before a run
to the one after it. Three do: the budgets of the approvals with the operations charged to them, the
derivation registry, and the generations of passkey authority. -/

namespace BloomSigner.Rpc

open Lib Lib.Program

/-- A relation between databases that everything a request makes of the Signer respects. -/
structure Served (env : ServiceEnvironment) (R : Db → Db → Prop) : Prop where
  refl : ∀ db, R db db
  trans : ∀ db₁ db₂ db₃, R db₁ db₂ → R db₂ db₃ → R db₁ db₃
  durable : ∀ e e' : Engine, Durable env e e' → R e.db e'.db
  signed : ∀ e call, SignCall.signs call = true →
    R e.db (signStep env.crypto env.config e call).db
  revoked : ∀ db db', Revokes db db' → RevocationsKept db db' → R db db'
  swapped : ∀ e request, R e.db (compareAndSwapPolicy env.crypto e request).2.db
  administered : ∀ (db : Db) status journal, R db { db with surfaceState := some status, journal }
  reopened : ∀ (e : Engine) compiled, R e.db (e.reopen env compiled).db

/-- A call of the Signer that a request, the administration or a new process makes. -/
def SignerCall.Requested : SignerCall → Prop
  | .ceremony _ _ | .engine (.revokeApproval _) | .engine (.revokeAll _) | .compareAndSwapPolicy _
  | .latchAuditDegraded | .installRemoteSurface .. | .reportEffective _ | .setExposureMode _
  | .restart _ _ => True
  | .engine (.sign call) => SignCall.signs call = true
  | _ => False

theorem requested_of_makes {contained : Prop} {call : SignerCall} (h : Rpc.Makes contained t call) :
    SignerCall.Requested call := by
  cases call with
  | ceremony sys call => trivial
  | engine call =>
    cases call with
    | sign call => exact h.1
    | revokeApproval request | revokeAll request => trivial
    | _ => exact h.elim
  | compareAndSwapPolicy request | latchAuditDegraded | reportEffective report => trivial
  | _ => exact h.elim

theorem RpcEvent.requested {event : RpcEvent} {call : SignerCall} (h : event.Makes call) :
    SignerCall.Requested call := by
  cases event with
  | broker world request =>
    obtain ⟨-, t, -, hmakes⟩ := h
    exact requested_of_makes hmakes
  | control world request =>
    obtain ⟨-, t, -, hmakes⟩ := h
    exact requested_of_makes hmakes
  | expiry world =>
    rw [RpcEvent.Makes] at h
    split at h
    · rw [h]; trivial
    · rw [h]; trivial
  | installRemoteSurface hostname installationId adminKey t => rw [h]; trivial
  | setExposureMode mode => rw [h]; trivial
  | restart compiled t => rw [h]; trivial

namespace Served

section
variable {env : ServiceEnvironment} {R : Db → Db → Prop} {s s' : Service}

theorem surface (hR : Served env R) {Q : SurfaceStatus → Prop} (h : Administered Q s s') :
    R s.engine.db s'.engine.db := by
  cases h with
  | same => exact hR.refl s.engine.db
  | degraded => exact hR.refl s.engine.db
  | stored journal _ _ _ => exact hR.administered s.engine.db _ journal

theorem durables (hR : Served env R) {e e' : Engine} (h : Durables env e e') : R e.db e'.db := by
  induction h with
  | refl => exact hR.refl e.db
  | tail _ hstep ih => exact hR.trans _ _ _ ih (hR.durable _ _ hstep)

theorem restarted (hR : Served env R) (compiled : Backends) (t : Nat) :
    R s.engine.db (s.reopened env compiled t).engine.db := by
  obtain ⟨hwork, hengine⟩ := startService_work env t (s.engine.reopen env compiled)
  have hstarted : R s.engine.db (startService env t (s.engine.reopen env compiled)).2.db :=
    hR.trans _ _ _ (hR.reopened s.engine compiled) (hR.durable _ _ (.work hwork))
  unfold Service.reopened
  split
  · next s' e' hstart =>
    rw [hstart] at hstarted hengine
    rw [← hengine s' rfl] at hstarted
    exact hR.trans _ _ _ hstarted (hR.surface (administered_fenceRemoteSurface s'))
  · next hstart =>
    rw [hstart] at hstarted
    exact hstarted

theorem step (hR : Served env R) (s : Service) (call : SignerCall)
    (h : SignerCall.Requested call) : R s.engine.db (signerStep env s call).engine.db := by
  have hrevokes : ∀ db db', Revokes db db' ∧ RevocationsKept db db' → R db db' :=
    fun db db' h => hR.revoked db db' h.1 h.2
  cases call with
  | ceremony sys call => exact hR.durables (dispatch_durables call s)
  | engine call =>
    cases call with
    | sign call => exact hR.signed s.engine call h
    | revokeApproval request =>
      exact precheck_rel (hR.refl _) fun _ _ => mutation_rel (hR.refl _) fun db _ hbody =>
        hrevokes _ db ⟨revokeApprovalBody_revokes hbody, revokeApprovalBody_kept hbody⟩
    | revokeAll request =>
      exact mutation_rel (hR.refl _) fun db _ hbody =>
        hrevokes _ db ⟨revokeAllBody_revokes hbody, revokeAllBody_kept hbody⟩
    | _ => exact h.elim
  | compareAndSwapPolicy request => exact hR.swapped s.engine request
  | latchAuditDegraded => exact hR.refl s.engine.db
  | installRemoteSurface hostname installationId adminKey t =>
    exact hR.surface (administered_installRemoteSurface hostname installationId adminKey t s)
  | reportEffective report => exact hR.surface (administered_reportEffective report s)
  | setExposureMode mode => exact hR.surface (administered_setExposureMode mode s)
  | restart compiled t => exact hR.restarted compiled t
  | _ => exact h.elim

end

/-- What every part of a run respects relates the database before the run to the one after it. -/
theorem run {env : RpcEnvironment} {R : Db → Db → Prop} (hR : Served env.toServiceEnvironment R)
    (s : Service) (events : List RpcEvent) :
    R s.engine.db (Lib.run (rpcStep env) s events).engine.db := by
  have hreaches := run_reaches (s := s) fun s event (_ : event ∈ events) =>
    @rpcStep_reaches env s event
  refine hreaches.rel (R := fun s s' : Service => R s.engine.db s'.engine.db)
    (fun s => hR.refl s.engine.db) (fun _ _ _ => hR.trans _ _ _) fun s call hcall => ?_
  obtain ⟨event, -, hmakes⟩ := hcall
  exact hR.step s call (event.requested hmakes)

end Served

/-! ## Budgets -/

/-- The counters of approvals keep agreeing with the operations charged to them, and no operation is
lost or goes back. -/
structure BudgetsKept (db db' : Db) : Prop where
  ledger : LedgerInv db → LedgerInv db'
  results : ResultsInv db → ResultsInv db'
  operations : Table.Kept OperationRow.Progress db.operations db'.operations

section
variable {db db' db'' : Db}

theorem BudgetsKept.trans (h : BudgetsKept db db') (h' : BudgetsKept db' db'') :
    BudgetsKept db db'' where
  ledger := h'.ledger ∘ h.ledger
  results := h'.results ∘ h.results
  operations := h.operations.trans (fun _ _ _ => OperationRow.Progress.trans) h'.operations

/-- What leaves the operations alone keeps them, and keeps the budgets if it keeps those. -/
theorem BudgetsKept.of_operations (hoperations : db'.operations = db.operations)
    (hledger : LedgerInv db → LedgerInv db') : BudgetsKept db db' where
  ledger := hledger
  results h oid op hop := h oid op (hoperations ▸ hop)
  operations := hoperations ▸ .refl (fun _ => .inl rfl) _

theorem BudgetsKept.of_same (happrovals : db'.approvals = db.approvals)
    (hoperations : db'.operations = db.operations) : BudgetsKept db db' :=
  .of_operations hoperations fun inv => inv.step (.same happrovals hoperations)

/-- A revocation takes an approval's flag and leaves its counters. -/
theorem LedgerInv.revoked (inv : LedgerInv db) (hrevokes : Revokes db db')
    (hkept : RevocationsKept db db') : LedgerInv db' := by
  obtain ⟨approvals, _, _, _, _, _, hdeactivates, rfl⟩ := hrevokes
  have hrow : ∀ {a row'}, approvals.get? a = some row' → ∃ row, db.approvals.get? a = some row ∧
      row'.committedOperations = row.committedOperations ∧
      row'.committedSignatures = row.committedSignatures ∧ row'.terms = row.terms := by
    intro a row' hrow'
    obtain ⟨row, hrow, rfl | rfl⟩ := hdeactivates a row' hrow'
    · exact ⟨row', hrow, rfl, rfl, rfl⟩
    · exact ⟨row, hrow, rfl, rfl, rfl⟩
  refine ⟨fun h => ?_, fun h => ?_, fun h => ?_, fun h => ?_, fun hop => ?_⟩
  · obtain ⟨row, hget, hcount, -, -⟩ := hrow h
    exact hcount.trans (inv.operations hget)
  · obtain ⟨row, hget, -, hcount, -⟩ := hrow h
    exact hcount.trans (inv.signatures hget)
  · obtain ⟨row, hget, hcount, -, hterms⟩ := hrow h
    rw [hcount, hterms]
    exact inv.operations_le hget
  · obtain ⟨row, hget, -, hcount, hterms⟩ := hrow h
    rw [hcount, hterms]
    exact inv.signatures_le hget
  · obtain ⟨row, hget⟩ := inv.owned hop
    obtain ⟨row', hget', -⟩ := hkept.approvals _ row hget
    exact ⟨row', hget'⟩

theorem Durable.budgetsKept {env : ServiceEnvironment} {e e' : Engine} (h : Durable env e e') :
    BudgetsKept e.db e'.db := by
  cases h with
  | work h =>
    obtain ⟨_, _, _, _, hdb⟩ := h.tables
    rw [hdb]
    exact .of_same rfl rfl
  | status status journal _ => exact .of_same rfl rfl
  | custody h backends =>
    obtain ⟨_, _, _, _, _, _, _, _, _, _, _, _, hdb⟩ := h.tables
    rw [hdb]
    exact .of_same rfl rfl
  | approval h =>
    have hinsert := h.approval
    obtain ⟨_, _, _, _, _, hdb⟩ := h.tables
    have hoperations := congrArg Db.operations hdb
    exact .of_operations hoperations fun inv => inv.step (.installed hinsert hoperations)

theorem budgetsKept_served (env : ServiceEnvironment) : Served env BudgetsKept where
  refl _ := .of_same rfl rfl
  trans _ _ _ h h' := h.trans h'
  durable _ _ h := Durable.budgetsKept h
  signed e call _ := by
    have hstep := signStep_operations env.crypto env.config e call
    exact ⟨signStep_ledgerInv call, fun h => h.step hstep, fun _ _ hop => hstep.progress hop⟩
  revoked db db' hrevokes hkept := by
    obtain ⟨_, _, _, _, _, _, -, hdb⟩ := id hrevokes
    exact .of_operations (congrArg Db.operations hdb :) fun inv =>
      LedgerInv.revoked inv hrevokes hkept
  swapped e request := by
    obtain ⟨_, _, _, _, hdb⟩ := @compareAndSwapPolicy_tables env.crypto request e
    rw [hdb]
    exact .of_same rfl rfl
  administered _ _ _ := .of_same rfl rfl
  reopened e compiled := by
    obtain ⟨_, _, hdb⟩ := reopen_tables env compiled e
    rw [hdb]
    exact .of_same rfl rfl

end

/-- Whatever was asked, from a Signer whose counters and results are right: the counters of every
approval are the totals of the operations charged to it and within its limits, and an operation that
was ever accepted stays, with its result once it has one. -/
theorem served_within_budget (env : RpcEnvironment) (s : Service)
    (hledger : LedgerInv s.engine.db) (hresults : ResultsInv s.engine.db)
    (events later : List RpcEvent) :
    let served := run (rpcStep env) s events
    (∀ a row, served.engine.db.approvals.get? a = some row →
      row.committedOperations = openOperations served.engine.db a ∧
      row.committedSignatures = openSignatures served.engine.db a ∧
      row.committedOperations ≤ row.terms.limits.maxOperations ∧
      row.committedSignatures ≤ row.terms.limits.maxSignatures) ∧
    (∀ op row, served.engine.db.operations.get? op = some row →
      (row.normalizedResult.isSome ↔ row.state = .committed)) ∧
    ∀ op row, served.engine.db.operations.get? op = some row →
      ∃ row', (run (rpcStep env) served later).engine.db.operations.get? op = some row' ∧
        row.Progress row' := by
  intro served
  have hkept := (budgetsKept_served env.toServiceEnvironment).run s events
  have inv := hkept.ledger hledger
  refine ⟨fun a row hrow => ?_, hkept.results hresults, ?_⟩
  · exact ⟨inv.operations hrow, inv.signatures hrow, inv.operations_le hrow,
      inv.signatures_le hrow⟩
  · exact ((budgetsKept_served env.toServiceEnvironment).run served later).operations

/-- The one signature that the approval allows is asked for. -/
def signedOnce : List RpcEvent :=
  [.broker { containmentLost with containment := .ok () } (.signerSign (kmsRequest 0))]

theorem served_within_budget_signed :
    ((run (rpcStep rpcStandIn) approvedService signedOnce).engine.db.approvals.get?
      (kmsTerms.digest .standIn)).map (·.committedSignatures) = some 1 ∧
    ∀ a row, (run (rpcStep rpcStandIn) approvedService signedOnce).engine.db.approvals.get? a =
      some row → row.committedSignatures ≤ row.terms.limits.maxSignatures := by
  have hledger : LedgerInv approvedService.engine.db :=
    @signStep_ledgerInv _ signingStandIn.config kmsEngine
      (.persistApproval everyKey kmsTerms none) (ledgerInv_withoutApprovals kmsEngine)
  have hresults : ResultsInv approvedService.engine.db := fun op row h => by cases h
  have hserved := served_within_budget rpcStandIn approvedService hledger hresults signedOnce []
  exact ⟨by decide +kernel, fun a row hrow => (hserved.1 a row hrow).2.2.2⟩

/-! ## Derivation paths -/

def SameSlot (row row' : Registry.AllocationRow) : Prop := row'.slot = row.slot

/-- No row of the registry leaves its place in the derivation tree, no tombstone is lost and no
counter goes back. -/
structure PathsKept (db db' : Registry.RegistryDb) : Prop where
  inv : Registry.PathInv db → Registry.PathInv db'
  slots : Table.Kept SameSlot db.allocations db'.allocations
  counters : Registry.CountersLe db db'
  tombstones : Registry.TombstonesLe db db'

section
variable {db db' db'' : Registry.RegistryDb}

theorem SameSlot.refl (row : Registry.AllocationRow) : SameSlot row row := rfl

theorem PathsKept.refl (db : Registry.RegistryDb) : PathsKept db db :=
  ⟨id, .refl SameSlot.refl _, .refl db, .refl db⟩

theorem PathsKept.of_eq (h : db' = db) : PathsKept db db' := h ▸ .refl db

theorem PathsKept.trans (h : PathsKept db db') (h' : PathsKept db' db'') : PathsKept db db'' where
  inv := h'.inv ∘ h.inv
  slots := h.slots.trans (fun _ _ _ hslot hslot' => hslot'.trans hslot) h'.slots
  counters := h.counters.trans h'.counters
  tombstones := h.tombstones.trans h'.tombstones

theorem pathsKept_effect {V : Token → Registry.AllocationRow → Prop}
    (h : Registry.Effect V db db') : PathsKept db db' where
  inv hinv := hinv.effect h
  counters := h.countersLe
  slots := by
    cases h with
    | relabelled k row row' hrow hallocations hslot hnamespaces htombstones =>
      intro k' r hr
      rw [hallocations, Table.get?_update]
      split
      · next heq =>
        subst heq
        rw [hrow] at hr ⊢
        cases hr
        exact ⟨row', rfl, hslot⟩
      · exact ⟨r, hr, rfl⟩
    | burned hallocations =>
      rw [hallocations]
      exact .refl SameSlot.refl _
    | reserved w op row _ hreserved => exact Table.kept_insert? SameSlot.refl hreserved.inserted
  tombstones := by
    cases h with
    | relabelled _ _ _ _ _ _ _ htombstones => exact htombstones
    | burned _ _ _ htombstones => exact htombstones
    | reserved _ _ _ _ hreserved => exact hreserved.tombstones

theorem pathsKept_effects {V : Token → Registry.AllocationRow → Prop}
    (h : Relation.ReflTransGen (Registry.Effect V) db db') : PathsKept db db' := by
  induction h with
  | refl => exact .refl db
  | tail _ heffect ih => exact ih.trans (pathsKept_effect heffect)

/-- A ceremony that commits claims the allocations it made: their rows stay where they are. -/
theorem pathsKept_claims {claims : List (Token × OperationId)}
    (h : foldE claimAllocation db claims = .ok db') : PathsKept db db' := by
  refine foldE_invariant (P := PathsKept db) (fun db₁ claim _ db₂ hclaim hkept => ?_) h (.refl db)
  obtain ⟨row, hrow, hclaim⟩ := bind_eq_ok.mp hclaim
  cases hclaim
  rw [okOr_eq_ok, Option.filter_eq_some_iff] at hrow
  refine hkept.trans (pathsKept_effect (V := fun _ _ => True) ?_)
  exact .relabelled _ row { row with authorityCommitted := true } hrow.1 rfl rfl rfl (.refl _)

theorem pathsKept_work {crypto : Crypto} {e e' : Engine} (h : Work crypto e e') :
    PathsKept e.db.registry e'.db.registry := by
  induction h with
  | refl => exact .refl _
  | tail _ hmove ih =>
    obtain ⟨w, hmove⟩ := hmove
    exact ih.trans (pathsKept_effects hmove.accountStep.registry)

theorem pathsKept_served (env : ServiceEnvironment) :
    Served env fun db db' => PathsKept db.registry db'.registry where
  refl db := .refl db.registry
  trans _ _ _ h h' := h.trans h'
  durable e e' h := by
    cases h with
    | work h => exact pathsKept_work h
    | status status journal _ => exact .refl _
    | custody h backends => exact pathsKept_claims h.claims
    | approval h =>
      obtain ⟨_, _, _, _, _, hdb⟩ := h.tables
      exact .of_eq (congrArg Db.registry hdb :)
  signed e call _ := by
    obtain ⟨_, _, _, _, _, _, _, _, hdb⟩ := @signStep_tables env.crypto env.config e call
    exact .of_eq (congrArg Db.registry hdb :)
  revoked db db' h _ := by
    obtain ⟨_, _, _, _, _, _, -, hdb⟩ := h
    exact .of_eq (congrArg Db.registry hdb :)
  swapped e request := by
    obtain ⟨_, _, _, _, hdb⟩ := @compareAndSwapPolicy_tables env.crypto request e
    exact .of_eq (congrArg Db.registry hdb :)
  administered db _ _ := .refl db.registry
  reopened e compiled := by
    obtain ⟨_, _, hdb⟩ := reopen_tables env compiled e
    exact .of_eq (congrArg Db.registry hdb :)

/-- Whatever was asked, with failed ceremonies, clean-ups and new processes in between: an account
that was ever allocated keeps its path, and no later allocation of its wallet is given it. -/
theorem served_paths_never_reused (env : RpcEnvironment) (s : Service)
    (hstart : Registry.PathInv s.engine.db.registry) (events later : List RpcEvent) (w : Token)
    (op : String)
    (row : Registry.AllocationRow)
    (hrow : (run (rpcStep env) s events).engine.db.registry.allocations.get? (w, op) = some row) :
    let db := (run (rpcStep env) (run (rpcStep env) s events) later).engine.db.registry
    (∃ row', db.allocations.get? (w, op) = some row' ∧ row'.slot = row.slot) ∧
    (∀ op' row', db.allocations.get? (w, op') = some row' → row'.profile = row.profile →
      row'.path = row.path → op' = op) ∧
    Registry.CountersLe (run (rpcStep env) s events).engine.db.registry db ∧
    Registry.TombstonesLe (run (rpcStep env) s events).engine.db.registry db := by
  intro db
  have hserved := pathsKept_served env.toServiceEnvironment
  have hbefore := (hserved.run s events).inv hstart
  have hkept := hserved.run (run (rpcStep env) s events) later
  obtain ⟨row₁, hrow₁, hslot⟩ := hkept.slots _ row hrow
  refine ⟨⟨row₁, hrow₁, hslot⟩, fun op' row' hrow' hprofile hpath => ?_, hkept.counters,
    hkept.tombstones⟩
  simp only [SameSlot, Registry.AllocationRow.slot, Prod.mk.injEq] at hslot
  exact (hkept.inv hbefore).unique w op' op row' row₁ hrow' hrow₁ (hprofile.trans hslot.1.symm)
    (hpath.trans hslot.2.2.2.2.symm)

/-- The Signer with one account that was reserved. -/
def reservedService : Service :=
  { engine := { kmsEngine with db := {
      kmsEngine.db with registry := (Registry.afterFirst Registry.digestOfHead).db } } }

/-- The process starts again with its backends. -/
def restarted : List RpcEvent := [.restart kmsBackends 20000]

theorem served_paths_never_reused_restarted :
    ∃ row, (run (rpcStep rpcStandIn) reservedService restarted).engine.db.registry.allocations.get?
      (⟨"wallet"⟩, "first") = some row ∧
    ∀ op' row', (run (rpcStep rpcStandIn) (run (rpcStep rpcStandIn) reservedService restarted)
      lostRequests).engine.db.registry.allocations.get? (⟨"wallet"⟩, op') = some row' →
      row'.profile = row.profile → row'.path = row.path → op' = "first" := by
  have hrow : ((run (rpcStep rpcStandIn) reservedService restarted).engine.db.registry.allocations.get?
      (⟨"wallet"⟩, "first")).isSome = true := by decide +kernel
  obtain ⟨row, hrow⟩ := Option.isSome_iff_exists.mp hrow
  have hstart : Registry.PathInv reservedService.engine.db.registry :=
    Registry.run_pathInv Registry.digestOfHead (fun (j : Unit) _ _ => .ok j) .empty
      [.prepareAllocation (Registry.evmRequest "hot" "first")]
  exact ⟨row, hrow, (served_paths_never_reused rpcStandIn reservedService hstart restarted
    lostRequests ⟨"wallet"⟩ "first" row hrow).2.1⟩

end

end BloomSigner.Rpc
