import BloomSigner.Ceremony.Signer

/-! # The assignment of the relay

A remote surface is installed once. After that no call of the Signer, no backup it reads and no new
process changes the installation it belongs to, the administrator it was assigned to, or the identity
of a surface. -/

namespace BloomSigner

open Lib Lib.Program

/-- What a surface is known by. -/
def SurfaceDescriptor.known (descriptor : SurfaceDescriptor) : SurfaceIdentity × Digest32 :=
  (descriptor.identity, descriptor.identityDigest)

/-- The assignment and the identities of the surfaces, as another status has them. -/
structure SameAssignment (status status' : SurfaceStatus) : Prop where
  installation : status'.installationId = status.installationId
  admin : status'.installationAdminKeySha256 = status.installationAdminKeySha256
  surfaces : status'.surfaces.map SurfaceDescriptor.known =
    status.surfaces.map SurfaceDescriptor.known

/-- The assignment stays, and surfaces are only added. -/
structure SurfacesKept (status status' : SurfaceStatus) : Prop where
  installation : ∀ id, status.installationId = some id → status'.installationId = some id
  admin : ∀ key, status.installationAdminKeySha256 = some key →
    status'.installationAdminKeySha256 = some key
  surfaces : status.surfaces.map SurfaceDescriptor.known <+:
    status'.surfaces.map SurfaceDescriptor.known

section
variable {status status' status'' : SurfaceStatus}

namespace SameAssignment

theorem refl (status : SurfaceStatus) : SameAssignment status status := ⟨rfl, rfl, rfl⟩

theorem trans (h : SameAssignment status status') (h' : SameAssignment status' status'') :
    SameAssignment status status'' where
  installation := h'.installation.trans h.installation
  admin := h'.admin.trans h.admin
  surfaces := h'.surfaces.trans h.surfaces

theorem mapRemote {f : SurfaceDescriptor → SurfaceDescriptor} (hf : ∀ d, (f d).known = d.known)
    (status : SurfaceStatus) : SameAssignment status (status.mapRemote f) where
  installation := rfl
  admin := rfl
  surfaces := by
    have hsame : ∀ (ds : List SurfaceDescriptor) n,
        (ds.modify n f).map SurfaceDescriptor.known = ds.map SurfaceDescriptor.known := by
      intro ds
      induction ds with
      | nil => intro n; cases n <;> rfl
      | cons d ds ih =>
        intro n
        cases n with
        | zero => exact congrArg (· :: ds.map SurfaceDescriptor.known) (hf d)
        | succ n => exact congrArg (d.known :: ·) (ih n)
    exact hsame status.surfaces _

theorem kept (h : SameAssignment status status') : SurfacesKept status status' where
  installation _ hid := h.installation.trans hid
  admin _ hkey := h.admin.trans hkey
  surfaces := h.surfaces ▸ List.prefix_refl _

end SameAssignment

theorem SurfacesKept.refl (status : SurfaceStatus) : SurfacesKept status status :=
  (SameAssignment.refl status).kept

theorem SurfacesKept.trans (h : SurfacesKept status status') (h' : SurfacesKept status' status'') :
    SurfacesKept status status'' where
  installation id hid := h'.installation id (h.installation id hid)
  admin key hkey := h'.admin key (h.admin key hkey)
  surfaces := h.surfaces.trans h'.surfaces

end

section
variable {env : ServiceEnvironment} {s : Service} {status next : SurfaceStatus}

/-! ## Administration -/

/-- The status of a first assignment. -/
structure Assigns (env : ServiceEnvironment) (hostname installationId : String)
    (adminKey : Digest32) (createdAtMs : Nat) (current next : SurfaceStatus) : Prop where
  installation : current.installationId = none
  admin : current.installationAdminKeySha256 = none
  assigned : ∃ identity reference, SurfaceIdentity.remote hostname createdAtMs = .ok identity ∧
    identity.reference env.crypto = .ok reference ∧ next = { current with
      surfaces := current.surfaces ++ [⟨identity, reference.identityDigest, .disabled, 0⟩]
      installationId := some installationId
      installationAdminKeySha256 := some adminKey }

theorem installRemoteSurface_assigns (hostname installationId : String) (adminKey : Digest32)
    (t : Nat) (s : Service) :
    Administered (Assigns env hostname installationId adminKey t (s.surfaceStatus env)) s
      (installRemoteSurface env hostname installationId adminKey t s).2 := by
  unfold installRemoteSurface
  rw [read_bind]
  cases hidentity : SurfaceIdentity.remote hostname t with
  | error f => rw [lift_bind_error rfl]; exact .same
  | ok identity =>
    rw [lift_bind_ok rfl]
    cases (s.surfaceStatus env).surfaces.find? SurfaceDescriptor.isRemote with
    | some existing =>
      dsimp only
      cases reject (existing.identity.origin ≠ identity.origin ∨
          (s.surfaceStatus env).installationId ≠ some installationId ∨
          (s.surfaceStatus env).installationAdminKeySha256 ≠ some adminKey) operationConflict with
      | error f => rw [lift_bind_error rfl]; exact .same
      | ok u => rw [lift_bind_ok rfl]; exact .same
    | none =>
      dsimp only
      cases hcheck : reject ((s.surfaceStatus env).installationId.isSome ∨
          (s.surfaceStatus env).installationAdminKeySha256.isSome) operationConflict with
      | error f => rw [lift_bind_error rfl]; exact .same
      | ok u =>
        rw [lift_bind_ok rfl]
        obtain ⟨hid, hkey⟩ := not_or.mp (reject_eq_ok.mp hcheck)
        cases hreference : identity.reference env.crypto with
        | error f => rw [lift_bind_error rfl]; exact .same
        | ok reference =>
          rw [lift_bind_ok rfl]
          exact administered_commitSurface ⟨Option.not_isSome_iff_eq_none.mp hid,
            Option.not_isSome_iff_eq_none.mp hkey, identity, reference, hidentity, hreference, rfl⟩
            _ s

theorem Assigns.surfacesKept (h : Assigns env hostname installationId adminKey t status next) :
    SurfacesKept status next := by
  obtain ⟨hid, hkey, identity, reference, -, -, rfl⟩ := h
  refine ⟨fun i hi => ?_, fun k hk => ?_, ?_⟩
  · rw [hid] at hi
    cases hi
  · rw [hkey] at hk
    cases hk
  · rw [List.map_append]
    exact List.prefix_append _ _

theorem Reports.sameAssignment {report : SurfaceEffectiveReport} (h : Reports report status next) :
    SameAssignment status next := by
  obtain ⟨-, reported, hreported, rfl⟩ := h
  have hsame : SameAssignment status reported := by
    unfold SurfaceStatus.reported at hreported
    split at hreported
    · split at hreported
      · cases hreported
        exact (SameAssignment.mapRemote (fun d => by split <;> rfl) status).trans ⟨rfl, rfl, rfl⟩
      · obtain ⟨_, -, hreported⟩ := bind_eq_ok.mp hreported
        obtain ⟨_, -, hreported⟩ := bind_eq_ok.mp hreported
        cases hreported
        exact (SameAssignment.mapRemote (fun d => by split <;> rfl) status).trans ⟨rfl, rfl, rfl⟩
    · obtain ⟨_, -, hreported⟩ := bind_eq_ok.mp hreported
      cases hreported
      exact (SameAssignment.mapRemote (fun d => by split <;> rfl) status).trans ⟨rfl, rfl, rfl⟩
  exact ⟨hsame.installation, hsame.admin, hsame.surfaces⟩

theorem Exposes.sameAssignment {mode : ExposureMode} (h : Exposes env s mode next) :
    SameAssignment (s.surfaceStatus env) next := by
  obtain ⟨-, admitted, hadmitted, rfl⟩ := h
  have hsame : SameAssignment (s.surfaceStatus env) admitted := by
    cases mode with
    | localhostOnly =>
      obtain ⟨_, -, hadmitted⟩ := bind_eq_ok.mp hadmitted
      cases hadmitted
      exact SameAssignment.mapRemote (f := (·.enter .disabled)) (fun _ => rfl) _
    | remoteEnabled =>
      obtain ⟨_, -, hadmitted⟩ := bind_eq_ok.mp hadmitted
      cases hadmitted
      exact .refl _
  exact ⟨hsame.installation, hsame.admin, hsame.surfaces⟩

/-! ## Every call -/

/-- A call that stores no status of the surfaces. -/
def SameSurfaces (e e' : Engine) : Prop := e'.db.surfaceState = e.db.surfaceState

theorem SameSurfaces.of_tables {e e' : Engine} {db : Db} (h : e'.db = db)
    (hsame : db.surfaceState = e.db.surfaceState) : SameSurfaces e e' := by
  rw [SameSurfaces, h, hsame]

theorem Durable.sameSurfaces {e e' : Engine} (h : Durable env e e') : SameSurfaces e e' := by
  cases h with
  | work h =>
    obtain ⟨_, _, _, _, hdb⟩ := h.tables
    exact .of_tables hdb rfl
  | status status journal _ => rfl
  | custody h backends =>
    obtain ⟨_, _, _, _, _, _, _, _, _, _, _, _, rfl⟩ := h.tables
    rfl
  | approval h =>
    obtain ⟨_, _, _, _, _, hdb⟩ := h.tables
    exact .of_tables hdb rfl

theorem Durables.sameSurfaces {e e' : Engine} (h : Durables env e e') : SameSurfaces e e' := by
  induction h with
  | refl => rfl
  | tail _ hstep ih => exact hstep.sameSurfaces.trans ih

/-- Approvals of which some are deactivated. -/
def Deactivates (approvals approvals' : Table Digest32 ApprovalRow) : Prop :=
  ∀ id row', approvals'.get? id = some row' → ∃ row, approvals.get? id = some row ∧
    (row' = row ∨ row' = { row with active := false })

theorem Deactivates.refl (approvals : Table Digest32 ApprovalRow) :
    Deactivates approvals approvals := fun _ row h => ⟨row, h, .inl rfl⟩

theorem Deactivates.trans {t t' t'' : Table Digest32 ApprovalRow} (h : Deactivates t t')
    (h' : Deactivates t' t'') : Deactivates t t'' := by
  intro id row'' hrow''
  obtain ⟨row', hrow', heq'⟩ := h' id row'' hrow''
  obtain ⟨row, hrow, heq⟩ := h id row' hrow'
  refine ⟨row, hrow, ?_⟩
  rcases heq' with rfl | rfl
  · exact heq
  · rcases heq with rfl | rfl
    · exact .inr rfl
    · exact .inr rfl

theorem Deactivates.modify (t : Table Digest32 ApprovalRow) (p : Digest32 → ApprovalRow → Bool) :
    Deactivates t (t.modify p ({ · with active := false })) := by
  intro id row' hrow'
  rw [Table.get?_modify] at hrow'
  obtain ⟨row, hrow, heq⟩ := Option.map_eq_some_iff.mp hrow'
  refine ⟨row, hrow, ?_⟩
  split at heq
  · exact .inr heq.symm
  · exact .inl heq.symm

/-- What a revocation writes: deactivated approvals, tombstones, the epoch of a wallet and its own
operation. -/
def Revokes (db db' : Db) : Prop :=
  ∃ approvals approvalTombstones walletState walletTombstones revocationOperations journal,
    Deactivates db.approvals approvals ∧ db' = { db with
      approvals, approvalTombstones, walletState, walletTombstones, revocationOperations, journal }

theorem storeRevocationOperation_tables {crypto : Crypto} {db db' : Db}
    (h : storeRevocationOperation crypto db op w digest result = .ok db') :
    ∃ revocationOperations, db' = { db with revocationOperations } := by
  obtain ⟨revocationOperations, -, h⟩ := bind_eq_ok.mp h
  cases h
  exact ⟨_, rfl⟩

theorem revokeApprovalBody_revokes {crypto : Crypto} {config : Config} {serde : Serde}
    {keys : Audit.AuditKeyState} {request : RevokeApproval} {db db' : Db}
    (h : revokeApprovalBody crypto config serde keys request db = .ok (.commit db' r)) :
    Revokes db db' := by
  obtain ⟨stored, -, h⟩ := bind_eq_ok.mp h
  cases stored with
  | some result => cases h
  | none =>
    obtain ⟨approval, -, h⟩ := bind_eq_ok.mp h
    split at h
    · obtain ⟨db₁, hstore, h⟩ := bind_eq_ok.mp h
      obtain ⟨db₂, haudit, h⟩ := bind_eq_ok.mp h
      cases h
      obtain ⟨journal, rfl⟩ := appendAudit_eq_ok haudit
      obtain ⟨operations, rfl⟩ := storeRevocationOperation_tables hstore
      exact ⟨_, _, _, _, operations, journal, .refl _, rfl⟩
    · obtain ⟨db₁, hstore, h⟩ := bind_eq_ok.mp h
      obtain ⟨db₂, haudit, h⟩ := bind_eq_ok.mp h
      cases h
      obtain ⟨journal, rfl⟩ := appendAudit_eq_ok haudit
      obtain ⟨operations, rfl⟩ := storeRevocationOperation_tables hstore
      have hdeactivates : Deactivates db.approvals (db.deactivate (request.tombstone crypto config
          approval.walletId (walletEpoch db approval.walletId))).approvals := .modify _ _
      exact ⟨_, _, _, _, operations, journal, hdeactivates, rfl⟩

theorem revokeAllBody_revokes {crypto : Crypto} {config : Config} {serde : Serde}
    {keys : Audit.AuditKeyState} {request : RevokeAll} {db db' : Db}
    (h : revokeAllBody crypto config serde keys request db = .ok (.commit db' r)) :
    Revokes db db' := by
  obtain ⟨stored, -, h⟩ := bind_eq_ok.mp h
  cases stored with
  | some result => cases h
  | none =>
    obtain ⟨epoch, -, h⟩ := bind_eq_ok.mp h
    obtain ⟨db₁, hstore, h⟩ := bind_eq_ok.mp h
    obtain ⟨db₂, haudit, h⟩ := bind_eq_ok.mp h
    cases h
    obtain ⟨journal, rfl⟩ := appendAudit_eq_ok haudit
    obtain ⟨operations, rfl⟩ := storeRevocationOperation_tables hstore
    have hdeactivates : Deactivates db.approvals
        (db.revokeWallet (request.tombstone crypto config epoch)).approvals := .modify _ _
    exact ⟨_, _, _, _, operations, journal, hdeactivates, rfl⟩

theorem Revokes.surfaces {db db' : Db} (h : Revokes db db') :
    db'.surfaceState = db.surfaceState := by
  obtain ⟨_, _, _, _, _, _, -, rfl⟩ := h
  rfl

theorem restoreBackupBody_surfaces {crypto : Crypto} {serde : BackupSerde}
    {keys : Audit.AuditKeyState} {backup : SignerBackupSet} {db db' : Db}
    (h : restoreBackupBody crypto serde keys backup db = .ok (.commit db' r)) :
    db'.surfaceState = db.surfaceState := by
  obtain ⟨db₁, hjournal, h⟩ := bind_eq_ok.mp h
  obtain ⟨db₂, hauthority, h⟩ := bind_eq_ok.mp h
  obtain ⟨db₃, hkeys, h⟩ := bind_eq_ok.mp h
  obtain ⟨db₄, hoperations, h⟩ := bind_eq_ok.mp h
  obtain ⟨db₅, haudit, h⟩ := bind_eq_ok.mp h
  cases h
  obtain ⟨_, rfl⟩ := restoreJournal_tables hjournal
  obtain ⟨_, -, hauthority⟩ := bind_eq_ok.mp hauthority
  obtain ⟨_, -, hauthority⟩ := bind_eq_ok.mp hauthority
  obtain ⟨_, -, hauthority⟩ := bind_eq_ok.mp hauthority
  obtain ⟨_, -, hauthority⟩ := bind_eq_ok.mp hauthority
  obtain ⟨_, -, hauthority⟩ := bind_eq_ok.mp hauthority
  obtain ⟨_, -, hauthority⟩ := bind_eq_ok.mp hauthority
  cases hauthority
  obtain ⟨_, _, _, _, _, _, _, rfl⟩ := restoreKeys_tables hkeys
  obtain ⟨_, -, hoperations⟩ := bind_eq_ok.mp hoperations
  obtain ⟨_, -, hoperations⟩ := bind_eq_ok.mp hoperations
  obtain ⟨_, -, hoperations⟩ := bind_eq_ok.mp hoperations
  cases hoperations
  obtain ⟨_, rfl⟩ := appendAudit_eq_ok haudit
  rfl

theorem engineStep_sameSurfaces (env : Environment) (e : Engine) (call : EngineCall) :
    SameSurfaces e (engineStep env e call) := by
  cases call with
  | enrollKey keyRef =>
    obtain ⟨_, _, hdb⟩ := @enrollKey_tables env.crypto env.aead env.derive keyRef e
    exact .of_tables hdb rfl
  | enrollWalletRootKey walletId keyRef =>
    obtain ⟨_, _, hdb⟩ := @enrollWalletRootKey_tables env.crypto env.aead env.derive
      walletId keyRef e
    exact .of_tables hdb rfl
  | commitCustody commit =>
    rw [engineStep]
    rcases commitCustodySnapshot_cases env.crypto env.enrollments commit e with
      ⟨db, hcommitted, hrun⟩ | ⟨f, e', hrun, rfl | rfl⟩
    · rw [hrun]
      obtain ⟨_, _, _, _, _, _, _, _, _, _, _, _, rfl⟩ := hcommitted.tables
      rfl
    · rw [hrun]; rfl
    · rw [hrun]; rfl
  | refreshBackendEnrollment walletId keyRef =>
    obtain ⟨_, hdb⟩ := refreshBackendEnrollment_tables walletId keyRef e
    exact .of_tables hdb rfl
  | account call =>
    obtain ⟨_, _, _, hdb⟩ := accountCall_tables env.crypto env.derive e call
    exact .of_tables hdb rfl
  | sign call =>
    obtain ⟨_, _, _, _, _, _, _, _, hdb⟩ := @signStep_tables env.crypto env.config e call
    exact .of_tables hdb rfl
  | revokeApproval request =>
    exact precheck_rel (R := fun db db' : Db => db'.surfaceState = db.surfaceState) rfl fun _ _ =>
      mutation_rel (R := fun db db' : Db => db'.surfaceState = db.surfaceState) rfl fun _ _ h =>
        (revokeApprovalBody_revokes h).surfaces
  | revokeAll request =>
    exact mutation_rel (R := fun db db' : Db => db'.surfaceState = db.surfaceState) rfl fun _ _ h =>
      (revokeAllBody_revokes h).surfaces

theorem SameSurfaces.assignment {s s' : Service} (h : SameSurfaces s.engine s'.engine) :
    SameAssignment (s.surfaceStatus env) (s'.surfaceStatus env) := by
  unfold Service.surfaceStatus loadSurfaceStatus
  rw [h]
  exact .refl _

/-- What a call that administers the surfaces leaves, if what it stores is related to what was. -/
theorem Administered.status_rel {Q : SurfaceStatus → Prop} {s' : Service}
    {R : SurfaceStatus → SurfaceStatus → Prop} (h : Administered Q s s') (hrefl : ∀ st, R st st)
    (hQ : ∀ next, Q next → R (s.surfaceStatus env) next) :
    R (s.surfaceStatus env) (s'.surfaceStatus env) := by
  cases h with
  | same => exact hrefl _
  | degraded => exact hrefl _
  | stored journal h _ _ => exact hQ _ h

theorem reopened_sameAssignment (compiled : Backends) (t : Nat) :
    SameAssignment (s.surfaceStatus env) ((s.reopened env compiled t).surfaceStatus env) := by
  obtain ⟨hwork, hengine⟩ := startService_work env t (s.engine.reopen env compiled)
  obtain ⟨_, _, hdb⟩ := reopen_tables env compiled s.engine
  have hreopened : SameSurfaces s.engine (s.engine.reopen env compiled) := .of_tables hdb rfl
  have hstarted : SameSurfaces s.engine (startService env t (s.engine.reopen env compiled)).2 :=
    (Durable.work hwork : Durable env _ _).sameSurfaces.trans hreopened
  unfold Service.reopened
  split
  · next s' e' hstart =>
    rw [hstart] at hstarted hengine
    have hsame : SameSurfaces s.engine s'.engine := (hengine s' rfl).symm ▸ hstarted
    exact hsame.assignment.trans ((administered_fenceRemoteSurface s').status_rel .refl
      fun _ => Reports.sameAssignment)
  · next hstart =>
    rw [hstart] at hstarted
    exact hstarted.assignment

def SignerCall.installs : SignerCall → Bool
  | .installRemoteSurface .. => true
  | _ => false

/-- Every other call leaves the assignment as it is. -/
theorem signerStep_sameAssignment (s : Service) (call : SignerCall) (h : call.installs = false) :
    SameAssignment (s.surfaceStatus env) ((signerStep env s call).surfaceStatus env) := by
  cases call with
  | installRemoteSurface hostname installationId adminKey t => cases h
  | ceremony sys call => exact (dispatch_durables call s).sameSurfaces.assignment
  | engine call =>
    exact SameSurfaces.assignment (engineStep_sameSurfaces env.toEnvironment s.engine call)
  | restoreBackup backup =>
    have hsame : SameSurfaces s.engine
        (restoreBackup env.crypto env.config env.serde.toBackupSerde s.engine backup).2 :=
      precheck_rel (R := fun db db' : Db => db'.surfaceState = db.surfaceState) rfl fun _ _ =>
        mutation_rel (R := fun db db' : Db => db'.surfaceState = db.surfaceState) rfl fun _ _ =>
          restoreBackupBody_surfaces
    exact SameSurfaces.assignment hsame
  | exportWalletBackup walletId =>
    obtain ⟨journal, hdb⟩ := exportWalletBackup_journal env.serde env.crypto s.engine walletId
    exact SameSurfaces.assignment (.of_tables hdb rfl)
  | compareAndSwapPolicy request =>
    obtain ⟨_, _, _, _, hdb⟩ := @compareAndSwapPolicy_tables env.crypto request s.engine
    exact SameSurfaces.assignment (.of_tables hdb rfl)
  | rotateAuditKey newKeyId newSigningKey =>
    have hsame : SameSurfaces s.engine
        (rotateAuditKey env.crypto newKeyId newSigningKey s.engine).2 := by
      unfold rotateAuditKey
      split
      · rfl
      split
      · rfl
      · next f _ => cases f <;> rfl
    exact hsame.assignment
  | latchAuditDegraded => exact SameSurfaces.assignment rfl
  | reportEffective report =>
    rw [signerStep]
    exact (administered_reportEffective report s).status_rel .refl fun _ => Reports.sameAssignment
  | setExposureMode mode =>
    rw [signerStep]
    exact (administered_setExposureMode mode s).status_rel .refl fun _ => Exposes.sameAssignment
  | restart compiled nowMs => exact reopened_sameAssignment compiled nowMs

theorem signerStep_surfacesKept (s : Service) (call : SignerCall) :
    SurfacesKept (s.surfaceStatus env) ((signerStep env s call).surfaceStatus env) := by
  cases call with
  | installRemoteSurface hostname installationId adminKey t =>
    rw [signerStep]
    exact (installRemoteSurface_assigns hostname installationId adminKey t s).status_rel .refl
      fun _ => Assigns.surfacesKept
  | _ => exact (signerStep_sameAssignment s _ rfl).kept

/-- Over every run, restores and restarts included, the relay assignment is written once: the
installation and its administrator stay, and every surface keeps its identity and its place. -/
theorem assignment_written_once (env : ServiceEnvironment) (s : Service)
    (calls : List SignerCall) :
    SurfacesKept (s.surfaceStatus env) ((run (signerStep env) s calls).surfaceStatus env) :=
  run_rel (R := fun s s' : Service => SurfacesKept (s.surfaceStatus env) (s'.surfaceStatus env))
    (fun _ => .refl _) (fun _ _ _ => .trans) signerStep_surfacesKept s calls

end

end BloomSigner
