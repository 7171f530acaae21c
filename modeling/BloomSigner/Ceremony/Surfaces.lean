import BloomSigner.Ceremony.Durable
import BloomSigner.Engine.EngineTables

/-! # The surfaces of the Signer

The administration of the surfaces: installing the remote one, the exposure an administrator wants,
and the exposure the Broker reports. -/

namespace BloomSigner

open Lib Lib.Program

/-! ## Identities -/

def invalidSurface : Failure := error .malformedFrame "unsupported ceremony surface identity"

/-- A label of 26 base-32 digits under the relay domain. -/
def validateRemoteHostname (hostname : String) : Except Failure Unit := do
  let label ← okOr (stripSuffixChars hostname.toList ".relay.bloom.directory".toList)
    invalidSurface
  reject (label.length ≠ 26 ∨ ¬(label.all fun c => c.isLower || '2' ≤ c && c ≤ '7') ∨
      64 < hostname.utf8ByteSize)
    invalidSurface

/-- A relay hostname is a lowercase DNS name, so `RpId::new` takes it. -/
def SurfaceIdentity.remote (hostname : String) (createdAtMs : Nat) :
    Except Failure SurfaceIdentity := do
  validateRemoteHostname hostname
  return {
    schema := ⟨"bloom.surface.identity.v1"⟩
    surfaceId := ⟨"remote"⟩
    origin := "https://" ++ hostname
    rpId := ⟨hostname⟩
    createdAtMs }

def SurfaceIdentity.validate (identity : SurfaceIdentity) : Except Failure Unit := do
  reject (identity.schema.asStr ≠ "bloom.surface.identity.v1") invalidSurface
  if identity.surfaceId.asStr = "local" then
    reject (identity.origin ≠ "http://localhost:18734" ∨ identity.rpId.asStr ≠ "localhost")
      invalidSurface
  else if identity.surfaceId.asStr = "remote" then do
    let hostname ← okOr (stripPrefixChars identity.origin.toList "https://".toList) invalidSurface
    validateRemoteHostname (String.ofList hostname)
    reject (identity.rpId.asStr ≠ String.ofList hostname) invalidSurface
  else .error invalidSurface

def SurfaceIdentity.json (identity : SurfaceIdentity) : Json := .obj [
  ("schema", identity.schema.json),
  ("surface_id", identity.surfaceId.json),
  ("origin", .str identity.origin),
  ("rp_id", identity.rpId.json),
  ("created_at_ms", decimalJson identity.createdAtMs)]

section
variable (crypto : Crypto)

def SurfaceIdentity.reference (identity : SurfaceIdentity) : Except Failure SurfaceRef := do
  identity.validate
  return {
    surfaceId := identity.surfaceId
    identityDigest := crypto.sha256
      (utf8 "bloom.surface.identity.v1\x00" ++ utf8 (crypto.jcs identity.json)) }

def SurfaceDescriptor.validate (descriptor : SurfaceDescriptor) : Except Failure Unit := do
  let reference ← descriptor.identity.reference crypto
  reject (reference.identityDigest ≠ descriptor.identityDigest) invalidSurface

end

/-- The local surface is the one legacy wallets migrate to. -/
theorem localhost_reference (crypto : Crypto) :
    SurfaceIdentity.localhost.reference crypto = .ok (legacyLocalSurface crypto) := rfl

/-! ## The stored status -/

/-- The wallets with a state and no tombstone. -/
def activeWalletIds (db : Db) : List Token :=
  (orderBy (·.1.asStr) (db.walletState.select fun w _ =>
    (db.walletTombstones.get? w).isNone)).map (·.1)

def SurfaceStatus.auditJson (status : SurfaceStatus) : Json := .obj [
  ("desired_mode", .str status.desiredMode.asStr),
  ("desired_revision", decimalJson status.desiredRevision),
  ("effective_mode", .str status.effectiveMode.asStr),
  ("effective_revision", decimalJson status.effectiveRevision),
  ("installation_id", optionJson .str status.installationId),
  ("installation_admin_key_sha256", optionJson Digest32.json status.installationAdminKeySha256),
  ("surface_digests", listJson (·.identityDigest.json) status.surfaces)]

def commitSurfaceStatusBody (crypto : Crypto) (keys : Audit.AuditKeyState)
    (expected : Option SurfaceStatus) (next : SurfaceStatus) (event : String) (db : Db) :
    Except Failure (Outcome Unit) := do
  reject (db.surfaceState ≠ expected)
    (error .operationIdConflict "surface state changed during administration")
  let _ ← next.surfaces.mapM (·.validate crypto)
  let db ← Db.appendAudit crypto { db with surfaceState := some next } keys event next.auditJson
  return .commit db ()

def commitSurfaceStatus (crypto : Crypto) (expected : Option SurfaceStatus)
    (next : SurfaceStatus) (event : String) : EngineM Unit := fun e =>
  mutation crypto e (commitSurfaceStatusBody crypto e.auditKeys expected next event)

/-! ## Administration -/

def SurfaceDescriptor.isRemote (descriptor : SurfaceDescriptor) : Bool :=
  descriptor.identity.surfaceId.asStr = "remote"

/-- A change of the remote surface, where one is installed. -/
def SurfaceStatus.mapRemote (f : SurfaceDescriptor → SurfaceDescriptor) (status : SurfaceStatus) :
    SurfaceStatus :=
  { status with surfaces :=
      status.surfaces.modify (status.surfaces.findIdx SurfaceDescriptor.isRemote) f }

/-- Another lifecycle, at the next revision. -/
def SurfaceDescriptor.enter (lifecycle : SurfaceLifecycle) (descriptor : SurfaceDescriptor) :
    SurfaceDescriptor :=
  { descriptor with
    lifecycle, lifecycleRevision := (descriptor.lifecycleRevision + 1) % 2 ^ 64 }

structure SurfaceEffectiveReport where
  desiredRevision : Nat
  remoteTlsReady : Bool
  remoteRoutingReady : Bool
  remoteClosed : Bool

section
variable (env : ServiceEnvironment)

def Service.surfaceStatus (s : Service) : SurfaceStatus :=
  loadSurfaceStatus env.crypto s.engine.db

/-- The commit of a status computed from the stored one. -/
def commitSurface (next : SurfaceStatus) (event : String) : ServiceM SurfaceStatus := do
  let persisted ← .read (·.engine.db.surfaceState)
  onEngine (commitSurfaceStatus env.crypto persisted next event)
  return next

def installRemoteSurface (hostname installationId : String) (adminKeySha256 : Digest32)
    (createdAtMs : Nat) : ServiceM SurfaceStatus := do
  let current ← .read (·.surfaceStatus env)
  let remoteIdentity ← SurfaceIdentity.remote hostname createdAtMs
  match current.surfaces.find? SurfaceDescriptor.isRemote with
  | some existing => do
    reject (existing.identity.origin ≠ remoteIdentity.origin ∨
        current.installationId ≠ some installationId ∨
        current.installationAdminKeySha256 ≠ some adminKeySha256) operationConflict
    return current
  | none => do
    reject (current.installationId.isSome ∨ current.installationAdminKeySha256.isSome)
      operationConflict
    let reference ← remoteIdentity.reference env.crypto
    commitSurface env { current with
      surfaces := current.surfaces ++ [⟨remoteIdentity, reference.identityDigest, .disabled, 0⟩]
      installationId := some installationId
      installationAdminKeySha256 := some adminKeySha256 } "surface.install"

/-- The effective mode a report leads to, before its revision and readiness are noted. -/
def SurfaceStatus.reported (current : SurfaceStatus) (report : SurfaceEffectiveReport) :
    Except Failure SurfaceStatus :=
  match current.desiredMode with
  | .remoteEnabled =>
    if report.remoteClosed ∨ report.remoteTlsReady = false ∨ report.remoteRoutingReady = false then
      .ok { current.mapRemote (fun d => if d.lifecycle = .disabled then d else d.enter .disabled)
        with effectiveMode := .localhostOnly }
    else do
      let remote ← okOr (current.surfaces.find? SurfaceDescriptor.isRemote)
        (error .serviceUnavailable "remote surface is not provisioned")
      reject (remote.lifecycle = .tombstoned)
        (error .unauthenticatedPeer "remote surface is retired")
      return { current.mapRemote (fun d => if d.lifecycle = .active then d else d.enter .active)
        with effectiveMode := .remoteEnabled }
  | .localhostOnly => do
    reject (report.remoteClosed = false)
      (error .serviceUnavailable "remote listener and tunnel closure is not acknowledged")
    return { current.mapRemote (fun d =>
        if current.effectiveMode = .localhostOnly then { d with lifecycle := .disabled }
        else d.enter .disabled)
      with effectiveMode := .localhostOnly }

def reportEffective (report : SurfaceEffectiveReport) : ServiceM SurfaceStatus := do
  let current ← .read (·.surfaceStatus env)
  reject (report.desiredRevision ≠ current.desiredRevision) operationConflict
  let next ← current.reported report
  let next := { next with
    effectiveRevision := next.desiredRevision
    remoteTlsReady := report.remoteTlsReady
    remoteRoutingReady := report.remoteRoutingReady }
  if next = current then return next
  else commitSurface env next "surface.effective"

namespace Service

/-- A wallet one of whose passkeys is on the local surface. -/
def hasLocalCredential (s : Service) (walletId : Token) : Bool :=
  s.credentials.rows.any fun r =>
    r.2.walletId = walletId && r.2.credential.surface = legacyLocalSurface env.crypto

/-- The wallets that hold localhost-only mode up. -/
def blockedWallets (s : Service) : List Token :=
  (activeWalletIds s.engine.db).filter fun w => !s.hasLocalCredential env w

/-- The checks of a mode, with the surfaces it begins with. -/
def admitExposure (s : Service) : ExposureMode → Except Failure SurfaceStatus
  | .localhostOnly => do
    reject (s.blockedWallets env ≠ []) (error .approvalRearmRequired
      ("enroll local credentials before disabling remote access: " ++
        ", ".intercalate ((s.blockedWallets env).map (·.asStr))))
    return (s.surfaceStatus env).mapRemote (·.enter .disabled)
  | .remoteEnabled => do
    reject (¬(s.surfaceStatus env).surfaces.any fun d => d.isRemote ∧ d.lifecycle ≠ .tombstoned)
      (error .serviceUnavailable "relay assignment and remote surface are not provisioned")
    return s.surfaceStatus env

end Service

def setExposureMode (mode : ExposureMode) : ServiceM SurfaceStatus := do
  let s ← .read id
  let current := s.surfaceStatus env
  if current.desiredMode = mode then return current
  else do
    let next ← s.admitExposure env mode
    commitSurface env { next with
      desiredMode := mode
      desiredRevision := (current.desiredRevision + 1) % 2 ^ 64
      remoteTlsReady := false
      remoteRoutingReady := false } "surface.desired"

/-- A new process fences the remote surface before it serves a call. -/
def fenceRemoteSurface : ServiceM Unit := do
  let status ← .read (·.surfaceStatus env)
  if status.effectiveMode = .remoteEnabled ∨ status.remoteTlsReady ∨ status.remoteRoutingReady then
    ignore (reportEffective env ⟨status.desiredRevision, false, false, true⟩)
  else return ()

end

/-! ## What they store -/

/-- How a call that administers the surfaces leaves the service: as it was, degraded, or with a next
status that `Q` holds of, stored together with its entry in the journal. -/
inductive Administered (Q : SurfaceStatus → Prop) (s : Service) : Service → Prop where
  | same : Administered Q s s
  | degraded : Administered Q s { s with engine := { s.engine with auditDegraded := true } }
  | stored {next : SurfaceStatus} (journal : Audit.Journal) (h : Q next)
      (hroom : s.engine.db.journal.chain.rows.length < 2 ^ 63)
      (hlength : journal.chain.rows.length = s.engine.db.journal.chain.rows.length + 1) :
      Administered Q s { s with engine := { s.engine with
        db := { s.engine.db with surfaceState := some next, journal } } }

section
variable {env : ServiceEnvironment} {Q : SurfaceStatus → Prop}

theorem commitSurfaceStatusBody_eq_ok {keys : Audit.AuditKeyState} {db : Db}
    {outcome : Outcome Unit}
    (h : commitSurfaceStatusBody crypto keys expected next event db = .ok outcome) :
    ∃ journal, outcome = .commit { db with surfaceState := some next, journal } () ∧
      db.journal.chain.rows.length < 2 ^ 63 ∧
      journal.chain.rows.length = db.journal.chain.rows.length + 1 := by
  obtain ⟨_, -, h⟩ := bind_eq_ok.mp h
  obtain ⟨_, -, h⟩ := bind_eq_ok.mp h
  obtain ⟨db₁, haudit, h⟩ := bind_eq_ok.mp h
  cases h
  obtain ⟨journal, happ, hdb⟩ := bind_eq_ok.mp haudit
  cases hdb
  obtain ⟨st, hacc, hseq, -⟩ := Audit.appendAuditEntry_ok (Audit.appendAudit_eq_ok.mp happ)
  exact ⟨journal, rfl, hacc.sequence ▸ hseq, appendAudit_length happ⟩

/-- A commit stores its status and answers with it, or fails. -/
theorem commitSurface_cases (env : ServiceEnvironment) (next : SurfaceStatus) (event : String)
    (s : Service) :
    ((commitSurface env next event s).1 = .ok next ∧ ∃ journal,
      s.engine.db.journal.chain.rows.length < 2 ^ 63 ∧
      journal.chain.rows.length = s.engine.db.journal.chain.rows.length + 1 ∧
      (commitSurface env next event s).2 = { s with engine := { s.engine with
        db := { s.engine.db with surfaceState := some next, journal } } }) ∨
    (∃ f, (commitSurface env next event s).1 = .error f) ∧
      ((commitSurface env next event s).2 = s ∨ (commitSurface env next event s).2 =
        { s with engine := { s.engine with auditDegraded := true } }) := by
  unfold commitSurface
  rw [read_bind]
  have hcommit : ∀ r e', mutation env.crypto s.engine (commitSurfaceStatusBody env.crypto
      s.engine.auditKeys s.engine.db.surfaceState next event) = (r, e') →
      onEngine (commitSurfaceStatus env.crypto s.engine.db.surfaceState next event) s =
        (r, { s with engine := e' }) := by
    intro r e' heq
    rw [onEngine, commitSurfaceStatus, heq]
  obtain ⟨db, _, hbody, heq⟩ | ⟨_, hbody, heq⟩ | ⟨f, e', heq, he'⟩ :=
    mutation_outcome env.crypto s.engine
      (commitSurfaceStatusBody env.crypto s.engine.auditKeys s.engine.db.surfaceState next event)
  · obtain ⟨journal, hdb, hroom, hlength⟩ := commitSurfaceStatusBody_eq_ok hbody
    cases hdb
    rw [bind_of_ok (hcommit _ _ heq)]
    exact .inl ⟨rfl, journal, hroom, hlength, rfl⟩
  · obtain ⟨journal, hdb, -⟩ := commitSurfaceStatusBody_eq_ok hbody
    cases hdb
  · rw [bind_of_error (hcommit _ _ heq)]
    rcases he' with rfl | rfl
    · exact .inr ⟨⟨f, rfl⟩, .inl rfl⟩
    · exact .inr ⟨⟨f, rfl⟩, .inr rfl⟩

theorem administered_commitSurface {next : SurfaceStatus} (h : Q next) (event : String)
    (s : Service) : Administered Q s (commitSurface env next event s).2 := by
  rcases commitSurface_cases env next event s with
    ⟨-, journal, hroom, hlength, hrun⟩ | ⟨-, hrun | hrun⟩
  · rw [hrun]; exact .stored journal h hroom hlength
  · rw [hrun]; exact .same
  · rw [hrun]; exact .degraded

/-- The remote surface as it is installed. -/
def Installs (current next : SurfaceStatus) : Prop :=
  current.surfaces.find? SurfaceDescriptor.isRemote = none ∧
    ∃ descriptor id key, descriptor.isRemote ∧ descriptor.lifecycle = .disabled ∧
      descriptor.lifecycleRevision = 0 ∧ next = { current with
        surfaces := current.surfaces ++ [descriptor]
        installationId := id
        installationAdminKeySha256 := key }

theorem administered_installRemoteSurface (hostname installationId : String) (adminKey : Digest32)
    (t : Nat) (s : Service) : Administered (Installs (s.surfaceStatus env)) s
      (installRemoteSurface env hostname installationId adminKey t s).2 := by
  unfold installRemoteSurface
  rw [read_bind]
  cases hidentity : SurfaceIdentity.remote hostname t with
  | error f => rw [lift_bind_error rfl]; exact .same
  | ok identity =>
    rw [lift_bind_ok rfl]
    have hremote : identity.surfaceId.asStr = "remote" := by
      obtain ⟨_, -, hidentity⟩ := bind_eq_ok.mp hidentity
      cases hidentity
      rfl
    cases hfound : (s.surfaceStatus env).surfaces.find? SurfaceDescriptor.isRemote with
    | some existing =>
      dsimp only
      cases hcheck : reject (existing.identity.origin ≠ identity.origin ∨
          (s.surfaceStatus env).installationId ≠ some installationId ∨
          (s.surfaceStatus env).installationAdminKeySha256 ≠ some adminKey) operationConflict with
      | error f => rw [lift_bind_error rfl]; exact .same
      | ok u => rw [lift_bind_ok rfl]; exact .same
    | none =>
      dsimp only
      cases hcheck : reject ((s.surfaceStatus env).installationId.isSome ∨
          (s.surfaceStatus env).installationAdminKeySha256.isSome) operationConflict with
      | error f => rw [lift_bind_error rfl]; exact .same
      | ok u =>
        rw [lift_bind_ok rfl]
        cases hreference : identity.reference env.crypto with
        | error f => rw [lift_bind_error rfl]; exact .same
        | ok reference =>
          rw [lift_bind_ok rfl]
          exact administered_commitSurface ⟨hfound, _, _, _, decide_eq_true hremote, rfl, rfl, rfl⟩
            _ s

/-- The status a report leads to. -/
def Reports (report : SurfaceEffectiveReport) (current next : SurfaceStatus) : Prop :=
  report.desiredRevision = current.desiredRevision ∧ ∃ reported,
    current.reported report = .ok reported ∧ next = { reported with
      effectiveRevision := reported.desiredRevision
      remoteTlsReady := report.remoteTlsReady
      remoteRoutingReady := report.remoteRoutingReady }

theorem administered_reportEffective (report : SurfaceEffectiveReport) (s : Service) :
    Administered (Reports report (s.surfaceStatus env)) s (reportEffective env report s).2 := by
  unfold reportEffective
  rw [read_bind]
  cases hcheck : reject (report.desiredRevision ≠ (s.surfaceStatus env).desiredRevision)
      operationConflict with
  | error f => rw [lift_bind_error rfl]; exact .same
  | ok u =>
    rw [lift_bind_ok rfl]
    have hrevision : report.desiredRevision = (s.surfaceStatus env).desiredRevision := by
      simpa using reject_eq_ok.mp hcheck
    cases hreported : (s.surfaceStatus env).reported report with
    | error f => rw [lift_bind_error rfl]; exact .same
    | ok reported =>
      rw [lift_bind_ok rfl]
      split
      · exact .same
      · exact administered_commitSurface ⟨hrevision, reported, hreported, rfl⟩ _ s

/-- The status another mode begins with. -/
def Exposes (env : ServiceEnvironment) (s : Service) (mode : ExposureMode) (next : SurfaceStatus) :
    Prop :=
  (s.surfaceStatus env).desiredMode ≠ mode ∧ ∃ admitted, s.admitExposure env mode = .ok admitted ∧
    next = { admitted with
      desiredMode := mode
      desiredRevision := ((s.surfaceStatus env).desiredRevision + 1) % 2 ^ 64
      remoteTlsReady := false
      remoteRoutingReady := false }

theorem administered_setExposureMode (mode : ExposureMode) (s : Service) :
    Administered (Exposes env s mode) s (setExposureMode env mode s).2 := by
  unfold setExposureMode
  rw [read_bind]
  dsimp only [id]
  split
  · exact .same
  · next hmode =>
    cases hadmitted : s.admitExposure env mode with
    | error f => rw [lift_bind_error rfl]; exact .same
    | ok admitted =>
      rw [lift_bind_ok rfl]
      exact administered_commitSurface ⟨hmode, admitted, hadmitted, rfl⟩ _ s

/-- The report of a process that starts. -/
def fencing (status : SurfaceStatus) : SurfaceEffectiveReport :=
  ⟨status.desiredRevision, false, false, true⟩

theorem administered_fenceRemoteSurface (s : Service) :
    Administered (Reports (fencing (s.surfaceStatus env)) (s.surfaceStatus env)) s
      (fenceRemoteSurface env s).2 := by
  unfold fenceRemoteSurface
  rw [read_bind]
  split
  · change Administered _ s (ignore (reportEffective env (fencing (s.surfaceStatus env))) s).2
    rw [ignore_snd]
    exact administered_reportEffective _ s
  · exact .same

end

end BloomSigner
