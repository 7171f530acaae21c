import BloomSigner.Ceremony.Replay
import BloomSigner.Ceremony.Surfaces

/-! # Runs of the Signer

Every call that changes a Signer, as a step of one process: ceremonies, the calls of the engine,
backups, policies, audit keys, surfaces and restarts. A relation of engines that each kind of change
respects relates the engines at both ends of a run. -/

namespace BloomSigner

open Lib Lib.Program

/-- `SignerEngine::rotate_audit_key`. -/
def rotateAuditKey (crypto : Crypto) (newKeyId : Token) (newSigningKey : SigningKey) :
    EngineM Unit := fun e =>
  if e.auditDegraded then (.error auditDegradedError, e)
  else
    match Audit.rotateAuditKey crypto e.auditKeys e.db.journal newKeyId newSigningKey with
    | .ok (auditKeys, journal) => (.ok (), { e with auditKeys, db := { e.db with journal } })
    | .error f => (.error f, e.fail f)

inductive SignerCall where
  | ceremony (sys : CallSystem) (call : CeremonyCall)
  | engine (call : EngineCall)
  | restoreBackup (backup : SignerBackupSet)
  | exportWalletBackup (walletId : Token)
  | compareAndSwapPolicy (request : PolicyCompareAndSwapRequest)
  | rotateAuditKey (newKeyId : Token) (newSigningKey : SigningKey)
  | latchAuditDegraded
  | installRemoteSurface (hostname installationId : String) (adminKeySha256 : Digest32)
      (createdAtMs : Nat)
  | reportEffective (report : SurfaceEffectiveReport)
  | setExposureMode (mode : ExposureMode)
  | restart (compiled : Backends) (nowMs : Nat)

section
variable (env : ServiceEnvironment)

/-- A call that goes to the engine of the service. -/
def Service.withEngine (s : Service) (f : Engine → Engine) : Service := { s with engine := f s.engine }

/-- A new process: one that does not start leaves what it wrote. -/
def Service.reopened (compiled : Backends) (nowMs : Nat) (s : Service) : Service :=
  match startService env nowMs (s.engine.reopen env compiled) with
  | (.ok s', _) => (fenceRemoteSurface env s').2
  | (.error _, e) => { engine := e }

/-- The Signer after a call, whatever it answered. -/
def signerStep (s : Service) : SignerCall → Service
  | .ceremony sys call => (dispatch env sys call s).2
  | .engine call => s.withEngine fun e => engineStep env.toEnvironment e call
  | .restoreBackup backup => s.withEngine fun e =>
    (restoreBackup env.crypto env.config env.serde.toBackupSerde e backup).2
  | .exportWalletBackup walletId => s.withEngine fun e =>
    (exportWalletBackup env.serde env.crypto e walletId).2
  | .compareAndSwapPolicy request => s.withEngine fun e =>
    (compareAndSwapPolicy env.crypto e request).2
  | .rotateAuditKey newKeyId newSigningKey => s.withEngine fun e =>
    (rotateAuditKey env.crypto newKeyId newSigningKey e).2
  | .latchAuditDegraded => s.withEngine fun e => { e with auditDegraded := true }
  | .installRemoteSurface hostname installationId adminKey createdAtMs =>
    (installRemoteSurface env hostname installationId adminKey createdAtMs s).2
  | .reportEffective report => (reportEffective env report s).2
  | .setExposureMode mode => (setExposureMode env mode s).2
  | .restart compiled nowMs => s.reopened env compiled nowMs

/-- A relation that every change of an engine respects. -/
structure Respected (R : Engine → Engine → Prop) : Prop where
  refl : ∀ e, R e e
  trans : ∀ e₁ e₂ e₃, R e₁ e₂ → R e₂ e₃ → R e₁ e₃
  durable : Durable env e e' → R e e'
  administered : ∀ (e : Engine) status journal,
    R e { e with db := { e.db with surfaceState := some status, journal } }
  engine : ∀ e call, R e (engineStep env.toEnvironment e call)
  restored : ∀ e backup,
    R e (restoreBackup env.crypto env.config env.serde.toBackupSerde e backup).2
  exported : ∀ e walletId, R e (exportWalletBackup env.serde env.crypto e walletId).2
  swapped : ∀ e request, R e (compareAndSwapPolicy env.crypto e request).2
  rotated : ∀ (e : Engine) keys journal,
    R e { e with auditKeys := keys, db := { e.db with journal } }
  latched : ∀ e : Engine, R e { e with auditDegraded := true }
  reopened : ∀ e compiled, R e (e.reopen env compiled)

end

section
variable {env : ServiceEnvironment} {R : Engine → Engine → Prop} {s : Service}

theorem Respected.durables (hR : Respected env R) (h : Durables env e e') : R e e' := by
  induction h with
  | refl => exact hR.refl e
  | tail _ hstep ih => exact hR.trans _ _ _ ih (hR.durable hstep)

theorem Respected.surface (hR : Respected env R) {Q : SurfaceStatus → Prop} {s' : Service}
    (h : Administered Q s s') : R s.engine s'.engine := by
  cases h with
  | same => exact hR.refl s.engine
  | degraded => exact hR.latched s.engine
  | stored journal _ _ _ => exact hR.administered s.engine _ journal

theorem Respected.rotateAuditKey (hR : Respected env R) (newKeyId : Token)
    (newSigningKey : SigningKey) (e : Engine) :
    R e (rotateAuditKey env.crypto newKeyId newSigningKey e).2 := by
  unfold BloomSigner.rotateAuditKey
  split
  · exact hR.refl e
  split
  · exact hR.rotated e _ _
  · next f _ =>
    cases f with
    | latched cause => exact hR.latched e
    | protocol cause | panic message => exact hR.refl e

/-- Starting works on accounts and backends, and the new service has the engine it started with. -/
theorem startService_work (env : ServiceEnvironment) (t : Nat) (e : Engine) :
    Work env.crypto e (startService env t e).2 ∧
      ∀ s', (startService env t e).1 = .ok s' → s'.engine = (startService env t e).2 := by
  have hwork := work_settleBackends env t e
  unfold startService
  cases hsettle : settleBackends env t e with
  | mk r e₁ =>
    rw [hsettle] at hwork
    cases r with
    | error f =>
      rw [bind_of_error hsettle]
      exact ⟨hwork, fun s' h => by cases h⟩
    | ok u =>
      rw [bind_of_ok hsettle, read_bind]
      dsimp only [id]
      cases hbackups : loadCeremonyCustody e₁.db with
      | error f => rw [lift_bind_error rfl]; exact ⟨hwork, fun s' h => by cases h⟩
      | ok backups =>
        rw [lift_bind_ok rfl]
        cases hcredentials : loadCeremonyCredentials env.ceremonies e₁.db with
        | error f => rw [lift_bind_error rfl]; exact ⟨hwork, fun s' h => by cases h⟩
        | ok credentials =>
          rw [lift_bind_ok rfl]
          cases hwallets : restoredWallets backups with
          | error f => rw [lift_bind_error rfl]; exact ⟨hwork, fun s' h => by cases h⟩
          | ok wallets =>
            rw [lift_bind_ok rfl]
            exact ⟨hwork, fun s' h => by cases h; rfl⟩

theorem Respected.reopenedService (hR : Respected env R) (compiled : Backends) (t : Nat) :
    R s.engine (s.reopened env compiled t).engine := by
  obtain ⟨hwork, hengine⟩ := startService_work env t (s.engine.reopen env compiled)
  have hstarted : R s.engine (startService env t (s.engine.reopen env compiled)).2 :=
    hR.trans _ _ _ (hR.reopened s.engine compiled) (hR.durable (.work hwork))
  unfold Service.reopened
  split
  · next s' e' hstart =>
    rw [hstart] at hstarted hengine
    refine hR.trans _ _ _ hstarted ?_
    rw [← hengine s' rfl]
    exact hR.surface (administered_fenceRemoteSurface s')
  · next hstart =>
    rw [hstart] at hstarted
    exact hstarted

theorem Respected.step (hR : Respected env R) (s : Service) (call : SignerCall) :
    R s.engine (signerStep env s call).engine := by
  cases call with
  | ceremony sys call => exact hR.durables (dispatch_durables call s)
  | engine call => exact hR.engine _ call
  | restoreBackup backup => exact hR.restored _ backup
  | exportWalletBackup walletId => exact hR.exported _ walletId
  | compareAndSwapPolicy request => exact hR.swapped _ request
  | rotateAuditKey newKeyId newSigningKey => exact hR.rotateAuditKey newKeyId newSigningKey _
  | latchAuditDegraded => exact hR.latched _
  | installRemoteSurface hostname installationId adminKey createdAtMs =>
    exact hR.surface (administered_installRemoteSurface _ _ _ _ s)
  | reportEffective report => exact hR.surface (administered_reportEffective report s)
  | setExposureMode mode => exact hR.surface (administered_setExposureMode mode s)
  | restart compiled nowMs => exact hR.reopenedService compiled nowMs

/-- A relation that every change respects holds between the engines at both ends of a run. -/
theorem Respected.run (hR : Respected env R) (s : Service) (calls : List SignerCall) :
    R s.engine (run (signerStep env) s calls).engine :=
  run_rel (R := fun s s' : Service => R s.engine s'.engine) (fun s => hR.refl s.engine)
    (fun _ _ _ => hR.trans _ _ _) hR.step s calls

end

end BloomSigner
