import BloomSigner.Ceremony.Status
import BloomSigner.Engine.CommitTables

/-! # What a ceremony writes before it commits

Applying a custody ceremony leaves the records of ceremonies and pairings alone. In the engine it
works on accounts and backends only: no receipt, no status, no approval and no custody record is
written before the commit. -/

namespace BloomSigner

open Lib Lib.Program

variable {crypto : Crypto} {e e' : Engine}

/-! ## Work on accounts -/

/-- The writes of account methods, of any wallets. -/
def Work (crypto : Crypto) : Engine → Engine → Prop :=
  Relation.ReflTransGen fun e e' => ∃ w, Move crypto (fun _ _ => True) w e e'

theorem Work.refl (e : Engine) : Work crypto e e := Relation.ReflTransGen.refl

theorem Work.trans (e₁ e₂ e₃ : Engine) (h₁ : Work crypto e₁ e₂) (h₂ : Work crypto e₂ e₃) :
    Work crypto e₁ e₃ := Relation.ReflTransGen.trans h₁ h₂

theorem Moves.work {x : EngineM α} (h : Moves crypto (fun _ _ => True) w x) :
    Keeps (Work crypto) x := by
  have hmono : Move crypto (fun _ _ => True) w ≤ fun e e' =>
      ∃ w, Move crypto (fun _ _ => True) w e e' := fun _ _ hmove => ⟨w, hmove⟩
  exact fun e => Relation.ReflTransGen.mono hmono e (x e).2 (h e)

theorem registryCall_tables (f : Registry.AuditRecorder Audit.Journal →
    Registry.State Audit.Journal → Except Failure α × Registry.State Audit.Journal) (e : Engine) :
    (∃ registry journal, (registryCall crypto f e).2.db = { e.db with registry, journal }) ∧
      (e.auditDegraded → (registryCall crypto f e).2.auditDegraded) := by
  unfold registryCall
  split
  · exact ⟨⟨_, _, rfl⟩, id⟩
  · next cause s hf =>
    refine ⟨⟨_, _, Engine.fail_db _ _⟩, fun hdeg => ?_⟩
    cases cause with
    | latched message => rfl
    | protocol message | panic message => exact hdeg

/-- The tables an account method writes. -/
theorem Move.tables (h : Move crypto V w e e') :
    (∃ enrolledKeys registry ceremonyBackendEnrollments journal, e'.db =
      { e.db with enrolledKeys, registry, ceremonyBackendEnrollments, journal }) ∧
      (e.auditDegraded → e'.auditDegraded) := by
  cases h with
  | @registry α f hf =>
    obtain ⟨⟨registry, journal, hdb⟩, hdeg⟩ := @registryCall_tables crypto _ f e
    exact ⟨⟨_, registry, _, journal, hdb⟩, hdeg⟩
  | backends backends => exact ⟨⟨_, _, _, _, rfl⟩, id⟩
  | degrade => exact ⟨⟨_, _, _, _, rfl⟩, fun _ => rfl⟩
  | enroll hkey h =>
    obtain ⟨db', happ, h⟩ := bind_eq_ok.mp h
    cases h
    obtain ⟨journal, rfl⟩ := appendAudit_eq_ok happ
    exact ⟨⟨_, _, _, _, rfl⟩, id⟩
  | switchOff p hp => exact ⟨⟨_, _, _, _, rfl⟩, id⟩
  | refresh enrollment => exact ⟨⟨_, _, _, _, rfl⟩, id⟩
  | audit h =>
    obtain ⟨journal, rfl⟩ := appendAudit_eq_ok h
    exact ⟨⟨_, _, _, _, rfl⟩, id⟩

theorem Work.tables (h : Work crypto e e') :
    ∃ enrolledKeys registry ceremonyBackendEnrollments journal, e'.db =
      { e.db with enrolledKeys, registry, ceremonyBackendEnrollments, journal } := by
  induction h with
  | refl => exact ⟨_, _, _, _, rfl⟩
  | tail _ hmove ih =>
    obtain ⟨w, hmove⟩ := hmove
    obtain ⟨_, _, _, _, hdb⟩ := ih
    obtain ⟨⟨keys, registry, enrollments, journal, hdb'⟩, -⟩ := hmove.tables
    exact ⟨keys, registry, enrollments, journal, by rw [hdb', hdb]⟩

theorem Work.degraded (h : Work crypto e e') : e.auditDegraded → e'.auditDegraded := by
  induction h with
  | refl => exact id
  | tail _ hmove ih =>
    obtain ⟨w, hmove⟩ := hmove
    exact hmove.tables.2 ∘ ih

section
variable {V : Token → Registry.AllocationRow → Prop} {w : Token}

theorem moves_backendQuery (f : Backends → Except Failure (α × Backends)) :
    Moves crypto V w (backendQuery f) := by
  intro e
  rw [backendQuery]
  split
  · exact .single (.backends _)
  · exact .refl

theorem moves_activateKey (aead : Custody.Aead) (derive : Derivation) (keyRef : KeyRef)
    (secret : List UInt8) : Moves crypto V w (activateKey crypto aead derive keyRef secret) :=
  fun _ => .single (.backends _)

theorem moves_recordBackendActivation (walletId : Token) (keyRef : KeyRef) :
    Moves crypto V w (recordBackendActivation crypto walletId keyRef) := by
  refine moves_mutation (fun e db => do
    let db ← db.appendAudit crypto e.auditKeys "backend.activated"
      (.obj [("wallet_id", walletId.json), ("key_ref", keyRef.json)])
    return .commit db ()) fun e db a hb => ?_
  obtain ⟨db', happ, hb⟩ := bind_eq_ok.mp hb
  cases hb
  exact .audit happ

end

/-! ## Applying -/

/-- What applying a ceremony may do. -/
structure Applied (crypto : Crypto) (s s' : Service) : Prop where
  pending : s'.pending = s.pending
  completed : s'.completed = s.completed
  crossSurface : s'.crossSurface = s.crossSurface
  engine : Work crypto s.engine s'.engine

theorem Applied.refl (s : Service) : Applied crypto s s := ⟨rfl, rfl, rfl, .refl _⟩

theorem Applied.trans (s₁ s₂ s₃ : Service) (h₁ : Applied crypto s₁ s₂)
    (h₂ : Applied crypto s₂ s₃) : Applied crypto s₁ s₃ :=
  ⟨h₂.pending.trans h₁.pending, h₂.completed.trans h₁.completed,
    h₂.crossSurface.trans h₁.crossSurface, .trans _ _ _ h₁.engine h₂.engine⟩

/-- A program whose every run applies. -/
abbrev Applies (crypto : Crypto) (x : ServiceM α) : Prop := Keeps (Applied crypto) x

theorem Applies.andThen {x : ServiceM α} {f : α → ServiceM β} (hx : Applies crypto x)
    (hf : ∀ a, Applies crypto (f a)) : Applies crypto (x >>= f) :=
  Keeps.bind Applied.trans hx hf

theorem Applies.attempt {x : ServiceM α} (hx : Applies crypto x) :
    Applies crypto (ServiceM.attempt x) := Keeps.attempt hx

theorem applies_pure (a : α) : Applies crypto (pure a) := keeps_pure Applied.refl a

theorem applies_fail (f : Failure) : Applies crypto (.fail f : ServiceM α) :=
  keeps_fail Applied.refl f

theorem applies_lift (r : Except Failure α) : Applies crypto (liftM r) := keeps_lift Applied.refl r

theorem applies_read (f : Service → α) : Applies crypto (.read f) := fun s => .refl s

theorem applies_onEngine {x : EngineM α} (h : Moves crypto (fun _ _ => True) w x) :
    Applies crypto (onEngine x) := fun s => ⟨rfl, rfl, rfl, h.work s.engine⟩

/-- A write of the wallets and the credentials. -/
theorem applies_write {f : Service → Service}
    (h : ∀ s, ∃ wallets credentials, f s = { s with wallets, credentials }) :
    Applies crypto (.write f) := by
  intro s
  obtain ⟨wallets, credentials, hf⟩ := h s
  rw [write_apply, hf]
  exact ⟨rfl, rfl, rfl, .refl _⟩

theorem applies_onWallet (walletId : Token) (x : Custody.CustodyM α) :
    Applies crypto (onWallet walletId x) := by
  intro s
  unfold onWallet
  split
  · exact .refl s
  · split <;> exact ⟨rfl, rfl, rfl, .refl _⟩

theorem applies_advanceCounter (credentialId : Base64UrlBytes) (signCount : Nat) :
    Applies crypto (advanceCounter credentialId signCount) :=
  applies_write fun _ => ⟨_, _, rfl⟩

theorem applies_dropCredentials (walletId : Token) : Applies crypto (dropCredentials walletId) :=
  applies_write fun _ => ⟨_, _, rfl⟩

theorem applies_restoreCustodySnapshot
    (snapshot : List Custody.WalletCustodyBackup × List (Token × WebAuthnCredential)) :
    Applies crypto (restoreCustodySnapshot snapshot) :=
  (applies_lift _).andThen fun _ => applies_write fun _ => ⟨_, _, rfl⟩

section
variable (env : ServiceEnvironment) (sys : CallSystem)

theorem applies_registerExistingCredential (walletId : Token) (credential : WebAuthnCredential) :
    Applies crypto (registerExistingCredential env walletId credential) :=
  (applies_read _).andThen fun _ => (applies_lift _).andThen fun _ =>
    (applies_lift _).andThen fun _ => (applies_lift _).andThen fun _ =>
    applies_write fun _ => ⟨_, _, rfl⟩

theorem applies_enrollWallet (walletId : Token) (custody : Custody.CustodyState) :
    Applies crypto (enrollWallet walletId custody) :=
  (applies_read _).andThen fun _ => (applies_lift _).andThen fun _ =>
    applies_write fun _ => ⟨_, _, rfl⟩

theorem applies_guardProvisioned {x : ServiceM α} (h : Applies crypto x) (walletId : Token) :
    Applies crypto (guardProvisioned walletId x) := by
  intro s
  have hx := h s
  unfold guardProvisioned
  split
  · next heq => rw [heq] at hx; exact hx
  · next heq =>
    rw [heq] at hx
    refine .trans _ _ _ hx ⟨rfl, rfl, rfl, .single ⟨walletId, .backends _⟩⟩

theorem moves_allocate (w : Token) (op : OperationId) (requests : List DerivedAccountRequest)
    (unlocked : Custody.UnlockedWallet) (derive : Derivation) (t : Nat) :
    Moves crypto (fun _ _ => True) w
      (allocateBip39Accounts crypto derive w op requests unlocked t) :=
  moves_allocateBip39Accounts op requests unlocked t fun _ _ _ _ _ _ => trivial

theorem applies_provisionBip39 (c : CustodyCompletion) (walletId : Token) (root : List UInt8)
    (opened : OpenedWallet) :
    Applies env.crypto (provisionBip39 env sys c walletId root opened) := by
  refine (applies_onEngine (w := walletId) (moves_backendQuery _)).andThen fun _ =>
    applies_guardProvisioned ?_ walletId
  exact (applies_onEngine (moves_allocate walletId _ _ _ _ _)).andThen fun _ =>
    (applies_lift _).andThen fun _ => (applies_read _).andThen fun _ =>
    (applies_lift _).andThen fun _ => (applies_lift _).andThen fun _ => applies_pure _

theorem applies_provisionImported (walletId : Token) (root : List UInt8) (opened : OpenedWallet) :
    Applies env.crypto (provisionImported env sys walletId root opened) := by
  refine (applies_onEngine (w := walletId) (moves_backendQuery _)).andThen fun _ =>
    applies_guardProvisioned ?_ walletId
  exact (applies_lift _).andThen fun _ => applies_pure _

theorem applies_applyRegistration (surface : SurfaceDescriptor) (c : CustodyCompletion) :
    Applies env.crypto (applyRegistration env sys surface c) := by
  refine (applies_lift _).andThen fun registration => ?_
  have hrest : ∀ new : NewWallet, Applies env.crypto (do
      let opened ← openNewWallet env sys c
        (c.prepare.walletSeedProfile = some .bip39MulticurveV1) registration new
      enrollWallet registration.walletId opened.custody
      registerExistingCredential env registration.walletId new.credential
      let outcome ← if decide (c.prepare.walletSeedProfile = some .bip39MulticurveV1) then
          provisionBip39 env sys c registration.walletId new.root opened
        else provisionImported env sys registration.walletId new.root opened
      return ({ outcome with
        consumeLegacyMigration := new.consumeLegacyMigration } : CustodyApplyOutcome)) := by
    intro new
    refine (applies_lift _).andThen fun opened => (applies_enrollWallet _ _).andThen fun _ =>
      (applies_registerExistingCredential env _ _).andThen fun _ => ?_
    split
    · exact (applies_provisionBip39 env sys c _ _ _).andThen fun _ => applies_pure _
    · exact (applies_provisionImported env sys _ _ _).andThen fun _ => applies_pure _
  split
  · exact (applies_lift _).andThen hrest
  · exact (applies_lift _).andThen hrest

theorem applies_applyCredentialChange (surface : SurfaceDescriptor) (c : CustodyCompletion) :
    Applies env.crypto (applyCredentialChange env sys surface c) := by
  refine (applies_lift _).andThen fun walletId => (applies_read _).andThen fun s =>
    (applies_lift _).andThen fun change => (applies_onWallet _ _).andThen fun _ =>
    (applies_registerExistingCredential env _ _).andThen fun _ =>
    (applies_advanceCounter _ _).andThen fun _ => ?_
  split
  · exact (applies_onWallet _ _).andThen fun _ =>
      (applies_write fun _ => ⟨_, _, rfl⟩).andThen fun _ => applies_pure _
  · exact applies_pure _

theorem applies_applyCredentialRemove (surface : SurfaceDescriptor) (c : CustodyCompletion) :
    Applies env.crypto (applyCredentialRemove env sys surface c) :=
  (applies_lift _).andThen fun _ => (applies_lift _).andThen fun _ =>
    (applies_read _).andThen fun _ => (applies_lift _).andThen fun _ =>
    (applies_lift _).andThen fun _ => (applies_lift _).andThen fun _ =>
    (applies_onWallet _ _).andThen fun _ => (applies_advanceCounter _ _).andThen fun _ =>
    (applies_write fun _ => ⟨_, _, rfl⟩).andThen fun _ => applies_pure _

theorem applies_applyRecovery (surface : SurfaceDescriptor) (c : CustodyCompletion) :
    Applies env.crypto (applyRecovery env sys surface c) :=
  (applies_lift _).andThen fun _ => (applies_read _).andThen fun _ =>
    (applies_lift _).andThen fun _ => (applies_onWallet _ _).andThen fun _ =>
    (applies_dropCredentials _).andThen fun _ =>
    (applies_registerExistingCredential env _ _).andThen fun _ => applies_pure _

/-! ## Generic effects -/

theorem moves_rollbackDerivedKeys (derived : List DerivedKeyCommit) (t : Nat) :
    Moves crypto V w (firstError (derived.flatMap fun key => [
      tombstoneFailedBip39Account crypto key.keyRef t,
      backendCall (·.rollbackLocalDerivedKey key.keyRef)])) := by
  refine moves_firstError fun x hx => ?_
  obtain ⟨key, -, hx⟩ := List.mem_flatMap.mp hx
  rcases List.mem_cons.mp hx with rfl | hx
  · exact moves_tombstoneFailedBip39Account _ t
  · rw [List.mem_singleton.mp hx]
    exact moves_backendCall _

theorem applies_rollbackDerivedKeys (derived : List DerivedKeyCommit) (t : Nat) :
    Applies env.crypto (rollbackDerivedKeys env derived t) :=
  applies_onEngine (w := ⟨""⟩) (moves_rollbackDerivedKeys derived t)

theorem applies_exportWallet (walletId : Token) (format : Option WalletExportFormat)
    (unlocked : Custody.UnlockedWallet) :
    Applies crypto (exportWallet env walletId format unlocked) := by
  refine (applies_read _).andThen fun s => (applies_lift _).andThen fun custody => ?_
  split
  · exact applies_pure _
  · exact (applies_lift _).andThen fun _ => (applies_lift _).andThen fun _ => applies_pure _

theorem applies_applyPetalKeyDerivation (root : KeyRef) (scope : PetalKeyScope) :
    Applies env.crypto (applyPetalKeyDerivation env root scope) := by
  refine (applies_lift _).andThen fun path => ?_
  exact (applies_onEngine (w := ⟨""⟩) (moves_backendCall _)).andThen fun _ =>
    (applies_onEngine (w := ⟨""⟩) (moves_backendQuery _)).andThen fun _ => applies_pure _

theorem applies_deriveKey (c : CustodyCompletion) (namespaceId : Option Token)
    (grant : Option DerivationGrant) (authoritySignature : Option Base64UrlBytes)
    (unlocked : Custody.UnlockedWallet) :
    Applies env.crypto (deriveKey env c namespaceId grant authoritySignature unlocked) := by
  refine (applies_lift _).andThen fun root => ?_
  split
  · exact (applies_lift _).andThen fun _ =>
      (applies_onEngine (w := ⟨""⟩) (moves_activateKey _ _ _ _)).andThen fun _ =>
      (applies_onEngine (w := ⟨""⟩) (moves_recordBackendActivation _ _)).andThen fun _ =>
      (applies_read _).andThen fun _ => (applies_lift _).andThen fun _ =>
      applies_applyPetalKeyDerivation env _ _
  · exact (applies_lift _).andThen fun _ => (applies_lift _).andThen fun _ =>
      (applies_lift _).andThen fun _ =>
      (applies_onEngine (w := ⟨""⟩) (moves_backendQuery _)).andThen fun _ => applies_pure _

theorem applies_refreshAllocated (walletId : Token) (derived : List DerivedKeyCommit) (t : Nat)
    (keys : List AllocatedAccountKey) :
    Applies env.crypto (refreshAllocated env walletId derived t keys) := by
  induction keys with
  | nil => exact applies_pure ()
  | cons key keys ih =>
    refine (applies_onEngine (moves_refreshBackendEnrollment _)).attempt.andThen
      fun refreshed => ?_
    cases refreshed with
    | ok u => exact ih
    | error cause =>
      refine (applies_rollbackDerivedKeys env _ t).andThen fun rollback => ?_
      cases rollback with
      | ok u => exact applies_fail _
      | error second => exact applies_fail _

theorem applies_allocateAccounts (c : CustodyCompletion) (walletId : Token)
    (unlocked : Custody.UnlockedWallet) :
    Applies env.crypto (allocateAccounts env c walletId unlocked) :=
  (applies_lift _).andThen fun _ =>
    (applies_onEngine (moves_allocate walletId _ _ _ _ _)).andThen fun _ =>
    (applies_refreshAllocated env _ _ _ _).andThen fun _ => applies_pure _

theorem applies_applyGenericCustodyEffect (c : CustodyCompletion) (walletId : Token)
    (effect : GenericCustodyEffect) (unlocked : Custody.UnlockedWallet) :
    Applies env.crypto (applyGenericCustodyEffect env c walletId effect unlocked) := by
  unfold applyGenericCustodyEffect
  split
  · exact applies_exportWallet env _ _ _
  · exact (applies_write fun _ => ⟨_, _, rfl⟩).andThen fun _ =>
      (applies_dropCredentials _).andThen fun _ => applies_pure _
  · exact (applies_lift _).andThen fun _ => (applies_read _).andThen fun _ =>
      (applies_lift _).andThen fun _ => (applies_lift _).andThen fun _ => applies_pure _
  · exact applies_deriveKey env c _ _ _ _
  · exact applies_allocateAccounts env c _ _
  · exact (applies_lift _).andThen fun _ =>
      (applies_onEngine (moves_retireBip39Account _ _)).andThen fun _ =>
      (applies_onEngine (moves_refreshBackendEnrollment _)).andThen fun _ => applies_pure _
  · exact applies_fail _

theorem applies_applyGeneric (surface : SurfaceDescriptor) (c : CustodyCompletion) :
    Applies env.crypto (applyGeneric env sys surface c) := by
  refine (applies_lift _).andThen fun walletId => (applies_read _).andThen fun s =>
    (applies_lift _).andThen fun change => ?_
  split
  · exact (applies_lift _).andThen fun _ => (applies_advanceCounter _ _).andThen fun _ =>
      applies_pure _
  · exact (applies_lift _).andThen fun _ =>
      (applies_applyGenericCustodyEffect env c _ _ _).andThen fun _ =>
      (applies_advanceCounter _ _).andThen fun _ => applies_pure _

theorem applies_verifyCustodyProofAndApply (c : CustodyCompletion) :
    Applies env.crypto (verifyCustodyProofAndApply env sys c) := by
  refine (applies_read _).andThen fun s => (applies_lift _).andThen fun surface => ?_
  cases c.prepare.ceremonyKind with
  | walletRegistration | walletImport => exact applies_applyRegistration env sys _ c
  | credentialAdd | credentialReplace => exact applies_applyCredentialChange env sys _ c
  | credentialRemove => exact applies_applyCredentialRemove env sys _ c
  | walletRecovery => exact applies_applyRecovery env sys _ c
  | walletExport | walletDelete | backendEnrollment | keyDerive | accountAllocate | accountRetire
  | policyUpdate => exact applies_applyGeneric env sys _ c
  | sealedApproval => exact applies_fail _

theorem applies_applyCustody (request : CustodyCompleteRequest) (nowMs : Nat)
    (policyUpdate : Bool) (pending : PendingCeremony) :
    Applies env.crypto (applyCustody env sys request nowMs policyUpdate pending) := by
  refine (applies_read _).andThen fun s => (applies_lift _).andThen fun completion =>
    (applies_verifyCustodyProofAndApply env sys completion).attempt.andThen fun outcome => ?_
  cases outcome with
  | ok outcome => exact applies_pure _
  | error cause => exact (applies_restoreCustodySnapshot _).andThen fun _ => applies_fail _

theorem applies_rollbackFailedCustodyApply (applied : AppliedCustody) (cause : ProtocolError) :
    Applies env.crypto (rollbackFailedCustodyApply env applied cause : ServiceM α) := by
  refine (applies_rollbackDerivedKeys env _ _).andThen fun _ => ?_
  have hprovisioned : Applies env.crypto
      (rollbackProvisionedBackend applied.outcome.rollbackProvisionedBackend) := by
    intro s
    rw [rollbackProvisionedBackend, write_apply]
    split
    · exact .refl s
    · exact ⟨rfl, rfl, rfl, .single ⟨⟨""⟩, .backends _⟩⟩
  exact hprovisioned.andThen fun _ =>
    (applies_restoreCustodySnapshot _).attempt.andThen fun _ => applies_fail _

theorem applies_activateBackend (approval : VerifiedApproval) :
    Applies env.crypto (activateBackend env approval) := by
  unfold activateBackend
  split
  · exact applies_pure ()
  · exact applies_onEngine (w := ⟨""⟩) (moves_activateKey _ _ _ _)

theorem applies_applyDestination (taken : TakenDestination) :
    Applies env.crypto (applyDestination env sys taken) := by
  refine (applies_onWallet _ _).andThen fun _ =>
    (applies_registerExistingCredential env _ _).andThen fun _ => ?_
  split
  · exact applies_advanceCounter _ _
  · exact applies_pure ()

end

end BloomSigner
