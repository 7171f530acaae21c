import Mathlib.Logic.Relation
import BloomSigner.Audit.Rotation
import BloomSigner.Engine.Accounts
import BloomSigner.Registry.Recorder

/-! # What an account method does to the engine

Every run of an account method, whether it succeeds or not, extends the journal and moves the
registry by a chain of its own transitions. A single recorded transition goes through exactly when
the journal takes another entry, which does not depend on the latch. -/

namespace BloomSigner

open Lib Lib.Program

variable {crypto : Crypto} {e e' : Engine}

/-- The journal verifies under the current keys and has room for another entry. -/
def Engine.journalOpen (crypto : Crypto) (e : Engine) : Prop :=
  e.journalVerifies crypto ∧ e.db.journal.chain.rows.length < 2 ^ 63

/-! ## Appending to the journal -/

theorem appendAudit_length {journal journal' : Audit.Journal}
    (h : Audit.appendAudit crypto keys journal event payload = .ok journal') :
    journal'.chain.rows.length = journal.chain.rows.length + 1 := by
  obtain ⟨st, -, -, -, hrows⟩ := Audit.appendAuditEntry_ok (Audit.appendAudit_eq_ok.mp h)
  rw [hrows, List.length_append, List.length_singleton]

/-- An open journal takes any entry. -/
theorem Engine.journalOpen.append (h : e.journalOpen crypto) (event : String) (payload : Json) :
    ∃ journal, Audit.appendAudit crypto e.auditKeys e.db.journal event payload = .ok journal := by
  obtain ⟨st, hacc⟩ := Audit.verifyRows_accepted.mp h.1
  obtain ⟨journal, hj⟩ := Audit.appendAuditEntry_succeeds event payload
    e.auditKeys.currentKeyId e.auditKeys.currentSigningKey hacc (hacc.sequence ▸ h.2)
  exact ⟨journal, Audit.appendAudit_eq_ok.mpr hj⟩

theorem journalOpen_of_append
    (h : Audit.appendAudit crypto e.auditKeys e.db.journal event payload = .ok journal) :
    e.journalOpen crypto := by
  obtain ⟨st, hacc, hseq, -⟩ := Audit.appendAuditEntry_ok (Audit.appendAudit_eq_ok.mp h)
  exact ⟨Audit.verifyRows_accepted.mpr ⟨st, hacc⟩, hacc.sequence ▸ hseq⟩

theorem recorder_of_open (h : e.journalOpen crypto) (event : String)
    (payload : Registry.TransitionPayload) :
    ∃ journal, e.recorder crypto e.db.journal event payload = .ok journal :=
  h.append event payload.json

/-! ## One step -/

/-- Every row of the key table keeps its key, class and wallet, or is new and a derived key under
its own fingerprint. -/
def EnrolledFrom (keys keys' : Table Digest32 EnrolledKeyRow) : Prop :=
  ∀ f row', keys'.get? f = some row' →
    (∃ row, keys.get? f = some row ∧ row'.keyRef = row.keyRef ∧
      row'.authorityClass = row.authorityClass ∧ row'.walletId = row.walletId) ∨
    row'.keyRef.publicKeyFingerprint = f ∧ row'.authorityClass = .derived

theorem EnrolledFrom.refl (keys : Table Digest32 EnrolledKeyRow) : EnrolledFrom keys keys :=
  fun _ row h => .inl ⟨row, h, rfl, rfl, rfl⟩

theorem EnrolledFrom.trans {keys₁ keys₂ keys₃ : Table Digest32 EnrolledKeyRow}
    (h₁ : EnrolledFrom keys₁ keys₂) (h₂ : EnrolledFrom keys₂ keys₃) :
    EnrolledFrom keys₁ keys₃ := by
  intro f row₃ h
  rcases h₂ f row₃ h with ⟨row₂, h, hkey, hclass, hwallet⟩ | h
  · rcases h₁ f row₂ h with ⟨row₁, h, hkey', hclass', hwallet'⟩ | ⟨hfp, hderived⟩
    · exact .inl ⟨row₁, h, hkey.trans hkey', hclass.trans hclass', hwallet.trans hwallet'⟩
    · exact .inr ⟨hkey ▸ hfp, hclass.trans hderived⟩
  · exact .inr h

/-- Switching rows off keeps every key. -/
theorem EnrolledFrom.modify (keys : Table Digest32 EnrolledKeyRow)
    (p : Digest32 → EnrolledKeyRow → Bool) :
    EnrolledFrom keys (keys.modify p ({ · with available := false })) := by
  intro f row' h
  rw [Table.get?_modify, Option.map_eq_some_iff] at h
  obtain ⟨row, hrow, rfl⟩ := h
  refine .inl ⟨row, hrow, ?_⟩
  split <;> exact ⟨rfl, rfl, rfl⟩

/-- What an account method does; the rows it reserves satisfy `V`. -/
structure AccountStep (V : Token → Registry.AllocationRow → Prop) (e e' : Engine) : Prop where
  auditKeys : e'.auditKeys = e.auditKeys
  degraded : e.auditDegraded → e'.auditDegraded
  journal : e.db.journal.chain.rows.length ≤ e'.db.journal.chain.rows.length
  registry : Relation.ReflTransGen (Registry.Effect V) e.db.registry e'.db.registry
  enrolled : EnrolledFrom e.db.enrolledKeys e'.db.enrolledKeys
  scopes : e'.db.petalKeyScopes = e.db.petalKeyScopes

variable {V : Token → Registry.AllocationRow → Prop}

theorem AccountStep.refl (e : Engine) : AccountStep V e e :=
  ⟨rfl, id, Nat.le_refl _, .refl, .refl _, rfl⟩

theorem AccountStep.trans {e₁ e₂ e₃ : Engine} (h₁ : AccountStep V e₁ e₂)
    (h₂ : AccountStep V e₂ e₃) : AccountStep V e₁ e₃ where
  auditKeys := h₂.auditKeys.trans h₁.auditKeys
  degraded := h₂.degraded ∘ h₁.degraded
  journal := Nat.le_trans h₁.journal h₂.journal
  registry := h₁.registry.trans h₂.registry
  enrolled := h₁.enrolled.trans h₂.enrolled
  scopes := h₂.scopes.trans h₁.scopes

theorem AccountStep.fail (h : AccountStep V e e') (f : Failure) :
    AccountStep V e (e'.fail f) where
  auditKeys := by simpa using h.auditKeys
  degraded hdeg := by cases f <;> first | rfl | exact h.degraded hdeg
  journal := by simpa using h.journal
  registry := by simpa using h.registry
  enrolled := by simpa using h.enrolled
  scopes := by simpa using h.scopes

/-! ## Registry transitions -/

/-- A transition the registry makes in one transaction, with at most one entry. -/
structure Transition (V : Token → Registry.AllocationRow → Prop) (f : Registry.AuditRecorder Audit.Journal → Registry.State Audit.Journal →
    Except Failure α × Registry.State Audit.Journal) : Prop where
  effect : ∀ audit s, Registry.Effect V s.db (f audit s).2.db
  entries : ∀ audit s, Registry.Recorded audit s (f audit s).2 ∨ (f audit s).2.journal = s.journal

theorem Recorded.length_le {s s' : Registry.State Audit.Journal}
    (h : Registry.Recorded (e.recorder crypto) s s') :
    s.journal.chain.rows.length ≤ s'.journal.chain.rows.length := by
  rcases h with rfl | ⟨event, payload, h⟩
  · exact Nat.le_refl _
  · exact Nat.le_of_lt (appendAudit_length h ▸ Nat.lt_succ_self _)

section
variable (crypto)

theorem transition_prepare (req : Registry.PrepareRequest)
    (hV : ∀ row : Registry.AllocationRow, row.profile = req.profile →
      req.invalidChild row.account row.index = false → V req.walletId row) :
    Transition V fun audit s => Registry.prepareAllocationAt crypto.sha256 audit s req :=
  ⟨fun _ s => Registry.prepareAllocationAt_effect s req hV,
    fun _ s => Registry.prepareAllocationAt_recorded s req⟩

theorem transition_commitIndex (w : Token) (op : String) (t : Nat) :
    Transition V fun audit s => Registry.commitIndex crypto.sha256 audit s w op t :=
  ⟨fun _ s => Registry.commitIndex_effect s w op t,
    fun _ s => .inl (Registry.commitIndex_recorded s w op t)⟩

theorem transition_commitAccount (w : Token) (op spki : String) (f : Digest32) (t : Nat) :
    Transition V fun audit s => Registry.commitAccount crypto.sha256 audit s w op spki f t :=
  ⟨fun _ s => Registry.commitAccount_effect s w op spki f t,
    fun _ s => .inl (Registry.commitAccount_recorded s w op spki f t)⟩

theorem transition_activate (w : Token) (op : String) (t : Nat) :
    Transition V fun audit s => Registry.activate crypto.sha256 audit s w op t :=
  ⟨fun _ s => Registry.activate_effect s w op t,
    fun _ s => .inl (Registry.activate_recorded s w op t)⟩

theorem transition_retire (w : Token) (op : String) (t : Nat) :
    Transition V fun audit s => Registry.retire crypto.sha256 audit s w op t :=
  ⟨fun _ s => Registry.retire_effect s w op t,
    fun _ s => .inl (Registry.retire_recorded s w op t)⟩

theorem transition_tombstone (w : Token) (op : String) (t : Nat) :
    Transition V fun audit s => Registry.tombstone crypto.sha256 audit s w op t :=
  ⟨fun _ s => Registry.tombstone_effect s w op t,
    fun _ s => .inl (Registry.tombstone_recorded s w op t)⟩

theorem transition_invalidChild (ns : Registry.NamespaceKey) (i t : Nat) :
    Transition V fun _ s => Registry.recordInvalidChildTombstone s ns i t :=
  ⟨fun _ s => Registry.recordInvalidChildTombstone_effect s ns i t, fun _ _ => .inr rfl⟩

end

/-! ## The writes of an account method -/

/-- One write of a method that works on the accounts of the wallet `w`. -/
inductive Move (crypto : Crypto) (V : Token → Registry.AllocationRow → Prop) (w : Token)
    (e : Engine) : Engine → Prop where
  | registry {α : Type} {f : Registry.AuditRecorder Audit.Journal →
      Registry.State Audit.Journal → Except Failure α × Registry.State Audit.Journal}
      (hf : Transition V f) : Move crypto V w e (registryCall crypto f e).2
  | backends (backends : Backends) : Move crypto V w e { e with backends }
  | degrade : Move crypto V w e { e with auditDegraded := true }
  /-- a child of the wallet becomes one of its derived keys -/
  | enroll {keyRef : KeyRef} {db : Db} {a : Unit} (hkey : keyRef.backendInstance = w)
      (h : enrollWalletKeyBody crypto e.auditKeys .derived "key.derived_enrolled" w keyRef e.db =
        .ok (.commit db a)) : Move crypto V w e { e with db }
  /-- derived keys, or keys of the wallet, are no longer available -/
  | switchOff (p : Digest32 → EnrolledKeyRow → Bool)
      (hp : ∀ f row, e.db.enrolledKeys.get? f = some row → p f row = true →
        row.authorityClass = .derived ∨ row.walletId = some w) :
      Move crypto V w e { e with db := { e.db with
        enrolledKeys := e.db.enrolledKeys.modify p ({ · with available := false }) } }
  | refresh (enrollment : BackendEnrollmentBackup) :
      Move crypto V w e { e with db := { e.db with
        ceremonyBackendEnrollments := e.db.ceremonyBackendEnrollments.update w fun _ =>
          enrollment } }
  | audit {db : Db} (h : e.db.appendAudit crypto e.auditKeys event payload = .ok db) :
      Move crypto V w e { e with db }

/-- A program whose every run is a sequence of such writes. -/
abbrev Moves (crypto : Crypto) (V : Token → Registry.AllocationRow → Prop) (w : Token)
    (x : EngineM α) : Prop :=
  Keeps (Relation.ReflTransGen (Move crypto V w)) x

variable {w : Token}

theorem Moves.andThen {x : EngineM α} {f : α → EngineM β} (hx : Moves crypto V w x)
    (hf : ∀ a, Moves crypto V w (f a)) : Moves crypto V w (x >>= f) :=
  Keeps.bind (fun _ _ _ => .trans) hx hf

theorem Moves.attempt {x : EngineM α} (hx : Moves crypto V w x) :
    Moves crypto V w (attempt x) := Keeps.attempt hx

theorem moves_pure (a : α) : Moves crypto V w (pure a) := keeps_pure (fun _ => .refl) a

theorem moves_fail (f : Failure) : Moves crypto V w (.fail f : EngineM α) :=
  keeps_fail (fun _ => .refl) f

theorem moves_lift (r : Except Failure α) : Moves crypto V w (liftM r) :=
  keeps_lift (fun _ => .refl) r

theorem moves_read (f : Engine → α) : Moves crypto V w (.read f) := fun _ => .refl

theorem moves_forEach {g : α → EngineM Unit} (hg : ∀ a, Moves crypto V w (g a)) (as : List α) :
    Moves crypto V w (forEach g as) :=
  Keeps.forEach (fun _ _ _ => .trans) (fun _ => .refl) hg as

theorem moves_firstError {xs : List (EngineM Unit)} (h : ∀ x ∈ xs, Moves crypto V w x) :
    Moves crypto V w (firstError xs) := by
  induction xs with
  | nil => exact moves_pure _
  | cons x xs ih =>
    have hxs := ih fun y hy => h y (List.mem_cons_of_mem _ hy)
    exact (h x List.mem_cons_self).attempt.andThen fun first =>
      hxs.andThen fun rest => moves_pure _

theorem moves_deactivateDerived (f : Digest32) :
    Moves crypto V w (execute (·.deactivateDerived f)) := by
  intro e
  refine .single (.switchOff _ fun g row _ hp => .inl ?_)
  exact (of_decide_eq_true hp).2

theorem moves_backendCall (f : Backends → Except Failure Backends) :
    Moves crypto V w (backendCall f) := by
  intro e
  rw [backendCall]
  split
  · exact .single (.backends _)
  · exact .refl

theorem moves_registryCall {f : Registry.AuditRecorder Audit.Journal →
    Registry.State Audit.Journal → Except Failure α × Registry.State Audit.Journal}
    (hf : Transition V f) : Moves crypto V w (registryCall crypto f) :=
  fun _ => .single (.registry hf)

theorem moves_fail_state (e : Engine) (f : Failure) :
    Relation.ReflTransGen (Move crypto V w) e (e.fail f) := by
  cases f with
  | latched cause => exact .single .degrade
  | protocol cause | panic message => exact .refl

/-- A guarded call whose commits are moves. -/
theorem moves_mutation (body : Engine → Db → Except Failure (Outcome α))
    (h : ∀ e db a, body e e.db = .ok (.commit db a) → Move crypto V w e { e with db }) :
    Moves crypto V w fun e => mutation crypto e (body e) := by
  intro e
  show Relation.ReflTransGen (Move crypto V w) e (mutation crypto e (body e)).2
  unfold mutation
  split
  · exact .refl
  split
  · cases hbody : body e e.db with
    | error f => exact moves_fail_state e f
    | ok outcome =>
      cases outcome with
      | commit db a => exact .single (h e db a hbody)
      | drop a => exact .refl
  · exact .single .degrade

theorem moves_enrollBip39Child {keyRef : KeyRef} (hkey : keyRef.backendInstance = w) :
    Moves crypto V w (enrollBip39Child crypto w keyRef) := by
  intro e
  unfold enrollBip39Child precheck
  split
  · exact .refl
  · exact moves_mutation (fun e => enrollWalletKeyBody crypto e.auditKeys .derived
      "key.derived_enrolled" w keyRef) (fun e db a hb => .enroll hkey hb) e

theorem moves_deactivateEnrolledBip39Child (keyRef : KeyRef) :
    Moves crypto V w (deactivateEnrolledBip39Child crypto w keyRef) := by
  refine moves_mutation (fun _ => deactivateEnrolledBip39ChildBody w keyRef) fun e db a hb => ?_
  obtain ⟨row, hrow, hb⟩ := bind_eq_ok.mp hb
  cases hb
  rw [okOr_eq_ok, Option.filter_eq_some_iff] at hrow
  rw [← Table.update_eq_const hrow.1 ({ · with available := false })]
  refine .switchOff _ fun f row' hrow' hp => .inr ?_
  rw [of_decide_eq_true hp, hrow.1] at hrow'
  cases hrow'
  exact of_decide_eq_true hrow.2

/-! ## The methods -/

theorem moves_tombstoneAllocation (walletId : Token) (op : String) (t : Nat) :
    Moves crypto V w (tombstoneAllocation crypto walletId op t) :=
  moves_registryCall (transition_tombstone crypto walletId op t)

theorem moves_refreshBackendEnrollment (keyRef : KeyRef) :
    Moves crypto V w (refreshBackendEnrollment w keyRef) := by
  refine (moves_read _).andThen fun backends => (moves_lift _).andThen fun record =>
    (moves_read _).andThen fun enrollments => ?_
  split
  · exact fun e => .single (.refresh _)
  · exact moves_fail _

theorem moves_tombstoneFailedBip39Account (keyRef : KeyRef) (t : Nat) :
    Moves crypto V w (tombstoneFailedBip39Account crypto keyRef t) := by
  unfold tombstoneFailedBip39Account
  split
  · refine (moves_read _).andThen fun operation => ?_
    cases operation with
    | none => exact moves_pure ()
    | some op =>
      exact (moves_deactivateDerived _).andThen fun _ => moves_tombstoneAllocation _ op t
  · exact moves_pure ()

theorem moves_recoverIncompleteBip39Allocations (t : Nat) :
    Moves crypto V w (recoverIncompleteBip39Allocations crypto t) := by
  refine (moves_read _).andThen fun db => (moves_lift _).andThen fun incomplete => ?_
  refine moves_forEach (fun r => ?_) incomplete
  exact (moves_deactivateDerived r.2.2).andThen fun _ => moves_tombstoneAllocation _ _ t

section
variable {derive : Derivation}

theorem moves_skipInvalidChildren (walletId : Token) (seed : List UInt8) (t fuel number : Nat) :
    Moves crypto V w (skipInvalidChildren crypto derive walletId seed t fuel number) := by
  induction fuel generalizing number with
  | zero =>
    unfold skipInvalidChildren
    split
    · exact (moves_registryCall (transition_invalidChild _ _ _)).andThen fun _ => moves_fail _
    · exact moves_pure _
  | succ fuel ih =>
    unfold skipInvalidChildren
    split
    · exact (moves_registryCall (transition_invalidChild _ _ _)).andThen fun _ => ih _
    · exact moves_pure _

theorem moves_chooseAccountNumber (walletId : Token) (ordered : List DerivedAccountRequest)
    (seed : List UInt8) (t : Nat) :
    Moves crypto V w (chooseAccountNumber crypto derive walletId ordered seed t) := by
  refine (moves_read _).andThen fun registry => (moves_lift _).andThen fun number => ?_
  split
  · exact moves_skipInvalidChildren _ _ _ _ _
  · exact moves_pure _

theorem moves_activateBip39Child (req : Registry.PrepareRequest) (profile : DerivationProfile)
    (seed : List UInt8)
    (hV : ∀ row : Registry.AllocationRow, row.profile = req.profile →
      req.invalidChild row.account row.index = false → V req.walletId row) :
    Moves crypto V w (activateBip39Child crypto derive req profile seed) :=
  (moves_registryCall (transition_prepare crypto req hV)).andThen fun _ =>
    (moves_lift _).andThen fun _ =>
    (moves_registryCall (transition_commitIndex crypto _ _ _)).andThen fun _ =>
    (moves_registryCall (transition_commitAccount crypto _ _ _ _ _)).andThen fun _ =>
    (moves_registryCall (transition_activate crypto _ _ _)).andThen fun _ => moves_pure _

/-- The rows of the wallet whose child is valid under the seed satisfy `V`. -/
def ValidUnder (V : Token → Registry.AllocationRow → Prop) (derive : Derivation) (w : Token)
    (seed : List UInt8) : Prop :=
  ∀ (profile : DerivationProfile) (row : Registry.AllocationRow), row.profile = profile.asStr →
    profileInvalidChild derive seed profile row.account row.index = false → V w row

theorem moves_activateChildren {seed : List UInt8} (hV : ValidUnder V derive w seed)
    (op : OperationId) (number t : Nat)
    (ordered : List DerivedAccountRequest) (activated : List ActivatedChild) :
    Moves crypto V w (activateChildren crypto derive w op seed number t ordered activated) := by
  induction ordered generalizing activated with
  | nil => exact moves_pure _
  | cons request ordered ih =>
    refine (moves_activateBip39Child _ _ _ (hV _)).attempt.andThen fun outcome => ?_
    cases outcome with
    | ok child => exact ih _
    | error cause =>
      exact (moves_forEach (fun child => moves_tombstoneAllocation w _ t) activated).andThen
        fun _ => moves_fail _

theorem moves_failClosed (what : String) (cause : ProtocolError)
    (rollback : Except ProtocolError Unit) :
    Moves crypto V w (failClosed what cause rollback : EngineM α) := by
  unfold failClosed
  split <;> exact moves_fail _

theorem moves_enrollActivatedChild (child : ActivatedChild)
    (unlocked : Custody.UnlockedWallet) (t : Nat) :
    Moves crypto V w (enrollActivatedChild crypto w child unlocked t) := by
  refine (moves_backendCall _).attempt.andThen fun registered => ?_
  cases registered with
  | error cause =>
    refine (moves_firstError fun x hx => ?_).andThen fun _ => moves_failClosed _ _ _
    rw [List.mem_singleton.mp hx]
    exact moves_tombstoneFailedBip39Account _ t
  | ok u =>
    have henroll : Moves crypto V w (enrollBip39Child crypto w (child.keyRef crypto w)) :=
      moves_enrollBip39Child rfl
    refine henroll.attempt.andThen fun enrolled => ?_
    cases enrolled with
    | error cause =>
      refine (moves_firstError fun x hx => ?_).andThen fun _ => moves_failClosed _ _ _
      rcases List.mem_cons.mp hx with rfl | hx
      · exact moves_tombstoneFailedBip39Account _ t
      · rw [List.mem_singleton.mp hx]
        exact moves_backendCall _
    | ok u => exact moves_pure _

theorem moves_rollbackSteps (t : Nat) (enrolled : List AllocatedAccountKey)
    (pending : List ActivatedChild) :
    ∀ x ∈ rollbackSteps crypto w t enrolled pending, Moves crypto V w x := by
  intro x hx
  rcases List.mem_append.mp hx with hx | hx
  · obtain ⟨done, -, hx⟩ := List.mem_flatMap.mp hx
    rcases List.mem_cons.mp hx with rfl | hx
    · exact moves_tombstoneFailedBip39Account _ t
    · rw [List.mem_singleton.mp hx]
      exact moves_backendCall _
  · obtain ⟨later, -, rfl⟩ := List.mem_map.mp hx
    exact moves_tombstoneAllocation w _ t

theorem moves_enrollChildren (unlocked : Custody.UnlockedWallet) (t : Nat)
    (children : List ActivatedChild) (enrolled : List AllocatedAccountKey) :
    Moves crypto V w (enrollChildren crypto w unlocked t children enrolled) := by
  induction children generalizing enrolled with
  | nil => exact moves_pure _
  | cons child pending ih =>
    refine (moves_enrollActivatedChild child unlocked t).attempt.andThen fun outcome => ?_
    cases outcome with
    | ok r => exact ih _
    | error cause =>
      exact (moves_firstError (moves_rollbackSteps t enrolled pending)).andThen fun _ =>
        moves_failClosed _ _ _

theorem moves_allocateBip39Accounts (op : OperationId)
    (requests : List DerivedAccountRequest) (unlocked : Custody.UnlockedWallet) (t : Nat)
    (hV : ∀ seed, unlocked.bip39Seed derive = .ok seed → ValidUnder V derive w seed) :
    Moves crypto V w (allocateBip39Accounts crypto derive w op requests unlocked t) := by
  unfold allocateBip39Accounts
  split
  · exact moves_fail _
  cases hseed : unlocked.bip39Seed derive with
  | error f => exact fun e => by rw [lift_bind_error rfl]
  | ok seed =>
    intro e
    rw [lift_bind_ok rfl]
    exact ((moves_chooseAccountNumber _ _ _ _).andThen fun _ =>
      (moves_activateChildren (hV seed hseed) _ _ _ _ _).andThen fun _ =>
        moves_enrollChildren _ _ _ _) e

end

theorem moves_retireBip39Account (keyRef : KeyRef) (t : Nat) :
    Moves crypto V w (retireBip39Account crypto w keyRef t) :=
  (moves_read _).andThen fun _ => (moves_lift _).andThen fun _ =>
    (moves_registryCall (transition_retire crypto _ _ _)).andThen fun _ =>
    (moves_backendCall _).andThen fun _ => moves_deactivateEnrolledBip39Child keyRef

/-! ## Account steps -/

theorem accountStep_registry {f : Registry.AuditRecorder Audit.Journal →
    Registry.State Audit.Journal → Except Failure α × Registry.State Audit.Journal}
    (hf : Transition V f) (e : Engine) : AccountStep V e (registryCall crypto f e).2 := by
  have hstep : AccountStep V e
      (e.withRegistry (f (e.recorder crypto) e.registryState).2) := {
    auditKeys := rfl
    degraded := id
    journal := by
      rcases hf.entries (e.recorder crypto) e.registryState with h | h
      · exact Recorded.length_le h
      · exact Nat.le_of_eq (congrArg (·.chain.rows.length) h.symm)
    registry := .single (hf.effect (e.recorder crypto) e.registryState)
    enrolled := .refl _
    scopes := rfl }
  rw [registryCall]
  split
  · next h => rw [h] at hstep; exact hstep
  · next h => rw [h] at hstep; exact hstep.fail _

theorem dbAppendAudit_length {db db' : Db}
    (h : db.appendAudit crypto keys event payload = .ok db') :
    ∃ journal, db' = { db with journal } ∧
      db.journal.chain.rows.length ≤ journal.chain.rows.length := by
  obtain ⟨journal, hj, h⟩ := bind_eq_ok.mp h
  cases h
  exact ⟨journal, rfl, appendAudit_length hj ▸ Nat.le_succ _⟩

theorem Move.accountStep (h : Move crypto V w e e') : AccountStep V e e' := by
  cases h with
  | registry hf => exact accountStep_registry hf e
  | backends backends => exact ⟨rfl, id, Nat.le_refl _, .refl, .refl _, rfl⟩
  | degrade => exact ⟨rfl, fun _ => rfl, Nat.le_refl _, .refl, .refl _, rfl⟩
  | enroll hkey h =>
    obtain ⟨db', happ, h⟩ := bind_eq_ok.mp h
    cases h
    obtain ⟨journal, rfl, hlen⟩ := dbAppendAudit_length happ
    refine ⟨rfl, id, hlen, .refl, fun f row' hrow => ?_, rfl⟩
    dsimp only at hrow
    rw [Table.get?_set] at hrow
    split at hrow
    · next hf => cases hrow; exact .inr ⟨hf.symm, rfl⟩
    · exact .inl ⟨row', hrow, rfl, rfl, rfl⟩
  | switchOff p hp => exact ⟨rfl, id, Nat.le_refl _, .refl, .modify _ _, rfl⟩
  | refresh enrollment => exact ⟨rfl, id, Nat.le_refl _, .refl, .refl _, rfl⟩
  | audit h =>
    obtain ⟨journal, rfl, hlen⟩ := dbAppendAudit_length h
    exact ⟨rfl, id, hlen, .refl, .refl _, rfl⟩

/-- What is true of every write is true of the method. -/
theorem Moves.steps {x : EngineM α} (h : Moves crypto V w x) : Keeps (AccountStep V) x := by
  intro e
  have hmoves := h e
  generalize (x e).2 = e' at hmoves ⊢
  induction hmoves with
  | refl => exact .refl e
  | tail _ hmove ih => exact ih.trans hmove.accountStep

end BloomSigner
