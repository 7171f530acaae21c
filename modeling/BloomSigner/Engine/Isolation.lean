import BloomSigner.Engine.AccountEffects
import BloomSigner.Engine.Sign
import BloomSigner.Lib.Lists
import BloomSigner.Registry.Paths

/-! # Isolation of wallets

The key table has one row per public key, and two wallets imported from one mnemonic derive the
same public keys. The account calls of one wallet are framed here against the rows, the allocations
and the backend of another. -/

namespace BloomSigner

open Lib Lib.Program

variable {crypto : Crypto} {e e' : Engine} {A w : Token}

/-- The key rows enrolled for a wallet, by fingerprint. -/
def rowsOf (A : Token) (keys : Table Digest32 EnrolledKeyRow) (f : Digest32) :
    Option EnrolledKeyRow :=
  (keys.get? f).filter (·.walletId = some A)

/-- The wallet holds an available derived key under this fingerprint. -/
def LiveDerived (A : Token) (keys : Table Digest32 EnrolledKeyRow) (f : Digest32) : Prop :=
  ∃ row, rowsOf A keys f = some row ∧ row.authorityClass = .derived ∧ row.available = true

/-! ## The frame of a program -/

/-- What a program of another wallet may do: it rewrites key rows only where `C` does not protect
the rows of the wallet, and leaves the wallet's allocations and its backends alone. -/
structure Frame (A : Token) (C : (Digest32 → Option EnrolledKeyRow) → Prop) (e e' : Engine) :
    Prop where
  keys : C (rowsOf A e.db.enrolledKeys) →
    rowsOf A e'.db.enrolledKeys = rowsOf A e.db.enrolledKeys
  allocations : Registry.allocationsOf e'.db.registry A = Registry.allocationsOf e.db.registry A
  backends : ∀ b, e'.backends.get? (b, A) = e.backends.get? (b, A)
  tables : ∃ enrolledKeys registry journal,
    e'.db = { e.db with enrolledKeys, registry, journal }

variable {C : (Digest32 → Option EnrolledKeyRow) → Prop}

theorem Frame.refl (e : Engine) : Frame A C e e :=
  ⟨fun _ => rfl, rfl, fun _ => rfl, _, _, _, rfl⟩

theorem Frame.trans (e₁ e₂ e₃ : Engine) (h₁ : Frame A C e₁ e₂) (h₂ : Frame A C e₂ e₃) :
    Frame A C e₁ e₃ where
  keys hC := by
    have hkeys := h₁.keys hC
    exact (h₂.keys (hkeys ▸ hC)).trans hkeys
  allocations := h₂.allocations.trans h₁.allocations
  backends b := (h₂.backends b).trans (h₁.backends b)
  tables := by
    obtain ⟨_, _, _, hdb₁⟩ := h₁.tables
    obtain ⟨keys, registry, journal, hdb₂⟩ := h₂.tables
    exact ⟨keys, registry, journal, by rw [hdb₂, hdb₁]⟩

/-- A program whose every run is framed. -/
abbrev Framed (A : Token) (C : (Digest32 → Option EnrolledKeyRow) → Prop) (x : EngineM α) : Prop :=
  Keeps (Frame A C) x

theorem Framed.andThen {x : EngineM α} {f : α → EngineM β} (hx : Framed A C x)
    (hf : ∀ a, Framed A C (f a)) : Framed A C (x >>= f) :=
  Keeps.bind Frame.trans hx hf

theorem framed_pure (a : α) : Framed A C (pure a) := keeps_pure Frame.refl a

theorem framed_fail (f : Failure) : Framed A C (.fail f : EngineM α) := keeps_fail Frame.refl f

theorem framed_lift (r : Except Failure α) : Framed A C (liftM r) := keeps_lift Frame.refl r

theorem framed_read (f : Engine → α) : Framed A C (.read f) := fun e => .refl e

theorem Frame.fail (h : Frame A C e e') (f : Failure) : Frame A C e (e'.fail f) := by
  cases f <;> exact ⟨h.keys, h.allocations, h.backends, h.tables⟩

theorem framed_firstError {xs : List (EngineM Unit)} (h : ∀ x ∈ xs, Framed A C x) :
    Framed A C (firstError xs) := by
  induction xs with
  | nil => exact framed_pure _
  | cons x xs ih =>
    have hx : Framed A C (attempt x) := Keeps.attempt (h x List.mem_cons_self)
    have hxs := ih fun y hy => h y (List.mem_cons_of_mem _ hy)
    exact hx.andThen fun first => hxs.andThen fun rest => framed_pure _

theorem framed_failClosed (what : String) (cause : ProtocolError)
    (rollback : Except ProtocolError Unit) : Framed A C (failClosed what cause rollback : EngineM α) := by
  unfold failClosed
  split <;> exact framed_fail _

/-! ## Single statements -/

theorem framed_registryCall {f : Registry.AuditRecorder Audit.Journal →
    Registry.State Audit.Journal → Except Failure α × Registry.State Audit.Journal} (hw : A ≠ w)
    (hf : ∀ audit s, Registry.OnlyWallet w s.db (f audit s).2.db) :
    Framed A C (registryCall crypto f) := by
  intro e
  have hframe : Frame A C e (e.withRegistry (f (e.recorder crypto) e.registryState).2) :=
    ⟨fun _ => rfl, hf _ _ A hw, fun _ => rfl, _, _, _, rfl⟩
  rw [registryCall]
  split
  · next h => rw [h] at hframe; exact hframe
  · next h => rw [h] at hframe; exact hframe.fail _

theorem framed_tombstoneAllocation (hw : A ≠ w) (op : String) (t : Nat) :
    Framed A C (tombstoneAllocation crypto w op t) :=
  framed_registryCall hw fun _ s => Registry.tombstone_onlyWallet s w op t

/-- A call on the backend of a key of another wallet. -/
theorem framed_backendCall {f : Backends → Except Failure Backends}
    (hf : ∀ backends backends', f backends = .ok backends' →
      ∀ b, backends'.get? (b, A) = backends.get? (b, A)) : Framed A C (backendCall f) := by
  intro e
  rw [backendCall]
  split
  · next h => exact ⟨fun _ => rfl, rfl, hf _ _ h, _, _, _, rfl⟩
  · exact .refl e

theorem setLocal_get?_of_ne {backends : Backends} {keyRef : KeyRef}
    (h : keyRef.backendInstance ≠ A) (backend : LocalBackend) (b : Token) :
    (backends.setLocal keyRef backend).get? (b, A) = backends.get? (b, A) := by
  rw [Backends.setLocal, Table.get?_set, if_neg]
  intro he
  exact h (congrArg Prod.snd he).symm

theorem retireBip39Child_get? {backends backends' : Backends} {keyRef : KeyRef}
    (hne : keyRef.backendInstance ≠ A) (h : backends.retireBip39Child keyRef = .ok backends')
    (b : Token) : backends'.get? (b, A) = backends.get? (b, A) := by
  obtain ⟨_, -, h⟩ := bind_eq_ok.mp h
  obtain ⟨backend, -, h⟩ := bind_eq_ok.mp h
  cases h
  exact setLocal_get?_of_ne hne backend b

theorem rollbackLocalDerivedKey_get? {backends backends' : Backends} {keyRef : KeyRef}
    (hne : keyRef.backendInstance ≠ A) (h : backends.rollbackLocalDerivedKey keyRef = .ok backends')
    (b : Token) : backends'.get? (b, A) = backends.get? (b, A) := by
  obtain ⟨_, -, h⟩ := bind_eq_ok.mp h
  obtain ⟨backend, -, h⟩ := bind_eq_ok.mp h
  cases h
  exact setLocal_get?_of_ne hne backend b

theorem registerBip39Child_get? {backends backends' : Backends} {description : KeyDescription}
    (hne : description.keyRef.backendInstance ≠ A)
    (h : backends.registerBip39Child crypto w description op = .ok backends') (b : Token) :
    backends'.get? (b, A) = backends.get? (b, A) := by
  obtain ⟨_, -, h⟩ := bind_eq_ok.mp h
  obtain ⟨_, -, h⟩ := bind_eq_ok.mp h
  obtain ⟨backend, -, h⟩ := bind_eq_ok.mp h
  cases h
  exact setLocal_get?_of_ne hne backend b

/-- Switching a fingerprint off is unseen by a wallet that has no live derived key there. -/
theorem rowsOf_deactivateDerived {db : Db} (h : ¬LiveDerived A db.enrolledKeys f) :
    rowsOf A (db.deactivateDerived f).enrolledKeys = rowsOf A db.enrolledKeys := by
  funext g
  rw [rowsOf, Db.deactivateDerived, rowsOf]
  dsimp only
  rw [Table.get?_modify]
  cases hrow : db.enrolledKeys.get? g with
  | none => rfl
  | some row =>
    rw [Option.map_some]
    split
    · next hg =>
      rw [Bool.decide_and, Bool.and_eq_true, decide_eq_true_eq, decide_eq_true_eq] at hg
      obtain ⟨rfl, hderived⟩ := hg
      by_cases hwallet : row.walletId = some A
      · have hoff : row.available = false := by
          by_contra hon
          refine h ⟨row, ?_, hderived, by simpa using hon⟩
          rw [rowsOf, hrow, Option.filter_some, if_pos (by simpa using hwallet)]
        rw [← hoff]
      · rw [Option.filter_some, Option.filter_some, if_neg (by simpa using hwallet),
          if_neg (by simpa using hwallet)]
    · rfl

theorem framed_deactivateDerived
    (h : ∀ keys, C (rowsOf A keys) → ¬LiveDerived A keys f) :
    Framed A C (execute (·.deactivateDerived f)) :=
  fun _ => ⟨fun hC => rowsOf_deactivateDerived (h _ hC), rfl, fun _ => rfl, _, _, _, rfl⟩

theorem framed_mutation (body : Engine → Db → Except Failure (Outcome α))
    (h : ∀ e db a, body e e.db = .ok (.commit db a) → Frame A C e { e with db }) :
    Framed A C fun e => mutation crypto e (body e) := by
  intro e
  show Frame A C e (mutation crypto e (body e)).2
  unfold mutation
  split
  · exact .refl e
  split
  · cases hb : body e e.db with
    | error f => exact (Frame.refl e).fail f
    | ok outcome =>
      cases outcome with
      | commit db a => exact h e db a hb
      | drop a => exact .refl e
  · exact ⟨fun _ => rfl, rfl, fun _ => rfl, _, _, _, rfl⟩

/-- Enrolling a key for another wallet takes the row the wallet may hold there. -/
theorem rowsOf_set (hw : w ≠ A) (h : rowsOf A keys f = none) {row : EnrolledKeyRow}
    (hrow : row.walletId = some w) : rowsOf A (keys.set f row) = rowsOf A keys := by
  funext g
  rw [rowsOf, Table.get?_set]
  split
  · next hg =>
    rw [hg, h, Option.filter_some, if_neg]
    rw [hrow, decide_eq_true_eq, Option.some.injEq]
    exact hw
  · rfl

theorem framed_enrollBip39Child (hw : w ≠ A) (keyRef : KeyRef)
    (h : ∀ keys, C (rowsOf A keys) → rowsOf A keys keyRef.publicKeyFingerprint = none) :
    Framed A C (enrollBip39Child crypto w keyRef) := by
  intro e
  unfold enrollBip39Child precheck
  split
  · exact .refl e
  · refine framed_mutation (fun e => enrollWalletKeyBody crypto e.auditKeys .derived
      "key.derived_enrolled" w keyRef) (fun e db a hb => ?_) e
    obtain ⟨db', happ, hb⟩ := bind_eq_ok.mp hb
    cases hb
    obtain ⟨journal, rfl⟩ := appendAudit_eq_ok happ
    exact ⟨fun hC => rowsOf_set hw (h _ hC) rfl, rfl, fun _ => rfl, _, _, _, rfl⟩

/-- The row that is switched off is read under the wallet that asks for it. -/
theorem framed_deactivateEnrolledBip39Child (hw : w ≠ A) (keyRef : KeyRef) :
    Framed A C (deactivateEnrolledBip39Child crypto w keyRef) := by
  refine framed_mutation (fun _ => deactivateEnrolledBip39ChildBody w keyRef) fun e db a hb => ?_
  obtain ⟨row, hrow, hb⟩ := bind_eq_ok.mp hb
  cases hb
  rw [okOr_eq_ok, Option.filter_eq_some_iff, decide_eq_true_eq] at hrow
  have hnot : row.walletId ≠ some A := by
    rw [hrow.2]
    simpa using hw
  refine ⟨fun _ => funext fun g => ?_, rfl, fun _ => rfl, _, _, _, rfl⟩
  rw [rowsOf, rowsOf, Table.get?_update]
  split
  · next hg =>
    rw [hg, hrow.1, Option.map_some, Option.filter_some, Option.filter_some,
      if_neg (by simpa using hnot), if_neg (by simpa using hnot)]
  · rfl

/-! ## The calls -/

theorem framed_tombstoneFailedBip39Account (keyRef : KeyRef) (t : Nat)
    (hA : ∀ d ∈ keyRef.derivation, d.isBip39Of A = false)
    (hC : ∀ keys, C (rowsOf A keys) → ¬LiveDerived A keys keyRef.publicKeyFingerprint) :
    Framed A C (tombstoneFailedBip39Account crypto keyRef t) := by
  unfold tombstoneFailedBip39Account
  split
  · next w profile path hd =>
    have hw : A ≠ w := by
      have hof := hA _ hd
      rw [DerivationRef.isBip39Of, decide_eq_false_iff_not] at hof
      exact fun he => hof he.symm
    refine (framed_read _).andThen fun operation => ?_
    cases operation with
    | none => exact framed_pure ()
    | some op =>
      exact (framed_deactivateDerived hC).andThen fun _ => framed_tombstoneAllocation hw op t
  · exact framed_pure ()

theorem framed_retireBip39Account (hw : w ≠ A) {keyRef : KeyRef}
    (hinst : keyRef.backendInstance ≠ A) (t : Nat) :
    Framed A C (retireBip39Account crypto w keyRef t) :=
  (framed_read _).andThen fun _ => (framed_lift _).andThen fun _ =>
    (framed_registryCall hw.symm fun _ s => Registry.retire_onlyWallet s w _ t).andThen fun _ =>
    (framed_backendCall fun _ _ h => retireBip39Child_get? hinst h).andThen fun _ =>
    framed_deactivateEnrolledBip39Child hw keyRef

/-- The loop over a list of abandoned allocations of other wallets. -/
theorem framed_abandon (t : Nat) (incomplete : List (Token × String × Digest32))
    (h : ∀ r ∈ incomplete, A ≠ r.1 ∧ ∀ keys, C (rowsOf A keys) → ¬LiveDerived A keys r.2.2) :
    Framed A C (Program.forEach (fun (walletId, operationId, fingerprint) => do
      execute (·.deactivateDerived fingerprint)
      tombstoneAllocation crypto walletId operationId t) incomplete) := by
  induction incomplete with
  | nil => exact framed_pure ()
  | cons r incomplete ih =>
    obtain ⟨hw, hC⟩ := h r List.mem_cons_self
    have hr : Framed A C (execute (·.deactivateDerived r.2.2) >>= fun _ =>
        tombstoneAllocation crypto r.1 r.2.1 t) :=
      (framed_deactivateDerived hC).andThen fun _ => framed_tombstoneAllocation hw _ t
    exact hr.andThen fun _ => ih fun r' hr' => h r' (List.mem_cons_of_mem _ hr')

/-- The allocations `recover_incomplete_bip39_allocations` abandons. -/
theorem mem_incompleteAllocations (h : incompleteAllocations db = .ok incomplete) :
    r ∈ incomplete ↔ ∃ row, db.registry.allocations.get? (r.1, r.2.1) = some row ∧
      row.state = .activated ∧ row.authorityCommitted = false ∧
      row.publicKeyFingerprint = some r.2.2 := by
  rw [mem_mapM_ok h]
  constructor
  · rintro ⟨x, hx, hxr⟩
    obtain ⟨f, hf, hxr⟩ := bind_eq_ok.mp hxr
    cases hxr
    obtain ⟨hmem, hsel⟩ := List.mem_filter.mp hx
    rw [decide_eq_true_eq] at hsel
    exact ⟨x.2, Table.get?_eq_some.mpr hmem, hsel.1, by simpa using hsel.2, okOr_eq_ok.mp hf⟩
  · rintro ⟨row, hrow, hstate, hcommitted, hf⟩
    refine ⟨((r.1, r.2.1), row), List.mem_filter.mpr ⟨Table.get?_eq_some.mp hrow, ?_⟩, ?_⟩
    · simp [hstate, hcommitted]
    · rw [hf]
      rfl

theorem framed_recoverIncompleteBip39Allocations (t : Nat) (e : Engine)
    (hA : ∀ k row, e.db.registry.allocations.get? k = some row → row.state = .activated →
      row.authorityCommitted = false → k.1 ≠ A)
    (hC : ∀ k row f, e.db.registry.allocations.get? k = some row → row.state = .activated →
      row.authorityCommitted = false → row.publicKeyFingerprint = some f →
      ∀ keys, C (rowsOf A keys) → ¬LiveDerived A keys f) :
    Frame A C e (recoverIncompleteBip39Allocations crypto t e).2 := by
  unfold recoverIncompleteBip39Allocations
  rw [read_bind]
  cases hlist : incompleteAllocations e.db with
  | error f => rw [lift_bind_error rfl]; exact .refl e
  | ok incomplete =>
    rw [lift_bind_ok rfl]
    refine framed_abandon t incomplete (fun r hr => ?_) e
    obtain ⟨row, hrow, hstate, hcommitted, hf⟩ := (mem_incompleteAllocations hlist).mp hr
    exact ⟨(hA _ row hrow hstate hcommitted).symm, hC _ row _ hrow hstate hcommitted hf⟩

/-! ## The children of an allocation -/

/-- The account of a family at an account number. -/
def DerivationProfile.familyAccount (number : Nat) : DerivationProfile → Nat
  | .bip44EvmSecp256k1V1 => 0
  | .bip44SolanaSlip10Ed25519V1 => number

section
variable (crypto) (derive : Derivation)

/-- The account number the requests of a wallet share, read off the registry. -/
def plannedNumber (registry : Registry.RegistryDb) (walletId : Token)
    (requests : List DerivedAccountRequest) (seed : List UInt8) : Except Failure Nat := do
  let number ← Registry.nextAccountNumber registry walletId
  if (orderRequests requests).any (·.derivationProfile = .bip44EvmSecp256k1V1) then
    okOr ((Registry.nextValidIndexLoop (isInvalidChild derive seed 0)
        (2 ^ 32 - 1 - number) number).map Prod.fst)
      (error .limitExceededOperations "account number space is exhausted")
  else return number

/-- The fingerprint of the child a family is given at an account number. -/
def plannedChild (registry : Registry.RegistryDb) (walletId : Token)
    (custodyOperationId : OperationId) (seed : List UInt8) (number nowMs : Nat)
    (request : DerivedAccountRequest) : Except Failure Digest32 := do
  let account ← Registry.reservedAccount registry
    (familyRequest crypto derive walletId custodyOperationId seed number nowMs request)
  let spkiDer ← deriveChild derive seed request.derivationProfile account number
  return crypto.sha256 spkiDer

end

variable {derive : Derivation}

theorem skipInvalidChildren_eq_ok {seed : List UInt8} {fuel number n : Nat}
    (h : skipInvalidChildren crypto derive w seed t fuel number e = (.ok n, e')) :
    (Registry.nextValidIndexLoop (isInvalidChild derive seed 0) fuel number).map Prod.fst =
      some n := by
  induction fuel generalizing number e with
  | zero =>
    unfold skipInvalidChildren at h
    unfold Registry.nextValidIndexLoop
    split at h
    · obtain ⟨_, _, -, h⟩ := bind_apply_eq_ok h
      cases h
    · next hvalid => cases h; rw [if_neg hvalid]; rfl
  | succ fuel ih =>
    unfold skipInvalidChildren at h
    unfold Registry.nextValidIndexLoop
    split at h
    · next hinvalid =>
      obtain ⟨_, e₁, -, h⟩ := bind_apply_eq_ok h
      rw [if_pos hinvalid, Option.map_map]
      exact ih h
    · next hvalid => cases h; rw [if_neg hvalid]; rfl

theorem chooseAccountNumber_eq_ok {seed : List UInt8} {requests : List DerivedAccountRequest}
    (h : chooseAccountNumber crypto derive w (orderRequests requests) seed t e = (.ok n, e')) :
    plannedNumber derive e.db.registry w requests seed = .ok n := by
  unfold chooseAccountNumber at h
  rw [read_bind] at h
  rw [plannedNumber]
  cases hnext : Registry.nextAccountNumber e.db.registry w with
  | error f => rw [hnext, lift_bind_error rfl] at h; cases h
  | ok number =>
    rw [hnext, lift_bind_ok rfl] at h
    rw [bind_ok]
    split at h
    · next hevm => rw [if_pos hevm, skipInvalidChildren_eq_ok h]; rfl
    · next hevm => cases h; rw [if_neg hevm]; rfl

theorem resolveAccount_familyRequest (registry : Registry.RegistryDb) (op : OperationId)
    (seed : List UInt8) (number t : Nat) (request : DerivedAccountRequest) :
    Registry.resolveAccount registry (familyRequest crypto derive w op seed number t request) =
      .ok (request.derivationProfile.familyAccount number) := by
  cases hp : request.derivationProfile with
  | bip44EvmSecp256k1V1 =>
    simp only [Registry.resolveAccount, familyRequest, hp]
    rw [if_neg (by decide)]
    rfl
  | bip44SolanaSlip10Ed25519V1 => simp only [Registry.resolveAccount, familyRequest, hp]; rfl

/-- The rows of the wallet since the call began: the ones it found keep their account, the ones it
reserved are at the account of their family. -/
structure Planned (w : Token) (number : Nat) (registry₀ registry : Registry.RegistryDb) :
    Prop where
  kept : ∀ op row₀, registry₀.allocations.get? (w, op) = some row₀ →
    ∃ row, registry.allocations.get? (w, op) = some row ∧ row.account = row₀.account
  fresh : ∀ op row, registry.allocations.get? (w, op) = some row →
    registry₀.allocations.get? (w, op) = none →
    ∃ profile : DerivationProfile, row.profile = profile.asStr ∧
      row.account = profile.familyAccount number

variable {registry₀ registry registry' : Registry.RegistryDb}

theorem Planned.refl (registry : Registry.RegistryDb) : Planned w number registry registry where
  kept _ row h := ⟨row, h, rfl⟩
  fresh _ _ h hnone := by rw [hnone] at h; cases h

theorem Planned.of_eq (h : Planned w number registry₀ registry)
    (heq : registry'.allocations = registry.allocations) : Planned w number registry₀ registry' :=
  ⟨heq ▸ h.kept, heq ▸ h.fresh⟩

/-- A call that reserves no row. -/
theorem Planned.effect (h : Planned w number registry₀ registry)
    (heff : Registry.Effect (fun _ _ => False) registry registry') :
    Planned w number registry₀ registry' := by
  cases heff with
  | burned hall _ _ _ => exact h.of_eq hall
  | reserved _ _ _ hfalse _ => exact hfalse.elim
  | relabelled k row row' hrow hall hslot _ _ =>
    simp only [Registry.AllocationRow.slot, Prod.mk.injEq] at hslot
    constructor
    · intro op row₀ h₀
      obtain ⟨r, hr, hacc⟩ := h.kept op row₀ h₀
      rw [hall, Table.get?_update]
      split
      · next hk =>
        rw [hk, hrow] at hr
        cases hr
        exact ⟨row', by rw [hk, hrow]; rfl, hslot.2.2.1.trans hacc⟩
      · exact ⟨r, hr, hacc⟩
    · intro op r hr hnone
      rw [hall, Table.get?_update] at hr
      split at hr
      · next hk =>
        rw [hk, hrow] at hr
        cases hr
        obtain ⟨profile, hp, hacc⟩ := h.fresh op row (hk ▸ hrow) hnone
        exact ⟨profile, hslot.1.trans hp, hslot.2.2.1.trans hacc⟩
      · exact h.fresh op r hr hnone

theorem Planned.effects (h : Planned w number registry₀ registry)
    (heff : Relation.ReflTransGen (Registry.Effect fun _ _ => False) registry registry') :
    Planned w number registry₀ registry' := by
  induction heff with
  | refl => exact h
  | tail _ heff ih => exact ih.effect heff

theorem registryCall_eq_ok {f : Registry.AuditRecorder Audit.Journal →
    Registry.State Audit.Journal → Except Failure α × Registry.State Audit.Journal}
    (h : registryCall crypto f e = (.ok a, e')) :
    ∃ s, f (e.recorder crypto) e.registryState = (.ok a, s) ∧ e' = e.withRegistry s := by
  rw [registryCall] at h
  split at h
  · next s hf => cases h; exact ⟨s, hf, rfl⟩
  · cases h

/-- A transition of an existing row keeps the plan. -/
theorem Planned.registryCall {f : Registry.AuditRecorder Audit.Journal →
    Registry.State Audit.Journal → Except Failure α × Registry.State Audit.Journal}
    (hplan : Planned w number registry₀ e.db.registry)
    (hf : ∀ audit s, Registry.Effect (fun _ _ => False) s.db (f audit s).2.db)
    (h : registryCall crypto f e = (.ok a, e')) : Planned w number registry₀ e'.db.registry := by
  obtain ⟨s, hs, rfl⟩ := registryCall_eq_ok h
  have heff := hf (e.recorder crypto) e.registryState
  rw [hs] at heff
  exact hplan.effect heff

section
variable {op : OperationId} {seed : List UInt8} {number t : Nat} {request : DerivedAccountRequest}

/-- The account a family is given is the one its request had when the call began. -/
theorem Planned.reservedAccount (hplan : Planned w number registry₀ s.db)
    (h : Registry.prepareAllocationAt crypto.sha256 audit s
      (familyRequest crypto derive w op seed number t request) = (.ok r, s')) :
    Registry.reservedAccount registry₀ (familyRequest crypto derive w op seed number t request) =
      .ok r.account := by
  obtain ⟨hprofile, hacc, -⟩ := Registry.prepareAllocationAt_target h
  have hcases := Registry.prepareAllocationAt_ok h
  generalize hreq : familyRequest crypto derive w op seed number t request = req at *
  have hresolve : ∀ registry, Registry.resolveAccount registry req =
      .ok (request.derivationProfile.familyAccount number) := by
    intro registry
    rw [← hreq]
    exact resolveAccount_familyRequest registry op seed number t request
  have hwallet : req.walletId = w := by rw [← hreq]; rfl
  rw [Registry.reservedAccount, Registry.loadAllocation, hwallet] at hacc ⊢
  rw [hwallet] at hcases
  cases h₀ : registry₀.allocations.get? (w, req.operationId) with
  | some row₀ =>
    obtain ⟨row, hrow, haccount⟩ := hplan.kept _ _ h₀
    rw [hrow] at hacc
    rw [← hacc]
    exact congrArg Except.ok haccount.symm
  | none =>
    dsimp only
    rw [hresolve]
    rcases hcases with ⟨row, hrow, rfl, -⟩ | ⟨row, hrow, -, -⟩
    · -- a row reserved since then under the same profile
      obtain ⟨profile, hp, haccount⟩ := hplan.fresh _ _ hrow h₀
      have hsame : profile = request.derivationProfile := by
        refine DerivationProfile.asStr_injective (hp.symm.trans (hprofile.trans ?_))
        rw [← hreq]
        rfl
      rw [hrow] at hacc
      rw [← hacc, ← hsame]
      exact congrArg Except.ok haccount.symm
    · rw [hrow, hresolve] at hacc
      exact hacc

/-- A reservation is kept at the account of its family. -/
theorem Planned.prepare (hplan : Planned w number registry₀ s.db)
    (h : Registry.prepareAllocationAt crypto.sha256 audit s
      (familyRequest crypto derive w op seed number t request) = (.ok r, s')) :
    Planned w number registry₀ s'.db := by
  have hacc := hplan.reservedAccount h
  obtain ⟨hprofile, -, -⟩ := Registry.prepareAllocationAt_target h
  rcases Registry.prepareAllocationAt_ok h with ⟨_, -, -, rfl⟩ | ⟨row, hnone, hr, hres⟩
  · exact hplan
  have hget := fun k => Table.get?_insert? (j := k) hres.inserted
  constructor
  · intro op' row₀ h₀
    obtain ⟨row', hrow', haccount⟩ := hplan.kept op' row₀ h₀
    refine ⟨row', ?_, haccount⟩
    rw [hget, if_neg]
    · exact hrow'
    · intro hk
      rw [hk] at hrow'
      exact absurd (hrow'.symm.trans hnone) (by simp)
  · intro op' row' hrow' hnone'
    rw [hget] at hrow'
    split at hrow'
    · next hk =>
      cases hrow'
      refine ⟨request.derivationProfile, ?_, ?_⟩
      · rw [hr] at hprofile
        exact hprofile
      · rw [Prod.mk.injEq] at hk
        have hload : Registry.loadAllocation registry₀
            (familyRequest crypto derive w op seed number t request).walletId op' = none := hnone'
        rw [Registry.reservedAccount, ← hk.2, hload] at hacc
        dsimp only at hacc
        rw [resolveAccount_familyRequest, hr] at hacc
        exact (Except.ok.inj hacc).symm
    · exact hplan.fresh op' row' hrow' hnone'

/-- A child that is activated is the one planned when the call began. -/
theorem activateBip39Child_eq_ok (hplan : Planned w number registry₀ e.db.registry)
    (h : activateBip39Child crypto derive
      (familyRequest crypto derive w op seed number t request) request.derivationProfile seed e =
        (.ok child, e')) :
    plannedChild crypto derive registry₀ w op seed number t request = .ok child.fingerprint ∧
      Planned w number registry₀ e'.db.registry := by
  unfold activateBip39Child at h
  obtain ⟨r, e₁, hprep, h⟩ := bind_apply_eq_ok h
  obtain ⟨s, hreserve, rfl⟩ := registryCall_eq_ok hprep
  have hplan₀ : Planned w number registry₀ e.registryState.db := hplan
  have hacc := hplan₀.reservedAccount hreserve
  have hplan₁ : Planned w number registry₀ (e.withRegistry s).db.registry :=
    hplan₀.prepare hreserve
  obtain ⟨-, -, hindex⟩ := Registry.prepareAllocationAt_target hreserve
  obtain ⟨spkiDer, e₂, hderive, h⟩ := bind_apply_eq_ok h
  cases hderive' : deriveChild derive seed request.derivationProfile r.account r.index with
  | error f => rw [hderive'] at hderive; cases hderive
  | ok der =>
    rw [hderive'] at hderive
    cases hderive
    obtain ⟨_, e₃, hci, h⟩ := bind_apply_eq_ok h
    obtain ⟨_, e₄, hca, h⟩ := bind_apply_eq_ok h
    obtain ⟨_, e₅, hact, h⟩ := bind_apply_eq_ok h
    cases h
    have hplan₃ := hplan₁.registryCall (fun _ s => Registry.commitIndex_effect s _ _ _) hci
    have hplan₄ := hplan₃.registryCall (fun _ s => Registry.commitAccount_effect s _ _ _ _ _) hca
    refine ⟨?_, hplan₄.registryCall (fun _ s => Registry.activate_effect s _ _ _) hact⟩
    rw [plannedChild, hacc, bind_ok]
    -- only the EVM family derives from its index, and that is the number
    have hsame : deriveChild derive seed request.derivationProfile r.account number =
        deriveChild derive seed request.derivationProfile r.account r.index := by
      cases hp : request.derivationProfile with
      | bip44EvmSecp256k1V1 =>
        rw [hindex number]
        simp only [familyRequest, hp]
        rfl
      | bip44SolanaSlip10Ed25519V1 => rfl
    rw [hsame, hderive', bind_ok]
    rfl

/-- The children an allocation activates, in the order of its requests. -/
theorem activateChildren_eq_ok {ordered : List DerivedAccountRequest}
    {activated children : List ActivatedChild}
    (hplan : Planned w number registry₀ e.db.registry)
    (h : activateChildren crypto derive w op seed number t ordered activated e =
      (.ok children, e')) :
    ∃ fresh, children = activated ++ fresh ∧ List.Forall₂ (fun request child =>
      plannedChild crypto derive registry₀ w op seed number t request =
        .ok child.fingerprint) ordered fresh := by
  induction ordered generalizing activated e with
  | nil => cases h; exact ⟨[], (List.append_nil _).symm, .nil⟩
  | cons request ordered ih =>
    unfold activateChildren at h
    obtain ⟨outcome, e₁, hchild, h⟩ := bind_apply_eq_ok h
    cases outcome with
    | error cause =>
      obtain ⟨_, _, -, h⟩ := bind_apply_eq_ok h
      cases h
    | ok child =>
      obtain ⟨hfp, hplan₁⟩ := activateBip39Child_eq_ok hplan (attempt_eq_ok hchild)
      obtain ⟨fresh, rfl, hall⟩ := ih hplan₁ h
      exact ⟨child :: fresh, by rw [List.append_assoc]; rfl, .cons hfp hall⟩

end

/-! ## Allocation -/

theorem framed_skipInvalidChildren (hw : A ≠ w) (seed : List UInt8) (t fuel number : Nat) :
    Framed A C (skipInvalidChildren crypto derive w seed t fuel number) := by
  induction fuel generalizing number with
  | zero =>
    unfold skipInvalidChildren
    split
    · exact (framed_registryCall hw fun _ _ => .of_eq rfl).andThen fun _ => framed_fail _
    · exact framed_pure _
  | succ fuel ih =>
    unfold skipInvalidChildren
    split
    · exact (framed_registryCall hw fun _ _ => .of_eq rfl).andThen fun _ => ih _
    · exact framed_pure _

theorem framed_chooseAccountNumber (hw : A ≠ w) (ordered : List DerivedAccountRequest)
    (seed : List UInt8) (t : Nat) :
    Framed A C (chooseAccountNumber crypto derive w ordered seed t) := by
  refine (framed_read _).andThen fun registry => (framed_lift _).andThen fun number => ?_
  split
  · exact framed_skipInvalidChildren hw _ _ _ _
  · exact framed_pure _

theorem framed_activateBip39Child {req : Registry.PrepareRequest} (hw : A ≠ req.walletId)
    (profile : DerivationProfile) (seed : List UInt8) :
    Framed A C (activateBip39Child crypto derive req profile seed) :=
  (framed_registryCall hw fun _ s => Registry.prepareAllocationAt_onlyWallet s req).andThen fun _ =>
    (framed_lift _).andThen fun _ =>
    (framed_registryCall hw fun _ s => Registry.commitIndex_onlyWallet s _ _ _).andThen fun _ =>
    (framed_registryCall hw fun _ s =>
      Registry.commitAccount_onlyWallet s _ _ _ _ _).andThen fun _ =>
    (framed_registryCall hw fun _ s => Registry.activate_onlyWallet s _ _ _).andThen fun _ =>
    framed_pure _

theorem framed_activateChildren (hw : A ≠ w) (op : OperationId) (seed : List UInt8)
    (number t : Nat) (ordered : List DerivedAccountRequest) (activated : List ActivatedChild) :
    Framed A C (activateChildren crypto derive w op seed number t ordered activated) := by
  induction ordered generalizing activated with
  | nil => exact framed_pure _
  | cons request ordered ih =>
    have hchild : Framed A C (attempt (activateBip39Child crypto derive
        (familyRequest crypto derive w op seed number t request) request.derivationProfile seed)) :=
      Keeps.attempt (framed_activateBip39Child hw _ _)
    refine hchild.andThen fun outcome => ?_
    cases outcome with
    | ok child => exact ih _
    | error cause =>
      have hundo : Framed A C (Program.forEach (fun child : ActivatedChild =>
          tombstoneAllocation crypto w child.operationId.asStr t) activated) :=
        Keeps.forEach Frame.trans Frame.refl (fun _ => framed_tombstoneAllocation hw _ t) activated
      exact hundo.andThen fun _ => framed_fail _

section
variable {F : Digest32 → Prop}

/-- The wallet has no key under any of the fingerprints. -/
def Clear (F : Digest32 → Prop) (rows : Digest32 → Option EnrolledKeyRow) : Prop :=
  ∀ f, F f → rows f = none

theorem Clear.not_liveDerived (hf : F f) (keys : Table Digest32 EnrolledKeyRow)
    (h : Clear F (rowsOf A keys)) : ¬LiveDerived A keys f := by
  rintro ⟨row, hrow, -⟩
  rw [h f hf] at hrow
  cases hrow

theorem framed_tombstoneFailedChild (hw : w ≠ A) {child : ActivatedChild}
    (hf : F child.fingerprint) (t : Nat) :
    Framed A (Clear F) (tombstoneFailedBip39Account crypto (child.keyRef crypto w) t) := by
  refine framed_tombstoneFailedBip39Account _ t (fun d hd => ?_) (Clear.not_liveDerived hf)
  cases hd
  exact decide_eq_false hw

theorem framed_rollbackChild (hw : w ≠ A) (child : ActivatedChild) :
    Framed A C (backendCall (·.rollbackLocalDerivedKey (child.keyRef crypto w))) :=
  framed_backendCall fun _ _ h => rollbackLocalDerivedKey_get? hw h

theorem framed_enrollActivatedChild (hw : w ≠ A) {child : ActivatedChild}
    (hf : F child.fingerprint) (unlocked : Custody.UnlockedWallet) (t : Nat) :
    Framed A (Clear F) (enrollActivatedChild crypto w child unlocked t) := by
  have hregister : Framed A (Clear F) (attempt (backendCall fun backends =>
      backends.registerBip39Child crypto w (child.description crypto w)
        (some child.operationId))) :=
    Keeps.attempt (framed_backendCall fun _ _ h => registerBip39Child_get? hw h)
  refine hregister.andThen fun registered => ?_
  cases registered with
  | error cause =>
    refine Framed.andThen (framed_firstError fun x hx => ?_) fun _ => framed_failClosed _ _ _
    rw [List.mem_singleton.mp hx]
    exact framed_tombstoneFailedChild hw hf t
  | ok u =>
    have henroll : Framed A (Clear F) (attempt (enrollBip39Child crypto w (child.keyRef crypto w))) :=
      Keeps.attempt (framed_enrollBip39Child hw _ fun _ h => h _ hf)
    refine henroll.andThen fun enrolled => ?_
    cases enrolled with
    | error cause =>
      refine Framed.andThen (framed_firstError fun x hx => ?_) fun _ => framed_failClosed _ _ _
      rcases List.mem_cons.mp hx with rfl | hx
      · exact framed_tombstoneFailedChild hw hf t
      · rw [List.mem_singleton.mp hx]
        exact framed_rollbackChild hw child
    | ok u => exact framed_pure _

/-- The keys enrolled so far are those of children with these fingerprints. -/
def EnrolledWithin (crypto : Crypto) (w : Token) (F : Digest32 → Prop)
    (enrolled : List AllocatedAccountKey) : Prop :=
  ∀ done ∈ enrolled, ∃ child : ActivatedChild, F child.fingerprint ∧
    done.keyRef = child.keyRef crypto w

theorem framed_rollbackSteps (hw : w ≠ A) (t : Nat) {enrolled : List AllocatedAccountKey}
    (henrolled : EnrolledWithin crypto w F enrolled) (pending : List ActivatedChild) :
    ∀ x ∈ rollbackSteps crypto w t enrolled pending, Framed A (Clear F) x := by
  intro x hx
  rcases List.mem_append.mp hx with hx | hx
  · obtain ⟨done, hdone, hx⟩ := List.mem_flatMap.mp hx
    obtain ⟨child, hf, hkey⟩ := henrolled done hdone
    rw [hkey] at hx
    rcases List.mem_cons.mp hx with rfl | hx
    · exact framed_tombstoneFailedChild hw hf t
    · rw [List.mem_singleton.mp hx]
      exact framed_rollbackChild hw child
  · obtain ⟨later, -, rfl⟩ := List.mem_map.mp hx
    exact framed_tombstoneAllocation hw.symm _ t

theorem enrollBip39Child_eq_ok {keyRef : KeyRef}
    (h : enrollBip39Child crypto w keyRef e = (.ok u, e')) :
    e'.db.enrolledKeys = e.db.enrolledKeys.set keyRef.publicKeyFingerprint
      ⟨keyRef, true, .derived, some w⟩ := by
  obtain ⟨_, -, h⟩ := precheck_eq_ok h
  obtain ⟨-, -, ⟨db, hb, rfl⟩ | ⟨hb, -⟩⟩ := mutation_eq_ok h
  · obtain ⟨db', happ, hb⟩ := bind_eq_ok.mp hb
    cases hb
    obtain ⟨journal, rfl⟩ := appendAudit_eq_ok happ
    rfl
  · obtain ⟨_, -, hb⟩ := bind_eq_ok.mp hb
    cases hb

/-- A child that is enrolled takes the row of its fingerprint. -/
theorem enrollActivatedChild_eq_ok {child : ActivatedChild}
    (h : enrollActivatedChild crypto w child unlocked t e = (.ok r, e')) :
    r.1 = child.keyRef crypto w ∧ e'.db.enrolledKeys = e.db.enrolledKeys.set child.fingerprint
      ⟨child.keyRef crypto w, true, .derived, some w⟩ := by
  unfold enrollActivatedChild at h
  obtain ⟨registered, e₁, hregister, h⟩ := bind_apply_eq_ok h
  cases registered with
  | error cause =>
    obtain ⟨rollback, e₂, -, h⟩ := bind_apply_eq_ok h
    cases rollback <;> cases h
  | ok u =>
    have hregister := attempt_eq_ok hregister
    have hdb : e₁.db = e.db := by
      rw [backendCall] at hregister
      split at hregister <;> cases hregister
      rfl
    obtain ⟨enrolled, e₂, henroll, h⟩ := bind_apply_eq_ok h
    cases enrolled with
    | error cause =>
      obtain ⟨rollback, e₃, -, h⟩ := bind_apply_eq_ok h
      cases rollback <;> cases h
    | ok u =>
      cases h
      exact ⟨rfl, hdb ▸ enrollBip39Child_eq_ok (attempt_eq_ok henroll)⟩

theorem framed_enrollChildren (hw : w ≠ A) (unlocked : Custody.UnlockedWallet) (t : Nat)
    {children : List ActivatedChild} (hchildren : ∀ child ∈ children, F child.fingerprint)
    {enrolled : List AllocatedAccountKey} (henrolled : EnrolledWithin crypto w F enrolled) :
    Framed A (Clear F) (enrollChildren crypto w unlocked t children enrolled) := by
  induction children generalizing enrolled with
  | nil => exact framed_pure _
  | cons child pending ih =>
    have hf := hchildren child List.mem_cons_self
    have hchild : Framed A (Clear F) (attempt (enrollActivatedChild crypto w child unlocked t)) :=
      Keeps.attempt (framed_enrollActivatedChild hw hf unlocked t)
    refine Keeps.bind_of (P := fun outcome => ∀ r, outcome = .ok r → r.1 = child.keyRef crypto w)
      Frame.trans hchild (fun s outcome s' hrun r hr => ?_) fun outcome hkey => ?_
    · rw [hr] at hrun
      exact (enrollActivatedChild_eq_ok (attempt_eq_ok hrun)).1
    cases outcome with
    | ok r =>
      refine ih (fun c hc => hchildren c (List.mem_cons_of_mem _ hc)) fun done hdone => ?_
      rcases List.mem_append.mp hdone with hdone | hdone
      · exact henrolled done hdone
      · rw [List.mem_singleton.mp hdone]
        exact ⟨child, hf, hkey r rfl⟩
    | error cause =>
      exact Framed.andThen (framed_firstError (framed_rollbackSteps hw t henrolled pending))
        fun _ => framed_failClosed _ _ _

end

/-- The fingerprints an allocation enrolls. -/
def PlannedChildren (crypto : Crypto) (derive : Derivation) (registry : Registry.RegistryDb)
    (w : Token) (op : OperationId) (requests : List DerivedAccountRequest)
    (unlocked : Custody.UnlockedWallet) (t : Nat) (f : Digest32) : Prop :=
  ∃ seed number, unlocked.bip39Seed derive = .ok seed ∧
    plannedNumber derive registry w requests seed = .ok number ∧
    ∃ request ∈ requests, plannedChild crypto derive registry w op seed number t request = .ok f

theorem mem_orderRequests {requests : List DerivedAccountRequest} :
    request ∈ orderRequests requests ↔ request ∈ requests := by
  rw [orderRequests, List.mem_append, List.mem_filter, List.mem_filter]
  cases hp : request.derivationProfile <;> simp

/-- Choosing a number burns invalid children and reserves nothing. -/
theorem Planned.of_choose {seed : List UInt8} {ordered : List DerivedAccountRequest}
    (h : chooseAccountNumber crypto derive w ordered seed t e = (.ok n, e')) :
    Planned w n e.db.registry e'.db.registry := by
  have hsteps : Keeps (AccountStep fun _ _ => False)
      (chooseAccountNumber crypto derive w ordered seed t) :=
    (moves_chooseAccountNumber (w := w) w ordered seed t).steps
  have hstep := hsteps e
  rw [h] at hstep
  exact (Planned.refl _).effects hstep.registry

/-- The children of an allocation that reaches its enrollment phase. -/
theorem activated_planned {requests : List DerivedAccountRequest}
    {unlocked : Custody.UnlockedWallet} {seed : List UInt8}
    (hseed : unlocked.bip39Seed derive = .ok seed)
    (hnumber : chooseAccountNumber crypto derive w (orderRequests requests) seed t e = (.ok n, e₁))
    (hchildren : activateChildren crypto derive w op seed n t (orderRequests requests) [] e₁ =
      (.ok children, e₂)) :
    List.Forall₂ (fun request child =>
      plannedChild crypto derive e.db.registry w op seed n t request = .ok child.fingerprint)
      (orderRequests requests) children ∧
    ∀ child ∈ children,
      PlannedChildren crypto derive e.db.registry w op requests unlocked t child.fingerprint := by
  obtain ⟨fresh, rfl, hall⟩ := activateChildren_eq_ok (.of_choose hnumber) hchildren
  refine ⟨hall, fun child hchild => ?_⟩
  obtain ⟨request, hrequest, hplanned⟩ := forall₂_mem_right hall hchild
  exact ⟨seed, n, hseed, chooseAccountNumber_eq_ok hnumber, request,
    mem_orderRequests.mp hrequest, hplanned⟩

theorem framed_allocateBip39Accounts (hw : w ≠ A) (op : OperationId)
    (requests : List DerivedAccountRequest) (unlocked : Custody.UnlockedWallet) (t : Nat)
    (e : Engine) :
    Frame A (Clear (PlannedChildren crypto derive e.db.registry w op requests unlocked t)) e
      (allocateBip39Accounts crypto derive w op requests unlocked t e).2 := by
  unfold allocateBip39Accounts
  split
  · exact .refl e
  cases hseed : unlocked.bip39Seed derive with
  | error f => rw [lift_bind_error rfl]; exact .refl e
  | ok seed =>
    rw [lift_bind_ok rfl]
    generalize hF : PlannedChildren crypto derive e.db.registry w op requests unlocked t = F
    have hchoose : Framed A (Clear F) (chooseAccountNumber crypto derive w (orderRequests requests)
        seed t) := framed_chooseAccountNumber hw.symm _ seed t
    replace hchoose := hchoose e
    cases hnumber : chooseAccountNumber crypto derive w (orderRequests requests) seed t e with
    | mk r e₁ =>
      rw [hnumber] at hchoose
      cases r with
      | error f => rw [bind_of_error hnumber]; exact hchoose
      | ok n =>
        rw [bind_of_ok hnumber]
        refine Frame.trans _ _ _ hchoose ?_
        have hactivate : Framed A (Clear F) (activateChildren crypto derive w op seed n t
            (orderRequests requests) []) := framed_activateChildren hw.symm op seed n t _ _
        replace hactivate := hactivate e₁
        cases hchildren : activateChildren crypto derive w op seed n t (orderRequests requests) []
            e₁ with
        | mk r e₂ =>
          rw [hchildren] at hactivate
          cases r with
          | error f => rw [bind_of_error hchildren]; exact hactivate
          | ok children =>
            rw [bind_of_ok hchildren]
            refine Frame.trans _ _ _ hactivate ?_
            have hplanned := (activated_planned hseed hnumber hchildren).2
            rw [hF] at hplanned
            exact framed_enrollChildren hw unlocked t hplanned
              (fun done hdone => (List.not_mem_nil hdone).elim) e₂

/-! ## What a call that succeeds has written -/

/-- The row of the fingerprint is enrolled for the wallet. -/
def HeldBy (w : Token) (f : Digest32) (keys : Table Digest32 EnrolledKeyRow) : Prop :=
  ∃ row, keys.get? f = some row ∧ row.walletId = some w

theorem HeldBy.rowsOf_eq_none (h : HeldBy w f keys) (hw : w ≠ A) : rowsOf A keys f = none := by
  obtain ⟨row, hrow, hwallet⟩ := h
  rw [rowsOf, hrow, Option.filter_some, if_neg]
  rw [hwallet, decide_eq_true_eq, Option.some.injEq]
  exact hw

theorem enrollChildren_heldBy {children : List ActivatedChild}
    (h : enrollChildren crypto w unlocked t children enrolled e = (.ok keys, e'))
    (hf : HeldBy w f e.db.enrolledKeys ∨ ∃ child ∈ children, child.fingerprint = f) :
    HeldBy w f e'.db.enrolledKeys := by
  induction children generalizing e enrolled with
  | nil =>
    cases h
    rcases hf with hf | ⟨_, hmem, -⟩
    · exact hf
    · cases hmem
  | cons child pending ih =>
    unfold enrollChildren at h
    obtain ⟨outcome, e₁, hchild, h⟩ := bind_apply_eq_ok h
    cases outcome with
    | error cause =>
      obtain ⟨rollback, _, -, h⟩ := bind_apply_eq_ok h
      cases rollback <;> cases h
    | ok r =>
      obtain ⟨-, hset⟩ := enrollActivatedChild_eq_ok (attempt_eq_ok hchild)
      refine ih h ?_
      by_cases hself : f = child.fingerprint
      · refine .inl ⟨⟨child.keyRef crypto w, true, .derived, some w⟩, ?_, rfl⟩
        rw [hset, Table.get?_set, if_pos hself]
      · rcases hf with ⟨row, hrow, hwallet⟩ | ⟨c, hc, hcf⟩
        · refine .inl ⟨row, ?_, hwallet⟩
          rw [hset, Table.get?_set, if_neg hself, hrow]
        · rcases List.mem_cons.mp hc with rfl | hc
          · exact absurd hcf.symm hself
          · exact .inr ⟨c, hc, hcf⟩

/-- An allocation that succeeds has enrolled every child it planned. -/
theorem allocateBip39Accounts_heldBy
    (h : allocateBip39Accounts crypto derive w op requests unlocked t e = (.ok keys, e'))
    (hf : PlannedChildren crypto derive e.db.registry w op requests unlocked t f) :
    HeldBy w f e'.db.enrolledKeys := by
  obtain ⟨seed, number, hseed, hnumber, request, hrequest, hchild⟩ := hf
  unfold allocateBip39Accounts at h
  split at h
  · cases h
  rw [lift_bind_ok hseed] at h
  obtain ⟨n, e₁, hchoose, hrest⟩ := bind_apply_eq_ok h
  obtain ⟨children, e₂, hactivate, henroll⟩ := bind_apply_eq_ok hrest
  have hn := chooseAccountNumber_eq_ok hchoose
  rw [hnumber] at hn
  cases hn
  obtain ⟨child, hmem, hplanned⟩ := forall₂_mem_left (activated_planned hseed hchoose hactivate).1
    (mem_orderRequests.mpr hrequest)
  rw [hchild] at hplanned
  exact enrollChildren_heldBy henroll (.inr ⟨child, hmem, (Except.ok.inj hplanned).symm⟩)

theorem registryCall_enrolledKeys {f : Registry.AuditRecorder Audit.Journal →
    Registry.State Audit.Journal → Except Failure α × Registry.State Audit.Journal} (e : Engine) :
    (registryCall crypto f e).2.db.enrolledKeys = e.db.enrolledKeys := by
  rw [registryCall]
  split
  · rfl
  · rw [Engine.fail_db]
    rfl

theorem not_liveDerived_deactivateDerived (A : Token) (db : Db) (f : Digest32) :
    ¬LiveDerived A (db.deactivateDerived f).enrolledKeys f := by
  rintro ⟨row, hrow, hderived, hon⟩
  rw [rowsOf, Db.deactivateDerived, Option.filter_eq_some_iff] at hrow
  dsimp only at hrow
  rw [Table.get?_modify, Option.map_eq_some_iff] at hrow
  obtain ⟨⟨row₀, -, hrow⟩, -⟩ := hrow
  split at hrow
  · rw [← hrow] at hon
    cases hon
  · next hnot =>
    rw [← hrow] at hderived
    exact hnot (by simpa using hderived)

/-- No key comes back when another one is switched off. -/
theorem LiveDerived.of_deactivateDerived {db : Db}
    (h : LiveDerived A (db.deactivateDerived g).enrolledKeys f) :
    LiveDerived A db.enrolledKeys f := by
  obtain ⟨row, hrow, hderived, hon⟩ := h
  rw [rowsOf, Db.deactivateDerived, Option.filter_eq_some_iff] at hrow
  dsimp only at hrow
  rw [Table.get?_modify, Option.map_eq_some_iff] at hrow
  obtain ⟨⟨row₀, hrow₀, heq⟩, hwallet⟩ := hrow
  split at heq
  · rw [← heq] at hon
    cases hon
  · subst heq
    exact ⟨row₀, by rw [rowsOf, Option.filter_eq_some_iff]; exact ⟨hrow₀, hwallet⟩, hderived, hon⟩

/-- What a completed loop over abandoned allocations leaves enrolled. -/
theorem abandon_not_liveDerived {incomplete : List (Token × String × Digest32)}
    (h : Program.forEach (fun (walletId, operationId, fingerprint) => do
      execute (·.deactivateDerived fingerprint)
      tombstoneAllocation crypto walletId operationId t) incomplete e = (.ok u, e'))
    (hf : ¬LiveDerived A e.db.enrolledKeys f ∨ ∃ r ∈ incomplete, r.2.2 = f) :
    ¬LiveDerived A e'.db.enrolledKeys f := by
  induction incomplete generalizing e with
  | nil =>
    cases h
    rcases hf with hf | ⟨_, hmem, -⟩
    · exact hf
    · cases hmem
  | cons r incomplete ih =>
    obtain ⟨_, e₁, hr, h⟩ := bind_apply_eq_ok h
    have hkeys : e₁.db.enrolledKeys = (e.db.deactivateDerived r.2.2).enrolledKeys := by
      have hkeep : ((tombstoneAllocation crypto r.1 r.2.1 t)
          { e with db := e.db.deactivateDerived r.2.2 }).2.db.enrolledKeys =
            (e.db.deactivateDerived r.2.2).enrolledKeys := registryCall_enrolledKeys _
      rw [← hkeep]
      exact congrArg (fun x : Except Failure Unit × Engine => x.2.db.enrolledKeys) hr.symm
    refine ih h ?_
    rw [hkeys]
    by_cases hself : r.2.2 = f
    · exact .inl (hself ▸ not_liveDerived_deactivateDerived A e.db r.2.2)
    · rcases hf with hf | ⟨r', hr', hrf⟩
      · exact .inl fun hlive => hf hlive.of_deactivateDerived
      · rcases List.mem_cons.mp hr' with rfl | hr'
        · exact absurd hrf hself
        · exact .inr ⟨r', hr', hrf⟩

/-! ## Sign requests of the wallet -/

/-- The request is for the wallet, with a key that is enrolled for it. -/
structure OwnRequest (A : Token) (db : Db) (request : UnsignedSignRequest) : Prop where
  wallet : request.walletId = A
  enrolled : (rowsOf A db.enrolledKeys request.keyRef.publicKeyFingerprint).isSome
  seed : ∀ w profile path, request.keyRef.derivation = some (.bip39Multicurve w profile path) →
    w = A

theorem requireActivatedChild_congr {db db' : Db} {key : KeyRef}
    (hA : ∀ w profile path, key.derivation = some (.bip39Multicurve w profile path) → w = A)
    (h : Registry.allocationsOf db'.registry A = Registry.allocationsOf db.registry A) :
    requireActivatedChild db' key = requireActivatedChild db key := by
  unfold requireActivatedChild
  split
  · next w profile path hd =>
    obtain rfl := hA w profile path hd
    have hselect : ∀ registry : Registry.RegistryDb, (registry.allocations.select fun k row =>
        k.1 = w ∧ row.publicKeyFingerprint = some key.publicKeyFingerprint) =
          (Registry.allocationsOf registry w).filter
            fun r => r.2.publicKeyFingerprint = some key.publicKeyFingerprint := by
      intro registry
      rw [Table.select, Registry.allocationsOf, Table.select, List.filter_filter]
      refine List.filter_congr fun r _ => ?_
      rw [Bool.decide_and, Bool.and_comm]
    rw [hselect, hselect, h]
  · rfl

/-- The checks of a request see no difference once its own rows are the same. -/
theorem admitRequest_congr {db db' : Db} {request : UnsignedSignRequest}
    (htables : ∃ enrolledKeys registry journal, db' = { db with enrolledKeys, registry, journal })
    (hkey : db'.enrolledKeys.get? request.keyRef.publicKeyFingerprint =
      db.enrolledKeys.get? request.keyRef.publicKeyFingerprint)
    (hchild : requireActivatedChild db' request.keyRef = requireActivatedChild db request.keyRef)
    (h : admitRequest answers db request now = .ok terms) :
    admitRequest answers db' request now = .ok terms := by
  obtain ⟨enrolledKeys, registry, journal, rfl⟩ := htables
  obtain ⟨_, hattempt, h⟩ := bind_eq_ok.mp h
  obtain ⟨approval, happroval, h⟩ := bind_eq_ok.mp h
  obtain ⟨_, hactive, h⟩ := bind_eq_ok.mp h
  obtain ⟨_, havailable, h⟩ := bind_eq_ok.mp h
  obtain ⟨_, hpetal, h⟩ := bind_eq_ok.mp h
  obtain ⟨_, hvalidate, h⟩ := bind_eq_ok.mp h
  have hsame : approval.terms.keyRef = request.keyRef := by
    obtain ⟨_, -, hvalidate⟩ := bind_eq_ok.mp hvalidate
    obtain ⟨_, hwallet, -⟩ := bind_eq_ok.mp hvalidate
    rw [reject_eq_ok, not_or, not_not, not_not] at hwallet
    exact hwallet.2.symm
  rw [requireKeyAvailable, hsame] at havailable
  rw [validatePetalKeyApproval, hsame] at hpetal
  refine bind_eq_ok.mpr ⟨(), hattempt, bind_eq_ok.mpr ⟨approval, happroval,
    bind_eq_ok.mpr ⟨(), hactive, bind_eq_ok.mpr ⟨(), ?_, bind_eq_ok.mpr ⟨(), ?_,
      bind_eq_ok.mpr ⟨(), hvalidate, h⟩⟩⟩⟩⟩⟩
  · rw [requireKeyAvailable, hsame, hkey, hchild]
    exact havailable
  · rw [validatePetalKeyApproval, hsame]
    dsimp only at hkey ⊢
    rw [hkey]
    exact hpetal

/-- Reserving an operation reads and writes none of the tables an account call touches. -/
theorem admitOperation_congr {db db₁ : Db} {request : UnsignedSignRequest}
    (enrolledKeys : Table Digest32 EnrolledKeyRow) (registry : Registry.RegistryDb)
    (journal : Audit.Journal)
    (h : admitOperation crypto db request terms clock = .ok (a, db₁)) :
    admitOperation crypto { db with enrolledKeys, registry, journal } request terms clock =
      .ok (a, { db₁ with enrolledKeys, registry, journal }) := by
  unfold admitOperation at h ⊢
  dsimp only
  cases hop : db.operations.get? request.operationId with
  | some existing =>
    rw [hop] at h
    obtain ⟨_, hretry, h⟩ := bind_eq_ok.mp h
    cases h
    exact bind_eq_ok.mpr ⟨(), hretry, rfl⟩
  | none =>
    rw [hop] at h
    obtain ⟨db₂, hreserve, h⟩ := bind_eq_ok.mp h
    cases h
    obtain ⟨⟨n, m⟩, hlimits, hreserve⟩ := bind_eq_ok.mp hreserve
    obtain ⟨operations, hops, hreserve⟩ := bind_eq_ok.mp hreserve
    obtain ⟨anchors, hanchors, hreserve⟩ := bind_eq_ok.mp hreserve
    cases hreserve
    exact bind_eq_ok.mpr ⟨_, bind_eq_ok.mpr ⟨(n, m), hlimits, bind_eq_ok.mpr ⟨operations, hops,
      bind_eq_ok.mpr ⟨anchors, hanchors, rfl⟩⟩⟩, rfl⟩

/-- The checks an authorization passed. -/
theorem authorizeSign_eq_ok {request : SignRequest}
    (h : (authorizeSign crypto config answers e request clock).1 = .ok a) :
    signPrelude crypto config request clock.effectiveNowMs = .ok () ∧ ∃ terms db,
      admitRequest answers e.db request.unsigned clock.effectiveNowMs = .ok terms ∧
      admitOperation crypto e.db request.unsigned terms clock = .ok (a, db) := by
  have h : authorizeSign crypto config answers e request clock = (.ok a, _) := Prod.ext h rfl
  obtain ⟨_, hprelude, h⟩ := precheck_eq_ok h
  obtain ⟨-, -, ⟨db, hbody, -⟩ | ⟨hbody, -⟩⟩ := mutation_eq_ok h
  all_goals
    obtain ⟨terms, hterms, hbody⟩ := bind_eq_ok.mp hbody
    obtain ⟨⟨authorization, db₁⟩, hoperation, hbody⟩ := bind_eq_ok.mp hbody
    obtain ⟨attempts, -, hbody⟩ := bind_eq_ok.mp hbody
    obtain ⟨_, -, hbody⟩ := bind_eq_ok.mp hbody
    cases hbody
  exact ⟨hprelude, terms, db₁, hterms, hoperation⟩

/-- An authorization whose checks go through is recorded as long as the journal takes its entry. -/
theorem authorizeSign_of_checks {request : SignRequest} (hdegraded : e.auditDegraded = false)
    (hopen : e.journalOpen crypto)
    (hprelude : signPrelude crypto config request clock.effectiveNowMs = .ok ())
    (hadmitted : admitRequest answers e.db request.unsigned clock.effectiveNowMs = .ok terms)
    (hoperation : admitOperation crypto e.db request.unsigned terms clock = .ok (a, db))
    (hattempts : db.attempts = e.db.attempts) (hjournal : db.journal = e.db.journal) :
    ∃ attempts journal, db.attempts.insert? request.unsigned.attemptId
        ⟨request.unsigned.attemptDigest, request.unsigned.operationId⟩ = some attempts ∧
      Audit.appendAudit crypto e.auditKeys e.db.journal "sign.authorized"
        (authorizationPayload request a) = .ok journal ∧
      authorizeSign crypto config answers e request clock =
        (.ok a, { e with db := { db with attempts, journal } }) := by
  have hfresh : db.attempts.get? request.unsigned.attemptId = none := by
    obtain ⟨_, hnone, -⟩ := bind_eq_ok.mp hadmitted
    rw [reject_eq_ok, Bool.not_eq_true, Option.isSome_eq_false_iff, Option.isNone_iff_eq_none]
      at hnone
    rw [hattempts, hnone]
  obtain ⟨attempts, hins⟩ := Table.insert?_of_fresh
    (v := (⟨request.unsigned.attemptDigest, request.unsigned.operationId⟩ : AttemptRow)) hfresh
  obtain ⟨journal, happ⟩ := hopen.append "sign.authorized" (authorizationPayload request a)
  refine ⟨attempts, journal, hins, happ, ?_⟩
  have hbody : authorizeSignBody crypto e.auditKeys answers request clock e.db =
      .ok (.commit { db with attempts, journal } a) := by
    refine bind_eq_ok.mpr ⟨terms, hadmitted, bind_eq_ok.mpr ⟨_, hoperation, bind_eq_ok.mpr ⟨attempts,
      okOr_eq_ok.mpr hins, bind_eq_ok.mpr ⟨_, bind_eq_ok.mpr ⟨journal, ?_, rfl⟩, rfl⟩⟩⟩⟩
    dsimp only
    rw [hjournal]
    exact happ
  rw [authorizeSign, hprelude]
  simp only [precheck, mutation, hdegraded, Bool.false_eq_true, if_false, if_pos hopen.1, hbody]

/-- What an account call leaves as it was, reserving an operation leaves too. -/
theorem admitOperation_frame {request : UnsignedSignRequest}
    (h : admitOperation crypto db request terms clock = .ok (a, db')) :
    db'.attempts = db.attempts ∧ db'.journal = db.journal := by
  unfold admitOperation at h
  split at h
  · obtain ⟨_, -, h⟩ := bind_eq_ok.mp h
    cases h
    exact ⟨rfl, rfl⟩
  · obtain ⟨_, hreserve, h⟩ := bind_eq_ok.mp h
    cases h
    obtain ⟨_, -, hreserve⟩ := bind_eq_ok.mp hreserve
    obtain ⟨_, -, hreserve⟩ := bind_eq_ok.mp hreserve
    obtain ⟨_, -, hreserve⟩ := bind_eq_ok.mp hreserve
    cases hreserve
    exact ⟨rfl, rfl⟩

/-- An authorization goes through again on an engine whose journal takes its entry. -/
theorem authorizeSign_congr {request : SignRequest}
    (htables : ∃ enrolledKeys registry journal,
      e'.db = { e.db with enrolledKeys, registry, journal })
    (hadmitted : ∀ terms, admitRequest answers e.db request.unsigned clock.effectiveNowMs = .ok terms →
      admitRequest answers e'.db request.unsigned clock.effectiveNowMs = .ok terms)
    (h : (authorizeSign crypto config answers e request clock).1 = .ok a)
    (hdeg : e'.auditDegraded = false) (hopen : e'.journalOpen crypto) :
    (authorizeSign crypto config answers e' request clock).1 = .ok a := by
  obtain ⟨hprelude, terms, db, hterms, hoperation⟩ := authorizeSign_eq_ok h
  obtain ⟨enrolledKeys, registry, journal, hdb⟩ := htables
  have hoperation' := admitOperation_congr enrolledKeys registry journal hoperation
  rw [← hdb] at hoperation'
  obtain ⟨hattempts, hjournal⟩ := admitOperation_frame hoperation'
  obtain ⟨_, _, -, -, hrun⟩ := authorizeSign_of_checks hdeg hopen hprelude (hadmitted terms hterms)
    hoperation' hattempts hjournal
  rw [hrun]

/-! ## Isolation -/

/-- The account calls of the engine. -/
inductive AccountCall where
  | allocate (walletId : Token) (custodyOperationId : OperationId)
      (requests : List DerivedAccountRequest) (unlocked : Custody.UnlockedWallet) (nowMs : Nat)
  | retire (walletId : Token) (keyRef : KeyRef) (nowMs : Nat)
  | tombstoneFailed (keyRef : KeyRef) (nowMs : Nat)
  | recover (nowMs : Nat)

namespace AccountCall

def exec (crypto : Crypto) (derive : Derivation) : AccountCall → EngineM Unit
  | .allocate walletId custodyOperationId requests unlocked nowMs => do
    let _ ← allocateBip39Accounts crypto derive walletId custodyOperationId requests unlocked nowMs
  | .retire walletId keyRef nowMs => retireBip39Account crypto walletId keyRef nowMs
  | .tombstoneFailed keyRef nowMs => tombstoneFailedBip39Account crypto keyRef nowMs
  | .recover nowMs => recoverIncompleteBip39Allocations crypto nowMs

/-- The call is made for wallets other than `A`: its wallet and its key are another's, and an
engine-wide recovery has no allocation of `A` to abandon. -/
def ForOthers (A : Token) (e : Engine) : AccountCall → Prop
  | .allocate walletId _ _ _ _ => walletId ≠ A
  | .retire walletId keyRef _ => walletId ≠ A ∧ keyRef.backendInstance ≠ A
  | .tombstoneFailed keyRef _ => ∀ d ∈ keyRef.derivation, d.isBip39Of A = false
  | .recover _ => ∀ k row, e.db.registry.allocations.get? k = some row →
      row.state = .activated → row.authorityCommitted = false → k.1 ≠ A

/-- The wallet holds no row under the public keys the call enrolls, and no available derived key
under those it abandons. -/
def Unshared (crypto : Crypto) (derive : Derivation) (A : Token) (e : Engine) :
    AccountCall → Prop
  | .allocate walletId custodyOperationId requests unlocked nowMs =>
    Clear (PlannedChildren crypto derive e.db.registry walletId custodyOperationId requests
      unlocked nowMs) (rowsOf A e.db.enrolledKeys)
  | .retire _ _ _ => True
  | .tombstoneFailed keyRef _ => ∀ w profile path operationId,
      keyRef.derivation = some (.bip39Multicurve w profile path) →
      liveAllocation e.db w keyRef.publicKeyFingerprint (· ≠ .tombstoned) = some operationId →
      ¬LiveDerived A e.db.enrolledKeys keyRef.publicKeyFingerprint
  | .recover _ => ∀ k row f, e.db.registry.allocations.get? k = some row →
      row.state = .activated → row.authorityCommitted = false →
      row.publicKeyFingerprint = some f → ¬LiveDerived A e.db.enrolledKeys f

end AccountCall

/-- A step left the wallet alone: its key rows and its backends are as they were, and what it could
have signed before it can sign now. -/
structure Isolated (crypto : Crypto) (config : Config) (A : Token) (e e' : Engine) : Prop where
  rows : ∀ f, rowsOf A e'.db.enrolledKeys f = rowsOf A e.db.enrolledKeys f
  backends : ∀ b, e'.backends.get? (b, A) = e.backends.get? (b, A)
  authorised : ∀ answers request clock a, OwnRequest A e.db request.unsigned →
    (authorizeSign crypto config answers e request clock).1 = .ok a →
    e'.auditDegraded = false → e'.journalOpen crypto →
    (authorizeSign crypto config answers e' request clock).1 = .ok a

theorem Frame.isolated (h : Frame A C e e') (hC : C (rowsOf A e.db.enrolledKeys))
    (config : Config) : Isolated crypto config A e e' where
  rows := congrFun (h.keys hC)
  backends := h.backends
  authorised := by
    intro answers request clock a hown hsign hdeg hopen
    refine authorizeSign_congr h.tables (fun terms hterms => ?_) hsign hdeg hopen
    obtain ⟨row, hrow⟩ := Option.isSome_iff_exists.mp hown.enrolled
    have hrow' := (congrFun (h.keys hC) _).trans hrow
    rw [rowsOf, Option.filter_eq_some_iff] at hrow hrow'
    exact admitRequest_congr h.tables (hrow'.1.trans hrow.1.symm)
      (requireActivatedChild_congr hown.seed h.allocations) hterms

theorem exec_snd_allocate (e : Engine) :
    ((AccountCall.allocate w op requests unlocked t).exec crypto derive e).2 =
      (allocateBip39Accounts crypto derive w op requests unlocked t e).2 := by
  rw [AccountCall.exec]
  cases h : allocateBip39Accounts crypto derive w op requests unlocked t e with
  | mk r e' =>
    cases r with
    | ok a => rw [bind_of_ok h]; rfl
    | error f => rw [bind_of_error h]

/-- Every derived key of the wallet under one of the fingerprints is switched off. -/
def Idle (S : Digest32 → Prop) (rows : Digest32 → Option EnrolledKeyRow) : Prop :=
  ∀ f, S f → ∀ row, rows f = some row → row.authorityClass = .derived → row.available = false

theorem Idle.not_liveDerived {S : Digest32 → Prop} (hf : S f)
    (keys : Table Digest32 EnrolledKeyRow) (h : Idle S (rowsOf A keys)) :
    ¬LiveDerived A keys f := by
  rintro ⟨row, hrow, hderived, hon⟩
  rw [h f hf row hrow hderived] at hon
  cases hon

theorem idle_of_not_liveDerived {S : Digest32 → Prop} {keys : Table Digest32 EnrolledKeyRow}
    (h : ∀ f, S f → ¬LiveDerived A keys f) : Idle S (rowsOf A keys) := by
  intro f hf row hrow hderived
  by_contra hon
  exact h f hf ⟨row, hrow, hderived, by simpa using hon⟩

/-- A call that shares no public key with the wallet leaves it alone, whatever comes of it. -/
theorem exec_isolated (config : Config) (call : AccountCall) (hothers : call.ForOthers A e)
    (h : call.Unshared crypto derive A e) :
    Isolated crypto config A e (call.exec crypto derive e).2 := by
  cases call with
  | allocate w op requests unlocked t =>
    rw [exec_snd_allocate]
    exact (framed_allocateBip39Accounts hothers op requests unlocked t e).isolated h config
  | retire w keyRef t =>
    have hframed : Framed A (fun _ => True) (retireBip39Account crypto w keyRef t) :=
      framed_retireBip39Account hothers.1 hothers.2 t
    exact (hframed e).isolated trivial config
  | tombstoneFailed keyRef t =>
    by_cases hlive : ∃ w profile path op,
        keyRef.derivation = some (.bip39Multicurve w profile path) ∧
        liveAllocation e.db w keyRef.publicKeyFingerprint (· ≠ .tombstoned) = some op
    · obtain ⟨w, profile, path, op, hd, hop⟩ := hlive
      have hframed : Framed A (Idle (· = keyRef.publicKeyFingerprint))
          (tombstoneFailedBip39Account crypto keyRef t) :=
        framed_tombstoneFailedBip39Account keyRef t hothers (Idle.not_liveDerived rfl)
      refine (hframed e).isolated (idle_of_not_liveDerived fun f hf => ?_) config
      rw [hf]
      exact h w profile path op hd hop
    · -- no row to abandon: the call returns at once
      have hsame : (tombstoneFailedBip39Account crypto keyRef t e).2 = e := by
        rw [tombstoneFailedBip39Account]
        rcases hd : keyRef.derivation with _ | _ | ⟨w, profile, path⟩
        · rfl
        · rfl
        · dsimp only
          rw [read_bind]
          cases hop : liveAllocation e.db w keyRef.publicKeyFingerprint (· ≠ .tombstoned) with
          | none => rfl
          | some op => exact absurd ⟨w, profile, path, op, hd, hop⟩ hlive
      have hrefl : Frame A (fun _ => True) e e := .refl e
      rw [AccountCall.exec, hsame]
      exact hrefl.isolated trivial config
  | recover t =>
    let S : Digest32 → Prop := fun f => ∃ k row, e.db.registry.allocations.get? k = some row ∧
      row.state = .activated ∧ row.authorityCommitted = false ∧ row.publicKeyFingerprint = some f
    have hframe : Frame A (Idle S) e (recoverIncompleteBip39Allocations crypto t e).2 := by
      refine framed_recoverIncompleteBip39Allocations t e hothers ?_
      intro k row f hrow hstate hcommitted hf
      exact Idle.not_liveDerived ⟨k, row, hrow, hstate, hcommitted, hf⟩
    refine hframe.isolated (idle_of_not_liveDerived ?_) config
    rintro f ⟨k, row, hrow, hstate, hcommitted, hf⟩
    exact h k row f hrow hstate hcommitted hf

/-- A call that succeeds has taken or switched off every key it shares with the wallet. -/
theorem exec_unshared (call : AccountCall) (hothers : call.ForOthers A e)
    (hok : (call.exec crypto derive e).1 = .ok ())
    (hrows : ∀ f, rowsOf A (call.exec crypto derive e).2.db.enrolledKeys f =
      rowsOf A e.db.enrolledKeys f) : call.Unshared crypto derive A e := by
  have hlive : ∀ f, LiveDerived A e.db.enrolledKeys f →
      LiveDerived A (call.exec crypto derive e).2.db.enrolledKeys f := by
    rintro f ⟨row, hrow, hderived, hon⟩
    exact ⟨row, (hrows f).trans hrow, hderived, hon⟩
  cases call with
  | allocate w op requests unlocked t =>
    intro f hf
    rw [← hrows f, exec_snd_allocate]
    rw [AccountCall.exec] at hok
    cases hrun : allocateBip39Accounts crypto derive w op requests unlocked t e with
    | mk r e' =>
      cases r with
      | error cause => rw [bind_of_error hrun] at hok; cases hok
      | ok keys => exact (allocateBip39Accounts_heldBy hrun hf).rowsOf_eq_none hothers
  | retire w keyRef t => trivial
  | tombstoneFailed keyRef t =>
    intro w profile path op hd hop hold
    refine not_liveDerived_deactivateDerived A e.db keyRef.publicKeyFingerprint ?_
    have hnew := hlive _ hold
    rw [AccountCall.exec, tombstoneFailedBip39Account, hd] at hnew
    dsimp only at hnew
    rw [read_bind, hop] at hnew
    have hkeep : ((tombstoneAllocation crypto w op t)
        { e with db := e.db.deactivateDerived keyRef.publicKeyFingerprint }).2.db.enrolledKeys =
          (e.db.deactivateDerived keyRef.publicKeyFingerprint).enrolledKeys :=
      registryCall_enrolledKeys _
    rw [← hkeep]
    exact hnew
  | recover t =>
    intro k row f hrow hstate hcommitted hf hold
    rw [AccountCall.exec, recoverIncompleteBip39Allocations, read_bind] at hok
    have hnew := hlive f hold
    rw [AccountCall.exec, recoverIncompleteBip39Allocations, read_bind] at hnew
    cases hlist : incompleteAllocations e.db with
    | error cause => rw [hlist, lift_bind_error rfl] at hok; cases hok
    | ok incomplete =>
      rw [hlist, lift_bind_ok rfl] at hok hnew
      have hmem : (k.1, k.2, f) ∈ incomplete :=
        (mem_incompleteAllocations hlist).mpr ⟨row, hrow, hstate, hcommitted, hf⟩
      refine abandon_not_liveDerived (Prod.ext hok rfl) (.inr ⟨_, hmem, rfl⟩) hnew

/-- A call made for other wallets leaves a wallet's key rows, its backends and what it may sign as
they were when they share no public key; and a call that succeeds does so only then. -/
theorem exec_isolated_iff (crypto : Crypto) (derive : Derivation) (config : Config) (A : Token)
    (e : Engine) (call : AccountCall) (hothers : call.ForOthers A e) :
    (call.Unshared crypto derive A e →
      Isolated crypto config A e (call.exec crypto derive e).2) ∧
    ((call.exec crypto derive e).1 = .ok () →
      Isolated crypto config A e (call.exec crypto derive e).2 →
      call.Unshared crypto derive A e) :=
  ⟨exec_isolated config call hothers, fun hok h => exec_unshared call hothers hok h.rows⟩

/-! ### Two wallets of one mnemonic -/

/-- The first EVM child of a mnemonic, under the fingerprint every wallet of it computes. -/
def sharedChild (walletId : Token) : KeyRef where
  backend := localBackendId
  backendInstance := walletId
  locator := "m/44'/60'/0'/0/0"
  keySpec := .secp256k1
  publicKeyFingerprint := .zero
  derivation := some (.bip39Multicurve walletId .bip44EvmSecp256k1V1 "m/44'/60'/0'/0/0")

/-- The row of a child that was activated before its ceremony committed. -/
def activatedRow (fingerprint : Digest32) : Registry.AllocationRow where
  profile := Registry.profileEvm
  role := Registry.roleEvmAccount
  account := 0
  index := 0
  path := "m/44'/60'/0'/0/0"
  state := .activated
  keySpec := "secp256k1"
  publicKeySpkiDer := some ""
  publicKeyFingerprint := some fingerprint
  authorityCommitted := false
  createdAtMs := 0
  updatedAtMs := 0

/-- The first wallet has its child enrolled; the second stopped after it had activated the child
with this fingerprint. -/
def sharedEngine (fingerprint : Digest32) : Engine where
  db := {
    enrolledKeys := (∅ : Table _ _).set .zero
      ⟨sharedChild ⟨"first"⟩, true, .derived, some ⟨"first"⟩⟩
    registry := { allocations :=
      (∅ : Table _ _).set (⟨"second"⟩, "allocate") (activatedRow fingerprint) } }
  auditKeys := ⟨⟨"audit"⟩, ⟨[1]⟩, ∅⟩
  auditDegraded := false
  backends := ∅

theorem sharedEngine_allocations
    (h : (sharedEngine fingerprint).db.registry.allocations.get? k = some row) :
    k = (⟨"second"⟩, "allocate") ∧ row = activatedRow fingerprint := by
  rw [sharedEngine, Table.get?_set] at h
  split at h
  · next hk => cases h; exact ⟨hk, rfl⟩
  · cases h

theorem sharedEngine_forOthers (fingerprint : Digest32) :
    (AccountCall.recover 5).ForOthers ⟨"first"⟩ (sharedEngine fingerprint) := by
  intro k row hrow _ _
  rw [(sharedEngine_allocations hrow).1]
  decide

/-- With one abandoned allocation the recovery reaches its key, however it ends. -/
theorem recover_enrolledKeys (h : incompleteAllocations e.db = .ok [r]) :
    (recoverIncompleteBip39Allocations crypto t e).2.db.enrolledKeys =
      (e.db.deactivateDerived r.2.2).enrolledKeys := by
  rw [recoverIncompleteBip39Allocations, read_bind, lift_bind_ok h, forEach_singleton_snd]
  have hkeep : ((tombstoneAllocation crypto r.1 r.2.1 t)
      { e with db := e.db.deactivateDerived r.2.2 }).2.db.enrolledKeys =
        (e.db.deactivateDerived r.2.2).enrolledKeys := registryCall_enrolledKeys _
  exact hkeep

/-- The recovery of the second wallet switches the key of the first one off. -/
theorem recover_switches_off_shared_key :
    (AccountCall.recover 5).ForOthers ⟨"first"⟩ (sharedEngine .zero) ∧
      (rowsOf ⟨"first"⟩ (sharedEngine .zero).db.enrolledKeys .zero).map (·.available) =
        some true ∧
      (rowsOf ⟨"first"⟩ ((AccountCall.recover 5).exec Crypto.standIn textDerivation
        (sharedEngine .zero)).2.db.enrolledKeys .zero).map (·.available) = some false := by
  have hlist : incompleteAllocations (sharedEngine .zero).db =
      .ok [(⟨"second"⟩, "allocate", .zero)] := rfl
  refine ⟨sharedEngine_forOthers .zero, by decide, ?_⟩
  rw [AccountCall.exec, recover_enrolledKeys hlist]
  decide

/-- A second wallet of another mnemonic is recovered without a trace in the first. -/
theorem exec_isolated_iff_recover :
    let e := sharedEngine ⟨List.replicate 32 1, rfl⟩
    Isolated Crypto.standIn ⟨⟨"broker"⟩, ⟨[2]⟩, ⟨"revoker"⟩, ⟨[3]⟩⟩ ⟨"first"⟩ e
      ((AccountCall.recover 5).exec Crypto.standIn textDerivation e).2 := by
  intro e
  refine (exec_isolated_iff Crypto.standIn textDerivation _ ⟨"first"⟩ e (.recover 5)
    (sharedEngine_forOthers _)).1 fun k row f hrow _ _ hf => ?_
  rw [(sharedEngine_allocations hrow).2] at hf
  cases hf
  rintro ⟨row, hrow, -⟩
  have hnone : rowsOf ⟨"first"⟩ e.db.enrolledKeys ⟨List.replicate 32 1, rfl⟩ = none := by decide
  rw [hnone] at hrow
  cases hrow

end BloomSigner
