import BloomSigner.Engine.FaultyAllocation
import BloomSigner.Registry.Descriptors
import BloomSigner.Registry.RowEffects

/-! # The registry phase of an allocation

Each family of `allocate_bip39_accounts` is walked to ACTIVATED before anything is enrolled. Wherever
the walk stops, only rows of the call's own families have moved, and once the children it had
activated are tombstoned none of these rows is active. -/

namespace BloomSigner

open Lib Lib.Program

/-! ## The registry phase -/

/-- The account of the child a family takes at a number. -/
def DerivationProfile.accountAt : DerivationProfile → Nat → Nat
  | .bip44EvmSecp256k1V1, _ => 0
  | .bip44SolanaSlip10Ed25519V1, number => number

/-- An allocation under way: the state it started in, what was asked for and the number it took. -/
structure Allocating where
  before : Engine
  walletId : Token
  operationId : OperationId
  seed : List UInt8
  number : Nat

section
variable (crypto : Crypto) (derive : Derivation) (A : Allocating)

def Allocating.family (profile : DerivationProfile) : String :=
  (familyOperationId crypto A.operationId profile).asStr

/-- The fingerprint of the family's child at the number. -/
def Allocating.FamilyKey (profile : DerivationProfile) (fingerprint : Digest32) : Prop :=
  ∃ spki, deriveChild derive A.seed profile (profile.accountAt A.number) A.number = .ok spki ∧
    fingerprint = crypto.sha256 spki

/-- The row is for the family's child at the number. -/
structure Allocating.At (p : DerivationProfile) (row : Registry.AllocationRow) : Prop where
  profile : row.profile = p.asStr
  account : row.account = p.accountAt A.number
  index : p = .bip44EvmSecp256k1V1 → row.index = A.number

/-- The row of the wallet stored for an operation. -/
def Engine.allocation? (e : Engine) (k : Token × String) : Option Registry.AllocationRow :=
  e.db.registry.allocations.get? k

/-- Nothing but rows of the call's own families moved, and a row that is active is that of a child
the call walked through. -/
structure Halted (activated : List ActivatedChild) (e : Engine) : Prop where
  others : ∀ k, (∀ p, k ≠ (A.walletId, A.family crypto p)) → e.allocation? k = A.before.allocation? k
  backends : e.backends = A.before.backends
  keys : e.db.enrolledKeys = A.before.db.enrolledKeys
  active : ∀ p row, e.allocation? (A.walletId, A.family crypto p) = some row →
    row.state = .activated → ∃ c ∈ activated, c.operationId.asStr = A.family crypto p
  operation : ∀ c ∈ activated, c.operationId.asStr = A.family crypto c.profile

/-- The row of a child the call walked to ACTIVATED. -/
structure WalkedChild (c : ActivatedChild) (e : Engine) : Prop where
  key : A.FamilyKey crypto derive c.profile c.fingerprint
  row : ∃ row, e.allocation? (A.walletId, A.family crypto c.profile) = some row ∧
    row.state = .activated ∧ A.At c.profile row ∧ row.publicKeyFingerprint = some c.fingerprint

structure Walked (activated : List ActivatedChild) (e : Engine) : Prop
    extends Halted crypto A activated e where
  child : ∀ c ∈ activated, WalkedChild crypto derive A c e
  rows : ∀ p row, e.allocation? (A.walletId, A.family crypto p) = some row →
    ∃ c ∈ activated, c.operationId.asStr = A.family crypto p

/-- The row of the next family is on its way, and `K` holds of it. -/
structure Walking (activated : List ActivatedChild) (profile : DerivationProfile)
    (K : Registry.AllocationRow → Prop) (e : Engine) : Prop
    extends Halted crypto A activated e where
  child : ∀ c ∈ activated, WalkedChild crypto derive A c e
  rows : ∀ p row, e.allocation? (A.walletId, A.family crypto p) = some row →
    (∃ c ∈ activated, c.operationId.asStr = A.family crypto p) ∨
      A.family crypto p = A.family crypto profile
  row : ∃ row, e.allocation? (A.walletId, A.family crypto profile) = some row ∧
    A.At profile row ∧ K row ∧ (row.Described → ∃ f, row.publicKeyFingerprint = some f ∧
      A.FamilyKey crypto derive profile f)

end

section
variable {crypto : Crypto} {derive : Derivation} {A : Allocating} {e e' : Engine}
variable {activated : List ActivatedChild} {p : DerivationProfile}
variable {C : Registry.AllocationRow → Registry.AllocationRow → Prop}
variable {N K K' : Registry.AllocationRow → Prop}

theorem Allocating.FamilyKey.unique (h : A.FamilyKey crypto derive p f)
    (h' : A.FamilyKey crypto derive p f') : f = f' := by
  obtain ⟨spki, hspki, rfl⟩ := h
  obtain ⟨spki', hspki', rfl⟩ := h'
  rw [hspki] at hspki'
  cases hspki'
  rfl

/-- The child at the slot of a row at the number. -/
theorem Allocating.At.familyKey {row : Registry.AllocationRow} (h : A.At p row)
    (hspki : deriveChild derive A.seed p row.account row.index = .ok spki) :
    A.FamilyKey crypto derive p (crypto.sha256 spki) := by
  refine ⟨spki, ?_, rfl⟩
  rw [← hspki, h.account]
  cases p with
  | bip44EvmSecp256k1V1 => rw [h.index rfl]
  | bip44SolanaSlip10Ed25519V1 => rfl

/-- An effect on the call's own rows that activates none. -/
theorem Halted.move (h : Halted crypto A activated e)
    (heffect : Registry.RowEffect A.walletId (A.family crypto p) C N e.db.registry e'.db.registry)
    (hbackends : e'.backends = e.backends) (hkeys : e'.db.enrolledKeys = e.db.enrolledKeys)
    (hC : ∀ row row', C row row' → row'.state ≠ .activated)
    (hN : ∀ row, N row → row.state ≠ .activated) : Halted crypto A activated e' where
  others k hk := (heffect.others (hk p)).trans (h.others k hk)
  backends := hbackends.trans h.backends
  keys := hkeys.trans h.keys
  operation := h.operation
  active q row hrow hactive := by
    by_cases hq : A.family crypto q = A.family crypto p
    · cases heffect with
      | same hall =>
        refine h.active q row ?_ hactive
        rw [Engine.allocation?, ← hall]
        exact hrow
      | updated old new hpresent hall _ hchange =>
        rw [Engine.allocation?, hall, hq, Table.get?_update, if_pos rfl, hpresent] at hrow
        cases hrow
        exact absurd hactive (hC _ _ hchange)
      | inserted new _ hall hfresh =>
        rw [Engine.allocation?, Table.get?_insert? hall, hq, if_pos rfl] at hrow
        cases hrow
        exact absurd hactive (hN _ hfresh)
    · refine h.active q row ?_ hactive
      rw [Engine.allocation?, ← heffect.others (fun hk => hq (Prod.mk.inj hk).2)]
      exact hrow

/-- A row that is past the step stays as it is. -/
theorem WalkedChild.move {c : ActivatedChild} (h : WalkedChild crypto derive A c e)
    (heffect : Registry.RowEffect A.walletId (A.family crypto p) C N e.db.registry e'.db.registry)
    (hC : ∀ row row', C row row' → row.state ≠ .activated) : WalkedChild crypto derive A c e' := by
  refine ⟨h.key, ?_⟩
  obtain ⟨row, hrow, hstate, hat, hfingerprint⟩ := h.row
  refine ⟨row, ?_, hstate, hat, hfingerprint⟩
  by_cases hk : A.family crypto c.profile = A.family crypto p
  · cases heffect with
    | same hall => rw [Engine.allocation?, hall]; exact hrow
    | updated old new hpresent hall _ hchange =>
      rw [Engine.allocation?, hk, hpresent] at hrow
      cases hrow
      exact absurd hstate (hC _ _ hchange)
    | inserted new habsent =>
      rw [Engine.allocation?, hk, habsent] at hrow
      cases hrow
  · exact (heffect.others (fun he => hk (Prod.mk.inj he).2)).trans hrow

/-- The row of the family moves by one step that activates nothing. -/
theorem Walking.move (h : Walking crypto derive A activated p K e)
    (heffect : Registry.RowEffect A.walletId (A.family crypto p) C (fun _ => False)
      e.db.registry e'.db.registry)
    (hbackends : e'.backends = e.backends) (hkeys : e'.db.enrolledKeys = e.db.enrolledKeys)
    (hC : ∀ row row', C row row' → row.state ≠ .activated ∧ row'.state ≠ .activated ∧
      (K row → K row') ∧ (K row → row'.Described → ∃ f, row'.publicKeyFingerprint = some f ∧
        A.FamilyKey crypto derive p f)) :
    Walking crypto derive A activated p K e' where
  toHalted := h.toHalted.move heffect hbackends hkeys (fun _ _ hc => (hC _ _ hc).2.1)
    (fun _ hn => hn.elim)
  child c hc := (h.child c hc).move heffect fun _ _ hc => (hC _ _ hc).1
  rows q row hrow := by
    by_cases hq : A.family crypto q = A.family crypto p
    · exact .inr hq
    · refine h.rows q row ?_
      rw [Engine.allocation?, ← heffect.others (fun hk => hq (Prod.mk.inj hk).2)]
      exact hrow
  row := by
    obtain ⟨row, hrow, hat, hK, hdescribed⟩ := h.row
    cases heffect with
    | same hall =>
      refine ⟨row, ?_, hat, hK, hdescribed⟩
      rw [Engine.allocation?, hall]
      exact hrow
    | updated old new hpresent hall hslot hchange =>
      rw [Engine.allocation?, hpresent] at hrow
      cases hrow
      refine ⟨new, ?_, ?_, (hC _ _ hchange).2.2.1 hK, (hC _ _ hchange).2.2.2 hK⟩
      · rw [Engine.allocation?, hall, Table.get?_update, if_pos rfl, hpresent]
        rfl
      · simp only [Registry.AllocationRow.slot, Prod.mk.injEq] at hslot
        exact ⟨hslot.1.trans hat.profile, hslot.2.2.1.trans hat.account,
          fun hp => hslot.2.2.2.1.trans (hat.index hp)⟩
    | inserted new habsent _ hfresh => exact hfresh.elim

/-- A registry call, by what its function does to the tables. -/
theorem ends_registryCall {f : Registry.AuditRecorder Audit.Journal →
      Registry.State Audit.Journal → Except Failure α × Registry.State Audit.Journal}
    {Q : α → Engine → Prop} {E : Failure → Engine → Prop}
    (hok : ∀ a s', f (e.recorder crypto) e.registryState = (.ok a, s') → Q a (e.withRegistry s'))
    (herror : ∀ c s', f (e.recorder crypto) e.registryState = (.error c, s') →
      E c ((e.withRegistry s').fail c)) : Ends Q E (registryCall crypto f e) := by
  unfold registryCall
  cases hf : f (e.recorder crypto) e.registryState with
  | mk r s' =>
    cases r with
    | ok a => exact hok a s' hf
    | error c => exact herror c s' hf

@[simp] theorem Engine.fail_backends (e : Engine) (f : Failure) :
    (e.fail f).backends = e.backends := by
  cases f <;> rfl

/-- A latch does not matter. -/
theorem Halted.fail (h : Halted crypto A activated e) (f : Failure) :
    Halted crypto A activated (e.fail f) where
  others k hk := by rw [Engine.allocation?, Engine.fail_db]; exact h.others k hk
  backends := (Engine.fail_backends e f).trans h.backends
  keys := by rw [Engine.fail_db]; exact h.keys
  operation := h.operation
  active p row hrow := h.active p row (by rw [Engine.allocation?, ← Engine.fail_db e f]; exact hrow)

/-- The request of a family at the number. -/
def Allocating.request (crypto : Crypto) (derive : Derivation) (A : Allocating) (t : Nat)
    (request : DerivedAccountRequest) : Registry.PrepareRequest :=
  familyRequest crypto derive A.walletId A.operationId A.seed A.number t request

theorem Allocating.resolve (A : Allocating) (t : Nat) (request : DerivedAccountRequest)
    (h : Registry.resolveAccount db (A.request crypto derive t request) = .ok account) :
    account = request.derivationProfile.accountAt A.number := by
  unfold Registry.resolveAccount Allocating.request familyRequest at h
  cases hp : request.derivationProfile with
  | bip44EvmSecp256k1V1 =>
    simp only [hp] at h
    rw [if_neg (by decide)] at h
    cases h
    rfl
  | bip44SolanaSlip10Ed25519V1 =>
    simp only [hp] at h
    cases h
    rfl

theorem Walked.prepare (h : Walked crypto derive A activated e) (t : Nat)
    (request : DerivedAccountRequest) :
    Ends (fun r => Walking crypto derive A activated request.derivationProfile
        fun row => row.account = r.account ∧ row.index = r.index)
      (fun _ => Halted crypto A activated)
      (registryCall crypto (fun audit s => Registry.prepareAllocationAt crypto.sha256 audit s
        (A.request crypto derive t request)) e) := by
  let req := A.request crypto derive t request
  have heffect := @Registry.prepareAllocationAt_rowEffect _ crypto.sha256
    (e.recorder crypto) e.registryState req
  have hhalted : ∀ s', (Registry.prepareAllocationAt crypto.sha256 (e.recorder crypto)
      e.registryState req).2 = s' → Halted crypto A activated (e.withRegistry s') := by
    rintro s' rfl
    exact h.toHalted.move (p := request.derivationProfile) heffect rfl rfl (fun _ _ hc => hc.elim)
      (fun row hn => by rw [hn]; decide)
  refine ends_registryCall (fun r s' hprepare => ?_)
    (fun c s' hprepare => (hhalted s' (congrArg Prod.snd hprepare)).fail c)
  have hrest := hhalted s' (congrArg Prod.snd hprepare)
  obtain ⟨hprofile, haccount, hindex⟩ := Registry.prepareAllocationAt_target hprepare
  rw [congrArg Prod.snd hprepare] at heffect
  refine {
    toHalted := hrest
    child := fun c hc => (h.child c hc).move (p := request.derivationProfile) heffect
      fun _ _ hc => hc.elim
    rows := fun q row hrow => ?_
    row := ?_ }
  · by_cases hq : A.family crypto q = A.family crypto request.derivationProfile
    · exact .inr hq
    · refine .inl (h.rows q row ?_)
      exact (heffect.others (fun hk => hq (Prod.mk.inj hk).2)).symm.trans hrow
  · rcases Registry.prepareAllocationAt_ok hprepare with
      ⟨row, hrow, rfl, rfl⟩ | ⟨row, hnone, rfl, hreserved⟩
    · -- the row was walked by an earlier request of the same family
      obtain ⟨c, hc, hop⟩ := h.rows request.derivationProfile row hrow
      have hchild := h.child c hc
      obtain ⟨row', hrow', -, hat, hfingerprint⟩ := hchild.row
      rw [← h.operation c hc, hop] at hrow'
      cases hrow.symm.trans hrow'
      have hfamily : c.profile = request.derivationProfile :=
        DerivationProfile.asStr_injective (hat.profile.symm.trans hprofile)
      rw [← hfamily]
      refine ⟨row, ?_, hat, ⟨rfl, rfl⟩, fun _ => ⟨_, hfingerprint, hchild.key⟩⟩
      rw [← h.operation c hc, hop]
      exact hrow
    · have hresolved : Registry.resolveAccount e.registryState.db req = .ok row.account := by
        rw [Registry.reservedAccount, show Registry.loadAllocation e.registryState.db req.walletId
          req.operationId = none from hnone] at haccount
        exact haccount
      refine ⟨row, ?_, ⟨hprofile, A.resolve t request hresolved, fun hp => hindex _ ?_⟩, ⟨rfl, rfl⟩,
        fun hdescribed => ?_⟩
      · exact (Table.get?_insert? hreserved.inserted).trans (if_pos rfl)
      · show A.number ∈ (A.request crypto derive t request).targetIndex
        unfold Allocating.request familyRequest
        rw [hp]
        rfl
      · rcases hdescribed with hstate | hstate <;> rw [hreserved.prepared] at hstate <;>
          cases hstate

/-- A lifecycle step that activates nothing, whichever way it ends. -/
theorem Walking.step {f : Registry.AuditRecorder Audit.Journal →
      Registry.State Audit.Journal → Except Failure α × Registry.State Audit.Journal}
    (h : Walking crypto derive A activated p K e)
    (heffect : Registry.RowEffect A.walletId (A.family crypto p) C (fun _ => False)
      e.db.registry (f (e.recorder crypto) e.registryState).2.db)
    (hC : ∀ row row', C row row' → row.state ≠ .activated ∧ row'.state ≠ .activated ∧
      (K row → K row') ∧ (K row → row'.Described → ∃ f, row'.publicKeyFingerprint = some f ∧
        A.FamilyKey crypto derive p f)) :
    Ends (fun _ => Walking crypto derive A activated p K) (fun _ => Halted crypto A activated)
      (registryCall crypto f e) := by
  have hmoved : ∀ s', (f (e.recorder crypto) e.registryState).2 = s' →
      Walking crypto derive A activated p K (e.withRegistry s') := by
    rintro s' rfl
    exact h.move heffect rfl rfl hC
  exact ends_registryCall (fun a s' hf => hmoved s' (congrArg Prod.snd hf))
    (fun c s' hf => (hmoved s' (congrArg Prod.snd hf)).toHalted.fail c)

/-- The descriptor of the family's child is stored, or was. -/
theorem Walking.describes (h : Walking crypto derive A activated p
      (fun _ => A.FamilyKey crypto derive p f) e) (spki : String) (t : Nat) :
    Ends (fun _ => Walking crypto derive A activated p
        fun row => A.FamilyKey crypto derive p f ∧ row.Described)
      (fun _ => Halted crypto A activated)
      (registryCall crypto (fun audit s => Registry.commitAccount crypto.sha256 audit s A.walletId
        (A.family crypto p) spki f t) e) := by
  have heffect := @Registry.commitAccount_rowEffect _ crypto.sha256
    (e.recorder crypto) e.registryState A.walletId (A.family crypto p) spki f t
  have hmoved := h.step (f := fun audit s => Registry.commitAccount crypto.sha256 audit s A.walletId
    (A.family crypto p) spki f t) heffect fun row row' hchange =>
      ⟨by rw [hchange.1]; decide, by rw [hchange.2.1]; decide, id,
        fun hkey _ => ⟨f, hchange.2.2, hkey⟩⟩
  refine ends_registryCall (fun r s' hf => ?_) (fun c s' hf => ?_)
  · have hwalking : Walking crypto derive A activated p (fun _ => A.FamilyKey crypto derive p f)
        (e.withRegistry s') := by
      have := hmoved
      rw [registryCall, hf] at this
      exact this
    obtain ⟨row, hrow, hat, hkey, hdescribed⟩ := hwalking.row
    obtain ⟨row', hrow', hstate⟩ := Registry.commitAccount_leaves hf
    cases hrow.symm.trans hrow'
    exact ⟨hwalking.toHalted, hwalking.child, hwalking.rows, row, hrow, hat, ⟨hkey, hstate⟩,
      hdescribed⟩
  · have := hmoved
    rw [registryCall, hf] at this
    exact this

/-- The last step of the walk: the child joins the activated ones. -/
theorem Walking.activates (h : Walking crypto derive A activated p
      (fun row => A.FamilyKey crypto derive p f ∧ row.Described) e) (spki : List UInt8) (t : Nat) :
    Ends (fun account => Walked crypto derive A
        (activated ++ [⟨⟨A.family crypto p⟩, p, account, spki, f⟩]))
      (fun _ => Halted crypto A activated)
      (registryCall crypto (fun audit s => Registry.activate crypto.sha256 audit s A.walletId
        (A.family crypto p) t) e) := by
  refine ends_registryCall (fun account s' hactivate => ?_) (fun c s' hactivate => ?_)
  · have heffect := @Registry.activate_rowEffect _ crypto.sha256
      (e.recorder crypto) e.registryState A.walletId (A.family crypto p) t
    rw [congrArg Prod.snd hactivate] at heffect
    obtain ⟨row, hrow, hat, ⟨hkey, hstate⟩, hdescribed⟩ := h.row
    obtain ⟨f', hf', hkey'⟩ := hdescribed hstate
    rw [hkey'.unique hkey] at hf'
    obtain ⟨row', hrow', hactive⟩ := Registry.activate_leaves hactivate
    have hkept : row'.slot = row.slot ∧ row'.publicKeyFingerprint = some f := by
      cases heffect with
      | same hall =>
        rw [hall, show e.registryState.db.allocations.get? (A.walletId, A.family crypto p) =
          some row from hrow] at hrow'
        cases hrow'
        exact ⟨rfl, hf'⟩
      | updated old new hpresent hall hslot hchange =>
        cases hpresent.symm.trans hrow
        rw [hall, Table.get?_update, if_pos rfl, hpresent] at hrow'
        cases hrow'
        exact ⟨hslot, hchange.2.2.trans hf'⟩
      | inserted new habsent _ hfresh => exact hfresh.elim
    have hother : ∀ q, A.family crypto q ≠ A.family crypto p →
        (e.withRegistry s').allocation? (A.walletId, A.family crypto q) =
          e.allocation? (A.walletId, A.family crypto q) :=
      fun q hq => heffect.others fun hk => hq (Prod.mk.inj hk).2
    obtain ⟨hslot, hfingerprint⟩ := hkept
    simp only [Registry.AllocationRow.slot, Prod.mk.injEq] at hslot
    refine {
      others := fun k hk => (heffect.others (hk p)).trans (h.others k hk)
      backends := h.backends
      keys := h.keys
      operation := fun c hc => ?_
      active := fun q row₁ hrow₁ hactive₁ => ?_
      child := fun c hc => ?_
      rows := fun q row₁ hrow₁ => ?_ }
    · by_cases hq : A.family crypto q = A.family crypto p
      · exact ⟨_, List.mem_append_right _ (List.mem_singleton.mpr rfl), hq.symm⟩
      · rw [hother q hq] at hrow₁
        obtain ⟨c, hc, hop⟩ := h.active q row₁ hrow₁ hactive₁
        exact ⟨c, List.mem_append_left _ hc, hop⟩
    · rcases List.mem_append.mp hc with hc | hc
      · exact h.operation c hc
      · cases List.mem_singleton.mp hc
        rfl
    · rcases List.mem_append.mp hc with hc | hc
      · have hchild := h.child c hc
        by_cases hq : A.family crypto c.profile = A.family crypto p
        · obtain ⟨row₁, hrow₁, hactive₁, hat₁, hf₁⟩ := hchild.row
          rw [hq] at hrow₁
          cases hrow.symm.trans hrow₁
          have hsame : c.profile = p := DerivationProfile.asStr_injective
            (hat₁.profile.symm.trans hat.profile)
          refine ⟨hchild.key, row', by rw [hq]; exact hrow', hactive, ?_, ?_⟩
          · rw [hsame]
            exact ⟨hslot.1.trans hat.profile, hslot.2.2.1.trans hat.account,
              fun hp => hslot.2.2.2.1.trans (hat.index hp)⟩
          · rw [hfingerprint, ← hf', hf₁]
        · obtain ⟨row₁, hrow₁, hactive₁, hat₁, hf₁⟩ := hchild.row
          exact ⟨hchild.key, row₁, (hother _ hq).trans hrow₁, hactive₁, hat₁, hf₁⟩
      · cases List.mem_singleton.mp hc
        exact ⟨hkey, row', hrow', hactive, ⟨hslot.1.trans hat.profile,
          hslot.2.2.1.trans hat.account, fun hp => hslot.2.2.2.1.trans (hat.index hp)⟩,
          hfingerprint⟩
    · by_cases hq : A.family crypto q = A.family crypto p
      · exact ⟨_, List.mem_append_right _ (List.mem_singleton.mpr rfl), hq.symm⟩
      · rw [hother q hq] at hrow₁
        rcases h.rows q row₁ hrow₁ with ⟨c, hc, hop⟩ | hsame
        · exact ⟨c, List.mem_append_left _ hc, hop⟩
        · exact absurd hsame hq
  · cases Registry.activate_refused hactivate
    exact h.toHalted.fail c

/-- One family is walked through the registry, or what is left activates nothing new. -/
theorem triple_activateChild (cause : Failure) (t : Nat) (request : DerivedAccountRequest) :
    Triple (Faulty.Clean (Walked crypto derive A activated))
      (activateBip39ChildBy (faulty cause) crypto derive (A.request crypto derive t request)
        request.derivationProfile A.seed)
      (fun child => Faulty.Clean (Walked crypto derive A (activated ++ [child])))
      (fun _ => Faulty.Clean (Halted crypto A activated)) := by
  let p := request.derivationProfile
  refine (triple_step (Q := fun r : Registry.Reservation => Walking crypto derive A activated p
      fun row => row.account = r.account ∧ row.index = r.index)
    (E := fun _ => Halted crypto A activated) (fun e h => h.prepare t request)
    fun e h => h.toHalted).bind fun r => ?_
  refine (triple_lift (Q := fun spki => Faulty.Clean (Walking crypto derive A activated p
    fun _ => A.FamilyKey crypto derive p (crypto.sha256 spki))) (fun spki hspki s hs hclean => ?_)
    fun _ _ s hs hclean => (hs hclean).toHalted).bind fun spki => ?_
  · have h := hs hclean
    obtain ⟨row, hrow, hat, ⟨haccount, hindex⟩, hdescribed⟩ := h.row
    rw [← haccount, ← hindex] at hspki
    exact ⟨h.toHalted, h.child, h.rows, row, hrow, hat, hat.familyKey hspki, hdescribed⟩
  refine (triple_step (Q := fun _ : Registry.Reservation => Walking crypto derive A activated p
      fun _ => A.FamilyKey crypto derive p (crypto.sha256 spki))
    (E := fun _ => Halted crypto A activated) (fun e h => ?_) fun e h => h.toHalted).bind fun _ => ?_
  · have heffect := @Registry.commitIndex_rowEffect _ crypto.sha256
      (e.recorder crypto) e.registryState A.walletId (A.family crypto p) t
    exact h.step heffect fun row row' hchange =>
      ⟨by rw [hchange.1]; decide, by rw [hchange.2.1]; decide, id, fun _ hdescribed => by
        rcases hdescribed with hstate | hstate <;> rw [hchange.2.1] at hstate <;> cases hstate⟩
  refine (triple_step (Q := fun _ : Registry.Reservation => Walking crypto derive A activated p
      fun row => A.FamilyKey crypto derive p (crypto.sha256 spki) ∧ row.Described)
    (E := fun _ => Halted crypto A activated) (fun e h => h.describes _ t)
    fun e h => h.toHalted).bind fun _ => ?_
  exact (triple_step (Q := fun account : Registry.PublicAccount => Walked crypto derive A
      (activated ++ [⟨⟨A.family crypto p⟩, p, account, spki, crypto.sha256 spki⟩]))
    (E := fun _ => Halted crypto A activated) (fun e h => h.activates spki t)
    fun e h => h.toHalted).bind fun account => triple_pure fun s hs => hs

/-! ## Tombstones -/

theorem tombstoneAllocation_ok {w : Token} {op : String} {t : Nat}
    (h : tombstoneAllocation crypto w op t e = (.ok (), e')) :
    Registry.RowEffect w op (fun row row' => row'.state = .tombstoned ∧
        row'.publicKeyFingerprint = row.publicKeyFingerprint) (fun _ => False)
      e.db.registry e'.db.registry ∧
      e'.backends = e.backends ∧ e'.db.enrolledKeys = e.db.enrolledKeys ∧
      ∃ row, e'.allocation? (w, op) = some row ∧ row.state = .tombstoned := by
  have heffect := @Registry.tombstone_rowEffect _ crypto.sha256
    (e.recorder crypto) e.registryState w op t
  unfold tombstoneAllocation registryCall at h
  dsimp only at h
  cases hf : Registry.tombstone crypto.sha256 (e.recorder crypto) e.registryState w op t with
  | mk r s' =>
    rw [hf] at h heffect
    cases r with
    | error f => cases h
    | ok u =>
      cases h
      obtain ⟨row, hrow, hstate⟩ := Registry.tombstone_leaves hf
      exact ⟨heffect, rfl, rfl, row, hrow, hstate⟩

/-- One of the activated children is abandoned. -/
theorem Halted.tombstone {c : ActivatedChild} {t : Nat}
    (h : Halted crypto A (c :: activated) e)
    (htombstone : tombstoneAllocation crypto A.walletId c.operationId.asStr t e = (.ok (), e')) :
    Halted crypto A activated e' := by
  obtain ⟨heffect, hbackends, hkeys, row, hrow, hstate⟩ := tombstoneAllocation_ok htombstone
  rw [h.operation c List.mem_cons_self] at heffect hrow
  have hmoved := h.move heffect hbackends hkeys (fun _ _ hc => by rw [hc.1]; decide)
    (fun _ hn => hn.elim)
  refine ⟨hmoved.others, hmoved.backends, hmoved.keys, fun p row' hrow' hactive => ?_,
    fun c' hc' => h.operation c' (List.mem_cons_of_mem _ hc')⟩
  obtain ⟨c', hc', hop⟩ := hmoved.active p row' hrow' hactive
  rcases List.mem_cons.mp hc' with rfl | hc'
  · rw [← hop, h.operation c' List.mem_cons_self, hrow] at hrow'
    cases hrow'
    rw [hstate] at hactive
    cases hactive
  · exact ⟨c', hc', hop⟩

/-- Every activated child is abandoned. -/
theorem triple_tombstones (cause : Failure) (t : Nat) (activated : List ActivatedChild) :
    Triple (Faulty.Clean (Halted crypto A activated))
      (Program.forEach (fun (child : ActivatedChild) => (faulty cause).undo
        (tombstoneAllocation crypto A.walletId child.operationId.asStr t)) activated)
      (fun _ => Faulty.Clean (Halted crypto A [])) (fun _ => Faulty.Clean (Halted crypto A [])) := by
  induction activated with
  | nil => exact triple_pure fun _ h => h
  | cons c activated ih =>
    exact (triple_undo (fun e e' h htombstone => h.tombstone htombstone)
      (fun _ => Halted crypto A [])).bind fun _ => ih

/-- A failure that reaches the caller as an error leaves `P`, unless a rollback failed. -/
def Returned (P : Engine → Prop) (f : Failure) (s : Faulty Engine) : Prop :=
  f.toError?.isSome → s.Clean P

/-- The registry phase. -/
theorem triple_activateChildren (cause : Failure) (t : Nat) (ordered : List DerivedAccountRequest)
    (activated : List ActivatedChild) :
    Triple (Faulty.Clean (Walked crypto derive A activated))
      (activateChildrenBy (faulty cause) crypto derive A.walletId A.operationId A.seed A.number t
        ordered activated)
      (fun children => Faulty.Clean (Walked crypto derive A children))
      (Returned (Halted crypto A [])) := by
  induction ordered generalizing activated with
  | nil => exact triple_pure fun _ h => h
  | cons request ordered ih =>
    refine (triple_activateChild cause t request).attempt_bind (fun child => ih _) ?_ ?_
    · intro f c hc
      have htombstones : Triple _ _ _ (Returned (Halted crypto A [])) :=
        (triple_tombstones cause t activated).post (fun _ _ h => h) fun _ _ h _ => h
      exact htombstones.bind fun _ => triple_fail fun _ h _ => h
    · intro f s hf _ hsome
      rw [hf] at hsome
      cases hsome

end

end BloomSigner
