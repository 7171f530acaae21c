import BloomSigner.Engine.Handover
import BloomSigner.Engine.AccountEffects
import BloomSigner.Backend.Restorable

/-! # Retiring an account again

`retire_bip39_account` writes three stores one after the other. A call that stops between two of
them leaves the row RETIRED. The lookup of the next call still finds the row, but the transition it
then asks for starts from ACTIVATED, so the retirement can only be repeated while the registry has
not recorded it. -/

namespace BloomSigner

open Lib Lib.Program

/-! ## The steps -/

/-- The commits of a retirement. -/
inductive RetirementStep where
  | registry | backend | enrollment
  deriving DecidableEq, Repr

section
variable (crypto : Crypto) (walletId : Token) (keyRef : KeyRef) (nowMs : Nat)

/-- The operation a retirement works on. -/
def retiredOperation : EngineM String := do
  let operation ← .read fun e => liveAllocation e.db walletId keyRef.publicKeyFingerprint
    fun state => state = .activated ∨ state = .retired
  okOr operation (error .keyrefMismatch "no active allocation for this derived child")

def retirementStep (operationId : String) : RetirementStep → EngineM Unit
  | .registry => registryCall crypto fun audit s =>
      Registry.retire crypto.sha256 audit s walletId operationId nowMs
  | .backend => backendCall (·.retireBip39Child keyRef)
  | .enrollment => deactivateEnrolledBip39Child crypto walletId keyRef

/-- The steps before the given one. -/
def RetirementStep.before : RetirementStep → List RetirementStep
  | .registry => []
  | .backend => [.registry]
  | .enrollment => [.registry, .backend]

/-- The call up to the step that fails, which leaves nothing of its own behind. -/
def interruptedRetirement (failing : RetirementStep) : EngineM Unit := do
  let operationId ← retiredOperation walletId keyRef
  Program.forEach (retirementStep crypto walletId keyRef nowMs operationId) failing.before

end

section
variable {crypto : Crypto} {w : Token} {key : KeyRef} {t : Nat} {e e₁ e₂ : Engine}

theorem retireBip39Account_eq (crypto : Crypto) (w : Token) (key : KeyRef) (t : Nat) :
    retireBip39Account crypto w key t = retiredOperation w key >>= fun operationId =>
      retirementStep crypto w key t operationId .registry >>= fun _ =>
      retirementStep crypto w key t operationId .backend >>= fun _ =>
      retirementStep crypto w key t operationId .enrollment := by
  funext e
  refine Eq.symm ((congrFun (Program.bind_assoc _ _ _) e).trans ?_)
  rfl

/-! ## The allocation of a child -/

theorem liveAllocation_eq_some {db : Db} {live : Registry.AllocationState → Bool}
    (h : liveAllocation db w f live = some op) : ∃ row,
      db.registry.allocations.get? (w, op) = some row ∧ row.publicKeyFingerprint = some f ∧
      live row.state = true := by
  obtain ⟨⟨⟨w', op'⟩, row⟩, hfind, rfl⟩ := Option.map_eq_some_iff.mp h
  have hmem := List.mem_of_find?_eq_some hfind
  have hp := List.find?_some hfind
  simp only [decide_eq_true_eq] at hp
  obtain ⟨rfl, hfingerprint, hlive⟩ := hp
  exact ⟨row, Table.get?_eq_some.mpr hmem, hfingerprint, hlive⟩

/-- An update that keeps the allocation live keeps it the one that is found. -/
theorem liveAllocation_update {db db' : Db} {live : Registry.AllocationState → Bool}
    {row : Registry.AllocationRow} (h : liveAllocation db w f live = some op)
    (hregistry : db'.registry.allocations = db.registry.allocations.update (w, op) fun _ => row)
    (hfingerprint : row.publicKeyFingerprint = some f) (hlive : live row.state = true) :
    liveAllocation db' w f live = some op := by
  obtain ⟨row₀, hrow₀, hfingerprint₀, hlive₀⟩ := liveAllocation_eq_some h
  have hfirst := @Table.find?_update_fst _ _ _ _ _ row _ (fun r => decide (r.1.1 = w ∧
    r.2.publicKeyFingerprint = some f ∧ live r.2.state)) hrow₀
    (by simp [hfingerprint, hlive, hfingerprint₀, hlive₀])
  refine Eq.trans ?_ h
  have hsecond := congrArg (Option.map Prod.snd) hfirst
  rw [Option.map_map, Option.map_map, ← hregistry] at hsecond
  exact hsecond

/-! ## Before and after -/

/-- The wallet has the child as an active account, and nothing keeps the engine from writing. -/
structure Retirable (crypto : Crypto) (e : Engine) (w : Token) (key : KeyRef) : Prop where
  writable : e.auditDegraded = false
  journal : Audit.JournalInv crypto ⟨e.auditKeys, e.db.journal⟩
  room : e.db.journal.chain.rows.length < 2 ^ 63
  allocation : ∃ op row, liveAllocation e.db w key.publicKeyFingerprint
      (fun state => state = .activated ∨ state = .retired) = some op ∧
    e.db.registry.allocations.get? (w, op) = some row ∧ row.state = .activated
  enrolled : ∃ row, e.db.enrolledKeys.get? key.publicKeyFingerprint = some row ∧
    row.walletId = some w ∧ row.available = true
  derived : ∃ seed profile path, key.derivation = some (.bip39Multicurve seed profile path)
  registered : ∃ b, e.backends.get? (key.backend, key.backendInstance) = some (.localSigner b) ∧
    b.registry.get? key.locator = some key

/-- The account is RETIRED, gone from its backend and not available for signatures. -/
structure RetiredIn (e : Engine) (w : Token) (key : KeyRef) : Prop where
  allocation : ∃ op row, e.db.registry.allocations.get? (w, op) = some row ∧
    row.publicKeyFingerprint = some key.publicKeyFingerprint ∧ row.state = .retired
  enrolled : ∃ row, e.db.enrolledKeys.get? key.publicKeyFingerprint = some row ∧
    row.walletId = some w ∧ row.available = false
  unregistered : ∃ b, e.backends.get? (key.backend, key.backendInstance) = some (.localSigner b) ∧
    b.registry.get? key.locator = none

theorem retiredOperation_of_found (h : liveAllocation e.db w key.publicKeyFingerprint
    (fun state => state = .activated ∨ state = .retired) = some op) :
    retiredOperation w key e = (.ok op, e) := by
  rw [retiredOperation, read_bind, h]
  rfl

theorem registry_retire_of_activated (sha256 : List UInt8 → Digest32)
    {audit : Registry.AuditRecorder σ} {s : Registry.State σ} {row : Registry.AllocationRow}
    (hrow : s.db.allocations.get? (w, op) = some row)
    (hstate : row.state = .activated) (haudit : audit s.journal "derivation.retired"
      (row.payload w op (some .activated) .retired) = .ok journal) :
    ∃ db, Registry.retire sha256 audit s w op t = (.ok (), ⟨db, journal⟩) ∧
      db.allocations = s.db.allocations.update (w, op)
        fun _ => { row with state := .retired, updatedAtMs := asI64 t } := by
  have hload : Registry.loadAllocation s.db w op = some row := hrow
  refine ⟨Registry.appendEvent sha256 { s.db with
    allocations := s.db.allocations.update (w, op)
      fun _ => { row with state := .retired, updatedAtMs := asI64 t } }
    w op (some .activated) .retired t, ?_, rfl⟩
  rw [Registry.retire, Registry.advance, Registry.allocationOf, Registry.transition, hload,
    okOr_some, bind_ok, Option.filter_some, decide_eq_true hstate, if_pos rfl, okOr_some, bind_ok]
  dsimp only [pure_eq_ok]
  rw [bind_ok, haudit]
  rfl

/-- No retirement starts from another state. -/
theorem registry_retire_of_retired (sha256 : List UInt8 → Digest32)
    (audit : Registry.AuditRecorder σ) {s : Registry.State σ} {row : Registry.AllocationRow}
    (hrow : s.db.allocations.get? (w, op) = some row)
    (hstate : row.state = .retired) :
    ∃ cause, Registry.retire sha256 audit s w op t = (.error cause, s) := by
  have hload : Registry.loadAllocation s.db w op = some row := hrow
  rw [Registry.retire, Registry.advance, Registry.allocationOf, Registry.transition, hload,
    okOr_some, bind_ok, Option.filter_some, hstate]
  exact ⟨_, rfl⟩

/-- The registry has recorded the retirement; the other stores are as they were. -/
structure Recorded (crypto : Crypto) (w : Token) (key : KeyRef) (op : String) (e e₁ : Engine) :
    Prop where
  writable : e₁.auditDegraded = false
  verified : e₁.journalVerifies crypto
  found : liveAllocation e₁.db w key.publicKeyFingerprint
    (fun state => state = .activated ∨ state = .retired) = some op
  row : ∃ row, e₁.db.registry.allocations.get? (w, op) = some row ∧
    row.publicKeyFingerprint = some key.publicKeyFingerprint ∧ row.state = .retired
  keys : e₁.db.enrolledKeys = e.db.enrolledKeys
  backends : e₁.backends = e.backends

theorem Retirable.records (h : Retirable crypto e w key) (t : Nat) :
    ∃ op e₁, retiredOperation w key e = (.ok op, e) ∧
      retirementStep crypto w key t op .registry e = (.ok (), e₁) ∧
      Recorded crypto w key op e e₁ := by
  obtain ⟨op, row, hfound, hrow, hstate⟩ := h.allocation
  obtain ⟨row', hrow', hfingerprint, -⟩ := liveAllocation_eq_some hfound
  rw [hrow] at hrow'
  cases hrow'
  have hopen : e.journalOpen crypto := ⟨h.journal.verified, h.room⟩
  obtain ⟨journal, haudit⟩ := recorder_of_open hopen "derivation.retired"
    (row.payload w op (some .activated) .retired)
  obtain ⟨db, hretire, hallocations⟩ := registry_retire_of_activated (t := t) crypto.sha256
    (s := e.registryState) hrow hstate haudit
  have hget : db.allocations.get? (w, op) =
      some { row with state := .retired, updatedAtMs := asI64 t } := by
    rw [hallocations, Table.get?_update, if_pos rfl]
    show (e.db.registry.allocations.get? (w, op)).map _ = _
    rw [hrow]
    rfl
  refine ⟨op, e.withRegistry ⟨db, journal⟩, retiredOperation_of_found hfound, ?_, ?_⟩
  · rw [retirementStep, registryCall, hretire]
  · exact {
      writable := h.writable
      verified := (h.journal.append haudit).verified
      found := liveAllocation_update hfound hallocations hfingerprint (decide_eq_true (.inr rfl))
      row := ⟨_, hget, hfingerprint, rfl⟩
      keys := rfl
      backends := rfl }

/-- A retirement the registry has recorded cannot be asked for again. -/
theorem Recorded.stuck (h : Recorded crypto w key op e e₁) (hdb : e₂.db = e₁.db) (t : Nat) :
    ∃ cause e', retireBip39Account crypto w key t e₂ = (.error cause, e') := by
  obtain ⟨row, hrow, -, hstate⟩ := h.row
  rw [← hdb] at hrow
  obtain ⟨cause, hretire⟩ := registry_retire_of_retired (t := t) crypto.sha256
    (e₂.recorder crypto) (s := e₂.registryState) hrow hstate
  have hstep : ∃ e', retirementStep crypto w key t op .registry e₂ = (.error cause, e') := by
    rw [retirementStep, registryCall, hretire]
    exact ⟨_, rfl⟩
  obtain ⟨e', hstep⟩ := hstep
  refine ⟨cause, e', ?_⟩
  rw [retireBip39Account_eq, bind_of_ok (retiredOperation_of_found (hdb ▸ h.found))]
  exact bind_of_error hstep

theorem removeKey_of_registered {b : LocalBackend} (h : b.registry.get? key.locator = some key)
    (path : String) :
    ∃ b', b.removeKey key path = .ok b' ∧ b'.registry.get? key.locator = none := by
  rw [LocalBackend.removeKey, reject_of_not (not_not.mpr h), bind_ok]
  exact ⟨_, rfl, by simp⟩

/-- The backend drops the child. -/
theorem Retirable.drops (h : Retirable crypto e w key) :
    ∃ backends, e.backends.retireBip39Child key = .ok backends ∧
      ∃ b, backends.get? (key.backend, key.backendInstance) = some (.localSigner b) ∧
        b.registry.get? key.locator = none := by
  obtain ⟨b, hbackend, hregistered⟩ := h.registered
  obtain ⟨seed, profile, path, hderivation⟩ := h.derived
  obtain ⟨b', hremove, habsent⟩ := removeKey_of_registered hregistered path
  have hretire : b.retireBip39Child key = .ok b' := by
    rw [LocalBackend.retireBip39Child, hderivation]
    exact hremove
  have hlocal : e.backends.localFor key Backends.notCompiled
      "AWS KMS does not support bip39 child retirement" = .ok b := by
    rw [Backends.localFor, hbackend]
  refine ⟨e.backends.setLocal key b', ?_, b', ?_, habsent⟩
  · exact bind_eq_ok.mpr ⟨b, hlocal, bind_eq_ok.mpr ⟨b', by rw [hretire]; rfl, rfl⟩⟩
  · rw [Backends.setLocal, Table.get?_set, if_pos rfl]

/-- With the registry and the backend done, the key is taken out of use. -/
theorem Recorded.deactivates (h : Recorded crypto w key op e e₁) (backends : Backends)
    (henrolled : ∃ row, e.db.enrolledKeys.get? key.publicKeyFingerprint = some row ∧
      row.walletId = some w) :
    ∃ enrolledKeys, deactivateEnrolledBip39Child crypto w key { e₁ with backends } =
        (.ok (), { e₁ with backends, db := { e₁.db with enrolledKeys } }) ∧
      ∃ row, enrolledKeys.get? key.publicKeyFingerprint = some row ∧ row.walletId = some w ∧
        row.available = false := by
  obtain ⟨row, hrow, hwallet⟩ := henrolled
  have hrow₁ : e₁.db.enrolledKeys.get? key.publicKeyFingerprint = some row := h.keys ▸ hrow
  have hbody : deactivateEnrolledBip39ChildBody w key e₁.db = .ok (.commit { e₁.db with
      enrolledKeys := e₁.db.enrolledKeys.update key.publicKeyFingerprint
        fun _ => { row with available := false } } ()) := by
    refine bind_eq_ok.mpr ⟨row, okOr_eq_ok.mpr ?_, rfl⟩
    rw [hrow₁, Option.filter_some, decide_eq_true hwallet, if_pos rfl]
  have hcommits : Commits crypto { e₁ with backends } (deactivateEnrolledBip39ChildBody w key) :=
    ⟨h.writable, h.verified, _, _, hbody⟩
  obtain ⟨db, a, hbody', hmutation⟩ := hcommits.mutation_eq
  cases hbody.symm.trans hbody'
  refine ⟨_, hmutation, { row with available := false }, ?_, hwallet, rfl⟩
  rw [Table.get?_update, if_pos rfl, hrow₁]
  rfl

/-! ## The retry -/

/-- An undisturbed call retires the child. -/
theorem Retirable.retires (h : Retirable crypto e w key) (t : Nat) :
    ∃ e', retireBip39Account crypto w key t e = (.ok (), e') ∧ RetiredIn e' w key := by
  obtain ⟨op, e₁, hfound, hregistry, hrecorded⟩ := h.records t
  obtain ⟨backends, hdrop, hunregistered⟩ := h.drops
  obtain ⟨row, hrow, hwallet, -⟩ := h.enrolled
  obtain ⟨enrolledKeys, hdeactivate, henrolled⟩ :=
    hrecorded.deactivates backends ⟨row, hrow, hwallet⟩
  have hbackend : retirementStep crypto w key t op .backend e₁ =
      (.ok (), { e₁ with backends }) := by
    rw [retirementStep, backendCall, hrecorded.backends, hdrop]
  refine ⟨{ e₁ with backends, db := { e₁.db with enrolledKeys } }, ?_,
    ⟨op, hrecorded.row⟩, henrolled, hunregistered⟩
  rw [retireBip39Account_eq, bind_of_ok hfound, bind_of_ok hregistry, bind_of_ok hbackend]
  exact hdeactivate

/-- What an interrupted call leaves: nothing, or a retirement the registry has recorded. -/
theorem Retirable.left (h : Retirable crypto e w key) (t : Nat) (failing : RetirementStep) :
    let left := (interruptedRetirement crypto w key t failing e).2
    (failing = .registry ∧ left = e) ∨
      failing ≠ .registry ∧ ∃ op e₁, Recorded crypto w key op e e₁ ∧
        left.db = e₁.db := by
  intro left
  obtain ⟨op, e₁, hfound, hregistry, hrecorded⟩ := h.records t
  have hleft : left = (Program.forEach (retirementStep crypto w key t op) failing.before e).2 :=
    congrArg Prod.snd (bind_of_ok hfound)
  cases failing with
  | registry => exact .inl ⟨rfl, hleft⟩
  | backend =>
    refine .inr ⟨by decide, op, e₁, hrecorded, ?_⟩
    rw [hleft, RetirementStep.before, forEach_singleton_snd, hregistry]
  | enrollment =>
    obtain ⟨backends, hdrop, -⟩ := h.drops
    have hbackend : retirementStep crypto w key t op .backend e₁ =
        (.ok (), { e₁ with backends }) := by
      rw [retirementStep, backendCall, hrecorded.backends, hdrop]
    refine .inr ⟨by decide, op, e₁, hrecorded, ?_⟩
    have hdone : Program.forEach (retirementStep crypto w key t op)
        RetirementStep.enrollment.before e = (.ok (), { e₁ with backends }) :=
      (bind_of_ok hregistry).trans (bind_of_ok hbackend)
    rw [hleft, hdone]

/-- The call with the failing step, and then again: the second call ends where an undisturbed one
does exactly when the first had not recorded anything. -/
theorem retirement_converges_iff (crypto : Crypto) (e : Engine) (w : Token) (key : KeyRef)
    (h : Retirable crypto e w key) (failing : RetirementStep) (t t' : Nat) :
    (∃ e', retireBip39Account crypto w key t' e = (.ok (), e') ∧
      retireBip39Account crypto w key t' (interruptedRetirement crypto w key t failing e).2 =
        (.ok (), e') ∧ RetiredIn e' w key) ↔ failing = .registry := by
  obtain ⟨hfailing, hleft⟩ | ⟨hfailing, op, e₁, hrecorded, hdb⟩ := h.left t failing
  · obtain ⟨e', hretire, hretired⟩ := h.retires t'
    rw [hleft]
    exact ⟨fun _ => hfailing, fun _ => ⟨e', hretire, hretire, hretired⟩⟩
  · refine ⟨fun ⟨e', _, hretry, _⟩ => ?_, fun h => absurd h hfailing⟩
    obtain ⟨cause, e'', hstuck⟩ := hrecorded.stuck hdb t'
    rw [hstuck] at hretry
    cases hretry

end

/-! ## A wallet with one child -/

def childKey : KeyRef := { LocalBackend.exampleChild.keyRef with backendInstance := ⟨"w"⟩ }

def childBackend : LocalBackend :=
  (LocalBackend.fresh ⟨"w"⟩ ⟨"w"⟩ .bip39Entropy ⟨List.replicate 24 0, Custody.length_standInNonce⟩
    (List.replicate 16 1 ++ Custody.standInTag (List.replicate 32 3) (List.replicate 24 0)
      (localRootAad ⟨"w"⟩ ⟨"w"⟩)) (List.replicate 32 3) ⟨List.replicate 32 4⟩).registerChild childKey
    (some { LocalBackend.exampleChild with keyRef := childKey }) (some ⟨"allocate-1"⟩)

def childRow : Registry.AllocationRow where
  profile := Registry.profileEvm
  role := Registry.roleEvmAccount
  account := 0
  index := 0
  path := "m/44'/60'/0'/0/0"
  state := .activated
  keySpec := "secp256k1"
  publicKeySpkiDer := some "01"
  publicKeyFingerprint := some childKey.publicKeyFingerprint
  authorityCommitted := true
  createdAtMs := 1000
  updatedAtMs := 1000

/-- A wallet whose only account is active. -/
def childEngine : Engine :=
  { Engine.blank boundKeys ((∅ : Backends).setLocal childKey childBackend) with
    db := { ({} : Db) with
      registry := { allocations :=
        (∅ : Table (Token × String) Registry.AllocationRow).set (⟨"w"⟩, "allocate-1") childRow }
      enrolledKeys := (∅ : Table Digest32 EnrolledKeyRow).set childKey.publicKeyFingerprint
        ⟨childKey, true, .derived, some ⟨"w"⟩⟩ } }

theorem childEngine_retirable : Retirable .standIn childEngine ⟨"w"⟩ childKey where
  writable := rfl
  journal := (ready_blank .standIn ⟨"audit-key"⟩ boundKey ∅).inv
  room := by decide
  allocation := ⟨"allocate-1", childRow, rfl, rfl, rfl⟩
  enrolled := ⟨_, rfl, rfl, rfl⟩
  derived := ⟨_, _, _, rfl⟩
  registered := ⟨childBackend, rfl, rfl⟩

/-- An undisturbed retirement of the child, asked for after nothing was recorded. -/
theorem retirement_converges_iff_child :
    ∃ e', retireBip39Account .standIn ⟨"w"⟩ childKey 3000 childEngine = (.ok (), e') ∧
      retireBip39Account .standIn ⟨"w"⟩ childKey 3000
        (interruptedRetirement .standIn ⟨"w"⟩ childKey 2000 .registry childEngine).2 = (.ok (), e') ∧
      RetiredIn e' ⟨"w"⟩ childKey :=
  (retirement_converges_iff .standIn childEngine ⟨"w"⟩ childKey childEngine_retirable .registry
    2000 3000).mpr rfl

/-- The backend refuses once, and the account cannot be retired any more. -/
theorem interrupted_retirement_stuck :
    Retirable .standIn childEngine ⟨"w"⟩ childKey ∧
      ¬∃ e', retireBip39Account .standIn ⟨"w"⟩ childKey 3000
        (interruptedRetirement .standIn ⟨"w"⟩ childKey 2000 .backend childEngine).2 =
          (.ok (), e') := by
  refine ⟨childEngine_retirable, ?_⟩
  rintro ⟨e', hretry⟩
  obtain ⟨hfailing, -⟩ | ⟨-, op, e₁, hrecorded, hdb⟩ := childEngine_retirable.left 2000 .backend
  · exact absurd hfailing (by decide)
  · obtain ⟨cause, e'', hstuck⟩ := hrecorded.stuck hdb 3000
    rw [hstuck] at hretry
    cases hretry

end BloomSigner
