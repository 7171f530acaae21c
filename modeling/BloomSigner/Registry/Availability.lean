import BloomSigner.Registry.ChildNumbers
import BloomSigner.Registry.Descriptors
import BloomSigner.Registry.Recorder

/-! # When a reservation goes through

A slot whose place no row of the wallet holds is granted as soon as the recorder accepts its entry.
The shared account number of a wallet is such a slot in both families and in every role. An ordinary
slot is not: counters are kept per role while paths are unique across roles. -/

namespace BloomSigner.Registry

open Lib

variable {σ : Type} {sha256 : List UInt8 → Digest32} {audit : AuditRecorder σ}
variable {db : RegistryDb} {s s' : State σ} {req : PrepareRequest}

/-- The recorder accepts every entry. -/
def AuditRecorder.Accepts (audit : AuditRecorder σ) : Prop :=
  ∀ journal event payload, ∃ journal', audit journal event payload = .ok journal'

/-- In a table of canonical paths, a place is occupied only through its path. -/
theorem pathOwner_of_occupied (hinv : PathInv db)
    (hpath : resolveCanonicalPath req.profile account index = .ok path)
    (h : Occupied db req account index path) :
    ∃ op row, db.allocations.get? (req.walletId, op) = some row ∧ row.profile = req.profile ∧
      row.path = path := by
  obtain ⟨op, row, hrow, hp, hplace⟩ := h
  refine ⟨op, row, hrow, hp, ?_⟩
  rcases hplace with hsame | ⟨-, haccount, hindex⟩
  · exact hsame
  · have hcanonical := hinv.canonical _ op row hrow
    rw [hp, haccount, hindex, hpath] at hcanonical
    exact (Except.ok.inj hcanonical).symm

/-- A chosen slot with a free place is reserved. -/
theorem prepareAllocationAt_of_slot (sha256 : List UInt8 → Digest32) (haudit : audit.Accepts)
    (hv : req.validate = .ok ())
    (hfresh : loadAllocation s.db req.walletId req.operationId = none)
    (hadmitted : Admitted s.db req account)
    (hslot : selectSlot s.db (req.namespaceKey account) req
      (counterOf s.db (req.namespaceKey account)) = .ok (.chosen index skipped))
    (hpath : resolveCanonicalPath req.profile account index = .ok path)
    (hfree : ¬Occupied s.db req account index path) :
    ∃ s', prepareAllocationAt sha256 audit s req =
      (.ok (req.reservation account index path), s') := by
  obtain ⟨payload, db', hsettle⟩ := settle_of_free sha256 audit s skipped hadmitted.profile hpath
    hfresh hfree
  obtain ⟨journal, haccepted⟩ := haudit s.journal "derivation.prepared" payload
  rw [prepareAllocationAt_of_fresh hv hfresh, hadmitted.prepareFresh_eq, hslot, bind_ok, hsettle,
    haccepted]
  exact ⟨_, rfl⟩

/-! ## Ordinary reservations -/

/-- An ordinary request for an EVM namespace with a usable index in range whose path is free. -/
structure Grantable (db : RegistryDb) (req : PrepareRequest) (account : Nat) : Prop where
  walks : Walks db req account
  evm : req.profile = profileEvm
  room : ∃ j path, (namespaceOf db (req.namespaceKey account)).nextIndex ≤ j ∧ j < 2 ^ 31 ∧
    Unusable db (req.namespaceKey account) req j = false ∧
    resolveCanonicalPath req.profile account j = .ok path ∧
    pathOwner db req.walletId req.profile path = none

/-- No row of the wallet, in any role, holds the path of the first usable index. -/
def FirstPathFree (db : RegistryDb) (req : PrepareRequest) (account : Nat) : Prop :=
  ∀ i path, FirstUsable db (req.namespaceKey account) req i →
    resolveCanonicalPath req.profile account i = .ok path →
    pathOwner db req.walletId req.profile path = none

theorem Grantable.firstUsable (h : Grantable db req account) :
    ∃ i, FirstUsable db (req.namespaceKey account) req i := by
  obtain ⟨j, -, hlower, hupper, husable, -⟩ := h.room
  have hcounter : counterOf db (req.namespaceKey account) ≤ j :=
    Nat.le_trans (Nat.mod_le _ _) hlower
  obtain ⟨i, -, hfirst⟩ := FirstUsable.exists_le hcounter (by omega) husable
  exact ⟨i, hfirst⟩

theorem FirstUsable.walk (h : FirstUsable db ns req i) :
    ∃ skipped, nextValidIndex (counterOf db ns) (Unusable db ns req) = some (i, skipped) := by
  rcases nextValidIndex_cases db ns req with ⟨j, skipped, hfirst, hwalk⟩ | ⟨hnone, -⟩
  · obtain rfl := h.unique hfirst
    exact ⟨skipped, hwalk⟩
  · have husable := h.usable
    rw [hnone i h.lower h.upper] at husable
    cases husable

theorem Walks.selectSlot_eq (h : Walks db req account)
    (hwalk : nextValidIndex (counterOf db (req.namespaceKey account))
      (Unusable db (req.namespaceKey account) req) = some (i, skipped)) :
    selectSlot db (req.namespaceKey account) req (counterOf db (req.namespaceKey account)) =
      .ok (.chosen i skipped) := by
  rw [selectSlot, h.ordinary]
  dsimp only
  unfold Unusable at hwalk
  rw [hwalk]

theorem prepareAllocationAt_of_firstPathFree (sha256 : List UInt8 → Digest32)
    (haudit : audit.Accepts) (hinv : PathInv s.db) (h : Grantable s.db req account)
    (hfree : FirstPathFree s.db req account) :
    ∃ r s', prepareAllocationAt sha256 audit s req = (.ok r, s') := by
  obtain ⟨i, hfirst⟩ := h.firstUsable
  obtain ⟨skipped, hwalk⟩ := hfirst.walk
  obtain ⟨path, hpath⟩ := h.walks.admitted.profile.path account i
  obtain ⟨s', hgranted⟩ := prepareAllocationAt_of_slot sha256 haudit h.walks.valid h.walks.fresh
    h.walks.admitted (h.walks.selectSlot_eq hwalk) hpath fun hoccupied => by
      obtain ⟨op, row, hrow, hp, hpath'⟩ := pathOwner_of_occupied hinv hpath hoccupied
      exact pathOwner_none (hfree i path hfirst hpath) hrow hp hpath'
  exact ⟨_, s', hgranted⟩

/-- A taken path is reported before the counter moves, so the registry is left as it was. -/
theorem prepareAllocationAt_of_taken (sha256 : List UInt8 → Digest32) (audit : AuditRecorder σ)
    (h : Walks s.db req account) (hfirst : FirstUsable s.db (req.namespaceKey account) req i)
    (hpath : resolveCanonicalPath req.profile account i = .ok path)
    (htaken : pathOwner s.db req.walletId req.profile path ≠ none) :
    ∃ e, prepareAllocationAt sha256 audit s req = (.error e, s) := by
  obtain ⟨skipped, hwalk⟩ := hfirst.walk
  obtain ⟨e, hrefused⟩ := settle_of_occupied sha256 audit s skipped h.admitted.profile hpath
    (by_contra fun hfree => htaken (pathOwner_of_free hfree))
  rw [prepareAllocationAt_of_fresh h.valid h.fresh, h.prepareFresh_eq hwalk, hrefused]
  exact ⟨_, rfl⟩

theorem run_replicate_of_fixed {step : τ → κ → τ} (h : step t c = t) (n : Nat) :
    run step t (List.replicate n c) = t := by
  induction n with
  | zero => rfl
  | succ n ih => rw [List.replicate_succ, run_cons, h, ih]

/-- The request succeeds after some number of retries. -/
def Converges (sha256 : List UInt8 → Digest32) (audit : AuditRecorder σ) (s : State σ)
    (req : PrepareRequest) : Prop :=
  ∃ n r s', prepareAllocation sha256 audit
    (run (step sha256 audit) s (List.replicate n (.prepareAllocation req))) req = (.ok r, s')

theorem not_converges_of_refused (h : prepareAllocation sha256 audit s req = (.error e, s)) :
    ¬Converges sha256 audit s req := by
  rintro ⟨n, r, s', hretry⟩
  have hfixed : step sha256 audit s (.prepareAllocation req) = s := by
    rw [step, h]
  rw [run_replicate_of_fixed hfixed, h] at hretry
  cases hretry

/-- An ordinary request that its namespace can grant succeeds, at once or by being retried, exactly
when the path of the first usable index is free. -/
theorem run_ordinary_converges_iff (sha256 : List UInt8 → Digest32) (audit : AuditRecorder σ)
    (haudit : audit.Accepts) (journal : σ) (calls : List Call) (req : PrepareRequest)
    (account : Nat)
    (hgrantable : Grantable (run (step sha256 audit) ⟨∅, journal⟩ calls).db req account) :
    Converges sha256 audit (run (step sha256 audit) ⟨∅, journal⟩ calls) req ↔
      FirstPathFree (run (step sha256 audit) ⟨∅, journal⟩ calls).db req account := by
  have hinv : PathInv (run (step sha256 audit) ⟨∅, journal⟩ calls).db :=
    run_pathInv sha256 audit .empty calls
  have hordinary : { req with targetIndex := none } = req := by
    rw [← hgrantable.walks.ordinary]
  constructor
  · intro hconverges i path hfirst hpath
    by_contra htaken
    obtain ⟨e, hrefused⟩ :=
      prepareAllocationAt_of_taken sha256 audit hgrantable.walks hfirst hpath htaken
    refine not_converges_of_refused (e := e) ?_ hconverges
    rw [prepareAllocation, hordinary, hrefused]
  · intro hfree
    obtain ⟨r, s', hgranted⟩ :=
      prepareAllocationAt_of_firstPathFree sha256 haudit hinv hgrantable hfree
    exact ⟨0, r, s', by rw [prepareAllocation, hordinary]; exact hgranted⟩

/-- An ordinary EVM reservation under account 0. -/
def evmRequest (role operationId : String) : PrepareRequest where
  walletId := ⟨"wallet"⟩
  profile := profileEvm
  role := role
  account := some 0
  targetIndex := none
  operationId := operationId
  invalidChild := fun _ _ => false
  nowMs := 1

/-- The registry after the first reservation of the role `"hot"`. -/
def afterFirst (sha256 : List UInt8 → Digest32) : State Unit :=
  run (step sha256 fun (j : Unit) _ _ => .ok j) ⟨∅, ()⟩
    [.prepareAllocation (evmRequest "hot" "first")]

theorem grantable_afterFirst (sha256 : List UInt8 → Digest32) (role : String)
    (hrole : role = "hot" ∨ role = "cold") :
    Grantable (afterFirst sha256).db (evmRequest role "second") 0 := by
  rcases hrole with rfl | rfl
  all_goals exact {
    walks := ⟨rfl, rfl, rfl, rfl, .inl rfl, Nat.le_of_ble_eq_true rfl⟩
    evm := rfl
    room := ⟨1, "m/44'/60'/0'/0/1", Nat.le_of_ble_eq_true rfl, by decide, rfl, rfl, rfl⟩ }

/-- The same role is served at its next index. -/
theorem run_ordinary_converges_iff_hot :
    Converges digestOfHead (fun (j : Unit) _ _ => .ok j) (afterFirst digestOfHead)
      (evmRequest "hot" "second") := by
  refine (run_ordinary_converges_iff digestOfHead (fun (j : Unit) _ _ => .ok j)
    (fun j _ _ => ⟨j, rfl⟩) () [.prepareAllocation (evmRequest "hot" "first")]
    (evmRequest "hot" "second") 0 (grantable_afterFirst digestOfHead "hot" (.inl rfl))).mpr ?_
  intro i path hfirst hpath
  obtain rfl : i = 1 := hfirst.unique ⟨by decide, by decide, rfl, fun j hlower hupper => by
    exact absurd hupper (Nat.not_lt.mpr hlower)⟩
  cases hpath
  rfl

/-- Another role finds the path of its first index taken, however often it tries. -/
theorem other_role_never_converges :
    ¬∃ sha256 : List UInt8 → Digest32, ∀ (calls : List Call) (req : PrepareRequest)
      (account : Nat),
      let s := run (step sha256 fun (j : Unit) _ _ => .ok j) ⟨∅, ()⟩ calls
      Grantable s.db req account → Converges sha256 (fun (j : Unit) _ _ => .ok j) s req := by
  rintro ⟨sha256, h⟩
  have hconverges := h [.prepareAllocation (evmRequest "hot" "first")] (evmRequest "cold" "second")
    0 (grantable_afterFirst sha256 "cold" (.inr rfl))
  refine not_converges_of_refused (e := conflict
    "canonical derivation path 'm/44'/60'/0'/0/0' is already allocated by operation 'first'") rfl
    hconverges

end BloomSigner.Registry
