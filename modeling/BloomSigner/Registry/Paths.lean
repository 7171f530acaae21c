import BloomSigner.Lib.Run
import BloomSigner.Registry.Effects

/-! # No path is handed out twice

Runs of the registry from its empty state. Paths stay unique per wallet and profile through every
lifecycle state, every row sits at its canonical path below the counter of its namespace, and
counters only move forward. -/

namespace BloomSigner.Registry

open Lib

variable {σ : Type} {db db' : RegistryDb} {V : Token → AllocationRow → Prop}

/-- A call of the registry. -/
inductive Call where
  | prepareAllocation (req : PrepareRequest)
  | prepareAllocationAt (req : PrepareRequest)
  | commitIndex (walletId : Token) (operationId : String) (nowMs : Nat)
  | commitAccount (walletId : Token) (operationId publicKeySpkiDer : String)
      (publicKeyFingerprint : Digest32) (nowMs : Nat)
  | activate (walletId : Token) (operationId : String) (nowMs : Nat)
  | retire (walletId : Token) (operationId : String) (nowMs : Nat)
  | tombstone (walletId : Token) (operationId : String) (nowMs : Nat)
  | recordInvalidChildTombstone (ns : NamespaceKey) (index nowMs : Nat)

section
variable (sha256 : List UInt8 → Digest32) (audit : AuditRecorder σ)

/-- The state after one call, whatever it returned. -/
def step (s : State σ) : Call → State σ
  | .prepareAllocation req => (prepareAllocation sha256 audit s req).2
  | .prepareAllocationAt req => (prepareAllocationAt sha256 audit s req).2
  | .commitIndex w op t => (commitIndex sha256 audit s w op t).2
  | .commitAccount w op spki f t => (commitAccount sha256 audit s w op spki f t).2
  | .activate w op t => (activate sha256 audit s w op t).2
  | .retire w op t => (retire sha256 audit s w op t).2
  | .tombstone w op t => (tombstone sha256 audit s w op t).2
  | .recordInvalidChildTombstone ns i t => (recordInvalidChildTombstone s ns i t).2

theorem step_effect (s : State σ) (c : Call) :
    Effect (fun _ _ => True) s.db (step sha256 audit s c).db := by
  cases c with
  | prepareAllocation req => exact prepareAllocationAt_effect s _ fun _ _ _ => trivial
  | prepareAllocationAt req => exact prepareAllocationAt_effect s req fun _ _ _ => trivial
  | commitIndex w op t => exact commitIndex_effect s w op t
  | commitAccount w op spki f t => exact commitAccount_effect s w op spki f t
  | activate w op t => exact activate_effect s w op t
  | retire w op t => exact retire_effect s w op t
  | tombstone w op t => exact tombstone_effect s w op t
  | recordInvalidChildTombstone ns i t => exact recordInvalidChildTombstone_effect s ns i t

end

/-- The invariant of the registry's tables. -/
structure PathInv (db : RegistryDb) : Prop where
  unique : ∀ w op₁ op₂ row₁ row₂, db.allocations.get? (w, op₁) = some row₁ →
    db.allocations.get? (w, op₂) = some row₂ → row₁.profile = row₂.profile →
    row₁.path = row₂.path → op₁ = op₂
  canonical : ∀ w op row, db.allocations.get? (w, op) = some row →
    resolveCanonicalPath row.profile row.account row.index = .ok row.path
  counted : ∀ w op row, db.allocations.get? (w, op) = some row →
    ∃ n, db.namespaces.get? (row.namespaceKey w) = some n ∧ row.index < n.nextIndex
  bounded : CountersBounded db

theorem PathInv.empty : PathInv ∅ where
  unique _ _ _ _ _ h := by cases h
  canonical _ _ _ h := by cases h
  counted _ _ _ h := by cases h
  bounded _ _ h := by cases h

/-- Every row after a relabelling has a row before it at the same key and slot. -/
theorem relabelled_get? {k : Token × String} (hrow : db.allocations.get? k = some row)
    (hall : db'.allocations = db.allocations.update k fun _ => row')
    (hslot : row'.slot = row.slot) (h : db'.allocations.get? k' = some r) :
    ∃ r₀, db.allocations.get? k' = some r₀ ∧ r.slot = r₀.slot := by
  rw [hall, Table.get?_update] at h
  split at h
  · next hk => subst hk; rw [hrow] at h; cases h; exact ⟨row, hrow, hslot⟩
  · exact ⟨r, h, rfl⟩

/-- Every row after a reservation is the new one or was there before. -/
theorem Reserved.get? {row : AllocationRow} (hres : Reserved db db' w op row)
    (h : db'.allocations.get? k = some r) :
    k = (w, op) ∧ r = row ∨ k ≠ (w, op) ∧ db.allocations.get? k = some r := by
  rw [Table.get?_insert? hres.inserted] at h
  split at h
  · next hk => cases h; exact .inl ⟨hk, rfl⟩
  · next hk => exact .inr ⟨hk, h⟩

theorem PathInv.effect (hinv : PathInv db) (heff : Effect V db db') : PathInv db' := by
  cases heff with
  | relabelled k row row' hrow hall hslot hns _ =>
    refine ⟨?_, ?_, ?_, ?_⟩
    · intro w op₁ op₂ r₁ r₂ h₁ h₂ hprof hpath
      obtain ⟨q₁, hq₁, hs₁⟩ := relabelled_get? hrow hall hslot h₁
      obtain ⟨q₂, hq₂, hs₂⟩ := relabelled_get? hrow hall hslot h₂
      simp only [AllocationRow.slot, Prod.mk.injEq] at hs₁ hs₂
      exact hinv.unique w op₁ op₂ q₁ q₂ hq₁ hq₂ (by rw [← hs₁.1, ← hs₂.1, hprof])
        (by rw [← hs₁.2.2.2.2, ← hs₂.2.2.2.2, hpath])
    · intro w op r h
      obtain ⟨q, hq, hs⟩ := relabelled_get? hrow hall hslot h
      simp only [AllocationRow.slot, Prod.mk.injEq] at hs
      rw [hs.1, hs.2.2.1, hs.2.2.2.1, hs.2.2.2.2]
      exact hinv.canonical w op q hq
    · intro w op r h
      obtain ⟨q, hq, hs⟩ := relabelled_get? hrow hall hslot h
      rw [AllocationRow.namespaceKey_eq hs, hns]
      simp only [AllocationRow.slot, Prod.mk.injEq] at hs
      rw [hs.2.2.2.1]
      exact hinv.counted w op q hq
    · rw [CountersBounded, hns]; exact hinv.bounded
  | burned hall hctr hbnd _ =>
    refine ⟨?_, ?_, ?_, hbnd hinv.bounded⟩
    · rw [hall]; exact hinv.unique
    · rw [hall]; exact hinv.canonical
    · intro w op r h
      rw [hall] at h
      obtain ⟨n, hn, hlt⟩ := hinv.counted w op r h
      obtain ⟨n', hn', hle⟩ := hctr _ n hn
      exact ⟨n', hn', Nat.lt_of_lt_of_le hlt hle⟩
  | reserved w₀ op₀ row _ hres =>
    refine ⟨?_, ?_, ?_, hres.bounded hinv.bounded⟩
    · intro w op₁ op₂ r₁ r₂ h₁ h₂ hprof hpath
      -- the new row's path was unowned, so two rows at one path are both old or both new
      rcases hres.get? h₁ with ⟨hk₁, rfl⟩ | ⟨-, h₁⟩ <;>
        rcases hres.get? h₂ with ⟨hk₂, rfl⟩ | ⟨-, h₂⟩
      · exact (Prod.mk.inj (hk₁.trans hk₂.symm)).2
      · obtain ⟨rfl, -⟩ := Prod.mk.inj hk₁
        exact absurd hpath.symm (hres.unowned op₂ r₂ h₂ hprof.symm)
      · obtain ⟨rfl, -⟩ := Prod.mk.inj hk₂
        exact absurd hpath (hres.unowned op₁ r₁ h₁ hprof)
      · exact hinv.unique w op₁ op₂ r₁ r₂ h₁ h₂ hprof hpath
    · intro w op r h
      rcases hres.get? h with ⟨-, rfl⟩ | ⟨-, h⟩
      · exact hres.canonical
      · exact hinv.canonical w op r h
    · intro w op r h
      rcases hres.get? h with ⟨hk, rfl⟩ | ⟨-, h⟩
      · obtain ⟨rfl, -⟩ := Prod.mk.inj hk
        exact hres.counted hinv.bounded
      · obtain ⟨n, hn, hlt⟩ := hinv.counted w op r h
        obtain ⟨n', hn', hle⟩ := hres.counters _ n hn
        exact ⟨n', hn', Nat.lt_of_lt_of_le hlt hle⟩

theorem Effect.countersLe (heff : Effect V db db') : CountersLe db db' := by
  cases heff with
  | relabelled _ _ _ _ _ _ hns _ => rw [CountersLe, hns]; exact CountersLe.refl db
  | burned _ hctr _ _ => exact hctr
  | reserved _ _ _ _ hres => exact hres.counters

section
variable (sha256 : List UInt8 → Digest32) (audit : AuditRecorder σ)

theorem run_pathInv {s : State σ} (h : PathInv s.db) (calls : List Call) :
    PathInv (run (step sha256 audit) s calls).db :=
  run_invariant (P := fun s : State σ => PathInv s.db)
    (fun s c hs => hs.effect (step_effect _ _ s c)) h calls

theorem run_countersLe (s : State σ) (calls : List Call) :
    CountersLe s.db (run (step sha256 audit) s calls).db :=
  run_rel (R := fun s s' : State σ => CountersLe s.db s'.db) (fun s => .refl s.db)
    (fun _ _ _ h₁ h₂ => h₁.trans h₂) (fun s c => (step_effect _ _ s c).countersLe) s calls

/-- In every state reached from the empty registry, no two rows of a wallet share a profile and
path, each row is at its canonical path and below its namespace's counter, counters never decrease
from there on, and a prepare that makes a new reservation returns an index with no tombstone. A
retry of an operation returns the row's reservation and changes nothing. -/
theorem run_never_reuses_path (journal : σ) (calls : List Call) :
    let s := run (step sha256 audit) ⟨∅, journal⟩ calls
    (∀ w op₁ op₂ row₁ row₂, s.db.allocations.get? (w, op₁) = some row₁ →
      s.db.allocations.get? (w, op₂) = some row₂ → row₁.profile = row₂.profile →
      row₁.path = row₂.path → op₁ = op₂) ∧
    (∀ w op row, s.db.allocations.get? (w, op) = some row →
      resolveCanonicalPath row.profile row.account row.index = .ok row.path ∧
      ∃ n, s.db.namespaces.get? ⟨w, row.profile, row.role, row.account⟩ = some n ∧
        row.index < n.nextIndex) ∧
    (∀ later ns n, s.db.namespaces.get? ns = some n →
      ∃ n', (run (step sha256 audit) s later).db.namespaces.get? ns = some n' ∧
        n.nextIndex ≤ n'.nextIndex) ∧
    (∀ req r s', prepareAllocationAt sha256 audit s req = (.ok r, s') →
      (loadAllocation s.db req.walletId req.operationId = none →
        s.db.tombstones.get? (⟨req.walletId, r.profile, r.role, r.account⟩, r.index) = none) ∧
      ∀ row, loadAllocation s.db req.walletId req.operationId = some row →
        r = row.reservation req.operationId ∧ s' = s) := by
  intro s
  have hinv : PathInv s.db := run_pathInv sha256 audit .empty calls
  refine ⟨hinv.unique, fun w op row h => ⟨hinv.canonical w op row h, hinv.counted w op row h⟩,
    fun later => run_countersLe sha256 audit s later, fun req r s' h => ?_⟩
  rcases prepareAllocationAt_ok h with ⟨row, hrow, rfl, rfl⟩ | ⟨row, hnone, rfl, hres⟩
  · refine ⟨fun hn => ?_, fun row' hrow' => ?_⟩
    · rw [loadAllocation, hrow] at hn; cases hn
    · rw [loadAllocation, hrow] at hrow'; cases hrow'; exact ⟨rfl, rfl⟩
  · refine ⟨fun _ => hres.untombstoned, fun row' hrow' => ?_⟩
    rw [loadAllocation, hnone] at hrow'; cases hrow'

end

/-- An operation is prepared, tombstoned and prepared again: the retry succeeds and returns the
tombstoned index. -/
theorem retry_returns_tombstoned_index :
    ¬∃ sha256 : List UInt8 → Digest32, ∀ (calls : List Call) (req : PrepareRequest) r s',
      let s := run (step sha256 fun (j : Unit) _ _ => .ok j) ⟨∅, ()⟩ calls
      prepareAllocationAt sha256 (fun (j : Unit) _ _ => .ok j) s req = (.ok r, s') →
        s.db.tombstones.get? (⟨req.walletId, r.profile, r.role, r.account⟩, r.index) = none := by
  rintro ⟨sha256, h⟩
  let req : PrepareRequest := {
    walletId := ⟨"wallet"⟩, profile := profileEvm, role := roleEvmAccount, account := some 0
    targetIndex := none, operationId := "op", invalidChild := fun _ _ => false, nowMs := 1 }
  have := h [.prepareAllocationAt req, .tombstone ⟨"wallet"⟩ "op" 2] req _ _ rfl
  cases this

end BloomSigner.Registry
