import Mathlib.Logic.Relation
import BloomSigner.Lib.Table

/-! # A ledger of single-use operations

A request waits under an operation, or a lease holds it, until it ends: with a status only, or with
a receipt and a status in one transaction with its effect. When waiting and leasing are kept apart,
an outcome is final: a status is written once, and so is a receipt. -/

namespace Lib

variable {ι κ π ψ δ ρ τ ε : Type*} [DecidableEq ι] [DecidableEq κ]

/-- What is known about operations `ι`: the requests `π` that wait, the leases `ψ` under their own
keys `κ`, the outcomes `δ` remembered beside the durable receipts `ρ` and statuses `τ`, and the
tables `ε` that effects write. `degraded` is set once a write was lost. -/
@[ext] structure Ledger (ι κ π ψ δ ρ τ ε : Type*) where
  waiting : Table ι π
  leases : Table κ ψ
  remembered : Table ι δ
  receipts : Table ι ρ
  statuses : Table ι τ
  effects : ε
  degraded : Bool

namespace Ledger

/-- How a kind of ledger reads its rows: the operation of a lease, the receipts a lease ends with,
and the receipt and status a remembered outcome stands for. `apart` tells whether waiting and
leasing are kept apart. -/
structure Rules (ι ψ δ ρ τ : Type*) where
  apart : Prop
  operation : ψ → ι
  leased : ρ → Prop
  recorded : ι → δ → ρ → τ → Prop

variable (rules : Rules ι ψ δ ρ τ)

/-- No lease holds the operation. -/
def Unleased (l : Ledger ι κ π ψ δ ρ τ ε) (op : ι) : Prop :=
  ∀ k lease, l.leases.get? k = some lease → rules.operation lease ≠ op

/-- One change of a ledger. -/
inductive Step (l : Ledger ι κ π ψ δ ρ τ ε) : Ledger ι κ π ψ δ ρ τ ε → Prop where
  | enter {op : ι} (p : π) (hstatus : l.statuses.get? op = none)
      (hfree : rules.apart → l.Unleased rules op) :
      Step l { l with waiting := l.waiting.set op p }
  | renew {op : ι} (p : π) (h : (l.waiting.get? op).isSome) :
      Step l { l with waiting := l.waiting.set op p }
  | lease {k : κ} {lease : ψ} (hstatus : l.statuses.get? (rules.operation lease) = none)
      (hfree : l.Unleased rules (rules.operation lease))
      (hidle : rules.apart → l.waiting.get? (rules.operation lease) = none) :
      Step l { l with leases := l.leases.set k lease }
  | annotate (k : κ) {f : ψ → ψ} (hf : ∀ lease, rules.operation (f lease) = rules.operation lease) :
      Step l { l with leases := l.leases.update k f }
  | release (p : κ → ψ → Bool) : Step l { l with leases := l.leases.erase p }
  /-- a request ends without an effect -/
  | finish {op : ι} (status : τ) (h : (l.waiting.get? op).isSome) : Step l { l with
      waiting := l.waiting.erase fun id _ => id = op
      statuses := l.statuses.set op status }
  /-- a lease ends without an effect -/
  | withdraw {k : κ} {lease : ψ} (status : τ) (h : l.leases.get? k = some lease)
      (hreceipt : ∀ r, l.receipts.get? (rules.operation lease) = some r → ¬rules.leased r) :
      Step l { l with
        leases := l.leases.erase fun id _ => id = k
        statuses := l.statuses.set (rules.operation lease) status }
  /-- a request is dropped and its status is not stored -/
  | lose (op : ι) : Step l { l with
      waiting := l.waiting.erase fun id _ => id = op
      degraded := true }
  /-- a request is dropped that has a receipt already -/
  | drop {op : ι} (h : (l.receipts.get? op).isSome) :
      Step l { l with waiting := l.waiting.erase fun id _ => id = op }
  | commit {op : ι} (receipt : ρ) (status : τ) (effects : ε) (h : (l.waiting.get? op).isSome)
      (hfresh : l.receipts.get? op = none) : Step l { l with
        waiting := l.waiting.erase fun id _ => id = op
        receipts := l.receipts.set op receipt
        statuses := l.statuses.set op status
        effects }
  | commitLease {k : κ} {lease : ψ} {receipt : ρ} (status : τ) (effects : ε)
      (h : l.leases.get? k = some lease) (hfresh : l.receipts.get? (rules.operation lease) = none)
      (hleased : rules.leased receipt) : Step l { l with
        receipts := l.receipts.set (rules.operation lease) receipt
        statuses := l.statuses.set (rules.operation lease) status
        effects }
  | remember {op : ι} {outcome : δ} {receipt : ρ} {status : τ}
      (hreceipt : l.receipts.get? op = some receipt) (hstatus : l.statuses.get? op = some status)
      (h : rules.recorded op outcome receipt status) (hidle : l.waiting.get? op = none) :
      Step l { l with remembered := l.remembered.set op outcome }
  | degrade : Step l { l with degraded := true }

/-- Waiting and leasing are apart, and every outcome is recorded once. -/
structure Sound (l : Ledger ι κ π ψ δ ρ τ ε) : Prop where
  waiting : ∀ op p, l.waiting.get? op = some p →
    l.statuses.get? op = none ∧ l.Unleased rules op
  alone : ∀ k k' lease lease', l.leases.get? k = some lease → l.leases.get? k' = some lease' →
    rules.operation lease = rules.operation lease' → k = k'
  leased : ∀ k lease, l.leases.get? k = some lease →
    l.statuses.get? (rules.operation lease) = none ∨
      ∃ r, l.receipts.get? (rules.operation lease) = some r ∧ rules.leased r
  receipts : ∀ op r, l.receipts.get? op = some r → ∃ status, l.statuses.get? op = some status
  remembered : ∀ op outcome, l.remembered.get? op = some outcome → ∃ receipt status,
    l.receipts.get? op = some receipt ∧ l.statuses.get? op = some status ∧
      rules.recorded op outcome receipt status

variable {rules} {l l' : Ledger ι κ π ψ δ ρ τ ε}

theorem Sound.receipt_none (h : Sound rules l) (hstatus : l.statuses.get? op = none) :
    l.receipts.get? op = none := by
  cases hr : l.receipts.get? op with
  | none => rfl
  | some r =>
    obtain ⟨status, hs⟩ := h.receipts op r hr
    rw [hstatus] at hs
    cases hs

/-- The operation of a lease that has not ended has no status. -/
theorem Sound.lease_open (h : Sound rules l) (hlease : l.leases.get? k = some lease)
    (hreceipt : ∀ r, l.receipts.get? (rules.operation lease) = some r → ¬rules.leased r) :
    l.statuses.get? (rules.operation lease) = none := by
  rcases h.leased k lease hlease with hstatus | ⟨r, hr, hleased⟩
  · exact hstatus
  · exact absurd hleased (hreceipt r hr)

/-! ## Outcomes are final -/

/-- Once an operation has a status, neither its status nor its receipt changes. -/
theorem Step.final (hstep : Step rules l l') (h : Sound rules l)
    (hstatus : l.statuses.get? op = some status) :
    l'.statuses.get? op = some status ∧ l'.receipts.get? op = l.receipts.get? op := by
  -- every write of a status is for an operation that has none
  have hother : ∀ {op' : ι}, l.statuses.get? op' = none → op ≠ op' := by
    rintro op' hnone rfl
    rw [hstatus] at hnone
    cases hnone
  cases hstep with
  | enter | renew | lease | annotate | release | drop | lose | remember | degrade =>
    exact ⟨hstatus, rfl⟩
  | finish status' hwait =>
    obtain ⟨p, hp⟩ := Option.isSome_iff_exists.mp hwait
    have hne := hother (h.waiting _ p hp).1
    exact ⟨by rw [Table.get?_set, if_neg hne]; exact hstatus, rfl⟩
  | withdraw status' hlease hreceipt =>
    have hne := hother (h.lease_open hlease hreceipt)
    exact ⟨by rw [Table.get?_set, if_neg hne]; exact hstatus, rfl⟩
  | commit receipt status' effects hwait hfresh =>
    obtain ⟨p, hp⟩ := Option.isSome_iff_exists.mp hwait
    have hne := hother (h.waiting _ p hp).1
    exact ⟨by rw [Table.get?_set, if_neg hne]; exact hstatus, by rw [Table.get?_set, if_neg hne]⟩
  | commitLease status' effects hlease hfresh hleased =>
    have hne := hother (h.lease_open hlease fun r hr => by rw [hfresh] at hr; cases hr)
    exact ⟨by rw [Table.get?_set, if_neg hne]; exact hstatus, by rw [Table.get?_set, if_neg hne]⟩

/-- A receipt stays as it was written. -/
theorem Step.receipt_kept (hstep : Step rules l l') (hreceipt : l.receipts.get? op = some receipt) :
    l'.receipts.get? op = some receipt := by
  -- a receipt is written for an operation that has none
  have hother : ∀ {op' : ι}, l.receipts.get? op' = none → op ≠ op' := by
    rintro op' hnone rfl
    rw [hreceipt] at hnone
    cases hnone
  cases hstep with
  | enter | renew | lease | annotate | release | finish | withdraw | drop | lose | remember
  | degrade => exact hreceipt
  | commit receipt' status effects hwait hfresh =>
    rw [Table.get?_set, if_neg (hother hfresh)]
    exact hreceipt
  | commitLease status effects hlease hfresh hleased =>
    rw [Table.get?_set, if_neg (hother hfresh)]
    exact hreceipt

/-! ## The invariant -/

omit [DecidableEq ι] in
theorem unleased_erase (h : l.Unleased rules op) (p : κ → ψ → Bool) :
    Unleased rules { l with leases := l.leases.erase p } op := by
  intro k lease hlease
  rw [Table.get?_erase, Option.filter_eq_some_iff] at hlease
  exact h k lease hlease.1

omit [DecidableEq ι] in
/-- An annotation keeps every lease with its operation. -/
theorem get?_annotate {f : ψ → ψ} (hf : ∀ lease, rules.operation (f lease) = rules.operation lease)
    (hlease : (l.leases.update j f).get? k = some lease) :
    ∃ lease', l.leases.get? k = some lease' ∧ rules.operation lease = rules.operation lease' := by
  rw [Table.get?_update] at hlease
  split at hlease
  · obtain ⟨lease', hlease', rfl⟩ := Option.map_eq_some_iff.mp hlease
    exact ⟨lease', hlease', hf lease'⟩
  · exact ⟨lease, hlease, rfl⟩

theorem Sound.remembered_kept (h : Sound rules l) (hstep : Step rules l l')
    (hsame : l'.remembered = l.remembered) (hout : l'.remembered.get? op = some outcome) :
    ∃ receipt status, l'.receipts.get? op = some receipt ∧ l'.statuses.get? op = some status ∧
      rules.recorded op outcome receipt status := by
  rw [hsame] at hout
  obtain ⟨receipt, status, hreceipt, hstatus, hrecorded⟩ := h.remembered op outcome hout
  exact ⟨receipt, status, hstep.receipt_kept hreceipt, (hstep.final h hstatus).1, hrecorded⟩

theorem Step.sound (hstep : Step rules l l') (hapart : rules.apart) (h : Sound rules l) :
    Sound rules l' := by
  have hremembered := fun op outcome hsame =>
    @Sound.remembered_kept _ _ _ _ _ _ _ _ _ _ _ _ _ op outcome h hstep hsame
  cases hstep with
  | @enter op p hstatus hfree =>
    refine ⟨fun op' p' hp => ?_, h.alone, h.leased, h.receipts, h.remembered⟩
    dsimp only at hp
    rw [Table.get?_set] at hp
    split at hp
    · next heq => subst heq; exact ⟨hstatus, hfree hapart⟩
    · exact h.waiting op' p' hp
  | @renew op p hwait =>
    refine ⟨fun op' p' hp => ?_, h.alone, h.leased, h.receipts, h.remembered⟩
    dsimp only at hp
    rw [Table.get?_set] at hp
    split at hp
    · next heq =>
      obtain ⟨q, hq⟩ := Option.isSome_iff_exists.mp hwait
      subst heq
      exact h.waiting _ q hq
    · exact h.waiting op' p' hp
  | @lease k lease hstatus hfree hidle =>
    refine ⟨fun op p hp => ⟨(h.waiting op p hp).1, fun j other hother heq => ?_⟩,
      fun j j' other other' hother hother' heq => ?_, fun j other hother => ?_, h.receipts,
      h.remembered⟩
    · dsimp only at hother
      rw [Table.get?_set] at hother
      split at hother
      · cases hother; subst heq; rw [hidle hapart] at hp; cases hp
      · exact (h.waiting op p hp).2 j other hother heq
    · dsimp only at hother hother'
      rw [Table.get?_set] at hother hother'
      split at hother <;> split at hother'
      · next hj hj' => exact hj.trans hj'.symm
      · cases hother; exact absurd heq.symm (hfree j' other' hother')
      · cases hother'; exact absurd heq (hfree j other hother)
      · exact h.alone j j' other other' hother hother' heq
    · dsimp only at hother
      rw [Table.get?_set] at hother
      split at hother
      · cases hother; exact .inl hstatus
      · exact h.leased j other hother
  | annotate k hf =>
    refine ⟨fun op p hp => ⟨(h.waiting op p hp).1, fun j other hother heq => ?_⟩,
      fun j j' other other' hother hother' heq => ?_, fun j other hother => ?_, h.receipts,
      h.remembered⟩
    · obtain ⟨lease, hlease, hop⟩ := get?_annotate hf hother
      exact (h.waiting op p hp).2 j lease hlease (hop ▸ heq)
    · obtain ⟨lease, hlease, hop⟩ := get?_annotate hf hother
      obtain ⟨lease', hlease', hop'⟩ := get?_annotate hf hother'
      exact h.alone j j' lease lease' hlease hlease' (by rw [← hop, ← hop', heq])
    · obtain ⟨lease, hlease, hop⟩ := get?_annotate hf hother
      rw [hop]
      exact h.leased j lease hlease
  | release p =>
    have hkept : ∀ {k lease}, (l.leases.erase p).get? k = some lease →
        l.leases.get? k = some lease := fun hlease => by
      rw [Table.get?_erase, Option.filter_eq_some_iff] at hlease
      exact hlease.1
    exact ⟨fun op q hq => ⟨(h.waiting op q hq).1, unleased_erase (h.waiting op q hq).2 p⟩,
      fun j j' other other' hother hother' => h.alone j j' other other' (hkept hother)
        (hkept hother'), fun j other hother => h.leased j other (hkept hother), h.receipts,
      h.remembered⟩
  | @finish op status hwait =>
    obtain ⟨p, hp⟩ := Option.isSome_iff_exists.mp hwait
    obtain ⟨-, hunleased⟩ := h.waiting op p hp
    refine ⟨fun op' q hq => ?_, h.alone, fun k lease hlease => ?_, fun op' r hr => ?_,
      fun op' outcome hout => hremembered op' outcome rfl hout⟩
    · dsimp only at hq
      rw [Table.get?_erase, Option.filter_eq_some_iff] at hq
      have hne : op' ≠ op := by simpa using hq.2
      refine ⟨?_, (h.waiting op' q hq.1).2⟩
      rw [Table.get?_set, if_neg hne]
      exact (h.waiting op' q hq.1).1
    · rw [Table.get?_set, if_neg (hunleased k lease hlease)]
      exact h.leased k lease hlease
    · rw [Table.get?_set]
      split
      · exact ⟨_, rfl⟩
      · exact h.receipts op' r hr
  | @withdraw k lease status hlease hreceipt =>
    have hopen := h.lease_open hlease hreceipt
    refine ⟨fun op q hq => ?_, fun j j' other other' hother hother' heq => ?_,
      fun j other hother => ?_, fun op r hr => ?_,
      fun op outcome hout => hremembered op outcome rfl hout⟩
    · obtain ⟨hnone, hunleased⟩ := h.waiting op q hq
      refine ⟨?_, unleased_erase hunleased _⟩
      rw [Table.get?_set, if_neg fun heq => hunleased k lease hlease heq.symm]
      exact hnone
    · rw [Table.get?_erase, Option.filter_eq_some_iff] at hother hother'
      exact h.alone j j' other other' hother.1 hother'.1 heq
    · dsimp only at hother
      rw [Table.get?_erase, Option.filter_eq_some_iff] at hother
      have hne : j ≠ k := by simpa using hother.2
      rw [Table.get?_set,
        if_neg fun heq => hne (h.alone j k other lease hother.1 hlease heq)]
      exact h.leased j other hother.1
    · rw [Table.get?_set]
      split
      · exact ⟨_, rfl⟩
      · exact h.receipts op r hr
  | lose | drop =>
    refine ⟨fun op' q hq => ?_, h.alone, h.leased, h.receipts, h.remembered⟩
    dsimp only at hq
    rw [Table.get?_erase, Option.filter_eq_some_iff] at hq
    exact h.waiting op' q hq.1
  | @commit op receipt status effects hwait hfresh =>
    obtain ⟨p, hp⟩ := Option.isSome_iff_exists.mp hwait
    obtain ⟨-, hunleased⟩ := h.waiting op p hp
    refine ⟨fun op' q hq => ?_, h.alone, fun k lease hlease => ?_, fun op' r hr => ?_,
      fun op' outcome hout => hremembered op' outcome rfl hout⟩
    · dsimp only at hq
      rw [Table.get?_erase, Option.filter_eq_some_iff] at hq
      have hne : op' ≠ op := by simpa using hq.2
      refine ⟨?_, (h.waiting op' q hq.1).2⟩
      rw [Table.get?_set, if_neg hne]
      exact (h.waiting op' q hq.1).1
    · rw [Table.get?_set, Table.get?_set, if_neg (hunleased k lease hlease),
        if_neg (hunleased k lease hlease)]
      exact h.leased k lease hlease
    · dsimp only at hr ⊢
      rw [Table.get?_set] at hr ⊢
      split at hr
      · next heq => exact ⟨status, if_pos heq⟩
      · next hne => rw [if_neg hne]; exact h.receipts op' r hr
  | @commitLease k lease receipt status effects hlease hfresh hleased =>
    have hopen := h.lease_open hlease fun r hr => by rw [hfresh] at hr; cases hr
    refine ⟨fun op q hq => ?_, h.alone, fun j other hother => ?_, fun op r hr => ?_,
      fun op outcome hout => hremembered op outcome rfl hout⟩
    · obtain ⟨hnone, hunleased⟩ := h.waiting op q hq
      refine ⟨?_, hunleased⟩
      rw [Table.get?_set, if_neg fun heq => hunleased k lease hlease heq.symm]
      exact hnone
    · by_cases heq : rules.operation other = rules.operation lease
      · exact .inr ⟨receipt, by rw [Table.get?_set, if_pos heq], hleased⟩
      · rw [Table.get?_set, Table.get?_set, if_neg heq, if_neg heq]
        exact h.leased j other hother
    · dsimp only at hr ⊢
      rw [Table.get?_set] at hr ⊢
      split at hr
      · next heq => exact ⟨status, if_pos heq⟩
      · next hne => rw [if_neg hne]; exact h.receipts op r hr
  | @remember op outcome receipt status hreceipt hstatus hrecorded hidle =>
    refine ⟨h.waiting, h.alone, h.leased, h.receipts, fun op' out hout => ?_⟩
    dsimp only at hout
    rw [Table.get?_set] at hout
    split at hout
    · next heq => cases hout; subst heq; exact ⟨receipt, status, hreceipt, hstatus, hrecorded⟩
    · exact h.remembered op' out hout
  | degrade => exact ⟨h.waiting, h.alone, h.leased, h.receipts, h.remembered⟩

/-! ## What holds without keeping apart -/

/-- Something waits under the operation, or it ended. -/
def Known (l : Ledger ι κ π ψ δ ρ τ ε) (op : ι) : Prop :=
  (l.waiting.get? op).isSome ∨ (l.statuses.get? op).isSome

theorem Step.degraded (hstep : Step rules l l') (h : l.degraded = true) : l'.degraded = true := by
  cases hstep with
  | lose | degrade => rfl
  | enter | renew | lease | annotate | release | finish | withdraw | drop | commit | commitLease
  | remember => exact h

/-- An operation is forgotten only by a ledger that lost a write. -/
theorem Step.known (hstep : Step rules l l') (h : Sound rules l) (hknown : l.Known op) :
    l'.degraded = true ∨ l'.Known op := by
  rcases hknown with hwait | hstatus
  · have herased : ∀ op' : ι, ((l.waiting.erase fun id _ => id = op').get? op).isSome ∨
        op = op' := by
      intro op'
      by_cases heq : op = op'
      · exact .inr heq
      · obtain ⟨p, hp⟩ := Option.isSome_iff_exists.mp hwait
        exact .inl (by rw [Table.get?_erase, hp]; simp [heq])
    have hset : ∀ {op' : ι} {p : π}, ((l.waiting.set op' p).get? op).isSome := by
      intro op' p
      rw [Table.get?_set]
      split
      · rfl
      · exact hwait
    cases hstep with
    | enter | renew => exact .inr (.inl hset)
    | lease | annotate | release | withdraw | commitLease | remember | degrade =>
      exact .inr (.inl hwait)
    | lose => exact .inl rfl
    | @finish op' status hwait' =>
      rcases herased op' with hstill | rfl
      · exact .inr (.inl hstill)
      · exact .inr (.inr (by rw [Table.get?_set, if_pos rfl]; rfl))
    | @commit op' receipt status effects hwait' hfresh =>
      rcases herased op' with hstill | rfl
      · exact .inr (.inl hstill)
      · exact .inr (.inr (by rw [Table.get?_set, if_pos rfl]; rfl))
    | @drop op' hreceipt =>
      rcases herased op' with hstill | rfl
      · exact .inr (.inl hstill)
      · obtain ⟨receipt, hreceipt⟩ := Option.isSome_iff_exists.mp hreceipt
        obtain ⟨status, hstatus⟩ := h.receipts op receipt hreceipt
        exact .inr (.inr (by rw [hstatus]; rfl))
  · obtain ⟨status, hstatus⟩ := Option.isSome_iff_exists.mp hstatus
    exact .inr (.inr (by rw [(hstep.final h hstatus).1]; rfl))

/-- The effect tables change together with a receipt that was not there. -/
theorem Step.effects (hstep : Step rules l l') (hne : l'.effects ≠ l.effects) :
    ∃ op receipt, l.receipts.get? op = none ∧ l'.receipts.get? op = some receipt := by
  cases hstep with
  | enter | renew | lease | annotate | release | finish | withdraw | drop | lose | remember
  | degrade => exact absurd rfl hne
  | @commit op receipt status effects hwait hfresh =>
    exact ⟨op, receipt, hfresh, by rw [Table.get?_set, if_pos rfl]⟩
  | @commitLease k lease receipt status effects hlease hfresh hleased =>
    exact ⟨rules.operation lease, receipt, hfresh, by rw [Table.get?_set, if_pos rfl]⟩

/-- The changes one call makes. -/
abbrev Steps (rules : Rules ι ψ δ ρ τ) :
    Ledger ι κ π ψ δ ρ τ ε → Ledger ι κ π ψ δ ρ τ ε → Prop :=
  Relation.ReflTransGen (Step rules)

theorem steps_degraded {b : Bool} (h : l.degraded = true → b = true) :
    Steps rules l { l with degraded := b } := by
  cases b with
  | true => exact .single .degrade
  | false =>
    have hl : l.degraded = false := by
      cases hd : l.degraded with
      | false => rfl
      | true => cases h hd
    rw [← hl]

theorem Steps.receipt_kept (hsteps : Steps rules l l')
    (hreceipt : l.receipts.get? op = some receipt) : l'.receipts.get? op = some receipt := by
  induction hsteps with
  | refl => exact hreceipt
  | tail _ hstep ih => exact hstep.receipt_kept ih

theorem Steps.degraded (hsteps : Steps rules l l') (h : l.degraded = true) :
    l'.degraded = true := by
  induction hsteps with
  | refl => exact h
  | tail _ hstep ih => exact hstep.degraded ih

theorem Steps.effects (hsteps : Steps rules l l') (hne : l'.effects ≠ l.effects) :
    ∃ op receipt, l.receipts.get? op = none ∧ l'.receipts.get? op = some receipt := by
  classical
  induction hsteps with
  | refl => exact absurd rfl hne
  | @tail mid last hsteps hstep ih =>
    by_cases hmid : mid.effects = l.effects
    · obtain ⟨op, receipt, hnone, hsome⟩ := hstep.effects (hmid ▸ hne)
      refine ⟨op, receipt, ?_, hsome⟩
      cases hr : l.receipts.get? op with
      | none => rfl
      | some r => rw [Steps.receipt_kept hsteps hr] at hnone; cases hnone
    · obtain ⟨op, receipt, hnone, hsome⟩ := ih hmid
      exact ⟨op, receipt, hnone, hstep.receipt_kept hsome⟩

section
variable (hapart : rules.apart)

include hapart

theorem Steps.sound (hsteps : Steps rules l l') (h : Sound rules l) : Sound rules l' := by
  induction hsteps with
  | refl => exact h
  | tail _ hstep ih => exact hstep.sound hapart ih

theorem Steps.final (hsteps : Steps rules l l') (h : Sound rules l)
    (hstatus : l.statuses.get? op = some status) :
    l'.statuses.get? op = some status ∧ l'.receipts.get? op = l.receipts.get? op := by
  induction hsteps with
  | refl => exact ⟨hstatus, rfl⟩
  | tail hsteps hstep ih =>
    obtain ⟨hs, hr⟩ := hstep.final (Steps.sound hapart hsteps h) ih.1
    exact ⟨hs, hr.trans ih.2⟩

theorem Steps.known (hsteps : Steps rules l l') (h : Sound rules l) (hknown : l.Known op)
    (hdeg : l'.degraded = false) : l'.Known op := by
  induction hsteps with
  | refl => exact hknown
  | @tail mid last hsteps hstep ih =>
    have hmid : mid.degraded = false := by
      cases hm : mid.degraded with
      | false => rfl
      | true => rw [hstep.degraded hm] at hdeg; cases hdeg
    rcases hstep.known (Steps.sound hapart hsteps h) (ih hmid) with hlost | hknown
    · rw [hlost] at hdeg; cases hdeg
    · exact hknown

end

end Ledger

end Lib
