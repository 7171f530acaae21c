import BloomSigner.Engine.Lifecycle

/-! # The sliding-window backstop

An acceptance is checked only against the windows that end at its own effective time. As long as
these times do not go back, that bounds every window: the last acceptance inside a window has seen
all the others. -/

namespace BloomSigner

open Lib

/-- An unreleased operation of an approval accepted in `(t - D, t]`. -/
def OperationRow.inWindow (row : OperationRow) (a : Digest32) (D : Nat) (t : Int) : Bool :=
  row.approvalId = a ∧ row.state ≠ .released ∧ t - D < row.acceptedAtMs ∧ row.acceptedAtMs ≤ t

/-- A total over the operations of an approval in a window. -/
def windowTotal (db : Db) (g : OperationRow → Nat) (a : Digest32) (D : Nat) (t : Int) : Nat :=
  db.operations.total fun _ row => if row.inWindow a D t then g row else 0

/-- The number of operations in a window. -/
def windowOperations (db : Db) (a : Digest32) (D : Nat) (t : Int) : Nat :=
  db.operations.count fun _ row => row.inWindow a D t

/-- The signatures of the operations in a window. -/
def windowSignatures (db : Db) (a : Digest32) (D : Nat) (t : Int) : Nat :=
  db.operations.total fun _ row => if row.inWindow a D t then row.signatureCount else 0

/-- Every window of every approval is within its maximum, and nothing was accepted after `now`. -/
structure WindowInv (db : Db) (now : Nat) : Prop where
  accepted : db.operations.get? oid = some op →
    0 < op.acceptedAtMs ∧ op.acceptedAtMs ≤ now ∧ op.acceptedAtMs < 2 ^ 63
  owned : db.operations.get? oid = some op → ∃ row, db.approvals.get? op.approvalId = some row
  operations : db.approvals.get? a = some row → ∀ window ∈ row.terms.limits.operationRateLimits,
    ∀ t, windowTotal db (fun _ => 1) a window.durationMs t ≤ window.maximum
  signatures : db.approvals.get? a = some row → ∀ window ∈ row.terms.limits.signatureRateLimits,
    ∀ t, windowTotal db OperationRow.signatureCount a window.durationMs t ≤ window.maximum

section
variable {db db' : Db} {row row' op : OperationRow} {g : OperationRow → Nat}

/-! ## Totals -/

theorem windowTotal_insert (h : db.operations.insert? oid row = some db'.operations)
    (g : OperationRow → Nat) (a : Digest32) (D : Nat) (t : Int) :
    windowTotal db' g a D t =
      windowTotal db g a D t + if row.inWindow a D t then g row else 0 :=
  Table.total_insert? h _

/-- A move leaves the row in its windows or takes it out. -/
theorem OperationRow.Moves.inWindow (h : row.Moves row') (hw : row'.inWindow a D t = true) :
    row.inWindow a D t = true := by
  have hopen : row.state ≠ .released := by
    intro hrel
    cases h with
    | dispatched h => rw [hrel] at h; cases h
    | committed h => rcases h with h | h <;> rw [hrel] at h <;> cases h
    | ended h => rcases h with h | h <;> rw [hrel] at h <;> cases h
  cases h <;> simp_all [OperationRow.inWindow]

theorem OperationRow.Moves.signatureCount (h : row.Moves row') :
    row'.signatureCount = row.signatureCount := by
  cases h <;> rfl

theorem OperationRow.Moves.acceptedAtMs (h : row.Moves row') :
    row'.acceptedAtMs = row.acceptedAtMs := by
  cases h <;> rfl

theorem OperationRow.Moves.approvalId (h : row.Moves row') :
    row'.approvalId = row.approvalId := by
  cases h <;> rfl

theorem windowTotal_move (hget : db.operations.get? oid = some row) (hmoves : row.Moves row')
    (h : db'.operations = db.operations.update oid fun _ => row') (hg : g row' = g row)
    (a : Digest32) (D : Nat) (t : Int) : windowTotal db' g a D t ≤ windowTotal db g a D t := by
  have htotal := Table.total_update hget (fun _ => row')
    fun _ row => if row.inWindow a D t then g row else 0
  rw [← h] at htotal
  change windowTotal db' g a D t + _ = windowTotal db g a D t + _ at htotal
  by_cases hw : row'.inWindow a D t = true
  · rw [hw, hmoves.inWindow hw, hg] at htotal
    omega
  · simp only [hw, Bool.false_eq_true, if_false, Nat.add_zero] at htotal
    omega

theorem windowTotal_eq_zero
    (h : ∀ oid op, db.operations.get? oid = some op → op.approvalId ≠ a) :
    windowTotal db g a D t = 0 := by
  refine List.sum_eq_zero fun n hn => ?_
  obtain ⟨⟨oid, op⟩, hmem, rfl⟩ := List.mem_map.mp hn
  simp [OperationRow.inWindow, h oid op (Table.get?_eq_some.mpr hmem)]

/-- The last acceptance in a window has seen every other one: what an earlier window holds at an
instant after `row` was accepted, the query at the acceptance of `row` returned. -/
theorem windowTotal_le_prior (hacc : ∀ oid op, db.operations.get? oid = some op →
      0 < op.acceptedAtMs ∧ op.acceptedAtMs ≤ row.acceptedAtMs ∧ op.acceptedAtMs < 2 ^ 63)
    (hrow : row.inWindow row.approvalId window.durationMs t = true) :
    windowTotal db g row.approvalId window.durationMs t ≤
      ((row.priorInWindow db window).map fun r => g r.2).sum := by
  have hsum : ((row.priorInWindow db window).map fun r => g r.2).sum =
      (db.operations.rows.map fun r =>
        if r.2.approvalId = row.approvalId ∧ r.2.state ≠ .released ∧
          row.acceptedAtMs - window.durationMs < castInteger r.2.acceptedAtMs ∧
          castInteger r.2.acceptedAtMs ≤ row.acceptedAtMs then g r.2 else 0).sum := by
    rw [OperationRow.priorInWindow, operationsInWindow, Table.select]
    generalize db.operations.rows = rows
    induction rows with
    | nil => rfl
    | cons r rows ih => rw [List.filter_cons]; split <;> simp_all
  rw [hsum]
  refine List.sum_le_sum fun r hr => ?_
  obtain ⟨hpos, hle, hlt⟩ := hacc r.1 r.2 (Table.get?_eq_some.mpr hr)
  simp only [OperationRow.inWindow, ne_eq, decide_eq_true_eq, true_and] at hrow ⊢
  split
  · next hin =>
    have hcast : castInteger r.2.acceptedAtMs = r.2.acceptedAtMs := by
      unfold castInteger; omega
    rw [hcast, if_pos ⟨hin.1, hin.2.1, by omega, hle⟩]
  · exact Nat.zero_le _

/-! ## One step -/

theorem LedgerStep.approval_of (h : LedgerStep db db')
    (hrow : db'.approvals.get? a = some approval) :
    (∃ old, db.approvals.get? a = some old ∧ old.terms = approval.terms) ∨
      db.approvals.get? a = none ∧ db'.operations = db.operations := by
  cases h with
  | same approvals => exact .inl ⟨approval, approvals ▸ hrow, rfl⟩
  | installed fresh operations =>
    rw [Table.get?_insert? fresh] at hrow
    split at hrow
    · next ha => exact .inr ⟨ha ▸ (Table.insert?_eq_some fresh).1, operations⟩
    · exact .inl ⟨approval, hrow, rfl⟩
  | moved _ _ _ _ _ _ approvals => exact .inl ⟨approval, approvals ▸ hrow, rfl⟩
  | reserved _ _ _ approvals =>
    rw [approvals, Table.get?_update] at hrow
    split at hrow
    · obtain ⟨old, hold, rfl⟩ := Option.map_eq_some_iff.mp hrow
      exact .inl ⟨old, hold, rfl⟩
    · exact .inl ⟨approval, hrow, rfl⟩
  | released _ _ _ _ _ _ approvals =>
    rw [approvals, Table.get?_update] at hrow
    split at hrow
    · obtain ⟨old, hold, rfl⟩ := Option.map_eq_some_iff.mp hrow
      exact .inl ⟨old, hold, rfl⟩
    · exact .inl ⟨approval, hrow, rfl⟩

theorem LedgerStep.keeps_approval (h : LedgerStep db db')
    (hrow : db.approvals.get? a = some approval) :
    ∃ row, db'.approvals.get? a = some row := by
  cases h with
  | same approvals => exact ⟨approval, approvals ▸ hrow⟩
  | installed fresh =>
    rw [Table.get?_insert? fresh]
    split
    · exact ⟨_, rfl⟩
    · exact ⟨approval, hrow⟩
  | moved _ _ _ _ _ _ approvals => exact ⟨approval, approvals ▸ hrow⟩
  | reserved _ _ _ approvals =>
    rw [approvals, Table.get?_update, hrow]
    split <;> exact ⟨_, rfl⟩
  | released _ _ _ _ _ _ approvals =>
    rw [approvals, Table.get?_update, hrow]
    split <;> exact ⟨_, rfl⟩

/-- The bound of one window survives a step. `g` is what the window counts, and `fits` the check the
step made if it accepted an operation of the approval. -/
theorem WindowInv.window_step (inv : WindowInv db now) (h : OperationStep time db db')
    (hnow : ∀ n ∈ time, now ≤ n)
    (hg : ∀ {row row' : OperationRow}, row.Moves row' → g row' = g row)
    (fits : ∀ row : OperationRow, row.approvalId = a → (∀ approval,
      db.approvals.get? a = some approval → row.FitsWindows db approval.terms.limits →
      ((row.priorInWindow db window).map fun r => g r.2).sum + g row ≤ window.maximum))
    (hold : windowTotal db g a window.durationMs t ≤ window.maximum) :
    windowTotal db' g a window.durationMs t ≤ window.maximum := by
  cases h with
  | same operations => rw [windowTotal, operations]; exact hold
  | moved oid row row' present moves operations =>
    exact Nat.le_trans (windowTotal_move present moves operations (hg moves) _ _ _) hold
  | reserved oid row approval owner fresh state result accepted hfits =>
    rw [windowTotal_insert fresh]
    split
    · next hin =>
      have ha : row.approvalId = a := by
        simp only [OperationRow.inWindow, decide_eq_true_eq] at hin
        exact hin.1
      subst ha
      have hlast : ∀ oid op, db.operations.get? oid = some op →
          0 < op.acceptedAtMs ∧ op.acceptedAtMs ≤ row.acceptedAtMs ∧ op.acceptedAtMs < 2 ^ 63 := by
        intro oid op hop
        obtain ⟨hpos, hle, hlt⟩ := inv.accepted hop
        exact ⟨hpos, Nat.le_trans hle (hnow _ accepted), hlt⟩
      exact Nat.le_trans (Nat.add_le_add_right (windowTotal_le_prior hlast hin) _)
        (fits row rfl approval owner hfits)
    · exact hold

theorem WindowInv.step (inv : WindowInv db now) (hops : OperationStep time db db')
    (hledger : LedgerStep db db')
    (htime : ∀ n ∈ time, now ≤ n ∧ 0 < n ∧ n < 2 ^ 63) :
    WindowInv db' (time.getD now) := by
  have hnow : ∀ n ∈ time, now ≤ n := fun n hn => (htime n hn).1
  have hle : now ≤ time.getD now := by
    cases time with
    | none => exact Nat.le_refl _
    | some n => exact hnow n rfl
  -- an approval that was not there before owns no operation
  have hzero : ∀ {a g D t}, db.approvals.get? a = none → windowTotal db g a D t = 0 := by
    intro a g D t ha
    refine windowTotal_eq_zero fun oid op hop heq => ?_
    obtain ⟨row, hrow⟩ := inv.owned hop
    rw [heq, ha] at hrow
    cases hrow
  have hsame : ∀ {g a D t}, db'.operations = db.operations →
      windowTotal db' g a D t = windowTotal db g a D t := by
    intro g a D t ho; rw [windowTotal, ho]; rfl
  refine ⟨?_, ?_, ?_, ?_⟩
  · intro oid op hop
    cases hops with
    | same operations =>
      obtain ⟨hpos, hop', hlt⟩ := inv.accepted (operations ▸ hop)
      exact ⟨hpos, Nat.le_trans hop' hle, hlt⟩
    | reserved oid' row approval owner fresh state result accepted =>
      rw [Table.get?_insert? fresh] at hop
      split at hop
      · cases hop
        obtain ⟨-, hpos, hlt⟩ := htime _ accepted
        refine ⟨hpos, ?_, hlt⟩
        rw [accepted]
        exact Nat.le_refl _
      · obtain ⟨hpos, hop', hlt⟩ := inv.accepted hop
        exact ⟨hpos, Nat.le_trans hop' hle, hlt⟩
    | moved oid' row row' present moves operations =>
      rw [operations, Table.get?_update] at hop
      split at hop
      · next heq =>
        rw [heq, present] at hop
        cases hop
        obtain ⟨hpos, hop', hlt⟩ := inv.accepted present
        rw [moves.acceptedAtMs]
        exact ⟨hpos, Nat.le_trans hop' hle, hlt⟩
      · obtain ⟨hpos, hop', hlt⟩ := inv.accepted hop
        exact ⟨hpos, Nat.le_trans hop' hle, hlt⟩
  · intro oid op hop
    have hold : ∃ row, db.approvals.get? op.approvalId = some row := by
      cases hops with
      | same operations => exact inv.owned (operations ▸ hop)
      | reserved oid' row approval owner fresh =>
        rw [Table.get?_insert? fresh] at hop
        split at hop
        · cases hop; exact ⟨approval, owner⟩
        · exact inv.owned hop
      | moved oid' row row' present moves operations =>
        rw [operations, Table.get?_update] at hop
        split at hop
        · next heq =>
          rw [heq, present] at hop
          cases hop
          rw [moves.approvalId]
          exact inv.owned present
        · exact inv.owned hop
    obtain ⟨row, hrow⟩ := hold
    exact hledger.keeps_approval hrow
  · intro a approval hrow window hwindow t
    rcases hledger.approval_of hrow with ⟨old, hold, hterms⟩ | ⟨hnone, ho⟩
    · rw [← hterms] at hwindow
      refine inv.window_step hops hnow (fun _ => rfl) ?_ (inv.operations hold window hwindow t)
      rintro row rfl approval' happroval' hfits
      rw [hold] at happroval'
      cases happroval'
      simpa using hfits.operations window hwindow
    · rw [hsame ho, hzero hnone]; exact Nat.zero_le _
  · intro a approval hrow window hwindow t
    rcases hledger.approval_of hrow with ⟨old, hold, hterms⟩ | ⟨hnone, ho⟩
    · rw [← hterms] at hwindow
      refine inv.window_step hops hnow (fun h => h.signatureCount) ?_
        (inv.signatures hold window hwindow t)
      rintro row rfl approval' happroval' hfits
      rw [hold] at happroval'
      cases happroval'
      exact hfits.signatures window hwindow
    · rw [hsame ho, hzero hnone]; exact Nat.zero_le _

end

/-! ## Runs -/

section
variable (crypto : Crypto) (config : Config)

/-- The effective times of the authorizations among the calls. -/
def effectiveTimes (calls : List SignCall) : List Nat := calls.filterMap SignCall.time?

theorem run_windowInv {e : Engine} (inv : WindowInv e.db now) (calls : List SignCall)
    (hbounds : ∀ n ∈ effectiveTimes calls, now ≤ n ∧ 0 < n ∧ n < 2 ^ 63)
    (hsorted : (effectiveTimes calls).Pairwise (· ≤ ·)) :
    ∃ now', WindowInv (run (signStep crypto config) e calls).db now' := by
  induction calls generalizing e now with
  | nil => exact ⟨now, inv⟩
  | cons call calls ih =>
    have hstep := inv.step (signStep_operations crypto config e call) (signStep_ledger e call)
    cases htime : call.time? with
    | none =>
      rw [effectiveTimes, List.filterMap_cons_none htime] at hbounds hsorted
      rw [htime] at hstep
      exact ih (hstep fun n hn => by cases hn) hbounds hsorted
    | some n =>
      rw [effectiveTimes, List.filterMap_cons_some htime] at hbounds hsorted
      rw [htime] at hstep
      rw [List.pairwise_cons] at hsorted
      refine ih (hstep fun m hm => ?_) (fun m hm => ?_) hsorted.2
      · cases hm; exact hbounds n List.mem_cons_self
      · exact ⟨hsorted.1 m hm, (hbounds m (List.mem_cons_of_mem n hm)).2⟩

/-- From an engine without operations, as long as the effective times of the authorizations are
positive `i64` values and never decrease, no window of any approval ever holds more operations or
signatures than its maximum, at whatever instant it ends. -/
theorem run_windows_bounded (e₀ : Engine) (calls : List SignCall)
    (hbounds : ∀ n ∈ effectiveTimes calls, 0 < n ∧ n < 2 ^ 63)
    (hsorted : (effectiveTimes calls).Pairwise (· ≤ ·)) :
    let e := run (signStep crypto config) e₀.withoutOperations calls
    ∀ a approval, e.db.approvals.get? a = some approval → ∀ t : Int,
      (∀ window ∈ approval.terms.limits.operationRateLimits,
        windowOperations e.db a window.durationMs t ≤ window.maximum) ∧
      ∀ window ∈ approval.terms.limits.signatureRateLimits,
        windowSignatures e.db a window.durationMs t ≤ window.maximum := by
  have hempty : WindowInv e₀.withoutOperations.db 0 := {
    accepted := by intro _ _ h; cases h
    owned := by intro _ _ h; cases h
    operations := fun _ _ _ _ => Nat.zero_le _
    signatures := fun _ _ _ _ => Nat.zero_le _ }
  obtain ⟨now, inv⟩ := run_windowInv crypto config hempty calls
    (fun n hn => ⟨Nat.zero_le n, hbounds n hn⟩) hsorted
  intro e a approval hrow t
  exact ⟨fun window hwindow => inv.operations hrow window hwindow t,
    fun window hwindow => inv.signatures hrow window hwindow t⟩

end

/-- Two authorizations a second apart. -/
theorem run_windows_bounded_two :
    let answers : BackendAnswers := ⟨fun _ => .ok true, fun _ => .ok true⟩
    let calls : List SignCall := [.authorizeSign answers (.sample .zero) ⟨1000, none, 0, ⟨"boot-1"⟩⟩,
      .authorizeSign answers (.sample .zero) ⟨2000, none, 0, ⟨"boot-1"⟩⟩]
    effectiveTimes calls = [1000, 2000] ∧
    ∀ (config : Config) (e₀ : Engine),
      let e := run (signStep .standIn config) e₀.withoutOperations calls
      ∀ a approval, e.db.approvals.get? a = some approval →
        ∀ window ∈ approval.terms.limits.operationRateLimits,
          windowOperations e.db a window.durationMs 2000 ≤ window.maximum := by
  refine ⟨rfl, fun config e₀ a approval hrow window hwindow => ?_⟩
  refine (run_windows_bounded .standIn config e₀ _ ?_ ?_ a approval hrow 2000).1 window hwindow
  · show ∀ n ∈ [1000, 2000], 0 < n ∧ n < 2 ^ 63
    decide
  · show [1000, 2000].Pairwise (· ≤ ·)
    decide

end BloomSigner
