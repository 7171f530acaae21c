import BloomSigner.Registry.Paths

/-! # Rows, events and audit entries agree

A registry transaction keeps three records of a lifecycle transition: the state column of the
allocation row, the local event chain, and the entry its recorder writes. Every committed call
either adds one event and one entry for the transition its row made, or leaves all three alone. -/

namespace BloomSigner.Registry

open Lib

variable {σ α : Type} {sha256 : List UInt8 → Digest32} {audit : AuditRecorder σ}
variable {db : RegistryDb} {req : PrepareRequest}

/-! ## The event chain -/

section
variable (sha256 : List UInt8 → Digest32)

/-- One row of the loop of `verify_event_chain`: the digest the next row has to name. -/
def verifyEvent (expectedPrevious : String) (event : EventRow) : Except Failure String := do
  reject (event.previousHash ≠ expectedPrevious)
    (invalid "derivation event chain has a broken link")
  let computed := sha256 (eventPreimage event.walletId event.operationId event.fromState
    event.toState event.previousHash)
  reject (computed.asStr ≠ event.entryHash) (invalid "derivation event entry hash mismatch")
  return event.entryHash

/-- Verify the digest chain end to end. -/
def verifyEventChain (db : RegistryDb) : Except Failure Unit := do
  let _ ← foldE (verifyEvent sha256) Digest32.zero.asStr db.events

/-- The digest the next event will name as its predecessor. -/
def eventHead (events : List EventRow) : String :=
  (events.getLast?.map EventRow.entryHash).getD Digest32.zero.asStr

/-- The row `append_event` inserts after `events`. -/
def nextEvent (events : List EventRow) (w : Token) (op : String) (a : Option AllocationState)
    (b : AllocationState) (t : Nat) : EventRow where
  walletId := w
  operationId := op
  fromState := a
  toState := b
  previousHash := eventHead events
  entryHash := (sha256 (eventPreimage w op a b (eventHead events))).asStr
  recordedAtMs := asI64 t

end

@[simp] theorem appendEvent_events : (appendEvent sha256 db w op a b t).events =
    db.events ++ [nextEvent sha256 db.events w op a b t] := rfl

@[simp] theorem eventHead_append (events : List EventRow) (event : EventRow) :
    eventHead (events ++ [event]) = event.entryHash := by
  simp [eventHead]

theorem verifyEvent_nextEvent (events : List EventRow) :
    verifyEvent sha256 (eventHead events) (nextEvent sha256 events w op a b t) =
      .ok (nextEvent sha256 events w op a b t).entryHash := by
  rw [verifyEvent, reject_of_not (by simp [nextEvent]), bind_ok]
  dsimp only
  rw [reject_of_not (by simp [nextEvent]), bind_ok, pure_eq_ok]

/-- Appending an event keeps a chain that verifies up to its head. -/
theorem foldE_verifyEvent_append {events : List EventRow}
    (h : foldE (verifyEvent sha256) Digest32.zero.asStr events = .ok (eventHead events)) :
    foldE (verifyEvent sha256) Digest32.zero.asStr
        (events ++ [nextEvent sha256 events w op a b t]) =
      .ok (eventHead (events ++ [nextEvent sha256 events w op a b t])) := by
  rw [foldE_append, h, bind_ok, foldE_cons, verifyEvent_nextEvent, bind_ok, foldE_nil,
    eventHead_append]

/-! ## The lifecycle -/

/-- The state after this one on the way from PREPARED to RETIRED. -/
def AllocationState.next : AllocationState → Option AllocationState
  | .prepared => some .indexCommitted
  | .indexCommitted => some .accountCommitted
  | .accountCommitted => some .activated
  | .activated => some .retired
  | .retired | .tombstoned => none

def AllocationState.rank : AllocationState → Nat
  | .prepared => 0
  | .indexCommitted => 1
  | .accountCommitted => 2
  | .activated => 3
  | .retired => 4
  | .tombstoned => 5

/-- A move of the lifecycle; an operation without a row has no state. -/
inductive Moves : Option AllocationState → AllocationState → Prop where
  | prepare : Moves none .prepared
  | forward (h : a.next = some b) : Moves (some a) b
  | tombstone (h : a ≠ .tombstoned) : Moves (some a) .tombstoned

/-- The transitions, in order, lead from no state to the state `a`. -/
inductive LifecyclePath :
    List (Option AllocationState × AllocationState) → Option AllocationState → Prop where
  | nil : LifecyclePath [] none
  | snoc : LifecyclePath ts a → Moves a b → LifecyclePath (ts ++ [(a, b)]) (some b)

theorem Moves.rank_lt (h : Moves (some a) b) : a.rank < b.rank := by
  cases h with
  | forward h => cases a <;> cases h <;> decide
  | tombstone h => cases a <;> simp_all [AllocationState.rank]

theorem LifecyclePath.last_eq (h : LifecyclePath ts a) : ts.getLast?.map (·.2) = a := by
  cases h with
  | nil => rfl
  | snoc _ _ => simp

/-- The lifecycle state of an operation. -/
def stateOf (db : RegistryDb) (k : Token × String) : Option AllocationState :=
  (loadAllocation db k.1 k.2).map (·.state)

/-! ## Entries -/

/-- What an event and an audit entry both say: the operation and its transition. -/
def EventRow.transition (event : EventRow) :
    (Token × String) × Option AllocationState × AllocationState :=
  ((event.walletId, event.operationId), event.fromState, event.toState)

def TransitionPayload.transition (payload : TransitionPayload) :
    (Token × String) × Option AllocationState × AllocationState :=
  ((payload.walletId, payload.operationId), payload.fromState, payload.toState)

/-- The transitions of one operation among those of all. -/
def transitionsOf (k : Token × String)
    (ts : List ((Token × String) × Option AllocationState × AllocationState)) :
    List (Option AllocationState × AllocationState) :=
  (ts.filter (·.1 = k)).map (·.2)

/-- The caller's recorder, keeping the entries it accepted. They are part of the journal, so a
transaction that is rolled back takes its entries with it. -/
def logging (audit : AuditRecorder σ) : AuditRecorder (σ × List TransitionPayload) :=
  fun journal event payload =>
    (audit journal.1 event payload).map fun j => (j, journal.2 ++ [payload])

theorem logging_ok {journal journal' : σ × List TransitionPayload}
    (h : logging audit journal event payload = .ok journal') :
    journal'.2 = journal.2 ++ [payload] := by
  rw [logging] at h
  cases haudit : audit journal.1 event payload with
  | error e => rw [haudit] at h; cases h
  | ok j => rw [haudit] at h; cases h; rfl

/-- One transition is in all three records: the row moved from `a` to `b`, and the event and the
entry say so. -/
structure Wrote (sha256 : List UInt8 → Digest32) (k : Token × String)
    (b : AllocationState) (s s' : State (σ × List TransitionPayload)) : Prop where
  moves : Moves (stateOf s.db k) b
  rows : ∀ k', stateOf s'.db k' = if k' = k then some b else stateOf s.db k'
  event : ∃ t, s'.db.events =
    s.db.events ++ [nextEvent sha256 s.db.events k.1 k.2 (stateOf s.db k) b t]
  entry : ∃ payload, s'.journal.2 = s.journal.2 ++ [payload] ∧
    payload.transition = (k, stateOf s.db k, b)

/-- None of the three records changed. -/
structure Silent (s s' : State (σ × List TransitionPayload)) : Prop where
  rows : ∀ k, stateOf s'.db k = stateOf s.db k
  events : s'.db.events = s.db.events
  journal : s'.journal = s.journal

theorem Silent.refl (s : State (σ × List TransitionPayload)) : Silent s s :=
  ⟨fun _ => rfl, rfl, rfl⟩

/-- A call that moves the operation `k` to `b` answers `r`: it failed or found nothing to do, or
it wrote the transition. -/
def Logs (sha256 : List UInt8 → Digest32) (k : Token × String) (b : AllocationState)
    (s : State (σ × List TransitionPayload))
    (x : Except Failure α × State (σ × List TransitionPayload)) : Prop :=
  Silent s x.2 ∨ (∃ a, x.1 = .ok a) ∧ Wrote sha256 k b s x.2

variable {s s' : State (σ × List TransitionPayload)}

theorem immediateTransaction_logs
    {body : Except Failure (Except Failure α × State (σ × List TransitionPayload))}
    (h : ∀ r s', body = .ok (r, s') → Logs sha256 k b s (r, s')) :
    Logs sha256 k b s (immediateTransaction s body) := by
  rcases immediateTransaction_cases (s := s) body with ⟨e, -, he⟩ | ⟨r, s', hb, he⟩
  · rw [he]; exact .inl (.refl s)
  · rw [he]; exact h r s' hb

theorem stateOf_update (hrow : db.allocations.get? k = some row)
    (hall : db'.allocations = db.allocations.update k fun _ => row') (hb : row'.state = b)
    (k' : Token × String) : stateOf db' k' = if k' = k then some b else stateOf db k' := by
  rw [stateOf, loadAllocation, hall, Table.get?_update]
  split
  · next h => subst h hb; rw [hrow]; rfl
  · rfl

/-! ## Lifecycle steps -/

theorem advance_wrote (hmove : a.next = some b)
    (h : advance sha256 (logging audit) s w op a b event t = .ok s') :
    Wrote sha256 (w, op) b s s' := by
  obtain ⟨row, hrow, h⟩ := bind_eq_ok.mp h
  obtain ⟨db', htr, h⟩ := bind_eq_ok.mp h
  obtain ⟨journal, haudit, h⟩ := bind_eq_ok.mp h
  cases h
  rw [allocationOf, okOr_eq_ok] at hrow
  obtain ⟨row₁, hrow₁, h⟩ := bind_eq_ok.mp htr
  rw [okOr_eq_ok, Option.filter_eq_some_iff, decide_eq_true_eq, hrow] at hrow₁
  cases h
  obtain ⟨hsame, rfl⟩ := hrow₁
  cases hsame
  have hstate : stateOf s.db (w, op) = some row.state := by rw [stateOf, hrow]; rfl
  refine ⟨?_, stateOf_update hrow rfl rfl, ⟨t, ?_⟩, ⟨_, logging_ok haudit, ?_⟩⟩
  · rw [hstate]
    exact .forward hmove
  · rw [hstate]
    rfl
  · rw [hstate]
    rfl

theorem commitIndex_logs (s : State (σ × List TransitionPayload)) (w : Token) (op : String)
    (t : Nat) : Logs sha256 (w, op) .indexCommitted s
      (commitIndex sha256 (logging audit) s w op t) := by
  refine immediateTransaction_logs fun r s' h => ?_
  obtain ⟨row, -, h⟩ := bind_eq_ok.mp h
  split at h
  · obtain ⟨s₁, hadv, h⟩ := bind_eq_ok.mp h
    obtain ⟨reservation, -, h⟩ := bind_eq_ok.mp h
    cases h
    exact .inr ⟨⟨reservation, rfl⟩, advance_wrote rfl hadv⟩
  all_goals (cases h; try exact .inl (.refl s))

theorem commitAccount_logs (s : State (σ × List TransitionPayload)) (w : Token)
    (op spki : String) (f : Digest32) (t : Nat) : Logs sha256 (w, op) .accountCommitted s
      (commitAccount sha256 (logging audit) s w op spki f t) := by
  refine immediateTransaction_logs fun r s' h => ?_
  obtain ⟨_, -, h⟩ := bind_eq_ok.mp h
  obtain ⟨_, -, h⟩ := bind_eq_ok.mp h
  obtain ⟨row, hrow, h⟩ := bind_eq_ok.mp h
  rw [allocationOf, okOr_eq_ok] at hrow
  split at h
  case h_3 hcommitted =>
    obtain ⟨journal, haudit, h⟩ := bind_eq_ok.mp h
    obtain ⟨reservation, -, h⟩ := bind_eq_ok.mp h
    cases h
    have hstate : stateOf s.db (w, op) = some .indexCommitted := by
      rw [stateOf, hrow, Option.map_some, hcommitted]
    refine .inr ⟨⟨reservation, rfl⟩, ?_, stateOf_update hrow rfl rfl, ⟨t, ?_⟩,
      ⟨_, logging_ok haudit, ?_⟩⟩
    · rw [hstate]
      exact .forward rfl
    · rw [hstate]
      rfl
    · rw [hstate]
      rfl
  all_goals (cases h; try exact .inl (.refl s))

theorem activate_logs (s : State (σ × List TransitionPayload)) (w : Token) (op : String)
    (t : Nat) : Logs sha256 (w, op) .activated s
      (activate sha256 (logging audit) s w op t) := by
  refine immediateTransaction_logs fun r s' h => ?_
  obtain ⟨row, -, h⟩ := bind_eq_ok.mp h
  split at h
  · obtain ⟨_, -, h⟩ := bind_eq_ok.mp h
    cases h
    exact .inl (.refl s)
  · obtain ⟨s₁, hadv, h⟩ := bind_eq_ok.mp h
    obtain ⟨account, -, h⟩ := bind_eq_ok.mp h
    cases h
    exact .inr ⟨⟨account, rfl⟩, advance_wrote rfl hadv⟩

theorem retire_logs (s : State (σ × List TransitionPayload)) (w : Token) (op : String)
    (t : Nat) : Logs sha256 (w, op) .retired s (retire sha256 (logging audit) s w op t) := by
  refine immediateTransaction_logs fun r s' h => ?_
  obtain ⟨s₁, hadv, h⟩ := bind_eq_ok.mp h
  cases h
  exact .inr ⟨⟨(), rfl⟩, advance_wrote rfl hadv⟩

theorem tombstone_logs (s : State (σ × List TransitionPayload)) (w : Token) (op : String)
    (t : Nat) : Logs sha256 (w, op) .tombstoned s
      (tombstone sha256 (logging audit) s w op t) := by
  refine immediateTransaction_logs fun r s' h => ?_
  obtain ⟨row, hrow, h⟩ := bind_eq_ok.mp h
  rw [allocationOf, okOr_eq_ok] at hrow
  have hstate : stateOf s.db (w, op) = some row.state := by rw [stateOf, hrow]; rfl
  split at h
  · cases h
    exact .inl (.refl s)
  next hlive =>
  obtain ⟨journal, haudit, h⟩ := bind_eq_ok.mp h
  cases h
  refine .inr ⟨⟨(), rfl⟩, ?_, stateOf_update hrow rfl rfl, ⟨t, ?_⟩, ⟨_, logging_ok haudit, ?_⟩⟩
  · rw [hstate]
    exact .tombstone hlive
  · rw [hstate]
    rfl
  · rw [hstate]
    rfl

/-! ## Reservations -/

theorem insertSkipped_events (db : RegistryDb) (ns : NamespaceKey) (skipped : List Nat) (t : Nat) :
    (insertSkipped db ns skipped t).events = db.events := by
  induction skipped generalizing db with
  | nil => rfl
  | cons i skipped ih => exact ih (insertTombstone db ns i .invalidChild t)

theorem stateOf_congr {db db' : RegistryDb} (h : db'.allocations = db.allocations)
    (k : Token × String) : stateOf db' k = stateOf db k := by
  rw [stateOf, loadAllocation, h, stateOf, loadAllocation]

theorem reserve_wrote (h : reserve sha256 (logging audit) s req ns i path = .ok (r, s')) :
    Wrote sha256 (req.walletId, req.operationId) .prepared s s' := by
  obtain ⟨keySpec, -, h⟩ := bind_eq_ok.mp h
  obtain ⟨db', hins, h⟩ := bind_eq_ok.mp h
  obtain ⟨journal, haudit, h⟩ := bind_eq_ok.mp h
  cases h
  have hevents : db'.events = s.db.events := by
    obtain ⟨_, -, hins⟩ := bind_eq_ok.mp hins
    obtain ⟨_, -, hins⟩ := bind_eq_ok.mp hins
    obtain ⟨_, -, hins⟩ := bind_eq_ok.mp hins
    cases hins
    rfl
  obtain ⟨hall, -, -⟩ := insertAllocation_ok hins
  have hstate : stateOf s.db (req.walletId, req.operationId) = none := by
    rw [stateOf, loadAllocation, (Table.insert?_eq_some hall).1]
    rfl
  refine ⟨?_, fun k' => ?_, ⟨req.nowMs, ?_⟩, ⟨_, logging_ok haudit, ?_⟩⟩
  · rw [hstate]
    exact .prepare
  · rw [stateOf, loadAllocation, appendEvent_allocations, Table.get?_insert? hall]
    split
    · rfl
    · rfl
  · rw [hstate, appendEvent_events, hevents]
  · rw [hstate]
    rfl

/-- The slot search of a reservation changes none of the three records. -/
theorem Silent.of_slots {db₁ : RegistryDb} (hall : db₁.allocations = s.db.allocations)
    (hevents : db₁.events = s.db.events) : Silent s { s with db := db₁ } :=
  ⟨stateOf_congr hall, hevents, rfl⟩

theorem Wrote.of_silent {s₁ : State (σ × List TransitionPayload)} (h : Silent s s₁)
    (hw : Wrote sha256 k b s₁ s') : Wrote sha256 k b s s' where
  moves := h.rows k ▸ hw.moves
  rows k' := by rw [hw.rows, h.rows]
  event := by rw [← h.events, ← h.rows k]; exact hw.event
  entry := by rw [← h.journal, ← h.rows k]; exact hw.entry

theorem prepareFresh_logs (h : prepareFresh sha256 (logging audit) s req = .ok (r, s')) :
    Logs sha256 (req.walletId, req.operationId) .prepared s (r, s') := by
  obtain ⟨account, -, h⟩ := bind_eq_ok.mp h
  obtain ⟨db₁, hens, h⟩ := bind_eq_ok.mp h
  obtain ⟨n, -, h⟩ := bind_eq_ok.mp h
  obtain ⟨_, -, h⟩ := bind_eq_ok.mp h
  obtain ⟨slot, -, h⟩ := bind_eq_ok.mp h
  have hevents : db₁.events = s.db.events := by
    obtain ⟨_, -, hens⟩ := bind_eq_ok.mp hens
    cases hens
    rfl
  obtain ⟨hall, -, -⟩ := ensureNamespace_ok hens
  cases slot with
  | invalidTarget index =>
    cases h
    exact .inl (.of_slots hall hevents)
  | chosen index skipped =>
    obtain ⟨path, -, h⟩ := bind_eq_ok.mp h
    split at h
    · cases h
    obtain ⟨⟨reservation, s₂⟩, hres, h⟩ := bind_eq_ok.mp h
    cases h
    obtain ⟨hskipped, -, -⟩ := insertSkipped_spec db₁
      ⟨req.walletId, req.profile, req.role, account⟩ skipped req.nowMs
    refine .inr ⟨⟨reservation, rfl⟩, (reserve_wrote hres).of_silent (.of_slots ?_ ?_)⟩
    · exact hskipped.trans hall
    · exact (insertSkipped_events db₁ _ skipped req.nowMs).trans hevents

theorem prepareAllocationAt_logs (s : State (σ × List TransitionPayload)) (req : PrepareRequest) :
    Logs sha256 (req.walletId, req.operationId) .prepared s
      (prepareAllocationAt sha256 (logging audit) s req) := by
  refine immediateTransaction_logs fun r s' h => ?_
  rcases prepareBody_ok h with ⟨_, -, -, rfl⟩ | ⟨-, -, h⟩
  · exact .inl (.refl s')
  · exact prepareFresh_logs h

/-! ## Runs -/

/-- The operation a call is about and the state it moves it to. -/
def Call.goal : Call → Option ((Token × String) × AllocationState)
  | .prepareAllocation req => some ((req.walletId, req.operationId), .prepared)
  | .prepareAllocationAt req => some ((req.walletId, req.operationId), .prepared)
  | .commitIndex w op _ => some ((w, op), .indexCommitted)
  | .commitAccount w op _ _ _ => some ((w, op), .accountCommitted)
  | .activate w op _ => some ((w, op), .activated)
  | .retire w op _ => some ((w, op), .retired)
  | .tombstone w op _ => some ((w, op), .tombstoned)
  | .recordInvalidChildTombstone _ _ _ => none

/-- The operation has already reached the state the call moves it to. -/
def Call.IsRetry (call : Call) (db : RegistryDb) : Prop :=
  ∃ k b a, call.goal = some (k, b) ∧ stateOf db k = some a ∧ b.rank ≤ a.rank

section
variable (sha256 : List UInt8 → Digest32)

/-- Whether a call succeeds, and its error when it does not. -/
def outcome (audit : AuditRecorder σ) (s : State σ) : Call → Except Failure Unit
  | .prepareAllocation req => (prepareAllocation sha256 audit s req).1.map fun _ => ()
  | .prepareAllocationAt req => (prepareAllocationAt sha256 audit s req).1.map fun _ => ()
  | .commitIndex w op t => (commitIndex sha256 audit s w op t).1.map fun _ => ()
  | .commitAccount w op spki f t => (commitAccount sha256 audit s w op spki f t).1.map fun _ => ()
  | .activate w op t => (activate sha256 audit s w op t).1.map fun _ => ()
  | .retire w op t => (retire sha256 audit s w op t).1
  | .tombstone w op t => (tombstone sha256 audit s w op t).1
  | .recordInvalidChildTombstone ns i t => (recordInvalidChildTombstone s ns i t).1

/-- A call with the recorder its caller brought. -/
def auditedStep (s : State (σ × List TransitionPayload)) (c : AuditRecorder σ × Call) :
    State (σ × List TransitionPayload) :=
  step sha256 (logging c.1) s c.2

end

/-- A call that wrote succeeded. -/
def Call.Logs (sha256 : List UInt8 → Digest32) (call : Call)
    (s s' : State (σ × List TransitionPayload)) (r : Except Failure Unit) : Prop :=
  Silent s s' ∨ ∃ k b, call.goal = some (k, b) ∧ r = .ok () ∧ Wrote sha256 k b s s'

theorem Logs.call {x : Except Failure α × State (σ × List TransitionPayload)} {call : Call}
    (hgoal : call.goal = some (k, b)) (h : Logs sha256 k b s x)
    (hr : ∀ a, x.1 = .ok a → r = .ok ()) : call.Logs sha256 s x.2 r := by
  rcases h with h | ⟨⟨a, ha⟩, h⟩
  · exact .inl h
  · exact .inr ⟨k, b, hgoal, hr a ha, h⟩

theorem step_logs (sha256 : List UInt8 → Digest32) (audit : AuditRecorder σ)
    (s : State (σ × List TransitionPayload)) (call : Call) :
    call.Logs sha256 s (step sha256 (logging audit) s call)
      (outcome sha256 (logging audit) s call) := by
  cases call with
  | prepareAllocation req =>
    exact (prepareAllocationAt_logs s _).call rfl fun _ h => congrArg (Except.map _) h
  | prepareAllocationAt req =>
    exact (prepareAllocationAt_logs s req).call rfl fun _ h => congrArg (Except.map _) h
  | commitIndex w op t =>
    exact (commitIndex_logs s w op t).call rfl fun _ h => congrArg (Except.map _) h
  | commitAccount w op spki f t =>
    exact (commitAccount_logs s w op spki f t).call rfl fun _ h => congrArg (Except.map _) h
  | activate w op t =>
    exact (activate_logs s w op t).call rfl fun _ h => congrArg (Except.map _) h
  | retire w op t => exact (retire_logs s w op t).call rfl fun _ h => h
  | tombstone w op t => exact (tombstone_logs s w op t).call rfl fun _ h => h
  | recordInvalidChildTombstone ns i t => exact .inl (.of_slots rfl rfl)

/-- The three records agree. -/
structure Agrees (sha256 : List UInt8 → Digest32) (s : State (σ × List TransitionPayload)) :
    Prop where
  chain : foldE (verifyEvent sha256) Digest32.zero.asStr s.db.events = .ok (eventHead s.db.events)
  path : ∀ k, LifecyclePath (transitionsOf k (s.db.events.map EventRow.transition))
    (stateOf s.db k)
  entries : s.journal.2.map TransitionPayload.transition = s.db.events.map EventRow.transition

theorem Agrees.empty (journal : σ) : Agrees sha256 ⟨∅, journal, []⟩ where
  chain := rfl
  path _ := .nil
  entries := rfl

theorem Agrees.silent (h : Agrees sha256 s) (hs : Silent s s') : Agrees sha256 s' where
  chain := by rw [hs.events]; exact h.chain
  path k := by rw [hs.events, hs.rows]; exact h.path k
  entries := by rw [hs.events, hs.journal]; exact h.entries

theorem transitionsOf_append (k k' : Token × String)
    (ts : List ((Token × String) × Option AllocationState × AllocationState))
    (m : Option AllocationState × AllocationState) :
    transitionsOf k (ts ++ [(k', m)]) =
      if k = k' then transitionsOf k ts ++ [m] else transitionsOf k ts := by
  rw [transitionsOf, List.filter_append, List.map_append]
  split
  · next h => subst h; simp [transitionsOf]
  · next h => simp [transitionsOf, Ne.symm h]

theorem Agrees.wrote (h : Agrees sha256 s) (hw : Wrote sha256 k b s s') : Agrees sha256 s' := by
  obtain ⟨t, hevents⟩ := hw.event
  obtain ⟨payload, hjournal, hpayload⟩ := hw.entry
  have hmap : s'.db.events.map EventRow.transition =
      s.db.events.map EventRow.transition ++ [(k, stateOf s.db k, b)] := by
    rw [hevents, List.map_append]
    rfl
  refine ⟨?_, fun k' => ?_, ?_⟩
  · rw [hevents]
    exact foldE_verifyEvent_append h.chain
  · rw [hmap, transitionsOf_append, hw.rows]
    split
    · next hk => subst hk; exact (h.path k').snoc hw.moves
    · exact h.path k'
  · rw [hmap, hjournal, List.map_append, h.entries, List.map_singleton, hpayload]

theorem Agrees.step (h : Agrees sha256 s) (c : AuditRecorder σ × Call) :
    Agrees sha256 (auditedStep sha256 s c) := by
  rcases step_logs sha256 c.1 s c.2 with hs | ⟨k, b, -, -, hw⟩
  · exact h.silent hs
  · exact h.wrote hw

/-- A failed call and a call whose goal was already reached write nothing. -/
theorem step_silent {call : Call}
    (h : (∃ e, outcome sha256 (logging audit) s call = .error e) ∨ call.IsRetry s.db) :
    Silent s (step sha256 (logging audit) s call) := by
  rcases step_logs sha256 audit s call with hs | ⟨k, b, hgoal, hok, hw⟩
  · exact hs
  rcases h with ⟨e, he⟩ | ⟨k', b', a, hgoal', ha, hle⟩
  · rw [hok] at he
    cases he
  · rw [hgoal] at hgoal'
    cases hgoal'
    have hmoves := hw.moves
    rw [ha] at hmoves
    exact absurd hmoves.rank_lt (Nat.not_lt.mpr hle)

/-- In every state reached from the empty registry, whatever the calls and their recorders: the
events of each operation lead step by step to the state of its row, the committed audit entries are
those events one for one, the event chain verifies, and a call that fails or repeats what is
already done adds neither an event nor an entry. -/
theorem run_records_agree (sha256 : List UInt8 → Digest32) (journal : σ)
    (calls : List (AuditRecorder σ × Call)) :
    let s := run (auditedStep sha256) ⟨∅, journal, []⟩ calls
    (∀ w op,
      let path := transitionsOf (w, op) (s.db.events.map EventRow.transition)
      let current := (loadAllocation s.db w op).map (·.state)
      LifecyclePath path current ∧ path.getLast?.map (·.2) = current) ∧
    s.journal.2.map TransitionPayload.transition = s.db.events.map EventRow.transition ∧
    (∀ (audit : AuditRecorder σ) (call : Call),
      (∃ e, outcome sha256 (logging audit) s call = .error e) ∨ call.IsRetry s.db →
      (step sha256 (logging audit) s call).db.events = s.db.events ∧
        (step sha256 (logging audit) s call).journal = s.journal) ∧
    verifyEventChain sha256 s.db = .ok () := by
  intro s
  have hagrees : Agrees sha256 s :=
    run_invariant (P := Agrees sha256) (fun s c h => h.step c) (.empty journal) calls
  refine ⟨fun w op => ⟨hagrees.path (w, op), (hagrees.path (w, op)).last_eq⟩, hagrees.entries,
    fun audit call h => ?_, ?_⟩
  · have hsilent : Silent s (step sha256 (logging audit) s call) := step_silent h
    exact ⟨hsilent.events, hsilent.journal⟩
  · rw [verifyEventChain, hagrees.chain]
    rfl

end BloomSigner.Registry
