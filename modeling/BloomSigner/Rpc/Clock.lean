import BloomSigner.Rpc.Delivery

/-! # The durable clock

A request that changes something is served at a time that is written down first: the effective time
of the last observation, with its entry in the audit journal. Whatever the platform reads after that,
after a restart, a reboot or a repair, the effective time does not go back, so such requests are
served in the order of their times. -/

namespace BloomSigner.Rpc

open Lib Lib.Program

/-! ## Observations -/

structure PlatformTimeReading where
  utcMs : Option Nat
  monotonicElapsedMs : Nat
  monotonicAnchorNs : Nat

inductive DurableClockCondition where
  | healthy | rollbackFrozen | forwardJumpRejected | untrusted
  deriving DecidableEq, Repr

structure PersistedClockState where
  lastEffectiveMs : Nat
  monotonicAnchorNs : Nat
  /-- none where the boot was not recorded -/
  bootEpoch : Option BootEpoch

structure DurableClockDecision where
  effectiveNowMs : Nat
  condition : DurableClockCondition

structure ClockDecision where
  effectiveNowMs : Nat
  condition : ClockCondition
  observedUtcMs : Option Nat
  monotonicAnchorNs : Nat
  bootEpoch : BootEpoch

/-- The row of `clock_state`. -/
structure ClockRow where
  lastEffectiveMs : Nat
  condition : ClockCondition
  observedUtcMs : Option Nat
  monotonicAnchorNs : Nat
  bootEpoch : BootEpoch

/-- The clock of a process, and the function of the trusted time library that it decides with. -/
structure ClockEnvironment extends RpcEnvironment where
  /-- `requires_durable_clock_guard`: the wall clock of the platform is not taken on trust -/
  durableClockGuard : Bool
  maxForwardStepMs : Nat
  evaluateDurableClock : Option PersistedClockState → PlatformTimeReading → Option BootEpoch →
    (maxForwardStepMs : Nat) → Except String DurableClockDecision

/-- The decision never lies before the effective time that was persisted. -/
def ClockEnvironment.HoldsFloor (env : ClockEnvironment) : Prop :=
  ∀ previous reading epoch step decision,
    env.evaluateDurableClock (some previous) reading epoch step = .ok decision →
    previous.lastEffectiveMs ≤ decision.effectiveNowMs

/-- The Signer and its clock. The boot is the one its process runs in. -/
structure ClockedSigner where
  service : Service
  clock : Option ClockRow := none
  bootEpoch : BootEpoch

abbrev ClockedM := Program ClockedSigner Failure

def zeroBootEpoch : BootEpoch := ⟨String.ofList (List.replicate 32 '0')⟩

def comparableBootEpoch (epoch : BootEpoch) : Option BootEpoch :=
  if epoch = zeroBootEpoch then none else some epoch

def signerClockCondition : DurableClockCondition → ClockCondition
  | .healthy => .healthy
  | .untrusted => .untrusted
  | .rollbackFrozen => .rollbackFrozen
  | .forwardJumpRejected => .forwardJumpRejected

def ClockRow.persisted (row : ClockRow) : PersistedClockState where
  lastEffectiveMs := row.lastEffectiveMs
  monotonicAnchorNs := row.monotonicAnchorNs
  bootEpoch := comparableBootEpoch row.bootEpoch

def ClockRow.decision (row : ClockRow) : ClockDecision where
  effectiveNowMs := row.lastEffectiveMs
  condition := row.condition
  observedUtcMs := row.observedUtcMs
  monotonicAnchorNs := row.monotonicAnchorNs
  bootEpoch := row.bootEpoch

/-- What the journal calls an observation, and whether its entry tells the time that was read. -/
def clockEvent (initializing : Bool) : DurableClockCondition → String × Bool
  | .untrusted => ("clock.untrusted", false)
  | .healthy => if initializing then ("clock.initialized", false) else ("clock.observed", true)
  | .rollbackFrozen => ("clock.rollback", true)
  | .forwardJumpRejected => ("clock.forward_jump", true)

def ClockRow.payload (row : ClockRow) (observed : Bool) : Json := .obj (
  (if observed then [("observed_utc_ms", decimalJson (row.observedUtcMs.getD 0))] else []) ++ [
    ("effective_now_ms", decimalJson row.lastEffectiveMs),
    ("monotonic_anchor_ns", decimalJson row.monotonicAnchorNs),
    ("boot_epoch", row.bootEpoch.json)])

section
variable (env : ClockEnvironment)

/-- What the trusted time library makes of a reading, given the row. -/
def evaluateClock (row : Option ClockRow) (reading : PlatformTimeReading) (epoch : BootEpoch) :
    Except Failure DurableClockDecision :=
  (env.evaluateDurableClock (row.map ClockRow.persisted) reading (comparableBootEpoch epoch)
    env.maxForwardStepMs).mapError (error .clockUntrusted)

def observeTimeBody (keys : Audit.AuditKeyState) (row : Option ClockRow)
    (reading : PlatformTimeReading) (epoch : BootEpoch) (db : Db) :
    Except Failure (Db × ClockRow) := do
  let shared ← evaluateClock env row reading epoch
  reject (shared.condition ≠ .untrusted ∧ reading.utcMs.isNone)
    (error .clockUntrusted "durable clock returned a trusted decision without UTC")
  let next : ClockRow := {
    lastEffectiveMs := shared.effectiveNowMs
    condition := signerClockCondition shared.condition
    observedUtcMs := reading.utcMs
    monotonicAnchorNs := reading.monotonicAnchorNs
    bootEpoch := epoch }
  let (event, observed) := clockEvent row.isNone shared.condition
  let db ← db.appendAudit env.crypto keys event (next.payload observed)
  return (db, next)

/-- A call that writes the row, together with its entry in the journal. -/
def writeClock (body : Audit.AuditKeyState → Option ClockRow → Db → Except Failure (Db × ClockRow)) :
    ClockedM ClockRow := fun c =>
  let engine := c.service.engine
  match mutation env.crypto engine fun db =>
      (body engine.auditKeys c.clock db).map fun written => .commit written.1 written.2 with
  | (.ok row, engine) => (.ok row, { c with service := { c.service with engine }, clock := some row })
  | (.error f, engine) => (.error f, { c with service := { c.service with engine } })

/-- What is written stays when a change that is limited in time is then refused. -/
def observeTime (reading : PlatformTimeReading) (rateLimitedMutation : Bool) :
    ClockedM ClockDecision := do
  let c ← .read id
  let row ← writeClock env fun keys row => observeTimeBody env keys row reading c.bootEpoch
  liftM (reject (rateLimitedMutation ∧ row.condition = .untrusted)
    (error .clockUntrusted "trusted platform time source is unavailable"))
  liftM (reject (rateLimitedMutation ∧ row.condition = .rollbackFrozen)
    (error .clockRollback "UTC rollback detected; effective time is frozen"))
  return row.decision

def observeTimeReadOnly (reading : PlatformTimeReading) (c : ClockedSigner) :
    Except Failure ClockDecision := do
  let shared ← evaluateClock env c.clock reading c.bootEpoch
  return ⟨shared.effectiveNowMs, signerClockCondition shared.condition, reading.utcMs,
    reading.monotonicAnchorNs, c.bootEpoch⟩

def repairClockBody (acceptedUtcMs : Nat) (keys : Audit.AuditKeyState) (row : Option ClockRow)
    (db : Db) : Except Failure (Db × ClockRow) := do
  let prior ← okOr row
    (error .clockUntrusted "clock repair requires initialized durable clock state")
  reject (acceptedUtcMs < prior.lastEffectiveMs)
    (error .clockRollback "clock repair cannot move effective time backwards")
  let db ← db.appendAudit env.crypto keys "clock.repaired" (.obj [
    ("prior_effective_ms", decimalJson prior.lastEffectiveMs),
    ("accepted_utc_ms", decimalJson acceptedUtcMs),
    ("monotonic_anchor_ns", decimalJson prior.monotonicAnchorNs),
    ("boot_epoch", prior.bootEpoch.json)])
  return (db, ⟨acceptedUtcMs, .repaired, some acceptedUtcMs, prior.monotonicAnchorNs,
    prior.bootEpoch⟩)

def repairClock (acceptedUtcMs : Nat) : ClockedM ClockDecision := do
  let row ← writeClock env (repairClockBody env acceptedUtcMs)
  return row.decision

/-! ## The clock of the process -/

def hostWallClockDecision (reading : PlatformTimeReading) (epoch : BootEpoch) :
    Except Failure ClockDecision := do
  let utcMs ← okOr reading.utcMs (error .clockUntrusted "platform wall clock is unavailable")
  return ⟨utcMs, .healthy, some utcMs, reading.monotonicAnchorNs, epoch⟩

/-- What the sampler of the platform answers. -/
abbrev Sample := Except String PlatformTimeReading

def observe (sample : Sample) (rateLimitedMutation : Bool) : ClockedM ClockDecision := do
  let reading ← liftM (sample.mapError (error .clockUntrusted))
  let c ← .read id
  if env.durableClockGuard then observeTime env reading rateLimitedMutation
  else liftM (hostWallClockDecision reading c.bootEpoch)

def observeReadOnly (sample : Sample) : ClockedM ClockDecision := do
  let reading ← liftM (sample.mapError (error .clockUntrusted))
  let c ← .read id
  if env.durableClockGuard then observeTimeReadOnly env reading c
  else liftM (hostWallClockDecision reading c.bootEpoch)

def nowMs (sample : Sample) (readOnly : Bool) : ClockedM Nat := do
  let decision ← if readOnly then observeReadOnly env sample else observe env sample false
  return decision.effectiveNowMs

/-! ## Requests on the clock -/

def onService (x : ServiceM α) : ClockedM α := fun c =>
  let (result, service) := x c.service
  (result, { c with service })

variable (world : RpcWorld)

/-- The time that `dispatch_inner` serves a request at. -/
def admitAt (request : BrokerSignerRequest) (sample : Sample) : ClockedM Nat := do
  liftM (if requiresContainment request.method then world.containment else .ok ())
  nowMs env sample request.method.isReadOnly

def clockedDispatch (request : BrokerSignerRequest) (sample : Sample) :
    ClockedM BrokerSignerResponse := do
  let now ← admitAt env world request sample
  onService (dispatchMethod env.toRpcEnvironment world now request)

/-- `dispatch_control_inner`, with the clock it reads. -/
def clockedControl (request : ControlRequest) (sample : Sample) : ClockedM ControlResponse := do
  let now ← nowMs env sample (!request.revokes)
  onService (dispatchControlInner env.toRpcEnvironment { world with clock := fun _ => .ok now }
    request)

/-- `expire_cross_surface_pairs` at the time of a read, or the end of every pairing. -/
def clockedExpiry (sample : Sample) : ClockedM Unit := fun c =>
  let clock := (nowMs env sample true c).1
  onService (expiryTick { world with clock := fun _ => clock }) c

/-- A new process, in the same boot or another one, whose clock observes once. -/
def clockedRestart (compiled : Backends) (nowMs : Nat) (epoch : BootEpoch) (sample : Sample)
    (c : ClockedSigner) : ClockedSigner :=
  let c : ClockedSigner :=
    ⟨c.service.reopened env.toServiceEnvironment compiled nowMs, c.clock, epoch⟩
  if c.service.engine.auditDegraded then c else (observe env sample false c).2

end

/-- What happens to the process on its clock. An observation of its own is what a signature makes
between two of its storage calls. -/
inductive ClockedEvent where
  | broker (world : RpcWorld) (request : BrokerSignerRequest) (sample : Sample)
  | control (world : RpcWorld) (request : ControlRequest) (sample : Sample)
  | expiry (world : RpcWorld) (sample : Sample)
  | observe (sample : Sample) (rateLimitedMutation : Bool)
  | repair (acceptedUtcMs : Nat)
  | installRemoteSurface (hostname installationId : String) (adminKeySha256 : Digest32)
      (createdAtMs : Nat)
  | setExposureMode (mode : ExposureMode)
  | restart (compiled : Backends) (nowMs : Nat) (epoch : BootEpoch) (sample : Sample)

def clockedStep (env : ClockEnvironment) (c : ClockedSigner) : ClockedEvent → ClockedSigner
  | .broker world request sample => (clockedDispatch env world request sample c).2
  | .control world request sample => (clockedControl env world request sample c).2
  | .expiry world sample => (clockedExpiry env world sample c).2
  | .observe sample rateLimitedMutation => (observe env sample rateLimitedMutation c).2
  | .repair acceptedUtcMs => (repairClock env acceptedUtcMs c).2
  | .installRemoteSurface hostname installationId adminKey createdAtMs =>
    (onService (installRemoteSurface env.toServiceEnvironment hostname installationId adminKey
      createdAtMs) c).2
  | .setExposureMode mode => (onService (setExposureMode env.toServiceEnvironment mode) c).2
  | .restart compiled nowMs epoch sample => clockedRestart env compiled nowMs epoch sample c

/-! ## What is written -/

/-- The effective time that was last written, none before the first observation. -/
def ClockedSigner.time (c : ClockedSigner) : Nat := c.clock.elim 0 ClockRow.lastEffectiveMs

/-- A row that is there stays, and its time does not go back. -/
def Later (c c' : ClockedSigner) : Prop :=
  ∀ row, c.clock = some row →
    ∃ row', c'.clock = some row' ∧ row.lastEffectiveMs ≤ row'.lastEffectiveMs

theorem Later.refl (c : ClockedSigner) : Later c c := fun row h => ⟨row, h, le_rfl⟩

theorem Later.trans {c c' c'' : ClockedSigner} (h : Later c c') (h' : Later c' c'') :
    Later c c'' := by
  intro row hrow
  obtain ⟨row', hrow', hle⟩ := h row hrow
  obtain ⟨row'', hrow'', hle'⟩ := h' row' hrow'
  exact ⟨row'', hrow'', hle.trans hle'⟩

theorem Later.of_eq {c c' : ClockedSigner} (h : c'.clock = c.clock) : Later c c' :=
  fun row hrow => ⟨row, h.trans hrow, le_rfl⟩

theorem Later.time_le {c c' : ClockedSigner} (h : Later c c') : c.time ≤ c'.time := by
  unfold ClockedSigner.time
  cases hrow : c.clock with
  | none => exact Nat.zero_le _
  | some row =>
    obtain ⟨row', hrow', hle⟩ := h row hrow
    rw [hrow']
    exact hle

/-- A call of the clock writes its row and enters it in the journal, and nothing else. -/
structure Observes (c c' : ClockedSigner) : Prop where
  later : Later c c'
  bootEpoch : c'.bootEpoch = c.bootEpoch
  entered : ∃ engine journal, c'.service = { c.service with engine } ∧
    engine.db = { c.service.engine.db with journal }

theorem Observes.refl (c : ClockedSigner) : Observes c c :=
  ⟨.refl c, rfl, c.service.engine, c.service.engine.db.journal, rfl, rfl⟩

theorem Observes.trans {c c' c'' : ClockedSigner} (h : Observes c c') (h' : Observes c' c'') :
    Observes c c'' := by
  obtain ⟨hlater, hepoch, e, journal, hservice, hdb⟩ := h
  obtain ⟨hlater', hepoch', e', journal', hservice', hdb'⟩ := h'
  refine ⟨hlater.trans hlater', hepoch'.trans hepoch, e', journal', ?_, ?_⟩
  · rw [hservice', hservice]
  · rw [hdb', hservice, hdb]

section
variable {env : ClockEnvironment} {c c' : ClockedSigner}

/-- Everything that a call which writes the row can do. -/
theorem writeClock_cases
    (body : Audit.AuditKeyState → Option ClockRow → Db → Except Failure (Db × ClockRow))
    (c : ClockedSigner) :
    (∃ f engine, engine.db = c.service.engine.db ∧
      writeClock env body c = (.error f, { c with service := { c.service with engine } })) ∨
    ∃ db row, body c.service.engine.auditKeys c.clock c.service.engine.db = .ok (db, row) ∧
      writeClock env body c = (.ok row, { c with
        service := { c.service with engine := { c.service.engine with db } }
        clock := some row }) := by
  unfold writeClock
  dsimp only
  obtain ⟨db, row, hbody, heq⟩ | ⟨row, hbody, -⟩ | ⟨f, engine, heq, hdb, -, -⟩ :=
    mutation_cases env.crypto c.service.engine fun db =>
      (body c.service.engine.auditKeys c.clock db).map fun written => .commit written.1 written.2
  · rw [heq]
    cases hwritten : body c.service.engine.auditKeys c.clock c.service.engine.db with
    | error f => rw [hwritten] at hbody; cases hbody
    | ok written => rw [hwritten] at hbody; cases hbody; exact .inr ⟨_, _, rfl, rfl⟩
  · cases hwritten : body c.service.engine.auditKeys c.clock c.service.engine.db with
    | error f => rw [hwritten] at hbody; cases hbody
    | ok written => rw [hwritten] at hbody; cases hbody
  · rw [heq]
    exact .inl ⟨f, engine, hdb, rfl⟩

theorem observes_writeClock
    {body : Audit.AuditKeyState → Option ClockRow → Db → Except Failure (Db × ClockRow)}
    (hbody : ∀ keys clock db db' row, body keys clock db = .ok (db', row) →
      (∃ journal, db' = { db with journal }) ∧
        ∀ prior, clock = some prior → prior.lastEffectiveMs ≤ row.lastEffectiveMs) :
    Keeps Observes (writeClock env body) := by
  intro c
  obtain ⟨f, engine, hdb, heq⟩ | ⟨db, row, hwritten, heq⟩ := @writeClock_cases env body c
  · rw [heq]
    exact ⟨.of_eq rfl, rfl, engine, c.service.engine.db.journal, rfl, hdb⟩
  · rw [heq]
    obtain ⟨⟨journal, rfl⟩, hlater⟩ := hbody _ _ _ _ _ hwritten
    exact ⟨fun prior hprior => ⟨row, rfl, hlater prior hprior⟩, rfl, _, journal, rfl, rfl⟩

/-- An observation is written at the time that it decides, which is not before the last. -/
theorem observeTimeBody_eq_ok (hfloor : env.HoldsFloor)
    (h : observeTimeBody env keys clock reading epoch db = .ok (db', row)) :
    (∃ journal, db' = { db with journal }) ∧
      ∀ prior, clock = some prior → prior.lastEffectiveMs ≤ row.lastEffectiveMs := by
  obtain ⟨shared, hshared, h⟩ := bind_eq_ok.mp h
  obtain ⟨_, -, h⟩ := bind_eq_ok.mp h
  obtain ⟨db₁, haudit, h⟩ := bind_eq_ok.mp h
  cases h
  refine ⟨appendAudit_eq_ok haudit, fun prior hprior => ?_⟩
  rw [evaluateClock, hprior, mapError_eq_ok] at hshared
  exact hfloor prior.persisted _ _ _ _ hshared

theorem repairClockBody_eq_ok
    (h : repairClockBody env acceptedUtcMs keys clock db = .ok (db', row)) :
    (∃ journal, db' = { db with journal }) ∧
      ∀ prior, clock = some prior → prior.lastEffectiveMs ≤ row.lastEffectiveMs := by
  obtain ⟨prior, hprior, h⟩ := bind_eq_ok.mp h
  obtain ⟨_, hforward, h⟩ := bind_eq_ok.mp h
  obtain ⟨db₁, haudit, h⟩ := bind_eq_ok.mp h
  cases h
  refine ⟨appendAudit_eq_ok haudit, fun prior' hprior' => ?_⟩
  rw [okOr_eq_ok, hprior', Option.some.injEq] at hprior
  rw [hprior]
  exact Nat.le_of_not_lt (reject_eq_ok.mp hforward)

variable (hfloor : env.HoldsFloor)
include hfloor

theorem observes_observe (sample : Sample) (rateLimitedMutation : Bool) :
    Keeps Observes (observe env sample rateLimitedMutation) := by
  have htrans : ∀ c c' c'', Observes c c' → Observes c' c'' → Observes c c'' :=
    fun _ _ _ h h' => h.trans h'
  refine .bind htrans (keeps_lift .refl _) fun reading => .bind htrans .refl fun c => .ite ?_ ?_
  · refine .bind htrans .refl fun c => .bind htrans ?_ fun row => .bind htrans
      (keeps_lift .refl _) fun _ => .bind htrans (keeps_lift .refl _) fun _ => keeps_pure .refl _
    exact observes_writeClock fun keys clock db db' row h => observeTimeBody_eq_ok hfloor h
  · exact keeps_lift .refl _

omit hfloor in
theorem observes_repairClock (acceptedUtcMs : Nat) :
    Keeps Observes (repairClock env acceptedUtcMs) := by
  refine .bind (fun _ _ _ h h' => h.trans h') ?_ fun row => keeps_pure .refl _
  exact observes_writeClock fun keys clock db db' row h => repairClockBody_eq_ok h

end

/-! ## Runs -/

/-- The time that a request which changes something is served at. -/
def ClockedEvent.servedAt (env : ClockEnvironment) (c : ClockedSigner) : ClockedEvent → Option Nat
  | .broker world request sample =>
    if request.method.isReadOnly then none else (admitAt env world request sample c).1.toOption
  | .control _ request sample =>
    if request.revokes then (nowMs env sample false c).1.toOption else none
  | .expiry _ _ | .observe _ _ | .repair _ | .installRemoteSurface .. | .setExposureMode _
  | .restart .. => none

/-- The times that the requests of a run are served at, in their order. -/
def servedTimes (env : ClockEnvironment) (c : ClockedSigner) : List ClockedEvent → List Nat
  | [] => []
  | event :: events =>
    (event.servedAt env c).toList ++ servedTimes env (clockedStep env c event) events

section
variable {env : ClockEnvironment} {c c' : ClockedSigner}

theorem keeps_onService (x : ServiceM α) : Keeps Later (onService x) := fun _ => .of_eq rfl

theorem observeReadOnly_snd (sample : Sample) (c : ClockedSigner) :
    (observeReadOnly env sample c).2 = c := by
  let Same : ClockedSigner → ClockedSigner → Prop := fun c c' => c' = c
  have htrans : ∀ c c' c'', Same c c' → Same c' c'' → Same c c'' := fun _ _ _ h h' => h'.trans h
  have hlift : ∀ {α : Type} (r : Except Failure α), Keeps Same (liftM r : ClockedM α) :=
    fun r => keeps_lift (fun _ => rfl) r
  have hread : Keeps Same (.read id : ClockedM ClockedSigner) := fun _ => rfl
  exact Keeps.bind htrans (hlift _) (fun _ => hread.bind htrans fun _ => .ite (hlift _) (hlift _)) c

/-- A request that only reads is served at a time that is not written. -/
theorem nowMs_readOnly (sample : Sample) (c : ClockedSigner) : (nowMs env sample true c).2 = c := by
  unfold nowMs
  rw [if_pos rfl]
  have h := @observeReadOnly_snd env sample c
  cases hrun : observeReadOnly env sample c with
  | mk r c' =>
    rw [hrun] at h
    cases h
    cases r with
    | ok decision => rw [bind_of_ok hrun]; rfl
    | error f => rw [bind_of_error hrun]

variable (hfloor : env.HoldsFloor)
include hfloor

theorem observes_nowMs (sample : Sample) (readOnly : Bool) :
    Keeps Observes (nowMs env sample readOnly) := by
  cases readOnly with
  | true =>
    intro c
    rw [nowMs_readOnly sample c]
    exact .refl c
  | false =>
    exact .bind (fun _ _ _ h h' => h.trans h') (observes_observe hfloor sample false)
      fun _ => keeps_pure .refl _

theorem observes_admitAt (world : RpcWorld) (request : BrokerSignerRequest) (sample : Sample) :
    Keeps Observes (admitAt env world request sample) :=
  .bind (fun _ _ _ h h' => h.trans h') (keeps_lift .refl _) fun _ => observes_nowMs hfloor sample _

theorem clockedRestart_later (compiled : Backends) (now : Nat) (epoch : BootEpoch)
    (sample : Sample) (c : ClockedSigner) :
    Later c (clockedRestart env compiled now epoch sample c) := by
  let opened : ClockedSigner :=
    ⟨c.service.reopened env.toServiceEnvironment compiled now, c.clock, epoch⟩
  have hopened : Later c opened := .of_eq rfl
  show Later c (if opened.service.engine.auditDegraded then opened
    else (observe env sample false opened).2)
  split
  · exact hopened
  · exact hopened.trans (observes_observe hfloor sample false opened).later

/-- Nothing that happens to the process takes its clock back. -/
theorem clockedStep_later (c : ClockedSigner) (event : ClockedEvent) :
    Later c (clockedStep env c event) := by
  have htrans : ∀ c c' c'', Later c c' → Later c' c'' → Later c c'' := fun _ _ _ h h' => h.trans h'
  cases event with
  | broker world request sample =>
    exact Keeps.bind htrans (fun c => (observes_admitAt hfloor world request sample c).later)
      (fun now => keeps_onService _) c
  | control world request sample =>
    exact Keeps.bind htrans (fun c => (observes_nowMs hfloor sample _ c).later)
      (fun now => keeps_onService _) c
  | expiry world sample => exact keeps_onService _ c
  | observe sample rateLimitedMutation =>
    exact (observes_observe hfloor sample rateLimitedMutation c).later
  | repair acceptedUtcMs => exact (observes_repairClock acceptedUtcMs c).later
  | installRemoteSurface hostname installationId adminKey createdAtMs => exact keeps_onService _ c
  | setExposureMode mode => exact keeps_onService _ c
  | restart compiled now epoch sample => exact clockedRestart_later hfloor compiled now epoch sample c

/-- The effective time that is written never goes back, whatever the platform reads, and neither a
restart in another boot nor a repair nor a journal that cannot be written loses it. -/
theorem clock_never_back (row : ClockRow) (hrow : c.clock = some row)
    (events : List ClockedEvent) :
    ∃ row', (run (clockedStep env) c events).clock = some row' ∧
      row.lastEffectiveMs ≤ row'.lastEffectiveMs :=
  run_rel Later.refl (fun _ _ _ h h' => h.trans h') (clockedStep_later hfloor) c events row hrow

/-- The clock was written at a time that is not before the last. -/
structure Written (c c' : ClockedSigner) (t : Nat) : Prop where
  from_le : c.time ≤ t
  time : c'.time = t

variable (hguard : env.durableClockGuard = true)
include hguard

theorem observe_written {decision : ClockDecision}
    (h : observe env sample rateLimitedMutation c = (.ok decision, c')) :
    Written c c' decision.effectiveNowMs := by
  have hlater := (observes_observe hfloor sample rateLimitedMutation c).later.time_le
  rw [h] at hlater
  suffices htime : c'.time = decision.effectiveNowMs from ⟨htime ▸ hlater, htime⟩
  obtain ⟨reading, c₁, hlift, h⟩ := bind_apply_eq_ok h
  rw [lift_apply, Prod.mk.injEq] at hlift
  obtain ⟨-, rfl⟩ := hlift
  rw [read_bind, if_pos hguard] at h
  obtain ⟨c₂, c₃, hread, h⟩ := bind_apply_eq_ok h
  cases hread
  obtain ⟨row, c₄, hwrite, h⟩ := bind_apply_eq_ok h
  obtain ⟨_, c₅, hlift, h⟩ := bind_apply_eq_ok h
  rw [lift_apply, Prod.mk.injEq] at hlift
  obtain ⟨-, rfl⟩ := hlift
  obtain ⟨_, c₆, hlift, h⟩ := bind_apply_eq_ok h
  rw [lift_apply, Prod.mk.injEq] at hlift
  obtain ⟨-, rfl⟩ := hlift
  cases h
  obtain ⟨f, engine, -, heq⟩ | ⟨db, row', -, heq⟩ := @writeClock_cases env _ c
  · rw [heq] at hwrite; cases hwrite
  · rw [heq] at hwrite; cases hwrite; rfl

theorem nowMs_written (h : nowMs env sample false c = (.ok t, c')) : Written c c' t := by
  unfold nowMs at h
  rw [if_neg Bool.false_ne_true] at h
  obtain ⟨decision, c₁, hobserve, h⟩ := bind_apply_eq_ok h
  cases h
  exact observe_written hfloor hguard hobserve

theorem admitAt_written {world : RpcWorld} {request : BrokerSignerRequest}
    (hread : request.method.isReadOnly = false)
    (h : admitAt env world request sample c = (.ok t, c')) : Written c c' t := by
  obtain ⟨_, c₁, hlift, h⟩ := bind_apply_eq_ok h
  rw [lift_apply, Prod.mk.injEq] at hlift
  obtain ⟨-, rfl⟩ := hlift
  rw [hread] at h
  exact nowMs_written hfloor hguard h

/-- A request that changes something is served at the time that it leaves written. -/
theorem servedAt_written {event : ClockedEvent} (h : event.servedAt env c = some t) :
    Written c (clockedStep env c event) t := by
  cases event with
  | broker world request sample =>
    rw [ClockedEvent.servedAt] at h
    split at h
    · cases h
    · next hread =>
      cases hrun : admitAt env world request sample c with
      | mk r c₁ =>
        rw [hrun] at h
        cases r with
        | error f => cases h
        | ok t' =>
          cases h
          have hwritten := admitAt_written hfloor hguard (Bool.eq_false_iff.mpr hread) hrun
          exact ⟨hwritten.from_le, by
            rw [clockedStep, clockedDispatch, bind_of_ok hrun]; exact hwritten.time⟩
  | control world request sample =>
    rw [ClockedEvent.servedAt] at h
    split at h
    · next hrevokes =>
      cases hrun : nowMs env sample false c with
      | mk r c₁ =>
        rw [hrun] at h
        cases r with
        | error f => cases h
        | ok t' =>
          cases h
          have hwritten := nowMs_written hfloor hguard hrun
          refine ⟨hwritten.from_le, ?_⟩
          have hmutation : nowMs env sample (!request.revokes) c = (.ok t, c₁) := by
            rw [hrevokes]; exact hrun
          rw [clockedStep, clockedControl, bind_of_ok hmutation]
          exact hwritten.time
    · cases h
  | _ => cases h

/-- Requests that change something are served in the order of their times, and none before the time
that was written first. -/
theorem served_times_ordered (events : List ClockedEvent) :
    (c.time :: servedTimes env c events).Pairwise (· ≤ ·) := by
  induction events generalizing c with
  | nil => exact List.pairwise_singleton _ _
  | cons event events ih =>
    have hnext := List.pairwise_cons.mp (ih (c := clockedStep env c event))
    have hlater := (clockedStep_later hfloor c event).time_le
    rw [servedTimes]
    cases hserved : event.servedAt env c with
    | none =>
      exact List.pairwise_cons.mpr ⟨fun t ht => hlater.trans (hnext.1 t ht), hnext.2⟩
    | some t =>
      obtain ⟨hle, htime⟩ := servedAt_written hfloor hguard hserved
      rw [htime] at hnext
      refine List.pairwise_cons.mpr ⟨fun t' ht' => ?_, List.pairwise_cons.mpr hnext⟩
      rcases List.mem_cons.mp ht' with heq | ht'
      · exact heq ▸ hle
      · exact hle.trans (hnext.1 _ ht')

end

/-! ## Deliveries on the clock -/

section
variable {env : ClockEnvironment} {c c' : ClockedSigner} {t : Nat}

theorem PairsBounded.observes (h : PairsBounded t c.service) (hobserves : Observes c c') :
    PairsBounded t c'.service := by
  obtain ⟨-, -, engine, journal, hservice, hdb⟩ := hobserves
  rw [hservice]
  exact h.engine (hdb ▸ rfl)

/-- The pairings are bounded by the time that is written. -/
def ClockedSigner.PairsBounded (c : ClockedSigner) : Prop := Rpc.PairsBounded c.time c.service

theorem ClockedSigner.PairsBounded.later (h : c.PairsBounded) (hlater : Later c c') :
    Rpc.PairsBounded c'.time c.service := h.mono hlater.time_le

theorem ClockedSigner.PairsBounded.observes (h : c.PairsBounded) (hobserves : Observes c c') :
    c'.PairsBounded := (h.later hobserves.later).observes hobserves

/-- A request that is let in is an observation of the clock, and then the request at its time. -/
theorem clockedDispatch_eq {world : RpcWorld} {request : BrokerSignerRequest} {sample : Sample}
    (hcontained : (if requiresContainment request.method then world.containment else .ok ()) =
      .ok ()) (c : ClockedSigner) :
    clockedDispatch env world request sample c =
      onService (dispatchInner env.toRpcEnvironment
        { world with clock := fun _ => (nowMs env sample request.method.isReadOnly c).1 } request)
        (nowMs env sample request.method.isReadOnly c).2 := by
  have hadmitted : admitAt env world request sample c = nowMs env sample request.method.isReadOnly c := by
    rw [admitAt, lift_bind_ok hcontained]
  unfold onService dispatchInner
  dsimp only
  rw [lift_bind_ok hcontained, clockedDispatch]
  cases hrun : nowMs env sample request.method.isReadOnly c with
  | mk clock c₁ =>
    rw [hrun] at hadmitted
    cases clock with
    | error f => rw [bind_of_error hadmitted, lift_bind_error rfl]
    | ok t => rw [bind_of_ok hadmitted, lift_bind_ok rfl]; rfl

variable (hfloor : env.HoldsFloor) (hguard : env.durableClockGuard = true)
include hfloor hguard

theorem clockedDispatch_pairsBounded (world : RpcWorld) (request : BrokerSignerRequest)
    (sample : Sample) (h : c.PairsBounded) :
    (clockedDispatch env world request sample c).2.PairsBounded := by
  cases hcontained : (if requiresContainment request.method then world.containment else .ok ()) with
  | error f =>
    have hadmitted : admitAt env world request sample c = (.error f, c) := by
      rw [admitAt, lift_bind_error hcontained]
    rw [clockedDispatch, bind_of_error hadmitted]
    exact h
  | ok u =>
    rw [clockedDispatch_eq hcontained]
    have hobserves := observes_nowMs hfloor sample request.method.isReadOnly c
    refine @rpcStep_pairsBounded env.toRpcEnvironment _ _ (h.observes hobserves)
      (.broker { world with clock := fun _ => (nowMs env sample request.method.isReadOnly c).1 }
        request) fun t' ht' => ?_
    rw [RpcEvent.changesAt] at ht'
    split at ht'
    · cases ht'
    · next hread =>
      rw [Bool.eq_false_iff.mpr hread] at ht' ⊢
      cases hrun : nowMs env sample false c with
      | mk clock c₁ =>
        rw [hrun] at ht'
        cases clock with
        | error f => cases ht'
        | ok t => cases ht'; exact (nowMs_written hfloor hguard hrun).time.symm

theorem clockedControl_pairsBounded (world : RpcWorld) (request : ControlRequest)
    (sample : Sample) (h : c.PairsBounded) :
    (clockedControl env world request sample c).2.PairsBounded := by
  have hobserves := observes_nowMs hfloor sample (!request.revokes) c
  unfold clockedControl
  cases hrun : nowMs env sample (!request.revokes) c with
  | mk r c₁ =>
    rw [hrun] at hobserves
    have hbounded := h.observes hobserves
    cases r with
    | error f => rw [bind_of_error hrun]; exact hbounded
    | ok t =>
      rw [bind_of_ok hrun]
      refine @rpcStep_pairsBounded env.toRpcEnvironment _ _ hbounded
        (.control { world with clock := fun _ => .ok t } request) fun t' ht' => ?_
      rw [RpcEvent.changesAt] at ht'
      split at ht'
      · next hrevokes =>
        cases ht'
        rw [hrevokes] at hrun
        exact (nowMs_written hfloor hguard hrun).time.symm
      · cases ht'

/-- Whatever happens to the process, its pairings stay bounded by the time that is written. -/
theorem clockedStep_pairsBounded (h : c.PairsBounded) (event : ClockedEvent) :
    (clockedStep env c event).PairsBounded := by
  cases event with
  | broker world request sample => exact clockedDispatch_pairsBounded hfloor hguard _ _ _ h
  | control world request sample => exact clockedControl_pairsBounded hfloor hguard _ _ _ h
  | expiry world sample =>
    exact @rpcStep_pairsBounded env.toRpcEnvironment _ _ h
      (.expiry { world with clock := fun _ => (nowMs env sample true c).1 }) fun t ht => by cases ht
  | observe sample rateLimitedMutation =>
    exact h.observes (observes_observe hfloor sample rateLimitedMutation c)
  | repair acceptedUtcMs => exact h.observes (observes_repairClock acceptedUtcMs c)
  | installRemoteSurface hostname installationId adminKey createdAtMs =>
    exact @rpcStep_pairsBounded env.toRpcEnvironment _ _ h
      (.installRemoteSurface hostname installationId adminKey createdAtMs) fun t ht => by cases ht
  | setExposureMode mode =>
    exact @rpcStep_pairsBounded env.toRpcEnvironment _ _ h (.setExposureMode mode)
      fun t ht => by cases ht
  | restart compiled now epoch sample =>
    have hopened : ClockedSigner.PairsBounded
        ⟨c.service.reopened env.toServiceEnvironment compiled now, c.clock, epoch⟩ :=
      reopened_pairsBounded compiled now
    show ClockedSigner.PairsBounded (if _ then _ else _)
    split
    · exact hopened
    · exact hopened.observes (observes_observe hfloor sample false _)

/-- On the durable clock the result of a recovery is told for a quarter of an hour after its commit
and no longer, whatever the platform reads and whatever was served, repaired or restarted before. -/
theorem recovery_told_on_clock (hstart : c.service.crossSurface = ∅) (events : List ClockedEvent)
    (world : RpcWorld) (request : BrokerSignerRequest) (sample : Sample)
    (response : BrokerSignerResponse)
    (hresponse : clockedDispatch env world request sample (run (clockedStep env) c events) =
      (.ok response, c'))
    (result : CustodyResult) (htold : response.custody? = some result)
    (hkind : result.ceremonyKind = .walletRecovery) :
    ∃ op t row, request.custodyOperation = some op ∧
      (admitAt env world request sample (run (clockedStep env) c events)).1 = .ok t ∧
      c'.service.engine.db.ceremonyReceipts.get? op = some row ∧ row.receiptKind = "custody" ∧
      t ≤ row.committedAtMs + 15 * 60 * 1000 := by
  have hbounded : (run (clockedStep env) c events).PairsBounded :=
    run_invariant (P := ClockedSigner.PairsBounded)
      (fun _ event h => clockedStep_pairsBounded hfloor hguard h event)
      (PairsBounded.of_none hstart) events
  obtain ⟨t, c₁, hadmitted, hserve⟩ := bind_apply_eq_ok hresponse
  have hobserves := observes_admitAt hfloor world request sample (run (clockedStep env) c events)
  rw [hadmitted] at hobserves
  cases hrun : dispatchMethod env.toRpcEnvironment world t request c₁.service with
  | mk r s' =>
    rw [onService, hrun] at hserve
    cases hserve
    obtain ⟨op, hop, row, hrow, hcustody, hwindow⟩ :=
      dispatchMethod_delivered (hbounded.observes hobserves) request hrun htold hkind
    exact ⟨op, t, row, hop, congrArg Prod.fst hadmitted, hrow, hcustody, hwindow⟩

end

/-! ## A clock that goes wrong -/

/-- A clock that freezes at a rollback and takes no more than the step forward at once. -/
def platformDecision : Option PersistedClockState → PlatformTimeReading → Option BootEpoch → Nat →
    Except String DurableClockDecision
  | none, reading, _, _ => match reading.utcMs with
    | some utcMs => .ok ⟨utcMs, .healthy⟩
    | none => .error "platform wall clock is unavailable"
  | some previous, reading, _, maxForwardStepMs => .ok <| match reading.utcMs with
    | none => ⟨previous.lastEffectiveMs, .untrusted⟩
    | some utcMs =>
      if utcMs < previous.lastEffectiveMs then ⟨previous.lastEffectiveMs, .rollbackFrozen⟩
      else if previous.lastEffectiveMs + reading.monotonicElapsedMs + maxForwardStepMs < utcMs then
        ⟨previous.lastEffectiveMs + reading.monotonicElapsedMs, .forwardJumpRejected⟩
      else ⟨utcMs, .healthy⟩

def platformClock : ClockEnvironment :=
  { rpcReading with
    durableClockGuard := true
    maxForwardStepMs := 1000
    evaluateDurableClock := platformDecision }

theorem platformClock_holdsFloor : platformClock.HoldsFloor := by
  intro previous reading epoch step decision h
  cases h
  split
  · exact le_rfl
  · split
    · exact le_rfl
    · next hforward =>
      split
      · exact Nat.le_add_right _ _
      · exact Nat.le_of_not_lt hforward

def sampled (utcMs elapsedMs anchorNs : Nat) : Sample := .ok ⟨some utcMs, elapsedMs, anchorNs⟩

/-- The service that committed a recovery, after its first observation. -/
def clockedRecovery : ClockedSigner where
  service := recoveredService
  clock := some ⟨10000, .healthy, some 10000, 1000000, ⟨"boot-1"⟩⟩
  bootEpoch := ⟨"boot-1"⟩

/-- The platform goes back, jumps ahead, is repaired and reboots, and wallets are revoked meanwhile. -/
def clockMishaps : List ClockedEvent :=
  [.control containmentLost (.revokeAll ⟨⟨"operation-2"⟩, ⟨"first"⟩⟩) (sampled 9999 100 101000000),
    .observe (sampled 20000 125 126000000) false,
    .repair 20000,
    .restart ∅ 0 ⟨"boot-2"⟩ (sampled 19000 0 500000),
    .control containmentLost (.revokeAll ⟨⟨"operation-3"⟩, ⟨"second"⟩⟩) (sampled 20500 10 600000)]

theorem clock_never_back_mishaps :
    ∃ row', (run (clockedStep platformClock) clockedRecovery clockMishaps).clock = some row' ∧
      10000 ≤ row'.lastEffectiveMs :=
  clock_never_back (c := clockedRecovery) platformClock_holdsFloor _ rfl clockMishaps

theorem served_times_ordered_mishaps :
    servedTimes platformClock clockedRecovery clockMishaps = [10000, 20500] ∧
      (clockedRecovery.time :: servedTimes platformClock clockedRecovery clockMishaps).Pairwise
        (· ≤ ·) :=
  ⟨by decide +kernel, served_times_ordered platformClock_holdsFloor rfl clockMishaps⟩

/-- What the Signer answers after all that to a request for the result. -/
def askedOnClock : Except Failure BrokerSignerResponse × ClockedSigner :=
  clockedDispatch platformClock containmentLost (.custodyResult ⟨"operation-1"⟩)
    (sampled 20600 20 700000) (run (clockedStep platformClock) clockedRecovery clockMishaps)

theorem askedOnClock_told :
    (askedOnClock.1.toOption.bind BrokerSignerResponse.custody?) = some recoveredResult := by
  decide +kernel

theorem recovery_told_on_clock_mishaps :
    ∃ response, askedOnClock.1 = .ok response ∧ response.custody? = some recoveredResult ∧
      ∃ op t row, (BrokerSignerRequest.custodyResult ⟨"operation-1"⟩).custodyOperation = some op ∧
        (admitAt platformClock containmentLost (.custodyResult ⟨"operation-1"⟩)
          (sampled 20600 20 700000)
          (run (clockedStep platformClock) clockedRecovery clockMishaps)).1 = .ok t ∧
        askedOnClock.2.service.engine.db.ceremonyReceipts.get? op = some row ∧
        row.receiptKind = "custody" ∧ t ≤ row.committedAtMs + 15 * 60 * 1000 := by
  have htold := askedOnClock_told
  cases hrun : askedOnClock with
  | mk answer c' =>
    rw [hrun] at htold
    cases answer with
    | error f => cases htold
    | ok response =>
      exact ⟨response, rfl, htold, recovery_told_on_clock platformClock_holdsFloor rfl rfl
        clockMishaps containmentLost _ (sampled 20600 20 700000) response hrun recoveredResult
        htold rfl⟩

end BloomSigner.Rpc
