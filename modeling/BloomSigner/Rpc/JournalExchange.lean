import BloomSigner.Api.Methods
import BloomSigner.Audit.CachedHead
import BloomSigner.Engine.Revocation
import BloomSigner.Lib.Run

/-! # Journal heads on the authority edge

Every request of the Broker carries the head of the Broker's journal, every response the head of
the Signer's. Both are appended to an independent checkpoint sink, which may refuse them: a refused
head latches the engine degraded and stops a mutation. What the exchange keeps in memory for a
journal that no longer verifies is the head it verified last, whether or not the sink took it. -/

namespace BloomSigner.Rpc

open Lib Audit

structure SignedJournalHead where
  serviceId : Token
  keyId : Token
  sequence : Nat
  headHash : Digest32
  signature : Base64UrlBytes
  deriving DecidableEq

/-- The transport's identity of this service. -/
structure LocalIdentity where
  serviceId : Token
  applicationKeyId : Token
  sign : Nat → Digest32 → Base64UrlBytes

def signJournalHead (identity : LocalIdentity) (sequence : Nat) (headHash : Digest32) :
    SignedJournalHead where
  serviceId := identity.serviceId
  keyId := identity.applicationKeyId
  sequence := sequence
  headHash := headHash
  signature := identity.sign sequence headHash

/-! ## The checkpoint sink -/

/-- Whose head a decision of the sink is about: the Broker's, or the Signer's own, in a response
or at start-up. -/
inductive CheckpointRole where
  | peer | self | startUp
  deriving DecidableEq

structure CheckpointDecision where
  role : CheckpointRole
  attempted : SignedJournalHead
  outcome : Except String Unit

def CheckpointDecision.appended (d : CheckpointDecision) : Bool := d.outcome.isOk

/-- The heads the sink holds from earlier processes, and what it decided in this one. It may
refuse any head. -/
structure CheckpointSink where
  retained : List SignedJournalHead
  decisions : List CheckpointDecision

namespace CheckpointSink

/-- `append_peer_head_diagnosed`. -/
def append (sink : CheckpointSink) (role : CheckpointRole) (head : SignedJournalHead)
    (outcome : Except String Unit) : CheckpointSink :=
  { sink with decisions := sink.decisions ++ [⟨role, head, outcome⟩] }

/-- `latest_peer_head`, of a sink that has decided nothing in this process. -/
def latestRetained (sink : CheckpointSink) (serviceId : Token) : Option SignedJournalHead :=
  (sink.retained.filter (·.serviceId = serviceId)).getLast?

def accepted (sink : CheckpointSink) : List SignedJournalHead :=
  sink.retained ++ (sink.decisions.filter (·.appended)).map (·.attempted)

/-- The sink has taken this head of the service, in this process or in an earlier one. -/
def Accepted (sink : CheckpointSink) (serviceId : Token) (sequence : Nat) (headHash : Digest32) :
    Prop :=
  ∃ head ∈ sink.accepted,
    head.serviceId = serviceId ∧ head.sequence = sequence ∧ head.headHash = headHash

/-- The decisions on the Signer's own heads. -/
def own (sink : CheckpointSink) : List CheckpointDecision :=
  sink.decisions.filter (·.role ≠ .peer)

/-- The last of the Signer's heads that the sink decided on is one it has never taken. A head
refused at start-up does not count while an earlier process left one. -/
def Unsettled (sink : CheckpointSink) (serviceId : Token) : Prop :=
  ∃ d ∈ sink.own.getLast?,
    ¬sink.Accepted serviceId d.attempted.sequence d.attempted.headHash ∧
    (d.role = .startUp → sink.latestRetained serviceId = none)

end CheckpointSink

/-! ## The exchange -/

/-- `SignerJournalExchange`. -/
structure JournalExchange where
  engine : Engine
  checkpoints : CheckpointSink
  lastVerifiedHead : Option SignedJournalHead

section
variable (crypto : Crypto) (identity : LocalIdentity)

/-- `SignerEngine::verified_audit_head`: a cached head is the head of a journal that verifies. -/
def verifiedAuditHead (e : Engine) : Except Failure (Nat × Digest32) × Engine :=
  let head : Except Failure (Nat × Digest32) := do
    verifyAuditChain crypto e.db.journal e.auditKeys.currentKeyId e.auditKeys.trustedKeys
    readTail e.db.journal
  match head with
  | .ok head => (.ok head, e)
  | .error f => (.error f, { e with auditDegraded := true })

/-- `select_initial_self_head`: `loaded` is whether the sink could be read, `outcome` its answer
to the head of the journal. -/
def selectInitialSelfHead (loaded outcome : Except String Unit) (e : Engine)
    (sink : CheckpointSink) :
    Except Failure (Option SignedJournalHead) × Engine × CheckpointSink :=
  match loaded with
  | .error cause => (.error (error .serviceUnavailable
      ("load retained Signer local audit checkpoint: " ++ cause)), e, sink)
  | .ok () =>
    let retained := sink.latestRetained identity.serviceId
    match verifiedAuditHead crypto e with
    | (.error _, e) => (.ok retained, e, sink)
    | (.ok (sequence, headHash), e) =>
      let head := signJournalHead identity sequence headHash
      let sink := sink.append .startUp head outcome
      match outcome with
      | .ok () => (.ok (some head), e, sink)
      | .error _ => (.ok (retained.or (some head)), { e with auditDegraded := true }, sink)

/-- The exchange of a new process on its engine and its sink. -/
def openExchange (loaded outcome : Except String Unit) (e : Engine)
    (retained : List SignedJournalHead) : Except Failure JournalExchange :=
  match selectInitialSelfHead crypto identity loaded outcome e ⟨retained, []⟩ with
  | (.error f, _) => .error f
  | (.ok head, engine, checkpoints) => .ok { engine, checkpoints, lastVerifiedHead := head }

/-- `SignerJournalExchange::response_journal_head`. The head is kept before the sink's answer is
looked at. -/
def responseJournalHead (allowUncheckpointedRead : Bool) (outcome : Except String Unit)
    (x : JournalExchange) : Except Failure (Nat × Digest32) × JournalExchange :=
  match verifiedAuditHead crypto x.engine with
  | (.ok (sequence, headHash), engine) =>
    let signed := signJournalHead identity sequence headHash
    let x := {
      engine
      checkpoints := x.checkpoints.append .self signed outcome
      lastVerifiedHead := some signed }
    match outcome with
    | .ok () => (.ok (sequence, headHash), x)
    | .error source =>
      let x := { x with engine := { x.engine with auditDegraded := true } }
      if allowUncheckpointedRead then (.ok (sequence, headHash), x)
      else (.error (error .serviceUnavailable
        ("persist Signer local audit checkpoint before response: " ++ source)), x)
  | (.error _, engine) =>
    let x := { x with engine }
    match x.lastVerifiedHead with
    | some head => (.ok (head.sequence, head.headHash), x)
    | none => (.error (error .serviceUnavailable
        "Signer audit is degraded and has no independently retained local head"), x)

/-- `checkpoint_request_head_with_context`. -/
def checkpointRequestHead (method : Token) (peerHead : SignedJournalHead)
    (outcome : Except String Unit) (x : JournalExchange) : Except Failure Unit × JournalExchange :=
  let x := { x with checkpoints := x.checkpoints.append .peer peerHead outcome }
  match outcome with
  | .ok () => (.ok (), x)
  | .error source =>
    let x := { x with engine := { x.engine with auditDegraded := true } }
    if isReadOnlyMethod method then (.ok (), x)
    else (.error (error .serviceUnavailable
      ("persist Broker audit checkpoint before dispatching mutation: " ++ source)), x)

/-- `local_journal_head_with_context`. -/
def localJournalHead (method : Token) :
    Except String Unit → JournalExchange → Except Failure (Nat × Digest32) × JournalExchange :=
  responseJournalHead crypto identity (isReadOnlyMethod method)

end

/-! ## Requests -/

structure AuthenticatedRequestContext where
  method : Token
  operationId : OperationId
  callerServiceId : Token
  callerBootEpoch : BootEpoch
  callerApplicationKeyId : Token
  sentAtMs : Nat
  deadlineMs : Nat

/-- A request as the transport has received and authenticated it. -/
structure AuthorityRequest (β : Type) where
  body : β
  context : AuthenticatedRequestContext
  senderJournalHead : Option SignedJournalHead

/-- What is outside the exchange while a request is served: the sink's answers to the two heads, the
system clock in milliseconds since the epoch, and the admission of the endpoint's quota. -/
structure Surroundings where
  peerOutcome : Except String Unit
  selfOutcome : Except String Unit
  sinceEpochMs : Option Nat
  admission : Except Failure Unit

structure AuthorityResponse (ρ : Type) where
  result : Except Failure ρ
  head : SignedJournalHead

section
variable {β ρ : Type} (crypto : Crypto) (identity : LocalIdentity)
  (dispatch : β → AuthenticatedRequestContext → Engine → Except Failure ρ × Engine)

/-- `dispatch_authority_connection` up to the head of its response: the result that will be sent, or
the error that ends the connection. -/
def serve (request : AuthorityRequest β) (around : Surroundings) (x : JournalExchange) :
    Except Failure (Except Failure ρ) × JournalExchange :=
  match request.senderJournalHead with
  | none => (.error (error .unauthenticatedPeer
      "authority-edge request omitted its authenticated journal head"), x)
  | some peerHead =>
    match checkpointRequestHead request.context.method peerHead around.peerOutcome x with
    | (.error f, x) => (.ok (.error f), x)
    | (.ok (), x) =>
      match around.sinceEpochMs with
      | none => (.error (error .serviceUnavailable "system clock before epoch"), x)
      | some nowMs =>
        if 2 ^ 64 ≤ nowMs then (.error (error .serviceUnavailable "system clock overflow"), x)
        else
          match around.admission with
          | .error f => (.ok (.error f), x)
          | .ok () =>
            let (result, engine) := dispatch request.body request.context x.engine
            (.ok result, { x with engine })

/-- `dispatch_authority_connection`. -/
def dispatchAuthorityConnection (request : AuthorityRequest β) (around : Surroundings)
    (x : JournalExchange) : Except Failure (AuthorityResponse ρ) × JournalExchange :=
  match serve dispatch request around x with
  | (.error f, x) => (.error f, x)
  | (.ok result, x) =>
    match localJournalHead crypto identity request.context.method around.selfOutcome x with
    | (.error f, x) => (.error f, x)
    | (.ok (sequence, headHash), x) =>
      (.ok ⟨result, signJournalHead identity sequence headHash⟩, x)

/-- What happens to an exchange: a request of the Broker, a mutation of the control endpoint, which
checkpoints the Signer's head before its outcome is published, or any other change of the engine,
damage to its journal among them. -/
inductive ExchangeCall (β : Type) where
  | request (request : AuthorityRequest β) (around : Surroundings)
  | control (change : Engine → Engine) (outcome : Except String Unit)
  | changed (change : Engine → Engine)

def exchangeStep (x : JournalExchange) : ExchangeCall β → JournalExchange
  | .request request around =>
    (dispatchAuthorityConnection crypto identity dispatch request around x).2
  | .control change outcome =>
    (responseJournalHead crypto identity false outcome { x with engine := change x.engine }).2
  | .changed change => { x with engine := change x.engine }

/-- A mutation whose peer head the sink refused is answered with that refusal, whatever the
dispatcher is, and leaves the engine as it was but degraded. -/
def Suppresses (x : JournalExchange) : ExchangeCall β → Prop
  | .request request around =>
    ∀ peerHead source, request.senderJournalHead = some peerHead →
      around.peerOutcome = .error source → isReadOnlyMethod request.context.method = false →
      let answered := dispatchAuthorityConnection crypto identity dispatch request around x
      (∀ dispatch' : β → AuthenticatedRequestContext → Engine → Except Failure ρ × Engine,
        dispatchAuthorityConnection crypto identity dispatch' request around x = answered) ∧
      answered.2.engine = { x.engine with auditDegraded := true } ∧
      ∀ response, answered.1 = .ok response → response.result = .error (error .serviceUnavailable
        ("persist Broker audit checkpoint before dispatching mutation: " ++ source))
  | _ => True

/-- The head in the response to a mutation is one the sink has taken. -/
def Publishes (x : JournalExchange) : ExchangeCall β → Prop
  | .request request around =>
    isReadOnlyMethod request.context.method = false → ∀ response x',
      dispatchAuthorityConnection crypto identity dispatch request around x = (.ok response, x') →
      x'.checkpoints.Accepted identity.serviceId response.head.sequence response.head.headHash
  | _ => True

/-- When the head of the response to a mutation is taken, the journal verifies, or the last of the
Signer's heads that the sink decided on is one it has taken. -/
def HeadStands (x : JournalExchange) : ExchangeCall β → Prop
  | .request request around =>
    isReadOnlyMethod request.context.method = false → ∀ result x',
      serve dispatch request around x = (.ok result, x') →
      x'.engine.journalVerifies crypto ∨ ¬x'.checkpoints.Unsettled identity.serviceId
  | _ => True

end

variable {crypto : Crypto} {identity : LocalIdentity} {sink : CheckpointSink} {e : Engine}
  {x x' : JournalExchange}

/-! ## What the sink has taken -/

namespace CheckpointSink

theorem mem_accepted_append : head ∈ (sink.append role attempted outcome).accepted ↔
    head ∈ sink.accepted ∨ outcome.isOk ∧ head = attempted := by
  unfold accepted append
  rw [List.filter_append, List.map_append, ← List.append_assoc, List.mem_append]
  cases outcome with
  | error source =>
    have hrefused : [CheckpointDecision.mk role attempted (.error source)].filter (·.appended) = [] :=
      rfl
    rw [hrefused]
    exact or_congr_right ⟨fun h => (List.not_mem_nil h).elim, fun h => Bool.noConfusion h.1⟩
  | ok taken =>
    have htaken : ([CheckpointDecision.mk role attempted (.ok taken)].filter (·.appended)).map
        (·.attempted) = [attempted] := rfl
    rw [htaken, List.mem_singleton]
    exact or_congr_right ⟨fun h => ⟨rfl, h⟩, And.right⟩

theorem Accepted.append {sequence : Nat} (h : sink.Accepted serviceId sequence headHash)
    (role : CheckpointRole) (attempted : SignedJournalHead) (outcome : Except String Unit) :
    (sink.append role attempted outcome).Accepted serviceId sequence headHash := by
  obtain ⟨head, hmem, hsame⟩ := h
  exact ⟨head, mem_accepted_append.mpr (.inl hmem), hsame⟩

theorem accepted_of_append (role : CheckpointRole) (attempted : SignedJournalHead) :
    (sink.append role attempted (.ok ())).Accepted attempted.serviceId attempted.sequence
      attempted.headHash :=
  ⟨attempted, mem_accepted_append.mpr (.inr ⟨rfl, rfl⟩), rfl, rfl, rfl⟩

theorem accepted_of_latestRetained (h : sink.latestRetained serviceId = some head) :
    sink.Accepted serviceId head.sequence head.headHash := by
  obtain ⟨hmem, hservice⟩ := List.mem_filter.mp (List.mem_of_getLast? h)
  exact ⟨head, List.mem_append_left _ hmem, of_decide_eq_true hservice, rfl, rfl⟩

@[simp] theorem own_append_peer : (sink.append .peer head outcome).own = sink.own := by
  unfold own append
  simp

@[simp] theorem own_append_self :
    (sink.append .self head outcome).own = sink.own ++ [⟨.self, head, outcome⟩] := by
  unfold own append
  simp

end CheckpointSink

/-! ## The head kept in memory -/

/-- What the exchange keeps in memory comes from the last decision on a head of the Signer's, or
from the sink where there is none or where start-up was refused. -/
inductive Recalls (identity : LocalIdentity) (x : JournalExchange) : Prop
  | retained (hown : x.checkpoints.own = [])
      (hlast : x.lastVerifiedHead = x.checkpoints.latestRetained identity.serviceId)
  | started (sequence : Nat) (headHash : Digest32) (outcome : Except String Unit)
      (hown : x.checkpoints.own =
        [⟨.startUp, signJournalHead identity sequence headHash, outcome⟩])
      (hlast : x.lastVerifiedHead =
        if outcome.isOk then some (signJournalHead identity sequence headHash)
        else (x.checkpoints.latestRetained identity.serviceId).or
          (some (signJournalHead identity sequence headHash)))
  | responded (sequence : Nat) (headHash : Digest32) (outcome : Except String Unit)
      (hown : x.checkpoints.own.getLast? =
        some ⟨.self, signJournalHead identity sequence headHash, outcome⟩)
      (hlast : x.lastVerifiedHead = some (signJournalHead identity sequence headHash))

/-- The head in memory is one the sink has never taken exactly when the last of the Signer's heads it
decided on is. -/
theorem Recalls.unsettled_iff (h : Recalls identity x) :
    x.checkpoints.Unsettled identity.serviceId ↔
      ∃ head, x.lastVerifiedHead = some head ∧
        ¬x.checkpoints.Accepted identity.serviceId head.sequence head.headHash := by
  unfold CheckpointSink.Unsettled
  cases h with
  | retained hown hlast =>
    rw [hown, hlast]
    constructor
    · rintro ⟨d, hd, -⟩
      cases hd
    · rintro ⟨head, hhead, hrefused⟩
      exact absurd (CheckpointSink.accepted_of_latestRetained hhead) hrefused
  | responded sequence headHash outcome hown hlast =>
    rw [hown, hlast]
    constructor
    · rintro ⟨d, ⟨⟩, hrefused, -⟩
      exact ⟨_, rfl, hrefused⟩
    · rintro ⟨head, ⟨⟩, hrefused⟩
      exact ⟨_, rfl, hrefused, fun h => by cases h⟩
  | started sequence headHash outcome hown hlast =>
    rw [hown, hlast]
    cases hoffer : outcome.isOk with
    | true =>
      rw [if_pos rfl]
      constructor
      · rintro ⟨d, ⟨⟩, hrefused, -⟩
        exact ⟨_, rfl, hrefused⟩
      · rintro ⟨head, ⟨⟩, hrefused⟩
        have hmem : CheckpointDecision.mk .startUp (signJournalHead identity sequence headHash)
            outcome ∈ x.checkpoints.decisions :=
          List.mem_of_mem_filter (hown ▸ List.mem_singleton_self _)
        exact absurd ⟨signJournalHead identity sequence headHash, List.mem_append_right _
          (List.mem_map.mpr ⟨_, List.mem_filter.mpr ⟨hmem, hoffer⟩, rfl⟩), rfl, rfl, rfl⟩ hrefused
    | false =>
      rw [if_neg Bool.false_ne_true]
      cases hretained : x.checkpoints.latestRetained identity.serviceId with
      | none =>
        constructor
        · rintro ⟨d, ⟨⟩, hrefused, -⟩
          exact ⟨_, rfl, hrefused⟩
        · rintro ⟨head, ⟨⟩, hrefused⟩
          exact ⟨_, rfl, hrefused, fun _ => rfl⟩
      | some retained =>
        constructor
        · rintro ⟨d, ⟨⟩, -, hnone⟩
          cases hnone rfl
        · rintro ⟨head, ⟨⟩, hrefused⟩
          exact absurd (CheckpointSink.accepted_of_latestRetained hretained) hrefused

/-- Only the engine and the decisions on heads of the Broker's have changed. -/
structure SameHeads (x x' : JournalExchange) : Prop where
  own : x'.checkpoints.own = x.checkpoints.own
  retained : x'.checkpoints.retained = x.checkpoints.retained
  last : x'.lastVerifiedHead = x.lastVerifiedHead

theorem Recalls.congr (h : Recalls identity x) (hsame : SameHeads x x') : Recalls identity x' := by
  have hretained : x'.checkpoints.latestRetained identity.serviceId =
      x.checkpoints.latestRetained identity.serviceId := by
    unfold CheckpointSink.latestRetained
    rw [hsame.retained]
  cases h with
  | retained hown hlast =>
    exact .retained (hsame.own.trans hown) (hsame.last.trans (hlast.trans hretained.symm))
  | started sequence headHash outcome hown hlast =>
    exact .started sequence headHash outcome (hsame.own.trans hown)
      (by rw [hsame.last, hlast, hretained])
  | responded sequence headHash outcome hown hlast =>
    exact .responded sequence headHash outcome ((congrArg _ hsame.own).trans hown)
      (hsame.last.trans hlast)

/-! ## One head -/

theorem verifiedAuditHead_verified (h : e.journalVerifies crypto) :
    ∃ sequence headHash, verifiedAuditHead crypto e = (.ok (sequence, headHash), e) := by
  obtain ⟨headHash, hread, -⟩ := readTail_of_verified h
  have hverify : verifyAuditChain crypto e.db.journal e.auditKeys.currentKeyId
      e.auditKeys.trustedKeys = .ok () := h
  refine ⟨e.db.journal.chain.rows.length, headHash, ?_⟩
  unfold verifiedAuditHead
  rw [hverify, bind_ok, hread]

theorem verifiedAuditHead_damaged (h : ¬e.journalVerifies crypto) :
    ∃ f, verifiedAuditHead crypto e = (.error f, { e with auditDegraded := true }) := by
  unfold verifiedAuditHead
  cases hverify : verifyAuditChain crypto e.db.journal e.auditKeys.currentKeyId
      e.auditKeys.trustedKeys with
  | error f => exact ⟨f, rfl⟩
  | ok => exact absurd hverify h

/-- A journal that verifies: its head is offered to the sink and kept, and only a read is answered
with a refused head. -/
theorem responseJournalHead_verified (h : x.engine.journalVerifies crypto) (read : Bool)
    (outcome : Except String Unit) :
    ∃ sequence headHash, ∃ b : Bool,
      let signed := signJournalHead identity sequence headHash
      let x' : JournalExchange :=
        ⟨{ x.engine with auditDegraded := x.engine.auditDegraded || b },
          x.checkpoints.append .self signed outcome, some signed⟩
      (outcome = .ok () ∨ read = true) ∧
        responseJournalHead crypto identity read outcome x = (.ok (sequence, headHash), x') ∨
      (∃ source, outcome = .error source) ∧ read = false ∧
        ∃ f, responseJournalHead crypto identity read outcome x = (.error f, x') := by
  obtain ⟨sequence, headHash, hhead⟩ := verifiedAuditHead_verified h
  unfold responseJournalHead
  rw [hhead]
  cases outcome with
  | ok =>
    refine ⟨sequence, headHash, false, .inl ⟨.inl rfl, ?_⟩⟩
    rw [Bool.or_false]
  | error source =>
    refine ⟨sequence, headHash, true, ?_⟩
    cases read with
    | true => exact .inl ⟨.inr rfl, by rw [Bool.or_true]; rfl⟩
    | false => exact .inr ⟨⟨source, rfl⟩, rfl, error .serviceUnavailable _, by rw [Bool.or_true]; rfl⟩

/-- A journal that does not verify: nothing is offered to the sink, and the head in memory is the
answer. -/
theorem responseJournalHead_damaged (h : ¬x.engine.journalVerifies crypto) (read : Bool)
    (outcome : Except String Unit) :
    let x' := { x with engine := { x.engine with auditDegraded := true } }
    (∃ head, x.lastVerifiedHead = some head ∧ responseJournalHead crypto identity read outcome x =
      (.ok (head.sequence, head.headHash), x')) ∨
    x.lastVerifiedHead = none ∧
      ∃ f, responseJournalHead crypto identity read outcome x = (.error f, x') := by
  obtain ⟨f, hhead⟩ := verifiedAuditHead_damaged h
  unfold responseJournalHead
  rw [hhead]
  cases hlast : x.lastVerifiedHead with
  | none => exact .inr ⟨rfl, _, rfl⟩
  | some head => exact .inl ⟨head, rfl, rfl⟩

/-- Only the engine and the decisions on heads of the Broker's change before the head is taken. -/
theorem checkpointRequestHead_sameHeads (method : Token) (peerHead : SignedJournalHead)
    (outcome : Except String Unit) (x : JournalExchange) :
    SameHeads x (checkpointRequestHead method peerHead outcome x).2 := by
  unfold checkpointRequestHead
  cases outcome with
  | ok => exact ⟨CheckpointSink.own_append_peer, rfl, rfl⟩
  | error source =>
    dsimp only
    split <;> exact ⟨CheckpointSink.own_append_peer, rfl, rfl⟩

section
variable {β ρ : Type}
  {dispatch : β → AuthenticatedRequestContext → Engine → Except Failure ρ × Engine}

theorem serve_sameHeads (request : AuthorityRequest β) (around : Surroundings)
    (x : JournalExchange) : SameHeads x (serve dispatch request around x).2 := by
  unfold serve
  split
  · exact ⟨rfl, rfl, rfl⟩
  next peerHead _ =>
  have hpeer : SameHeads x (checkpointRequestHead request.context.method peerHead
    around.peerOutcome x).2 := checkpointRequestHead_sameHeads _ _ _ _
  split
  · next hchecked => rwa [hchecked] at hpeer
  next hchecked =>
  rw [hchecked] at hpeer
  split
  · exact hpeer
  split
  · exact hpeer
  split
  · exact hpeer
  · exact ⟨hpeer.own, hpeer.retained, hpeer.last⟩

/-- The response to what was served carries the head that is taken then. -/
theorem dispatchAuthorityConnection_served {request : AuthorityRequest β} {around : Surroundings}
    {result : Except Failure ρ} (h : serve dispatch request around x = (.ok result, x')) :
    dispatchAuthorityConnection crypto identity dispatch request around x =
      let (head, x₂) := localJournalHead crypto identity request.context.method
        around.selfOutcome x'
      (head.map fun head => ⟨result, signJournalHead identity head.1 head.2⟩, x₂) := by
  unfold dispatchAuthorityConnection
  rw [h]
  dsimp only
  split
  · next htaken => rw [htaken]; rfl
  · next htaken => rw [htaken]; rfl

theorem responseJournalHead_degraded (h : x.engine.auditDegraded = true) (read : Bool)
    (outcome : Except String Unit) :
    (responseJournalHead crypto identity read outcome x).2.engine = x.engine := by
  have hengine (b : Bool) : { x.engine with auditDegraded := b } = x.engine ↔ b = true := by
    obtain ⟨⟨db, keys, degraded, backends⟩, sink, last⟩ := x
    cases h
    exact ⟨fun heq => congrArg Engine.auditDegraded heq, fun hb => by rw [hb]⟩
  by_cases hver : x.engine.journalVerifies crypto
  · obtain ⟨sequence, headHash, b, ⟨-, hanswer⟩ | ⟨-, -, f, hanswer⟩⟩ :=
      @responseJournalHead_verified _ identity _ hver read outcome
    · rw [hanswer]
      exact (hengine _).mpr (by rw [h, Bool.true_or])
    · rw [hanswer]
      exact (hengine _).mpr (by rw [h, Bool.true_or])
  · rcases @responseJournalHead_damaged _ identity _ hver read outcome with
      ⟨head, -, hanswer⟩ | ⟨-, f, hanswer⟩
    · rw [hanswer]
      exact (hengine true).mpr rfl
    · rw [hanswer]
      exact (hengine true).mpr rfl

/-- A mutation with a refused peer head gets no further than that refusal. -/
theorem serve_refused {request : AuthorityRequest β} {around : Surroundings}
    (hpeer : request.senderJournalHead = some peerHead)
    (hrefused : around.peerOutcome = .error source)
    (hmutation : isReadOnlyMethod request.context.method = false) (x : JournalExchange) :
    serve dispatch request around x =
      (.ok (.error (error .serviceUnavailable
        ("persist Broker audit checkpoint before dispatching mutation: " ++ source))),
      { x with
        engine := { x.engine with auditDegraded := true }
        checkpoints := x.checkpoints.append .peer peerHead (.error source) }) := by
  unfold serve checkpointRequestHead
  rw [hpeer, hrefused, hmutation]
  rfl

theorem suppresses (x : JournalExchange) (call : ExchangeCall β) :
    Suppresses crypto identity dispatch x call := by
  cases call with
  | control change outcome => trivial
  | changed change => trivial
  | request request around =>
    intro peerHead source hpeer hrefused hmutation answered
    have hanswer (dispatch' : β → AuthenticatedRequestContext → Engine → Except Failure ρ × Engine) :=
      @dispatchAuthorityConnection_served crypto identity _ _ _ _ _ _ _ _
        (@serve_refused _ _ dispatch' _ _ _ _ hpeer hrefused hmutation x)
    refine ⟨fun dispatch' => (hanswer dispatch').trans (hanswer dispatch).symm, ?_, ?_⟩
    · have hengine : answered.2.engine = _ := congrArg (·.2.engine) (hanswer dispatch)
      exact hengine.trans (responseJournalHead_degraded rfl _ _)
    · intro response hresponse
      have hresult := (congrArg Prod.fst (hanswer dispatch)).symm.trans hresponse
      obtain ⟨head, -, rfl⟩ := map_eq_ok.mp hresult
      rfl

/-- The head in a response stands when it is one the sink has taken. -/
theorem Recalls.publishes_iff (h : Recalls identity x) (call : ExchangeCall β) :
    Publishes crypto identity dispatch x call ↔ HeadStands crypto identity dispatch x call := by
  cases call with
  | control change outcome => exact Iff.rfl
  | changed change => exact Iff.rfl
  | request request around =>
    refine forall_congr' fun hmutation => ?_
    cases hserve : serve dispatch request around x with | mk served x₁ =>
    cases served with
    | error f =>
      have hnone : dispatchAuthorityConnection crypto identity dispatch request around x =
          (.error f, x₁) := by
        unfold dispatchAuthorityConnection
        rw [hserve]
      rw [hnone]
      exact ⟨fun _ _ _ heq => (by cases heq), fun _ _ _ heq => (by cases heq)⟩
    | ok result =>
      have hserved : Recalls identity x₁ := by
        have hsame := @serve_sameHeads _ _ dispatch request around x
        rw [hserve] at hsame
        exact h.congr hsame
      rw [dispatchAuthorityConnection_served hserve]
      unfold localJournalHead
      rw [hmutation]
      by_cases hver : x₁.engine.journalVerifies crypto
      · obtain ⟨sequence, headHash, b, hhead⟩ := @responseJournalHead_verified
          _ identity _ hver false around.selfOutcome
        refine ⟨fun _ result x' heq => by cases heq; exact .inl hver, fun _ => ?_⟩
        rcases hhead with ⟨htaken | hread, hanswer⟩ | ⟨-, -, f, hanswer⟩
        · rw [hanswer, htaken]
          rintro response x' ⟨⟩
          exact CheckpointSink.accepted_of_append .self (signJournalHead identity sequence headHash)
        · cases hread
        · rw [hanswer]
          intro response x' heq
          cases heq
      · rcases @responseJournalHead_damaged _ identity _ hver false
          around.selfOutcome with ⟨head, hlast, hanswer⟩ | ⟨hlast, f, hanswer⟩
        · rw [hanswer]
          constructor
          · rintro hpublishes _ _ ⟨⟩
            refine .inr fun hunsettled => ?_
            obtain ⟨head', hhead', hrefused⟩ := hserved.unsettled_iff.mp hunsettled
            cases hlast.symm.trans hhead'
            exact hrefused (hpublishes _ _ rfl)
          · rintro hstands _ _ ⟨⟩
            rcases hstands _ _ rfl with hver' | hsettled
            · exact absurd hver' hver
            · by_contra hrefused
              exact hsettled (hserved.unsettled_iff.mpr ⟨head, hlast, hrefused⟩)
        · rw [hanswer]
          constructor
          · rintro - _ _ ⟨⟩
            refine .inr fun hunsettled => ?_
            obtain ⟨head', hhead', -⟩ := hserved.unsettled_iff.mp hunsettled
            cases hlast.symm.trans hhead'
          · intro _ response x' heq
            cases heq

/-! ## Runs -/

theorem Recalls.head (h : Recalls identity x) (read : Bool) (outcome : Except String Unit) :
    Recalls identity (responseJournalHead crypto identity read outcome x).2 := by
  by_cases hver : x.engine.journalVerifies crypto
  · obtain ⟨sequence, headHash, b, h⟩ :=
      @responseJournalHead_verified _ identity _ hver read outcome
    have hresponded : Recalls identity
        ⟨{ x.engine with auditDegraded := x.engine.auditDegraded || b },
          x.checkpoints.append .self (signJournalHead identity sequence headHash) outcome,
          some (signJournalHead identity sequence headHash)⟩ := by
      refine .responded sequence headHash outcome ?_ rfl
      rw [CheckpointSink.own_append_self, List.getLast?_concat]
    rcases h with ⟨-, hanswer⟩ | ⟨-, -, f, hanswer⟩
    · rwa [hanswer]
    · rwa [hanswer]
  · rcases @responseJournalHead_damaged _ identity _ hver read outcome with
      ⟨head, -, hanswer⟩ | ⟨-, f, hanswer⟩
    · rw [hanswer]
      exact h.congr ⟨rfl, rfl, rfl⟩
    · rw [hanswer]
      exact h.congr ⟨rfl, rfl, rfl⟩

theorem Recalls.step (h : Recalls identity x) (call : ExchangeCall β) :
    Recalls identity (exchangeStep crypto identity dispatch x call) := by
  cases call with
  | control change outcome =>
    exact Recalls.head (x := { x with engine := change x.engine }) (h.congr ⟨rfl, rfl, rfl⟩) _ _
  | changed change => exact h.congr ⟨rfl, rfl, rfl⟩
  | request request around =>
    have hserved : Recalls identity (serve dispatch request around x).2 :=
      h.congr (serve_sameHeads request around x)
    show Recalls identity (dispatchAuthorityConnection crypto identity dispatch request around x).2
    unfold dispatchAuthorityConnection
    split
    · next hserve => rwa [hserve] at hserved
    next x₁ hserve =>
    rw [hserve] at hserved
    have hhead : Recalls identity
        (localJournalHead crypto identity request.context.method around.selfOutcome x₁).2 :=
      hserved.head _ _
    split
    · next htaken => rwa [htaken] at hhead
    · next htaken => rwa [htaken] at hhead

theorem Recalls.opened {heads : List SignedJournalHead}
    (h : openExchange crypto identity loaded outcome e heads = .ok x) :
    Recalls identity x := by
  unfold openExchange selectInitialSelfHead at h
  cases loaded with
  | error cause => cases h
  | ok =>
    by_cases hver : e.journalVerifies crypto
    · obtain ⟨sequence, headHash, hhead⟩ := verifiedAuditHead_verified hver
      rw [hhead] at h
      cases outcome with
      | ok =>
        cases h
        exact .started sequence headHash (.ok ()) rfl rfl
      | error source =>
        cases h
        exact .started sequence headHash (.error source) rfl rfl
    · obtain ⟨f, hhead⟩ := verifiedAuditHead_damaged hver
      rw [hhead] at h
      cases h
      exact .retained rfl rfl

/-- On one exchange, from start-up on and whatever the sink answers and happens to the engine: a
mutation whose peer head was refused is not dispatched and leaves the engine degraded; and the heads
in the responses to mutations are all ones the sink has taken exactly when each mutation has its head
taken from a journal that verifies, or after the last of the Signer's heads was one the sink has
taken. -/
theorem run_heads_checkpointed_iff (crypto : Crypto) (identity : LocalIdentity)
    (dispatch : β → AuthenticatedRequestContext → Engine → Except Failure ρ × Engine)
    (loaded outcome : Except String Unit) (e : Engine) (retained : List SignedJournalHead)
    (x₀ : JournalExchange) (hopen : openExchange crypto identity loaded outcome e retained = .ok x₀)
    (calls : List (ExchangeCall β)) :
    Guarded (exchangeStep crypto identity dispatch) (Suppresses crypto identity dispatch) x₀ calls ∧
    (Guarded (exchangeStep crypto identity dispatch) (Publishes crypto identity dispatch) x₀ calls ↔
      Guarded (exchangeStep crypto identity dispatch) (HeadStands crypto identity dispatch) x₀
        calls) := by
  have hrecalls (pre : List (ExchangeCall β)) :
      Recalls identity (run (exchangeStep crypto identity dispatch) x₀ pre) :=
    run_invariant (fun _ call h => h.step call) (Recalls.opened hopen) pre
  refine ⟨fun pre call _ _ => suppresses _ call, ?_, ?_⟩
  · intro h pre call post heq
    exact ((hrecalls pre).publishes_iff call).mp (h pre call post heq)
  · intro h pre call post heq
    exact ((hrecalls pre).publishes_iff call).mpr (h pre call post heq)

end

/-! ## A refused head that is published -/

def edgeIdentity : LocalIdentity where
  serviceId := ⟨"bloom-signer"⟩
  applicationKeyId := ⟨"signer-edge-1"⟩
  sign sequence headHash := ⟨beBytes64 sequence ++ utf8 headHash.asStr⟩

def edgeEngine : Engine where
  db := {}
  auditKeys := ⟨⟨"audit-1"⟩, ⟨[1]⟩,
    (∅ : Table Token VerifyingKey).set ⟨"audit-1"⟩ (Crypto.standIn.verifyingKey ⟨[1]⟩)⟩
  auditDegraded := false
  backends := ∅

/-- The dispatcher of an edge whose Broker only revokes wallets. -/
def edgeDispatch (request : RevokeAll) (_ : AuthenticatedRequestContext) (e : Engine) :
    Except Failure RevocationState × Engine :=
  revokeAll .standIn ⟨⟨"broker-key"⟩, ⟨[2]⟩, ⟨"revocation-key"⟩, ⟨[3]⟩⟩
    ⟨fun _ => none, fun _ => none⟩ e request

def edgeRequest (operationId : OperationId) : AuthorityRequest RevokeAll where
  body := ⟨⟨"wallet-1"⟩, operationId, 1000⟩
  context := {
    method := ⟨"sealed_approval.revoke_all"⟩
    operationId
    callerServiceId := ⟨"bloom-broker"⟩
    callerBootEpoch := ⟨"boot-1"⟩
    callerApplicationKeyId := ⟨"broker-edge-1"⟩
    sentAtMs := 1000
    deadlineMs := 2000 }
  senderJournalHead := some ⟨⟨"bloom-broker"⟩, ⟨"broker-edge-1"⟩, 0, .zero, ⟨[]⟩⟩

/-- The sink refuses the head of a committed revocation, the journal is damaged, and the Broker asks
for another revocation. -/
def refusedThenDamaged : List (ExchangeCall RevokeAll) := [
  .request (edgeRequest ⟨"revoke-1"⟩) ⟨.ok (), .error "disk full", some 1000, .ok ()⟩,
  .changed fun e => { e with db := { e.db with journal.chain :=
    ⟨[(0, ⟨"wallet.revoked", "{}", "", "", ⟨"audit-1"⟩, []⟩)], List.pairwise_singleton _ _⟩ } },
  .request (edgeRequest ⟨"revoke-2"⟩) ⟨.ok (), .ok (), some 2000, .ok ()⟩]

def edgeExchange : JournalExchange where
  engine := edgeEngine
  checkpoints := ⟨[], [⟨.startUp, signJournalHead edgeIdentity 0 .zero, .ok ()⟩]⟩
  lastVerifiedHead := some (signJournalHead edgeIdentity 0 .zero)

theorem edgeExchange_opened :
    openExchange .standIn edgeIdentity (.ok ()) (.ok ()) edgeEngine [] = .ok edgeExchange := rfl

theorem run_heads_checkpointed_iff_edge :
    Guarded (exchangeStep .standIn edgeIdentity edgeDispatch)
      (Suppresses .standIn edgeIdentity edgeDispatch) edgeExchange refusedThenDamaged ∧
    (Guarded (exchangeStep .standIn edgeIdentity edgeDispatch)
      (Publishes .standIn edgeIdentity edgeDispatch) edgeExchange refusedThenDamaged ↔
    Guarded (exchangeStep .standIn edgeIdentity edgeDispatch)
      (HeadStands .standIn edgeIdentity edgeDispatch) edgeExchange refusedThenDamaged) :=
  run_heads_checkpointed_iff .standIn edgeIdentity edgeDispatch (.ok ()) (.ok ()) edgeEngine []
    edgeExchange edgeExchange_opened refusedThenDamaged

/-- The answer to the second revocation, and the heads the sink has taken by then. -/
theorem refusedThenDamaged_answer :
    let answered := dispatchAuthorityConnection .standIn edgeIdentity edgeDispatch
      (edgeRequest ⟨"revoke-2"⟩) ⟨.ok (), .ok (), some 2000, .ok ()⟩
      (run (exchangeStep .standIn edgeIdentity edgeDispatch) edgeExchange
        (refusedThenDamaged.take 2))
    answered.1.toOption.map (·.head.sequence) = some 1 ∧
    answered.2.checkpoints.accepted.map (fun head => (head.serviceId, head.sequence)) =
      [(⟨"bloom-signer"⟩, 0), (⟨"bloom-broker"⟩, 0), (⟨"bloom-broker"⟩, 0)] := by
  decide +kernel

/-- The head that the sink refused is the head in the response to the second revocation. -/
theorem refused_head_published :
    openExchange .standIn edgeIdentity (.ok ()) (.ok ()) edgeEngine [] = .ok edgeExchange ∧
    ¬Guarded (exchangeStep .standIn edgeIdentity edgeDispatch)
      (Publishes .standIn edgeIdentity edgeDispatch) edgeExchange refusedThenDamaged := by
  refine ⟨rfl, fun h => ?_⟩
  have hlast := h (refusedThenDamaged.take 2) _ [] rfl rfl
  obtain ⟨hhead, haccepted⟩ := refusedThenDamaged_answer
  cases hanswer : dispatchAuthorityConnection .standIn edgeIdentity edgeDispatch
      (edgeRequest ⟨"revoke-2"⟩) ⟨.ok (), .ok (), some 2000, .ok ()⟩
      (run (exchangeStep .standIn edgeIdentity edgeDispatch) edgeExchange
        (refusedThenDamaged.take 2)) with | mk answer x =>
  rw [hanswer] at hhead haccepted
  cases answer with
  | error f => cases hhead
  | ok response =>
    obtain ⟨head, hmem, hservice, hsequence, -⟩ := hlast response x hanswer
    have hone : response.head.sequence = 1 := Option.some.inj hhead
    have hpair := haccepted ▸ List.mem_map_of_mem (f := fun head : SignedJournalHead =>
      (head.serviceId, head.sequence)) hmem
    rw [hservice, hsequence, hone] at hpair
    simp [edgeIdentity] at hpair

end BloomSigner.Rpc
