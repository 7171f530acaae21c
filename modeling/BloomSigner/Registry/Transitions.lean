import BloomSigner.Registry.Basic

/-! # Transitions of the derivation registry

`prepare_allocation_at` with its three ways of choosing a slot (the namespace counter, an explicit
EVM address index, and the next Solana account), and the later transitions of an allocation. Each
is a transaction body under `immediateTransaction`. -/

namespace BloomSigner.Registry

open Lib

variable {σ : Type}

/-- A request to `prepare_allocation_at`. Account and index are `u32` values; `invalidChild`
evaluates BIP-32 validity under the caller's unlocked entropy. -/
structure PrepareRequest where
  walletId : Token
  profile : String
  role : String
  account : Option Nat
  targetIndex : Option Nat
  operationId : String
  invalidChild : Nat → Nat → Bool
  nowMs : Nat

/-- The range checks made before the registry is read. -/
def PrepareRequest.validate (req : PrepareRequest) : Except Failure Unit := do
  reject (∃ account ∈ req.account, 2 ^ 31 ≤ account)
    (invalid "derivation account must fit the non-hardened BIP-32 child-number range")
  reject (∃ index ∈ req.targetIndex, 2 ^ 31 ≤ index)
    (invalid "derivation index must fit the non-hardened BIP-32 child-number range")
  reject (req.targetIndex.isSome ∧ req.profile ≠ profileEvm)
    (invalid "an explicit address index applies only to the EVM profile")

/-- An existing row answers a retry of the same request. -/
def PrepareRequest.matches (req : PrepareRequest) (existing : AllocationRow) : Bool :=
  existing.profile = req.profile && existing.role = req.role &&
    req.account.all (existing.account = ·) && req.targetIndex.all (existing.index = ·)

/-- The account under which a new reservation is made. Automatic Solana allocation advances past
every account the wallet ever used in that profile. -/
def resolveAccount (db : RegistryDb) (req : PrepareRequest) : Except Failure Nat :=
  match req.account with
  | some account => .ok account
  | none =>
    if req.profile = profileSolana then
      match highestAccount db req.walletId req.profile with
      | none => .ok 0
      | some highest =>
        if highest < 2 ^ 31 - 1 then .ok (highest + 1)
        else .error (error .limitExceededOperations
          "Solana derivation account namespace is exhausted")
    else .ok 0

def namespaceRow (db : RegistryDb) (ns : NamespaceKey) : Except Failure NamespaceRow :=
  okOr (db.namespaces.get? ns) (storage "Query returned no rows")

def isTombstoned (db : RegistryDb) (ns : NamespaceKey) (index : Nat) : Bool :=
  (db.tombstones.get? (ns, index)).isSome

/-- The slot chosen for a reservation, or the discovery that the target is an invalid child. -/
inductive Slot where
  | chosen (index : Nat) (skipped : List Nat)
  | invalidTarget (index : Nat)

def selectSlot (db : RegistryDb) (ns : NamespaceKey) (req : PrepareRequest) (start : Nat) :
    Except Failure Slot :=
  match req.targetIndex with
  | none =>
    match nextValidIndex start fun candidate =>
        isTombstoned db ns candidate || req.invalidChild ns.account candidate with
    | some (index, skipped) => .ok (.chosen index skipped)
    | none => .error (.panic "BIP-44 index space is bounded below 2^31 by the profiles")
  | some index =>
    if isTombstoned db ns index then
      .error (conflict s!"address index {index} is tombstoned and can never be allocated")
    else if req.invalidChild ns.account index then .ok (.invalidTarget index)
    else .ok (.chosen index [])

/-- The operation that holds a path of the wallet, in any role and lifecycle state. -/
def pathOwner (db : RegistryDb) (walletId : Token) (profile path : String) : Option String :=
  (db.allocations.rows.find? fun r =>
    r.1.1 = walletId ∧ r.2.profile = profile ∧ r.2.path = path).map (·.1.2)

/-- A target moves the counter to `MAX(next_index, index + 1)`; an ordinary reservation advances
it only if it still holds the value the walk started from. -/
def advanceCounter (db : RegistryDb) (ns : NamespaceKey) (req : PrepareRequest)
    (counter index : Nat) : RegistryDb :=
  { db with namespaces :=
      match req.targetIndex with
      | some _ => db.namespaces.update ns fun r =>
          { r with nextIndex := max r.nextIndex (index + 1) }
      | none => db.namespaces.modify (fun k r => k = ns ∧ r.nextIndex = counter) fun r =>
          { r with nextIndex := index + 1 } }

section
variable (sha256 : List UInt8 → Digest32) (audit : AuditRecorder σ)

/-- Record that `(account, index)` is a BIP-32 invalid child. -/
def recordInvalidChildTombstone (s : State σ) (ns : NamespaceKey) (index nowMs : Nat) :
    Except Failure Unit × State σ :=
  (.ok (), { s with db := insertTombstone s.db ns index .invalidChild nowMs })

/-- The reservation row of a new operation and its event and audit entries. -/
def reserve (s : State σ) (req : PrepareRequest) (ns : NamespaceKey) (index : Nat)
    (path : String) : Except Failure (Reservation × State σ) := do
  let keySpec ← keySpecForProfile req.profile
  let db ← insertAllocation s.db req.walletId req.operationId {
    profile := req.profile
    role := req.role
    account := ns.account
    index, path, keySpec
    state := .prepared
    publicKeySpkiDer := none
    publicKeyFingerprint := none
    authorityCommitted := false
    createdAtMs := asI64 req.nowMs
    updatedAtMs := asI64 req.nowMs }
  let db := appendEvent sha256 db req.walletId req.operationId none .prepared req.nowMs
  let journal ← audit s.journal "derivation.prepared" {
    walletId := req.walletId
    operationId := req.operationId
    profile := req.profile
    role := req.role
    account := ns.account
    index, path
    fromState := none
    toState := .prepared }
  return ({
    operationId := req.operationId
    profile := req.profile
    role := req.role
    account := ns.account
    index, path
    state := .prepared }, { db, journal })

/-- The transaction of a request whose operation id is new. -/
def prepareFresh (s : State σ) (req : PrepareRequest) :
    Except Failure (Except Failure Reservation × State σ) := do
  let account ← resolveAccount s.db req
  let ns : NamespaceKey := ⟨req.walletId, req.profile, req.role, account⟩
  let db ← ensureNamespace s.db ns
  let row ← namespaceRow db ns
  reject (row.maximumChildren ≤ liveCount db ns)
    (error .limitExceededOperations "derivation namespace is at its allocation cap")
  -- `next_index as u32`
  let counter := row.nextIndex % 2 ^ 32
  match ← selectSlot db ns req counter with
  | .invalidTarget index =>
    return (.error (error .backendInvalidRequest
        s!"address index {index} is a BIP-32 invalid child"),
      { s with db := insertTombstone db ns index .invalidChild req.nowMs })
  | .chosen index skipped =>
    let path ← resolveCanonicalPath req.profile account index
    match pathOwner db req.walletId req.profile path with
    | some owner =>
      throw (conflict
        s!"canonical derivation path '{path}' is already allocated by operation '{owner}'")
    | none =>
      let db := insertSkipped db ns skipped req.nowMs
      let db := advanceCounter db ns req counter index
      let (reservation, s') ← reserve sha256 audit { s with db } req ns index path
      return (.ok reservation, s')

/-- A retry of an operation returns its original reservation; any other operation is fresh. -/
def prepareBody (s : State σ) (req : PrepareRequest) :
    Except Failure (Except Failure Reservation × State σ) := do
  req.validate
  match loadAllocation s.db req.walletId req.operationId with
  | some existing =>
    reject (¬req.matches existing)
      (conflict "operation id was already used for a different reservation")
    return (.ok (existing.reservation req.operationId), s)
  | none => prepareFresh sha256 audit s req

/-- Reserve an index for `operation_id`. -/
def prepareAllocationAt (s : State σ) (req : PrepareRequest) :
    Except Failure Reservation × State σ :=
  immediateTransaction s (prepareBody sha256 audit s req)

/-- `prepare_allocation`: no explicit address index. -/
def prepareAllocation (s : State σ) (req : PrepareRequest) :
    Except Failure Reservation × State σ :=
  prepareAllocationAt sha256 audit s { req with targetIndex := none }

def AllocationRow.payload (row : AllocationRow) (walletId : Token) (operationId : String)
    (source : Option AllocationState) (target : AllocationState) : TransitionPayload where
  walletId := walletId
  operationId := operationId
  profile := row.profile
  role := row.role
  account := row.account
  index := row.index
  path := row.path
  fromState := source
  toState := target

/-- One lifecycle step with its event and its audit entry. -/
def advance (s : State σ) (walletId : Token) (operationId : String)
    (source target : AllocationState) (event : String) (nowMs : Nat) :
    Except Failure (State σ) := do
  let row ← allocationOf s.db walletId operationId
  let db ← transition sha256 s.db walletId operationId source target nowMs
  let journal ← audit s.journal event (row.payload walletId operationId (some source) target)
  return { db, journal }

/-- PREPARED → INDEX_COMMITTED; a retry from a later live state succeeds unchanged. -/
def commitIndex (s : State σ) (walletId : Token) (operationId : String) (nowMs : Nat) :
    Except Failure Reservation × State σ :=
  immediateTransaction s do
    let row ← allocationOf s.db walletId operationId
    match row.state with
    | .prepared =>
      let s' ← advance sha256 audit s walletId operationId .prepared .indexCommitted
        "derivation.index_committed" nowMs
      let reservation ← reservationOf s'.db walletId operationId
      return (.ok reservation, s')
    | .indexCommitted | .accountCommitted | .activated =>
      return (.ok (row.reservation operationId), s)
    | .retired | .tombstoned =>
      throw (invalid ("allocation is not in the " ++ AllocationState.prepared.asStr ++ " state"))

/-- INDEX_COMMITTED → ACCOUNT_COMMITTED, storing the public descriptor after checking it against
its fingerprint. -/
def commitAccount (s : State σ) (walletId : Token) (operationId publicKeySpkiDer : String)
    (publicKeyFingerprint : Digest32) (nowMs : Nat) : Except Failure Reservation × State σ :=
  immediateTransaction s do
    let spki ← okOr (Hex.decode publicKeySpkiDer) (invalid "descriptor is not valid hex")
    reject (sha256 spki ≠ publicKeyFingerprint)
      (invalid "public key fingerprint does not match the descriptor bytes")
    let row ← allocationOf s.db walletId operationId
    match row.state with
    | .accountCommitted | .activated => return (.ok (row.reservation operationId), s)
    | .indexCommitted =>
      let allocations := s.db.allocations.update (walletId, operationId) fun _ =>
        { row with
          state := .accountCommitted
          publicKeySpkiDer := some publicKeySpkiDer
          publicKeyFingerprint := some publicKeyFingerprint
          updatedAtMs := asI64 nowMs }
      let db := appendEvent sha256 { s.db with allocations } walletId operationId
        (some .indexCommitted) .accountCommitted nowMs
      let journal ← audit s.journal "derivation.account_committed"
        (row.payload walletId operationId (some .indexCommitted) .accountCommitted)
      let reservation ← reservationOf db walletId operationId
      return (.ok reservation, { db, journal })
    | .prepared | .retired | .tombstoned =>
      throw (invalid "allocation is not in INDEX_COMMITTED state")

/-- ACCOUNT_COMMITTED → ACTIVATED. -/
def activate (s : State σ) (walletId : Token) (operationId : String) (nowMs : Nat) :
    Except Failure PublicAccount × State σ :=
  immediateTransaction s do
    let row ← allocationOf s.db walletId operationId
    if row.state = .activated then
      let account ← publicOf s.db walletId operationId
      return (.ok account, s)
    else
      let s' ← advance sha256 audit s walletId operationId .accountCommitted .activated
        "derivation.activated" nowMs
      let account ← publicOf s'.db walletId operationId
      return (.ok account, s')

/-- ACTIVATED → RETIRED. -/
def retire (s : State σ) (walletId : Token) (operationId : String) (nowMs : Nat) :
    Except Failure Unit × State σ :=
  immediateTransaction s do
    let s' ← advance sha256 audit s walletId operationId .activated .retired
      "derivation.retired" nowMs
    return (.ok (), s')

/-- Tombstone an allocation from any other state; the tombstone row is permanent. -/
def tombstone (s : State σ) (walletId : Token) (operationId : String) (nowMs : Nat) :
    Except Failure Unit × State σ :=
  immediateTransaction s do
    let row ← allocationOf s.db walletId operationId
    if row.state = .tombstoned then return (.ok (), s)
    else
      let reason : TombstoneReason :=
        if row.state = .activated ∨ row.state = .retired then .retired else .abandoned
      let allocations := s.db.allocations.update (walletId, operationId) fun _ =>
        { row with state := .tombstoned, updatedAtMs := asI64 nowMs }
      let db := insertTombstone { s.db with allocations } (row.namespaceKey walletId) row.index
        reason nowMs
      let db := appendEvent sha256 db walletId operationId (some row.state) .tombstoned nowMs
      let journal ← audit s.journal "derivation.tombstoned"
        (row.payload walletId operationId (some row.state) .tombstoned)
      return (.ok (), { db, journal })

end

end BloomSigner.Registry
