import BloomSigner.Lib.Table
import BloomSigner.Lib.Except
import BloomSigner.Api.Error

/-! # The derivation registry

The tables behind `derivation_registry.rs` and the transitions

    PREPARED → INDEX_COMMITTED → ACCOUNT_COMMITTED → ACTIVATED → RETIRED
                           ↘ TOMBSTONED

of an allocation. Every transition is one immediate transaction: its body computes the new tables
from the old ones, and `immediateTransaction` keeps them only when the body commits. The canonical
audit journal is a sink of type `σ` that the caller's recorder extends in the same transaction. -/

namespace BloomSigner

open Lib

namespace Registry

def profileEvm : String := "bip44-evm-secp256k1-v1"
def profileSolana : String := "bip44-solana-slip10-ed25519-v1"

def roleEvmAccount : String := "evm-account"
def roleSolanaAccount : String := "solana-account"

def defaultNamespaceCap : Nat := 100

/-- Lifecycle of an allocation row. -/
inductive AllocationState where
  | prepared | indexCommitted | accountCommitted | activated | retired | tombstoned
  deriving DecidableEq, Repr

def AllocationState.asStr : AllocationState → String
  | .prepared => "PREPARED"
  | .indexCommitted => "INDEX_COMMITTED"
  | .accountCommitted => "ACCOUNT_COMMITTED"
  | .activated => "ACTIVATED"
  | .retired => "RETIRED"
  | .tombstoned => "TOMBSTONED"

inductive TombstoneReason where
  | invalidChild | retired | abandoned
  deriving DecidableEq, Repr

/-! ## Tables -/

/-- Primary key of `derivation_namespaces`. -/
structure NamespaceKey where
  walletId : Token
  profile : String
  role : String
  account : Nat
  deriving DecidableEq, Repr

structure NamespaceRow where
  nextIndex : Nat
  maximumChildren : Nat
  deriving DecidableEq, Repr

structure AllocationRow where
  profile : String
  role : String
  account : Nat
  index : Nat
  path : String
  state : AllocationState
  keySpec : String
  publicKeySpkiDer : Option String
  publicKeyFingerprint : Option Digest32
  authorityCommitted : Bool
  createdAtMs : Int
  updatedAtMs : Int
  deriving DecidableEq

/-- The namespace a row of wallet `w` belongs to. -/
def AllocationRow.namespaceKey (row : AllocationRow) (w : Token) : NamespaceKey :=
  ⟨w, row.profile, row.role, row.account⟩

structure TombstoneRow where
  reason : TombstoneReason
  createdAtMs : Int
  deriving DecidableEq, Repr

structure EventRow where
  walletId : Token
  operationId : String
  fromState : Option AllocationState
  toState : AllocationState
  previousHash : String
  entryHash : String
  recordedAtMs : Int
  deriving DecidableEq, Repr

/-- The four tables of `migrate`. An allocation is keyed by wallet and operation; the events carry
an autoincremented sequence, which is their position in the list. -/
structure RegistryDb where
  namespaces : Table NamespaceKey NamespaceRow := ∅
  allocations : Table (Token × String) AllocationRow := ∅
  tombstones : Table (NamespaceKey × Nat) TombstoneRow := ∅
  events : List EventRow := []
  deriving DecidableEq

instance : EmptyCollection RegistryDb := ⟨{}⟩

structure Reservation where
  operationId : String
  profile : String
  role : String
  account : Nat
  index : Nat
  path : String
  state : AllocationState
  deriving DecidableEq, Repr

structure PublicAccount where
  walletId : Token
  operationId : String
  profile : String
  role : String
  path : String
  account : Nat
  index : Nat
  keySpec : String
  publicKeySpkiDer : String
  publicKeyFingerprint : Digest32
  lifecycle : AllocationState
  deriving DecidableEq

/-- The audit payload of a registry transition. -/
structure TransitionPayload where
  walletId : Token
  operationId : String
  profile : String
  role : String
  account : Nat
  index : Nat
  path : String
  fromState : Option AllocationState
  toState : AllocationState
  deriving DecidableEq, Repr

/-- Extends the audit journal inside the transaction of the transition it records. -/
abbrev AuditRecorder (σ : Type) := σ → String → TransitionPayload → Except Failure σ

/-- What a registry transaction reads and writes: the registry tables and the audit journal. -/
structure State (σ : Type) where
  db : RegistryDb
  journal : σ

def invalid (message : String) : Failure := error .malformedFrame message

def conflict (message : String) : Failure := error .operationIdConflict message

/-- Runs the body of a transaction against `s`. A body that commits yields the tables it computed,
possibly together with an error for the caller; one that fails is rolled back. -/
def immediateTransaction (s : State σ) (body : Except Failure (Except Failure α × State σ)) :
    Except Failure α × State σ :=
  match body with
  | .ok committed => committed
  | .error e => (.error e, s)

section
variable (sha256 : List UInt8 → Digest32)

/-- The hash preimage of a row of the local event chain. -/
def eventPreimage (walletId : Token) (operationId : String) (fromState : Option AllocationState)
    (toState : AllocationState) (previousHash : String) : List UInt8 :=
  utf8 "bloom-derivation-event/v1" ++ utf8 walletId.asStr ++ utf8 operationId ++
    utf8 (fromState.elim "-" AllocationState.asStr) ++ utf8 toState.asStr ++ utf8 previousHash

def appendEvent (db : RegistryDb) (walletId : Token) (operationId : String)
    (fromState : Option AllocationState) (toState : AllocationState) (recordedAtMs : Nat) :
    RegistryDb :=
  let previousHash := (db.events.getLast?.map EventRow.entryHash).getD Digest32.zero.asStr
  let entryHash := sha256 (eventPreimage walletId operationId fromState toState previousHash)
  { db with events := db.events ++ [{
      walletId, operationId, fromState, toState, previousHash
      entryHash := entryHash.asStr
      recordedAtMs := asI64 recordedAtMs }] }

/-! ## Queries -/

def loadAllocation (db : RegistryDb) (walletId : Token) (operationId : String) :
    Option AllocationRow :=
  db.allocations.get? (walletId, operationId)

def allocationOf (db : RegistryDb) (walletId : Token) (operationId : String) :
    Except Failure AllocationRow :=
  okOr (loadAllocation db walletId operationId) (invalid "allocation was not found")

def AllocationRow.reservation (row : AllocationRow) (operationId : String) : Reservation where
  operationId := operationId
  profile := row.profile
  role := row.role
  account := row.account
  index := row.index
  path := row.path
  state := row.state

def reservationOf (db : RegistryDb) (walletId : Token) (operationId : String) :
    Except Failure Reservation := do
  let row ← allocationOf db walletId operationId
  return row.reservation operationId

def publicOf (db : RegistryDb) (walletId : Token) (operationId : String) :
    Except Failure PublicAccount := do
  let row ← allocationOf db walletId operationId
  reject (row.state ≠ .activated) (invalid "allocation is not activated")
  let publicKeySpkiDer ← okOr row.publicKeySpkiDer
    (invalid "activated allocation is missing its descriptor")
  let publicKeyFingerprint ← okOr row.publicKeyFingerprint
    (invalid "activated allocation is missing its fingerprint")
  return {
    walletId, operationId, publicKeySpkiDer, publicKeyFingerprint
    profile := row.profile
    role := row.role
    path := row.path
    account := row.account
    index := row.index
    keySpec := row.keySpec
    lifecycle := .activated }

/-- `SELECT MAX(f row)` over the selected rows; `none` is SQL's `NULL`. -/
def maximum (rows : List α) (f : α → Nat) : Option Nat := (rows.map f).max?

/-- The highest account of any allocation of the profile, whatever its lifecycle. -/
def highestAccount (db : RegistryDb) (walletId : Token) (profile : String) : Option Nat :=
  maximum (db.allocations.select fun k row => k.1 = walletId ∧ row.profile = profile)
    fun r => r.2.account

/-- Allocations of a namespace that are not tombstoned. -/
def liveCount (db : RegistryDb) (ns : NamespaceKey) : Nat :=
  db.allocations.count fun k row => row.namespaceKey k.1 = ns ∧ row.state ≠ .tombstoned

/-- The account number one more than every path the wallet has used in either family. -/
def nextAccountNumber (db : RegistryDb) (walletId : Token) : Except Failure Nat :=
  let evmNext := maximum
    (db.namespaces.select fun k _ =>
      k.walletId = walletId ∧ k.profile = profileEvm ∧ k.account = 0) fun r => r.2.nextIndex
  let evmTombstoneNext := maximum
    (db.tombstones.select fun k _ =>
      k.1.walletId = walletId ∧ k.1.profile = profileEvm ∧ k.1.account = 0) fun r => r.1.2 + 1
  let solanaHighest := highestAccount db walletId profileSolana
  let next := max (max (evmNext.getD 0) (evmTombstoneNext.getD 0))
    (solanaHighest.elim 0 (· + 1))
  okOr (if next < 2 ^ 31 then some next else none)
    (error .limitExceededOperations "account number space is exhausted")

/-! ## Paths and indices -/

/-- Resolve the canonical path for a profile: the only path source in the system. -/
def resolveCanonicalPath (profile : String) (account index : Nat) : Except Failure String :=
  if profile = profileEvm then .ok s!"m/44'/60'/{account}'/0/{index}"
  else if profile = profileSolana then .ok s!"m/44'/501'/{account}'/0'"
  else .error (invalid "unknown derivation profile")

def keySpecForProfile (profile : String) : Except Failure String :=
  if profile = profileEvm then .ok "secp256k1"
  else if profile = profileSolana then .ok "ed25519"
  else .error (invalid "unknown derivation profile")

/-- The loop of `next_valid_index` with `fuel` increments left before `u32` overflows; `none` is
the panic of its `checked_add`. -/
def nextValidIndexLoop (invalid : Nat → Bool) : (fuel candidate : Nat) → Option (Nat × List Nat)
  | 0, candidate => if invalid candidate then none else some (candidate, [])
  | fuel + 1, candidate =>
    if invalid candidate then
      (nextValidIndexLoop invalid fuel (candidate + 1)).map fun r => (r.1, candidate :: r.2)
    else some (candidate, [])

def nextValidIndex (start : Nat) (invalid : Nat → Bool) : Option (Nat × List Nat) :=
  nextValidIndexLoop invalid (2 ^ 32 - 1 - start) start

/-! ## Statements -/

def ensureNamespace (db : RegistryDb) (ns : NamespaceKey) : Except Failure RegistryDb := do
  reject (ns.profile ≠ profileEvm ∧ ns.profile ≠ profileSolana)
    (invalid "unknown derivation profile")
  return { db with namespaces := db.namespaces.insertIfAbsent ns ⟨0, defaultNamespaceCap⟩ }

/-- `INSERT OR IGNORE INTO derivation_tombstones`. -/
def insertTombstone (db : RegistryDb) (ns : NamespaceKey) (index : Nat)
    (reason : TombstoneReason) (nowMs : Nat) : RegistryDb :=
  { db with tombstones := db.tombstones.insertIfAbsent (ns, index) ⟨reason, asI64 nowMs⟩ }

def insertSkipped (db : RegistryDb) (ns : NamespaceKey) (skipped : List Nat) (nowMs : Nat) :
    RegistryDb :=
  skipped.foldl (fun db index => insertTombstone db ns index .invalidChild nowMs) db

/-- `INSERT INTO derivation_allocations` under its primary key and its two unique constraints. -/
def insertAllocation (db : RegistryDb) (walletId : Token) (operationId : String)
    (row : AllocationRow) : Except Failure RegistryDb := do
  reject (∃ r ∈ db.allocations.rows,
      r.2.namespaceKey r.1.1 = row.namespaceKey walletId ∧ r.2.index = row.index)
    (storage "UNIQUE constraint failed: derivation_allocations.index")
  reject (∃ r ∈ db.allocations.rows, r.1.1 = walletId ∧ r.2.profile = row.profile ∧
      r.2.role = row.role ∧ r.2.path = row.path)
    (storage "UNIQUE constraint failed: derivation_allocations.path")
  let allocations ← okOr (db.allocations.insert? (walletId, operationId) row)
    (storage "UNIQUE constraint failed: derivation_allocations.operation_id")
  return { db with allocations }

/-- Move the allocation from one state to the next, or fail when it is in neither. -/
def transition (db : RegistryDb) (walletId : Token) (operationId : String)
    (source target : AllocationState) (nowMs : Nat) : Except Failure RegistryDb := do
  let row ← okOr ((loadAllocation db walletId operationId).filter (·.state = source))
    (invalid ("allocation is not in the " ++ source.asStr ++ " state"))
  let allocations := db.allocations.update (walletId, operationId) fun _ =>
    { row with state := target, updatedAtMs := asI64 nowMs }
  return appendEvent sha256 { db with allocations } walletId operationId (some source) target nowMs

end

end Registry

end BloomSigner
