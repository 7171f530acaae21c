import BloomSigner.Audit.CachedHead
import BloomSigner.Ceremony.Signer
import BloomSigner.Registry.EventLog

/-! # Opening the engine, with a planned rotation of the audit key

A Signer that is configured with a previous audit key probes its journal under the current one. A
journal that ends under the previous key is handed over; one that verifies under neither is left as
it is. -/

namespace BloomSigner

open Lib Lib.Program

/-! ## Opening -/

/-- The version a database file is marked with, and its tables. -/
structure DatabaseFile where
  userVersion : Nat
  db : Db

structure SignerAuditKeys where
  currentKeyId : Token
  currentSigningKey : SigningKey
  historicalVerifyingKeys : Table Token VerifyingKey

/-- What the packages below read from texts and octets. -/
structure StartupEnvironment where
  crypto : Crypto
  /-- `Token::new` -/
  token : String → Except Failure Token
  /-- `VerifyingKey::from_bytes` of 32 octets -/
  point : List UInt8 → Option VerifyingKey
  zeroBootEpoch : BootEpoch

structure EngineConfig extends Config where
  ceremonyPublicKey : VerifyingKey
  backendRegistry : Backends

/-- The tables after the changes of schema that every open makes. -/
def migrate (zeroBootEpoch : BootEpoch) (db : Db) : Db :=
  backfillClockAnchors zeroBootEpoch (backfillUnambiguousWalletRootBindings db)

section
variable (env : StartupEnvironment) (config : EngineConfig)

/-- The audit key is not used for anything else. -/
def AuditKeyDistinct (keyId : Token) (key : SigningKey) : Prop :=
  ¬(keyId = config.revocationKeyId ∨
    env.crypto.verifyingKey key = env.crypto.verifyingKey config.revocationSigningKey ∨
    env.crypto.verifyingKey key = config.ceremonyPublicKey ∨
    env.crypto.verifyingKey key = config.brokerPublicKey)

instance (keyId : Token) (key : SigningKey) : Decidable (AuditKeyDistinct env config keyId key) :=
  inferInstanceAs (Decidable (¬_))

/-- `SignerEngine::open`. -/
def openSignerEngine (keys : SignerAuditKeys) : Program DatabaseFile Failure Engine := do
  let file ← .read id
  reject (2 < file.userVersion)
    (error .serviceUnavailable "Signer storage schema is newer than this binary")
  reject (¬AuditKeyDistinct env config keys.currentKeyId keys.currentSigningKey)
    (error .malformedFrame
      "Signer audit key must be distinct from revocation, ceremony, and Broker keys")
  Registry.verifyEventChain env.crypto.sha256 file.db.registry
  .write fun file => ⟨2, migrate env.zeroBootEpoch file.db⟩
  let auditKeys ← Audit.openAuditKeys env.crypto keys.currentKeyId keys.currentSigningKey
    keys.historicalVerifyingKeys
  let db ← .read (·.db)
  let engine : Engine := { db, auditKeys, auditDegraded := false, backends := config.backendRegistry }
  if engine.journalVerifies env.crypto then
    let _ ← Audit.readTail db.journal
    return engine
  else return { engine with auditDegraded := true }

/-! ## The configured keys -/

structure AuditPublicKeyConfig where
  keyId : String
  publicKeyHex : String

structure AuditStartup where
  currentAuditKeyId : Token
  currentAuditSigningKey : SigningKey
  historical : List AuditPublicKeyConfig
  previous : Option (Token × SigningKey)

def invalidKey (message : String) : Failure := error .unauthenticatedPeer message

def verifyingKeyOf (encoded : String) : Except Failure VerifyingKey := do
  let bytes ← okOr (Hex.decode encoded) (invalidKey "public key must be hexadecimal")
  reject (bytes.length ≠ 32) (invalidKey "public key must contain 32 bytes")
  okOr (env.point bytes) (invalidKey "public key encoding is invalid")

def trustHistorical (trusted : Table Token VerifyingKey) (entry : AuditPublicKeyConfig) :
    Except Failure (Table Token VerifyingKey) := do
  let keyId ← env.token entry.keyId
  let key ← verifyingKeyOf env entry.publicKeyHex
  Audit.insertTrustedAuditKey trusted keyId key

namespace AuditStartup

variable (startup : AuditStartup)

def currentKey : VerifyingKey := env.crypto.verifyingKey startup.currentAuditSigningKey

def trustPrevious (trusted : Table Token VerifyingKey) :
    Except Failure (Table Token VerifyingKey) :=
  match startup.previous with
  | none => .ok trusted
  | some (keyId, key) => do
    reject (keyId = startup.currentAuditKeyId ∨
        env.crypto.verifyingKey key = startup.currentKey env)
      (error .malformedFrame
        "Signer audit rotation previous key ID and material must differ from current key")
    reject (∃ old ∈ trusted.get? keyId, old ≠ env.crypto.verifyingKey key)
      (error .malformedFrame "Signer audit previous key conflicts with retained public key")
    return trusted.set keyId (env.crypto.verifyingKey key)

/-- The historical keys and the previous one. -/
def trusted : Except Failure (Table Token VerifyingKey) := do
  let historical ← foldE (trustHistorical env) ∅ startup.historical
  startup.trustPrevious env historical

def currentKeys (trusted : Table Token VerifyingKey) : SignerAuditKeys :=
  ⟨startup.currentAuditKeyId, startup.currentAuditSigningKey, trusted⟩

/-- The keys of an engine that still signs with the previous one. -/
def previousKeys (previous : Token × SigningKey) (trusted : Table Token VerifyingKey) :
    SignerAuditKeys :=
  ⟨previous.1, previous.2, trusted.set startup.currentAuditKeyId (startup.currentKey env)⟩

end AuditStartup

/-! ## Starting -/

/-- A method of an engine whose connection is to the database file. -/
def onDatabase (engine : Engine) (x : EngineM Unit) : Program DatabaseFile Failure Engine :=
  fun file =>
    match x engine with
    | (.ok (), engine) => (.ok engine, { file with db := engine.db })
    | (.error f, engine) => (.error f, { file with db := engine.db })

/-- With a planned rotation, opening under the current key is only a probe. The answer is the engine
to serve with, or the engine of the previous key whose journal is to be handed over. Damage is not
repaired by a rotation: the answer is then the degraded engine of the probe. -/
def probeSignerEngine (startup : AuditStartup) : Program DatabaseFile Failure (Engine ⊕ Engine) := do
  let trusted ← startup.trusted env
  let current ← openSignerEngine env config (startup.currentKeys trusted)
  match startup.previous with
  | none => return .inl current
  | some previous =>
    if current.auditDegraded = false then return .inl current
    else
      let prior ← openSignerEngine env config (startup.previousKeys env previous trusted)
      if prior.auditDegraded then
        let db ← .read (·.db)
        return .inl { current with db }
      else return .inr prior

def openOperationalSignerEngine (startup : AuditStartup) : Program DatabaseFile Failure Engine := do
  match ← probeSignerEngine env config startup with
  | .inl engine => return engine
  | .inr prior => onDatabase prior (rotateAuditKey env.crypto startup.currentAuditKeyId
      startup.currentAuditSigningKey)

/-- How far a start comes: it is complete, or the process dies before it opens the database, or
before the transaction of the rotation commits. -/
inductive StartEnd where
  | completed | diedAtOnce | diedBeforeRotation
  deriving DecidableEq

/-- The database file after a start. -/
def startEnd (startup : AuditStartup) (file : DatabaseFile) : StartEnd → DatabaseFile
  | .completed => (openOperationalSignerEngine env config startup file).2
  | .diedAtOnce => file
  | .diedBeforeRotation => (probeSignerEngine env config startup file).2

/-- The journal verifies under the configured keys and ends under this one. -/
def AuditStartup.EndsUnder (startup : AuditStartup) (keyId : Token) (journal : Audit.Journal) :
    Prop :=
  ∃ trusted, startup.trusted env = .ok trusted ∧
    Audit.verifyAuditChain env.crypto journal keyId
      (trusted.set startup.currentAuditKeyId (startup.currentKey env)) = .ok ()

end

section
variable {env : StartupEnvironment} {config : EngineConfig} {startup : AuditStartup}
  {file file' : DatabaseFile} {keys : SignerAuditKeys} {ks : Audit.AuditKeyState}

/-! ## What an open does -/

/-- The file after an open. -/
def DatabaseFile.migrated (env : StartupEnvironment) (file : DatabaseFile) : DatabaseFile :=
  ⟨2, migrate env.zeroBootEpoch file.db⟩

theorem migrate_tables (z : BootEpoch) (db : Db) : ∃ enrolledKeys anchors, migrate z db =
    { db with enrolledKeys, operationClockAnchors := anchors } := by
  unfold migrate backfillClockAnchors backfillUnambiguousWalletRootBindings
  dsimp only
  split
  · exact ⟨_, _, rfl⟩
  · exact ⟨_, _, rfl⟩

@[simp] theorem migrated_journal (file : DatabaseFile) :
    (file.migrated env).db.journal = file.db.journal := by
  obtain ⟨_, _, h⟩ := migrate_tables env.zeroBootEpoch file.db
  rw [DatabaseFile.migrated, h]

@[simp] theorem migrated_registry (file : DatabaseFile) :
    (file.migrated env).db.registry = file.db.registry := by
  obtain ⟨_, _, h⟩ := migrate_tables env.zeroBootEpoch file.db
  rw [DatabaseFile.migrated, h]

/-- An open goes through, with the audit keys `ks`. -/
structure Opens (env : StartupEnvironment) (config : EngineConfig) (keys : SignerAuditKeys)
    (file : DatabaseFile) (ks : Audit.AuditKeyState) : Prop where
  version : file.userVersion ≤ 2
  distinct : AuditKeyDistinct env config keys.currentKeyId keys.currentSigningKey
  events : Registry.verifyEventChain env.crypto.sha256 file.db.registry = .ok ()
  keys : Audit.openAuditKeys env.crypto keys.currentKeyId keys.currentSigningKey
    keys.historicalVerifyingKeys = .ok ks

/-- The engine of an open before its journal is verified. -/
def connectedEngine (env : StartupEnvironment) (config : EngineConfig) (ks : Audit.AuditKeyState)
    (file : DatabaseFile) : Engine where
  db := (file.migrated env).db
  auditKeys := ks
  auditDegraded := false
  backends := config.backendRegistry

def openedEngine (env : StartupEnvironment) (config : EngineConfig) (ks : Audit.AuditKeyState)
    (file : DatabaseFile) : Engine :=
  { connectedEngine env config ks file with
    auditDegraded := decide ¬(connectedEngine env config ks file).journalVerifies env.crypto }

theorem connectedEngine_verifies : (connectedEngine env config ks file).journalVerifies env.crypto ↔
    Audit.verifyAuditChain env.crypto file.db.journal ks.currentKeyId ks.trustedKeys = .ok () := by
  show Audit.verifyAuditChain env.crypto (file.migrated env).db.journal _ _ = _ ↔ _
  rw [migrated_journal]
  exact Iff.rfl

theorem Opens.run (h : Opens env config keys file ks) : openSignerEngine env config keys file =
    (.ok (openedEngine env config ks file), file.migrated env) := by
  unfold openSignerEngine
  rw [read_bind]
  dsimp only [id]
  rw [reject_of_not (Nat.not_lt.mpr h.version), lift_bind_ok rfl,
    reject_of_not (not_not.mpr h.distinct), lift_bind_ok rfl, h.events, lift_bind_ok rfl, write_bind,
    h.keys, lift_bind_ok rfl, read_bind]
  by_cases hver : (connectedEngine env config ks file).journalVerifies env.crypto
  · obtain ⟨head, htail, -⟩ := Audit.readTail_of_verified hver
    refine (ite_pos_apply hver).trans ?_
    rw [openedEngine, decide_eq_false (not_not.mpr hver)]
    exact lift_bind_ok htail
  · refine (ite_neg_apply hver).trans ?_
    rw [openedEngine, decide_eq_true hver]
    rfl

theorem Opens.of_ok (h : openSignerEngine env config keys file = (.ok e, file')) :
    ∃ ks, Opens env config keys file ks := by
  unfold openSignerEngine at h
  rw [read_bind] at h
  obtain ⟨_, _, hversion, h⟩ := bind_apply_eq_ok h
  rw [lift_apply, Prod.mk.injEq, reject_eq_ok] at hversion
  obtain ⟨hversion, rfl⟩ := hversion
  obtain ⟨_, _, hdistinct, h⟩ := bind_apply_eq_ok h
  rw [lift_apply, Prod.mk.injEq, reject_eq_ok, not_not] at hdistinct
  obtain ⟨hdistinct, rfl⟩ := hdistinct
  obtain ⟨_, _, hevents, h⟩ := bind_apply_eq_ok h
  rw [lift_apply, Prod.mk.injEq] at hevents
  obtain ⟨hevents, rfl⟩ := hevents
  rw [write_bind] at h
  obtain ⟨ks, _, hkeys, h⟩ := bind_apply_eq_ok h
  rw [lift_apply, Prod.mk.injEq] at hkeys
  exact ⟨ks, Nat.not_lt.mp hversion, hdistinct, hevents, hkeys.1⟩

/-! ## What an open leaves alone -/

/-- The journal and the event log are the same, and a version that opens stays one. -/
structure Alike (file file' : DatabaseFile) : Prop where
  journal : file'.db.journal = file.db.journal
  registry : file'.db.registry = file.db.registry
  version : file.userVersion ≤ 2 → file'.userVersion ≤ 2

theorem Alike.refl (file : DatabaseFile) : Alike file file := ⟨rfl, rfl, id⟩

theorem Alike.trans (a b c : DatabaseFile) (hab : Alike a b) (hbc : Alike b c) : Alike a c :=
  ⟨hbc.journal.trans hab.journal, hbc.registry.trans hab.registry, hbc.version ∘ hab.version⟩

theorem Alike.migrated (file : DatabaseFile) : Alike file (file.migrated env) :=
  ⟨migrated_journal file, migrated_registry file, fun _ => Nat.le_refl 2⟩

theorem keeps_openSignerEngine (keys : SignerAuditKeys) :
    Keeps Alike (openSignerEngine env config keys) := by
  have hlift {α : Type} (r : Except Failure α) := keeps_lift Alike.refl r
  unfold openSignerEngine
  refine Keeps.read_bind fun _ => ?_
  refine (hlift _).bind Alike.trans (fun _ => ?_) _
  refine (hlift _).bind Alike.trans fun _ => ?_
  refine (hlift _).bind Alike.trans fun _ => ?_
  refine Keeps.bind Alike.trans (fun file => Alike.migrated file) fun _ => ?_
  refine (hlift _).bind Alike.trans fun _ => ?_
  refine Keeps.read_bind fun file => Keeps.ite ?_ (keeps_pure Alike.refl _) file
  exact (hlift _).bind Alike.trans fun _ => keeps_pure Alike.refl _

theorem keeps_probeSignerEngine (env : StartupEnvironment) (config : EngineConfig)
    (startup : AuditStartup) : Keeps Alike (probeSignerEngine env config startup) := by
  unfold probeSignerEngine
  refine (keeps_lift Alike.refl _).bind Alike.trans fun _ => ?_
  refine (keeps_openSignerEngine _).bind Alike.trans fun current => ?_
  split
  · exact keeps_pure Alike.refl _
  · refine Keeps.ite (keeps_pure Alike.refl _) ?_
    refine (keeps_openSignerEngine _).bind Alike.trans fun prior => ?_
    refine Keeps.ite ?_ (keeps_pure Alike.refl _)
    exact Keeps.read_bind fun _ => Alike.refl _

theorem Opens.alike (h : Opens env config keys file ks) (halike : Alike file file') :
    Opens env config keys file' ks where
  version := halike.version h.version
  distinct := h.distinct
  events := by rw [halike.registry]; exact h.events
  keys := h.keys

/-! ## The keys of a planned rotation -/

variable {previous : Token × SigningKey} {trusted : Table Token VerifyingKey}

/-- The current and the previous key, among the keys a start trusts, fit together. -/
structure AuditStartup.Planned (env : StartupEnvironment) (startup : AuditStartup)
    (previous : Token × SigningKey) (trusted : Table Token VerifyingKey) : Prop where
  planned : startup.previous = some previous
  accepted : startup.trusted env = .ok trusted
  otherId : startup.currentAuditKeyId ≠ previous.1
  otherKey : startup.currentKey env ≠ env.crypto.verifyingKey previous.2
  trusts : trusted.get? previous.1 = some (env.crypto.verifyingKey previous.2)

theorem AuditStartup.Planned.of_trusted (hplanned : startup.previous = some previous)
    (h : startup.trusted env = .ok trusted) : startup.Planned env previous trusted := by
  have htrusted := h
  obtain ⟨historical, -, h⟩ := bind_eq_ok.mp h
  unfold AuditStartup.trustPrevious at h
  rw [hplanned] at h
  obtain ⟨_, hother, h⟩ := bind_eq_ok.mp h
  obtain ⟨_, -, h⟩ := bind_eq_ok.mp h
  cases h
  rw [reject_eq_ok, not_or] at hother
  exact ⟨hplanned, htrusted, Ne.symm hother.1, Ne.symm hother.2, (Table.get?_set _).trans (if_pos rfl)⟩

/-- The keys every journal of this start is verified under. -/
def AuditStartup.ring (env : StartupEnvironment) (startup : AuditStartup)
    (trusted : Table Token VerifyingKey) : Table Token VerifyingKey :=
  trusted.set startup.currentAuditKeyId (startup.currentKey env)

/-- The audit keys of the two engines a start may open. -/
def AuditStartup.currentState (env : StartupEnvironment) (startup : AuditStartup)
    (trusted : Table Token VerifyingKey) : Audit.AuditKeyState :=
  ⟨startup.currentAuditKeyId, startup.currentAuditSigningKey, startup.ring env trusted⟩

def AuditStartup.previousState (env : StartupEnvironment) (startup : AuditStartup)
    (previous : Token × SigningKey) (trusted : Table Token VerifyingKey) : Audit.AuditKeyState :=
  ⟨previous.1, previous.2, startup.ring env trusted⟩

namespace AuditStartup.Planned

theorem ring_previous (h : startup.Planned env previous trusted) :
    (startup.ring env trusted).get? previous.1 = some (env.crypto.verifyingKey previous.2) := by
  rw [ring, Table.get?_set, if_neg (Ne.symm h.otherId)]
  exact h.trusts

theorem endsUnder_iff (h : startup.Planned env previous trusted) :
    startup.EndsUnder env keyId journal ↔
      Audit.verifyAuditChain env.crypto journal keyId (startup.ring env trusted) = .ok () := by
  constructor
  · rintro ⟨trusted', ht, hver⟩
    rw [h.accepted, Except.ok.injEq] at ht
    subst ht
    exact hver
  · exact fun hver => ⟨trusted, h.accepted, hver⟩

theorem open_current (h : Opens env config (startup.currentKeys trusted) file ks) :
    ks = startup.currentState env trusted := by
  obtain ⟨ring, hring, hks⟩ := bind_eq_ok.mp h.keys
  obtain ⟨_, -, hring⟩ := bind_eq_ok.mp hring
  cases hring
  cases hks
  rfl

theorem open_previous (h : startup.Planned env previous trusted)
    (hopen : Opens env config (startup.previousKeys env previous trusted) file ks) :
    ks = startup.previousState env previous trusted := by
  obtain ⟨ring, hring, hks⟩ := bind_eq_ok.mp hopen.keys
  obtain ⟨_, -, hring⟩ := bind_eq_ok.mp hring
  cases hring
  cases hks
  exact congrArg (Audit.AuditKeyState.mk _ _) (Table.set_of_get? h.ring_previous)

end AuditStartup.Planned

/-! ## What a start does -/

/-- The probe of a start whose journal ends under the current key. -/
theorem probe_current (hplan : startup.Planned env previous trusted)
    (hopen : Opens env config (startup.currentKeys trusted) file ks)
    (hver : (connectedEngine env config ks file).journalVerifies env.crypto) :
    probeSignerEngine env config startup file =
      (.ok (.inl (connectedEngine env config ks file)), file.migrated env) := by
  unfold probeSignerEngine
  rw [lift_bind_ok hplan.accepted, bind_of_ok hopen.run, hplan.planned]
  refine (ite_pos_apply ?_).trans ?_
  · exact decide_eq_false (not_not.mpr hver)
  · rw [openedEngine, decide_eq_false (not_not.mpr hver)]
    rfl

/-- The probe of any other start opens the database once more, under the previous key. -/
theorem probe_other (hplan : startup.Planned env previous trusted)
    (hopen : Opens env config (startup.currentKeys trusted) file ks)
    (hver : ¬(connectedEngine env config ks file).journalVerifies env.crypto) :
    probeSignerEngine env config startup file =
      (openSignerEngine env config (startup.previousKeys env previous trusted) >>= fun prior =>
        if prior.auditDegraded then do
          let db ← .read (·.db)
          return .inl { openedEngine env config ks file with db }
        else return .inr prior) (file.migrated env) := by
  unfold probeSignerEngine
  rw [lift_bind_ok hplan.accepted, bind_of_ok hopen.run, hplan.planned]
  refine ite_neg_apply ?_
  rw [openedEngine, decide_eq_true hver]
  exact Bool.noConfusion

theorem Opens.migrated (h : Opens env config keys file ks)
    (hdistinct : AuditKeyDistinct env config keys'.currentKeyId keys'.currentSigningKey)
    (hkeys : Audit.openAuditKeys env.crypto keys'.currentKeyId keys'.currentSigningKey
      keys'.historicalVerifyingKeys = .ok ks') :
    Opens env config keys' (file.migrated env) ks' where
  version := Nat.le_refl 2
  distinct := hdistinct
  events := by rw [migrated_registry]; exact h.events
  keys := hkeys

/-- The planned rotation of an engine that is not degraded. -/
theorem rotation_run {prior : Engine} (hdegraded : prior.auditDegraded = false)
    (h : Audit.rotateAuditKey env.crypto prior.auditKeys prior.db.journal keyId key =
      .ok (auditKeys, journal)) :
    onDatabase prior (rotateAuditKey env.crypto keyId key) file =
      (.ok { prior with auditKeys, db := { prior.db with journal } },
        { file with db := { prior.db with journal } }) := by
  rw [onDatabase, rotateAuditKey, if_neg (by rw [hdegraded]; exact Bool.noConfusion), h]

/-- The engine after a rotation that fails. -/
theorem rotation_fails {prior : Engine} (hdegraded : prior.auditDegraded = false)
    (h : Audit.rotateAuditKey env.crypto prior.auditKeys prior.db.journal keyId key = .error f) :
    onDatabase prior (rotateAuditKey env.crypto keyId key) file =
      (.error f, { file with db := prior.db }) := by
  rw [onDatabase, rotateAuditKey, if_neg (by rw [hdegraded]; exact Bool.noConfusion), h]
  show (_, { file with db := (prior.fail f).db }) = _
  rw [Engine.fail_db]

theorem current_verifies :
    (connectedEngine env config (startup.currentState env trusted) file).journalVerifies
      env.crypto ↔
      Audit.verifyAuditChain env.crypto file.db.journal startup.currentAuditKeyId
        (startup.ring env trusted) = .ok () :=
  connectedEngine_verifies

theorem previous_verifies : (connectedEngine env config (startup.previousState env previous trusted)
    (file.migrated env)).journalVerifies env.crypto ↔
      Audit.verifyAuditChain env.crypto file.db.journal previous.1 (startup.ring env trusted) =
        .ok () := by
  rw [connectedEngine_verifies, migrated_journal]
  exact Iff.rfl

theorem rotation_ok {prior : Engine} (hdegraded : prior.auditDegraded = false)
    (h : onDatabase prior (rotateAuditKey env.crypto keyId key) file = (.ok e, file')) :
    Audit.rotateAuditKey env.crypto prior.auditKeys prior.db.journal keyId key =
        .ok (e.auditKeys, e.db.journal) ∧
      e.auditDegraded = false ∧ file'.db = e.db := by
  cases hrot : Audit.rotateAuditKey env.crypto prior.auditKeys prior.db.journal keyId key with
  | ok next =>
    rw [rotation_run hdegraded hrot] at h
    cases h
    exact ⟨rfl, hdegraded, rfl⟩
  | error f =>
    rw [rotation_fails hdegraded hrot] at h
    cases h

/-- What the probe of a planned rotation may find, and its answer. -/
inductive Probes (env : StartupEnvironment) (config : EngineConfig) (startup : AuditStartup)
    (previous : Token × SigningKey) (trusted : Table Token VerifyingKey) (file : DatabaseFile) :
    Engine ⊕ Engine → Prop where
  | current
      (hopen : Opens env config (startup.currentKeys trusted) file (startup.currentState env trusted))
      (hver : Audit.verifyAuditChain env.crypto file.db.journal startup.currentAuditKeyId
        (startup.ring env trusted) = .ok ()) :
      Probes env config startup previous trusted file
        (.inl (connectedEngine env config (startup.currentState env trusted) file))
  | ended
      (hopen : Opens env config (startup.currentKeys trusted) file (startup.currentState env trusted))
      (hver : Audit.verifyAuditChain env.crypto file.db.journal startup.currentAuditKeyId
        (startup.ring env trusted) ≠ .ok ())
      (hprior : Opens env config (startup.previousKeys env previous trusted) (file.migrated env)
        (startup.previousState env previous trusted))
      (hold : Audit.verifyAuditChain env.crypto file.db.journal previous.1
        (startup.ring env trusted) = .ok ()) :
      Probes env config startup previous trusted file
        (.inr (connectedEngine env config (startup.previousState env previous trusted)
          (file.migrated env)))
  | damaged
      (hopen : Opens env config (startup.currentKeys trusted) file (startup.currentState env trusted))
      (hver : Audit.verifyAuditChain env.crypto file.db.journal startup.currentAuditKeyId
        (startup.ring env trusted) ≠ .ok ())
      (hprior : Opens env config (startup.previousKeys env previous trusted) (file.migrated env)
        (startup.previousState env previous trusted))
      (hold : Audit.verifyAuditChain env.crypto file.db.journal previous.1
        (startup.ring env trusted) ≠ .ok ()) :
      Probes env config startup previous trusted file
        (.inl { openedEngine env config (startup.currentState env trusted) file with
          db := ((file.migrated env).migrated env).db })

/-- The engine of an answer of the probe. -/
def probed (answer : Engine ⊕ Engine) : Engine := answer.elim id id

namespace Probes

theorem run (hplan : startup.Planned env previous trusted)
    (h : Probes env config startup previous trusted file answer) :
    probeSignerEngine env config startup file = (.ok answer, ⟨2, (probed answer).db⟩) := by
  cases h with
  | current hopen hver => exact probe_current hplan hopen (current_verifies.mpr hver)
  | ended hopen hver hprior hold =>
    have hprev : (connectedEngine env config (startup.previousState env previous trusted)
      (file.migrated env)).journalVerifies env.crypto := previous_verifies.mpr hold
    have hdegraded := decide_eq_false (not_not.mpr hprev)
    rw [probe_other hplan hopen (mt current_verifies.mp hver), bind_of_ok hprior.run]
    refine (ite_neg_apply ?_).trans ?_
    · rw [openedEngine, hdegraded]
      exact Bool.noConfusion
    · rw [openedEngine, hdegraded]
      rfl
  | damaged hopen hver hprior hold =>
    rw [probe_other hplan hopen (mt current_verifies.mp hver), bind_of_ok hprior.run]
    exact ite_pos_apply (decide_eq_true (mt previous_verifies.mp hold))

/-- Every probe that succeeds is one of these. -/
theorem of_ok (hplanned : startup.previous = some previous)
    (h : probeSignerEngine env config startup file = (.ok answer, file')) :
    ∃ trusted, startup.Planned env previous trusted ∧
      Probes env config startup previous trusted file answer := by
  have hcurrent := h
  obtain ⟨trusted, _, ht, hcurrent⟩ := bind_apply_eq_ok hcurrent
  rw [lift_apply, Prod.mk.injEq] at ht
  obtain ⟨ht, rfl⟩ := ht
  obtain ⟨_, _, hopen, -⟩ := bind_apply_eq_ok hcurrent
  obtain ⟨ks, hopen⟩ := Opens.of_ok hopen
  have hplan := AuditStartup.Planned.of_trusted hplanned ht
  obtain rfl := AuditStartup.Planned.open_current hopen
  refine ⟨trusted, hplan, ?_⟩
  have heq : ∀ {answer'}, Probes env config startup previous trusted file answer' →
      Probes env config startup previous trusted file answer := by
    intro answer' hanswer
    rw [run hplan hanswer] at h
    cases h
    exact hanswer
  by_cases hver : (connectedEngine env config (startup.currentState env trusted) file).journalVerifies
      env.crypto
  · exact heq (.current hopen (current_verifies.mp hver))
  · have hother := h
    rw [probe_other hplan hopen hver] at hother
    obtain ⟨prior, _, hother, -⟩ := bind_apply_eq_ok hother
    obtain ⟨ks, hprior⟩ := Opens.of_ok hother
    obtain rfl := hplan.open_previous hprior
    by_cases hold : (connectedEngine env config (startup.previousState env previous trusted)
        (file.migrated env)).journalVerifies env.crypto
    · exact heq (.ended hopen (mt current_verifies.mpr hver) hprior (previous_verifies.mp hold))
    · exact heq (.damaged hopen (mt current_verifies.mpr hver) hprior (mt previous_verifies.mpr hold))

theorem journal (h : Probes env config startup previous trusted file answer) :
    (probed answer).db.journal = file.db.journal := by
  cases h with
  | current => exact migrated_journal file
  | ended => exact (migrated_journal _).trans (migrated_journal _)
  | damaged => exact (migrated_journal _).trans (migrated_journal _)

/-- A probe of a file that is alike finds the same. -/
theorem again (h : Probes env config startup previous trusted file answer)
    (halike : Alike file file') : ∃ answer',
      Probes env config startup previous trusted file' answer' ∧
      answer'.isLeft = answer.isLeft ∧ (probed answer').auditKeys = (probed answer).auditKeys := by
  have hmigrated : Alike (file.migrated env) (file'.migrated env) :=
    ⟨by rw [migrated_journal, migrated_journal, halike.journal],
      by rw [migrated_registry, migrated_registry, halike.registry], id⟩
  cases h with
  | current hopen hver =>
    rw [← halike.journal] at hver
    exact ⟨_, .current (hopen.alike halike) hver, rfl, rfl⟩
  | ended hopen hver hprior hold =>
    rw [← halike.journal] at hver hold
    exact ⟨_, .ended (hopen.alike halike) hver (hprior.alike hmigrated) hold, rfl, rfl⟩
  | damaged hopen hver hprior hold =>
    rw [← halike.journal] at hver hold
    exact ⟨_, .damaged (hopen.alike halike) hver (hprior.alike hmigrated) hold, rfl, rfl⟩

end Probes

/-- A start after a probe. -/
theorem start_of_probe (hplan : startup.Planned env previous trusted)
    (h : Probes env config startup previous trusted file answer) :
    openOperationalSignerEngine env config startup file =
      answer.elim (fun e => (.ok e, ⟨2, e.db⟩)) fun prior =>
        onDatabase prior (rotateAuditKey env.crypto startup.currentAuditKeyId
          startup.currentAuditSigningKey) ⟨2, prior.db⟩ := by
  unfold openOperationalSignerEngine
  rw [bind_of_ok (h.run hplan)]
  cases answer <;> rfl

/-- The rotation a start may come to, of an engine that is not degraded. -/
theorem Probes.answers_prior {prior : Engine}
    (h : Probes env config startup previous trusted file (.inr prior)) :
    prior.auditDegraded = false ∧ prior.auditKeys = startup.previousState env previous trusted ∧
      prior.db.journal = file.db.journal := by
  have hjournal := h.journal
  cases h
  exact ⟨rfl, rfl, hjournal⟩

/-- A start leaves the journal as it is, or hands it over from the previous key. -/
theorem start_journal (env : StartupEnvironment) (config : EngineConfig)
    (hplanned : startup.previous = some previous) (file : DatabaseFile) :
    (openOperationalSignerEngine env config startup file).2.db.journal = file.db.journal ∨
      ∃ trusted prior e file', startup.Planned env previous trusted ∧
        Probes env config startup previous trusted file (.inr prior) ∧
        openOperationalSignerEngine env config startup file = (.ok e, file') ∧ file'.db = e.db ∧
        e.auditDegraded = false ∧
        Audit.rotateAuditKey env.crypto (startup.previousState env previous trusted)
          file.db.journal startup.currentAuditKeyId startup.currentAuditSigningKey =
            .ok (e.auditKeys, e.db.journal) := by
  cases hprobe : probeSignerEngine env config startup file with
  | mk r file₁ =>
    cases r with
    | error f =>
      refine .inl ?_
      unfold openOperationalSignerEngine
      rw [bind_of_error hprobe]
      have h := keeps_probeSignerEngine env config startup file
      rw [hprobe] at h
      exact h.journal
    | ok answer =>
      obtain ⟨trusted, hplan, hfound⟩ := Probes.of_ok hplanned hprobe
      have hstart := start_of_probe hplan hfound
      cases answer with
      | inl e =>
        rw [hstart]
        exact .inl hfound.journal
      | inr prior =>
        obtain ⟨hdegraded, hkeys, hjournal⟩ := hfound.answers_prior
        cases hrot : Audit.rotateAuditKey env.crypto prior.auditKeys prior.db.journal
            startup.currentAuditKeyId startup.currentAuditSigningKey with
        | ok next =>
          rw [Sum.elim_inr, rotation_run hdegraded hrot] at hstart
          rw [hkeys, hjournal] at hrot
          exact .inr ⟨trusted, prior, _, _, hplan, hfound, hstart, rfl, hdegraded, hrot⟩
        | error f =>
          rw [Sum.elim_inr, rotation_fails hdegraded hrot] at hstart
          rw [hstart]
          exact .inl hjournal

/-- A start that succeeds, by what the journal ends under. -/
theorem start_ok_cases (hplanned : startup.previous = some previous)
    (h : openOperationalSignerEngine env config startup file = (.ok e, file')) :
    file'.db = e.db ∧ ∃ trusted, startup.Planned env previous trusted ∧
      ((startup.EndsUnder env startup.currentAuditKeyId file.db.journal ∧
          e.db.journal = file.db.journal ∧ e.auditDegraded = false ∧
          e.auditKeys = startup.currentState env trusted) ∨
        (¬startup.EndsUnder env startup.currentAuditKeyId file.db.journal ∧
          startup.EndsUnder env previous.1 file.db.journal ∧ e.auditDegraded = false ∧
          Audit.rotateAuditKey env.crypto (startup.previousState env previous trusted)
            file.db.journal startup.currentAuditKeyId startup.currentAuditSigningKey =
              .ok (e.auditKeys, e.db.journal)) ∨
        (¬startup.EndsUnder env startup.currentAuditKeyId file.db.journal ∧
          ¬startup.EndsUnder env previous.1 file.db.journal ∧
          e.db.journal = file.db.journal ∧ e.auditDegraded = true)) := by
  obtain ⟨answer, file₁, hprobe, -⟩ := bind_apply_eq_ok h
  obtain ⟨trusted, hplan, hfound⟩ := Probes.of_ok hplanned hprobe
  rw [start_of_probe hplan hfound] at h
  cases hfound with
  | current hopen hver =>
    cases h
    exact ⟨rfl, trusted, hplan, .inl ⟨hplan.endsUnder_iff.mpr hver, migrated_journal file, rfl, rfl⟩⟩
  | ended hopen hver hprior hold =>
    obtain ⟨hrot, hfresh, hdb⟩ := rotation_ok rfl h
    refine ⟨hdb, trusted, hplan, .inr (.inl ⟨mt hplan.endsUnder_iff.mp hver,
      hplan.endsUnder_iff.mpr hold, hfresh, ?_⟩)⟩
    rw [← hrot]
    show _ = Audit.rotateAuditKey _ _ ((file.migrated env).migrated env).db.journal _ _
    rw [migrated_journal, migrated_journal]
    rfl
  | damaged hopen hver hprior hold =>
    cases h
    exact ⟨rfl, trusted, hplan, .inr (.inr ⟨mt hplan.endsUnder_iff.mp hver,
      mt hplan.endsUnder_iff.mp hold, (migrated_journal _).trans (migrated_journal _),
      decide_eq_true (mt current_verifies.mp hver)⟩)⟩

/-- Starts leave alone a journal that ends under the current key, and one that is damaged. -/
def AuditStartup.Settled (env : StartupEnvironment) (startup : AuditStartup)
    (previous : Token × SigningKey) (journal : Audit.Journal) : Prop :=
  startup.EndsUnder env startup.currentAuditKeyId journal ∨
    ¬startup.EndsUnder env previous.1 journal

theorem AuditStartup.Settled.start (hsettled : startup.Settled env previous file.db.journal)
    (hplanned : startup.previous = some previous) :
    (openOperationalSignerEngine env config startup file).2.db.journal = file.db.journal := by
  rcases start_journal env config hplanned file with
    hkept | ⟨trusted, prior, e, file', hplan, hfound, -⟩
  · exact hkept
  · cases hfound with
    | ended hopen hver hprior hold =>
      rcases hsettled with hcur | hprev
      · exact absurd (hplan.endsUnder_iff.mp hcur) hver
      · exact absurd (hplan.endsUnder_iff.mpr hold) hprev

/-- A start of a file that is alike comes to the same journal. -/
theorem start_again (hplanned : startup.previous = some previous)
    (h : openOperationalSignerEngine env config startup file = (.ok e, file'))
    {file₁ : DatabaseFile} (halike : Alike file file₁) :
    (openOperationalSignerEngine env config startup file₁).2.db.journal = e.db.journal := by
  obtain ⟨answer, file₂, hprobe, -⟩ := bind_apply_eq_ok h
  obtain ⟨trusted, hplan, hfound⟩ := Probes.of_ok hplanned hprobe
  obtain ⟨answer₁, hfound₁, hside, hkeys⟩ := hfound.again halike
  rw [start_of_probe hplan hfound] at h
  rw [start_of_probe hplan hfound₁]
  cases answer with
  | inl e₀ =>
    cases answer₁ with
    | inl e₁ =>
      cases h
      exact hfound₁.journal.trans (halike.journal.trans hfound.journal.symm)
    | inr prior₁ => cases hside
  | inr prior =>
    cases answer₁ with
    | inl e₁ => cases hside
    | inr prior₁ =>
      obtain ⟨hrot, -, -⟩ := rotation_ok hfound.answers_prior.1 h
      rw [hfound.answers_prior.2.2, show prior.auditKeys = prior₁.auditKeys from hkeys.symm,
        ← halike.journal, ← hfound₁.answers_prior.2.2] at hrot
      rw [Sum.elim_inr, rotation_run hfound₁.answers_prior.1 hrot]

/-! ## Starting any number of times -/

theorem Settled.starts (hplanned : startup.previous = some previous) (ends : List StartEnd)
    (hsettled : startup.Settled env previous file.db.journal) :
    (ends.foldl (startEnd env config startup) file).db.journal = file.db.journal := by
  induction ends generalizing file with
  | nil => rfl
  | cons how ends ih =>
    have hstep : (startEnd env config startup file how).db.journal = file.db.journal := by
      cases how with
      | completed => exact hsettled.start hplanned
      | diedAtOnce => rfl
      | diedBeforeRotation => exact (keeps_probeSignerEngine env config startup file).journal
    rw [List.foldl_cons, ih (by rw [hstep]; exact hsettled), hstep]

/-- A start that was interrupted leaves a file that is alike. -/
theorem interrupted_alike (h : how ≠ .completed) :
    Alike file (startEnd env config startup file how) := by
  cases how with
  | completed => exact absurd rfl h
  | diedAtOnce => exact Alike.refl file
  | diedBeforeRotation => exact keeps_probeSignerEngine env config startup file

theorem handover_verifies (hplan : startup.Planned env previous trusted)
    (hrot : Audit.rotateAuditKey env.crypto (startup.previousState env previous trusted)
      file.db.journal startup.currentAuditKeyId startup.currentAuditSigningKey =
        .ok (auditKeys, journal)) :
    auditKeys = startup.currentState env trusted ∧
      startup.EndsUnder env startup.currentAuditKeyId journal := by
  obtain ⟨-, hkeys⟩ := Audit.rotateAuditKey_adds hrot
  have hring : (startup.ring env trusted).get? startup.currentAuditKeyId =
      some (startup.currentKey env) := (Table.get?_set _).trans (if_pos rfl)
  have hstate : auditKeys = startup.currentState env trusted :=
    hkeys.trans (congrArg (Audit.AuditKeyState.mk _ _) (Table.set_of_get? hring))
  obtain ⟨hver, -⟩ := Audit.rotateAuditKey_verified hrot
  rw [hstate] at hver
  exact ⟨hstate, hplan.endsUnder_iff.mpr hver⟩

/-- A start that succeeds leaves a journal that later starts leave alone. -/
theorem start_settles (hplanned : startup.previous = some previous)
    (h : openOperationalSignerEngine env config startup file = (.ok e, file')) :
    startup.Settled env previous e.db.journal := by
  obtain ⟨-, trusted, hplan, hcases⟩ := start_ok_cases hplanned h
  rcases hcases with ⟨hcur, hsame, -⟩ | ⟨-, -, -, hrot⟩ | ⟨-, hprev, hsame, -⟩
  · rw [hsame]
    exact .inl hcur
  · exact .inl (handover_verifies hplan hrot).2
  · rw [hsame]
    exact .inr hprev

/-- Whatever happens to the starts before, the journal of a run is the one the first complete start
comes to. -/
theorem starts_journal (hplanned : startup.previous = some previous)
    (h : openOperationalSignerEngine env config startup file = (.ok e, file'))
    {file₁ : DatabaseFile} (halike : Alike file file₁) (ends : List StartEnd) :
    (ends.foldl (startEnd env config startup) file₁).db.journal =
      if .completed ∈ ends then e.db.journal else file.db.journal := by
  induction ends generalizing file₁ with
  | nil => exact halike.journal
  | cons how ends ih =>
    rw [List.foldl_cons]
    by_cases hhow : how = .completed
    · subst hhow
      have hfirst := start_again hplanned h halike
      have hsettled := start_settles hplanned h
      rw [← hfirst] at hsettled ⊢
      rw [if_pos List.mem_cons_self]
      exact Settled.starts hplanned ends hsettled
    · rw [ih (Alike.trans _ _ _ halike (interrupted_alike hhow))]
      simp only [List.mem_cons, Ne.symm hhow, false_or]

/-- The configuration and the file pass every check a start makes before it looks at the journal. -/
def AuditStartup.Accepts (env : StartupEnvironment) (config : EngineConfig) (startup : AuditStartup)
    (previous : Token × SigningKey) (file : DatabaseFile) : Prop :=
  ∃ trusted ks, startup.trusted env = .ok trusted ∧
    Opens env config (startup.currentKeys trusted) file ks ∧
    AuditKeyDistinct env config previous.1 previous.2

/-- An accepted start succeeds as long as the journal has room for the handover. -/
theorem start_succeeds (hplanned : startup.previous = some previous)
    (haccepts : startup.Accepts env config previous file)
    (hroom : file.db.journal.chain.rows.length + 1 < 2 ^ 63) :
    ∃ e file', openOperationalSignerEngine env config startup file = (.ok e, file') := by
  obtain ⟨trusted, ks, ht, hopen, hdistinct⟩ := haccepts
  have hplan := AuditStartup.Planned.of_trusted hplanned ht
  obtain rfl := AuditStartup.Planned.open_current hopen
  have hprior : Opens env config (startup.previousKeys env previous trusted) (file.migrated env)
      (startup.previousState env previous trusted) := by
    refine hopen.migrated hdistinct ?_
    have hget := hplan.ring_previous
    show (Audit.insertTrustedAuditKey (startup.ring env trusted) previous.1 _ >>= fun _ => _) = _
    rw [Audit.insertTrustedAuditKey, reject_of_not, bind_ok]
    · exact congrArg (fun ring => Except.ok (Audit.AuditKeyState.mk _ _ ring))
        (Table.set_of_get? hget)
    · rintro ⟨old, hold, hne⟩
      rw [Option.mem_def, hget, Option.some.injEq] at hold
      exact hne hold.symm
  by_cases hver : Audit.verifyAuditChain env.crypto file.db.journal startup.currentAuditKeyId
      (startup.ring env trusted) = .ok ()
  · exact ⟨_, _, start_of_probe hplan (.current hopen hver)⟩
  · by_cases hold : Audit.verifyAuditChain env.crypto file.db.journal previous.1
        (startup.ring env trusted) = .ok ()
    · have hfound := Probes.ended hopen hver hprior hold
      obtain ⟨hdegraded, hkeys, hjournal⟩ := hfound.answers_prior
      have husable : Audit.Usable env.crypto
          ⟨startup.previousState env previous trusted, file.db.journal⟩ :=
        ⟨hold, hplan.ring_previous⟩
      have hother : env.crypto.verifyingKey startup.currentAuditSigningKey ≠
          env.crypto.verifyingKey previous.2 := hplan.otherKey
      have hfits : ∀ existing ∈ (startup.ring env trusted).get? startup.currentAuditKeyId,
          existing = env.crypto.verifyingKey startup.currentAuditSigningKey := by
        intro existing hex
        rw [Option.mem_def, AuditStartup.ring, Table.get?_set, if_pos rfl,
          Option.some.injEq] at hex
        exact hex.symm
      obtain ⟨j', first, row, hrot, -⟩ :=
        Audit.rotateAuditKey_succeeds husable hplan.otherId hother hfits hroom
      rw [← hkeys, ← hjournal] at hrot
      exact ⟨_, _, (start_of_probe hplan hfound).trans (rotation_run hdegraded hrot)⟩
    · exact ⟨_, _, start_of_probe hplan (.damaged hopen hver hprior hold)⟩

/-- A journal with entries ends under one key. -/
theorem endsUnder_unique (hplan : startup.Planned env previous trusted)
    (hne : journal.chain.rows ≠ []) (h : startup.EndsUnder env keyId journal)
    (h' : startup.EndsUnder env keyId' journal) : keyId = keyId' := by
  obtain ⟨st, hacc⟩ := Audit.verifyRows_accepted.mp (hplan.endsUnder_iff.mp h)
  obtain ⟨st', hacc'⟩ := Audit.verifyRows_accepted.mp (hplan.endsUnder_iff.mp h')
  obtain rfl : st = st' := Except.ok.inj (hacc.fold.symm.trans hacc'.fold)
  obtain ⟨row, hrow⟩ := Option.isSome_iff_exists.mp (List.getLast?_isSome.mpr hne)
  obtain ⟨-, -, hactive⟩ := hacc.last row hrow
  exact (hacc.active _ hactive).symm.trans (hacc'.active _ hactive)

/-- A planned rotation hands a journal over once, however often the Signer is started and wherever
a start is interrupted, and leaves a journal alone that verifies under neither key. -/
theorem planned_rotation_idempotent (hplanned : startup.previous = some previous) :
    (startup.Accepts env config previous file → file.db.journal.chain.rows.length + 1 < 2 ^ 63 →
      ∃ e file', openOperationalSignerEngine env config startup file = (.ok e, file')) ∧
    ∀ e file', openOperationalSignerEngine env config startup file = (.ok e, file') →
      file'.db = e.db ∧
      (file.db.journal.chain.rows ≠ [] →
        startup.EndsUnder env previous.1 file.db.journal ∨
          startup.EndsUnder env startup.currentAuditKeyId file.db.journal →
        e.auditDegraded = false ∧ e.journalVerifies env.crypto ∧
          e.auditKeys.currentKeyId = startup.currentAuditKeyId ∧
          e.auditKeys.currentSigningKey = startup.currentAuditSigningKey ∧
          (startup.EndsUnder env previous.1 file.db.journal →
            e.db.journal.rotations.rows.length = file.db.journal.rotations.rows.length + 1) ∧
          (startup.EndsUnder env startup.currentAuditKeyId file.db.journal →
            e.db.journal = file.db.journal)) ∧
      (¬startup.EndsUnder env previous.1 file.db.journal →
        ¬startup.EndsUnder env startup.currentAuditKeyId file.db.journal →
        e.auditDegraded = true ∧ e.db.journal = file.db.journal) ∧
      ∀ ends : List StartEnd, (ends.foldl (startEnd env config startup) file).db.journal =
        if .completed ∈ ends then e.db.journal else file.db.journal := by
  refine ⟨start_succeeds hplanned, fun e file' h => ?_⟩
  obtain ⟨hdb, trusted, hplan, hcases⟩ := start_ok_cases hplanned h
  refine ⟨hdb, ?_, ?_, starts_journal hplanned h (Alike.refl file)⟩
  · intro hne hends
    rcases hcases with ⟨hcur, hsame, hfresh, hkeys⟩ | ⟨hcur, hprev, hfresh, hrot⟩ |
      ⟨hcur, hprev, -⟩
    · refine ⟨hfresh, ?_, by rw [hkeys]; rfl, by rw [hkeys]; rfl, ?_, fun _ => hsame⟩
      · rw [Engine.journalVerifies, hsame, hkeys]
        exact hplan.endsUnder_iff.mp hcur
      · exact fun hprev => absurd (endsUnder_unique hplan hne hcur hprev) hplan.otherId
    · obtain ⟨hkeys, hnow⟩ := handover_verifies hplan hrot
      obtain ⟨hlength, -⟩ := Audit.rotateAuditKey_adds hrot
      refine ⟨hfresh, ?_, by rw [hkeys]; rfl, by rw [hkeys]; rfl, fun _ => hlength,
        fun h => absurd h hcur⟩
      rw [Engine.journalVerifies, hkeys]
      exact hplan.endsUnder_iff.mp hnow
    · exact (hends.elim hprev hcur).elim
  · intro hprev hcur
    rcases hcases with ⟨h, -⟩ | ⟨-, h, -⟩ | ⟨-, -, hsame, hdegraded⟩
    · exact absurd h hcur
    · exact absurd h hprev
    · exact ⟨hdegraded, hsame⟩

end

/-! ## A handover -/

def handoverEnvironment : StartupEnvironment where
  crypto := .standIn
  token s := .ok ⟨s⟩
  point bytes := some ⟨bytes⟩
  zeroBootEpoch := ⟨"boot-0"⟩

def handoverConfig : EngineConfig where
  brokerKeyId := ⟨"broker-1"⟩
  brokerPublicKey := ⟨[11]⟩
  revocationKeyId := ⟨"revocation-1"⟩
  revocationSigningKey := ⟨[12]⟩
  ceremonyPublicKey := ⟨[13]⟩
  backendRegistry := ∅

def handoverStartup : AuditStartup where
  currentAuditKeyId := ⟨"audit-2"⟩
  currentAuditSigningKey := ⟨[2]⟩
  historical := []
  previous := some (⟨"audit-1"⟩, ⟨[1]⟩)

/-- A file whose journal has one entry, under the previous key. -/
def handoverFile : DatabaseFile where
  userVersion := 2
  db := { journal := ((Audit.openAuditKeys .standIn ⟨"audit-1"⟩ ⟨[1]⟩ ∅ >>= fun keys =>
    Audit.appendAudit .standIn keys ∅ "signer.started" (.obj [])).toOption).getD ∅ }

theorem planned_rotation_idempotent_handover : ∃ e file',
    openOperationalSignerEngine handoverEnvironment handoverConfig handoverStartup handoverFile =
      (.ok e, file') ∧ e.auditDegraded = false ∧
      e.db.journal.rotations.rows.length = handoverFile.db.journal.rotations.rows.length + 1 ∧
      ([.diedBeforeRotation, .completed, .completed].foldl
        (startEnd handoverEnvironment handoverConfig handoverStartup) handoverFile).db.journal =
          e.db.journal := by
  have hplanned : handoverStartup.previous = some (⟨"audit-1"⟩, ⟨[1]⟩) := rfl
  have haccepts : handoverStartup.Accepts handoverEnvironment handoverConfig
      (⟨"audit-1"⟩, ⟨[1]⟩) handoverFile :=
    ⟨_, _, rfl, ⟨Nat.le_refl 2, by decide, rfl, rfl⟩, by decide⟩
  have hends : handoverStartup.EndsUnder handoverEnvironment ⟨"audit-1"⟩
      handoverFile.db.journal := ⟨_, rfl, rfl⟩
  obtain ⟨e, file', hstart⟩ := (planned_rotation_idempotent hplanned).1 haccepts (by decide)
  obtain ⟨-, hverifies, -, hstarts⟩ := (planned_rotation_idempotent hplanned).2 e file' hstart
  obtain ⟨hfresh, -, -, -, hone, -⟩ := hverifies (by decide) (.inl hends)
  exact ⟨e, file', hstart, hfresh, hone hends, hstarts _⟩

end BloomSigner
