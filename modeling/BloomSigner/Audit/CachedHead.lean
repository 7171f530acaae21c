import BloomSigner.Audit.Rotation

/-! # The cached audit head

The engine keeps the tail it last verified and the tail its last `append_audit` left pending, each
stamped with the connection's `data_version` and `total_changes`. A connection here is a view of
the journal under these two counters: a foreign commit moves `data_version`, every row this
connection changes moves `total_changes`, and neither counter is taken back by a rollback. The
connection mutex keeps head queries and foreign commits outside this connection's transactions. -/

namespace BloomSigner.Audit

open Lib

structure VerifiedAuditTail where
  sequence : Nat
  headHash : Digest32
  dataVersion : Nat
  totalChanges : Nat
  deriving DecidableEq

structure AuditTailState where
  verified : Option VerifiedAuditTail
  pending : Option VerifiedAuditTail
  deriving DecidableEq

/-- One database connection of the engine with the audit state it keeps in memory. `saved` holds
the committed journal while a transaction is open. -/
structure Connection where
  journal : Journal
  saved : Option Journal
  dataVersion : Nat
  totalChanges : Nat
  keys : AuditKeyState
  tail : AuditTailState

/-- Entry count and head hash of a journal; an empty journal has the zero digest. -/
def readTail (journal : Journal) : Except Failure (Nat × Digest32) :=
  match journal.chain.rows.getLast? with
  | none => .ok (0, .zero)
  | some (sequence, entry) => do
    reject (sequence < 0) (malformed "out of range integral type conversion attempted")
    let count ← okOr (checkedAdd64 sequence.toNat 1) (malformed "audit entry count overflow")
    let head ← okOr (Digest32.parse entry.entryHash) (malformed "invalid digest")
    return (count, head)

def readVerifiedAuditTail (c : Connection) : Except Failure VerifiedAuditTail := do
  let (sequence, headHash) ← readTail c.journal
  return { sequence, headHash, dataVersion := c.dataVersion, totalChanges := c.totalChanges }

section
variable (crypto : Crypto)

/-- The journal verifies under the connection's keys. -/
def Connection.verify (c : Connection) (journal : Journal) : Except Failure Unit :=
  verifyAuditChain crypto journal c.keys.currentKeyId c.keys.trustedKeys

/-- `SignerEngine::append_audit` inside an open transaction. -/
def Connection.appendAudit (c : Connection) (eventType : String) (payload : Json) :
    Except Failure Unit × Connection :=
  match Audit.appendAudit crypto c.keys c.journal eventType payload with
  | .error e => (.error e, c)
  | .ok journal =>
    let c := { c with journal, totalChanges := c.totalChanges + 1 }
    match readVerifiedAuditTail c with
    | .error e => (.error e, c)
    | .ok pending =>
      let dataVersion := c.tail.verified.elim pending.dataVersion (·.dataVersion)
      (.ok (), { c with tail.pending := some { pending with dataVersion } })

/-- The tail is stamped with the counters and shows the tail of what is observed. -/
def VerifiedAuditTail.matches (tail observed : VerifiedAuditTail) : Bool :=
  tail.dataVersion = observed.dataVersion && tail.totalChanges = observed.totalChanges &&
    tail.sequence = observed.sequence && tail.headHash = observed.headHash

/-- `SignerEngine::cached_audit_head`. -/
def cachedAuditHead (c : Connection) : Except Failure (Nat × Digest32) × Connection :=
  match readVerifiedAuditTail c with
  | .error e => (.error e, c)
  | .ok observed =>
    match c.tail.verified.filter (·.matches observed) with
    | some verified => (.ok (verified.sequence, verified.headHash), c)
    | none =>
      match c.tail.pending.filter fun pending => pending.matches observed &&
          c.tail.verified.any (·.dataVersion = observed.dataVersion) with
      | some promoted =>
        (.ok (promoted.sequence, promoted.headHash),
          { c with tail := { verified := some promoted, pending := none } })
      | none =>
        match c.verify crypto c.journal, readVerifiedAuditTail c with
        | .error e, _ => (.error e, c)
        | .ok (), .error e => (.error e, c)
        | .ok (), .ok verified =>
          (.ok (verified.sequence, verified.headHash),
            { c with tail := { verified := some verified, pending := none } })

/-- The connection an engine opens on a journal, at whatever counters the database reports. -/
def openConnection (keys : AuditKeyState) (journal : Journal) (dataVersion totalChanges : Nat) :
    Except Failure Connection := do
  let c : Connection := {
    journal, dataVersion, totalChanges, keys
    saved := none
    tail := ⟨none, none⟩ }
  match c.verify crypto journal with
  | .error _ => return c
  | .ok () =>
    let verified ← readVerifiedAuditTail c
    return { c with tail.verified := some verified }

/-- What can happen on the connection or beside it. Statements that leave the audit tables alone
change `changes` rows of other tables; a failed rotation or restore has changed `spent` rows before
it was rolled back; a foreign commit may leave any journal. -/
inductive ConnectionCall where
  | begin
  | statement (changes : Nat)
  | appendAudit (eventType : String) (payload : Json)
  | restoreAuditEntries (entries : List AuditEntryBackup) (rotations : List AuditRotationBackup)
      (spent : Nat)
  | commit
  | rollback
  | rotateAuditKey (newKeyId : Token) (newSigningKey : SigningKey) (spent : Nat)
  | foreignCommit (journal : Journal) (bump : Nat)
  | cachedAuditHead

/-- The number of audit rows by which `j'` is larger than `j`. -/
def rowsInserted (j j' : Journal) : Nat :=
  j'.chain.rows.length - j.chain.rows.length +
    (j'.rotations.rows.length - j.rotations.rows.length)

def connectionStep (c : Connection) : ConnectionCall → Connection
  | .begin => if c.saved.isSome then c else { c with saved := some c.journal }
  | .statement changes => { c with totalChanges := c.totalChanges + changes }
  | .appendAudit eventType payload =>
    if c.saved.isSome then (c.appendAudit crypto eventType payload).2 else c
  | .restoreAuditEntries entries rotations spent =>
    if c.saved.isSome then
      match restoreAuditEntries crypto c.journal entries rotations c.keys.currentKeyId
          c.keys.trustedKeys with
      | .ok journal =>
        { c with journal, totalChanges := c.totalChanges + rowsInserted c.journal journal }
      | .error _ => { c with totalChanges := c.totalChanges + spent }
    else c
  | .commit => { c with saved := none }
  | .rollback => { c with journal := c.saved.getD c.journal, saved := none }
  | .rotateAuditKey newKeyId newSigningKey spent =>
    if c.saved.isSome then c
    else
      match rotateAuditKey crypto c.keys c.journal newKeyId newSigningKey with
      | .ok (keys, journal) =>
        { c with keys, journal, totalChanges := c.totalChanges + rowsInserted c.journal journal }
      | .error _ => { c with totalChanges := c.totalChanges + spent }
  | .foreignCommit journal bump =>
    if c.saved.isSome then c else { c with journal, dataVersion := c.dataVersion + bump + 1 }
  | .cachedAuditHead => if c.saved.isSome then c else (cachedAuditHead crypto c).2

end

variable {crypto : Crypto} {c c' : Connection} {j : Journal}

/-! ## Tails of verified journals -/

theorem readTail_of_verified (h : verifyAuditChain crypto j keyId keys = .ok ()) :
    ∃ head, readTail j = .ok (j.chain.rows.length, head) ∧
      (j.chain.rows = [] → head = .zero) ∧
      ∀ r ∈ j.chain.rows.getLast?, r.2.entryHash = head.asStr := by
  obtain ⟨st, hacc⟩ := verifyRows_accepted.mp h
  have hbound : st.expectedSequence < 2 ^ 64 :=
    foldE_invariant (P := fun st : VerifyState => st.expectedSequence < 2 ^ 64)
      (fun b row _ b' hb _ => by
        obtain ⟨used, hok, rfl⟩ := verifyRow_eq_ok.mp hb
        exact hok.room) hacc.fold (by decide)
  refine ⟨st.expectedPreviousHash, ?_, fun hnil => by rw [hacc.empty hnil]; rfl,
    fun r hr => (hacc.last r hr).1⟩
  rw [← hacc.sequence, readTail]
  cases hlast : j.chain.rows.getLast? with
  | none => rw [hacc.empty (List.getLast?_eq_none_iff.mp hlast)]; rfl
  | some r =>
    obtain ⟨hhash, hseq, -⟩ := hacc.last r hlast
    have hpos := (foldE_verifyRow_mem hacc.fold r (List.mem_of_getLast? hlast)).1
    have hadd : checkedAdd64 r.1.toNat 1 = some st.expectedSequence :=
      checkedAdd64_eq_some.mpr ⟨by omega, by omega⟩
    show (reject (r.1 < 0) _ >>= fun _ => _) = _
    rw [reject_of_not (by omega), bind_ok, hadd, okOr_some, bind_ok, hhash, Digest32.parse_asStr]
    rfl

theorem readTail_ok (h : readTail j = .ok (count, head)) :
    j.chain.rows = [] ∧ count = 0 ∨
      ∃ r ∈ j.chain.rows, (count : Int) = r.1 + 1 := by
  unfold readTail at h
  split at h
  · next hlast => cases h; exact .inl ⟨List.getLast?_eq_none_iff.mp hlast, rfl⟩
  · next sequence entry hlast =>
    obtain ⟨_, hpos, h⟩ := bind_eq_ok.mp h
    obtain ⟨n, hn, h⟩ := bind_eq_ok.mp h
    obtain ⟨_, -, h⟩ := bind_eq_ok.mp h
    cases h
    obtain ⟨rfl, -⟩ := checkedAdd64_eq_some.mp (okOr_eq_ok.mp hn)
    rw [reject_eq_ok] at hpos
    exact .inr ⟨_, List.mem_of_getLast? hlast, by dsimp only; omega⟩

theorem readVerifiedAuditTail_ok (h : readVerifiedAuditTail c = .ok t) :
    readTail c.journal = .ok (t.sequence, t.headHash) ∧ t.dataVersion = c.dataVersion ∧
      t.totalChanges = c.totalChanges := by
  obtain ⟨p, hp, h⟩ := bind_eq_ok.mp h
  cases h
  exact ⟨hp, rfl, rfl⟩

theorem VerifiedAuditTail.matches_iff {t o : VerifiedAuditTail} :
    t.matches o = true ↔ t = o := by
  obtain ⟨a, b, d, e⟩ := t
  obtain ⟨a', b', d', e'⟩ := o
  simp only [VerifiedAuditTail.matches, Bool.and_eq_true, decide_eq_true_eq,
    VerifiedAuditTail.mk.injEq]
  tauto

/-! ## The invariant -/

/-- The journal of a connection and the one a rollback would bring back. -/
def Connection.views (c : Connection) : List Journal := c.journal :: c.saved.toList

/-- A tail whose counters are current vouches for the journal, or visibly does not match it. -/
def Vouches (crypto : Crypto) (c : Connection) (tail : VerifiedAuditTail) (journal : Journal) :
    Prop :=
  c.verify crypto journal = .ok () ∨
    ∀ count head, readTail journal = .ok (count, head) → count ≠ tail.sequence

/-- What the stamps on the tails guarantee about the views of the journal. -/
structure TailInv (crypto : Crypto) (c : Connection) : Prop where
  pinned : c.keys.trustedKeys.get? c.keys.currentKeyId =
    some (crypto.verifyingKey c.keys.currentSigningKey)
  verified_le : ∀ t ∈ c.tail.verified,
    t.dataVersion ≤ c.dataVersion ∧ t.totalChanges ≤ c.totalChanges
  pending_le : ∀ t ∈ c.tail.pending,
    t.dataVersion ≤ c.dataVersion ∧ t.totalChanges ≤ c.totalChanges
  verified_sound : ∀ t ∈ c.tail.verified, t.dataVersion = c.dataVersion →
    t.totalChanges = c.totalChanges → ∀ j ∈ c.views, c.verify crypto j = .ok ()
  pending_sound : ∀ t ∈ c.tail.pending, t.dataVersion = c.dataVersion →
    t.totalChanges = c.totalChanges → ∀ j ∈ c.views, Vouches crypto c t j
  saved_subset : ∀ j ∈ c.saved, ∀ r ∈ j.chain.rows, r ∈ c.journal.chain.rows

/-- Steps that leave the tails alone keep the invariant when, as long as neither counter moves,
every view verifies anew or was a view before. -/
theorem TailInv.transfer (hinv : TailInv crypto c) (htail : c'.tail = c.tail)
    (hdv : c.dataVersion ≤ c'.dataVersion) (htc : c.totalChanges ≤ c'.totalChanges)
    (hpin : c'.keys.trustedKeys.get? c'.keys.currentKeyId =
      some (crypto.verifyingKey c'.keys.currentSigningKey))
    (hviews : c'.dataVersion = c.dataVersion → c'.totalChanges = c.totalChanges →
      ∀ j ∈ c'.views, c'.verify crypto j = .ok () ∨ c'.keys = c.keys ∧ j ∈ c.views)
    (hsub : ∀ j ∈ c'.saved, ∀ r ∈ j.chain.rows, r ∈ c'.journal.chain.rows) :
    TailInv crypto c' := by
  refine ⟨hpin, ?_, ?_, ?_, ?_, hsub⟩
  · intro t ht
    have := hinv.verified_le t (htail ▸ ht)
    omega
  · intro t ht
    have := hinv.pending_le t (htail ▸ ht)
    omega
  · intro t ht hd hc j hj
    rw [htail] at ht
    have hle := hinv.verified_le t ht
    rcases hviews (by omega) (by omega) j hj with hver | ⟨hkeys, hold⟩
    · exact hver
    · rw [Connection.verify, hkeys]
      exact hinv.verified_sound t ht (by omega) (by omega) j hold
  · intro t ht hd hc j hj
    rw [htail] at ht
    have hle := hinv.pending_le t ht
    rcases hviews (by omega) (by omega) j hj with hver | ⟨hkeys, hold⟩
    · exact .inl hver
    · rw [Vouches, Connection.verify, hkeys]
      exact hinv.pending_sound t ht (by omega) (by omega) j hold

/-! ## Steps -/

/-- Restoring entries only adds rows. -/
theorem restoreAuditEntries_ok {j' : Journal}
    (h : restoreAuditEntries crypto j entries rotations keyId keys = .ok j') :
    verifyAuditChain crypto j' keyId keys = .ok () ∧
      ∀ r ∈ j.chain.rows, r ∈ j'.chain.rows := by
  obtain ⟨current, -, h⟩ := bind_eq_ok.mp h
  obtain ⟨_, -, h⟩ := bind_eq_ok.mp h
  obtain ⟨_, -, h⟩ := bind_eq_ok.mp h
  obtain ⟨collected, -, h⟩ := bind_eq_ok.mp h
  obtain ⟨_, -, h⟩ := bind_eq_ok.mp h
  obtain ⟨j₁, h₁, h⟩ := bind_eq_ok.mp h
  obtain ⟨j₂, h₂, h⟩ := bind_eq_ok.mp h
  split at h
  · next hver =>
    cases h
    refine ⟨hver, fun r hr => ?_⟩
    have hmem₁ : r ∈ j₁.chain.rows :=
      foldE_invariant (P := fun j : Journal => r ∈ j.chain.rows)
        (fun b e _ b' hb hmem =>
          (Ordered.mem_insertRow (Ordered.rows_insert? (insertEntry_ok hb).2.1)).mpr (.inr hmem))
        h₁ hr
    exact foldE_invariant (P := fun j : Journal => r ∈ j.chain.rows)
      (fun b e _ b' hb hmem => by rw [(insertRotation_ok hb).2.2.2]; exact hmem) h₂ hmem₁
  · cases h

/-- Appending inside a transaction leaves a pending tail that vouches for the extended journal
and is longer than the journal a rollback would bring back. -/
theorem TailInv.appendAudit (hinv : TailInv crypto c) (event : String) (payload : Json) :
    TailInv crypto (c.appendAudit crypto event payload).2 := by
  unfold Connection.appendAudit
  cases happ : Audit.appendAudit crypto c.keys c.journal event payload with
  | error e => exact hinv
  | ok journal =>
    obtain ⟨st, hacc, hseq, hrot, hrows⟩ := appendAuditEntry_ok (appendAudit_eq_ok.mp happ)
    have hmoved : TailInv crypto
        { c with journal := journal, totalChanges := c.totalChanges + 1 } := by
      refine hinv.transfer rfl (Nat.le_refl _) (Nat.le_succ _) hinv.pinned
        (fun _ h => absurd h (Nat.succ_ne_self _)) fun j hj r hr => ?_
      rw [hrows]
      exact List.mem_append_left _ (hinv.saved_subset j hj r hr)
    dsimp only
    cases htail : readVerifiedAuditTail
        { c with journal := journal, totalChanges := c.totalChanges + 1 } with
    | error e => exact hmoved
    | ok pending =>
      obtain ⟨hread, hpdv, hptc⟩ := readVerifiedAuditTail_ok htail
      have hver : c.verify crypto journal = .ok () := by
        rw [Connection.verify, verifyAuditChain, hrows, hrot]
        exact verify_signedRow hacc hseq hinv.pinned
      have hcount : pending.sequence = c.journal.chain.rows.length + 1 := by
        obtain ⟨head, hhead, -⟩ := readTail_of_verified hver
        have hlen := (Prod.mk.inj (Except.ok.inj (hread.symm.trans hhead))).1
        rw [hlen, hrows, List.length_append, List.length_singleton]
      refine { hmoved with pending_le := ?_, pending_sound := ?_ }
      · rintro t ⟨⟩
        refine ⟨?_, hptc.le⟩
        dsimp only
        cases hv : c.tail.verified with
        | none => exact hpdv.le
        | some v => exact (hinv.verified_le v hv).1
      · rintro t ⟨⟩ - - j hj
        rcases List.mem_cons.mp hj with rfl | hj
        · exact .inl hver
        · -- the rows a rollback restores are among those verified before the append
          refine .inr fun count head hcount' he => ?_
          have hlen : (st.expectedSequence : Int) = c.journal.chain.rows.length := by
            exact_mod_cast hacc.sequence
          rcases readTail_ok hcount' with ⟨-, rfl⟩ | ⟨r, hr, hr'⟩
          · exact absurd (he.trans hcount) (Nat.succ_ne_zero _).symm
          · have := (foldE_verifyRow_mem hacc.fold r
              (hinv.saved_subset j (Option.mem_toList.mp hj) r hr)).2.1
            dsimp only at he
            omega

theorem TailInv.cachedAuditHead (hinv : TailInv crypto c) (hidle : c.saved = none) :
    TailInv crypto (cachedAuditHead crypto c).2 ∧
    ∀ count head, (Audit.cachedAuditHead crypto c).1 = .ok (count, head) →
      c.verify crypto c.journal = .ok () ∧ readTail c.journal = .ok (count, head) := by
  have hviews : c.views = [c.journal] := by rw [Connection.views, hidle]; rfl
  -- a tail just read from a verified journal may become the verified one
  have hrecord (t : VerifiedAuditTail) (ht : readVerifiedAuditTail c = .ok t)
      (hver : c.verify crypto c.journal = .ok ()) :
      TailInv crypto { c with tail := ⟨some t, none⟩ } := by
    obtain ⟨-, hdv, htc⟩ := readVerifiedAuditTail_ok ht
    refine { hinv with verified_le := ?_, pending_le := ?_, verified_sound := ?_,
                       pending_sound := ?_ }
    · rintro t' ⟨⟩; exact ⟨hdv.le, htc.le⟩
    · rintro t' ⟨⟩
    · rintro t' ⟨⟩ - - j hj
      obtain rfl : j = c.journal := by
        have : j ∈ c.views := hj
        rwa [hviews, List.mem_singleton] at this
      exact hver
    · rintro t' ⟨⟩
  unfold Audit.cachedAuditHead
  cases hobs : readVerifiedAuditTail c with
  | error e => exact ⟨hinv, fun _ _ h => by cases h⟩
  | ok observed =>
    obtain ⟨hread, hdv, htc⟩ := readVerifiedAuditTail_ok hobs
    dsimp only
    split
    · next verified hver =>
      obtain ⟨hmem, hmatch⟩ := Option.filter_eq_some_iff.mp hver
      obtain rfl := VerifiedAuditTail.matches_iff.mp hmatch
      refine ⟨hinv, fun count head h => ?_⟩
      cases h
      exact ⟨hinv.verified_sound verified hmem hdv htc _ (by simp [hviews]), hread⟩
    · split
      · next promoted hpend =>
        obtain ⟨hmem, hmatch⟩ := Option.filter_eq_some_iff.mp hpend
        rw [Bool.and_eq_true] at hmatch
        obtain rfl := VerifiedAuditTail.matches_iff.mp hmatch.1
        have hver : c.verify crypto c.journal = .ok () :=
          (hinv.pending_sound promoted hmem hdv htc _ (by simp [hviews])).resolve_right
            fun h => h _ _ hread rfl
        refine ⟨hrecord promoted hobs hver, fun count head h => ?_⟩
        cases h
        exact ⟨hver, hread⟩
      · split
        · exact ⟨hinv, fun _ _ h => by cases h⟩
        · exact ⟨hinv, fun _ _ h => by cases h⟩
        · next verified hver hobs' =>
          cases hobs'
          refine ⟨hrecord observed hobs hver, fun count head h => ?_⟩
          cases h
          exact ⟨hver, hread⟩

theorem TailInv.step (hinv : TailInv crypto c) (call : ConnectionCall) :
    TailInv crypto (connectionStep crypto c call) := by
  cases call with
  | «begin» =>
    simp only [connectionStep]
    split
    · exact hinv
    · refine hinv.transfer rfl (Nat.le_refl _) (Nat.le_refl _) hinv.pinned
        (fun _ _ j hj => .inr ⟨rfl, ?_⟩) ?_
      · simp only [Connection.views, Option.toList_some, List.mem_cons, List.not_mem_nil, or_false,
          or_self] at hj
        rw [hj]
        exact List.mem_cons_self
      · rintro j ⟨⟩ r hr
        exact hr
  | statement changes =>
    exact hinv.transfer rfl (Nat.le_refl _) (Nat.le_add_right _ _) hinv.pinned
      (fun _ _ j hj => .inr ⟨rfl, hj⟩) hinv.saved_subset
  | appendAudit event payload =>
    simp only [connectionStep]
    split
    · exact hinv.appendAudit event payload
    · exact hinv
  | restoreAuditEntries entries rotations spent =>
    simp only [connectionStep]
    split
    · split
      · next journal hres =>
        obtain ⟨hver, hmem⟩ := restoreAuditEntries_ok hres
        refine hinv.transfer rfl (Nat.le_refl _) (Nat.le_add_right _ _) hinv.pinned
          (fun _ _ j hj => ?_) fun j hj r hr => hmem r (hinv.saved_subset j hj r hr)
        rcases List.mem_cons.mp hj with rfl | hj
        · exact .inl hver
        · exact .inr ⟨rfl, List.mem_cons_of_mem _ hj⟩
      · exact hinv.transfer rfl (Nat.le_refl _) (Nat.le_add_right _ _) hinv.pinned
          (fun _ _ j hj => .inr ⟨rfl, hj⟩) hinv.saved_subset
    · exact hinv
  | commit =>
    refine hinv.transfer rfl (Nat.le_refl _) (Nat.le_refl _) hinv.pinned
      (fun _ _ j hj => .inr ⟨rfl, ?_⟩) fun j hj => by cases hj
    rw [show j = c.journal from List.mem_singleton.mp hj]
    exact List.mem_cons_self
  | rollback =>
    refine hinv.transfer rfl (Nat.le_refl _) (Nat.le_refl _) hinv.pinned
      (fun _ _ j hj => .inr ⟨rfl, ?_⟩) fun j hj => by cases hj
    rw [show j = c.saved.getD c.journal from List.mem_singleton.mp hj]
    cases hs : c.saved with
    | none => exact List.mem_cons_self
    | some saved => simp [Connection.views, hs]
  | rotateAuditKey newKeyId newKey spent =>
    simp only [connectionStep]
    split
    · exact hinv
    · next hidle =>
      have hnone : c.saved = none := by simpa using hidle
      split
      · next keys journal hrot =>
        obtain ⟨hver, hpin⟩ := rotateAuditKey_verified hrot
        refine hinv.transfer rfl (Nat.le_refl _) (Nat.le_add_right _ _) hpin
          (fun _ _ j hj => .inl ?_) fun j hj => by rw [hnone] at hj; cases hj
        simp only [Connection.views, hnone, Option.toList_none, List.mem_singleton] at hj
        rw [hj]
        exact hver
      · exact hinv.transfer rfl (Nat.le_refl _) (Nat.le_add_right _ _) hinv.pinned
          (fun _ _ j hj => .inr ⟨rfl, hj⟩) hinv.saved_subset
  | foreignCommit journal bump =>
    simp only [connectionStep]
    split
    · exact hinv
    · next hidle =>
      have hnone : c.saved = none := by simpa using hidle
      exact hinv.transfer rfl (by dsimp only; omega) (Nat.le_refl _) hinv.pinned
        (fun h _ => by dsimp only at h; omega) fun j hj => by rw [hnone] at hj; cases hj
  | cachedAuditHead =>
    simp only [connectionStep]
    split
    · exact hinv
    · next hidle => exact (hinv.cachedAuditHead (by simpa using hidle)).1

theorem TailInv.opened {ks : AuditKeyState}
    (hpin : ks.trustedKeys.get? ks.currentKeyId = some (crypto.verifyingKey ks.currentSigningKey))
    (h : openConnection crypto ks j dv tc = .ok c) : TailInv crypto c ∧ c.saved = none := by
  unfold openConnection at h
  dsimp only at h
  split at h
  · cases h
    refine ⟨⟨hpin, ?_, ?_, ?_, ?_, ?_⟩, rfl⟩ <;> rintro t ⟨⟩
  · next hver =>
    obtain ⟨t, ht, h⟩ := bind_eq_ok.mp h
    cases h
    obtain ⟨-, hdv, htc⟩ := readVerifiedAuditTail_ok ht
    refine ⟨⟨hpin, ?_, ?_, ?_, ?_, ?_⟩, rfl⟩
    · rintro t' ⟨⟩; exact ⟨hdv.le, htc.le⟩
    · rintro t' ⟨⟩
    · rintro t' ⟨⟩ - - j' hj'
      rw [show j' = j from List.mem_singleton.mp hj']
      exact hver
    · rintro t' ⟨⟩
    · rintro t' ⟨⟩

end BloomSigner.Audit
