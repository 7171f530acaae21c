import BloomSigner.Engine.Calls
import BloomSigner.Engine.Registration
import BloomSigner.Engine.Lifecycle
import BloomSigner.Custody.AllOrNothing

/-! # A restore does not widen what a wallet may sign

A wallet that is exported and restored onto an empty engine is compared with the engine it was
exported from. Every check of `authorize_sign` is passed by the original engine when the restored
one passes it, for requests whose identifiers no other wallet holds and whose key kept its class. -/

namespace BloomSigner

open Lib

variable {crypto : Crypto} {config : Config} {w : Token} {db db' : Db} {e : Engine}

/-! ## Rate windows -/

/-- The checked sum over the rows of a window, as one comparison. -/
theorem signatureFold_eq {rows : List (OperationId × OperationRow)} {f : Failure} {n : Nat}
    (hn : n < 2 ^ 64) :
    foldE (fun count (row : OperationId × OperationRow) =>
      okOr (checkedAdd64 count row.2.signatureCount) f) n rows =
        if n + (rows.map (·.2.signatureCount)).sum < 2 ^ 64 then
          .ok (n + (rows.map (·.2.signatureCount)).sum)
        else .error f := by
  induction rows generalizing n with
  | nil => rw [List.map_nil, List.sum_nil, Nat.add_zero, if_pos hn]; rfl
  | cons row rows ih =>
    rw [List.map_cons, List.sum_cons, foldE_cons, ← Nat.add_assoc]
    by_cases hfits : n + row.2.signatureCount < 2 ^ 64
    · have hadd : checkedAdd64 n row.2.signatureCount = some (n + row.2.signatureCount) :=
        checkedAdd64_eq_some.mpr ⟨rfl, hfits⟩
      rw [hadd]
      exact ih hfits
    · have hadd : checkedAdd64 n row.2.signatureCount = none := if_neg hfits
      rw [hadd, if_neg (by omega)]
      rfl

section
variable (h : RestoredAuthority db w db')
include h

/-- The operations of an approval of the wallet are all restored. -/
theorem RestoredAuthority.window_perm (ha : db.approvals.get? a = some approval)
    (hw : approval.walletId = w) (start now : Nat) :
    (operationsInWindow db a start now).Perm (operationsInWindow db' a start now) := by
  refine Table.select_perm fun oid row hp => ?_
  rw [decide_eq_true_eq] at hp
  have hof : OperationOf db w row := ⟨approval, hp.1 ▸ ha, hw⟩
  exact ⟨fun hrow => h.operationsOf oid row hrow hof, fun hrow => h.operations oid row hrow⟩

theorem RestoredAuthority.checkOperationRate_eq (ha : db.approvals.get? a = some approval)
    (hw : approval.walletId = w) (now : Nat) (window : SlidingWindow) :
    checkOperationRate db a now window = checkOperationRate db' a now window := by
  refine congrArg (windowBounds window now >>= ·) (funext fun bounds => ?_)
  obtain ⟨start, stop⟩ := bounds
  dsimp only
  rw [(h.window_perm ha hw start stop).length_eq]

theorem RestoredAuthority.checkSignatureRate_eq (ha : db.approvals.get? a = some approval)
    (hw : approval.walletId = w) (n now : Nat) (window : SlidingWindow) :
    checkSignatureRate db a n now window = checkSignatureRate db' a n now window := by
  refine congrArg (windowBounds window now >>= ·) (funext fun bounds => ?_)
  obtain ⟨start, stop⟩ := bounds
  dsimp only
  have hsum := ((h.window_perm ha hw start stop).map (·.2.signatureCount)).sum_eq
  rw [signatureFold_eq (by decide), signatureFold_eq (by decide), hsum]

/-! ## The checks of a request -/

theorem RestoredAuthority.reserveParserFreeLimits {request : UnsignedSignRequest}
    (hlimits : reserveParserFreeLimits db' request terms now = .ok r) :
    BloomSigner.reserveParserFreeLimits db request terms now = .ok r := by
  obtain ⟨row, hrow, hlimits⟩ := bind_eq_ok.mp hlimits
  obtain ⟨source, hsource, hwallet, -, -, hops, hsigs⟩ := h.approvals _ _ (okOr_eq_ok.mp hrow)
  obtain ⟨n, hn, hlimits⟩ := bind_eq_ok.mp hlimits
  obtain ⟨_, hmax, hlimits⟩ := bind_eq_ok.mp hlimits
  obtain ⟨m, hm, hlimits⟩ := bind_eq_ok.mp hlimits
  obtain ⟨_, hmaxs, hlimits⟩ := bind_eq_ok.mp hlimits
  obtain ⟨_, hoprate, hlimits⟩ := bind_eq_ok.mp hlimits
  obtain ⟨_, hsigrate, hlimits⟩ := bind_eq_ok.mp hlimits
  rw [hops] at hn
  rw [hsigs] at hm
  have hop : (fun (_ : Unit) window => checkOperationRate db request.approvalId now window) =
      fun _ window => checkOperationRate db' request.approvalId now window :=
    funext fun _ => funext fun window => h.checkOperationRate_eq hsource hwallet now window
  have hsig : (fun (_ : Unit) window => checkSignatureRate db request.approvalId
      request.signatureCount now window) = fun _ window => checkSignatureRate db' request.approvalId
        request.signatureCount now window :=
    funext fun _ => funext fun window => h.checkSignatureRate_eq hsource hwallet _ now window
  refine bind_eq_ok.mpr ⟨source, okOr_eq_ok.mpr hsource, bind_eq_ok.mpr ⟨n, hn,
    bind_eq_ok.mpr ⟨(), hmax, bind_eq_ok.mpr ⟨m, hm, bind_eq_ok.mpr ⟨(), hmaxs,
      bind_eq_ok.mpr ⟨(), ?_, bind_eq_ok.mpr ⟨(), ?_, hlimits⟩⟩⟩⟩⟩⟩⟩
  · rw [hop]
    exact hoprate
  · rw [hsig]
    exact hsigrate

end

/-- The key of a request is enrolled in the original engine as it is in the restored one. -/
def KeyKept (db db' : Db) (key : KeyRef) : Prop :=
  ∀ row', db'.enrolledKeys.get? key.publicKeyFingerprint = some row' →
    ∃ row, db.enrolledKeys.get? key.publicKeyFingerprint = some row ∧ row.keyRef = row'.keyRef ∧
      row.authorityClass = row'.authorityClass

/-- At most one allocation of the wallet has this public key. -/
def SingleAllocation (db : Db) (w : Token) (f : Digest32) : Prop :=
  ∀ op op' row row', db.registry.allocations.get? (w, op) = some row →
    db.registry.allocations.get? (w, op') = some row' → row.publicKeyFingerprint = some f →
    row'.publicKeyFingerprint = some f → op = op'

/-- No other wallet holds an identifier of the request. -/
structure OwnIdentifiers (db : Db) (w : Token) (request : UnsignedSignRequest) : Prop where
  attempt : ∀ row, db.attempts.get? request.attemptId = some row →
    ∃ operation, db.operations.get? row.operationId = some operation ∧ OperationOf db w operation
  operation : ∀ row, db.operations.get? request.operationId = some row → OperationOf db w row

section
variable (h : RestoredAuthority db w db')
include h

/-- A child that is activated in the restored registry was activated in the original one. -/
theorem RestoredAuthority.requireActivatedChild {key : KeyRef}
    (hsingle : SingleAllocation db w key.publicKeyFingerprint)
    (hchild : requireActivatedChild db' key = .ok ()) :
    BloomSigner.requireActivatedChild db key = .ok () := by
  unfold BloomSigner.requireActivatedChild at hchild ⊢
  split at hchild
  · next seed profile path hd =>
    rw [reject_eq_ok, not_not, Option.map_eq_some_iff] at hchild
    obtain ⟨⟨⟨seed', op⟩, row⟩, hhead, hstate⟩ := hchild
    have hmem := List.mem_of_mem_head? hhead
    rw [Table.select, List.mem_filter, decide_eq_true_eq] at hmem
    obtain ⟨hrow, rfl, hf⟩ := hmem
    obtain ⟨rfl, source, hsource, hfp, hactive⟩ := h.allocations _ _ (Table.get?_eq_some.mpr hrow)
    rw [hf] at hfp
    -- the row is the only one the query can return
    refine reject_of_not (not_not.mpr ?_)
    have hall : ∀ r ∈ db.registry.allocations.select fun k row =>
        k.1 = seed' ∧ row.publicKeyFingerprint = some key.publicKeyFingerprint,
        r = ((seed', op), source) := by
      rintro ⟨⟨w, op'⟩, row'⟩ hr
      rw [Table.select, List.mem_filter, decide_eq_true_eq, ← Table.get?_eq_some] at hr
      obtain ⟨hr, rfl, hf'⟩ := hr
      obtain rfl := hsingle op op' source row' hsource hr hfp.symm hf'
      rw [hsource] at hr
      cases hr
      rfl
    have hself : ((seed', op), source) ∈ db.registry.allocations.select fun k row =>
        k.1 = seed' ∧ row.publicKeyFingerprint = some key.publicKeyFingerprint := by
      rw [Table.select, List.mem_filter, decide_eq_true_eq, ← Table.get?_eq_some]
      exact ⟨hsource, rfl, hfp.symm⟩
    rw [List.head?_eq_some_head (List.ne_nil_of_mem hself), Option.map_some]
    rw [hall _ (List.head_mem _), hactive hstate]
  · next hd => rfl

theorem RestoredAuthority.requireKeyAvailable {key : KeyRef} (hkey : KeyKept db db' key)
    (hsingle : SingleAllocation db w key.publicKeyFingerprint)
    (havailable : requireKeyAvailable answers db' key = .ok ()) :
    BloomSigner.requireKeyAvailable answers db key = .ok () := by
  obtain ⟨_, henrolled, havailable⟩ := bind_eq_ok.mp havailable
  obtain ⟨on, hon, havailable⟩ := bind_eq_ok.mp havailable
  obtain ⟨_, hon', havailable⟩ := bind_eq_ok.mp havailable
  rw [reject_eq_ok, not_not, Option.map_eq_some_iff] at henrolled
  obtain ⟨row', hrow', hself⟩ := henrolled
  obtain ⟨row, hrow, hsame, hclass⟩ := hkey row' hrow'
  refine bind_eq_ok.mpr ⟨(), ?_, bind_eq_ok.mpr ⟨on, hon, bind_eq_ok.mpr ⟨(), hon', ?_⟩⟩⟩
  · rw [hrow]
    exact reject_of_not (not_not.mpr (congrArg some (hsame.trans hself)))
  · rw [hrow', Option.map_some] at havailable
    rw [hrow, Option.map_some, hclass]
    split at havailable
    · next hpetal => rw [if_pos hpetal]; rfl
    · next hpetal =>
      rw [if_neg hpetal]
      exact h.requireActivatedChild hsingle havailable

theorem RestoredAuthority.validatePetalKeyApproval {terms : SealedApprovalTerms}
    (hkey : KeyKept db db' terms.keyRef)
    (henrolled : ∃ row', db'.enrolledKeys.get? terms.keyRef.publicKeyFingerprint = some row')
    (hpetal : validatePetalKeyApproval db' terms now = .ok ()) :
    BloomSigner.validatePetalKeyApproval db terms now = .ok () := by
  obtain ⟨row', hrow'⟩ := henrolled
  obtain ⟨row, hrow, -, hclass⟩ := hkey row' hrow'
  unfold BloomSigner.validatePetalKeyApproval at hpetal ⊢
  dsimp only at hpetal ⊢
  rw [hrow', Option.map_some] at hpetal
  rw [hrow, Option.map_some, hclass]
  split at hpetal
  · next hclass' =>
    rw [if_pos hclass']
    obtain ⟨stored, hstored, hpetal⟩ := bind_eq_ok.mp hpetal
    obtain ⟨source, hsource, hscope, hcreated, hexpires⟩ :=
      h.scopes _ _ (okOr_eq_ok.mp hstored)
    refine bind_eq_ok.mpr ⟨source, okOr_eq_ok.mpr hsource, ?_⟩
    unfold validatePetalScope at hpetal ⊢
    rw [← hscope, ← hcreated, ← hexpires]
    exact hpetal
  · next hclass' => rw [if_neg hclass']

/-- A request the restored engine admits is admitted by the original one, with the same terms. -/
theorem RestoredAuthority.admitRequest {request : UnsignedSignRequest}
    (hw : request.walletId = w) (hown : OwnIdentifiers db w request)
    (hkey : KeyKept db db' request.keyRef)
    (hsingle : SingleAllocation db w request.keyRef.publicKeyFingerprint)
    (hadmitted : admitRequest answers db' request now = .ok terms) :
    BloomSigner.admitRequest answers db request now = .ok terms ∧
      ∃ source, db.approvals.get? request.approvalId = some source ∧ source.walletId = w := by
  obtain ⟨_, hattempt, hadmitted⟩ := bind_eq_ok.mp hadmitted
  obtain ⟨approval, happroval, hadmitted⟩ := bind_eq_ok.mp hadmitted
  obtain ⟨_, hactive, hadmitted⟩ := bind_eq_ok.mp hadmitted
  obtain ⟨_, havailable, hadmitted⟩ := bind_eq_ok.mp hadmitted
  obtain ⟨_, hpetal, hadmitted⟩ := bind_eq_ok.mp hadmitted
  obtain ⟨_, hvalidate, hadmitted⟩ := bind_eq_ok.mp hadmitted
  obtain ⟨_, hepoch, hadmitted⟩ := bind_eq_ok.mp hadmitted
  cases hadmitted
  obtain ⟨source, hsource, hwallet, hterms, hactive', -⟩ :=
    h.approvals _ _ (okOr_eq_ok.mp happroval)
  -- the request names the wallet and the key of its approval
  have hsame : approval.terms.walletId = w ∧ approval.terms.keyRef = request.keyRef := by
    obtain ⟨_, -, hvalidate⟩ := bind_eq_ok.mp hvalidate
    obtain ⟨_, hnames, -⟩ := bind_eq_ok.mp hvalidate
    rw [reject_eq_ok, not_or, not_not, not_not] at hnames
    exact ⟨hnames.1.symm.trans hw, hnames.2.symm⟩
  rw [← hsame.2] at hkey hsingle
  have henrolled : ∃ row', db'.enrolledKeys.get? approval.terms.keyRef.publicKeyFingerprint =
      some row' := by
    obtain ⟨_, hrow, -⟩ := bind_eq_ok.mp havailable
    rw [reject_eq_ok, not_not, Option.map_eq_some_iff] at hrow
    obtain ⟨row', hrow', -⟩ := hrow
    exact ⟨row', hrow'⟩
  refine ⟨?_, source, hsource, hwallet⟩
  rw [hterms] at havailable hpetal hvalidate hepoch hkey hsingle henrolled hsame ⊢
  refine bind_eq_ok.mpr ⟨(), ?_, bind_eq_ok.mpr ⟨source, okOr_eq_ok.mpr hsource,
    bind_eq_ok.mpr ⟨(), ?_, bind_eq_ok.mpr ⟨(), h.requireKeyAvailable hkey hsingle havailable,
      bind_eq_ok.mpr ⟨(), h.validatePetalKeyApproval hkey henrolled hpetal,
        bind_eq_ok.mpr ⟨(), hvalidate, bind_eq_ok.mpr ⟨(), ?_, rfl⟩⟩⟩⟩⟩⟩⟩
  · -- an attempt the original engine knows is the wallet's, and then restored
    refine reject_of_not fun hsome => ?_
    obtain ⟨row, hrow⟩ := Option.isSome_iff_exists.mp hsome
    obtain ⟨operation, hoperation, hof⟩ := hown.attempt row hrow
    rw [h.attemptsOf _ row operation hrow hoperation hof] at hattempt
    cases hattempt
  · rw [reject_eq_ok] at hactive ⊢
    intro hoff
    refine hactive (Bool.eq_false_iff.mpr fun hon => ?_)
    rw [hactive' hon] at hoff
    cases hoff
  · rw [hsame.1] at hepoch ⊢
    rw [← h.epoch]
    exact hepoch

/-- Reserving the operation of an admitted request. -/
theorem RestoredAuthority.admitOperation {request : UnsignedSignRequest}
    (hown : OwnIdentifiers db w request)
    (hanchors : ∀ oid anchor, db.operationClockAnchors.get? oid = some anchor →
      ∃ row, db.operations.get? oid = some row)
    (hadmitted : admitOperation crypto db' request terms clock = .ok (a, db₁')) :
    ∃ db₁, BloomSigner.admitOperation crypto db request terms clock = .ok (a, db₁) := by
  unfold BloomSigner.admitOperation at hadmitted ⊢
  cases hop : db.operations.get? request.operationId with
  | some existing =>
    rw [h.operationsOf _ _ hop (hown.operation existing hop)] at hadmitted
    obtain ⟨_, hretry, hadmitted⟩ := bind_eq_ok.mp hadmitted
    cases hadmitted
    exact ⟨db, bind_eq_ok.mpr ⟨(), hretry, rfl⟩⟩
  | none =>
    have hop' : db'.operations.get? request.operationId = none := by
      by_contra hsome
      obtain ⟨row, hrow⟩ := Option.ne_none_iff_exists'.mp hsome
      rw [h.operations _ _ hrow] at hop
      cases hop
    rw [hop'] at hadmitted
    obtain ⟨db₂, hreserve, hadmitted⟩ := bind_eq_ok.mp hadmitted
    cases hadmitted
    obtain ⟨⟨n, m⟩, hlimits, hreserve⟩ := bind_eq_ok.mp hreserve
    have hanchor : db.operationClockAnchors.get? request.operationId = none := by
      by_contra hsome
      obtain ⟨anchor, hanchor⟩ := Option.ne_none_iff_exists'.mp hsome
      obtain ⟨row, hrow⟩ := hanchors _ _ hanchor
      rw [hop] at hrow
      cases hrow
    obtain ⟨operations, hops⟩ := Table.insert?_of_fresh hop
    obtain ⟨anchors, hanchors⟩ := Table.insert?_of_fresh hanchor
    exact ⟨_, bind_eq_ok.mpr ⟨_, bind_eq_ok.mpr ⟨(n, m), h.reserveParserFreeLimits hlimits,
      bind_eq_ok.mpr ⟨operations, okOr_eq_ok.mpr hops, bind_eq_ok.mpr ⟨anchors,
        okOr_eq_ok.mpr hanchors, rfl⟩⟩⟩, rfl⟩⟩

end

/-! ## Requests -/

/-- A request is for the wallet, no other wallet holds its identifiers, and its key is enrolled in
the original engine as in the restored one, for at most one account of the wallet. -/
structure Comparable (db db' : Db) (w : Token) (request : UnsignedSignRequest) : Prop where
  wallet : request.walletId = w
  identifiers : OwnIdentifiers db w request
  key : KeyKept db db' request.keyRef
  account : SingleAllocation db w request.keyRef.publicKeyFingerprint

/-- After any calls on an engine opened on an empty database: a request that the engine restored
from the export of a wallet authorizes is authorized by the original engine in the same way. -/
theorem restored_authorizes_no_more (env : Environment) (keys : Audit.AuditKeyState)
    (backends : Backends) (calls : List EngineCall) (w : Token) (backup : SignerBackupSet)
    (e' : Engine) (answers : BackendAnswers) (request : SignRequest) (clock : ClockDecision)
    (a : SignAuthorization) :
    let e := run (engineStep env) (.blank keys backends) calls
    (exportWalletBackup env.serde env.crypto e w).1 = .ok backup →
    restoreBackup env.crypto env.config env.serde.toBackupSerde (.blank e.auditKeys e.backends)
      backup = (.ok (), e') →
    Comparable e.db e'.db w request.unsigned →
    (authorizeSign env.crypto env.config answers e' request clock).1 = .ok a →
    (authorizeSign env.crypto env.config answers e request clock).1 = .ok a := by
  intro e hexport hrestore hrequest hsign
  have hconsistent : Consistent env.crypto e.db := run_consistent env keys backends calls
  have hexport : exportWalletBackup env.serde env.crypto e w = (.ok backup, _) :=
    Prod.ext hexport rfl
  have hauthority := restoredAuthority hconsistent.keyed hexport hrestore
  obtain ⟨hdegraded, -, ⟨payload, db, happ⟩, -⟩ := exportWalletBackup_from hexport
  obtain ⟨journal, happ, -⟩ := bind_eq_ok.mp happ
  have hopen : e.journalOpen env.crypto := journalOpen_of_append happ
  obtain ⟨hprelude, terms, db', hterms, hoperation⟩ := authorizeSign_eq_ok hsign
  obtain ⟨hadmitted, -⟩ := hauthority.admitRequest hrequest.wallet hrequest.identifiers hrequest.key
    hrequest.account hterms
  obtain ⟨db₁, hreserve⟩ :=
    hauthority.admitOperation hrequest.identifiers hconsistent.anchored hoperation
  obtain ⟨hattempts, hjournal⟩ := admitOperation_frame hreserve
  obtain ⟨_, _, -, -, hrun⟩ :=
    authorizeSign_of_checks hdegraded hopen hprelude hadmitted hreserve hattempts hjournal
  rw [hrun]

/-! ## Wallets with one approval -/

def firstRoot : KeyRef := .root ⟨"first"⟩ 1

def secondRoot : KeyRef := .root ⟨"second"⟩ 2

/-- A child of the first root that was never enrolled on its own. -/
def firstChild : KeyRef :=
  { KeyRef.root ⟨"first"⟩ 3 with derivation := some (.bip32Secp256k1 ⟨"root"⟩ "m/0") }

def standInEnvironment : Environment where
  crypto := .standIn
  aead := Custody.Aead.standIn
  derive := textDerivation
  config := standInConfig
  serde := { boundSerde with
    operationId := fun s => some ⟨s⟩
    token := fun s => some ⟨s⟩
    zeroBootEpoch := ⟨"00000000000000000000000000000000"⟩
    operationId_asStr := by rintro s oid ⟨⟩; rfl
    token_asStr := by rintro s t ⟨⟩; rfl }
  enrollments := ⟨fun enrollment => .arr (enrollment.pinnedKeys.map KeyRef.json)⟩

def everyKey : BackendAnswers := ⟨fun _ => .ok true, fun _ => .ok true⟩


/-- The approval of one signature of a registered wallet, by one of its keys. -/
def onlyApproval (children : List KeyRef) (key : KeyRef) : List EngineCall := [
  .commitCustody (registration .standIn boundKey ⟨"register-first"⟩ ⟨"first"⟩
    (.ofKeys firstRoot children)),
  .sign (.persistApproval everyKey (.single ⟨"first"⟩ key 50000) none)]

theorem pinnable_first (children : List KeyRef) (h : ∀ k ∈ children, k = firstChild) :
    Pinnable firstRoot children where
  underived := rfl
  derived k hk := by rw [h k hk]; rfl
  bound k hk := by
    rcases List.mem_cons.mp hk with rfl | hk
    · exact ⟨rfl, rfl, by decide⟩
    · rw [h k hk]
      exact ⟨rfl, rfl, by decide⟩

theorem run_onlyApproval (children : List KeyRef) (hpin : Pinnable firstRoot children)
    (key : KeyRef) (hkey : key.validate = .ok ()) (hspec : key.keySpec = .secp256k1) :
    ∃ e, run (engineStep standInEnvironment) (.blank boundKeys ∅) (onlyApproval children key) = e ∧
      e.Ready .standIn 2 ∧ e.auditKeys = boundKeys ∧
      (∀ f, e.db.enrolledKeys.get? f = if f = firstRoot.publicKeyFingerprint then
        some ⟨firstRoot, true, .walletRoot, some ⟨"first"⟩⟩ else none) ∧
      e.db.attempts = ∅ ∧ e.db.operations = ∅ ∧
      SoleApproval e.db ⟨"first"⟩ (.ofKeys firstRoot children) (.first .standIn boundKey ⟨"first"⟩)
        ((SealedApprovalTerms.single ⟨"first"⟩ key 50000).digest .standIn)
        (.single ⟨"first"⟩ key 50000) := by
  obtain ⟨journal, hregister, hready⟩ := (ready_blank .standIn ⟨"audit-key"⟩ boundKey ∅).register
    (by decide) standInEnvironment.enrollments boundKey ⟨"register-first"⟩ ⟨"first"⟩ firstRoot
    children ⟨rfl, rfl, rfl, rfl, rfl⟩ hpin.underived hpin.derived
  obtain ⟨journal', hpersist, hready'⟩ := hready.persistSingle (by decide) everyKey ⟨"first"⟩ key
    50000 hkey hspec (by decide) (by decide) rfl
    (by
      intro row hrow
      dsimp only [Db.register] at hrow
      rw [Table.get?_set] at hrow
      split at hrow
      · cases hrow
        intro h
        cases h
      · cases hrow) rfl rfl
  have hfirst : engineStep standInEnvironment (.blank boundKeys ∅) (.commitCustody
      (registration .standIn boundKey ⟨"register-first"⟩ ⟨"first"⟩ (.ofKeys firstRoot children))) = _ :=
    congrArg Prod.snd hregister
  have he := (congrArg (engineStep standInEnvironment · (.sign (.persistApproval everyKey
    (.single ⟨"first"⟩ key 50000) none))) hfirst).trans (congrArg Prod.snd hpersist)
  refine ⟨_, he, hready', rfl, fun f => Table.get?_set _, rfl, rfl, rfl, rfl, rfl, rfl, rfl, rfl, ?_, ?_, ?_, ?_, ?_⟩
  · refine walletEnrollments_eq_singleton (i := ⟨"first"⟩) rfl rfl ?_
    intro j y hj _
    dsimp only [Db.register] at hj
    rw [Table.get?_set] at hj
    split at hj
    · assumption
    · cases hj
  · rfl
  · refine Table.select_eq_singleton ?_ rfl ?_
    · rw [Table.get?_set, if_pos rfl]
    · intro j row hj _
      rw [Table.get?_set] at hj
      split at hj
      · assumption
      · cases hj
  · intro oid row hrow
    cases hrow
  · rfl


/-- On an engine without operations and accounts only the key has to be compared. -/
theorem comparable_of_unused {db db' : Db} {w : Token} {request : UnsignedSignRequest}
    {row row' : EnrolledKeyRow} (hw : request.walletId = w) (hattempts : db.attempts = ∅) (hoperations : db.operations = ∅) (hregistry : db.registry = ∅)
    (hrow : db.enrolledKeys.get? request.keyRef.publicKeyFingerprint = some row)
    (hrow' : db'.enrolledKeys.get? request.keyRef.publicKeyFingerprint = some row')
    (hkey : row.keyRef = row'.keyRef) (hclass : row.authorityClass = row'.authorityClass) :
    Comparable db db' w request := by
  refine ⟨hw, ⟨fun row h => ?_, fun row h => ?_⟩, fun row'' h => ?_, fun op op' row row' h => ?_⟩
  · rw [hattempts] at h
    cases h
  · rw [hoperations] at h
    cases h
  · rw [hrow'] at h
    cases h
    exact ⟨row, hrow, hkey, hclass⟩
  · rw [hregistry] at h
    cases h

theorem restored_authorizes_no_more_root :
    let env := standInEnvironment
    let e := run (engineStep env) (.blank boundKeys ∅) (onlyApproval [] firstRoot)
    let request : SignRequest := .under .standIn brokerKey (.single ⟨"first"⟩ firstRoot 50000) .zero
      ⟨"operation-1"⟩
    ∃ backup e', (exportWalletBackup env.serde env.crypto e ⟨"first"⟩).1 = .ok backup ∧
      restoreBackup env.crypto env.config env.serde.toBackupSerde (.blank e.auditKeys e.backends)
        backup = (.ok (), e') ∧
      Comparable e.db e'.db ⟨"first"⟩ request.unsigned ∧
      (authorizeSign env.crypto env.config everyKey e' request .sample).1 = .ok .newOperation ∧
      (authorizeSign env.crypto env.config everyKey e request .sample).1 = .ok .newOperation := by
  have hpin := pinnable_first [] (by intro _ h; cases h)
  obtain ⟨e, he, hready, hkeys, henrolled, hattempts, hoperations, hsole⟩ :=
    run_onlyApproval [] hpin firstRoot (by decide) rfl
  intro env
  rw [he]
  intro _ request
  obtain ⟨backup, e', hexport, hrestore, hrow, hauthorize⟩ := handed_over_authorizes
    env.serde everyKey hsole hready (by decide) hkeys hpin (by decide) rfl
    (by decide) (by decide) rfl (by intro _ _ _ h; cases h) rfl e.backends
  have hcomparable : Comparable e.db e'.db ⟨"first"⟩ request.unsigned :=
    comparable_of_unused rfl hattempts hoperations hsole.registry
      ((henrolled _).trans (if_pos rfl)) hrow rfl rfl
  have hmain := restored_authorizes_no_more env boundKeys ∅ (onlyApproval [] firstRoot) ⟨"first"⟩
    backup e' everyKey request .sample .newOperation
  rw [he] at hmain
  exact ⟨backup, e', hexport, hrestore, hcomparable, hauthorize _ _,
    hmain hexport hrestore hcomparable (hauthorize _ _)⟩


/-! ## What the comparison leaves out -/

def firstTerms : SealedApprovalTerms := .single ⟨"first"⟩ firstRoot 50000

def secondTerms : SealedApprovalTerms := .single ⟨"second"⟩ secondRoot 60000

theorem firstTerms_digest_ne : firstTerms.digest .standIn ≠ secondTerms.digest .standIn := by
  decide +kernel

/-- Two wallets, and an approval of the second one. -/
def secondApproved : List EngineCall := [
  .commitCustody (registration .standIn boundKey ⟨"register-first"⟩ ⟨"first"⟩
    (.ofKeys firstRoot [])),
  .commitCustody (registration .standIn boundKey ⟨"register-second"⟩ ⟨"second"⟩
    (.ofKeys secondRoot [])),
  .sign (.persistApproval everyKey secondTerms none)]

/-- The second wallet has used an attempt identifier, and the first one has an approval. -/
def foreignAttempt : List EngineCall := secondApproved ++ [
  .sign (.authorizeSign everyKey (.under .standIn brokerKey secondTerms .zero ⟨"operation-1"⟩)
    .sample),
  .sign (.persistApproval everyKey firstTerms none)]

/-- The tables of two registered wallets. -/
def bothRegistered : Db :=
  (({} : Db).register .standIn boundKey ⟨"register-first"⟩ ⟨"first"⟩ firstRoot []).register .standIn
    boundKey ⟨"register-second"⟩ ⟨"second"⟩ secondRoot []

theorem run_secondApproved :
    ∃ e, run (engineStep standInEnvironment) (.blank boundKeys ∅) secondApproved = e ∧
      e.Ready .standIn 3 ∧ e.auditKeys = boundKeys ∧ ∃ journal, e.db = { bothRegistered with
        walletState := (∅ : Table Token WalletStateRow).set ⟨"second"⟩
          ⟨0, .derivationRegistryMissing, none, none⟩
        approvals := (∅ : Table Digest32 ApprovalRow).set (secondTerms.digest .standIn)
          ⟨⟨"second"⟩, secondTerms, true, 0, 0⟩
        journal } := by
  have hnone : ∀ k ∈ ([] : List KeyRef), k.derivation.isSome = true := by intro _ h; cases h
  obtain ⟨j₁, h₁, hready₁⟩ := (ready_blank .standIn ⟨"audit-key"⟩ boundKey ∅).register
    (by decide) standInEnvironment.enrollments boundKey ⟨"register-first"⟩ ⟨"first"⟩ firstRoot [] ⟨rfl, rfl, rfl, rfl, rfl⟩ rfl hnone
  obtain ⟨j₂, h₂, hready₂⟩ := hready₁.register (by decide) standInEnvironment.enrollments boundKey
    ⟨"register-second"⟩ ⟨"second"⟩ secondRoot [] ⟨rfl, rfl, rfl, rfl, rfl⟩ rfl hnone
  obtain ⟨j₃, h₃, hready₃⟩ := hready₂.persistSingle (by decide) everyKey ⟨"second"⟩
    secondRoot 60000 (by decide) rfl (by decide) (by decide) rfl
    (by
      rintro row ⟨⟩
      intro h
      cases h) rfl rfl
  have he₁ : engineStep standInEnvironment (.blank boundKeys ∅) (.commitCustody
      (registration .standIn boundKey ⟨"register-first"⟩ ⟨"first"⟩ (.ofKeys firstRoot []))) = _ :=
    congrArg Prod.snd h₁
  have he₂ := (congrArg (engineStep standInEnvironment · (.commitCustody
    (registration .standIn boundKey ⟨"register-second"⟩ ⟨"second"⟩ (.ofKeys secondRoot [])))) he₁).trans
      (congrArg Prod.snd h₂)
  have he₃ := (congrArg (engineStep standInEnvironment · (.sign (.persistApproval everyKey
    secondTerms none))) he₂).trans (congrArg Prod.snd h₃)
  exact ⟨_, he₃, hready₃, rfl, j₃, rfl⟩

theorem run_foreignAttempt :
    ∃ e, run (engineStep standInEnvironment) (.blank boundKeys ∅) foreignAttempt = e ∧
      e.Ready .standIn 5 ∧ e.auditKeys = boundKeys ∧
      (e.db.attempts.get? .zero).isSome = true ∧
      SoleApproval e.db ⟨"first"⟩ (.ofKeys firstRoot []) (.first .standIn boundKey ⟨"first"⟩)
        (firstTerms.digest .standIn) firstTerms := by
  obtain ⟨e₃, he₃, hready₃, hkeys, journal, hdb⟩ := run_secondApproved
  have happrovals := congrArg Db.approvals hdb
  have henrolled := congrArg Db.enrolledKeys hdb
  have hsecond : e₃.db.approvals.get? (secondTerms.digest .standIn) =
      some ⟨⟨"second"⟩, secondTerms, true, 0, 0⟩ := by
    rw [happrovals, Table.get?_set, if_pos rfl]
  have hkey : e₃.db.enrolledKeys.get? secondRoot.publicKeyFingerprint =
      some ⟨secondRoot, true, .walletRoot, some ⟨"second"⟩⟩ := by
    rw [henrolled]
    rfl
  have hepoch : walletEpoch e₃.db ⟨"second"⟩ = 0 := by
    rw [walletEpoch, congrArg Db.walletState hdb]
    rfl
  have hattempt : e₃.db.attempts.get? .zero = none := by
    rw [congrArg Db.attempts hdb]
    rfl
  have hoperation : e₃.db.operations.get? ⟨"operation-1"⟩ = none := by
    rw [congrArg Db.operations hdb]
    rfl
  have hanchor : e₃.db.operationClockAnchors.get? ⟨"operation-1"⟩ = none := by
    rw [congrArg Db.operationClockAnchors hdb]
    rfl
  have hadmitted := admitRequest_under everyKey brokerKey ⟨"operation-1"⟩ hattempt hsecond
    (by decide) hkey rfl (by intro h; cases h) (by intro _ _ _ h; cases h) rfl hepoch
  obtain ⟨operations, anchors, row, hrow, hoperations, hreserve⟩ :=
    admitOperation_under brokerKey hsecond hoperation hanchor .zero
  have hprelude : signPrelude .standIn standInConfig
      (.under .standIn brokerKey secondTerms .zero ⟨"operation-1"⟩)
      ClockDecision.sample.effectiveNowMs = .ok () :=
    signPrelude_under rfl rfl secondTerms .zero ⟨"operation-1"⟩
  obtain ⟨attempts, j₄, hattempts, h₄, hready₄⟩ :=
    hready₃.authorize (by decide) hprelude hadmitted hreserve
  have hfirstKey : e₃.db.enrolledKeys.get? firstRoot.publicKeyFingerprint =
      some ⟨firstRoot, true, .walletRoot, some ⟨"first"⟩⟩ := by
    rw [henrolled]
    rfl
  have hwallet : e₃.db.walletState.get? ⟨"first"⟩ = none := by
    rw [congrArg Db.walletState hdb]
    rfl
  have hused : ∀ a, (e₃.db.approvals.update (secondTerms.digest .standIn) (·.withCounters 1 1)).get?
      a = if a = secondTerms.digest .standIn then some ⟨⟨"second"⟩, secondTerms, true, 1, 1⟩
        else none := by
    intro a
    rw [Table.get?_update, happrovals, Table.get?_set]
    split <;> rfl
  obtain ⟨j₅, h₅, hready₅⟩ := hready₄.persistSingle (by decide) everyKey ⟨"first"⟩
    firstRoot 50000 (by decide) rfl (by decide) (by decide) rfl
    (by
      intro row hrow
      cases hfirstKey.symm.trans hrow
      intro h
      cases h) hwallet ((hused _).trans (if_neg firstTerms_digest_ne))
  have hrun : run (engineStep standInEnvironment) (.blank boundKeys ∅) foreignAttempt =
      run (engineStep standInEnvironment) e₃ [.sign (.authorizeSign everyKey
        (.under .standIn brokerKey secondTerms .zero ⟨"operation-1"⟩) .sample),
        .sign (.persistApproval everyKey firstTerms none)] := by
    rw [foreignAttempt, run_append, he₃]
  have he₄ : engineStep standInEnvironment e₃ (.sign (.authorizeSign everyKey
      (.under .standIn brokerKey secondTerms .zero ⟨"operation-1"⟩) .sample)) = _ :=
    congrArg Prod.snd h₄
  have he₅ := (congrArg (engineStep standInEnvironment · (.sign (.persistApproval everyKey
    firstTerms none))) he₄).trans (congrArg Prod.snd h₅)
  refine ⟨_, hrun.trans he₅, hready₅, hkeys, ?_, ?_⟩
  · dsimp only
    rw [Table.get?_insert? hattempts]
    rfl
  · have hall : ∀ a, ((e₃.db.approvals.update (secondTerms.digest .standIn)
        (·.withCounters 1 1)).set (firstTerms.digest .standIn)
          ⟨⟨"first"⟩, firstTerms, true, 0, 0⟩).get? a = if a = firstTerms.digest .standIn then
            some ⟨⟨"first"⟩, firstTerms, true, 0, 0⟩ else
          if a = secondTerms.digest .standIn then some ⟨⟨"second"⟩, secondTerms, true, 1, 1⟩
            else none := by
      intro a
      rw [Table.get?_set, hused]
    refine ⟨congrArg Db.ceremonyWallets hdb, congrArg Db.registry hdb, congrArg Db.petalKeyScopes hdb,
      congrArg Db.approvalTombstones hdb, congrArg Db.walletTombstones hdb,
      congrArg Db.revocationOperations hdb, ?_, ?_, ?_, ?_, ?_⟩
    · have henrollments := congrArg Db.ceremonyBackendEnrollments hdb
      refine walletEnrollments_eq_singleton (i := ⟨"first"⟩)
        ((congrArg (·.get? ⟨"first"⟩) henrollments).trans rfl) rfl ?_
      intro j y hj hy
      have hj := (congrArg (·.get? j) henrollments).symm.trans hj
      dsimp only [bothRegistered, Db.register] at hj
      rw [Table.get?_set, Table.get?_set] at hj
      split at hj
      · cases hj
        exact absurd hy (by decide)
      · split at hj
        · assumption
        · cases hj
    · exact (congrArg (·.get? ⟨"first"⟩) (congrArg Db.policies hdb)).trans rfl
    · refine Table.select_eq_singleton ((hall _).trans (if_pos rfl)) rfl ?_
      intro a row hrow hp
      have hrow := (hall a).symm.trans hrow
      split at hrow
      · assumption
      · split at hrow
        · cases hrow
          exact absurd hp (by decide)
        · cases hrow
    · intro oid row' hrow'
      have hrow' := (Table.get?_insert? hoperations).symm.trans hrow'
      split at hrow'
      · cases hrow'
        rw [isWalletApproval, hrow]
        exact congrArg (Option.any (·.walletId = ⟨"first"⟩))
          ((hall _).trans ((if_neg firstTerms_digest_ne.symm).trans (if_pos rfl)))
      · rw [congrArg Db.operations hdb] at hrow'
        cases hrow'
    · show (((Table.set _ _ _).get? _).map _).getD 0 = 0
      rw [Table.get?_set, if_pos rfl]
      rfl


/-- The restored engine also authorizes a request whose attempt identifier another wallet has used,
and a request for a key that was pinned with the backend and never enrolled. -/
theorem restored_authorizes_more :
    let env := standInEnvironment
    (let e := run (engineStep env) (.blank boundKeys ∅) foreignAttempt
     ∃ backup e' request, (exportWalletBackup env.serde env.crypto e ⟨"first"⟩).1 = .ok backup ∧
      restoreBackup env.crypto env.config env.serde.toBackupSerde (.blank e.auditKeys e.backends)
        backup = (.ok (), e') ∧
      request.unsigned.walletId = ⟨"first"⟩ ∧
      (authorizeSign env.crypto env.config everyKey e' request .sample).1 = .ok .newOperation ∧
      ∀ a, (authorizeSign env.crypto env.config everyKey e request .sample).1 ≠ .ok a) ∧
    (let e := run (engineStep env) (.blank boundKeys ∅) (onlyApproval [firstChild] firstChild)
     ∃ backup e' request, (exportWalletBackup env.serde env.crypto e ⟨"first"⟩).1 = .ok backup ∧
      restoreBackup env.crypto env.config env.serde.toBackupSerde (.blank e.auditKeys e.backends)
        backup = (.ok (), e') ∧
      request.unsigned.walletId = ⟨"first"⟩ ∧
      (authorizeSign env.crypto env.config everyKey e' request .sample).1 = .ok .newOperation ∧
      ∀ a, (authorizeSign env.crypto env.config everyKey e request .sample).1 ≠ .ok a) := by
  intro env
  constructor
  · have hpin := pinnable_first [] (by intro _ h; cases h)
    obtain ⟨e, he, hready, hkeys, hattempt, hsole⟩ := run_foreignAttempt
    rw [he]
    intro _
    obtain ⟨backup, e', hexport, hrestore, -, hauthorize⟩ := handed_over_authorizes
      env.serde everyKey hsole hready (by decide) hkeys hpin (by decide) rfl
      (by decide) (by decide) rfl (by intro _ _ _ h; cases h) rfl e.backends
    refine ⟨backup, e', _, hexport, hrestore, rfl, hauthorize .zero ⟨"operation-2"⟩, fun a h => ?_⟩
    obtain ⟨-, terms, db', hadmitted, -⟩ := authorizeSign_eq_ok h
    obtain ⟨_, hfresh, -⟩ := bind_eq_ok.mp hadmitted
    exact reject_eq_ok.mp hfresh hattempt
  · have hpin := pinnable_first [firstChild] (fun _ h => List.mem_singleton.mp h)
    obtain ⟨e, he, hready, hkeys, henrolled, -, -, hsole⟩ :=
      run_onlyApproval [firstChild] hpin firstChild (by decide) rfl
    rw [he]
    intro _
    obtain ⟨backup, e', hexport, hrestore, -, hauthorize⟩ := handed_over_authorizes
      env.serde everyKey hsole hready (by decide) hkeys hpin (by decide) rfl
      (by decide) (by decide) rfl (by intro _ _ _ h; cases h) rfl e.backends
    refine ⟨backup, e', _, hexport, hrestore, rfl, hauthorize .zero ⟨"operation-1"⟩, fun a h => ?_⟩
    obtain ⟨-, terms, db', hadmitted, -⟩ := authorizeSign_eq_ok h
    obtain ⟨_, -, hadmitted⟩ := bind_eq_ok.mp hadmitted
    obtain ⟨row, hrow, hadmitted⟩ := bind_eq_ok.mp hadmitted
    obtain ⟨_, -, hadmitted⟩ := bind_eq_ok.mp hadmitted
    obtain ⟨_, havailable, -⟩ := bind_eq_ok.mp hadmitted
    obtain ⟨_, hkey, -⟩ := bind_eq_ok.mp havailable
    have hown : row.terms.keyRef = firstChild := by
      have hmem := List.mem_singleton_self ((SealedApprovalTerms.single ⟨"first"⟩ firstChild
        50000).digest .standIn, (⟨⟨"first"⟩, .single ⟨"first"⟩ firstChild 50000, true, 0, 0⟩ :
          ApprovalRow))
      rw [← hsole.approvals] at hmem
      cases (okOr_eq_ok.mp hrow).symm.trans (Table.get?_eq_some.mpr (List.mem_filter.mp hmem).1)
      rfl
    rw [reject_eq_ok, hown, henrolled, if_neg (by decide)] at hkey
    refine hkey ?_
    intro h
    cases h

end BloomSigner
