import BloomSigner.Signing.Invariant

/-! # The stages of one call of `sign`

Admission, recovery of a stored result and dispatch. Whatever fails on the way, and whatever other
requests do in between, the invariant holds where the call ends. -/

namespace BloomSigner

open Lib Lib.Program

/-- The error leaves open whether a signature exists. -/
def Ambiguous (f : Failure) : Prop :=
  ∃ e, f.toError? = some e ∧
    (e.durableEffect = .possibleProviderEffect ∨ e.durableEffect = .unknownResolveByStatus)

theorem Unavailable.ambiguous (h : Unavailable f) : Ambiguous f := by
  obtain ⟨message, hf⟩ := h
  exact ⟨_, hf, .inr rfl⟩

/-- The requests of the run with one identity ask for the same signatures. -/
def IdentityFixes (crypto : Crypto) (occurs : UnsignedSignRequest → Prop) : Prop :=
  ∀ r r', occurs r → occurs r' →
    r.operationIdentityDigest crypto = r'.operationIdentityDigest crypto →
    r.orderedHashes = r'.orderedHashes ∧ r.cryptoSuite = r'.cryptoSuite

section
variable {env : SigningEnvironment} {occurs : UnsignedSignRequest → Prop}
  {request : UnsignedSignRequest} {calls : List BackendCall} {results : List SigningResult}

/-- Between two storage calls: nothing was asked of a backend, and nothing written out. -/
structure Quiet (crypto : Crypto) (occurs : UnsignedSignRequest → Prop)
    (calls : List BackendCall) (results : List SigningResult) (s : SigningState) : Prop where
  inv : SigningInv crypto occurs s
  calls : s.calls = calls
  results : s.results = results

/-- The operation of the request is in an allowed state, and its approval selects the request. -/
structure OperationAt (crypto : Crypto) (request : UnsignedSignRequest)
    (allowed : OperationState → Prop) (db : Db) : Prop where
  row : ∃ row, db.operations.get? request.operationId = some row ∧
    row.ReservedFor crypto request.operationId request ∧ allowed row.state
  selected : ∀ row, db.approvals.get? request.approvalId = some row →
    selectorMatches request row.terms.selector = true

structure Stage (crypto : Crypto) (occurs : UnsignedSignRequest → Prop)
    (request : UnsignedSignRequest) (allowed : OperationState → Prop)
    (calls : List BackendCall) (results : List SigningResult) (s : SigningState) : Prop where
  quiet : Quiet crypto occurs calls results s
  operation : OperationAt crypto request allowed s.engine.db

/-- Calls of other requests leave the operation and what its approval selects. -/
theorem Quiet.background {crypto : Crypto} (h : Quiet crypto occurs calls results s)
    (hstep : BackgroundStep s.engine.db e'.db) :
    Quiet crypto occurs calls results { s with engine := e' } :=
  ⟨h.inv.background hstep, h.calls, h.results⟩

theorem Quiet.of_db {crypto : Crypto} (h : Quiet crypto occurs calls results s)
    (hdb : e'.db = s.engine.db) : Quiet crypto occurs calls results { s with engine := e' } :=
  ⟨h.inv.of_db hdb, h.calls, h.results⟩

theorem OperationAt.background {crypto : Crypto} {db db' : Db}
    (h : OperationAt crypto request allowed db) (ledger : LedgerInv db)
    (hstep : BackgroundStep db db') : OperationAt crypto request allowed db' := by
  obtain ⟨op, hop, hfor, hallowed⟩ := h.row
  refine ⟨⟨op, by rw [hstep.operations_eq]; exact hop, hfor, hallowed⟩, fun row' hrow' => ?_⟩
  obtain ⟨row, hrow, hterms⟩ | ⟨hnone, -⟩ := hstep.termsKept _ row' hrow'
  · rw [← hterms]
    exact h.selected row hrow
  · obtain ⟨row, hrow⟩ := ledger.owned hop
    rw [hfor.approvalId, hnone] at hrow
    cases hrow

theorem Stage.background {crypto : Crypto}
    (h : Stage crypto occurs request allowed calls results s)
    (hstep : BackgroundStep s.engine.db e'.db) :
    Stage crypto occurs request allowed calls results { s with engine := e' } :=
  ⟨h.quiet.background hstep, h.operation.background h.quiet.inv.ledger hstep⟩

/-! ## Storage calls -/

/-- What holds when a program stops: `I`, and `G` of an error it answers with. -/
def Stopped (I : SigningState → Prop) (G : Failure → Prop) (stop : Stop) (s : SigningState) :
    Prop :=
  I s ∧ ∀ f, stop = .failed f → G f

theorem meanwhile_of_step (env : SigningEnvironment) {P : SigningState → Prop} (turn : Turn)
    (hstep : ∀ s e', P s → BackgroundStep s.engine.db e'.db → P { s with engine := e' })
    (hs : P s) : P { s with engine := turn.engine env s } := by
  unfold Turn.engine
  induction turn.meanwhile generalizing s with
  | nil => exact hs
  | cons call rest ih =>
    exact ih (s := { s with engine := engineStep env.toEnvironment s.engine call.1 })
      (hstep s _ hs (engineStep_background call))

/-- A storage call, however it ends. `P` is stable under the calls of other requests, and `I` is
about the tables. -/
theorem triple_storageCall {P I : SigningState → Prop} {Q : α → SigningState → Prop}
    {G : Failure → Prop} {turn : Turn} {call : Engine → Except Failure α × Engine}
    (hbackground : ∀ s e', P s → BackgroundStep s.engine.db e'.db → P { s with engine := e' })
    (hI : ∀ s, P s → I s)
    (hdb : ∀ s e', I s → e'.db = s.engine.db → I { s with engine := e' })
    (hG : ∀ f, Unavailable f → G f)
    (hcall : ∀ s, P s →
      (∃ a e', call s.engine = (.ok a, e') ∧ Q a { s with engine := e' } ∧
        I { s with engine := e' }) ∨
      ∃ f e', call s.engine = (.error f, e') ∧ e'.db = s.engine.db ∧ G f) :
    Triple P (storageCall env turn call) Q (Stopped I G) := by
  intro s hs
  have hmeanwhile := meanwhile_of_step env turn hbackground hs
  have hstart := hI _ hmeanwhile
  have hsame : ∀ e', e'.db = (turn.engine env s).db → I { s with engine := e' } :=
    fun e' h => hdb { s with engine := turn.engine env s } e' hstart h
  have hend : ∀ e', e'.db = (call (turn.engine env s)).2.db → I { s with engine := e' } := by
    intro e' he'
    obtain ⟨a, e₁, heq, -, hend⟩ | ⟨f, e₁, heq, he₁, -⟩ := hcall _ hmeanwhile
    · exact hdb { s with engine := e₁ } e' hend (he'.trans (by rw [heq]))
    · exact hsame e' (he'.trans (by rw [heq]; exact he₁))
  unfold storageCall
  cases turn.fate with
  | done =>
    obtain ⟨a, e', heq, hans, -⟩ | ⟨f, e', heq, he', hf⟩ := hcall _ hmeanwhile
    · dsimp only
      rw [heq]
      exact hans
    · dsimp only
      rw [heq]
      refine ⟨hsame e' he', ?_⟩
      rintro _ ⟨⟩
      exact hf
  | lost latches cause =>
    refine ⟨hsame _ (Engine.fail_db _ _), ?_⟩
    rintro _ ⟨⟩
    exact hG _ (unavailable_storage latches cause)
  | kept latches cause =>
    refine ⟨hend _ (Engine.fail_db _ _), ?_⟩
    rintro _ ⟨⟩
    exact hG _ (unavailable_storage latches cause)
  | crashBefore =>
    refine ⟨hstart, ?_⟩
    rintro _ ⟨⟩
  | crashAfter =>
    refine ⟨hend _ rfl, ?_⟩
    rintro _ ⟨⟩

/-- A storage call that only reads. -/
theorem triple_storageRead {P I : SigningState → Prop} {turn : Turn} {f : Db → Except Failure α}
    (hbackground : ∀ s e', P s → BackgroundStep s.engine.db e'.db → P { s with engine := e' })
    (hI : ∀ s, P s → I s)
    (hdb : ∀ s e', I s → e'.db = s.engine.db → I { s with engine := e' }) :
    Triple P (storageRead env turn f) (fun a s => P s ∧ f s.engine.db = .ok a)
      (Stopped I fun _ => True) := by
  refine triple_storageCall hbackground hI hdb (fun _ _ => trivial) fun s hs => ?_
  cases hread : f s.engine.db with
  | ok a => exact .inl ⟨a, s.engine, rfl, ⟨hs, hread⟩, hI s hs⟩
  | error e => exact .inr ⟨e, s.engine, rfl, rfl, trivial⟩

theorem triple_refuse {P I : SigningState → Prop} {Q : α → SigningState → Prop}
    {x : Except Failure α}
    (hI : ∀ s, P s → I s) (hok : ∀ a, x = .ok a → ∀ s, P s → Q a s) :
    Triple P (refuse x) Q (Stopped I fun _ => True) := by
  refine triple_lift (fun a hx => ?_) fun stop _ s hs => ⟨hI s hs, fun _ _ => trivial⟩
  cases x with
  | ok _ => cases hx; exact hok a rfl
  | error f => cases hx

/-! ## Admission -/

/-- The states an admitted operation is found in. -/
def SignAuthorization.found : SignAuthorization → OperationState → Prop
  | .newOperation, state => state = .reserved
  | .sameOperationRetry, state => state = .reserved ∨ state = .committed

theorem SignAuthorization.found_or {a : SignAuthorization} (h : a.found state) :
    state = .reserved ∨ state = .committed := by
  cases a with
  | newOperation => exact .inl h
  | sameOperationRetry => exact h

section
variable (hidentity : IdentityFixes env.crypto occurs)

include hidentity in
theorem Quiet.authorized {request : SignRequest} (hoccurs : occurs request.unsigned)
    (h : Quiet env.crypto occurs calls results s)
    (hledger : LedgerInv db)
    (hauthorized : Authorized env.crypto request.unsigned a s.engine.db db) :
    Stage env.crypto occurs request.unsigned a.found calls results
      { s with engine := { s.engine with db } } := by
  have hselected : ∀ row, db.approvals.get? request.unsigned.approvalId = some row →
      selectorMatches request.unsigned row.terms.selector = true := by
    intro row' hrow'
    obtain ⟨approval, happroval, hmatches⟩ := hauthorized.selected
    obtain ⟨row, hrow, hterms⟩ | ⟨hnone, -⟩ := hauthorized.terms _ row' hrow'
    · rw [happroval] at hrow
      cases hrow
      rw [← hterms]
      exact hmatches
    · rw [happroval] at hnone; cases hnone
  have hshaped := hauthorized.shaped
  cases hop : s.engine.db.operations.get? request.unsigned.operationId with
  | none =>
    obtain ⟨rfl, row, hinsert, hstate, hdigest, happroval, hcount⟩ := hauthorized.fresh hop
    have hfor : row.ReservedFor env.crypto request.unsigned.operationId request.unsigned :=
      ⟨rfl, hdigest.trans hshaped.identity, happroval, hcount.trans hshaped.count⟩
    have hinv := @SigningInv.inserted _ _ _ { s.engine with db } _ _ _ h.inv hledger
      hauthorized.terms hinsert
      hstate hoccurs hfor
    refine ⟨⟨hinv, h.calls, h.results⟩, ⟨row, ?_, hfor, hstate⟩, hselected⟩
    show db.operations.get? _ = _
    rw [Table.get?_insert? hinsert, if_pos rfl]
  | some row =>
    obtain ⟨rfl, hoperations, hdigest, happroval, hstate⟩ := hauthorized.known row hop
    obtain ⟨original, hooccurs, hooriginal⟩ := h.inv.reserved _ row hop
    -- the row was reserved for a request with the same identity
    have hhashes := (hidentity original request.unsigned hooccurs hoccurs (by
      rw [← hooriginal.digest, hdigest, hshaped.identity])).1
    have hfor : row.ReservedFor env.crypto request.unsigned.operationId request.unsigned :=
      ⟨rfl, hdigest.trans hshaped.identity, happroval, hhashes ▸ hooriginal.count⟩
    have hinv := @SigningInv.of_operations _ _ _ { s.engine with db } h.inv hledger
      hauthorized.terms
      hoperations
    refine ⟨⟨hinv, h.calls, h.results⟩, ⟨row, ?_, hfor, hstate⟩, hselected⟩
    show db.operations.get? _ = _
    rw [hoperations]
    exact hop

theorem quiet_stopped {crypto : Crypto} (s : SigningState) (e' : Engine)
    (h : Quiet crypto occurs calls results s) (hdb : e'.db = s.engine.db) :
    Quiet crypto occurs calls results { s with engine := e' } :=
  h.of_db hdb

include hidentity in
theorem triple_admission {request : SignRequest} (hoccurs : occurs request.unsigned)
    (world : SignWorld) :
    Triple (Quiet env.crypto occurs calls results) (admission env world request)
      (fun a s => Stage env.crypto occurs request.unsigned a.found calls results s ∧
        request.unsigned.Shaped env.crypto)
      (Stopped (Quiet env.crypto occurs calls results) fun _ => True) := by
  refine (triple_storageRead (fun s e' => Quiet.background) (fun _ => id) quiet_stopped).bind
    fun required => ?_
  refine Triple.bind (triple_refuse (Q := fun _ => Quiet env.crypto occurs calls results)
    (fun s hs => hs.1) fun clock _ s hs => hs.1) fun clock => ?_
  refine triple_storageCall (fun s e' => Quiet.background) (fun _ => id) quiet_stopped
    (fun _ _ => trivial) fun s hs => ?_
  obtain ⟨a, db, heq, hauthorized⟩ | ⟨f, e', heq, hdb⟩ :=
    authorizeSign_cases env.crypto env.config s.engine world.answers request clock
  · have hledger : LedgerInv db := by
      have hstep : (signStep env.crypto env.config s.engine
          (.authorizeSign world.answers request clock)).db = db := by
        rw [signStep, heq]
      exact hstep ▸ signStep_ledgerInv _ hs.inv.ledger
    have hstage := hs.authorized hidentity hoccurs hledger hauthorized
    exact .inl ⟨a, _, heq, ⟨hstage, hauthorized.shaped⟩, hstage.quiet⟩
  · exact .inr ⟨f, e', heq, hdb, trivial⟩

end

/-- The operation holds the result that is recovered. -/
def Recovered (crypto : Crypto) (request : UnsignedSignRequest) (stored : Base64UrlBytes)
    (db : Db) : Prop :=
  ∃ row, db.operations.get? request.operationId = some row ∧
    row.ReservedFor crypto request.operationId request ∧ row.state = .committed ∧
    row.normalizedResult = some stored

theorem triple_recoverResult {crypto : Crypto} (world : SignWorld) (a : SignAuthorization) :
    Triple (Stage crypto occurs request a.found calls results)
      (recoverResult env world request.operationId a)
      (fun stored s => Stage crypto occurs request a.found calls results s ∧
        ∀ text ∈ stored, Recovered crypto request text s.engine.db)
      (Stopped (Quiet crypto occurs calls results) fun _ => True) := by
  cases a with
  | newOperation =>
    refine triple_pure fun s hs => ⟨hs, ?_⟩
    rintro _ ⟨⟩
  | sameOperationRetry =>
    change Triple _ (storageRead env world.storedResult fun db =>
      .ok (storedOperationResult request.operationId db)) _ _
    refine (triple_storageRead (fun s e' => Stage.background) (fun _ => Stage.quiet)
      quiet_stopped).post (fun stored s hs => ⟨hs.1, fun text htext => ?_⟩) fun _ _ => id
    obtain ⟨hs, hread⟩ := hs
    cases hread
    obtain ⟨row, hrow, hfor, -⟩ := hs.operation.row
    obtain ⟨row', hfilter, hresult⟩ := Option.bind_eq_some_iff.mp htext
    rw [Option.filter_eq_some_iff, hrow] at hfilter
    obtain ⟨hsame, hstate⟩ := hfilter
    cases hsame
    exact ⟨row, hrow, hfor, by simpa using hstate, hresult⟩

/-! ## Dispatch -/

theorem Stage.mono {crypto : Crypto} {allowed allowed' : OperationState → Prop}
    (h : Stage crypto occurs request allowed calls results s)
    (hallowed : ∀ state, allowed state → allowed' state) :
    Stage crypto occurs request allowed' calls results s := by
  obtain ⟨row, hrow, hfor, hstate⟩ := h.operation.row
  exact ⟨h.quiet, ⟨row, hrow, hfor, hallowed _ hstate⟩, h.operation.selected⟩

/-- The operation of the request moves on and keeps its identity. -/
theorem Stage.moved {crypto : Crypto}
    (h : Stage crypto occurs request allowed calls results s) (hinv : SigningInv crypto occurs
      { s with engine := e' })
    (hmoved : OperationMoved request.operationId row row' s.engine.db e'.db)
    (hsame : row'.operationDigest = row.operationDigest ∧ row'.approvalId = row.approvalId ∧
      row'.signatureCount = row.signatureCount) (hallowed : allowed' row'.state) :
    Stage crypto occurs request allowed' calls results { s with engine := e' } := by
  obtain ⟨op, hop, hfor, -⟩ := h.operation.row
  rw [hmoved.present] at hop
  cases hop
  refine ⟨⟨hinv, h.quiet.calls, h.quiet.results⟩, ⟨row', ?_, ?_, hallowed⟩, fun a ha => ?_⟩
  · rw [hmoved.operations, Table.get?_update, if_pos rfl, hmoved.present]
    rfl
  · exact ⟨rfl, hsame.1.trans hfor.digest, hsame.2.1.trans hfor.approvalId,
      hsame.2.2.trans hfor.count⟩
  · obtain ⟨approval, happroval, hterms⟩ | ⟨hnone, -⟩ := hmoved.terms _ a ha
    · rw [← hterms]
      exact h.operation.selected approval happroval
    · obtain ⟨approval, happroval⟩ := h.quiet.inv.ledger.owned hmoved.present
      rw [hfor.approvalId, hnone] at happroval
      cases happroval

/-- An operation that is dispatched now has asked for nothing yet. -/
theorem triple_dispatch {crypto : Crypto} (turn : Turn) (keyRef : KeyRef) (ids : List Digest32) :
    Triple (Stage crypto occurs request (fun state => state = .reserved ∨ state = .committed) calls
        results)
      (storageCall env turn fun e =>
        markOperationDispatched crypto e request.operationId keyRef ids)
      (fun _ s => Stage crypto occurs request (· = .dispatched) calls results s ∧
        ∀ call ∈ calls, call.operationId ≠ request.operationId)
      (Stopped (Quiet crypto occurs calls results) fun _ => True) := by
  refine triple_storageCall (fun s e' => Stage.background) (fun _ => Stage.quiet) quiet_stopped
    (fun _ _ => trivial) fun s hs => ?_
  obtain ⟨row, db, heq, hstate, hmoved⟩ | ⟨f, e', heq, hdb⟩ :=
    markOperationDispatched_cases crypto s.engine request.operationId keyRef ids
  · have hledger : LedgerInv db := by
      have hstep : (signStep crypto env.config s.engine
          (.markOperationDispatched request.operationId keyRef ids)).db = db := by
        rw [signStep, heq]
      exact hstep ▸ signStep_ledgerInv _ hs.quiet.inv.ledger
    have hnone : ∀ call ∈ s.calls, call.operationId ≠ request.operationId := by
      intro call hcall hid
      obtain ⟨op, hop, hstarted, -⟩ := hs.quiet.inv.recorded call hcall
      rw [hid, hmoved.present] at hop
      cases hop
      exact hstarted hstate
    have hinv : SigningInv crypto occurs { s with engine := { s.engine with db } } :=
      hs.quiet.inv.moved hledger hmoved rfl rfl rfl (fun h => by cases h)
        (fun h => by cases h) fun h => by cases h
    have hstage : Stage crypto occurs request (· = .dispatched) calls results
        { s with engine := { s.engine with db } } :=
      hs.moved hinv hmoved ⟨rfl, rfl, rfl⟩ rfl
    exact .inl ⟨(), _, heq, ⟨hstage, hs.quiet.calls ▸ hnone⟩, hstage.quiet⟩
  · exact .inr ⟨f, e', heq, hdb, trivial⟩

/-! ## Children -/

theorem childInput_eq_ok {crypto : Crypto} {hash : Digest32} (hshaped : request.Shaped crypto)
    (hhash : request.orderedHashes[i]? = some hash) :
    ∃ input, childInput request i hash = .ok input ∧ input.HashesTo crypto hash := by
  have hmessages := hshaped.messages
  unfold UnsignedSignRequest.messagesAreBound at hmessages
  unfold childInput
  cases hsuite : request.cryptoSuite with
  | secp256k1Keccak256Recoverable | secp256k1Sha256Recoverable => exact ⟨_, rfl, rfl⟩
  | ed25519Message =>
    rw [hsuite] at hmessages
    simp only [Bool.and_eq_true, decide_eq_true_eq, List.all_eq_true] at hmessages
    obtain ⟨⟨hlength, hpayloads⟩, hall⟩ := hmessages
    obtain ⟨hlt, hget⟩ := List.getElem?_eq_some_iff.mp hhash
    have hmessage : request.orderedMessages[i]? = some (request.orderedMessages[i]) :=
      List.getElem?_eq_getElem (hlength ▸ hlt)
    have hpayload : request.orderedPayloadDigests[i]? = some (request.orderedPayloadDigests[i]) :=
      List.getElem?_eq_getElem (hpayloads ▸ hlt)
    refine ⟨.message request.orderedMessages[i], ?_, ?_⟩
    · simp only [CryptoSuite.inputKind, hmessage]
      rfl
    · have hentry := hall ((request.orderedMessages[i], hash), request.orderedPayloadDigests[i])
        (List.mem_of_getElem? (i := i) (by
          rw [List.getElem?_zip_eq_some, List.getElem?_zip_eq_some]
          exact ⟨⟨hmessage, hhash⟩, hpayload⟩))
      exact hentry.1.2

/-- The calls made so far and the signatures they answered. -/
structure Answered (crypto : Crypto) (request : UnsignedSignRequest) (made : List BackendCall)
    (signatures : List NormalizedSignature) : Prop where
  length : made.length = signatures.length
  each : ∀ i (call : BackendCall), made[i]? = some call →
    ∃ signature, signatures[i]? = some signature ∧ call.Answers crypto request i signature

theorem Answered.snoc {crypto : Crypto} {call : BackendCall}
    (h : Answered crypto request made signatures)
    (hcall : call.Answers crypto request signatures.length signature) :
    Answered crypto request (made ++ [call]) (signatures ++ [signature]) := by
  refine ⟨by simp [h.length], fun i other hother => ?_⟩
  rcases Nat.lt_or_ge i made.length with hlt | hge
  · rw [List.getElem?_append_left hlt] at hother
    obtain ⟨signature', hsignature', hanswers⟩ := h.each i other hother
    exact ⟨signature', by rw [List.getElem?_append_left (h.length ▸ hlt)]; exact hsignature',
      hanswers⟩
  · rw [List.getElem?_append_right hge, List.getElem?_singleton] at hother
    split at hother
    · next hi =>
      cases hother
      have hlast : i = signatures.length := by rw [← h.length]; omega
      subst hlast
      exact ⟨signature, List.getElem?_concat_length, hcall⟩
    · cases hother

theorem Answered.fulfils {crypto : Crypto} (h : Answered crypto request made signatures)
    (hlength : signatures.length = request.orderedHashes.length) :
    (signingResult crypto request signatures).Fulfils crypto (calls ++ made) request := by
  refine ⟨hlength, fun i signature hi => ?_⟩
  obtain ⟨hlt, -⟩ := List.getElem?_eq_some_iff.mp hi
  have hmade := List.getElem?_eq_getElem (h.length ▸ hlt : i < made.length)
  obtain ⟨signature', hsignature', hanswers⟩ := h.each i _ hmade
  have hsame : signature' = signature := Option.some.inj (hsignature'.symm.trans hi)
  exact ⟨_, List.mem_append_right _ (List.getElem_mem _), hsame ▸ hanswers⟩

/-- How a call of `sign` stops: it made calls for its own operation, and an error after one that may
have made a signature leaves that open. -/
def Unanswered (crypto : Crypto) (occurs : UnsignedSignRequest → Prop)
    (request : UnsignedSignRequest) (calls : List BackendCall) (stop : Stop) (s : SigningState) :
    Prop :=
  SigningInv crypto occurs s ∧ ∃ made, s.calls = calls ++ made ∧
    (∀ call ∈ made, call.operationId = request.operationId ∧
      call.approvalId = request.approvalId) ∧
    ∀ f, stop = .failed f → (∃ call ∈ made, call.maySign = true) → Ambiguous f

theorem Quiet.refused {crypto : Crypto} {G : Failure → Prop}
    (h : Stopped (Quiet crypto occurs (calls ++ made) results) G stop s)
    (hmade : ∀ call ∈ made, call.operationId = request.operationId ∧
      call.approvalId = request.approvalId)
    (hG : ∀ f, G f → (∃ call ∈ made, call.maySign = true) → Ambiguous f) :
    Unanswered crypto occurs request calls stop s :=
  ⟨h.1.inv, made, h.1.calls, hmade, fun f hf => hG f (h.2 f hf)⟩

theorem Quiet.refused_nil {crypto : Crypto}
    (h : Stopped (Quiet crypto occurs calls results) (fun _ => True) stop s) :
    Unanswered crypto occurs request calls stop s := by
  refine ⟨h.1.inv, [], by rw [List.append_nil]; exact h.1.calls, ?_, ?_⟩
  · rintro call ⟨⟩
  · rintro f - ⟨call, ⟨⟩, -⟩

end

end BloomSigner
