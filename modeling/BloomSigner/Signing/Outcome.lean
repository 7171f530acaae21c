import BloomSigner.Signing.Stages
import BloomSigner.Ceremony.StandIn

/-! # The outcome of one call of `sign`

The children are followed one after the other, and the call to its end: an error after a signature
may exist says so, and an answer holds a signature of every hash. -/

namespace BloomSigner

open Lib Lib.Program

section
variable {env : SigningEnvironment} {occurs : UnsignedSignRequest → Prop}
  {request : UnsignedSignRequest} {calls made : List BackendCall} {results : List SigningResult}
  {signatures : List NormalizedSignature}

/-! ## One child -/

/-- The operation ends without a result. Released it is only when no call may have signed. -/
theorem triple_finalize (world : SignWorld) {effect : SignerOperationEffect}
    (hne : effect ≠ .committed)
    (hreleased : effect = .released →
      ∀ call ∈ calls, call.operationId = request.operationId → call.maySign = false) :
    Triple (Stage env.crypto occurs request (· = .dispatched) calls results)
      (finalize env world request effect) (fun _ => Quiet env.crypto occurs calls results)
      (Stopped (Quiet env.crypto occurs calls results)
        fun f => effect = .quarantined → Unavailable f) := by
  refine triple_storageCall (fun s e' => Stage.background) (fun _ => Stage.quiet) quiet_stopped
    (fun _ hf _ => hf) fun s hs => ?_
  obtain ⟨op, hop, hfor, hstate⟩ := hs.operation.row
  have hledger : LedgerInv
      (finalizeOperation env.crypto s.engine request.operationId effect).2.db :=
    hs.quiet.inv.ledger.step (finalizeOperation_ledger request.operationId effect)
  obtain ⟨e', heq, hend⟩ | ⟨f, e', heq, hdb, hf⟩ :=
    finalizeOperation_cases env.crypto s.engine request.operationId hne
  · rw [heq] at hledger
    have hquiet : Quiet env.crypto occurs calls results { s with engine := e' } := by
      obtain ⟨hdb, -⟩ | ⟨row, hmoved⟩ := hend
      · exact hs.quiet.of_db hdb
      · have hstarted : effect.state ≠ .reserved := by cases effect <;> decide
        refine ⟨hs.quiet.inv.moved hledger hmoved rfl rfl rfl hstarted (fun hrel => ?_)
          fun hcom => ?_, hs.quiet.calls, hs.quiet.results⟩
        · rw [hs.quiet.calls]
          refine hreleased ?_
          cases effect with
          | released => rfl
          | committed | quarantined => cases hrel
        · cases effect with
          | committed => exact absurd rfl hne
          | released | quarantined => cases hcom
    exact .inl ⟨(), e', heq, hquiet, hquiet⟩
  · exact .inr ⟨f, e', heq, hdb, fun hq => hf hq ⟨op, hop, hstate⟩⟩

/-- The call of a child that is asked for next. -/
theorem Stage.asked {crypto : Crypto} {call : BackendCall} {hash : Digest32}
    (h : Stage crypto occurs request (· = .dispatched) (calls ++ made) results s)
    (hfresh : ∀ call ∈ calls, call.operationId ≠ request.operationId)
    (hmade : Answered crypto request made signatures)
    (hhash : request.orderedHashes[signatures.length]? = some hash)
    (hid : call.operationId = request.operationId)
    (happroval : call.approvalId = request.approvalId)
    (hindex : call.index = signatures.length) (hinput : call.request.input.HashesTo crypto hash) :
    Stage crypto occurs request (· = .dispatched) (calls ++ made ++ [call]) results
      { s with calls := s.calls ++ [call] } := by
  obtain ⟨op, hop, hfor, hstate⟩ := h.operation.row
  obtain ⟨hlt, -⟩ := List.getElem?_eq_some_iff.mp hhash
  have hrecorded : call.Recorded s.engine.db := by
    refine ⟨op, by rw [hid]; exact hop, by rw [hstate]; decide, ?_, ?_, fun hrel => ?_⟩
    · rw [happroval, hfor.approvalId]
    · rw [hindex, hfor.count]; exact hlt
    · rw [hstate] at hrel; cases hrel
  have hnew : ∀ other ∈ s.calls, other.operationId = call.operationId →
      other.index ≠ call.index := by
    intro other hother hsame
    rw [h.quiet.calls] at hother
    rcases List.mem_append.mp hother with hother | hother
    · exact absurd (hsame.trans hid) (hfresh other hother)
    · obtain ⟨i, hi⟩ := List.getElem?_of_mem hother
      obtain ⟨_, hsignature, hanswers⟩ := hmade.each i other hi
      obtain ⟨hlt, -⟩ := List.getElem?_eq_some_iff.mp hsignature
      rw [hanswers.child, hindex]
      exact Nat.ne_of_lt hlt
  have hselected : call.Selected crypto s.engine.db := by
    intro row payloads hashes hrow hselector
    have hmatches := h.operation.selected row (happroval ▸ hrow)
    rw [hselector] at hmatches
    simp only [selectorMatches, Bool.and_eq_true, decide_eq_true_eq] at hmatches
    rw [hmatches.1.2, hindex]
    exact ⟨hash, hhash, hinput⟩
  have hcalls : s.calls ++ [call] = calls ++ made ++ [call] := by rw [h.quiet.calls]
  exact ⟨⟨h.quiet.inv.called hrecorded hnew hselected, hcalls, h.quiet.results⟩, h.operation⟩

theorem ambiguous_providerEffect (message : String) :
    Ambiguous (error .ambiguousProviderEffect message) :=
  ⟨_, rfl, .inl rfl⟩

theorem triple_quarantine (world : SignWorld) (message : String)
    (hmade : ∀ call ∈ made, call.operationId = request.operationId ∧
      call.approvalId = request.approvalId) :
    Triple (Stage env.crypto occurs request (· = .dispatched) (calls ++ made) results)
      (do finalize env world request .quarantined
          Program.fail (.failed (error .ambiguousProviderEffect message)))
      (Q : NormalizedSignature → SigningState → Prop)
      (Unanswered env.crypto occurs request calls) := by
  refine Triple.bind ((triple_finalize world (by decide) (fun h => by cases h)).post
    (fun _ _ => id) fun stop s hs => ?_) fun _ => triple_fail fun s hs => ?_
  · exact Quiet.refused hs hmade fun f hf _ => (hf rfl).ambiguous
  · refine Quiet.refused (G := fun f => f = error .ambiguousProviderEffect message) ⟨hs, ?_⟩
      hmade ?_
    · rintro f ⟨⟩; rfl
    · rintro f rfl -
      exact ambiguous_providerEffect message

/-- A child whose call failed. -/
theorem triple_failChild (world : SignWorld) {call : BackendCall} {e : BackendError}
    (hfresh : ∀ call ∈ calls, call.operationId ≠ request.operationId)
    (hanswered : Answered env.crypto request made signatures)
    (hmade : ∀ other ∈ made ++ [call], other.operationId = request.operationId ∧
      other.approvalId = request.approvalId)
    (houtcome : call.outcome = some (.error e)) :
    Triple (Stage env.crypto occurs request (· = .dispatched) (calls ++ (made ++ [call])) results)
      (failChild env world request signatures e)
      (Q : NormalizedSignature → SigningState → Prop)
      (Unanswered env.crypto occurs request calls) := by
  unfold failChild
  split
  · next hrefuses =>
    rw [Bool.and_eq_true, List.isEmpty_iff] at hrefuses
    obtain ⟨rfl, hrefuses⟩ := hrefuses
    have hempty : made = [] := List.length_eq_zero_iff.mp hanswered.length
    subst hempty
    have hnever : call.maySign = false := by
      rw [BackendCall.maySign, houtcome]
      simp [hrefuses]
    have hunsigned : ∀ other ∈ calls ++ ([] ++ [call]),
        other.operationId = request.operationId → other.maySign = false := by
      intro other hother hid
      rcases List.mem_append.mp hother with hother | hother
      · exact absurd hid (hfresh other hother)
      · rw [List.nil_append, List.mem_singleton] at hother
        rw [hother]
        exact hnever
    have hnone : ¬∃ other ∈ ([] ++ [call] : List BackendCall), other.maySign = true := by
      rintro ⟨other, hother, hmay⟩
      rw [List.nil_append, List.mem_singleton] at hother
      rw [hother, hnever] at hmay
      cases hmay
    refine Triple.bind ((triple_finalize world (by decide) fun _ => hunsigned).post
      (fun _ _ => id) fun stop s hs => ?_) fun _ => triple_fail fun s hs => ?_
    · exact Quiet.refused hs hmade fun f _ hsigned => absurd hsigned hnone
    · exact Quiet.refused (G := fun _ => True) ⟨hs, fun _ _ => trivial⟩ hmade
        fun f _ hsigned => absurd hsigned hnone
  · exact triple_quarantine world _ hmade

theorem Answered.owned {crypto : Crypto} (h : Answered crypto request made signatures) :
    ∀ call ∈ made, call.operationId = request.operationId ∧
      call.approvalId = request.approvalId := by
  intro call hcall
  obtain ⟨i, hi⟩ := List.getElem?_of_mem hcall
  obtain ⟨_, -, hanswers⟩ := h.each i call hi
  exact ⟨hanswers.operationId, hanswers.approvalId⟩

/-- A call of the backend is made, or the process ends before or during it. -/
theorem triple_callBackend {P : SigningState → Prop}
    {R : Option (Except BackendError BackendSignature) → SigningState → Prop}
    {E : Stop → SigningState → Prop} (reply : BackendReply)
    {call : Option (Except BackendError BackendSignature) → BackendCall}
    (hasked : ∀ outcome s, P s → R outcome { s with calls := s.calls ++ [call outcome] })
    (hbefore : ∀ s, P s → E .crashed s) (hduring : ∀ s, R none s → E .crashed s) :
    Triple P (callBackend reply call) (fun outcome s => R (some outcome) s) E := by
  intro s hs
  unfold callBackend
  cases reply with
  | answered outcome => exact hasked (some outcome) s hs
  | crashBefore => exact hbefore s hs
  | crashDuring => exact hduring _ (hasked none s hs)

theorem triple_signChild (world : SignWorld) {hash : Digest32}
    (hshaped : request.Shaped env.crypto)
    (hfresh : ∀ call ∈ calls, call.operationId ≠ request.operationId)
    (hanswered : Answered env.crypto request made signatures)
    (hhash : request.orderedHashes[signatures.length]? = some hash) :
    Triple (Stage env.crypto occurs request (· = .dispatched) (calls ++ made) results)
      (signChild env world request signatures hash)
      (fun signature s => ∃ call : BackendCall,
        Stage env.crypto occurs request (· = .dispatched) (calls ++ (made ++ [call])) results s ∧
          call.Answers env.crypto request signatures.length signature)
      (Unanswered env.crypto occurs request calls) := by
  obtain ⟨input, hok, hinput⟩ := childInput_eq_ok hshaped hhash
  have howned : ∀ call : BackendCall, call.operationId = request.operationId →
      call.approvalId = request.approvalId → ∀ other ∈ made ++ [call],
        other.operationId = request.operationId ∧ other.approvalId = request.approvalId := by
    intro call hid happroval other hother
    rcases List.mem_append.mp hother with hother | hother
    · exact hanswered.owned other hother
    · rw [List.mem_singleton] at hother
      subst hother
      exact ⟨hid, happroval⟩
  unfold signChild
  refine Triple.bind (Q := fun input' s => (Stage env.crypto occurs request (· = .dispatched)
    (calls ++ made) results s) ∧ input' = input) (triple_lift (fun input' h s hs => ⟨hs, ?_⟩)
      fun stop h => ?_) fun input' => triple_of fun hinput' => ?_
  · rw [hok] at h; cases h; rfl
  · rw [hok] at h; cases h
  subst hinput'
  refine Triple.bind (triple_callBackend (R := fun outcome s => Stage env.crypto occurs request
    (· = .dispatched) (calls ++ (made ++ [⟨request.operationId, request.approvalId,
      signatures.length, ⟨providerAttemptId env request.operationDigest signatures.length,
        request.keyRef, request.cryptoSuite, input', request.expiresAtMs⟩, outcome⟩])) results s)
    _ (fun outcome s hs => ?_) (fun s hs => ?_) fun s hs => ?_) fun outcome => ?_
  · rw [← List.append_assoc]
    exact hs.asked hfresh hanswered hhash rfl rfl rfl hinput
  · exact ⟨hs.quiet.inv, made, hs.quiet.calls, hanswered.owned, by rintro f ⟨⟩⟩
  · exact ⟨hs.quiet.inv, _, hs.quiet.calls, howned _ rfl rfl, by rintro f ⟨⟩⟩
  · cases outcome with
    | error e => exact triple_failChild world hfresh hanswered (howned _ rfl rfl) rfl
    | ok answer =>
      unfold requireMatching
      dsimp only
      split
      · exact triple_quarantine world _ (howned _ rfl rfl)
      · next hmatch =>
        push Not at hmatch
        refine triple_pure fun s hs => ⟨_, hs, rfl, rfl, rfl, ⟨hash, hhash, hinput⟩, rfl,
          answer, rfl, ?_⟩
        rw [hmatch.1]

/-! ## The loop -/

theorem triple_signChildren (world : SignWorld) (hshaped : request.Shaped env.crypto)
    (hfresh : ∀ call ∈ calls, call.operationId ≠ request.operationId)
    (hanswered : Answered env.crypto request made signatures)
    (hrest : request.orderedHashes = before ++ hashes)
    (hbefore : before.length = signatures.length) :
    Triple (Stage env.crypto occurs request (· = .dispatched) (calls ++ made) results)
      (signChildren env world request signatures hashes)
      (fun signatures' s => ∃ made', Stage env.crypto occurs request (· = .dispatched)
        (calls ++ made') results s ∧ Answered env.crypto request made' signatures' ∧
          signatures'.length = request.orderedHashes.length)
      (Unanswered env.crypto occurs request calls) := by
  induction hashes generalizing signatures made before with
  | nil =>
    refine triple_pure fun s hs => ⟨made, hs, hanswered, ?_⟩
    rw [hrest, List.append_nil, hbefore]
  | cons hash hashes ih =>
    have hhash : request.orderedHashes[signatures.length]? = some hash := by
      rw [hrest, ← hbefore, List.getElem?_append_right (Nat.le_refl _), Nat.sub_self]
      rfl
    refine (triple_signChild world hshaped hfresh hanswered hhash).bind fun signature => ?_
    refine triple_exists fun call => triple_of fun hcall => ?_
    refine @ih _ _ (before ++ [hash]) (hanswered.snoc hcall) ?_ ?_
    · rw [hrest, List.append_assoc]
      rfl
    · simp [hbefore]

/-! ## The result -/

/-- Canonical JSON of an object is not empty. -/
def Crypto.WritesObjects (crypto : Crypto) : Prop := ∀ fields, crypto.jcs (.obj fields) ≠ ""

theorem SigningResult.normalized_ne_nil {crypto : Crypto} (h : crypto.WritesObjects)
    (result : SigningResult) : (result.normalized crypto).decode ≠ [] := by
  intro hempty
  have hutf8 : utf8 (crypto.jcs result.json) = utf8 "" := hempty
  exact h _ (utf8_injective hutf8)

theorem triple_commitResult (hjcs : env.crypto.WritesObjects) (world : SignWorld)
    (hoccurs : occurs request) (hanswered : Answered env.crypto request made signatures)
    (hlength : signatures.length = request.orderedHashes.length) :
    Triple (Stage env.crypto occurs request (· = .dispatched) (calls ++ made) results)
      (commitResult env world request signatures)
      (fun result s => SigningInv env.crypto occurs s ∧ (∃ made, s.calls = calls ++ made) ∧
        result.Fulfils env.crypto s.calls request)
      (Unanswered env.crypto occurs request calls) := by
  have hfulfils := @Answered.fulfils _ calls _ _ _ hanswered hlength
  refine triple_write_bind ?_
  refine Triple.bind (Q := fun _ => Quiet env.crypto occurs (calls ++ made)
    (results ++ [signingResult env.crypto request signatures])) ?_
    fun _ => triple_pure fun s hs => ⟨hs.inv, ⟨made, hs.calls⟩, hs.calls ▸ hfulfils⟩
  refine Triple.pre (P := Stage env.crypto occurs request (· = .dispatched) (calls ++ made)
    (results ++ [signingResult env.crypto request signatures])) ?_ ?_
  · refine (triple_storageCall (G := Unavailable) (fun s e' => Stage.background)
      (fun _ => Stage.quiet) quiet_stopped (fun _ => id) fun s hs => ?_).post (fun _ _ => id)
      fun stop s hs => Quiet.refused hs hanswered.owned fun f hf _ => hf.ambiguous
    obtain ⟨op, hop, hfor, hstate⟩ := hs.operation.row
    obtain ⟨row, db, heq, hmoved⟩ | ⟨f, e', heq, hdb, hf⟩ := commitOperationResult_cases env.crypto
      s.engine request.operationId
      (SigningResult.normalized_ne_nil hjcs (signingResult env.crypto request signatures))
    · have hledger : LedgerInv db := by
        have hstep : (signStep env.crypto env.config s.engine (.commitOperationResult
            request.operationId
            ((signingResult env.crypto request signatures).normalized env.crypto))).db = db := by
          rw [signStep, heq]
        exact hstep ▸ signStep_ledgerInv _ hs.quiet.inv.ledger
      rw [hmoved.present] at hop
      cases hop
      have hquiet : Quiet env.crypto occurs (calls ++ made)
          (results ++ [signingResult env.crypto request signatures])
          { s with engine := { s.engine with db } } := by
        refine ⟨hs.quiet.inv.moved hledger hmoved rfl rfl rfl (fun h => by cases h)
          (fun h => by cases h) fun _ => ?_, hs.quiet.calls, hs.quiet.results⟩
        refine ⟨request, signingResult env.crypto request signatures, hoccurs,
          ⟨rfl, hfor.digest, hfor.approvalId, hfor.count⟩, ?_, rfl, hs.quiet.calls ▸ hfulfils⟩
        rw [hs.quiet.results]
        exact List.mem_append_right _ (List.mem_singleton_self _)
      exact .inl ⟨(), _, heq, hquiet, hquiet⟩
    · exact .inr ⟨f, e', heq, hdb, hf ⟨op, hop, hstate⟩⟩
  · rintro _ ⟨s, hs, rfl⟩
    refine ⟨⟨hs.quiet.inv.written _, hs.quiet.calls, ?_⟩, hs.operation⟩
    rw [← hs.quiet.results]

/-! ## The call -/

theorem triple_signFresh (hjcs : env.crypto.WritesObjects) (world : SignWorld)
    (hoccurs : occurs request) (hshaped : request.Shaped env.crypto) :
    Triple (Stage env.crypto occurs request
        (fun state => state = .reserved ∨ state = .committed) calls results)
      (signFresh env world request)
      (fun result s => SigningInv env.crypto occurs s ∧ (∃ made, s.calls = calls ++ made) ∧
        result.Fulfils env.crypto s.calls request)
      (Unanswered env.crypto occurs request calls) := by
  have hnil : ∀ (stop : Stop) s, Stopped (Quiet env.crypto occurs calls results)
      (fun _ => True) stop s → Unanswered env.crypto occurs request calls stop s :=
    fun _ _ => Quiet.refused_nil
  refine ((triple_dispatch world.dispatch request.keyRef (providerAttemptIds env request)).post
    (fun _ _ => id) hnil).bind fun _ => triple_of fun hfresh => ?_
  refine triple_read_bind fun backends => Triple.bind (Q := fun _ => Stage env.crypto occurs
    request (· = .dispatched) calls results) ?_ fun _ => ?_
  · exact (triple_refuse (fun s hs => hs.1.quiet) fun _ _ s hs => hs.1).post (fun _ _ => id) hnil
  have hstart : Answered env.crypto request [] [] := ⟨rfl, fun i call h => by cases h⟩
  have hloop := @triple_signChildren env occurs _ _ _ results _ [] request.orderedHashes world
    hshaped hfresh hstart rfl rfl
  rw [List.append_nil] at hloop
  refine hloop.bind fun signatures => triple_exists fun made => ?_
  intro s hs
  exact triple_commitResult hjcs world hoccurs hs.2.1 hs.2.2 s hs.1

/-- What fulfils one request fulfils another one for the same signatures. -/
theorem SigningResult.Fulfils.congr {crypto : Crypto} {original : UnsignedSignRequest}
    {result : SigningResult} (h : result.Fulfils crypto calls original)
    (hid : original.operationId = request.operationId)
    (happroval : original.approvalId = request.approvalId)
    (hsame : original.orderedHashes = request.orderedHashes ∧
      original.cryptoSuite = request.cryptoSuite) : result.Fulfils crypto calls request := by
  refine ⟨hsame.1 ▸ h.length, fun i signature hi => ?_⟩
  obtain ⟨call, hcall, hanswers⟩ := h.answered i signature hi
  refine ⟨call, hcall, hanswers.operationId.trans hid, hanswers.approvalId.trans happroval,
    hanswers.child, hsame.1 ▸ hanswers.hash, hanswers.suite.trans hsame.2, ?_⟩
  rw [← hsame.2]
  exact hanswers.answer

/-- `serde_json` reads back what `serde_jcs` wrote. -/
def SigningEnvironment.ReadsBack (env : SigningEnvironment) (result : SigningResult) : Prop :=
  env.parseResult (result.normalized env.crypto).decode = .ok result

/-- What an answered call of `sign` leaves. -/
def Signed (env : SigningEnvironment) (occurs : UnsignedSignRequest → Prop)
    (request : UnsignedSignRequest) (calls : List BackendCall) (results : List SigningResult)
    (result : SigningResult) (s : SigningState) : Prop :=
  SigningInv env.crypto occurs s ∧ (∃ made, s.calls = calls ++ made) ∧
    ((∀ result ∈ results, env.ReadsBack result) → result.Fulfils env.crypto s.calls request)

theorem Quiet.recovered (hidentity : IdentityFixes env.crypto occurs) (hoccurs : occurs request)
    (h : Quiet env.crypto occurs calls results s)
    (hrecovered : Recovered env.crypto request text s.engine.db)
    (hparse : env.parseResult text.decode = .ok result) :
    Signed env occurs request calls results result s := by
  refine ⟨h.inv, ⟨[], by rw [List.append_nil]; exact h.calls⟩, fun hreads => ?_⟩
  obtain ⟨row, hrow, hfor, hstate, htext⟩ := hrecovered
  obtain ⟨original, stored, hooccurs, hooriginal, hstored, hnormalized, hfulfils⟩ :=
    h.inv.stored _ row hrow hstate
  rw [htext] at hnormalized
  cases hnormalized
  have hread := hreads stored (h.results ▸ hstored)
  rw [SigningEnvironment.ReadsBack, hparse] at hread
  cases hread
  refine hfulfils.congr hooriginal.id (hooriginal.approvalId.symm.trans hfor.approvalId) ?_
  exact hidentity original request hooccurs hoccurs (hooriginal.digest.symm.trans hfor.digest)

theorem triple_sign (hjcs : env.crypto.WritesObjects) (hidentity : IdentityFixes env.crypto occurs)
    (world : SignWorld) {request : SignRequest} (hoccurs : occurs request.unsigned) :
    Triple (Quiet env.crypto occurs calls results) (sign env world request)
      (Signed env occurs request.unsigned calls results)
      (Unanswered env.crypto occurs request.unsigned calls) := by
  have hnil : ∀ (stop : Stop) s, Stopped (Quiet env.crypto occurs calls results)
      (fun _ => True) stop s → Unanswered env.crypto occurs request.unsigned calls stop s :=
    fun _ _ => Quiet.refused_nil
  refine ((triple_admission hidentity hoccurs world).post (fun _ _ => id) hnil).bind fun a => ?_
  refine triple_of fun hshaped => ?_
  refine ((triple_recoverResult world a).post (fun _ _ => id) hnil).bind fun stored => ?_
  cases stored with
  | some text =>
    refine (triple_refuse (fun s hs => hs.1.quiet) fun result hparse s hs => ?_).post
      (fun _ _ => id) hnil
    refine hs.1.quiet.recovered hidentity hoccurs (hs.2 text rfl) ?_
    cases hread : env.parseResult text.decode with
    | ok r => rw [hread] at hparse; cases hparse; rfl
    | error cause => rw [hread] at hparse; cases hparse
  | none =>
    have hfresh : Triple (Stage env.crypto occurs request.unsigned
        (fun state => state = .reserved ∨ state = .committed) calls results) _ _ _ :=
      triple_signFresh hjcs world hoccurs hshaped
    refine (hfresh.post (fun result s hs => ⟨hs.1, hs.2.1, fun _ => hs.2.2⟩)
      fun _ _ => id).pre fun s hs => ?_
    exact hs.1.mono fun state => SignAuthorization.found_or

end

/-! ## A committed operation -/

section
variable {env : SigningEnvironment} {calls : List BackendCall} {text : Base64UrlBytes}

/-- The operation is committed with a text, and nothing was asked of a backend. -/
def Committed (operationId : OperationId) (text : Base64UrlBytes) (calls : List BackendCall)
    (s : SigningState) : Prop :=
  (∃ row, s.engine.db.operations.get? operationId = some row ∧ row.state = .committed ∧
    row.normalizedResult = some text) ∧ s.calls = calls

theorem Committed.of_operations (h : Committed oid text calls s)
    (hops : e'.db.operations = s.engine.db.operations) :
    Committed oid text calls { s with engine := e' } := by
  obtain ⟨⟨row, hrow, hrest⟩, hcalls⟩ := h
  exact ⟨⟨row, by rw [hops]; exact hrow, hrest⟩, hcalls⟩

theorem Committed.background (s : SigningState) (e' : Engine) (h : Committed oid text calls s)
    (hstep : BackgroundStep s.engine.db e'.db) : Committed oid text calls { s with engine := e' } :=
  h.of_operations hstep.operations_eq

theorem committed_stopped (s : SigningState) (e' : Engine) (h : Committed oid text calls s)
    (hdb : e'.db = s.engine.db) : Committed oid text calls { s with engine := e' } :=
  h.of_operations (congrArg Db.operations hdb)

/-- A request for a committed operation is admitted as a retry, or refused. -/
theorem triple_admit_committed (world : SignWorld) (request : SignRequest) :
    Triple (Committed request.unsigned.operationId text calls) (admission env world request)
      (fun a s => Committed request.unsigned.operationId text calls s ∧ a = .sameOperationRetry)
      (Stopped (Committed request.unsigned.operationId text calls) fun _ => True) := by
  refine (triple_storageRead Committed.background (fun _ => id) committed_stopped).bind
    fun required => ?_
  refine Triple.bind (triple_refuse (Q := fun _ => Committed request.unsigned.operationId text
    calls) (fun s hs => hs.1) fun clock _ s hs => hs.1) fun clock => ?_
  refine triple_storageCall Committed.background (fun _ => id) committed_stopped
    (fun _ _ => trivial) fun s hs => ?_
  obtain ⟨a, db, heq, hauthorized⟩ | ⟨f, e', heq, hdb⟩ :=
    authorizeSign_cases env.crypto env.config s.engine world.answers request clock
  · obtain ⟨row, hrow, -⟩ := hs.1
    obtain ⟨ha, hops, -⟩ := hauthorized.known row hrow
    exact .inl ⟨a, _, heq, ⟨hs.of_operations hops, ha⟩, hs.of_operations hops⟩
  · exact .inr ⟨f, e', heq, hdb, trivial⟩

theorem Committed.storedOperationResult (h : Committed oid text calls s) :
    storedOperationResult oid s.engine.db = some text := by
  obtain ⟨⟨row, hrow, hstate, htext⟩, -⟩ := h
  unfold BloomSigner.storedOperationResult
  rw [hrow, Option.filter_some, if_pos (decide_eq_true hstate)]
  exact htext

/-- A retry of a committed operation asks no backend and answers with what the stored text reads
as. -/
theorem triple_sign_committed (world : SignWorld) (request : SignRequest) :
    Triple (Committed request.unsigned.operationId text calls) (sign env world request)
      (fun result s => s.calls = calls ∧ env.parseResult text.decode = .ok result)
      (fun _ s => s.calls = calls) := by
  refine ((triple_admit_committed world request).post (fun _ _ => id)
    fun _ _ hs => hs.1.2).bind fun a => triple_of fun ha => ?_
  subst ha
  have hread : Triple (Committed request.unsigned.operationId text calls)
      (recoverResult env world request.unsigned.operationId .sameOperationRetry)
      (fun stored s => s.calls = calls ∧ stored = some text) (fun _ s => s.calls = calls) := by
    change Triple _ (storageRead env world.storedResult fun db =>
      .ok (BloomSigner.storedOperationResult request.unsigned.operationId db)) _ _
    refine (triple_storageRead Committed.background (fun _ => id) committed_stopped).post
      (fun stored s hs => ⟨hs.1.2, ?_⟩) fun _ s hs => hs.1.2
    obtain ⟨hs, hstored⟩ := hs
    rw [hs.storedOperationResult] at hstored
    cases hstored
    rfl
  refine hread.bind fun stored => triple_of fun hstored => ?_
  subst hstored
  refine triple_lift (fun result hparse s hs => ⟨hs, ?_⟩) fun _ _ _ hs => hs
  cases hread : env.parseResult text.decode with
  | ok r => rw [hread] at hparse; cases hparse; rfl
  | error cause => rw [hread] at hparse; cases hparse

end

/-- A retry that is admitted and whose result is read answers with it. -/
theorem sign_committed_ok {env : SigningEnvironment} {world : SignWorld} {request : SignRequest}
    (hs : Committed request.unsigned.operationId text calls s)
    (hadmission : (admission env world request s).1 = .ok a) (hdone : world.storedResult.fate = .done)
    (hparse : env.parseResult text.decode = .ok result) :
    (sign env world request s).1 = .ok result := by
  have hend := @triple_admit_committed env _ _ world request s hs
  cases hrun : admission env world request s with
  | mk outcome t =>
    rw [hrun] at hend hadmission
    cases hadmission
    obtain ⟨ht, rfl⟩ := hend
    have hmeanwhile := meanwhile_of_step env world.storedResult Committed.background ht
    have hrecover : recoverResult env world request.unsigned.operationId .sameOperationRetry t =
        (.ok (some text), { t with engine := world.storedResult.engine env t }) := by
      have hstored := hmeanwhile.storedOperationResult
      unfold recoverResult storageRead storageCall
      dsimp only at hstored ⊢
      rw [hdone]
      dsimp only
      rw [hstored]
      rfl
    unfold sign
    rw [bind_of_ok hrun, bind_of_ok hrecover]
    show (env.parseResult text.decode |>.mapError _ |>.mapError _) = _
    rw [hparse]
    rfl

/-! ## Runs -/

/-- The octets an operation digest hashes. -/
def identityPreimage (crypto : Crypto) (request : UnsignedSignRequest) : List UInt8 :=
  utf8 "bloom-sign-operation/v1" ++ utf8 (crypto.jcs request.operationIdentityJson)

/-- The hash and the writer tell the identities of the requests apart. -/
structure IdentitiesDistinct (crypto : Crypto) (requests : List UnsignedSignRequest) : Prop where
  sha : CollisionFreeOn crypto.sha256 (requests.map (identityPreimage crypto))
  jcs : ∀ r ∈ requests, ∀ r' ∈ requests,
    crypto.jcs r.operationIdentityJson = crypto.jcs r'.operationIdentityJson →
      r.operationIdentityJson = r'.operationIdentityJson

theorem IdentitiesDistinct.fixes {crypto : Crypto} (h : IdentitiesDistinct crypto requests) :
    IdentityFixes crypto (· ∈ requests) := by
  intro r r' hr hr' hdigest
  have hpreimage := h.sha _ (List.mem_map_of_mem hr) _ (List.mem_map_of_mem hr') hdigest
  have hjson := h.jcs r hr r' hr' (utf8_injective (List.append_cancel_left hpreimage))
  unfold UnsignedSignRequest.operationIdentityJson at hjson
  simp only [Json.obj.injEq, List.cons.injEq, Prod.mk.injEq, true_and, and_true] at hjson
  obtain ⟨-, -, -, hsuite, -, hhashes, -⟩ := hjson
  exact ⟨listJson_injective Digest32.json_injective hhashes, CryptoSuite.json_injective hsuite⟩

theorem IdentitiesDistinct.sublist {crypto : Crypto} (h : IdentitiesDistinct crypto requests)
    (hsub : ∀ r ∈ requests', r ∈ requests) : IdentitiesDistinct crypto requests' := by
  refine ⟨fun a ha b hb => ?_, fun r hr r' hr' => h.jcs r (hsub r hr) r' (hsub r' hr')⟩
  obtain ⟨r, hr, rfl⟩ := List.mem_map.mp ha
  obtain ⟨r', hr', rfl⟩ := List.mem_map.mp hb
  exact h.sha _ (List.mem_map_of_mem (hsub r hr)) _ (List.mem_map_of_mem (hsub r' hr'))

section
variable {env : SigningEnvironment} {occurs : UnsignedSignRequest → Prop}
  (hjcs : env.crypto.WritesObjects) (hidentity : IdentityFixes env.crypto occurs)

include hjcs hidentity

theorem SigningInv.sign (h : SigningInv env.crypto occurs s) (world : SignWorld)
    {request : SignRequest} (hoccurs : occurs request.unsigned) :
    Ends (Signed env occurs request.unsigned s.calls s.results)
      (Unanswered env.crypto occurs request.unsigned s.calls)
      (BloomSigner.sign env world request s) :=
  triple_sign hjcs hidentity world hoccurs s ⟨h, rfl, rfl⟩

theorem signingStep_inv (h : SigningInv env.crypto occurs s) (step : SigningStep)
    (hoccurs : ∀ r ∈ SigningStep.requests [step], occurs r) :
    SigningInv env.crypto occurs (signingStep env s step) := by
  cases step with
  | sign world request compiled =>
    have hend := h.sign hjcs hidentity world (hoccurs _ (List.mem_singleton_self _))
    rw [signingStep]
    cases hrun : BloomSigner.sign env world request s with
    | mk outcome s' =>
      rw [hrun] at hend
      cases outcome with
      | ok result => exact hend.1
      | error stop =>
        cases stop with
        | failed f => exact hend.1
        | crashed => exact hend.1.restart env compiled
  | background call => exact h.background (engineStep_background call)
  | restart compiled => exact h.restart env compiled

theorem run_signingInv (e : Engine) {steps : List SigningStep}
    (hoccurs : ∀ r ∈ SigningStep.requests steps, occurs r) :
    SigningInv env.crypto occurs (run (signingStep env) (.start e) steps) := by
  refine run_invariant_of (fun s step hstep h => ?_) (signingInv_start env.crypto occurs e)
  refine signingStep_inv hjcs hidentity h step fun r hr => hoccurs r ?_
  obtain ⟨step', hstep', hrequest⟩ := List.mem_filterMap.mp hr
  rw [List.mem_singleton] at hstep'
  subst hstep'
  exact List.mem_filterMap.mpr ⟨step', hstep, hrequest⟩

end

/-- One call of `sign` after any run. When a call of it may have made a signature and it fails, its
operation keeps its budget and the error leaves the signature open; an operation is released only
when none of its calls may have made a signature; an answer holds one signature for each hash of the
request, in order and with its suite, each made by a call for that hash; and a committed operation
asks no backend again: its retry answers with the stored result, whenever it is admitted and the
result is read. -/
theorem run_sign_outcome (env : SigningEnvironment) (e : Engine) (steps : List SigningStep)
    (world : SignWorld) (request : SignRequest) (hjcs : env.crypto.WritesObjects)
    (hdistinct : IdentitiesDistinct env.crypto
      (request.unsigned :: SigningStep.requests steps))
    (hreads : ∀ result ∈ (run (signingStep env) (.start e) steps).results,
      env.ReadsBack result) :
    let s := run (signingStep env) (.start e) steps
    let outcome := (sign env world request s).1
    let s' := (sign env world request s).2
    ∃ made, s'.calls = s.calls ++ made ∧
      (∀ f, outcome = .error (.failed f) → (∃ call ∈ made, call.maySign = true) →
        (∃ row, s'.engine.db.operations.get? request.unsigned.operationId = some row ∧
          row.charges request.unsigned.approvalId = true) ∧ Ambiguous f) ∧
      (∀ oid row, s'.engine.db.operations.get? oid = some row → row.state = .released →
        ∀ call ∈ s'.calls, call.operationId = oid → call.maySign = false) ∧
      (∀ result, outcome = .ok result →
        result.Fulfils env.crypto s'.calls request.unsigned) ∧
      ∀ row, s.engine.db.operations.get? request.unsigned.operationId = some row →
        row.state = .committed →
        made = [] ∧ ∃ stored, row.normalizedResult = some (stored.normalized env.crypto) ∧
          (∀ result, outcome = .ok result → result = stored) ∧
          ((∃ a, (admission env world request s).1 = .ok a) → world.storedResult.fate = .done →
            outcome = .ok stored) := by
  intro s outcome s'
  have hidentity := hdistinct.fixes
  have hinv : SigningInv env.crypto (· ∈ request.unsigned :: SigningStep.requests steps) s :=
    run_signingInv hjcs hidentity e fun r hr => List.mem_cons_of_mem _ hr
  have hend := hinv.sign hjcs hidentity world List.mem_cons_self
  obtain ⟨hinv', made, hmade⟩ := hend.either
    (P := fun t => SigningInv env.crypto (· ∈ request.unsigned :: SigningStep.requests steps) t ∧
      ∃ made, t.calls = s.calls ++ made)
    (fun _ _ h => ⟨h.1, h.2.1⟩) fun _ _ h => ⟨h.1, h.2.imp fun _ h => h.1⟩
  refine ⟨made, hmade, fun f hf hsigned => ?_, fun oid row hrow hreleased call hcall hid => ?_,
    fun result hresult => (hend.ok hresult).2.2 hreads, fun row hrow hstate => ?_⟩
  · obtain ⟨-, made', hmade', howned, hambiguous⟩ := hend.error hf
    obtain rfl : made = made' := List.append_cancel_left (hmade.symm.trans hmade')
    obtain ⟨call, hcall, hmay⟩ := hsigned
    obtain ⟨hid, happroval⟩ := howned call hcall
    obtain ⟨row, hrow, -, howner, -, hkept⟩ :=
      hinv'.recorded call (hmade ▸ List.mem_append_right _ hcall)
    refine ⟨⟨row, hid ▸ hrow, ?_⟩, hambiguous f rfl ⟨call, hcall, hmay⟩⟩
    rw [OperationRow.charges, decide_eq_true_eq]
    refine ⟨howner.trans happroval, fun hreleased => ?_⟩
    rw [hkept hreleased] at hmay
    cases hmay
  · obtain ⟨row', hrow', -, -, -, hkept⟩ := hinv'.recorded call hcall
    rw [hid, hrow] at hrow'
    cases hrow'
    exact hkept hreleased
  · obtain ⟨original, stored, -, -, hstored, hnormalized, -⟩ := hinv.stored _ row hrow hstate
    have hcommitted : Committed request.unsigned.operationId (stored.normalized env.crypto)
        s.calls s := ⟨⟨row, hrow, hstate, hnormalized⟩, rfl⟩
    have hretry := @triple_sign_committed env _ _ world request s hcommitted
    have hsame : s'.calls = s.calls :=
      hretry.either (P := fun t => t.calls = s.calls) (fun _ _ h => h.1) fun _ _ h => h
    rw [hmade, List.append_right_eq_self] at hsame
    refine ⟨hsame, stored, hnormalized, fun result hresult => ?_, fun hadmission hdone => ?_⟩
    · have hread := hreads stored hstored
      rw [SigningEnvironment.ReadsBack, (hretry.ok hresult).2] at hread
      cases hread
      rfl
    · obtain ⟨a, hadmission⟩ := hadmission
      exact sign_committed_ok hcommitted hadmission hdone (hreads stored hstored)

/-! ## A signature of one key -/

theorem Crypto.writesObjects_standIn : Crypto.standIn.WritesObjects := by
  intro fields h
  have hlength := congrArg String.length h
  simp only [Crypto.standIn, Json.write, String.length_append] at hlength
  simp at hlength

/-- Requests with one identity have nothing to be told apart by. -/
theorem identitiesDistinct_of_same (crypto : Crypto) (json : Json)
    {requests : List UnsignedSignRequest}
    (h : ∀ r ∈ requests, r.operationIdentityJson = json) : IdentitiesDistinct crypto requests := by
  refine ⟨fun a ha b hb _ => ?_, fun r hr r' hr' _ => (h r hr).trans (h r' hr').symm⟩
  obtain ⟨r, hr, rfl⟩ := List.mem_map.mp ha
  obtain ⟨r', hr', rfl⟩ := List.mem_map.mp hb
  rw [identityPreimage, identityPreimage, h r hr, h r' hr']

def kmsKey : KeyRef := { KeyRef.root ⟨"first"⟩ 1 with backend := ⟨"aws-kms"⟩ }

def kmsBackends : Backends := (∅ : Backends).set (kmsKey.backend, ⟨"first"⟩) (.awsKms ∅)

/-- An engine where one key is enrolled. -/
def kmsEngine : Engine :=
  { Engine.blank boundKeys kmsBackends with
    db := { enrolledKeys := (∅ : Table Digest32 EnrolledKeyRow).set kmsKey.publicKeyFingerprint {
      keyRef := kmsKey
      available := true
      authorityClass := .walletRoot
      walletId := some ⟨"first"⟩ } } }

def kmsTerms : SealedApprovalTerms := .single ⟨"first"⟩ kmsKey 50000

/-- The signature the approval of the key allows, asked for by an attempt. -/
theorem length_attempt (attempt : UInt8) : (List.replicate 32 attempt).length = 32 :=
  List.length_replicate

def kmsRequest (attempt : UInt8) : SignRequest :=
  .under .standIn brokerKey kmsTerms ⟨List.replicate 32 attempt, length_attempt attempt⟩
    ⟨"operation-1"⟩

def signingStandIn : SigningEnvironment :=
  { standInService with
    crypto := .standIn
    bootEpochBytes := List.replicate 16 0
    parseResult := fun _ => .error "nothing is read" }

/-- Nothing fails and the backend signs. -/
def SignWorld.calm : SignWorld where
  approvalTerms := ⟨[], .done⟩
  clock _ := .ok .sample
  answers := everyKey
  authorization := ⟨[], .done⟩
  storedResult := ⟨[], .done⟩
  dispatch := ⟨[], .done⟩
  children _ := .answered (.ok {
    cryptoSuite := .secp256k1Keccak256Recoverable
    encoding := .secp256k1Recoverable65
    bytes := ⟨List.replicate 65 7⟩
    providerCorrelationId := none })
  finalization := ⟨[], .done⟩

def persistKmsApproval : SigningStep :=
  .background ⟨.sign (.persistApproval everyKey kmsTerms none), rfl⟩

theorem run_sign_outcome_single :
    ∃ result, (sign signingStandIn .calm (kmsRequest 0)
        (run (signingStep signingStandIn) (.start kmsEngine) [persistKmsApproval])).1 = .ok result ∧
      result.Fulfils signingStandIn.crypto (sign signingStandIn .calm (kmsRequest 0)
        (run (signingStep signingStandIn) (.start kmsEngine) [persistKmsApproval])).2.calls
        (kmsRequest 0).unsigned := by
  have hdistinct : IdentitiesDistinct .standIn
      ((kmsRequest 0).unsigned :: SigningStep.requests [persistKmsApproval]) :=
    identitiesDistinct_of_same .standIn _ fun r hr => congrArg _ (List.mem_singleton.mp hr)
  have hreads : ∀ result ∈ (run (signingStep signingStandIn) (.start kmsEngine)
      [persistKmsApproval]).results, signingStandIn.ReadsBack result := List.forall_mem_nil _
  obtain ⟨-, -, -, -, hanswer, -⟩ := run_sign_outcome signingStandIn kmsEngine
    [persistKmsApproval] .calm (kmsRequest 0) Crypto.writesObjects_standIn hdistinct hreads
  have hok : (sign signingStandIn .calm (kmsRequest 0) (run (signingStep signingStandIn)
      (.start kmsEngine) [persistKmsApproval])).1.isOk = true := by decide +kernel
  obtain ⟨result, hresult⟩ := ok_of_isOk hok
  exact ⟨result, hresult, hanswer result hresult⟩

end BloomSigner
