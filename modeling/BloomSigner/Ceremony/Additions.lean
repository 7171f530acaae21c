import BloomSigner.Ceremony.Signer
import BloomSigner.Lib.Holders

/-! # Live additions of a wallet

A pairing whose source approved it holds the unlocked wallet. The pairings are sessions that hold
their wallet: four of them are seated at most, and a commit is made by a pairing whose source is
still enrolled. That a wallet is held once is looked at when a source is prepared, not when it is
approved. -/

namespace BloomSigner

open Lib Lib.Program

/-- The pairing holds unlocked wallet material or a handoff capability. -/
def CrossSurfacePairState.opened (pair : CrossSurfacePairState) : Bool :=
  pair.unlocked.isSome || pair.capability.isSome || pair.handoff.isSome

def CrossSurfacePairState.wallet (pair : CrossSurfacePairState) : Option Token :=
  pair.prepared.map (·.walletId)

structure CrossSurfacePairState.Good (pairingId : Digest32) (pair : CrossSurfacePairState) :
    Prop where
  key : pair.pairing.pairingId = pairingId
  prepared : pair.opened = true → pair.prepared.isSome = true
  handoff : pair.capability.isSome = true → pair.handoff.isSome = true

/-- Pairings as sessions that hold their wallet. -/
def pairHolders : Holders Digest32 CrossSurfacePairState Token where
  good pairingId pair := pair.Good pairingId
  holds pair := if pair.opened then pair.wallet else none
  seated pair := pair.unlocked.isSome
  seats := 4

section
variable {pair pair' : CrossSurfacePairState} {pairingId : Digest32}

theorem opened_iff : pair.opened = true ↔
    pair.unlocked.isSome = true ∨ pair.capability.isSome = true ∨ pair.handoff.isSome = true := by
  rw [CrossSurfacePairState.opened, Bool.or_eq_true, Bool.or_eq_true, or_assoc]

theorem holds_eq_some :
    pairHolders.holds pair = some w ↔ pair.opened = true ∧ pair.wallet = some w := by
  show (if pair.opened then pair.wallet else none) = some w ↔ _
  split
  · next h => exact ⟨fun hw => ⟨h, hw⟩, And.right⟩
  · next h => exact ⟨fun hw => (by cases hw), fun hw => absurd hw.1 h⟩

theorem isSome_of_kept {a b : Option α} (h : a = b ∨ a = none) (ha : a.isSome = true) :
    b.isSome = true := by
  rcases h with rfl | rfl
  · exact ha
  · cases ha

/-- A change that keeps what was prepared and adds no secret. -/
theorem amends_of (h : pair.Good pairingId) (hpairing : pair'.pairing = pair.pairing)
    (hprepared : pair'.prepared = pair.prepared)
    (hunlocked : pair'.unlocked = pair.unlocked ∨ pair'.unlocked = none)
    (hhandoff : (pair'.capability = pair.capability ∧ pair'.handoff = pair.handoff) ∨
      (pair'.capability = none ∧ pair'.handoff = none)) :
    pairHolders.Amends pairingId pair pair' := by
  have hcapability : pair'.capability = pair.capability ∨ pair'.capability = none :=
    hhandoff.imp And.left And.left
  have hhanded : pair'.handoff = pair.handoff ∨ pair'.handoff = none :=
    hhandoff.imp And.right And.right
  have hopened : pair'.opened = true → pair.opened = true := by
    rw [opened_iff, opened_iff]
    exact Or.imp (isSome_of_kept hunlocked)
      (Or.imp (isSome_of_kept hcapability) (isSome_of_kept hhanded))
  refine ⟨⟨hpairing ▸ h.key, fun hopen => ?_, fun hsome => ?_⟩, fun w hw => ?_,
    isSome_of_kept hunlocked⟩
  · rw [hprepared]
    exact h.prepared (hopened hopen)
  · rcases hhandoff with ⟨hc, hh⟩ | ⟨hc, -⟩
    · rw [hh]
      exact h.handoff (hc ▸ hsome)
    · rw [hc] at hsome
      cases hsome
  · rw [holds_eq_some] at hw ⊢
    refine ⟨hopened hw.1, ?_⟩
    rw [CrossSurfacePairState.wallet, ← hprepared]
    exact hw.2

end

/-! ## What a call does to the pairings -/

/-- A program whose every run changes the pairings in these ways only. -/
abbrev Pairs (free : Prop) (x : ServiceM α) : Prop :=
  Keeps (fun s s' : Service => pairHolders.Steps free s.crossSurface s'.crossSurface) x

section
variable {env : ServiceEnvironment} {sys : CallSystem} {free : Prop} {s : Service}

theorem pairs_permits (env : ServiceEnvironment) (t : Nat) (free : Prop) :
    Permits env t fun s s' => pairHolders.Steps free s.crossSurface s'.crossSurface where
  refl _ := .refl
  trans _ _ _ := .trans
  applied _ _ h := by rw [h.crossSurface]
  pending _ _ := .refl
  status _ _ _ _ := .refl
  custody _ _ _ _ _ _ _ _ := .refl
  approval _ _ _ _ _ _ _ := .refl

theorem pairs_drop (s : Service) (p : Digest32 → CrossSurfacePairState → Bool) :
    pairHolders.Steps free s.crossSurface (s.crossSurface.erase p) := .single (.drop p)

theorem pairs_retainPairs (keep : CrossSurfacePairState → Bool) : Pairs free (retainPairs keep) :=
  fun s => pairs_drop s fun _ pair => !keep pair

theorem pairs_removePair (pairingId : Digest32) : Pairs free (removePair pairingId) :=
  fun s => pairs_drop s fun id _ => id = pairingId

theorem pairs_updatePair {pairingId : Digest32} {f : CrossSurfacePairState → CrossSurfacePairState}
    (hf : ∀ pair, pair.Good pairingId → pairHolders.Amends pairingId pair (f pair)) :
    Pairs free (updatePair pairingId f) := by
  intro s
  show pairHolders.Steps free s.crossSurface (s.crossSurface.update pairingId f)
  exact .single (.amend fun pair _ hgood => hf pair hgood)

theorem pairs_cancel (op : OperationId) : Pairs free (cancel env op) := by
  have h := pairs_permits env 0 free
  refine h.andThen (h.read _) fun s => h.andThen (h.lift _) fun _ => ?_
  split
  · exact h.andThen (h.lift _) fun receipt => h.andThen (h.lift _) fun _ =>
      h.andThen (h.persistStatus _) fun _ => pairs_removePair _
  · split
    · exact h.lift _
    · exact h.andThen (h.setPending fun _ => ⟨_, rfl⟩) fun _ => h.persistStatus _

theorem pairs_pairStart (request : CrossSurfacePairStartRequest) (t : Nat) :
    Pairs free (crossSurfacePairStart env sys request t) := by
  have h := pairs_permits env t free
  refine h.andThen (h.read _) fun s => h.andThen (h.lift _) fun _ =>
    h.andThen (pairs_retainPairs _) fun _ => h.andThen (h.read _) fun s => ?_
  split
  · exact h.andThen (h.lift _) fun _ => h.pure _
  · refine h.andThen (h.lift _) fun _ => h.andThen (h.lift _) fun pairingId =>
      h.andThen (h.lift _) fun _ => h.andThen (fun s => ?_) fun _ => h.pure _
    exact .single (.enter ⟨rfl, fun hopen => (by cases hopen), fun hsome => (by cases hsome)⟩
      rfl rfl)

/-- A computation that fails leaves the pairings. -/
theorem steps_lift_bind {r : Except Failure α} {f : α → ServiceM β}
    {t : Table Digest32 CrossSurfacePairState} (hrefl : pairHolders.Steps free t s.crossSurface)
    (h : ∀ a, r = .ok a → pairHolders.Steps free t (f a s).2.crossSurface) :
    pairHolders.Steps free t ((liftM r >>= f) s).2.crossSurface := by
  cases r with
  | error e => exact hrefl
  | ok a => exact h a rfl

theorem pairs_prepareSource (request : CrossSurfacePrepareSourceRequest) (t : Nat) :
    Pairs free (crossSurfacePrepareSource env sys request t) := by
  intro s
  unfold crossSurfacePrepareSource findPair
  rw [read_bind]
  dsimp only [id]
  refine steps_lift_bind .refl fun source _ => steps_lift_bind .refl fun _ _ =>
    steps_lift_bind .refl fun _ _ => ?_
  rw [Program.bind_assoc, read_bind]
  refine steps_lift_bind .refl fun pair hpair => steps_lift_bind .refl fun _ _ => ?_
  cases hnone : pair.prepared with
  | some prepared => exact steps_lift_bind .refl fun _ _ => .refl
  | none =>
    refine steps_lift_bind .refl fun fresh _ => ?_
    obtain ⟨prepared, sourceRecipient, destinationRecipient⟩ := fresh
    let f : CrossSurfacePairState → CrossSurfacePairState := fun pair => { pair with
      prepared := some prepared
      sourceRecipient := some sourceRecipient
      destinationRecipient := some destinationRecipient }
    show pairHolders.Steps free s.crossSurface (s.crossSurface.update request.pairingId f)
    refine .single (.amend fun v hv hgood => ?_)
    cases hv.symm.trans (okOr_eq_ok.mp hpair)
    have hclosed : pair.opened = false := Bool.eq_false_iff.mpr fun hopen => by
      have hsome := hgood.prepared hopen
      rw [hnone] at hsome
      cases hsome
    refine ⟨⟨hgood.key, fun _ => rfl, hgood.handoff⟩, fun w hw => ?_, fun hsome => hsome⟩
    have hopen : pair.opened = true := (holds_eq_some.mp hw).1
    rw [hclosed] at hopen
    cases hopen

/-- The wallet of a pairing, if it has a source, is with no other pairing. -/
def Service.sourceFree (s : Service) (pairingId : Digest32) : Prop :=
  ∀ pair w, s.crossSurface.get? pairingId = some pair → pair.wallet = some w →
    pairHolders.Free s.crossSurface pairingId w

theorem pairs_completeSource (request : CrossSurfaceCompleteSourceRequest) (t : Nat) (s : Service)
    (hfree : free → s.sourceFree request.pairingId) :
    pairHolders.Steps free s.crossSurface
      (crossSurfaceCompleteSource env sys request t s).2.crossSurface := by
  unfold crossSurfaceCompleteSource retainPairs findPair
  rw [write_bind, read_bind]
  dsimp only [id]
  let s₀ : Service := s.livePairs t
  have hlive : pairHolders.Steps free s.crossSurface s₀.crossSurface := pairs_drop s fun _ pair => !pair.live t
  have hrow : ∀ {j v}, s₀.crossSurface.get? j = some v → s.crossSurface.get? j = some v := by
    intro j v hv
    change (s.crossSurface.erase _).get? j = some v at hv
    rw [Table.get?_erase, Option.filter_eq_some_iff] at hv
    exact hv.1
  refine steps_lift_bind (s := s₀) hlive fun _ hseats => ?_
  rw [Program.bind_assoc, read_bind]
  refine steps_lift_bind (s := s₀) hlive fun pair hpair => steps_lift_bind (s := s₀) hlive fun _ _ => ?_
  have hpair : s₀.crossSurface.get? request.pairingId = some pair := okOr_eq_ok.mp hpair
  cases hnone : pair.handoff with
  | some handoff => exact steps_lift_bind (s := s₀) hlive fun _ _ => hlive
  | none =>
    -- an attempt is counted, and then the recipient is consumed
    let f₁ : CrossSurfacePairState → CrossSurfacePairState := fun pair =>
      { pair with attempts := pair.attempts + 1 }
    let f₂ : CrossSurfacePairState → CrossSurfacePairState := fun pair =>
      { pair with sourceRecipient := none }
    let s₁ : Service := { s₀ with crossSurface := s₀.crossSurface.update request.pairingId f₁ }
    let s₂ : Service := { s₁ with crossSurface := s₁.crossSurface.update request.pairingId f₂ }
    have h₁ : pairHolders.Steps free s.crossSurface s₁.crossSurface :=
      hlive.tail (.amend fun v _ hgood => amends_of hgood rfl rfl (.inl rfl) (.inl ⟨rfl, rfl⟩))
    have h₂ : pairHolders.Steps free s.crossSurface s₂.crossSurface :=
      h₁.tail (.amend fun v _ hgood => amends_of hgood rfl rfl (.inl rfl) (.inl ⟨rfl, rfl⟩))
    have hget : s₂.crossSurface.get? request.pairingId = some (f₂ (f₁ pair)) := by
      rw [Table.get?_update, if_pos rfl, Table.get?_update, if_pos rfl, hpair]
      rfl
    have hother : ∀ {j v}, j ≠ request.pairingId → s₂.crossSurface.get? j = some v →
        s.crossSurface.get? j = some v := by
      intro j v hj hv
      rw [Table.get?_update, if_neg hj, Table.get?_update, if_neg hj] at hv
      exact hrow hv
    refine steps_lift_bind (s := s₁) h₁ fun prepared hprepared =>
      steps_lift_bind (s := s₁) h₁ fun verified _ => ?_
    obtain ⟨credential, verified⟩ := verified
    refine steps_lift_bind (s := s₂) h₂ fun recipient _ =>
      steps_lift_bind (s := s₂) h₂ fun handed _ => ?_
    obtain ⟨unlocked, capability, handoff⟩ := handed
    let f₃ : CrossSurfacePairState → CrossSurfacePairState := fun pair => { pair with
      sourceCredentialId := some credential.credentialId
      sourceSignCount := some verified.signCount
      unlocked := some unlocked
      capability := some capability
      handoff := some handoff
      sourceCompletionDigest := some (canonicalDigest env.crypto request.json) }
    show pairHolders.Steps free s.crossSurface (s₂.crossSurface.update request.pairingId f₃)
    refine h₂.tail (.acquire (fun v hv hgood => ?_) ?_ fun hf v w hv hw j u hu huw => ?_)
    · cases hv.symm.trans hget
      exact ⟨hgood.key, fun _ => (okOr_eq_ok.mp hprepared).symm ▸ rfl, fun _ => rfl⟩
    · have hcount : s₀.crossSurface.count (fun _ v => pairHolders.seated v) < 4 := by
        have hless : ¬4 ≤ s₀.crossSurface.rows.countP (·.2.unlocked.isSome) := fun h => by
          refine reject_eq_ok.mp hseats ⟨h, ?_⟩
          change ((s₀.crossSurface.get? request.pairingId).bind (·.handoff)).isNone = true
          rw [hpair, Option.bind_some, hnone]
          rfl
        rw [Table.count_eq_length, Table.select, ← List.countP_eq_length_filter]
        exact Nat.lt_of_not_le hless
      refine Nat.lt_of_le_of_lt (Table.count_update_le_self fun v _ => id) ?_
      exact Nat.lt_of_le_of_lt (Table.count_update_le_self fun v _ => id) hcount
    · cases hv.symm.trans hget
      by_cases hj : j = request.pairingId
      · exact hj
      · exact hfree hf pair w (hrow hpair) (holds_eq_some.mp hw).2 j u (hother hj hu) huw

theorem pairs_findPair (pairingId : Digest32) : Pairs free (findPair pairingId) := fun _ => .refl

/-- Secrets are taken out of a pairing, or annotations added to it. -/
theorem pairs_annotate {pairingId : Digest32} {f : CrossSurfacePairState → CrossSurfacePairState}
    (hpairing : ∀ pair, (f pair).pairing = pair.pairing)
    (hprepared : ∀ pair, (f pair).prepared = pair.prepared)
    (hunlocked : ∀ pair, (f pair).unlocked = pair.unlocked ∨ (f pair).unlocked = none)
    (hhandoff : ∀ pair, ((f pair).capability = pair.capability ∧ (f pair).handoff = pair.handoff) ∨
      ((f pair).capability = none ∧ (f pair).handoff = none)) :
    Pairs free (updatePair pairingId f) :=
  pairs_updatePair fun pair hgood => amends_of hgood (hpairing pair) (hprepared pair)
    (hunlocked pair) (hhandoff pair)

theorem pairs_takeDestination (request : CrossSurfaceCompleteDestinationRequest) (t : Nat) :
    Pairs free (takeDestination env request t) := by
  have h := pairs_permits env t free
  refine h.andThen (pairs_retainPairs _) fun _ => h.andThen (pairs_findPair _) fun pair =>
    h.andThen (h.lift _) fun _ => h.andThen (h.read _) fun s =>
    h.andThen (h.lift _) fun receipt => ?_
  have hattempt : Pairs free (updatePair request.pairingId fun pair =>
      { pair with attempts := pair.attempts + 1 }) :=
    pairs_annotate (fun _ => rfl) (fun _ => rfl) (fun _ => .inl rfl) fun _ => .inl ⟨rfl, rfl⟩
  have hrecipient : Pairs free (updatePair request.pairingId fun pair =>
      { pair with destinationRecipient := none }) :=
    pairs_annotate (fun _ => rfl) (fun _ => rfl) (fun _ => .inl rfl) fun _ => .inl ⟨rfl, rfl⟩
  have hunlocked : Pairs free (updatePair request.pairingId fun pair =>
      { pair with unlocked := none }) :=
    pairs_annotate (fun _ => rfl) (fun _ => rfl) (fun _ => .inr rfl) fun _ => .inl ⟨rfl, rfl⟩
  cases receipt with
  | some result => exact h.pure _
  | none =>
    exact h.andThen hattempt fun _ => h.andThen (h.lift _) fun _ => h.andThen hrecipient fun _ =>
      h.andThen (h.lift _) fun _ => h.andThen (h.lift _) fun _ => h.andThen hunlocked fun _ =>
      h.andThen (h.lift _) fun _ => h.andThen (h.lift _) fun _ => h.pure _

theorem pairs_completeDestination (request : CrossSurfaceCompleteDestinationRequest) (t : Nat) :
    Pairs free (crossSurfaceCompleteDestination env sys request t) := by
  have h := pairs_permits env t free
  have hcommit : ∀ taken, Pairs free (commitDestination env taken t) := fun taken s => by
    unfold commitDestination
    rw [read_bind]
    dsimp only [id]
    cases hrun : onEngine (commitCustodySnapshotWithEffect env.crypto env.enrollments
        (additionCommit s taken (additionResult env s taken t) t)) s with
    | mk r s' =>
      have hsame : s.crossSurface = s'.crossSurface := congrArg (·.2.crossSurface) hrun
      cases r with
      | ok u => rw [bind_of_ok hrun]; exact hsame ▸ .refl
      | error f => rw [bind_of_error hrun]; exact hsame ▸ .refl
  have hhanded : Pairs free (updatePair request.pairingId fun pair =>
      { pair with capability := none, handoff := none }) :=
    pairs_annotate (fun _ => rfl) (fun _ => rfl) (fun _ => .inl rfl) fun _ => .inr ⟨rfl, rfl⟩
  have hinner : Pairs free (crossSurfaceCompleteDestinationInner env sys request t) := by
    refine h.andThen (pairs_takeDestination request t) fun outcome => ?_
    cases outcome with
    | inl result => exact h.pure _
    | inr taken =>
      have hadd : Pairs free (do
          applyDestination env sys taken
          commitDestination env taken t) :=
        h.andThen (h.applies (applies_applyDestination env sys taken)) fun _ => hcommit taken
      refine h.andThen hadd.attempt fun outcome => ?_
      cases outcome with
      | ok result => exact h.andThen hhanded fun _ => h.pure _
      | error cause =>
        have hrestore : Applies env.crypto (restoreCustodySnapshot taken.before) :=
          applies_restoreCustodySnapshot _
        exact h.andThen (h.applies hrestore) fun _ => h.andThen (pairs_removePair _) fun _ =>
          h.fail _
  refine h.andThen hinner.attempt fun outcome => ?_
  cases outcome with
  | ok result => exact h.pure _
  | error cause =>
    refine h.andThen (h.read _) fun s => ?_
    split
    · exact h.andThen (pairs_removePair _) fun _ => h.fail _
    · exact h.fail _

theorem pairs_alreadyRegistered (request : CrossSurfaceAlreadyRegisteredRequest) (t : Nat) :
    Pairs free (crossSurfaceAlreadyRegistered env request t) := by
  have h := pairs_permits env t free
  refine h.andThen (h.read _) fun s => ?_
  split
  · exact h.lift _
  · exact h.andThen (h.lift _) fun _ => h.andThen (h.lift _) fun _ => h.andThen (h.lift _) fun _ =>
      h.andThen (h.lift _) fun _ => h.andThen (h.lift _) fun _ => h.andThen (h.lift _) fun _ =>
      h.andThen (h.lift _) fun _ => h.andThen (h.persistStatus _) fun _ =>
      h.andThen (pairs_removePair _) fun _ => h.pure _

/-! ## Runs -/

/-- A source that is approved finds its wallet with no other pairing. -/
def Uncontested (s : Service) : SignerCall → Prop
  | .ceremony _ (.completeSource request _) => s.sourceFree request.pairingId
  | _ => True

theorem dispatch_pairs (call : CeremonyCall) (s : Service)
    (hfree : free → Uncontested s (.ceremony sys call)) :
    pairHolders.Steps free s.crossSurface (dispatch env sys call s).2.crossSurface := by
  have hpermits := fun t => pairs_permits env t free
  have hignore : ∀ {α : Type} {x : ServiceM α}, Pairs free x → Pairs free (ignore x) :=
    fun hx => (hpermits 0).andThen hx fun _ => (hpermits 0).pure _
  cases call with
  | cancel op => exact pairs_cancel op s
  | clearPairs => exact pairs_retainPairs _ s
  | expirePairs t => exact pairs_retainPairs _ s
  | prepareApproval request t => exact hignore ((hpermits t).prepareApproval request) s
  | prepareCustody request t => exact hignore ((hpermits t).prepareCustody request) s
  | preparePolicyUpdate request t => exact hignore ((hpermits t).preparePolicyUpdate request) s
  | bindCustodyOutputRecipient op key t =>
    exact hignore ((hpermits t).bindCustodyOutputRecipient op key) s
  | completeApproval request t => exact hignore ((hpermits t).completeApproval request) s
  | completeCustody request t => exact hignore ((hpermits t).completeCustodyInner request false) s
  | completePolicyUpdate request t =>
    exact hignore ((hpermits t).completeCustodyInner request.custody true) s
  | pairStart request t => exact hignore (pairs_pairStart request t) s
  | prepareSource request t => exact hignore (pairs_prepareSource request t) s
  | completeSource request t =>
    change pairHolders.Steps free s.crossSurface
      (ignore (crossSurfaceCompleteSource env sys request t) s).2.crossSurface
    rw [ignore_snd]
    exact pairs_completeSource request t s hfree
  | completeDestination request t => exact hignore (pairs_completeDestination request t) s
  | alreadyRegistered request t => exact hignore (pairs_alreadyRegistered request t) s

theorem administered_pairs {Q : SurfaceStatus → Prop} {s' : Service} (h : Administered Q s s') :
    s'.crossSurface = s.crossSurface := by
  cases h <;> rfl

theorem startService_pairs {e e' : Engine} (h : startService env t e = (.ok s', e')) :
    s'.crossSurface = ∅ := by
  obtain ⟨_, _, -, h⟩ := bind_apply_eq_ok h
  obtain ⟨_, _, -, h⟩ := bind_apply_eq_ok h
  obtain ⟨_, _, -, h⟩ := bind_apply_eq_ok h
  obtain ⟨_, _, -, h⟩ := bind_apply_eq_ok h
  obtain ⟨_, _, -, h⟩ := bind_apply_eq_ok h
  cases h
  rfl

/-- A new process has no pairings. -/
theorem reopened_pairs (compiled : Backends) (t : Nat) :
    (s.reopened env compiled t).crossSurface = ∅ := by
  unfold Service.reopened
  split
  · next s' e' hstart =>
    rw [administered_pairs (administered_fenceRemoteSurface s'), startService_pairs hstart]
  · rfl

/-- A call changes the pairings as sessions, or drops them all. -/
theorem signerStep_pairs (s : Service) (call : SignerCall) (hfree : free → Uncontested s call) :
    pairHolders.Steps free s.crossSurface (signerStep env s call).crossSurface ∨
      (signerStep env s call).crossSurface = ∅ := by
  cases call with
  | ceremony sys call => exact .inl (dispatch_pairs call s hfree)
  | engine call => exact .inl .refl
  | restoreBackup backup => exact .inl .refl
  | exportWalletBackup walletId => exact .inl .refl
  | compareAndSwapPolicy request => exact .inl .refl
  | rotateAuditKey newKeyId newSigningKey => exact .inl .refl
  | latchAuditDegraded => exact .inl .refl
  | installRemoteSurface hostname installationId adminKey t =>
    have hsame := administered_pairs (@administered_installRemoteSurface env hostname
      installationId adminKey t s)
    exact .inl (hsame ▸ .refl)
  | reportEffective report =>
    exact .inl (administered_pairs (@administered_reportEffective env report s) ▸ .refl)
  | setExposureMode mode =>
    exact .inl (administered_pairs (@administered_setExposureMode env mode s) ▸ .refl)
  | restart compiled t => exact .inr (reopened_pairs compiled t)

theorem run_pairs_sound (s : Service) (calls : List SignerCall) (hnone : s.crossSurface = ∅) :
    pairHolders.Sound (run (signerStep env) s calls).crossSurface := by
  have hstart : pairHolders.Sound s.crossSurface := hnone ▸ Holders.sound_empty
  refine run_invariant (P := fun s : Service => pairHolders.Sound s.crossSurface)
    (fun s call h => ?_) hstart calls
  rcases @signerStep_pairs env False s call False.elim with hsteps | hnone
  · exact hsteps.sound h
  · rw [hnone]
    exact Holders.sound_empty

end

/-- Over every run at most four pairings hold an unlocked wallet, whatever the interleaving, and a
pairing that holds an unlocked wallet or a capability was prepared by a source. -/
theorem unlocked_pairings_bounded (env : ServiceEnvironment) (s : Service)
    (calls : List SignerCall) (hnone : s.crossSurface = ∅) :
    let pairs := (run (signerStep env) s calls).crossSurface
    pairs.count (fun _ pair => pair.unlocked.isSome) ≤ 4 ∧
      ∀ pairingId pair, pairs.get? pairingId = some pair → pair.opened = true →
        pair.prepared.isSome = true := by
  have hsound := @run_pairs_sound env s calls hnone
  exact ⟨hsound.seats, fun pairingId pair hpair => (hsound.good pairingId pair hpair).prepared⟩

/-- The identifier that the first pairing of the stand-in draws. -/
def drawnPairingId : Digest32 := ((standInSystem 20).random 0).getD .zero

/-- A wallet is imported, and a pairing is started and prepared for it. -/
def preparedPairing : List (CallSystem × CeremonyCall) :=
  freshService.importing standInService ⟨"operation-1"⟩ ⟨"first"⟩ ⟨1⟩ (List.replicate 32 7) 1000 ++
    [(standInSystem 20, .pairStart (pairingRequest ⟨"operation-2"⟩) 1000),
      (standInSystem 40, .prepareSource
        ⟨drawnPairingId, ⟨"operation-2"⟩, localSurface, ⟨"first"⟩, mixedDigest []⟩ 1000)]

/-- The passkey of the wallet approves the pairing. -/
def sourceApproval (s : Service) : CallSystem × CeremonyCall :=
  let pair := s.crossSurface.get? drawnPairingId
  let challenge := (pair.bind (·.prepared)).elim [] (·.sourceChallenge.canonicalBytes .mixing)
  let recipient := (pair.bind (·.sourceRecipient)).elim ⟨[]⟩ (·.publicKey)
  (standInSystem 60, .completeSource ⟨drawnPairingId, ⟨"operation-2"⟩,
    Passkey.assertion ⟨1⟩ challenge 1, ⟨recipient, ⟨Passkey.prf ⟨1⟩⟩⟩⟩ 1000)

def approvedPairing : List SignerCall :=
  (preparedPairing ++ [sourceApproval (run (ceremonyStep standInService) freshService preparedPairing)]).map
    fun call => .ceremony call.1 call.2

theorem unlocked_pairings_bounded_approved :
    let pairs := (run (signerStep standInService) freshService approvedPairing).crossSurface
    pairs.count (fun _ pair => pair.unlocked.isSome) ≤ 4 ∧
      ∀ pairingId pair, pairs.get? pairingId = some pair → pair.opened = true →
        pair.prepared.isSome = true :=
  unlocked_pairings_bounded standInService freshService approvedPairing rfl

end BloomSigner
