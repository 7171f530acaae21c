import BloomSigner.Api.Crypto
import BloomSigner.Lib.HashChain
import BloomSigner.Registry.EventLog

/-! # Tamper evidence of the event chain

What `verify_event_chain` reads of a table that anyone may have written. The four texts of a row are
hashed one after another without separators, and a missing state is hashed as `-`: what the final
entry hash fixes of a row is their concatenation. -/

namespace BloomSigner.Registry

open Lib

/-- The texts of a row of `derivation_events`, as the table holds them. -/
structure StoredEvent where
  walletId : String
  operationId : String
  fromState : Option String
  toState : String
  previousHash : String
  entryHash : String
  deriving DecidableEq, Repr

namespace StoredEvent

/-- What the final entry hash fixes of a row. -/
def body (event : StoredEvent) : List UInt8 :=
  utf8 event.walletId ++ utf8 event.operationId ++ utf8 (event.fromState.getD "-") ++
    utf8 event.toState

def preimage (event : StoredEvent) : List UInt8 :=
  utf8 "bloom-derivation-event/v1" ++ event.body ++ utf8 event.previousHash

/-- The rows agree in wallet, operation and the two states. -/
def Same (a b : StoredEvent) : Prop :=
  a.walletId = b.walletId ∧ a.operationId = b.operationId ∧ a.fromState = b.fromState ∧
    a.toState = b.toState

/-- The fields of the rows end at the same octets, and a first state is missing in both or in
neither. -/
def SameBoundaries (a b : StoredEvent) : Prop :=
  (utf8 a.walletId).length = (utf8 b.walletId).length ∧
    (utf8 a.operationId).length = (utf8 b.operationId).length ∧
    a.fromState.isSome = b.fromState.isSome ∧
    (utf8 (a.fromState.getD "-")).length = (utf8 (b.fromState.getD "-")).length

theorem same_iff_of_body {a b : StoredEvent} (h : a.body = b.body) :
    a.Same b ↔ a.SameBoundaries b := by
  constructor
  · rintro ⟨hw, hop, hfrom, -⟩
    exact ⟨by rw [hw], by rw [hop], by rw [hfrom], by rw [hfrom]⟩
  · rintro ⟨hw, hop, hsome, hfrom⟩
    simp only [body, List.append_assoc] at h
    obtain ⟨hwallet, h⟩ := List.append_inj h hw
    obtain ⟨hoperation, h⟩ := List.append_inj h hop
    obtain ⟨hstate, hto⟩ := List.append_inj h hfrom
    refine ⟨utf8_injective hwallet, utf8_injective hoperation, ?_, utf8_injective hto⟩
    have hstate := utf8_injective hstate
    cases ha : a.fromState with
    | none =>
      rw [ha, Option.isSome_none, eq_comm, Option.isSome_eq_false_iff, Option.isNone_iff_eq_none]
        at hsome
      exact hsome.symm
    | some s =>
      rw [ha, Option.isSome_some, eq_comm, Option.isSome_iff_exists] at hsome
      obtain ⟨s', hb⟩ := hsome
      rw [ha, hb] at hstate
      rw [hb]
      exact congrArg some hstate

end StoredEvent

section
variable (sha256 : List UInt8 → Digest32)

/-- One row of the loop of `verify_event_chain`: the digest the next row has to name. -/
def verifyStoredEvent (expectedPrevious : String) (event : StoredEvent) : Except Failure String := do
  reject (event.previousHash ≠ expectedPrevious)
    (invalid "derivation event chain has a broken link")
  reject ((sha256 event.preimage).asStr ≠ event.entryHash)
    (invalid "derivation event entry hash mismatch")
  return event.entryHash

/-- `verify_event_chain` over whatever rows the table holds, in the order of their sequence. -/
def verifyStoredEvents (events : List StoredEvent) : Except Failure Unit := do
  let _ ← foldE (verifyStoredEvent sha256) Digest32.zero.asStr events

/-- What is hashed of a row after the digest `d`. -/
def chainPreimage (_ : Nat) (d : Digest32) (event : StoredEvent) : List UInt8 :=
  utf8 "bloom-derivation-event/v1" ++ event.body ++ utf8 d.asStr

/-- Everything hashed while a table is verified. -/
def eventInputs (events : List StoredEvent) : List (List UInt8) :=
  HashChain.preimages sha256 chainPreimage 0 .zero events

end

variable {sha256 : List UInt8 → Digest32}

/-! ## The tables the registry writes -/

/-- The texts a row of the registry is stored as. -/
def EventRow.stored (event : EventRow) : StoredEvent where
  walletId := event.walletId.asStr
  operationId := event.operationId
  fromState := event.fromState.map AllocationState.asStr
  toState := event.toState.asStr
  previousHash := event.previousHash
  entryHash := event.entryHash

theorem EventRow.stored_preimage (event : EventRow) : event.stored.preimage =
    eventPreimage event.walletId event.operationId event.fromState event.toState
      event.previousHash := by
  simp only [StoredEvent.preimage, StoredEvent.body, stored, eventPreimage, List.append_assoc]
  cases event.fromState <;> rfl

theorem verifyStoredEvent_stored (expectedPrevious : String) (event : EventRow) :
    verifyStoredEvent sha256 expectedPrevious event.stored =
      verifyEvent sha256 expectedPrevious event := by
  rw [verifyStoredEvent, EventRow.stored_preimage]
  rfl

/-- The verifier of parsed rows is the verifier of the texts they are stored as. -/
theorem verifyEventChain_stored (db : RegistryDb) :
    verifyEventChain sha256 db = verifyStoredEvents sha256 (db.events.map EventRow.stored) := by
  have hfold : ∀ (p : String) (events : List EventRow),
      foldE (verifyStoredEvent sha256) p (events.map EventRow.stored) =
        foldE (verifyEvent sha256) p events := by
    intro p events
    induction events generalizing p with
    | nil => rfl
    | cons event events ih =>
      rw [List.map_cons, foldE_cons, foldE_cons, verifyStoredEvent_stored]
      exact congrArg _ (funext ih)
  rw [verifyEventChain, verifyStoredEvents, hfold]

/-! ## Accepted tables -/

theorem verifyStoredEvent_eq_ok {event : StoredEvent} :
    verifyStoredEvent sha256 p event = .ok p' ↔
      event.previousHash = p ∧ event.entryHash = (sha256 event.preimage).asStr ∧
        p' = event.entryHash := by
  simp only [verifyStoredEvent, bind_eq_ok, reject_eq_ok, ne_eq, not_not, exists_const, pure_eq_ok,
    Except.ok.injEq]
  exact and_congr_right fun _ => and_congr eq_comm eq_comm

/-- The loop ends with the head of the hash chain, which is the entry hash of the last row. -/
theorem foldE_verifyStoredEvent {events : List StoredEvent} (n : Nat) (d : Digest32)
    (h : foldE (verifyStoredEvent sha256) d.asStr events = .ok p) :
    p = (HashChain.head sha256 chainPreimage n d events).asStr ∧
      ∀ event ∈ events.getLast?, event.entryHash = p := by
  induction events generalizing n d with
  | nil =>
    cases h
    exact ⟨rfl, fun event hevent => by cases hevent⟩
  | cons event events ih =>
    rw [foldE_cons] at h
    obtain ⟨p₁, hevent, h⟩ := bind_eq_ok.mp h
    obtain ⟨hprevious, hhash, rfl⟩ := verifyStoredEvent_eq_ok.mp hevent
    have hpreimage : event.preimage = chainPreimage n d event := by
      rw [StoredEvent.preimage, hprevious, chainPreimage]
    rw [hpreimage] at hhash
    rw [hhash] at h
    obtain ⟨hhead, hlast⟩ := ih (n + 1) _ h
    refine ⟨hhead, ?_⟩
    cases events with
    | nil =>
      intro last hmem
      rw [List.getLast?_singleton, Option.mem_some_iff] at hmem
      rw [← hmem, hhash]
      exact hhead.symm
    | cons next events => exact fun last hmem => hlast last hmem

/-- The digest at the end of a row's preimage has a fixed size. -/
theorem chainPreimage_framed (n : Nat) (d e : Digest32) (a b : StoredEvent)
    (h : chainPreimage n d a = chainPreimage n e b) : d = e ∧ a.body = b.body := by
  obtain ⟨hfront, hdigest⟩ :=
    List.append_inj' h (by rw [d.length_utf8_asStr, e.length_utf8_asStr])
  exact ⟨Digest32.asStr_injective (utf8_injective hdigest), List.append_cancel_left hfront⟩

/-- What the final entry hash fixes: the concatenated texts of every row. -/
theorem verified_bodies_eq {events₁ events₂ : List StoredEvent}
    (h₁ : verifyStoredEvents sha256 events₁ = .ok ())
    (h₂ : verifyStoredEvents sha256 events₂ = .ok ())
    (hcf : CollisionFreeOn sha256 (eventInputs sha256 events₁ ++ eventInputs sha256 events₂))
    (hlen : events₁.length = events₂.length)
    (hlast : events₁.getLast?.map (·.entryHash) = events₂.getLast?.map (·.entryHash)) :
    List.Forall₂ (fun a b => a.body = b.body) events₁ events₂ := by
  obtain ⟨p₁, hfold₁, -⟩ := bind_eq_ok.mp h₁
  obtain ⟨p₂, hfold₂, -⟩ := bind_eq_ok.mp h₂
  obtain ⟨hhead₁, hlast₁⟩ := foldE_verifyStoredEvent 0 .zero hfold₁
  obtain ⟨hhead₂, hlast₂⟩ := foldE_verifyStoredEvent 0 .zero hfold₂
  have hp : p₁ = p₂ := by
    cases hl₁ : events₁.getLast? with
    | none =>
      rw [List.getLast?_eq_none_iff] at hl₁
      subst hl₁
      cases List.eq_nil_of_length_eq_zero hlen.symm
      exact Except.ok.inj (hfold₁.symm.trans hfold₂)
    | some event₁ =>
      rw [hl₁, Option.map_some] at hlast
      obtain ⟨event₂, hl₂, he⟩ := Option.map_eq_some_iff.mp hlast.symm
      rw [← hlast₁ event₁ hl₁, ← hlast₂ event₂ hl₂, he]
  have hhead := Digest32.asStr_injective (hhead₁.symm.trans (hp.trans hhead₂))
  have hcf' : ∀ x ∈ eventInputs sha256 events₁, ∀ y ∈ eventInputs sha256 events₂,
      sha256 x = sha256 y → x = y := fun x hx y hy =>
    hcf x (List.mem_append_left _ hx) y (List.mem_append_right _ hy)
  exact (HashChain.bodies_eq_of_head_eq chainPreimage_framed hcf' hlen hhead).2

/-- Accepted tables of one length with the same final entry hash agree row by row exactly when the
fields of their rows end at the same octets. -/
theorem events_agree_iff_boundaries (sha256 : List UInt8 → Digest32)
    (events₁ events₂ : List StoredEvent)
    (h₁ : verifyStoredEvents sha256 events₁ = .ok ())
    (h₂ : verifyStoredEvents sha256 events₂ = .ok ())
    (hcf : CollisionFreeOn sha256 (eventInputs sha256 events₁ ++ eventInputs sha256 events₂))
    (hlen : events₁.length = events₂.length)
    (hlast : events₁.getLast?.map (·.entryHash) = events₂.getLast?.map (·.entryHash)) :
    List.Forall₂ StoredEvent.Same events₁ events₂ ↔
      List.Forall₂ StoredEvent.SameBoundaries events₁ events₂ := by
  have hbodies := verified_bodies_eq h₁ h₂ hcf hlen hlast
  constructor
  · intro hsame
    exact List.Forall₂.mp (fun a b hbody => (StoredEvent.same_iff_of_body hbody).mp) hbodies hsame
  · intro hbounds
    exact List.Forall₂.mp (fun a b hbody => (StoredEvent.same_iff_of_body hbody).mpr) hbodies hbounds

/-- A table of one row, hashed as `append_event` hashes it. -/
def firstEvent (sha256 : List UInt8 → Digest32) (walletId operationId : String)
    (fromState : Option String) (toState : String) : StoredEvent :=
  let event : StoredEvent :=
    ⟨walletId, operationId, fromState, toState, Digest32.zero.asStr, ""⟩
  { event with entryHash := (sha256 event.preimage).asStr }

theorem verifyStoredEvents_firstEvent :
    verifyStoredEvents sha256 [firstEvent sha256 w op a b] = .ok () := by
  have hevent : verifyStoredEvent sha256 Digest32.zero.asStr (firstEvent sha256 w op a b) =
      .ok _ := verifyStoredEvent_eq_ok.mpr ⟨rfl, rfl, rfl⟩
  rw [verifyStoredEvents, foldE_cons, hevent]
  rfl

/-- One row hashes one preimage, whatever was hashed for the other table. -/
theorem collisionFreeOn_firstEvents
    (h : (firstEvent sha256 w op a b).body = (firstEvent sha256 w' op' a' b').body) :
    CollisionFreeOn sha256 (eventInputs sha256 [firstEvent sha256 w op a b] ++
      eventInputs sha256 [firstEvent sha256 w' op' a' b']) := by
  intro x hx y hy _
  simp only [eventInputs, HashChain.preimages, chainPreimage, h, List.cons_append, List.nil_append,
    List.mem_cons, List.not_mem_nil, or_false, or_self] at hx hy
  rw [hx, hy]

theorem events_agree_iff_boundaries_firstEvent :
    let event := firstEvent (fun _ => .zero) "primary" "operation-1" none "PREPARED"
    List.Forall₂ StoredEvent.Same [event] [event] ↔
      List.Forall₂ StoredEvent.SameBoundaries [event] [event] :=
  events_agree_iff_boundaries (fun _ => .zero) _ _ verifyStoredEvents_firstEvent
    verifyStoredEvents_firstEvent (collisionFreeOn_firstEvents rfl) rfl rfl

/-- Whatever the hash, an octet moved from the operation into the wallet, or a missing state written
as `-`, leaves the preimage and the entry hash as they were. -/
theorem shifted_event_is_accepted :
    ¬∃ sha256 : List UInt8 → Digest32, ∀ events₁ events₂ : List StoredEvent,
      verifyStoredEvents sha256 events₁ = .ok () →
      verifyStoredEvents sha256 events₂ = .ok () →
      CollisionFreeOn sha256 (eventInputs sha256 events₁ ++ eventInputs sha256 events₂) →
      events₁.length = events₂.length →
      events₁.getLast?.map (·.entryHash) = events₂.getLast?.map (·.entryHash) →
      List.Forall₂ StoredEvent.Same events₁ events₂ := by
  rintro ⟨sha256, h⟩
  have hbody : (firstEvent sha256 "primary" "operation-1" none "PREPARED").body =
      (firstEvent sha256 "primaryo" "peration-1" (some "-") "PREPARED").body := by
    show utf8 "primary" ++ utf8 "operation-1" ++ utf8 "-" ++ utf8 "PREPARED" =
      utf8 "primaryo" ++ utf8 "peration-1" ++ utf8 "-" ++ utf8 "PREPARED"
    decide
  have hpreimage : ∀ d, utf8 "bloom-derivation-event/v1" ++ (utf8 "primary" ++
      utf8 "operation-1" ++ utf8 "-" ++ utf8 "PREPARED") ++ d =
      utf8 "bloom-derivation-event/v1" ++ (utf8 "primaryo" ++ utf8 "peration-1" ++ utf8 "-" ++
        utf8 "PREPARED") ++ d := by
    intro d
    refine congrArg (· ++ d) ?_
    decide
  have hsame := h _ _ verifyStoredEvents_firstEvent verifyStoredEvents_firstEvent
    (collisionFreeOn_firstEvents hbody) rfl
    (congrArg (fun preimage => some (sha256 preimage).asStr) (hpreimage _))
  cases hsame with
  | cons hevent _ => exact absurd hevent.1 (show "primary" ≠ "primaryo" by decide)

end BloomSigner.Registry
