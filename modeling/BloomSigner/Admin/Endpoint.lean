import BloomSigner.Admin.Provision
import BloomSigner.Ceremony.Assignment
import BloomSigner.Ceremony.StandIn

/-! # The administrator's endpoint

The Signer's local socket for its administrator. One request and one response go through a
connection, each a frame: its length in four octets, then JSON. A remote surface is installed here
and nowhere else. -/

namespace BloomSigner.Admin

open Lib Lib.Program

inductive AdminRequest where
  | status
  | remoteEnabled
  | localhostOnly
  | provision (receipt : AllocationReceipt) (adminPublicKey : List UInt8)

structure AdminResponse where
  status : Option SurfaceStatus
  error : Option String

/-- Why a request is refused: by the endpoint, or by the Signer behind it. -/
inductive AdminFailure where
  | refused (message : String)
  | signer (failure : Failure)

/-- The Signer behind the endpoint, its pinned keys, and what is read and written of frames. -/
structure Endpoint where
  env : ServiceEnvironment
  receiptKeys : Option (List (List UInt8))
  /-- `AllocationReceipt::verify_bytes` -/
  verifyBytes : (keys : List (List UInt8)) → AllocationReceipt → (operationId : Uuid) →
    (adminPublicKey : List UInt8) → (nowMs : Nat) → Except String Unit
  encodeRequest : AdminRequest → List UInt8
  decodeRequest : List UInt8 → Except String AdminRequest
  encodeResponse : AdminResponse → List UInt8
  decodeResponse : List UInt8 → Except String AdminResponse

section
variable (endpoint : Endpoint)

def installAssignment (receipt : AllocationReceipt) (adminPublicKey : List UInt8) (nowMs : Nat) :
    Program Service AdminFailure SurfaceStatus := do
  let receiptKeys ← liftM (okOr endpoint.receiptKeys (AdminFailure.refused
    "relay receipt public keys are not pinned in Signer configuration"))
  liftM ((endpoint.verifyBytes receiptKeys receipt receipt.operationId adminPublicKey nowMs).mapError
    fun _ => AdminFailure.refused
      "relay allocation receipt failed signature, identity, or freshness verification")
  liftM (reject receipt.retired (AdminFailure.refused "relay allocation is retired"))
  mapError .signer (installRemoteSurface endpoint.env receipt.hostname receipt.installationId.text
    (endpoint.env.crypto.sha256 adminPublicKey) receipt.issuedAtMs)

def execute (request : AdminRequest) (nowMs : Nat) : Program Service AdminFailure SurfaceStatus :=
  match request with
  | .status => .read (·.surfaceStatus endpoint.env)
  | .remoteEnabled => mapError .signer (setExposureMode endpoint.env .remoteEnabled)
  | .localhostOnly => mapError .signer (setExposureMode endpoint.env .localhostOnly)
  | .provision receipt adminPublicKey => installAssignment endpoint receipt adminPublicKey nowMs

/-! ## Frames -/

def writeFrame (frame : List UInt8) : Except String (List UInt8) := do
  reject (maxFrame < frame.length) "admin frame exceeds size limit"
  return beBytes32 frame.length ++ frame

/-- The next frame of a stream, and what is left of the stream. -/
def readFrame (stream : List UInt8) : Except String (List UInt8 × List UInt8) := do
  reject (stream.length < 4) "early eof"
  let count := beNat (stream.take 4)
  reject (count = 0 ∨ maxFrame < count) "admin frame length is invalid"
  reject (stream.length < 4 + count) "early eof"
  return ((stream.drop 4).take count, (stream.drop 4).drop count)

end

theorem beNat_beBytes32 {n : Nat} (h : n < 2 ^ 32) : beNat (beBytes32 n) = n := by
  have hoctet : ∀ k, (UInt8.ofNat k).toNat = k % 256 := fun k => rfl
  show (((0 * 256 + (UInt8.ofNat (n / 256 ^ 3)).toNat) * 256 +
    (UInt8.ofNat (n / 256 ^ 2)).toNat) * 256 + (UInt8.ofNat (n / 256 ^ 1)).toNat) * 256 +
    (UInt8.ofNat (n / 256 ^ 0)).toNat = n
  simp only [hoctet]
  omega

theorem beBytes32_beNat {octets : List UInt8} (h : octets.length = 4) :
    beBytes32 (beNat octets) = octets := by
  obtain ⟨a, b, c, d, rfl⟩ := List.length_eq_four.mp h
  have hn : beNat [a, b, c, d] =
    (((0 * 256 + a.toNat) * 256 + b.toNat) * 256 + c.toNat) * 256 + d.toNat := rfl
  have hoctet : ∀ {k} {u : UInt8}, k % 256 = u.toNat → UInt8.ofNat k = u := fun h =>
    UInt8.toNat_inj.mp h
  have ha := a.toNat_lt
  have hb := b.toNat_lt
  have hc := c.toNat_lt
  have hd := d.toNat_lt
  show [UInt8.ofNat (beNat [a, b, c, d] / 256 ^ 3), UInt8.ofNat (beNat [a, b, c, d] / 256 ^ 2),
    UInt8.ofNat (beNat [a, b, c, d] / 256 ^ 1), UInt8.ofNat (beNat [a, b, c, d] / 256 ^ 0)] = _
  rw [hn, hoctet (u := a) (by omega), hoctet (u := b) (by omega), hoctet (u := c) (by omega),
    hoctet (u := d) (by omega)]

/-- What a stream is read as was written to it. -/
theorem readFrame_sound {stream frame rest : List UInt8} (h : readFrame stream = .ok (frame, rest)) :
    frame ≠ [] ∧ ∃ octets, writeFrame frame = .ok octets ∧ stream = octets ++ rest := by
  obtain ⟨_, hshort, h⟩ := bind_eq_ok.mp h
  obtain ⟨_, hcount, h⟩ := bind_eq_ok.mp h
  obtain ⟨_, hlong, h⟩ := bind_eq_ok.mp h
  cases h
  obtain ⟨hempty, hmax⟩ := not_or.mp (reject_eq_ok.mp hcount)
  have hshort := reject_eq_ok.mp hshort
  have hlong := reject_eq_ok.mp hlong
  have hprefix : (stream.take 4).length = 4 := by
    rw [List.length_take]
    omega
  have hframe : ((stream.drop 4).take (beNat (stream.take 4))).length =
      beNat (stream.take 4) := by
    rw [List.length_take, List.length_drop]
    omega
  refine ⟨fun hnil => hempty ?_, beBytes32 (beNat (stream.take 4)) ++
    (stream.drop 4).take (beNat (stream.take 4)), ?_, ?_⟩
  · rw [← hframe, hnil]
    rfl
  · rw [writeFrame, reject_of_not (hframe.symm ▸ hmax), bind_ok, hframe]
    rfl
  · rw [beBytes32_beNat hprefix, List.append_assoc, List.take_append_drop,
      List.take_append_drop]

/-- What was written to a stream is read back, and what follows it is left. -/
theorem readFrame_complete {frame octets rest : List UInt8} (hframe : frame ≠ [])
    (hwrite : writeFrame frame = .ok octets) : readFrame (octets ++ rest) = .ok (frame, rest) := by
  obtain ⟨_, hmax, hwrite⟩ := bind_eq_ok.mp hwrite
  cases hwrite
  have hmax := Nat.le_of_not_lt (reject_eq_ok.mp hmax)
  have hlength : (frame.length : Nat) < 2 ^ 32 := Nat.lt_of_le_of_lt hmax (by decide)
  have htake : (beBytes32 frame.length ++ frame ++ rest).take 4 = beBytes32 frame.length := by
    rw [List.append_assoc]
    exact List.take_left' rfl
  have hdrop : (beBytes32 frame.length ++ frame ++ rest).drop 4 = frame ++ rest := by
    rw [List.append_assoc]
    exact List.drop_left' rfl
  have hcount : ¬(beNat (beBytes32 frame.length) = 0 ∨
      maxFrame < beNat (beBytes32 frame.length)) := by
    rw [beNat_beBytes32 hlength]
    rintro (hzero | hlong)
    · exact hframe (List.length_eq_zero_iff.mp hzero)
    · exact absurd hlong (Nat.not_lt.mpr hmax)
  unfold readFrame
  rw [htake, hdrop, reject_of_not (by simp), bind_ok]
  dsimp only
  rw [reject_of_not hcount, bind_ok, beNat_beBytes32 hlength,
    reject_of_not (by simp only [List.length_append, length_beBytes32]; omega), bind_ok,
    List.take_left' rfl, List.drop_left' rfl]
  rfl

/-- What is read of a stream is what was written to it: a stream starts with a frame if and only if
it starts with the octets the frame is written as. -/
theorem readFrame_eq_ok {stream frame rest : List UInt8} :
    readFrame stream = .ok (frame, rest) ↔
      frame ≠ [] ∧ ∃ octets, writeFrame frame = .ok octets ∧ stream = octets ++ rest := by
  refine ⟨readFrame_sound, ?_⟩
  rintro ⟨hframe, octets, hwrite, rfl⟩
  exact readFrame_complete hframe hwrite

/-! ## One connection -/

/-- The response to a request; a panic of the Signer leaves the connection without one. -/
def respond : Except AdminFailure SurfaceStatus → Option AdminResponse
  | .ok status => some ⟨some status, none⟩
  | .error (.refused message) => some ⟨none, some message⟩
  | .error (.signer failure) => failure.toError?.map fun cause => ⟨none, some cause.display⟩

/-- The connection as the Signer serves it: what it reads, and what it writes back. -/
def serveConnection (endpoint : Endpoint) (stream : List UInt8) (nowMs : Nat) :
    Program Service String (List UInt8) := fun s =>
  match readFrame stream with
  | .error cause => (.error cause, s)
  | .ok (frame, _) =>
    match endpoint.decodeRequest frame with
    | .error cause => (.error cause, s)
    | .ok request =>
      let (result, s') := execute endpoint request nowMs s
      match respond result with
      | some answer => (writeFrame (endpoint.encodeResponse answer), s')
      | none => (.error "the process ended", s')

/-- `request_once`, with the Signer at the other end of the socket. -/
def requestOnce (endpoint : Endpoint) (request : AdminRequest) (nowMs : Nat) :
    Program Service String AdminResponse := do
  let stream ← writeFrame (endpoint.encodeRequest request)
  let answer ← serveConnection endpoint stream nowMs
  let (frame, _) ← readFrame answer
  endpoint.decodeResponse frame

/-- JSON that is written is read back, is never empty, and fits into a frame. -/
structure Endpoint.Faithful (endpoint : Endpoint) : Prop where
  request : ∀ r, endpoint.decodeRequest (endpoint.encodeRequest r) = .ok r
  response : ∀ r, endpoint.decodeResponse (endpoint.encodeResponse r) = .ok r
  requestSize : ∀ r, endpoint.encodeRequest r ≠ [] ∧
    (endpoint.encodeRequest r).length ≤ maxFrame
  responseSize : ∀ r, endpoint.encodeResponse r ≠ [] ∧
    (endpoint.encodeResponse r).length ≤ maxFrame

theorem writeFrame_eq_ok {frame : List UInt8} (h : frame.length ≤ maxFrame) :
    writeFrame frame = .ok (beBytes32 frame.length ++ frame) := by
  rw [writeFrame, reject_of_not (Nat.not_lt.mpr h)]
  rfl

theorem readFrame_writeFrame {frame : List UInt8} (h : frame ≠ [] ∧ frame.length ≤ maxFrame) :
    readFrame (beBytes32 frame.length ++ frame) = .ok (frame, []) := by
  have hread := @readFrame_complete frame _ [] h.1 (writeFrame_eq_ok h.2)
  rwa [List.append_nil] at hread

/-- The administrator gets the answer to its own request, which was executed once. -/
theorem requestOnce_eq {endpoint : Endpoint} (h : endpoint.Faithful) (request : AdminRequest)
    (nowMs : Nat) (s : Service) {answer : AdminResponse}
    (hanswer : respond (execute endpoint request nowMs s).1 = some answer) :
    requestOnce endpoint request nowMs s =
      (.ok answer, (execute endpoint request nowMs s).2) := by
  have hserve : serveConnection endpoint (beBytes32 (endpoint.encodeRequest request).length ++
      endpoint.encodeRequest request) nowMs s = (.ok (beBytes32 (endpoint.encodeResponse
        answer).length ++ endpoint.encodeResponse answer),
      (execute endpoint request nowMs s).2) := by
    unfold serveConnection
    rw [readFrame_writeFrame (h.requestSize request)]
    dsimp only
    rw [h.request]
    dsimp only
    rw [hanswer]
    dsimp only
    rw [writeFrame_eq_ok (h.responseSize answer).2]
  unfold requestOnce
  rw [writeFrame_eq_ok (h.requestSize request).2, lift_bind_ok rfl, bind_of_ok hserve,
    lift_bind_ok (readFrame_writeFrame (h.responseSize answer))]
  exact Prod.ext (h.response answer) rfl

/-! ## Where an assignment comes from -/

/-- A call of a Signer whose remote surface is installed through the endpoint alone. -/
inductive EndpointCall where
  | admin (request : AdminRequest) (nowMs : Nat)
  | signer (call : SignerCall) (h : call.installs = false)

def endpointStep (endpoint : Endpoint) (s : Service) : EndpointCall → Service
  | .admin request nowMs => (execute endpoint request nowMs s).2
  | .signer call _ => signerStep endpoint.env s call

/-- A receipt that the pinned keys of the relay vouch for. -/
structure Endpoint.Accepts (endpoint : Endpoint) (receipt : AllocationReceipt)
    (adminPublicKey : List UInt8) (nowMs : Nat) : Prop where
  verified : ∃ keys, endpoint.receiptKeys = some keys ∧
    endpoint.verifyBytes keys receipt receipt.operationId adminPublicKey nowMs = .ok ()
  current : receipt.retired = false

/-- The surfaces are assigned as the receipt says. -/
structure AssignedBy (crypto : Crypto) (receipt : AllocationReceipt) (adminPublicKey : List UInt8)
    (status : SurfaceStatus) : Prop where
  installation : status.installationId = some receipt.installationId.text
  admin : status.installationAdminKeySha256 = some (crypto.sha256 adminPublicKey)
  surface : ∃ known ∈ status.surfaces.map SurfaceDescriptor.known,
    known.1.surfaceId = ⟨"remote"⟩ ∧ known.1.origin = "https://" ++ receipt.hostname

/-- Nothing is assigned, or one of the calls brought the receipt of what is. -/
def Vouched (endpoint : Endpoint) (calls : List EndpointCall) (status : SurfaceStatus) : Prop :=
  status.installationId = none ∨ ∃ receipt adminPublicKey nowMs,
    .admin (.provision receipt adminPublicKey) nowMs ∈ calls ∧
    endpoint.Accepts receipt adminPublicKey nowMs ∧
    AssignedBy endpoint.env.crypto receipt adminPublicKey status

section
variable {endpoint : Endpoint} {s : Service} {calls : List EndpointCall}

theorem AssignedBy.same {crypto : Crypto} {receipt : AllocationReceipt}
    {adminPublicKey : List UInt8} {status status' : SurfaceStatus}
    (h : AssignedBy crypto receipt adminPublicKey status) (hsame : SameAssignment status status') :
    AssignedBy crypto receipt adminPublicKey status' :=
  ⟨hsame.installation.trans h.installation, hsame.admin.trans h.admin, hsame.surfaces ▸ h.surface⟩

theorem Vouched.same {status status' : SurfaceStatus} (h : Vouched endpoint calls status)
    (hsame : SameAssignment status status') : Vouched endpoint calls status' := by
  rcases h with hnone | ⟨receipt, key, t, hmem, haccepts, hassigned⟩
  · exact .inl (hsame.installation.trans hnone)
  · exact .inr ⟨receipt, key, t, hmem, haccepts, hassigned.same hsame⟩

theorem assignedBy_of_assigns {env : ServiceEnvironment} {receipt : AllocationReceipt}
    {adminPublicKey : List UInt8} {current next : SurfaceStatus}
    (h : Assigns env receipt.hostname receipt.installationId.text
      (env.crypto.sha256 adminPublicKey) t current next) :
    AssignedBy env.crypto receipt adminPublicKey next := by
  obtain ⟨identity, reference, hidentity, -, rfl⟩ := h.assigned
  refine ⟨rfl, rfl, _, List.mem_map_of_mem (List.mem_append_right _ (List.mem_singleton_self _)),
    ?_⟩
  obtain ⟨_, -, hidentity⟩ := bind_eq_ok.mp hidentity
  cases hidentity
  exact ⟨rfl, rfl⟩

/-- A receipt that is not accepted changes nothing. -/
theorem installAssignment_snd (receipt : AllocationReceipt) (adminPublicKey : List UInt8)
    (nowMs : Nat) (s : Service) :
    (installAssignment endpoint receipt adminPublicKey nowMs s).2 = s ∨
      endpoint.Accepts receipt adminPublicKey nowMs ∧
        (installAssignment endpoint receipt adminPublicKey nowMs s).2 =
          (installRemoteSurface endpoint.env receipt.hostname receipt.installationId.text
            (endpoint.env.crypto.sha256 adminPublicKey) receipt.issuedAtMs s).2 := by
  unfold installAssignment
  cases hkeys : endpoint.receiptKeys with
  | none => exact .inl rfl
  | some keys =>
    rw [lift_bind_ok (okOr_some keys _)]
    cases hverify : endpoint.verifyBytes keys receipt receipt.operationId adminPublicKey nowMs with
    | error cause => exact .inl rfl
    | ok u =>
      cases hretired : receipt.retired with
      | true => exact .inl rfl
      | false => exact .inr ⟨⟨⟨keys, hkeys, hverify⟩, hretired⟩, rfl⟩

/-- An assignment is left as it is, or made by a receipt that was accepted. -/
theorem installAssignment_cases (receipt : AllocationReceipt) (adminPublicKey : List UInt8)
    (nowMs : Nat) (s : Service) :
    let status := s.surfaceStatus endpoint.env
    let next := (installAssignment endpoint receipt adminPublicKey nowMs s).2.surfaceStatus
      endpoint.env
    SameAssignment status next ∨ endpoint.Accepts receipt adminPublicKey nowMs ∧
      AssignedBy endpoint.env.crypto receipt adminPublicKey next := by
  dsimp only
  rcases installAssignment_snd receipt adminPublicKey nowMs s with hsame | ⟨haccepts, hinstall⟩
  · rw [hsame]
    exact .inl (.refl _)
  · rw [hinstall]
    exact Administered.status_rel (R := fun st st' => SameAssignment st st' ∨
        endpoint.Accepts receipt adminPublicKey nowMs ∧
          AssignedBy endpoint.env.crypto receipt adminPublicKey st')
      (installRemoteSurface_assigns _ _ _ _ s) (fun _ => .inl (.refl _))
      fun next hassigns => .inr ⟨haccepts, assignedBy_of_assigns hassigns⟩

theorem endpointStep_vouched (s : Service) (call : EndpointCall) (hmem : call ∈ calls)
    (h : Vouched endpoint calls (s.surfaceStatus endpoint.env)) :
    Vouched endpoint calls ((endpointStep endpoint s call).surfaceStatus endpoint.env) := by
  cases call with
  | signer call hcall => exact h.same (signerStep_sameAssignment s call hcall)
  | admin request nowMs =>
    cases request with
    | status => exact h
    | remoteEnabled =>
      exact h.same (signerStep_sameAssignment s (.setExposureMode .remoteEnabled) rfl)
    | localhostOnly =>
      exact h.same (signerStep_sameAssignment s (.setExposureMode .localhostOnly) rfl)
    | provision receipt key =>
      rcases @installAssignment_cases endpoint receipt key nowMs s with
        hsame | ⟨haccepts, hassigned⟩
      · exact h.same hsame
      · exact .inr ⟨receipt, key, nowMs, hmem, haccepts, hassigned⟩

/-- Over every run of a Signer that starts without an assignment, what is assigned was brought by an
administrator's request with a receipt that the pinned keys vouch for, and is what the receipt
says. -/
theorem assignment_vouched (endpoint : Endpoint) (s : Service) (calls : List EndpointCall)
    (hnone : (s.surfaceStatus endpoint.env).installationId = none) :
    Vouched endpoint calls
      ((run (endpointStep endpoint) s calls).surfaceStatus endpoint.env) :=
  run_invariant_of (P := fun s : Service => Vouched endpoint calls (s.surfaceStatus endpoint.env))
    endpointStep_vouched (.inl hnone)

end

/-- An endpoint whose relay is known by one key. -/
def standInEndpoint : Endpoint where
  env := { standInService with crypto := .standIn }
  receiptKeys := some [[1]]
  verifyBytes keys _ _ _ _ := if keys = [[1]] then .ok () else .error "unknown key"
  encodeRequest _ := []
  decodeRequest _ := .error "unknown request"
  encodeResponse _ := []
  decodeResponse _ := .error "unknown response"

def relayReceipt (installation : String) : AllocationReceipt :=
  ⟨⟨"op"⟩, ⟨installation⟩, "abcdefghijklmnopqrstuvwxyz.relay.bloom.directory", false, 1⟩

/-- The relay is assigned, another assignment is refused, and the process starts anew. -/
def assigningCalls : List EndpointCall := [
  .signer (.restart ∅ 1000) rfl,
  .admin (.provision (relayReceipt "installation") [5]) 1000,
  .admin (.provision (relayReceipt "another") [6]) 2000,
  .signer (.restart ∅ 3000) rfl]

theorem assignment_vouched_assigned :
    let status := (run (endpointStep standInEndpoint) freshService assigningCalls).surfaceStatus
      standInEndpoint.env
    Vouched standInEndpoint assigningCalls status ∧ status.installationId = some "installation" :=
  ⟨assignment_vouched standInEndpoint freshService assigningCalls rfl, by decide +kernel⟩

end BloomSigner.Admin
