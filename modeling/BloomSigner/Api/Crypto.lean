import BloomSigner.Api.Error
import BloomSigner.Lib.Text

/-! # External primitives

The Signer hashes with SHA-256, signs with Ed25519 and writes canonical JSON. Their code lives in
other packages, so they are parameters here, with the laws the Signer relies on. No law claims that
SHA-256 is injective: results that need the absence of a collision say among which inputs. -/

namespace BloomSigner

/-- A JSON value, as `serde_json` builds it before `serde_jcs` writes it. -/
inductive Json where
  | null
  | bool (b : Bool)
  | num (n : Nat)
  | str (s : String)
  | arr (xs : List Json)
  | obj (fields : List (String × Json))

def Token.json (t : Token) : Json := .str t.asStr

def OperationId.json (id : OperationId) : Json := .str id.asStr

def BootEpoch.json (epoch : BootEpoch) : Json := .str epoch.asStr

def Base64UrlBytes.json (b : Base64UrlBytes) : Json := .str b.encoded

def Digest32.json (d : Digest32) : Json := .str d.asStr

/-- `DecimalU64`: an integer written as a decimal string. -/
def decimalJson (n : Nat) : Json := .str (toString n)

def listJson (f : α → Json) (xs : List α) : Json := .arr (xs.map f)

/-- An absent value is written as `null`. -/
def optionJson (f : α → Json) (x : Option α) : Json := (x.map f).getD .null

/-- A field left out when its value is absent (`skip_serializing_if = "Option::is_none"`). -/
def skipNone (name : String) (f : α → Json) (x : Option α) : List (String × Json) :=
  x.toList.map fun a => (name, f a)

/-! ## A value is read back from what it is written as -/

theorem Token.json_injective {s t : Token} (h : s.json = t.json) : s = t := by
  cases s; cases t; cases h; rfl

theorem OperationId.json_injective {s t : OperationId} (h : s.json = t.json) : s = t := by
  cases s; cases t; cases h; rfl

theorem Digest32.json_injective {d e : Digest32} (h : d.json = e.json) : d = e :=
  asStr_injective (Json.str.inj h)

theorem Base64UrlBytes.json_injective {a b : Base64UrlBytes} (h : a.json = b.json) : a = b := by
  have hchars := Lib.base64Chars_injective (String.ofList_injective (Json.str.inj h))
  cases a; cases b; cases hchars; rfl

theorem decimalJson_injective {m n : Nat} (h : decimalJson m = decimalJson n) : m = n :=
  Lib.toString_injective (Json.str.inj h)

theorem listJson_injective {f : α → Json} (hf : ∀ {a b}, f a = f b → a = b)
    (h : listJson f xs = listJson f ys) : xs = ys :=
  List.map_injective_iff.mpr (fun _ _ => hf) (Json.arr.inj h)

/-- A writer that never writes `null` is read back from an optional value. -/
theorem optionJson_injective {f : α → Json} (hf : ∀ {a b}, f a = f b → a = b)
    (hnull : ∀ a, f a ≠ .null) (h : optionJson f x = optionJson f y) : x = y := by
  cases x with
  | none =>
    cases y with
    | none => rfl
    | some b => exact absurd h.symm (hnull b)
  | some a =>
    cases y with
    | none => exact absurd h (hnull a)
    | some b => exact congrArg some (hf h)

structure SigningKey where
  bytes : List UInt8
  deriving DecidableEq, Repr

structure VerifyingKey where
  bytes : List UInt8
  deriving DecidableEq, Repr

structure Crypto where
  sha256 : List UInt8 → Digest32
  /-- `serde_jcs::to_string` -/
  jcs : Json → String
  verifyingKey : SigningKey → VerifyingKey
  sign : SigningKey → List UInt8 → List UInt8
  verify : VerifyingKey → List UInt8 → List UInt8 → Bool
  sign_size : ∀ k m, (sign k m).length = 64
  verify_sign : ∀ k m, verify (verifyingKey k) m (sign k m) = true

mutual

/-- Compact JSON text, in field order and without escapes. -/
def Json.write : Json → String
  | .null => "null"
  | .bool b => toString b
  | .num n => toString n
  | .str s => "\"" ++ s ++ "\""
  | .arr xs => "[" ++ Json.writeAll xs ++ "]"
  | .obj fields => "\x7b" ++ Json.writeFields fields ++ "\x7d"

def Json.writeAll : List Json → String
  | [] => ""
  | [x] => x.write
  | x :: xs => x.write ++ "," ++ Json.writeAll xs

def Json.writeFields : List (String × Json) → String
  | [] => ""
  | [(k, v)] => "\"" ++ k ++ "\":" ++ v.write
  | (k, v) :: fs => "\"" ++ k ++ "\":" ++ v.write ++ "," ++ Json.writeFields fs

end

/-- The last `n` octets of `m` in reverse order, padded with zeros. -/
def padTo (n : Nat) (m : List UInt8) : List UInt8 := (m.reverse ++ List.replicate n 0).take n

theorem length_padTo (n : Nat) (m : List UInt8) : (padTo n m).length = n := by
  simp [padTo]

/-- A stand-in with the laws of the primitives, for evaluating the model on concrete inputs: a
digest is the end of the input, and a signature is the end of the message after the key. -/
def Crypto.standIn : Crypto where
  sha256 m := ⟨padTo 32 m, length_padTo 32 m⟩
  jcs := Json.write
  verifyingKey k := ⟨k.bytes⟩
  sign k m := padTo 64 (k.bytes ++ m)
  verify k m s := s = padTo 64 (k.bytes ++ m)
  sign_size _ _ := length_padTo 64 _
  verify_sign _ _ := by simp

/-- No two of the given inputs collide. -/
def CollisionFreeOn (sha256 : List UInt8 → Digest32) (inputs : List (List UInt8)) : Prop :=
  ∀ a ∈ inputs, ∀ b ∈ inputs, sha256 a = sha256 b → a = b

end BloomSigner
