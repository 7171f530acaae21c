import Mathlib.Data.String.Basic

/-! # Octets, their text forms and big-endian words

Byte strings are lists of octets. Hexadecimal encoding is lower case; decoding accepts both cases
and rejects odd lengths and foreign characters. -/

namespace Lib

/-- The UTF-8 octets of a text. -/
def utf8 (s : String) : List UInt8 := s.toByteArray.data.toList

theorem utf8_injective {s t : String} (h : utf8 s = utf8 t) : s = t :=
  String.toByteArray_inj.mp (ByteArray.ext (Array.ext' h))

@[simp] theorem utf8_append (s t : String) : utf8 (s ++ t) = utf8 s ++ utf8 t := by
  simp [utf8]

theorem length_utf8 (s : String) : (utf8 s).length = s.utf8ByteSize := rfl

theorem fromUTF8?_utf8 (s : String) : String.fromUTF8? ⟨(utf8 s).toArray⟩ = some s := by
  have hbytes : (⟨(utf8 s).toArray⟩ : ByteArray) = s.toByteArray := by
    rw [utf8, Array.toArray_toList]
  rw [hbytes, String.fromUTF8?]
  exact dif_pos s.isValidUTF8

/-- The eight octets of `n`, most significant first; `n` is read modulo `2 ^ 64`. -/
def beBytes64 (n : Nat) : List UInt8 :=
  (List.range 8).map fun i => UInt8.ofNat (n / 256 ^ (7 - i))

@[simp] theorem length_beBytes64 (n : Nat) : (beBytes64 n).length = 8 := rfl

/-- The four octets of `n`, most significant first; `n` is read modulo `2 ^ 32`. -/
def beBytes32 (n : Nat) : List UInt8 :=
  (List.range 4).map fun i => UInt8.ofNat (n / 256 ^ (3 - i))

@[simp] theorem length_beBytes32 (n : Nat) : (beBytes32 n).length = 4 := rfl

theorem beBytes32_injective {m n : Nat} (h : beBytes32 m = beBytes32 n) (hm : m < 2 ^ 32)
    (hn : n < 2 ^ 32) : m = n := by
  have hbyte : ∀ i < 4, m / 256 ^ (3 - i) % 256 = n / 256 ^ (3 - i) % 256 := by
    intro i hi
    have hi' : i ∈ List.range 4 := List.mem_range.mpr hi
    exact congrArg UInt8.toNat (List.map_inj_left.mp h i hi')
  have h₀ : m / 16777216 % 256 = n / 16777216 % 256 := hbyte 0 (by decide)
  have h₁ : m / 65536 % 256 = n / 65536 % 256 := hbyte 1 (by decide)
  have h₂ : m / 256 % 256 = n / 256 % 256 := hbyte 2 (by decide)
  have h₃ : m / 1 % 256 = n / 1 % 256 := hbyte 3 (by decide)
  omega

theorem beBytes32_toNat_injective {u v : UInt32} (h : beBytes32 u.toNat = beBytes32 v.toNat) :
    u = v :=
  UInt32.toNat_inj.mp (beBytes32_injective h u.toNat_lt v.toNat_lt)

/-- The letters of unpadded URL-safe base 64. -/
def base64Digit (n : Nat) : Char :=
  if n < 26 then Char.ofNat (65 + n)
  else if n < 52 then Char.ofNat (71 + n)
  else if n < 62 then Char.ofNat (n - 4)
  else if n = 62 then '-'
  else '_'

def base64Chars : List UInt8 → List Char
  | [] => []
  | [a] => [base64Digit (a.toNat / 4), base64Digit (a.toNat % 4 * 16)]
  | [a, b] => [base64Digit (a.toNat / 4), base64Digit (a.toNat % 4 * 16 + b.toNat / 16),
      base64Digit (b.toNat % 16 * 4)]
  | a :: b :: c :: rest => base64Digit (a.toNat / 4) ::
      base64Digit (a.toNat % 4 * 16 + b.toNat / 16) ::
      base64Digit (b.toNat % 16 * 4 + c.toNat / 64) :: base64Digit (c.toNat % 64) ::
      base64Chars rest

namespace Hex

def digit (n : Nat) : Char := if n < 10 then Char.ofNat (48 + n) else Char.ofNat (87 + n)

def value (c : Char) : Option Nat :=
  if '0' ≤ c ∧ c ≤ '9' then some (c.toNat - 48)
  else if 'a' ≤ c ∧ c ≤ 'f' then some (c.toNat - 87)
  else if 'A' ≤ c ∧ c ≤ 'F' then some (c.toNat - 55)
  else none

def encodeByte (b : UInt8) : List Char := [digit (b.toNat / 16), digit (b.toNat % 16)]

def encode (bs : List UInt8) : String := String.ofList (bs.flatMap encodeByte)

def decodeChars : List Char → Option (List UInt8)
  | [] => some []
  | [_] => none
  | c :: d :: cs => do
    let hi ← value c
    let lo ← value d
    let bs ← decodeChars cs
    return UInt8.ofNat (16 * hi + lo) :: bs

def decode (s : String) : Option (List UInt8) := decodeChars s.toList

theorem value_digit : ∀ n < 16, value (digit n) = some n := by decide

theorem utf8Size_digit : ∀ n < 16, (digit n).utf8Size = 1 := by decide

theorem decodeChars_encodeByte (b : UInt8) (cs : List Char) :
    decodeChars (encodeByte b ++ cs) = (decodeChars cs).map (b :: ·) := by
  have hb := b.toNat_lt
  have hbyte : UInt8.ofNat (16 * (b.toNat / 16) + b.toNat % 16) = b := by
    rw [Nat.div_add_mod, UInt8.ofNat_toNat]
  simp only [encodeByte, List.cons_append, List.nil_append, decodeChars,
    value_digit _ (show b.toNat / 16 < 16 by omega), value_digit _ (show b.toNat % 16 < 16 by omega)]
  cases decodeChars cs with
  | none => rfl
  | some bs => exact congrArg (fun b => some (b :: bs)) hbyte

@[simp] theorem decode_encode (bs : List UInt8) : decode (encode bs) = some bs := by
  simp only [decode, encode, String.toList_ofList]
  induction bs with
  | nil => rfl
  | cons b bs ih => rw [List.flatMap_cons, decodeChars_encodeByte, ih]; rfl

theorem encode_injective {as bs : List UInt8} (h : encode as = encode bs) : as = bs := by
  have := decode_encode as
  rw [h, decode_encode] at this
  exact (Option.some.inj this).symm

theorem utf8ByteSize_encode (bs : List UInt8) : (encode bs).utf8ByteSize = 2 * bs.length := by
  simp only [encode, String.utf8ByteSize_ofList]
  induction bs with
  | nil => rfl
  | cons b bs ih =>
    have hb := b.toNat_lt
    simp [List.flatMap_cons, encodeByte, ih, utf8Size_digit _ (show b.toNat / 16 < 16 by omega),
      utf8Size_digit _ (show b.toNat % 16 < 16 by omega)]
    omega

end Hex

end Lib
