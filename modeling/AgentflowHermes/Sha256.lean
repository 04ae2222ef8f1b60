import Mathlib.Algebra.Group.Nat.Defs

namespace Sha256

def roundConstants : List UInt32 := [
  0x428a2f98, 0x71374491, 0xb5c0fbcf, 0xe9b5dba5, 0x3956c25b, 0x59f111f1, 0x923f82a4, 0xab1c5ed5,
  0xd807aa98, 0x12835b01, 0x243185be, 0x550c7dc3, 0x72be5d74, 0x80deb1fe, 0x9bdc06a7, 0xc19bf174,
  0xe49b69c1, 0xefbe4786, 0x0fc19dc6, 0x240ca1cc, 0x2de92c6f, 0x4a7484aa, 0x5cb0a9dc, 0x76f988da,
  0x983e5152, 0xa831c66d, 0xb00327c8, 0xbf597fc7, 0xc6e00bf3, 0xd5a79147, 0x06ca6351, 0x14292967,
  0x27b70a85, 0x2e1b2138, 0x4d2c6dfc, 0x53380d13, 0x650a7354, 0x766a0abb, 0x81c2c92e, 0x92722c85,
  0xa2bfe8a1, 0xa81a664b, 0xc24b8b70, 0xc76c51a3, 0xd192e819, 0xd6990624, 0xf40e3585, 0x106aa070,
  0x19a4c116, 0x1e376c08, 0x2748774c, 0x34b0bcb5, 0x391c0cb3, 0x4ed8aa4a, 0x5b9cca4f, 0x682e6ff3,
  0x748f82ee, 0x78a5636f, 0x84c87814, 0x8cc70208, 0x90befffa, 0xa4506ceb, 0xbef9a3f7, 0xc67178f2]

/-- The eight working words. -/
structure Words where
  a : UInt32
  b : UInt32
  c : UInt32
  d : UInt32
  e : UInt32
  f : UInt32
  g : UInt32
  h : UInt32

def initial : Words :=
  ⟨0x6a09e667, 0xbb67ae85, 0x3c6ef372, 0xa54ff53a, 0x510e527f, 0x9b05688c, 0x1f83d9ab, 0x5be0cd19⟩

def rotr (x : UInt32) (n : UInt32) : UInt32 := (x >>> n) ||| (x <<< (32 - n))

/-- The message with its 1 bit, zeros up to 56 modulo 64 and its bit length. -/
def padded (bytes : List UInt8) : List UInt8 :=
  let zeros := (119 - bytes.length % 64) % 64
  let length := (List.range 8).map fun i => UInt8.ofNat (bytes.length * 8 / 256 ^ (7 - i))
  bytes ++ 0x80 :: List.replicate zeros 0 ++ length

def bigEndian : List UInt8 → List UInt32
  | a :: b :: c :: d :: rest =>
    ((a.toUInt32 <<< 24) ||| (b.toUInt32 <<< 16) ||| (c.toUInt32 <<< 8) ||| d.toUInt32) :: bigEndian rest
  | _ => []

/-- The message schedule, kept newest word first. -/
def schedule : Nat → List UInt32 → List UInt32
  | 0, ws => ws
  | n + 1, ws =>
    let w15 := ws.getD 14 0
    let w2 := ws.getD 1 0
    let s0 := rotr w15 7 ^^^ rotr w15 18 ^^^ (w15 >>> 3)
    let s1 := rotr w2 17 ^^^ rotr w2 19 ^^^ (w2 >>> 10)
    schedule n ((ws.getD 15 0 + s0 + ws.getD 6 0 + s1) :: ws)

def round (w : Words) (kw : UInt32 × UInt32) : Words :=
  let s1 := rotr w.e 6 ^^^ rotr w.e 11 ^^^ rotr w.e 25
  let ch := (w.e &&& w.f) ^^^ (~~~w.e &&& w.g)
  let t1 := w.h + s1 + ch + kw.1 + kw.2
  let s0 := rotr w.a 2 ^^^ rotr w.a 13 ^^^ rotr w.a 22
  let maj := (w.a &&& w.b) ^^^ (w.a &&& w.c) ^^^ (w.b &&& w.c)
  ⟨t1 + (s0 + maj), w.a, w.b, w.c, w.d + t1, w.e, w.f, w.g⟩

def compress (w : Words) (block : List UInt32) : Words :=
  let ws := (schedule 48 block.reverse).reverse
  let r := (roundConstants.zip ws).foldl round w
  ⟨w.a + r.a, w.b + r.b, w.c + r.c, w.d + r.d, w.e + r.e, w.f + r.f, w.g + r.g, w.h + r.h⟩

def blocks : Nat → List UInt32 → List (List UInt32)
  | 0, _ => []
  | n + 1, ws => ws.take 16 :: blocks n (ws.drop 16)

def hexDigits (n : Nat) (x : UInt32) : List Char :=
  (List.range n).map fun i => Nat.digitChar (x.toNat / 16 ^ (n - 1 - i) % 16)

/-- `hashlib.sha256(bytes).hexdigest()`. -/
def hexdigest (bytes : List UInt8) : String :=
  let words := bigEndian (padded bytes)
  let r := (blocks (words.length / 16) words).foldl compress initial
  String.ofList ([r.a, r.b, r.c, r.d, r.e, r.f, r.g, r.h].flatMap (hexDigits 8))

theorem hexDigits_chars {n : Nat} {x : UInt32} {c : Char} (h : c ∈ hexDigits n x) :
    c ∈ "0123456789abcdef".toList := by
  obtain ⟨i, _, rfl⟩ := List.mem_map.mp h
  have digits : ∀ m < 16, Nat.digitChar m ∈ "0123456789abcdef".toList := by decide
  exact digits _ (Nat.mod_lt _ (by decide))

theorem hexdigest_chars {bytes : List UInt8} {c : Char} (h : c ∈ (hexdigest bytes).toList) :
    c ∈ "0123456789abcdef".toList := by
  unfold hexdigest at h
  rw [String.toList_ofList] at h
  obtain ⟨x, _, hx⟩ := List.mem_flatMap.mp h
  exact hexDigits_chars hx

theorem hexdigest_length (bytes : List UInt8) : (hexdigest bytes).toList.length = 64 := by
  unfold hexdigest
  rw [String.toList_ofList]
  simp [hexDigits]

end Sha256
