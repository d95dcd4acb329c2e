/-
SHA-256 and its hexadecimal digest.

`sha256 message` is the hash of a list of bytes as FIPS 180-4 defines it, and
`hexdigest` spells the eight words of the result in lowercase hexadecimal, which
is what `hashlib.sha256(message).hexdigest()` returns.  Everything is computable
by structural recursion, so a digest of a concrete message can be evaluated by
the kernel (the example at the end is the standard test vector).

* `hexdigest_length` — a digest has 64 characters;
* `hexdigest_hex` — every one of them is a lowercase hexadecimal digit.
-/
import Mathlib.Data.BitVec
import Mathlib.Data.List.GetD
import Mathlib.Tactic.Common

namespace Sha256

/-- The round constants `K` of FIPS 180-4, section 4.2.2. -/
def roundConstants : List (BitVec 32) :=
  [0x428a2f98, 0x71374491, 0xb5c0fbcf, 0xe9b5dba5, 0x3956c25b, 0x59f111f1, 0x923f82a4,
   0xab1c5ed5, 0xd807aa98, 0x12835b01, 0x243185be, 0x550c7dc3, 0x72be5d74, 0x80deb1fe,
   0x9bdc06a7, 0xc19bf174, 0xe49b69c1, 0xefbe4786, 0x0fc19dc6, 0x240ca1cc, 0x2de92c6f,
   0x4a7484aa, 0x5cb0a9dc, 0x76f988da, 0x983e5152, 0xa831c66d, 0xb00327c8, 0xbf597fc7,
   0xc6e00bf3, 0xd5a79147, 0x06ca6351, 0x14292967, 0x27b70a85, 0x2e1b2138, 0x4d2c6dfc,
   0x53380d13, 0x650a7354, 0x766a0abb, 0x81c2c92e, 0x92722c85, 0xa2bfe8a1, 0xa81a664b,
   0xc24b8b70, 0xc76c51a3, 0xd192e819, 0xd6990624, 0xf40e3585, 0x106aa070, 0x19a4c116,
   0x1e376c08, 0x2748774c, 0x34b0bcb5, 0x391c0cb3, 0x4ed8aa4a, 0x5b9cca4f, 0x682e6ff3,
   0x748f82ee, 0x78a5636f, 0x84c87814, 0x8cc70208, 0x90befffa, 0xa4506ceb, 0xbef9a3f7,
   0xc67178f2]

/-- The eight working words. -/
structure Words where
  (a b c d e f g h : BitVec 32)
  deriving DecidableEq

/-- The initial hash value. -/
def Words.initial : Words :=
  ⟨0x6a09e667, 0xbb67ae85, 0x3c6ef372, 0xa54ff53a, 0x510e527f, 0x9b05688c, 0x1f83d9ab, 0x5be0cd19⟩

def Words.add (x y : Words) : Words :=
  ⟨x.a + y.a, x.b + y.b, x.c + y.c, x.d + y.d, x.e + y.e, x.f + y.f, x.g + y.g, x.h + y.h⟩

section

variable (x : BitVec 32)

def bigSigma0 : BitVec 32 :=
  x.rotateRight 2 ^^^ x.rotateRight 13 ^^^ x.rotateRight 22

def bigSigma1 : BitVec 32 :=
  x.rotateRight 6 ^^^ x.rotateRight 11 ^^^ x.rotateRight 25

def smallSigma0 : BitVec 32 :=
  x.rotateRight 7 ^^^ x.rotateRight 18 ^^^ (x >>> 3)

def smallSigma1 : BitVec 32 :=
  x.rotateRight 17 ^^^ x.rotateRight 19 ^^^ (x >>> 10)

def choose (y z : BitVec 32) : BitVec 32 := (x &&& y) ^^^ (~~~x &&& z)

def majority (y z : BitVec 32) : BitVec 32 := (x &&& y) ^^^ (x &&& z) ^^^ (y &&& z)

end

/-- One round, with `kw` the sum of the round constant and the schedule word. -/
def round (r : Words) (kw : BitVec 32) : Words :=
  let t1 := r.h + bigSigma1 r.e + choose r.e r.f r.g + kw
  let t2 := bigSigma0 r.a + majority r.a r.b r.c
  ⟨t1 + t2, r.a, r.b, r.c, r.d + t1, r.e, r.f, r.g⟩

/-- The rounds for the remaining constants.  `w` is the window of the next
sixteen words of the message schedule, extended by one word in each round. -/
def rounds : List (BitVec 32) → List (BitVec 32) → Words → Words
  | [], _, r => r
  | k :: ks, w, r =>
    let next := smallSigma1 (w.getD 14 0) + w.getD 9 0 + smallSigma0 (w.getD 1 0) + w.getD 0 0
    rounds ks (w.tail ++ [next]) (round r (k + w.headD 0))

/-- The hash value after one block of sixteen words. -/
def compress (h : Words) (block : List (BitVec 32)) : Words :=
  h.add (rounds roundConstants block h)

/-- The message followed by a one bit, zeros, and the 64-bit length in bits. -/
def pad (message : List UInt8) : List UInt8 :=
  message ++ (0x80 : UInt8) ::
    (List.replicate ((119 - message.length % 64) % 64) (0 : UInt8) ++
      (List.range 8).map fun i => UInt8.ofNat ((8 * message.length) >>> (8 * (7 - i))))

/-- Big-endian words of a list of bytes. -/
def words : List UInt8 → List (BitVec 32)
  | a :: b :: c :: d :: rest =>
    (a.toBitVec ++ b.toBitVec ++ c.toBitVec ++ d.toBitVec) :: words rest
  | _ => []

/-- Compress `n` blocks taken from the front of `ws`. -/
def blocks : Nat → List (BitVec 32) → Words → Words
  | 0, _, h => h
  | n + 1, ws, h => blocks n (ws.drop 16) (compress h (ws.take 16))

/-- SHA-256 of a list of bytes. -/
def sha256 (message : List UInt8) : Words :=
  let ws := words (pad message)
  blocks (ws.length / 16) ws Words.initial

/-! ### The hexadecimal spelling -/

/-- The characters of a hexadecimal digest. -/
def hexChars : List Char :=
  ['0', '1', '2', '3', '4', '5', '6', '7', '8', '9', 'a', 'b', 'c', 'd', 'e', 'f']

/-- The eight hexadecimal digits of a word, most significant first. -/
def hexWord (x : BitVec 32) : List Char :=
  (List.range 8).map fun i => hexChars.getD (x.toNat >>> (4 * (7 - i)) % 16) '0'

/-- The 64 hexadecimal digits of a hash value. -/
def hexdigest (r : Words) : List Char :=
  hexWord r.a ++ hexWord r.b ++ hexWord r.c ++ hexWord r.d ++
    hexWord r.e ++ hexWord r.f ++ hexWord r.g ++ hexWord r.h

theorem hexWord_length (x : BitVec 32) : (hexWord x).length = 8 := by
  simp [hexWord]

theorem hexWord_hex {x : BitVec 32} {c : Char} (hc : c ∈ hexWord x) : c ∈ hexChars := by
  rw [hexWord, List.mem_map] at hc
  obtain ⟨i, -, rfl⟩ := hc
  have hlt : x.toNat >>> (4 * (7 - i)) % 16 < hexChars.length := Nat.mod_lt _ (by decide)
  rw [List.getD_eq_getElem _ _ hlt]
  exact List.getElem_mem hlt

@[simp] theorem hexdigest_length (r : Words) : (hexdigest r).length = 64 := by
  simp [hexdigest, hexWord_length]

theorem hexdigest_hex {r : Words} {c : Char} (hc : c ∈ hexdigest r) : c ∈ hexChars := by
  simp only [hexdigest, List.mem_append] at hc
  -- the eight words of the digest, from the last one to the first
  rcases hc with ((((((hc | hc) | hc) | hc) | hc) | hc) | hc) | hc <;> exact hexWord_hex hc

example : String.ofList (hexdigest (sha256 [0x61, 0x62, 0x63]))
    = "ba7816bf8f01cfea414140de5dae2223b00361a396177a9cb410ff61f20015ad" := by
  decide +kernel

end Sha256
