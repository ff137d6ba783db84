/-
SHA-256, as `hashlib` computes it, and its `hexdigest`.

A stored file is recorded with the digest of its bytes, so the digest is computed here
and not assumed. Nothing proved about uploads depends on which function it is; what the
records use is only that the text of a digest is made of hexadecimal digits.
-/
import TradeLogistics.PyText

set_option autoImplicit false

namespace TradeLogistics.Sha256

open TradeLogistics.PyText

/-! ## 1. Words

The message is read as 32-bit words, the most significant byte first; sums are modulo
2^32, which is what `UInt32` does. -/

/-- The round constants. -/
def roundConstants : List UInt32 := [
  0x428a2f98, 0x71374491, 0xb5c0fbcf, 0xe9b5dba5, 0x3956c25b, 0x59f111f1, 0x923f82a4, 0xab1c5ed5,
  0xd807aa98, 0x12835b01, 0x243185be, 0x550c7dc3, 0x72be5d74, 0x80deb1fe, 0x9bdc06a7, 0xc19bf174,
  0xe49b69c1, 0xefbe4786, 0x0fc19dc6, 0x240ca1cc, 0x2de92c6f, 0x4a7484aa, 0x5cb0a9dc, 0x76f988da,
  0x983e5152, 0xa831c66d, 0xb00327c8, 0xbf597fc7, 0xc6e00bf3, 0xd5a79147, 0x06ca6351, 0x14292967,
  0x27b70a85, 0x2e1b2138, 0x4d2c6dfc, 0x53380d13, 0x650a7354, 0x766a0abb, 0x81c2c92e, 0x92722c85,
  0xa2bfe8a1, 0xa81a664b, 0xc24b8b70, 0xc76c51a3, 0xd192e819, 0xd6990624, 0xf40e3585, 0x106aa070,
  0x19a4c116, 0x1e376c08, 0x2748774c, 0x34b0bcb5, 0x391c0cb3, 0x4ed8aa4a, 0x5b9cca4f, 0x682e6ff3,
  0x748f82ee, 0x78a5636f, 0x84c87814, 0x8cc70208, 0x90befffa, 0xa4506ceb, 0xbef9a3f7, 0xc67178f2]

/-- `x` rotated right by `n` places. -/
def rotr (n x : UInt32) : UInt32 := x >>> n ||| x <<< (32 - n)

/-- The words of a message of four bytes each. -/
def words : List UInt8 → List UInt32
  | a :: b :: c :: d :: rest =>
    (a.toUInt32 <<< 24 ||| b.toUInt32 <<< 16 ||| c.toUInt32 <<< 8 ||| d.toUInt32) :: words rest
  | _ => []

/-- The low `n` bytes of a number, the most significant first. -/
def bigEndian : ℕ → ℕ → List UInt8
  | 0, _ => []
  | n + 1, k => UInt8.ofNat (k / 256 ^ n) :: bigEndian n k

/-- One bit, zeros up to the last eight bytes of a block, and the length in bits. -/
def padding (length : ℕ) : List UInt8 :=
  0x80 :: (List.replicate ((119 - length % 64) % 64) 0 ++ bigEndian 8 (8 * length))

/-! ## 2. Blocks -/

/-- `n` more words of the schedule, the last one first. -/
def extend : ℕ → List UInt32 → List UInt32
  | 0, ws => ws
  | n + 1, ws =>
    let x := ws.getD 1 0
    let y := ws.getD 14 0
    extend n (((rotr 17 x ^^^ rotr 19 x ^^^ x >>> 10) + ws.getD 6 0
      + (rotr 7 y ^^^ rotr 18 y ^^^ y >>> 3) + ws.getD 15 0) :: ws)

/-- The working variables. -/
structure Registers where
  a : UInt32
  b : UInt32
  c : UInt32
  d : UInt32
  e : UInt32
  f : UInt32
  g : UInt32
  h : UInt32

def initial : Registers where
  a := 0x6a09e667
  b := 0xbb67ae85
  c := 0x3c6ef372
  d := 0xa54ff53a
  e := 0x510e527f
  f := 0x9b05688c
  g := 0x1f83d9ab
  h := 0x5be0cd19

/-- One round, on a constant and a word of the schedule. -/
def round (r : Registers) (kw : UInt32 × UInt32) : Registers :=
  let t₁ := r.h + (rotr 6 r.e ^^^ rotr 11 r.e ^^^ rotr 25 r.e)
    + ((r.e &&& r.f) ^^^ (~~~r.e &&& r.g)) + kw.1 + kw.2
  let t₂ := (rotr 2 r.a ^^^ rotr 13 r.a ^^^ rotr 22 r.a)
    + ((r.a &&& r.b) ^^^ (r.a &&& r.c) ^^^ (r.b &&& r.c))
  ⟨t₁ + t₂, r.a, r.b, r.c, r.d + t₁, r.e, r.f, r.g⟩

/-- One block of sixteen words. -/
def compress (s : Registers) (block : List UInt32) : Registers :=
  let r := (roundConstants.zip (extend 48 block.reverse).reverse).foldl round s
  ⟨s.a + r.a, s.b + r.b, s.c + r.c, s.d + r.d, s.e + r.e, s.f + r.f, s.g + r.g, s.h + r.h⟩

/-- The blocks of a message, `n` of them. -/
def compressAll : ℕ → Registers → List UInt32 → Registers
  | 0, s, _ => s
  | n + 1, s, ws => compressAll n (compress s (ws.take 16)) (ws.drop 16)

/-- `sha256(content).digest()`. -/
def sha256 (content : List UInt8) : List UInt8 :=
  let message := words (content ++ padding content.length)
  let s := compressAll (message.length / 16) initial message
  [s.a, s.b, s.c, s.d, s.e, s.f, s.g, s.h].flatMap fun x => bigEndian 4 x.toNat

/-! ## 3. The text of a digest -/

/-- `hexdigest()`. -/
def hexdigest (digest : List UInt8) : String :=
  String.ofList (digest.flatMap fun b =>
    [Nat.digitChar (b.toNat / 16), Nat.digitChar (b.toNat % 16)])

example : hexdigest (sha256 [97, 98, 99])
    = "ba7816bf8f01cfea414140de5dae2223b00361a396177a9cb410ff61f20015ad" := by decide +kernel

theorem length_bigEndian (n k : ℕ) : (bigEndian n k).length = n := by
  induction n generalizing k with
  | zero => rfl
  | succ n ih => rw [bigEndian, List.length_cons, ih]

/-- A digest has 32 bytes. -/
theorem length_sha256 (content : List UInt8) : (sha256 content).length = 32 := by
  simp [sha256, length_bigEndian]

/-- Two characters for a byte. -/
theorem length_hexdigest (digest : List UInt8) :
    (hexdigest digest).length = 2 * digest.length := by
  rw [hexdigest, ← String.length_toList, String.toList_ofList, List.length_flatMap]
  simp [Nat.mul_comm]

/-- The text of a digest has no blanks. -/
theorem isspace_hexdigest (digest : List UInt8) :
    ∀ c ∈ (hexdigest digest).toList, isspace c = false := by
  intro c hc
  rw [hexdigest, String.toList_ofList, List.mem_flatMap] at hc
  obtain ⟨b, -, hc⟩ := hc
  have hb : b.toNat < 256 := b.toNat_lt
  rcases List.mem_pair.mp hc with rfl | rfl
  · exact digitChar_plain.2 _ (by omega)
  · exact digitChar_plain.2 _ (by omega)

end TradeLogistics.Sha256
