/-
  Failover.Bytes.Sha256
  ─────────────────────
  **The 256-bit secure hash of a byte string.** The message is padded to
  whole blocks of sixteen 32-bit words; each block is expanded to 64
  words, which drive 64 rounds on eight working words; the working words
  are added to the running state.

  Main statement: `length_digest` — a digest has 32 bytes.
-/

namespace Failover.Bytes.Sha256

/-! ## §1. Constants. -/

/-- The state before the first block. -/
def initialState : List UInt32 := [
  0x6a09e667, 0xbb67ae85, 0x3c6ef372, 0xa54ff53a, 0x510e527f, 0x9b05688c, 0x1f83d9ab, 0x5be0cd19]

/-- One constant for each round. -/
def roundConstants : List UInt32 := [
  0x428a2f98, 0x71374491, 0xb5c0fbcf, 0xe9b5dba5, 0x3956c25b, 0x59f111f1, 0x923f82a4, 0xab1c5ed5,
  0xd807aa98, 0x12835b01, 0x243185be, 0x550c7dc3, 0x72be5d74, 0x80deb1fe, 0x9bdc06a7, 0xc19bf174,
  0xe49b69c1, 0xefbe4786, 0x0fc19dc6, 0x240ca1cc, 0x2de92c6f, 0x4a7484aa, 0x5cb0a9dc, 0x76f988da,
  0x983e5152, 0xa831c66d, 0xb00327c8, 0xbf597fc7, 0xc6e00bf3, 0xd5a79147, 0x06ca6351, 0x14292967,
  0x27b70a85, 0x2e1b2138, 0x4d2c6dfc, 0x53380d13, 0x650a7354, 0x766a0abb, 0x81c2c92e, 0x92722c85,
  0xa2bfe8a1, 0xa81a664b, 0xc24b8b70, 0xc76c51a3, 0xd192e819, 0xd6990624, 0xf40e3585, 0x106aa070,
  0x19a4c116, 0x1e376c08, 0x2748774c, 0x34b0bcb5, 0x391c0cb3, 0x4ed8aa4a, 0x5b9cca4f, 0x682e6ff3,
  0x748f82ee, 0x78a5636f, 0x84c87814, 0x8cc70208, 0x90befffa, 0xa4506ceb, 0xbef9a3f7, 0xc67178f2]

/-! ## §2. Words and blocks. -/

/-- Rotate a word to the right. -/
def rotate (w : UInt32) (n : UInt32) : UInt32 := (w >>> n) ||| (w <<< (32 - n))

/-- The big-endian bytes of a number, `n` of them. -/
def bigEndian : Nat → Nat → List UInt8
  | 0, _ => []
  | n + 1, v => UInt8.ofNat (v / Nat.pow 256 n) :: bigEndian n v

/-- Four bytes as a big-endian word, and so on to the end. -/
def words : List UInt8 → List UInt32
  | a :: b :: c :: d :: rest =>
      UInt32.ofNat (a.toNat * 16777216 + b.toNat * 65536 + c.toNat * 256 + d.toNat) :: words rest
  | _ => []

/-- How many zero bytes stand between the end mark and the length. -/
def fill (n : Nat) : Nat := (119 - n % 64) % 64

/-- The message, an end mark, zeros, and the length in bits. -/
def padded (message : List UInt8) : List UInt8 :=
  message ++ 0x80 :: List.replicate (fill message.length) 0 ++ bigEndian 8 (message.length * 8)

/-! ## §3. One block. -/

/-- Expand sixteen words by `n` more.  `recent` holds the last sixteen words, newest first. -/
def expand : Nat → List UInt32 → List UInt32
  | 0, _ => []
  | n + 1, recent =>
      let w2 := recent.getD 1 0
      let w7 := recent.getD 6 0
      let w15 := recent.getD 14 0
      let w16 := recent.getD 15 0
      let s0 := rotate w15 7 ^^^ rotate w15 18 ^^^ (w15 >>> 3)
      let s1 := rotate w2 17 ^^^ rotate w2 19 ^^^ (w2 >>> 10)
      let w := w16 + s0 + w7 + s1
      w :: expand n (w :: recent.take 15)

/-- The eight working words. -/
structure Working where
  (a b c d e f g h : UInt32)

/-- One round with its constant and its message word. -/
def Working.round (s : Working) (kw : UInt32 × UInt32) : Working :=
  let s1 := rotate s.e 6 ^^^ rotate s.e 11 ^^^ rotate s.e 25
  let ch := (s.e &&& s.f) ^^^ ((s.e ^^^ 0xffffffff) &&& s.g)
  let t1 := s.h + s1 + ch + kw.1 + kw.2
  let s0 := rotate s.a 2 ^^^ rotate s.a 13 ^^^ rotate s.a 22
  let maj := (s.a &&& s.b) ^^^ (s.a &&& s.c) ^^^ (s.b &&& s.c)
  ⟨t1 + (s0 + maj), s.a, s.b, s.c, s.d + t1, s.e, s.f, s.g⟩

/-- The working words as a list. -/
def Working.toList (s : Working) : List UInt32 := [s.a, s.b, s.c, s.d, s.e, s.f, s.g, s.h]

/-- The working words of a state. -/
def Working.ofList (l : List UInt32) : Working :=
  ⟨l.getD 0 0, l.getD 1 0, l.getD 2 0, l.getD 3 0, l.getD 4 0, l.getD 5 0, l.getD 6 0, l.getD 7 0⟩

/-- The state after a block of sixteen words. -/
def compress (state block : List UInt32) : List UInt32 :=
  let schedule := block ++ expand 48 block.reverse
  let final := (roundConstants.zip schedule).foldl Working.round (Working.ofList state)
  (Working.ofList state).toList.zipWith (· + ·) final.toList

/-- Absorb whole blocks, at most `n` of them. -/
def absorb : Nat → List UInt32 → List UInt32 → List UInt32
  | 0, state, _ => state
  | n + 1, state, ws => absorb n (compress state (ws.take 16)) (ws.drop 16)

/-! ## §4. The digest. -/

/-- The state after all blocks of the padded message. -/
def finalState (message : List UInt8) : List UInt32 :=
  let p := padded message
  absorb (p.length / 64) initialState (words p)

/-- The 32 bytes of the final state. -/
def digest (message : List UInt8) : List UInt8 :=
  (finalState message).flatMap fun w => bigEndian 4 w.toNat

/-! ## §5. Sizes. -/

theorem length_bigEndian (n v : Nat) : (bigEndian n v).length = n := by
  induction n with
  | zero => rfl
  | succ n ih => simp [bigEndian, ih]

private theorem length_compress (state block : List UInt32) :
    (compress state block).length = 8 := by
  simp [compress, Working.toList]

private theorem length_absorb (n : Nat) (state ws : List UInt32) (h : state.length = 8) :
    (absorb n state ws).length = 8 := by
  induction n generalizing state ws with
  | zero => exact h
  | succ n ih => exact ih _ _ (length_compress ..)

private theorem length_flatMap_words (l : List UInt32) :
    (l.flatMap fun w => bigEndian 4 w.toNat).length = 4 * l.length := by
  induction l with
  | nil => rfl
  | cons w r ih =>
      rw [List.flatMap_cons, List.length_append, ih, length_bigEndian, List.length_cons]
      omega

/-- A digest has 32 bytes. -/
theorem length_digest (message : List UInt8) : (digest message).length = 32 := by
  rw [digest, length_flatMap_words, finalState, length_absorb _ _ _ rfl]

end Failover.Bytes.Sha256
