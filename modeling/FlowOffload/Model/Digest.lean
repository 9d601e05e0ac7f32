import Mathlib.Data.List.Basic
import Mathlib.Tactic.Common

/-!
# SHA-256

The incremental hasher of the source: eight chaining words, a buffer of fewer
than 64 pending bytes, the byte count and the finalised flag.  The buffer is
the list of the bytes that are pending, so its length is `buffered_`.
-/

namespace FlowOffload

theorem length_zeroBytes : (List.replicate 32 (0 : UInt8)).length = 32 := rfl

/-- A 256-bit digest, in canonical big-endian byte order. -/
structure Sha256Digest where
  bytes : List UInt8 := List.replicate 32 0
  size : bytes.length = 32 := by exact length_zeroBytes
  deriving DecidableEq, Repr

instance : Inhabited Sha256Digest := ⟨{}⟩

def Sha256Digest.isZero (digest : Sha256Digest) : Bool :=
  digest.bytes.all (· == 0)

/-- The eight chaining words, also used as the eight working variables. -/
structure Sha256Words where
  a : UInt32 := 0x6a09e667
  b : UInt32 := 0xbb67ae85
  c : UInt32 := 0x3c6ef372
  d : UInt32 := 0xa54ff53a
  e : UInt32 := 0x510e527f
  f : UInt32 := 0x9b05688c
  g : UInt32 := 0x1f83d9ab
  h : UInt32 := 0x5be0cd19
  deriving DecidableEq, Repr

structure Sha256 where
  state : Sha256Words := {}
  buffer : List UInt8 := []
  totalBytes : UInt64 := 0
  finalized : Bool := false
  deriving DecidableEq, Repr

namespace Sha256

def kRoundConstants : List UInt32 :=
  [0x428a2f98, 0x71374491, 0xb5c0fbcf, 0xe9b5dba5, 0x3956c25b, 0x59f111f1,
   0x923f82a4, 0xab1c5ed5, 0xd807aa98, 0x12835b01, 0x243185be, 0x550c7dc3,
   0x72be5d74, 0x80deb1fe, 0x9bdc06a7, 0xc19bf174, 0xe49b69c1, 0xefbe4786,
   0x0fc19dc6, 0x240ca1cc, 0x2de92c6f, 0x4a7484aa, 0x5cb0a9dc, 0x76f988da,
   0x983e5152, 0xa831c66d, 0xb00327c8, 0xbf597fc7, 0xc6e00bf3, 0xd5a79147,
   0x06ca6351, 0x14292967, 0x27b70a85, 0x2e1b2138, 0x4d2c6dfc, 0x53380d13,
   0x650a7354, 0x766a0abb, 0x81c2c92e, 0x92722c85, 0xa2bfe8a1, 0xa81a664b,
   0xc24b8b70, 0xc76c51a3, 0xd192e819, 0xd6990624, 0xf40e3585, 0x106aa070,
   0x19a4c116, 0x1e376c08, 0x2748774c, 0x34b0bcb5, 0x391c0cb3, 0x4ed8aa4a,
   0x5b9cca4f, 0x682e6ff3, 0x748f82ee, 0x78a5636f, 0x84c87814, 0x8cc70208,
   0x90befffa, 0xa4506ceb, 0xbef9a3f7, 0xc67178f2]

def rotr (value amount : UInt32) : UInt32 :=
  (value >>> amount) ||| (value <<< (32 - amount))

def loadBe32 (p0 p1 p2 p3 : UInt8) : UInt32 :=
  (p0.toUInt32 <<< 24) ||| (p1.toUInt32 <<< 16) ||| (p2.toUInt32 <<< 8) |||
    p3.toUInt32

def storeBe32 (value : UInt32) : List UInt8 :=
  [(value >>> 24).toUInt8, (value >>> 16).toUInt8, (value >>> 8).toUInt8,
   value.toUInt8]

def loadWords : List UInt8 → List UInt32
  | p0 :: p1 :: p2 :: p3 :: rest => loadBe32 p0 p1 p2 p3 :: loadWords rest
  | _ => []

/--
The message schedule from word 16 on.  The second argument is the window of
the sixteen preceding words, oldest first.
-/
def extendSchedule : Nat → List UInt32 → List UInt32
  | 0, _ => []
  | count + 1, window =>
      let w15 := window.getD 1 0
      let w2 := window.getD 14 0
      let s0 := rotr w15 7 ^^^ rotr w15 18 ^^^ (w15 >>> 3)
      let s1 := rotr w2 17 ^^^ rotr w2 19 ^^^ (w2 >>> 10)
      let w := window.getD 0 0 + s0 + window.getD 9 0 + s1
      w :: extendSchedule count (window.drop 1 ++ [w])

def round (s : Sha256Words) (constant word : UInt32) : Sha256Words :=
  let s1 := rotr s.e 6 ^^^ rotr s.e 11 ^^^ rotr s.e 25
  let ch := (s.e &&& s.f) ^^^ ((~~~s.e) &&& s.g)
  let temp1 := s.h + s1 + ch + constant + word
  let s0 := rotr s.a 2 ^^^ rotr s.a 13 ^^^ rotr s.a 22
  let maj := (s.a &&& s.b) ^^^ (s.a &&& s.c) ^^^ (s.b &&& s.c)
  let temp2 := s0 + maj
  ⟨temp1 + temp2, s.a, s.b, s.c, s.d + temp1, s.e, s.f, s.g⟩

def compress (state : Sha256Words) (block : List UInt8) : Sha256Words :=
  let head := loadWords block
  let w := head ++ extendSchedule 48 head
  let r := (kRoundConstants.zip w).foldl
    (fun s entry => round s entry.1 entry.2) state
  ⟨state.a + r.a, state.b + r.b, state.c + r.c, state.d + r.d,
    state.e + r.e, state.f + r.f, state.g + r.g, state.h + r.h⟩

/-- The whole-block loop of `update`; the fuel bounds the number of blocks. -/
def absorbBlocks : Nat → Sha256Words → List UInt8 → Sha256Words × List UInt8
  | 0, state, data => (state, data)
  | fuel + 1, state, data =>
      if data.length ≥ 64 then
        absorbBlocks fuel (compress state (data.take 64)) (data.drop 64)
      else (state, data)

def update (hasher : Sha256) (data : List UInt8) : Sha256 :=
  if hasher.finalized || data.isEmpty then hasher
  else
    let total := hasher.totalBytes + data.length.toUInt64
    let take := if hasher.buffer.length > 0 then
      min data.length (64 - hasher.buffer.length) else 0
    let filled := hasher.buffer ++ data.take take
    let remaining := data.drop take
    let (state, pending) := if filled.length = 64 then
      (compress hasher.state filled, []) else (hasher.state, filled)
    let (state, rest) := absorbBlocks remaining.length state remaining
    ⟨state, pending ++ rest, total, false⟩

def wordBytes (s : Sha256Words) : List UInt8 :=
  storeBe32 s.a ++ storeBe32 s.b ++ storeBe32 s.c ++ storeBe32 s.d ++
    storeBe32 s.e ++ storeBe32 s.f ++ storeBe32 s.g ++ storeBe32 s.h

theorem length_wordBytes (s : Sha256Words) : (wordBytes s).length = 32 := rfl

/-- The eight big-endian bytes of the message length in bits. -/
def lengthBytes (bitLength : UInt64) : List UInt8 :=
  (List.range 8).map fun i => (bitLength >>> ((7 - i.toUInt64) * 8)).toUInt8

def finish (hasher : Sha256) : Sha256Digest :=
  if hasher.finalized then {}
  else
    let bitLength := hasher.totalBytes * 8
    let buffered := hasher.buffer.length
    let padLength := if buffered < 56 then 56 - buffered else 120 - buffered
    let padded := hasher.update ((0x80 :: List.replicate 71 0).take padLength)
    let done := padded.update (lengthBytes bitLength)
    ⟨wordBytes done.state, length_wordBytes done.state⟩

/-- The one-shot digest of a byte string. -/
def of (data : List UInt8) : Sha256Digest := (update {} data).finish

end Sha256

end FlowOffload
