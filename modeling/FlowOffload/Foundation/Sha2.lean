import Mathlib.Data.Nat.Prime.Basic
import FlowOffload.Foundation.BlockStream
import FlowOffload.Foundation.ByteCodec

/-!
# SHA-256 as FIPS 180-4 defines it

Words are bit vectors, the message schedule is its recurrence, and the
constants are computed from the roots of the first primes.  The message is a
byte string, so its padding is whole bytes.
-/

namespace FlowOffload.Foundation.Sha2

/-! ## Functions on words -/

abbrev Word := BitVec 32

def ch (x y z : Word) : Word := (x &&& y) ^^^ (~~~x &&& z)

def maj (x y z : Word) : Word := (x &&& y) ^^^ (x &&& z) ^^^ (y &&& z)

def bigSigma0 (x : Word) : Word :=
  x.rotateRight 2 ^^^ x.rotateRight 13 ^^^ x.rotateRight 22

def bigSigma1 (x : Word) : Word :=
  x.rotateRight 6 ^^^ x.rotateRight 11 ^^^ x.rotateRight 25

def smallSigma0 (x : Word) : Word :=
  x.rotateRight 7 ^^^ x.rotateRight 18 ^^^ x >>> 3

def smallSigma1 (x : Word) : Word :=
  x.rotateRight 17 ^^^ x.rotateRight 19 ^^^ x >>> 10

/-! ## Constants -/

/-- The largest number whose power does not exceed `n`, bit by bit. -/
def floorRoot (power n : Nat) : Nat → Nat
  | 0 => 0
  | bits + 1 =>
      let high := floorRoot power (n / 2 ^ power) bits
      if (2 * high + 1) ^ power ≤ n then 2 * high + 1 else 2 * high

/-- Its power is the last one that does not exceed `n`. -/
theorem floorRoot_spec {power n bits : Nat} (hpower : 0 < power)
    (h : n < (2 ^ bits) ^ power) :
    floorRoot power n bits ^ power ≤ n ∧
      n < (floorRoot power n bits + 1) ^ power := by
  induction bits generalizing n with
  | zero =>
      rw [pow_zero, one_pow] at h
      rw [floorRoot, zero_pow hpower.ne', zero_add, one_pow]
      omega
  | succ bits ih =>
      have hscale : 0 < 2 ^ power := Nat.two_pow_pos power
      have hsmaller : n / 2 ^ power < (2 ^ bits) ^ power := by
        rw [Nat.div_lt_iff_lt_mul hscale, ← mul_pow, ← pow_succ]
        exact h
      obtain ⟨hlow, hhigh⟩ := ih hsmaller
      rw [floorRoot]
      generalize floorRoot power (n / 2 ^ power) bits = high at hlow hhigh
      have hbelow : (2 * high) ^ power ≤ n := by
        rw [mul_pow]
        exact (Nat.mul_le_mul_left _ hlow).trans (Nat.mul_div_le n _)
      have habove : n < (2 * high + 2) ^ power := by
        have hnext : 2 * high + 2 = 2 * (high + 1) := by omega
        rw [hnext, mul_pow]
        rw [Nat.div_lt_iff_lt_mul hscale, Nat.mul_comm] at hhigh
        exact hhigh
      split
      next hle => exact ⟨hle, habove⟩
      next hgt => exact ⟨hbelow, Nat.lt_of_not_le hgt⟩

def primes : List Nat := (List.range 312).filter fun n => Nat.Prime n

/-- Below the square of 18 a factor below 18 decides. -/
theorem prime_iff_small {n : Nat} (h : n < 18 * 18) :
    n.Prime ↔ 2 ≤ n ∧ ∀ d ∈ List.range 18, 2 ≤ d → d ∣ n → d = n := by
  constructor
  · intro hprime
    refine ⟨hprime.two_le, fun d _ hd hdvd => ?_⟩
    rcases hprime.eq_one_or_self_of_dvd d hdvd with hone | hself
    · omega
    · exact hself
  · rintro ⟨htwo, hsmall⟩
    refine Nat.prime_def_le_sqrt.mpr ⟨htwo, fun d hd hsqrt hdvd => ?_⟩
    have hsquare : d * d ≤ n := Nat.le_sqrt.mp hsqrt
    have hlt : d < 18 := by
      by_contra hge
      have hle := Nat.mul_le_mul (Nat.le_of_not_lt hge) (Nat.le_of_not_lt hge)
      omega
    have hself := hsmall d (List.mem_range.mpr hlt) hd hdvd
    subst hself
    have hmore := Nat.mul_le_mul_right d hd
    omega

theorem primes_eq :
    primes =
      [2, 3, 5, 7, 11, 13, 17, 19, 23, 29, 31, 37, 41, 43, 47, 53, 59, 61, 67,
       71, 73, 79, 83, 89, 97, 101, 103, 107, 109, 113, 127, 131, 137, 139,
       149, 151, 157, 163, 167, 173, 179, 181, 191, 193, 197, 199, 211, 223,
       227, 229, 233, 239, 241, 251, 257, 263, 269, 271, 277, 281, 283, 293,
       307, 311] := by
  have hsmall : primes = (List.range 312).filter fun n =>
      2 ≤ n ∧ ∀ d ∈ List.range 18, 2 ≤ d → d ∣ n → d = n := by
    refine List.filter_congr fun n hn => ?_
    have hlt := List.mem_range.mp hn
    exact decide_eq_decide.mpr (prime_iff_small (by omega))
  rw [hsmall]
  decide +kernel

/-- The first 32 bits of the fractional part of a root of `n`. -/
def rootBits (power n : Nat) : Word :=
  BitVec.ofNat 32 (floorRoot power (n * (2 ^ 32) ^ power) 40)

def roundConstant (t : Nat) : Word := rootBits 3 (primes.getD t 0)

def initialWord (t : Nat) : Word := rootBits 2 (primes.getD t 0)

/-! ## Compression -/

/-- The eight words of a hash value, also the eight working variables. -/
structure HashValue where
  a : Word
  b : Word
  c : Word
  d : Word
  e : Word
  f : Word
  g : Word
  h : Word
  deriving DecidableEq, Repr

def initialHash : HashValue where
  a := initialWord 0
  b := initialWord 1
  c := initialWord 2
  d := initialWord 3
  e := initialWord 4
  f := initialWord 5
  g := initialWord 6
  h := initialWord 7

/-- The word at a position of a block. -/
def messageWord (block : Bytes) (t : Nat) : Word :=
  BitVec.ofNat 32 (ofBigEndian ((block.drop (4 * t)).take 4))

def schedule (block : Bytes) (t : Nat) : Word :=
  if t < 16 then messageWord block t
  else
    smallSigma1 (schedule block (t - 2)) + schedule block (t - 7) +
      smallSigma0 (schedule block (t - 15)) + schedule block (t - 16)

def round (v : HashValue) (constant word : Word) : HashValue :=
  let t1 := v.h + bigSigma1 v.e + ch v.e v.f v.g + constant + word
  let t2 := bigSigma0 v.a + maj v.a v.b v.c
  { a := t1 + t2, b := v.a, c := v.b, d := v.c, e := v.d + t1, f := v.e,
    g := v.f, h := v.g }

def compression (value : HashValue) (block : Bytes) : HashValue :=
  let v := (List.range 64).foldl
    (fun v t => round v (roundConstant t) (schedule block t)) value
  { a := v.a + value.a, b := v.b + value.b, c := v.c + value.c,
    d := v.d + value.d, e := v.e + value.e, f := v.f + value.f,
    g := v.g + value.g, h := v.h + value.h }

/-! ## Padding and digest -/

/-- The number of zero bytes behind the byte with the single bit. -/
def zeroCount (length : Nat) : Nat := (119 - length % 64) % 64

/-- It is the least one that leaves room for the length and nothing else. -/
theorem zeroCount_least (length : Nat) :
    (length + 1 + zeroCount length) % 64 = 56 ∧
      ∀ count, (length + 1 + count) % 64 = 56 → zeroCount length ≤ count := by
  unfold zeroCount
  constructor
  · omega
  · intro count hcount
    omega

def padded (message : Bytes) : Bytes :=
  message ++ 0x80 :: List.replicate (zeroCount message.length) 0 ++
    bigEndian 8 (8 * message.length)

theorem dvd_length_padded (message : Bytes) : 64 ∣ (padded message).length := by
  have hzeros := (zeroCount_least message.length).1
  simp only [padded, List.length_append, List.length_cons, List.length_replicate,
    length_bigEndian]
  omega

def HashValue.bytes (value : HashValue) : Bytes :=
  [value.a, value.b, value.c, value.d, value.e, value.f, value.g,
    value.h].flatMap fun word => bigEndian 4 word.toNat

/-- The digest of a message. -/
def sha256 (message : Bytes) : Bytes :=
  ((blocks 64 (padded message)).foldl compression initialHash).bytes

end FlowOffload.Foundation.Sha2
