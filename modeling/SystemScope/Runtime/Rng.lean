import Mathlib.Data.Finite.Prod
import Mathlib.Data.Nat.GCD.Basic
import SystemScope.Contracts.Interface
import SystemScope.Framework.Codec

/-!
# Per-component random streams

The generator of `runtime/src/rng.rs`, written out as in the source.  Its state is never all
zero, which is a field of the structure: seeding replaces an all-zero key, `fromState` refuses
one, and a step keeps the state nonzero because it is an invertible linear map of the four
words. -/

namespace SystemScope

/-- BLAKE3 `derive_key` context for seeding. -/
def seedContext : String := "SystemScope 2026-09 SimRng v1"

/-- The bytes fed to `derive_key`: the seed, the path's length, and the path.  The source panics
on a path of 4 GiB or more. -/
def seedMaterial (sessionSeed : UInt64) (componentPath : String) : Bytes :=
  leBytes 8 sessionSeed.toNat ++ leBytes 4 componentPath.toUTF8.size ++
    componentPath.toUTF8.toList

/-- The four words of xoshiro256**. -/
structure XoshiroState where
  s0 : UInt64
  s1 : UInt64
  s2 : UInt64
  s3 : UInt64
  deriving DecidableEq, Repr

namespace XoshiroState

def zero : XoshiroState := ⟨0, 0, 0, 0⟩

def rotateLeft (x : UInt64) (n : UInt64) : UInt64 := (x <<< n) ||| (x >>> (64 - n))

/-- The output drawn from a state. -/
def output (s : XoshiroState) : UInt64 := rotateLeft (s.s1 * 5) 7 * 9

/-- The state after a draw. -/
def next (s : XoshiroState) : XoshiroState :=
  let t := s.s1 <<< 17
  let s2 := s.s2 ^^^ s.s0
  let s3 := s.s3 ^^^ s.s1
  let s1 := s.s1 ^^^ s2
  let s0 := s.s0 ^^^ s3
  let s2 := s2 ^^^ t
  let s3 := rotateLeft s3 45
  ⟨s0, s1, s2, s3⟩

/-- A rotation exchanges the low and the high bits. -/
lemma toNat_rotateLeft (x : UInt64) :
    (rotateLeft x 45).toNat = x.toNat % 2 ^ 19 * 2 ^ 45 + x.toNat / 2 ^ 19 := by
  have hlow : (x <<< 45).toNat = (x.toNat % 2 ^ 19) <<< 45 := by
    rw [UInt64.toNat_shiftLeft, Nat.shiftLeft_eq, Nat.shiftLeft_eq,
      show (45 : UInt64).toNat % 64 = 45 from rfl]
    omega
  have hhigh : (x >>> (64 - 45)).toNat = x.toNat / 2 ^ 19 := by
    rw [UInt64.toNat_shiftRight, Nat.shiftRight_eq_div_pow]
    rfl
  have hlt : x.toNat / 2 ^ 19 < 2 ^ 45 := by
    have hx := x.toNat_lt
    omega
  rw [rotateLeft, UInt64.toNat_or, hlow, hhigh, ← Nat.shiftLeft_add_eq_or_of_lt hlt,
    Nat.shiftLeft_eq]

lemma rotateLeft_injective : Function.Injective (rotateLeft · 45) := by
  intro x y h
  have hnat := congrArg UInt64.toNat h
  simp only [toNat_rotateLeft] at hnat
  have hx := x.toNat_lt
  have hy := y.toNat_lt
  exact UInt64.toNat_inj.mp (by omega)

lemma eq_zero_of_shiftLeft {x : UInt64} (h : x = x <<< 17) : x = 0 := by
  have hnat : x.toNat = x.toNat * 2 ^ 17 % 2 ^ 64 := by
    conv_lhs => rw [h]
    rw [UInt64.toNat_shiftLeft, Nat.shiftLeft_eq]
    rfl
  have hdvd : 2 ^ 64 ∣ x.toNat * (2 ^ 17 - 1) := by
    rw [Nat.mul_sub_one]
    exact Nat.dvd_of_mod_eq_zero
      (Nat.sub_mod_eq_zero_of_mod_eq (by rw [← hnat, Nat.mod_eq_of_lt x.toNat_lt]))
  have hcoprime : Nat.Coprime (2 ^ 64) (2 ^ 17 - 1) := by decide
  exact UInt64.toNat_inj.mp
    (Nat.eq_zero_of_dvd_of_lt (hcoprime.dvd_of_dvd_mul_right hdvd) x.toNat_lt)

lemma xor_eq_xor {a b v w : UInt64} (h : a ^^^ w = b ^^^ v) : a ^^^ b = w ^^^ v := by
  have hb : b = a ^^^ (w ^^^ v) := by
    rw [← UInt64.xor_assoc, h, UInt64.xor_assoc, UInt64.xor_self, UInt64.xor_zero]
  rw [hb, ← UInt64.xor_assoc, UInt64.xor_self, UInt64.zero_xor]

/-- A draw can be undone: `s3` and `s0` first, then `s1` from its own shift, then the rest. -/
lemma next_injective : Function.Injective next := by
  rintro ⟨a0, a1, a2, a3⟩ ⟨b0, b1, b2, b3⟩ h
  simp only [next, XoshiroState.mk.injEq] at h
  obtain ⟨h0, h1, h2, h3⟩ := h
  have h31 : a3 ^^^ a1 = b3 ^^^ b1 := rotateLeft_injective h3
  rw [h31, UInt64.xor_left_inj] at h0
  subst h0
  -- Both words that hold `s2` differ by as much: one by `s1`, the other by its shift.
  have hshift : (a1 ^^^ b1) = (a1 ^^^ b1) <<< 17 := by
    rw [UInt64.xor_comm _ (a1 <<< 17), UInt64.xor_comm _ (b1 <<< 17)] at h2
    rw [UInt64.shiftLeft_xor, xor_eq_xor h1, xor_eq_xor h2]
  obtain rfl := UInt64.xor_eq_zero_iff.mp (eq_zero_of_shiftLeft hshift)
  rw [UInt64.xor_right_inj, UInt64.xor_left_inj] at h1
  rw [UInt64.xor_left_inj] at h31
  rw [h1, h31]

lemma finite : Finite XoshiroState :=
  have hword : Finite UInt64 := .of_injective UInt64.toFin fun _ _ => UInt64.toFin_inj.mp
  .of_injective (fun s => (s.s0, s.s1, s.s2, s.s3)) <| by
    rintro ⟨a0, a1, a2, a3⟩ ⟨b0, b1, b2, b3⟩ h
    simpa using h

lemma next_bijective : Function.Bijective next :=
  have := finite
  Finite.injective_iff_bijective.mp next_injective

lemma next_eq_zero_iff {s : XoshiroState} : s.next = zero ↔ s = zero :=
  next_injective.eq_iff' (by decide)

/-- A draw never leaves the all-zero state behind. -/
lemma next_ne_zero {s : XoshiroState} (h : s ≠ zero) : s.next ≠ zero :=
  next_eq_zero_iff.not.mpr h

end XoshiroState

/-- xoshiro256**, with a state that is never all zero. -/
structure Xoshiro256StarStar where
  s : XoshiroState
  nonzero : s ≠ .zero

namespace Xoshiro256StarStar

/-- The little-endian word in the `i`-th group of eight bytes. -/
def seedWord (seed : Digest) (i : ℕ) : UInt64 :=
  UInt64.ofNat (((seed.toList.drop (8 * i)).take 8).foldr (fun b acc => b.toNat + 256 * acc) 0)

/-- Builds a generator from 32 seed bytes; all-zero ones become the state `[1, 0, 0, 0]`. -/
def fromSeedBytes (seed : Digest) : Xoshiro256StarStar :=
  let s : XoshiroState := ⟨seedWord seed 0, seedWord seed 1, seedWord seed 2, seedWord seed 3⟩
  if h : s = .zero then ⟨⟨1, 0, 0, 0⟩, by decide⟩ else ⟨s, h⟩

/-- Seeds a component's stream from the session seed and its path. -/
def forComponent [Contracts] (sessionSeed : UInt64) (componentPath : String) :
    Xoshiro256StarStar :=
  fromSeedBytes (Contracts.deriveKey seedContext (seedMaterial sessionSeed componentPath))

/-- The generator state, for snapshots. -/
def state (rng : Xoshiro256StarStar) : XoshiroState := rng.s

/-- Restores a generator from a snapshot state; refuses the all-zero state. -/
def fromState (s : XoshiroState) : Option Xoshiro256StarStar :=
  if h : s = .zero then none else some ⟨s, h⟩

lemma fromState_state (rng : Xoshiro256StarStar) : fromState rng.state = some rng :=
  dif_neg rng.nonzero

/-- Draws 64 bits. -/
def nextU64 (rng : Xoshiro256StarStar) : UInt64 × Xoshiro256StarStar :=
  (rng.s.output, ⟨rng.s.next, XoshiroState.next_ne_zero rng.nonzero⟩)

/-- The draws ahead. -/
def stream (rng : Xoshiro256StarStar) : ℕ → UInt64
  | 0 => rng.nextU64.1
  | i + 1 => rng.nextU64.2.stream i

/-- Draws `n` times. -/
def draw (rng : Xoshiro256StarStar) : ℕ → List UInt64 × Xoshiro256StarStar
  | 0 => ([], rng)
  | n + 1 =>
    let (v, rng) := rng.nextU64
    let (vs, rng) := rng.draw n
    (v :: vs, rng)

lemma draw_succ (rng : Xoshiro256StarStar) (n : ℕ) :
    rng.draw (n + 1) = (rng.nextU64.1 :: (rng.nextU64.2.draw n).1, (rng.nextU64.2.draw n).2) := rfl

/-- Drawing on continues the stream. -/
lemma draw_add (rng : Xoshiro256StarStar) (m n : ℕ) :
    rng.draw (m + n) =
      ((rng.draw m).1 ++ ((rng.draw m).2.draw n).1, ((rng.draw m).2.draw n).2) := by
  induction m generalizing rng with
  | zero => rw [Nat.zero_add, draw, List.nil_append]
  | succ m ih => rw [Nat.succ_add, draw_succ, draw_succ, ih rng.nextU64.2, List.cons_append]

lemma state_draw (rng : Xoshiro256StarStar) (n : ℕ) :
    (rng.draw n).2.state = XoshiroState.next^[n] rng.state := by
  induction n generalizing rng with
  | zero => rfl
  | succ n ih => exact ih rng.nextU64.2

end Xoshiro256StarStar

end SystemScope
