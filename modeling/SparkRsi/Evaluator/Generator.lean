import SparkRsi.Evaluator.Statistics
import Mathlib.Logic.Function.Basic

set_option autoImplicit false

namespace SparkRsi.Evaluator.FastPrng

section Words

theorem shiftLeft_shiftLeft (x : UInt64) {m n : UInt64} (fits : m.toNat + n.toNat < 64) :
    (x <<< m) <<< n = x <<< (m + n) := (UInt64.shiftLeft_add_of_toNat_lt fits).symm

theorem shiftLeft_out (x : UInt64) {m n : UInt64} (first : m.toNat < 64) (second : n.toNat < 64)
    (out : 64 ≤ m.toNat + n.toNat) : (x <<< m) <<< n = 0 := by
  apply UInt64.toBitVec_inj.mp
  simp [UInt64.toBitVec_shiftLeft, Nat.mod_eq_of_lt first, Nat.mod_eq_of_lt second, ← BitVec.shiftLeft_add,
    BitVec.shiftLeft_eq_zero out]

theorem rotateLeft_back (x : UInt64) : rotateLeft (rotateLeft x 45) 19 = x := by
  apply UInt64.toBitVec_inj.mp
  ext i inside
  simp [rotateLeft, UInt64.toBitVec_shiftLeft, UInt64.toBitVec_shiftRight]
  grind

theorem rotateLeft_forth (x : UInt64) : rotateLeft (rotateLeft x 19) 45 = x := by
  apply UInt64.toBitVec_inj.mp
  ext i inside
  simp [rotateLeft, UInt64.toBitVec_shiftLeft, UInt64.toBitVec_shiftRight]
  grind

theorem xor_cancel (x y : UInt64) : x ^^^ (x ^^^ y) = y := by
  rw [← UInt64.xor_assoc, UInt64.xor_self, UInt64.zero_xor]

theorem xor_xor_self (x y : UInt64) : x ^^^ y ^^^ y = x := by
  rw [UInt64.xor_assoc, UInt64.xor_self, UInt64.xor_zero]

def unshift (y : UInt64) : UInt64 := y ^^^ (y <<< 17 ^^^ (y <<< 34 ^^^ y <<< 51))

theorem unshift_shifted (x : UInt64) : unshift (x ^^^ x <<< 17) = x := by
  have second : (x <<< 17) <<< 17 = x <<< 34 := shiftLeft_shiftLeft x (by decide)
  have third : (x <<< 17) <<< 34 = x <<< 51 := shiftLeft_shiftLeft x (by decide)
  have gone : (x <<< 17) <<< 51 = 0 := shiftLeft_out x (by decide) (by decide) (by decide)
  rw [unshift, UInt64.shiftLeft_xor, UInt64.shiftLeft_xor, UInt64.shiftLeft_xor, second, third, gone,
    UInt64.xor_zero, UInt64.xor_assoc, UInt64.xor_assoc, xor_cancel, UInt64.xor_assoc, UInt64.xor_self,
    UInt64.xor_zero, UInt64.xor_self, UInt64.xor_zero]

theorem shifted_unshift (y : UInt64) : unshift y ^^^ unshift y <<< 17 = y := by
  have second : (y <<< 17) <<< 17 = y <<< 34 := shiftLeft_shiftLeft y (by decide)
  have third : (y <<< 34) <<< 17 = y <<< 51 := shiftLeft_shiftLeft y (by decide)
  have gone : (y <<< 51) <<< 17 = 0 := shiftLeft_out y (by decide) (by decide) (by decide)
  rw [unshift, UInt64.shiftLeft_xor, UInt64.shiftLeft_xor, UInt64.shiftLeft_xor, second, third, gone,
    UInt64.xor_zero, UInt64.xor_assoc, UInt64.xor_self, UInt64.xor_zero]

end Words

def zero : FastPrng := ⟨0, 0, 0, 0⟩

def nextState (prng : FastPrng) : FastPrng := prng.nextU64.2

def previousState (prng : FastPrng) : FastPrng :=
  let mixed := rotateLeft prng.s3 19
  let s0 := prng.s0 ^^^ mixed
  let s1 := unshift (prng.s1 ^^^ prng.s2)
  { s0, s1, s2 := prng.s2 ^^^ s1 <<< 17 ^^^ s0, s3 := mixed ^^^ s1 }

theorem previousState_nextState (prng : FastPrng) : previousState (nextState prng) = prng := by
  obtain ⟨s0, s1, s2, s3⟩ := prng
  -- What the second and the third word share cancels, and the shift is left.
  have middle : s1 ^^^ (s2 ^^^ s0) ^^^ (s2 ^^^ s0 ^^^ s1 <<< 17) = s1 ^^^ s1 <<< 17 := by
    rw [UInt64.xor_assoc, xor_cancel]
  simp only [previousState, nextState, nextU64, rotateLeft_back, middle, unshift_shifted, xor_xor_self]

theorem nextState_previousState (prng : FastPrng) : nextState (previousState prng) = prng := by
  obtain ⟨s0, s1, s2, s3⟩ := prng
  simp only [previousState, nextState, nextU64, xor_xor_self, rotateLeft_forth]
  rw [UInt64.xor_comm s2, ← UInt64.xor_assoc, shifted_unshift, xor_xor_self]

theorem nextState_bijective : Function.Bijective nextState :=
  Function.bijective_iff_has_inverse.mpr ⟨previousState, previousState_nextState, nextState_previousState⟩

theorem nextState_zero : nextState zero = zero := by decide

theorem nextState_eq_zero {prng : FastPrng} : nextState prng = zero ↔ prng = zero := by
  constructor
  · intro same
    exact nextState_bijective.1 (same.trans nextState_zero.symm)
  · intro same
    rw [same, nextState_zero]

-- A seeded state has no zero word in front.
theorem new_ne_zero (seed : UInt64) : new seed ≠ zero := by
  intro same
  have word : (new seed).s0 = 0 := congrArg FastPrng.s0 same
  simp only [new] at word
  split at word
  next => exact absurd word (by decide)
  next filled => exact filled word

inductive Draw where
  | word
  | index (upper : Nat)

def Draw.after (prng : FastPrng) : Draw → FastPrng
  | word => prng.nextU64.2
  | index upper => (prng.genRange upper).2

theorem Draw.after_ne_zero {prng : FastPrng} (alive : prng ≠ zero) (draw : Draw) :
    draw.after prng ≠ zero := by
  have stepped : nextState prng ≠ zero := fun same => alive (nextState_eq_zero.mp same)
  cases draw with
  | word => exact stepped
  | index upper =>
    rw [after, genRange]
    split
    next => exact alive
    next => exact stepped

theorem draws_ne_zero {prng : FastPrng} (alive : prng ≠ zero) (draws : List Draw) :
    draws.foldl Draw.after prng ≠ zero := by
  induction draws generalizing prng with
  | nil => exact alive
  | cons draw rest ih => exact ih (draw.after_ne_zero alive)

/-- The generator's step loses no state, no run from a seed comes to the zero state, and an index is in
range. -/
theorem never_degenerates :
    Function.Bijective nextState ∧ (∀ prng, nextState prng = zero ↔ prng = zero) ∧
      (∀ seed (draws : List Draw), draws.foldl Draw.after (new seed) ≠ zero) ∧
      ∀ upper, 1 ≤ upper → ∀ prng, (genRange upper prng).1 < upper := by
  refine ⟨nextState_bijective, fun _ => nextState_eq_zero, ?_, ?_⟩
  · intro seed draws
    exact draws_ne_zero (new_ne_zero seed) draws
  · intro upper positive prng
    exact FastPrng.source.within upper prng positive

end SparkRsi.Evaluator.FastPrng
