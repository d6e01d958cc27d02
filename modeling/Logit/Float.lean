import Mathlib.Tactic.Ring
import Mathlib.Tactic.Set

/-!
# `float64` in `ParseDuration`: Rounding to Nearest

`time.ParseDuration` scales the fraction of a segment through `float64`. It keeps `scale`, a
`float64` that starts at `1` and is multiplied by `10` for each fraction digit it keeps, and
adds `uint64(float64(f) * (float64(unit) / scale))` nanoseconds. Each `float64` operation
rounds its exact result to the nearest value with a 53-bit significand, ties to an even
significand, and the conversion to `uint64` truncates.

A `Float64` here is a value `man * 2^exp` that is not negative. `Float64.round n d e` is the
value nearest `n / d * 2^e`: the shift `roundShift` brings `n / d` into `[2^52, 2^53)`, and
`roundDiv` rounds it there. The exponent's range is not modelled. Go and the model part only
when a value leaves the normal range: `scale` past `2^1024`, where Go's is `+Inf` and its
quotient `0`, or a quotient or product below `2^-1022`. In each case the product is below `1`
in both, as the numerator is below `2^64` and the unit below `2^42`, and truncates to `0`.

## Main results

* `roundDiv_nearest`: `roundDiv n d` is within half of `n / d`.
* `Float64.round_man`: the significand `round` gives has 53 bits, so the model rounds at the
  precision of a `float64`.
-/

namespace Logit

/-! ### Rounding a quotient -/

/-- The binary digits of `n`, counted in at most `fuel` steps. -/
def bitLengthAux : Nat → Nat → Nat
  | 0, _ => 0
  | fuel + 1, n => if n = 0 then 0 else bitLengthAux fuel (n / 2) + 1

/-- The number of binary digits of `n`, `0` for `0`; `n` itself is fuel enough. -/
def bitLength (n : Nat) : Nat := bitLengthAux n n

/-- `n / d` rounded to the nearest integer, ties to the even one. -/
def roundDiv (n d : Nat) : Nat :=
  if d < 2 * (n % d) ∨ 2 * (n % d) = d ∧ n / d % 2 = 1 then n / d + 1 else n / d

/-- The numerator of `n * 2^s / d`, for a shift `s` of either sign. -/
def shiftNum (n : Nat) (s : Int) : Nat := n * 2 ^ s.toNat

/-- The denominator of `n * 2^s / d`, for a shift `s` of either sign. -/
def shiftDen (d : Nat) (s : Int) : Nat := d * 2 ^ (-s).toNat

/-- The shift that brings `n / d` into `[2^52, 2^53)`, for `n` and `d` positive: the bit
lengths place it within one, and the quotient decides. -/
def roundShift (n d : Nat) : Int :=
  let s : Int := 53 + bitLength d - bitLength n
  if shiftNum n s / shiftDen d s < 2 ^ 53 then s else s - 1

/-- A `float64` that is not negative: the value `man * 2^exp`. -/
structure Float64 where
  man : Nat
  exp : Int
  deriving DecidableEq, Repr

namespace Float64

/-- The constant `1`. -/
def one : Float64 := ⟨1, 0⟩

/-- The constant `10`. -/
def ten : Float64 := ⟨10, 0⟩

/-- The `float64` nearest `n / d * 2^e`, ties to an even significand. -/
def round (n d : Nat) (e : Int) : Float64 :=
  ⟨roundDiv (shiftNum n (roundShift n d)) (shiftDen d (roundShift n d)), e - roundShift n d⟩

/-- `float64(n)`. -/
def ofNat (n : Nat) : Float64 := round n 1 0

/-- `a * b`. -/
def mul (a b : Float64) : Float64 := round (a.man * b.man) 1 (a.exp + b.exp)

/-- `a / b`, for `b` not zero. -/
def div (a b : Float64) : Float64 := round a.man b.man (a.exp - b.exp)

/-- `uint64(a)`, for `a` below `2^64`: `a` truncated. -/
def toUint64 (a : Float64) : Nat := shiftNum a.man a.exp / shiftDen 1 a.exp

end Float64

/-! ### Bit lengths -/

theorem bitLengthAux_zero (fuel : Nat) : bitLengthAux fuel 0 = 0 := by
  cases fuel <;> rfl

/-- The bit length, counted with enough fuel, bounds `n` on both sides. -/
theorem bitLengthAux_spec : ∀ fuel n, n ≤ fuel →
    n < 2 ^ bitLengthAux fuel n ∧ (0 < n → 2 ^ bitLengthAux fuel n ≤ 2 * n)
  | 0, n, h => by simp only [bitLengthAux, pow_zero]; omega
  | fuel + 1, n, h => by
    rw [bitLengthAux]
    split_ifs with hn
    · simp [hn]
    · obtain ⟨hlt, hle⟩ := bitLengthAux_spec fuel (n / 2) (by omega)
      rw [pow_succ]
      refine ⟨by omega, fun _ => ?_⟩
      rcases Nat.eq_zero_or_pos (n / 2) with h0 | hpos
      · rw [h0, bitLengthAux_zero]
        omega
      · have := hle hpos
        omega

/-- `2^(bitLength n - 1) ≤ n < 2^bitLength n`, for `n` positive. -/
theorem bitLength_spec {n : Nat} (hn : 0 < n) :
    n < 2 ^ bitLength n ∧ 2 ^ bitLength n ≤ 2 * n :=
  (bitLengthAux_spec n n le_rfl).imp id (· hn)

/-! ### `roundDiv` -/

/-- `roundDiv` is the quotient or one more. -/
theorem roundDiv_le (n d : Nat) : n / d ≤ roundDiv n d ∧ roundDiv n d ≤ n / d + 1 := by
  unfold roundDiv
  split_ifs <;> omega

/-- **Nearest.** `roundDiv n d` is within half of `n / d`: `|2n - 2d * roundDiv n d| ≤ d`. -/
theorem roundDiv_nearest (n d : Nat) (hd : 0 < d) :
    2 * n ≤ d * (2 * roundDiv n d + 1) ∧ d * (2 * roundDiv n d) ≤ 2 * n + d := by
  have h := Nat.div_add_mod n d
  have hr := Nat.mod_lt n hd
  rw [Nat.mul_add, Nat.mul_one, Nat.mul_left_comm]
  unfold roundDiv
  split_ifs with hc
  · rw [Nat.mul_add, Nat.mul_one]
    omega
  · omega

/-! ### The significand has 53 bits -/

/-- One shift less halves `n * 2^s / d`, cross-multiplied. -/
theorem shiftNum_pred_mul (n d : Nat) (s : Int) :
    2 * shiftNum n (s - 1) * shiftDen d s = shiftNum n s * shiftDen d (s - 1) := by
  unfold shiftNum shiftDen
  rcases Int.le_or_lt s 0 with hs | hs
  · have h₁ : (s - 1).toNat = s.toNat := by omega
    have h₂ : (-(s - 1)).toNat = (-s).toNat + 1 := by omega
    rw [h₁, h₂, pow_succ]
    ring
  · have h₁ : s.toNat = (s - 1).toNat + 1 := by omega
    have h₂ : (-(s - 1)).toNat = (-s).toNat := by omega
    rw [h₁, h₂, pow_succ]
    ring

/-- At the shift the bit lengths give, `n / d * 2^s` lies strictly between `2^52` and
`2^54`. -/
theorem shift_bracket {n d : Nat} (hn : 0 < n) (hd : 0 < d) :
    2 ^ 52 * shiftDen d (53 + bitLength d - bitLength n) <
        shiftNum n (53 + bitLength d - bitLength n) ∧
      shiftNum n (53 + bitLength d - bitLength n) <
        2 ^ 54 * shiftDen d (53 + bitLength d - bitLength n) := by
  obtain ⟨hn₁, hn₂⟩ := bitLength_spec hn
  obtain ⟨hd₁, hd₂⟩ := bitLength_spec hd
  have hpow : 2 ^ (53 + bitLength d - bitLength n : Int).toNat * 2 ^ bitLength n =
      2 ^ 53 * 2 ^ bitLength d * 2 ^ (-(53 + bitLength d - bitLength n : Int)).toNat := by
    rw [← pow_add, ← pow_add, ← pow_add]
    congr 1
    omega
  have hX := Nat.two_pow_pos (53 + bitLength d - bitLength n : Int).toNat
  have hY := Nat.two_pow_pos (-(53 + bitLength d - bitLength n : Int)).toNat
  unfold shiftNum shiftDen
  generalize 2 ^ (53 + bitLength d - bitLength n : Int).toNat = X at hX hpow ⊢
  generalize 2 ^ (-(53 + bitLength d - bitLength n : Int)).toNat = Y at hY hpow ⊢
  generalize 2 ^ bitLength n = A at hn₁ hn₂ hpow
  generalize 2 ^ bitLength d = B at hd₁ hd₂ hpow
  constructor
  · have h : 2 * (2 ^ 52 * (d * Y)) < 2 * (n * X) :=
      calc 2 * (2 ^ 52 * (d * Y)) = 2 ^ 53 * (d * Y) := by ring
        _ < 2 ^ 53 * (B * Y) := Nat.mul_lt_mul_of_pos_left (Nat.mul_lt_mul_of_pos_right hd₁ hY)
          (Nat.two_pow_pos 53)
        _ = X * A := by rw [hpow, Nat.mul_assoc]
        _ ≤ X * (2 * n) := Nat.mul_le_mul_left X hn₂
        _ = 2 * (n * X) := by ring
    omega
  · calc n * X < A * X := Nat.mul_lt_mul_of_pos_right hn₁ hX
      _ = 2 ^ 53 * B * Y := by rw [Nat.mul_comm, hpow]
      _ ≤ 2 ^ 53 * (2 * d) * Y := Nat.mul_le_mul_right Y (Nat.mul_le_mul_left _ hd₂)
      _ = 2 ^ 54 * (d * Y) := by ring

/-- **The shift.** `roundShift` brings `n / d` into `[2^52, 2^53)`. -/
theorem roundShift_spec {n d : Nat} (hn : 0 < n) (hd : 0 < d) :
    2 ^ 52 * shiftDen d (roundShift n d) ≤ shiftNum n (roundShift n d) ∧
      shiftNum n (roundShift n d) < 2 ^ 53 * shiftDen d (roundShift n d) := by
  obtain ⟨hlo, hhi⟩ := shift_bracket hn hd
  unfold roundShift
  generalize (53 + bitLength d - bitLength n : Int) = s at hlo hhi ⊢
  have hD : ∀ s, 0 < shiftDen d s := fun s => Nat.mul_pos hd (Nat.two_pow_pos _)
  dsimp only
  split_ifs with hq
  · exact ⟨hlo.le, (Nat.div_lt_iff_lt_mul (hD s)).mp hq⟩
  · rw [Nat.div_lt_iff_lt_mul (hD s), not_lt] at hq
    have hmul := shiftNum_pred_mul n d s
    have h₁ := Nat.mul_le_mul_right (shiftDen d (s - 1)) hq
    have h₂ := Nat.mul_lt_mul_of_pos_right hhi (hD (s - 1))
    have h2D : 0 < 2 * shiftDen d s := by have := hD s; omega
    set N := shiftNum n s
    set D := shiftDen d s
    set N' := shiftNum n (s - 1)
    set D' := shiftDen d (s - 1)
    constructor
    · refine Nat.le_of_mul_le_mul_right (?_ : 2 ^ 52 * D' * (2 * D) ≤ N' * (2 * D)) h2D
      calc 2 ^ 52 * D' * (2 * D) = 2 ^ 53 * D * D' := by ring
        _ ≤ N * D' := h₁
        _ = N' * (2 * D) := by rw [← hmul]; ring
    · refine Nat.lt_of_mul_lt_mul_right (?_ : N' * (2 * D) < 2 ^ 53 * D' * (2 * D))
      calc N' * (2 * D) = N * D' := by rw [← hmul]; ring
        _ < 2 ^ 54 * D * D' := h₂
        _ = 2 ^ 53 * D' * (2 * D) := by ring

namespace Float64

/-- **53 bits.** The significand `round` gives for a positive value is in `[2^52, 2^53]`: the
precision of a `float64`, `2^53` being where a round up carries. -/
theorem round_man {n d : Nat} (hn : 0 < n) (hd : 0 < d) (e : Int) :
    2 ^ 52 ≤ (round n d e).man ∧ (round n d e).man ≤ 2 ^ 53 := by
  dsimp only [round]
  obtain ⟨hlo, hhi⟩ := roundShift_spec hn hd
  have hD : 0 < shiftDen d (roundShift n d) := Nat.mul_pos hd (Nat.two_pow_pos _)
  have hq₁ : 2 ^ 52 ≤ shiftNum n (roundShift n d) / shiftDen d (roundShift n d) :=
    (Nat.le_div_iff_mul_le hD).mpr hlo
  have hq₂ : shiftNum n (roundShift n d) / shiftDen d (roundShift n d) < 2 ^ 53 :=
    (Nat.div_lt_iff_lt_mul hD).mpr hhi
  obtain ⟨hr₁, hr₂⟩ := roundDiv_le (shiftNum n (roundShift n d)) (shiftDen d (roundShift n d))
  exact ⟨hq₁.trans hr₁, by omega⟩

end Float64

end Logit
