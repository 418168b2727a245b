import Mathlib.Algebra.Order.Round
import Mathlib.Algebra.Ring.Int.Parity
import Mathlib.Data.Rat.Floor

/-!
# Rounding to the nearest integer

Python's `round(x)`: the nearest integer, and of two nearest ones the even one. Rationals stand for
the floats that it is called with.

Nothing here depends on how a tie is broken, except that it is broken in one of the two ways:
rounding keeps order (`pyRound_mono`), and falls below an integer no more than its argument does
(`le_pyRound`).
-/

namespace Python

/-- `round(x)`. -/
def pyRound (x : ℚ) : ℤ :=
  if Int.fract x < 1 / 2 then ⌊x⌋
  else if 1 / 2 < Int.fract x then ⌊x⌋ + 1
  -- Halfway: the even neighbour.
  else if Even ⌊x⌋ then ⌊x⌋
  else ⌊x⌋ + 1

theorem floor_le_pyRound (x : ℚ) : ⌊x⌋ ≤ pyRound x := by
  unfold pyRound
  split_ifs <;> omega

theorem pyRound_le_floor_add_one (x : ℚ) : pyRound x ≤ ⌊x⌋ + 1 := by
  unfold pyRound
  split_ifs <;> omega

@[simp]
theorem pyRound_intCast (n : ℤ) : pyRound n = n := by
  rw [pyRound, Int.fract_intCast, if_pos (by norm_num), Int.floor_intCast]

/-- **Rounding keeps order.** -/
theorem pyRound_mono {x y : ℚ} (h : x ≤ y) : pyRound x ≤ pyRound y := by
  rcases (Int.floor_le_floor h).lt_or_eq with hlt | heq
  · -- A whole integer lies between them.
    calc pyRound x ≤ ⌊x⌋ + 1 := pyRound_le_floor_add_one x
      _ ≤ ⌊y⌋ := hlt
      _ ≤ pyRound y := floor_le_pyRound y
  · have hfract : Int.fract x ≤ Int.fract y := by
      rw [Int.fract, Int.fract, heq]
      exact sub_le_sub_right h _
    unfold pyRound
    rw [heq]
    split_ifs <;> first | omega | linarith

theorem le_pyRound {n : ℤ} {x : ℚ} (h : (n : ℚ) ≤ x) : n ≤ pyRound x :=
  pyRound_intCast n ▸ pyRound_mono h

end Python
