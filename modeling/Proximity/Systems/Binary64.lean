import Mathlib.Algebra.Order.Floor.Ring
import Mathlib.Algebra.Order.Ring.Rat
import Mathlib.Data.Int.Log
import Mathlib.Data.Rat.Floor
import Mathlib.Tactic.Linarith
import Proximity.Systems.Json

/-!
# Double precision

A magnitude is rounded to 53 significant bits, ties to even, on a grid that is no finer than
`2 ^ (-1074)`; from `2 ^ 1024` on it is infinite.
-/

namespace Proximity.Systems

/-- The exponent of the grid at a magnitude. -/
def gridExponent (magnitude : ℚ) : ℤ := max (-1074) (Int.log 2 magnitude - 52)

def roundHalfEven (number : ℚ) : ℤ :=
  let below := ⌊number⌋
  if number - below < 1 / 2 then below
  else if 1 / 2 < number - below then below + 1
  else if below % 2 = 0 then below
  else below + 1

def onGrid (magnitude : ℚ) : ℚ :=
  roundHalfEven (magnitude / 2 ^ gridExponent magnitude) * 2 ^ gridExponent magnitude

/-- The double nearest to a magnitude. -/
def nearest (magnitude : ℚ) : Double :=
  if onGrid magnitude < 2 ^ 1024 then .finite (onGrid magnitude) else .infinite false

/-- A magnitude with its sign. -/
def Double.signed (negative : Bool) (magnitude : Double) : Double :=
  match negative, magnitude with
  | true, .finite value => .finite (-value)
  | true, .infinite _ => .infinite true
  | _, other => other

theorem Double.signed_false (magnitude : Double) : magnitude.signed false = magnitude := by
  cases magnitude with
  | finite value => rfl
  | infinite negative => rfl
  | nan => rfl

/-- A number of double precision. -/
structure Binary64 where
  datum : Double
  representable : ∀ value, datum = .finite value → nearest |value| = .finite |value|
  deriving DecidableEq

/-! ## Rounding a rounded number -/

@[simp] theorem roundHalfEven_intCast (number : ℤ) : roundHalfEven number = number := by
  simp [roundHalfEven]

theorem roundHalfEven_nonneg {number : ℚ} (nonneg : 0 ≤ number) : 0 ≤ roundHalfEven number := by
  have below : 0 ≤ ⌊number⌋ := Int.floor_nonneg.mpr nonneg
  unfold roundHalfEven
  grind

theorem roundHalfEven_le {number : ℚ} {bound : ℤ} (le : number ≤ bound) :
    roundHalfEven number ≤ bound := by
  have floor_le : ⌊number⌋ ≤ bound := Int.floor_le_iff.mpr (by linarith)
  have up : 1 / 2 ≤ number - ⌊number⌋ → ⌊number⌋ + 1 ≤ bound := fun half => by
    have strict : (⌊number⌋ : ℚ) < bound := by linarith
    exact Int.add_one_le_of_lt (Int.cast_lt.mp strict)
  unfold roundHalfEven
  grind

theorem onGrid_nonneg {magnitude : ℚ} (nonneg : 0 ≤ magnitude) : 0 ≤ onGrid magnitude := by
  have grid : (0 : ℚ) < 2 ^ gridExponent magnitude := zpow_pos two_pos _
  refine mul_nonneg (Int.cast_nonneg ?_) grid.le
  exact roundHalfEven_nonneg (div_nonneg nonneg grid.le)

/-- A multiple of a coarser grid is on the grid. -/
theorem onGrid_of_multiple {magnitude : ℚ} {count exponent : ℤ}
    (multiple : magnitude = count * 2 ^ exponent) (finer : gridExponent magnitude ≤ exponent) :
    onGrid magnitude = magnitude := by
  have grid : (2 : ℚ) ^ gridExponent magnitude ≠ 0 := zpow_ne_zero _ two_ne_zero
  obtain ⟨steps, apart⟩ := Int.le.dest finer
  have scaled : magnitude = ((count * 2 ^ steps : ℤ) : ℚ) * 2 ^ gridExponent magnitude := by
    calc magnitude = count * 2 ^ (gridExponent magnitude + steps) := by rw [apart, ← multiple]
      _ = ((count * 2 ^ steps : ℤ) : ℚ) * 2 ^ gridExponent magnitude := by
        rw [zpow_add₀ two_ne_zero, zpow_natCast]
        push_cast
        ring
  have quotient : magnitude / 2 ^ gridExponent magnitude = ((count * 2 ^ steps : ℤ) : ℚ) := by
    rw [div_eq_iff grid]
    exact scaled
  unfold onGrid
  rw [quotient, roundHalfEven_intCast]
  exact scaled.symm

theorem div_grid_le (magnitude : ℚ) :
    magnitude / 2 ^ gridExponent magnitude ≤ ((2 ^ 53 : ℤ) : ℚ) := by
  have grid : (0 : ℚ) < 2 ^ gridExponent magnitude := zpow_pos two_pos _
  have above := Int.lt_zpow_succ_log_self (R := ℚ) one_lt_two magnitude
  have exponents : Int.log 2 magnitude + 1 ≤ 53 + gridExponent magnitude := by
    unfold gridExponent
    omega
  rw [div_le_iff₀ grid]
  calc magnitude ≤ (2 : ℚ) ^ (Int.log 2 magnitude + 1) := by exact_mod_cast above.le
    _ ≤ 2 ^ (53 + gridExponent magnitude) := zpow_le_zpow_right₀ one_le_two exponents
    _ = ((2 ^ 53 : ℤ) : ℚ) * 2 ^ gridExponent magnitude := by
      rw [zpow_add₀ two_ne_zero]
      norm_num

/-- A rounded magnitude stays where it is: its grid is no coarser, except that a carry to
`2 ^ 53` has moved it to the next power of two. -/
theorem onGrid_onGrid {magnitude : ℚ} (nonneg : 0 ≤ magnitude) :
    onGrid (onGrid magnitude) = onGrid magnitude := by
  obtain ⟨exponent, isExponent⟩ : ∃ exponent, gridExponent magnitude = exponent := ⟨_, rfl⟩
  obtain ⟨count, counted⟩ : ∃ count, roundHalfEven (magnitude / 2 ^ exponent) = count := ⟨_, rfl⟩
  have value : onGrid magnitude = count * 2 ^ exponent := by
    rw [onGrid, isExponent, counted]
  have grid : (0 : ℚ) < 2 ^ exponent := zpow_pos two_pos _
  have least : -1074 ≤ exponent := isExponent ▸ le_max_left _ _
  have count_nonneg : 0 ≤ count := counted ▸ roundHalfEven_nonneg (div_nonneg nonneg grid.le)
  have count_le : count ≤ 2 ^ 53 := counted ▸ roundHalfEven_le (isExponent ▸ div_grid_le magnitude)
  rcases count_nonneg.eq_or_lt with zero | positive
  · have vanishes : onGrid magnitude = 0 := by
      rw [value, ← zero, Int.cast_zero, zero_mul]
    rw [vanishes]
    have multiple : (0 : ℚ) = (0 : ℤ) * 2 ^ gridExponent 0 := by rw [Int.cast_zero, zero_mul]
    exact onGrid_of_multiple multiple le_rfl
  have value_pos : 0 < onGrid magnitude := value ▸ mul_pos (Int.cast_pos.mpr positive) grid
  rcases count_le.eq_or_lt with carried | below
  · have next : onGrid magnitude = ((2 ^ 52 : ℤ) : ℚ) * 2 ^ (exponent + 1) := by
      rw [value, carried, zpow_add_one₀ two_ne_zero]
      push_cast
      ring
    have power : onGrid magnitude = ((2 : ℕ) : ℚ) ^ (53 + exponent) := by
      rw [value, carried, Nat.cast_ofNat, zpow_add₀ two_ne_zero]
      norm_num
    refine onGrid_of_multiple next ?_
    unfold gridExponent
    rw [power, Int.log_zpow one_lt_two]
    omega
  · refine onGrid_of_multiple value ?_
    have bounded : onGrid magnitude < ((2 : ℕ) : ℚ) ^ (53 + exponent) := by
      rw [value, Nat.cast_ofNat, zpow_add₀ two_ne_zero]
      refine mul_lt_mul_of_pos_right ?_ grid
      exact_mod_cast below
    rw [Int.lt_zpow_iff_log_lt one_lt_two value_pos] at bounded
    unfold gridExponent
    omega

theorem nearest_eq_finite {magnitude value : ℚ} (rounded : nearest magnitude = .finite value) :
    value = onGrid magnitude ∧ value < 2 ^ 1024 := by
  unfold nearest at rounded
  split at rounded
  case isTrue below =>
    cases rounded
    exact ⟨rfl, below⟩
  case isFalse => cases rounded

/-- A double is the double nearest to it. -/
theorem nearest_of_nearest {magnitude value : ℚ} (nonneg : 0 ≤ magnitude)
    (rounded : nearest magnitude = .finite value) : nearest |value| = .finite |value| := by
  obtain ⟨rfl, below⟩ := nearest_eq_finite rounded
  rw [abs_of_nonneg (onGrid_nonneg nonneg), nearest, onGrid_onGrid nonneg, if_pos below]

theorem signed_eq_finite {magnitude : Double} {negative : Bool} {value : ℚ}
    (signed : magnitude.signed negative = .finite value) :
    ∃ unsigned, magnitude = .finite unsigned ∧ |value| = |unsigned| := by
  cases negative with
  | false =>
      rw [Double.signed_false] at signed
      exact ⟨value, signed, rfl⟩
  | true =>
      cases magnitude with
      | finite unsigned =>
          cases signed
          exact ⟨unsigned, rfl, abs_neg unsigned⟩
      | infinite _ => cases signed
      | nan => cases signed

/-- The double nearest to a number. -/
def Binary64.round (negative : Bool) (magnitude : ℚ) (nonneg : 0 ≤ magnitude) : Binary64 where
  datum := (nearest magnitude).signed negative
  representable value finite := by
    obtain ⟨unsigned, rounded, same⟩ := signed_eq_finite finite
    rw [same]
    exact nearest_of_nearest nonneg rounded

/-! ## Addition -/

theorem Binary64.nan_representable (value : ℚ) (finite : Double.nan = .finite value) :
    nearest |value| = .finite |value| :=
  nomatch finite

/-- The double nearest to a sum; opposite infinities have none. -/
def Binary64.add (first second : Binary64) : Binary64 :=
  match first.datum, second.datum with
  | .finite value, .finite other =>
      .round (decide (value + other < 0)) |value + other| (abs_nonneg _)
  | .nan, _ => first
  | _, .nan => second
  | .infinite negative, .infinite opposite =>
      if negative = opposite then first else ⟨.nan, nan_representable⟩
  | .infinite _, .finite _ => first
  | .finite _, .infinite _ => second

def Binary64.zero : Binary64 := .round false 0 le_rfl

end Proximity.Systems
