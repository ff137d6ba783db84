/-
Rounding to a number of significant digits.

A number is rounded to the nearest multiple of a power of the base, and of two equally near
to the even one. The power is the place of the last digit that is kept, so it depends on the
number, and it is never below a least one.

Three things are shown. Rounding keeps the order, also where the place changes between two
numbers (`rounded_mono`). It leaves alone what has no more digits than are kept
(`rounded_fits`). And it sees of a long number only the leading digits and on which side of
them the rest is (`rounded_between`), which is what a division of finitely many steps knows
of its quotient.
-/
import Mathlib.Algebra.Order.Floor.Ring
import Mathlib.Data.Int.Log
import Mathlib.Algebra.Ring.Int.Parity
import Mathlib.Tactic.Linarith
import Mathlib.Tactic.NormNum
import Mathlib.Tactic.Ring

set_option autoImplicit false

namespace TradeLogistics.SignificantDigits

variable {K : Type*} [Field K] [LinearOrder K] [IsStrictOrderedRing K] [FloorRing K]

/-! ## 1. The nearest integer -/

/-- The nearest integer, the even one of two. -/
def half_even (x : K) : ℤ :=
  if x - ⌊x⌋ < 1 / 2 ∨ x - ⌊x⌋ = 1 / 2 ∧ Even ⌊x⌋ then ⌊x⌋ else ⌊x⌋ + 1

/-- It is no further than a half away, and even if it is that far. -/
theorem half_even_spec (x : K) :
    x - 1 / 2 ≤ half_even x ∧ (half_even x : K) ≤ x + 1 / 2
      ∧ ((half_even x : K) = x - 1 / 2 ∨ (half_even x : K) = x + 1 / 2 → Even (half_even x)) := by
  have hfloor := Int.floor_le x
  have hnext := Int.lt_floor_add_one x
  unfold half_even
  split
  · next h =>
      have hle : x - ⌊x⌋ ≤ 1 / 2 := by
        rcases h with h | h
        · exact h.le
        · exact h.1.le
      refine ⟨by linarith, by linarith, ?_⟩
      rintro (htie | htie)
      · rcases h with h | h
        · linarith
        · exact h.2
      · linarith
  · next h =>
      rw [not_or, not_lt, not_and] at h
      obtain ⟨hge, htie⟩ := h
      have hcast : ((⌊x⌋ + 1 : ℤ) : K) = ⌊x⌋ + 1 := by push_cast; ring
      rw [hcast]
      refine ⟨by linarith, by linarith, ?_⟩
      rintro (hhalf | hhalf)
      · linarith
      · exact Int.even_add_one.mpr (htie (by linarith))

/-- Nothing else is as near. -/
theorem half_even_unique {x : K} {n : ℤ} (hlow : x - 1 / 2 ≤ n) (hhigh : (n : K) ≤ x + 1 / 2)
    (htie : (n : K) = x - 1 / 2 ∨ (n : K) = x + 1 / 2 → Even n) : half_even x = n := by
  obtain ⟨hlow', hhigh', htie'⟩ := half_even_spec x
  by_contra hne
  rcases lt_or_gt_of_ne hne with hlt | hgt
  · -- two neighbours at the same distance, which are not both even
    have hstep : ((half_even x : ℤ) : K) + 1 ≤ n := by exact_mod_cast hlt
    have hnext : n = half_even x + 1 := by
      have h : (n : K) ≤ ((half_even x + 1 : ℤ) : K) := by push_cast; linarith
      have h' : n ≤ half_even x + 1 := by exact_mod_cast h
      omega
    have heven := htie (.inr (by linarith))
    rw [hnext, Int.even_add_one] at heven
    exact heven (htie' (.inl (by linarith)))
  · have hstep : (n : K) + 1 ≤ (half_even x : ℤ) := by exact_mod_cast hgt
    have hnext : half_even x = n + 1 := by
      have h : ((half_even x : ℤ) : K) ≤ ((n + 1 : ℤ) : K) := by push_cast; linarith
      have h' : half_even x ≤ n + 1 := by exact_mod_cast h
      omega
    have heven := htie' (.inr (by linarith))
    rw [hnext, Int.even_add_one] at heven
    exact heven (htie (.inl (by linarith)))

theorem half_even_intCast (n : ℤ) : half_even (n : K) = n := by
  apply half_even_unique
  · linarith
  · linarith
  · rintro (h | h) <;> linarith

/-- What separates two results separates the numbers. -/
theorem half_even_separates {x y : K} (h : half_even x < half_even y) :
    x ≤ half_even x + 1 / 2 ∧ (half_even x : K) + 1 / 2 ≤ y := by
  obtain ⟨hlow, -, -⟩ := half_even_spec x
  obtain ⟨-, hhigh, -⟩ := half_even_spec y
  have hstep : ((half_even x : ℤ) : K) + 1 ≤ half_even y := by exact_mod_cast h
  constructor <;> linarith

/-- What comes out below an integer: all that is nearer to the one before, and the point half
way to it if that one is even. -/
theorem half_even_lt_iff {x : K} {n : ℤ} :
    half_even x < n ↔ x < n - 1 / 2 ∨ x = n - 1 / 2 ∧ ¬ Even n := by
  obtain ⟨hlow, hhigh, htie⟩ := half_even_spec x
  constructor
  · intro h
    have hstep : ((half_even x : ℤ) : K) + 1 ≤ n := by exact_mod_cast h
    rcases lt_or_eq_of_le (show x ≤ n - 1 / 2 by linarith) with hlt | heq
    · exact .inl hlt
    · have hnext : n = half_even x + 1 := by
        have h : (n : K) ≤ ((half_even x + 1 : ℤ) : K) := by push_cast; linarith
        have h' : n ≤ half_even x + 1 := by exact_mod_cast h
        omega
      refine .inr ⟨heq, ?_⟩
      rw [hnext, Int.even_add_one, not_not]
      exact htie (.inl (by linarith))
  · rintro (h | ⟨h, hodd⟩)
    · have hlt : ((half_even x : ℤ) : K) < n := by linarith
      exact_mod_cast hlt
    · have hle : ((half_even x : ℤ) : K) ≤ n := by linarith
      apply lt_of_le_of_ne
      · exact_mod_cast hle
      · intro heq
        rw [heq] at htie
        exact hodd (htie (.inr (by linarith)))

theorem half_even_mono {x y : K} (h : x ≤ y) : half_even x ≤ half_even y := by
  by_contra hlt
  obtain ⟨hlow, hhigh⟩ := half_even_separates (not_le.mp hlt)
  have hsame : x = y := by linarith
  rw [hsame] at hlt
  exact hlt le_rfl

theorem le_half_even {x : K} {n : ℤ} (h : (n : K) ≤ x) : n ≤ half_even x := by
  rw [← half_even_intCast (K := K) n]
  exact half_even_mono h

theorem half_even_le {x : K} {n : ℤ} (h : x ≤ n) : half_even x ≤ n := by
  rw [← half_even_intCast (K := K) n]
  exact half_even_mono h

/-! ## 2. The last digit that is kept -/

section

variable (base digits : ℕ) (least : ℤ)

/-- The exponent of the last of so many digits of a number, the least exponent at least. -/
def last_place (x : K) : ℤ := max (Int.log base x - (digits - 1)) least

/-- What one more in that digit is worth. -/
def unit (x : K) : K := (base : K) ^ last_place base digits least x

/-- The number in so many digits. -/
def rounded (x : K) : K := half_even (x / unit base digits least x) * unit base digits least x

end

variable {base digits : ℕ} {least : ℤ}

theorem base_pos (hbase : 1 < base) : (0 : K) < base := by exact_mod_cast hbase.trans' one_pos

theorem unit_pos (hbase : 1 < base) (digits : ℕ) (least : ℤ) (x : K) :
    0 < unit base digits least x :=
  zpow_pos (base_pos hbase) _

theorem last_place_mono (base digits : ℕ) (least : ℤ) {x y : K} (hx : 0 < x) (h : x ≤ y) :
    last_place base digits least x ≤ last_place base digits least y :=
  max_le_max (sub_le_sub_right (Int.log_mono_right hx h) _) le_rfl

theorem rounded_zero : rounded base digits least (0 : K) = 0 := by
  have h := half_even_intCast (K := K) 0
  rw [Int.cast_zero] at h
  rw [rounded, zero_div, h, Int.cast_zero, zero_mul]

/-- A power of the base counted in a lower one. -/
theorem zpow_multiple (hbase : 1 < base) {e f : ℤ} (h : e ≤ f) :
    (base : K) ^ f = ((base ^ (f - e).toNat : ℕ) : ℤ) * (base : K) ^ e := by
  rw [Int.cast_natCast, Nat.cast_pow, ← zpow_natCast, ← zpow_add₀ (base_pos hbase).ne']
  congr 1
  omega

/-- A multiple of a power that is no smaller than the unit is left alone. -/
theorem rounded_multiple (hbase : 1 < base) {x : K} {n e : ℤ} (hx : x = n * (base : K) ^ e)
    (he : last_place base digits least x ≤ e) : rounded base digits least x = x := by
  have hpos := unit_pos hbase digits least x
  have hquotient : x / unit base digits least x
      = ((n * (base ^ (e - last_place base digits least x).toNat : ℕ) : ℤ) : K) := by
    rw [div_eq_iff hpos.ne', Int.cast_mul, mul_assoc, unit, ← zpow_multiple hbase he]
    exact hx
  rw [rounded, hquotient, half_even_intCast, ← hquotient, div_mul_cancel₀ _ hpos.ne']

/-- **What has no more digits than are kept is left alone.** -/
theorem rounded_fits (hbase : 1 < base) {n : ℕ} {e : ℤ} (hn : n < base ^ digits)
    (he : least ≤ e) : rounded base digits least ((n : K) * base ^ e) = n * base ^ e := by
  by_cases hzero : n = 0
  · rw [hzero, Nat.cast_zero, zero_mul, rounded_zero]
  have hpos : (0 : K) < n * base ^ e :=
    mul_pos (by exact_mod_cast Nat.pos_of_ne_zero hzero) (zpow_pos (base_pos hbase) _)
  have hlog : Int.log base ((n : K) * base ^ e) < digits + e := by
    rw [← Int.lt_zpow_iff_log_lt hbase hpos, zpow_add₀ (base_pos hbase).ne', zpow_natCast]
    exact mul_lt_mul_of_pos_right (by exact_mod_cast hn) (zpow_pos (base_pos hbase) _)
  refine rounded_multiple hbase (n := n) (e := e) (by rw [Int.cast_natCast]) ?_
  exact max_le (by omega) he

/-- **Rounding keeps the order.** Where the two numbers are rounded in different units, a
power of the base lies between them that both roundings respect. -/
theorem rounded_mono (hbase : 1 < base) (hdigits : 0 < digits) {x y : K} (hx : 0 ≤ x)
    (h : x ≤ y) : rounded base digits least x ≤ rounded base digits least y := by
  rcases hx.eq_or_lt with rfl | hx
  · have hy := unit_pos hbase digits least y
    have hnonneg : 0 ≤ half_even (y / unit base digits least y) :=
      le_half_even (by rw [Int.cast_zero]; exact div_nonneg h hy.le)
    rw [rounded_zero, rounded]
    exact mul_nonneg (by exact_mod_cast hnonneg) hy.le
  have hxunit := unit_pos hbase digits least x
  have hyunit := unit_pos hbase digits least y
  rcases (last_place_mono base digits least hx h).eq_or_lt with hsame | hlower
  · have hunit : unit base digits least x = unit base digits least y := by
      rw [unit, unit, hsame]
    rw [rounded, rounded, hunit]
    refine mul_le_mul_of_nonneg_right ?_ hyunit.le
    exact_mod_cast half_even_mono (div_le_div_of_nonneg_right h hyunit.le)
  have hy : 0 < y := hx.trans_le h
  have hplace : last_place base digits least y = Int.log base y - (digits - 1) := by
    rcases max_choice (Int.log base y - (digits - 1)) least with hmax | hmax
    · exact hmax
    · have hleast : least ≤ last_place base digits least x := le_max_right _ _
      exact absurd (hmax.trans_le hleast) (not_le.mpr hlower)
  have hbelow : last_place base digits least x < Int.log base y := by omega
  have hcut : x ≤ (base : K) ^ Int.log base y := by
    have hlog : Int.log base x - (digits - 1) ≤ last_place base digits least x := le_max_left _ _
    exact ((Int.lt_zpow_iff_log_lt hbase hx).mpr (by omega)).le
  calc rounded base digits least x ≤ (base : K) ^ Int.log base y := by
        rw [rounded, zpow_multiple hbase hbelow.le]
        refine mul_le_mul_of_nonneg_right ?_ hxunit.le
        refine Int.cast_le.mpr (half_even_le ?_)
        rw [div_le_iff₀ hxunit, unit, ← zpow_multiple hbase hbelow.le]
        exact hcut
    _ ≤ rounded base digits least y := by
        have hle : last_place base digits least y ≤ Int.log base y := by omega
        rw [rounded, zpow_multiple hbase hle]
        refine mul_le_mul_of_nonneg_right ?_ hyunit.le
        refine Int.cast_le.mpr (le_half_even ?_)
        rw [le_div_iff₀ hyunit, unit, ← zpow_multiple hbase hle]
        exact Int.zpow_log_le_self hbase hy

/-! ## 3. What the rounding sees of a number

Between two neighbouring multiples of half the base, in a place below the unit, lies no
power of the base and no point half way between two multiples of the unit. So any two
numbers there round alike. -/

section

variable {half : ℕ}

/-- The numbers strictly between the multiples `m` and `m + 1` of half the base, in units of
`base ^ e`. -/
def Between (base half : ℕ) (e m : ℤ) (x : K) : Prop :=
  m * (half * (base : K) ^ e) < x ∧ x < (m + 1) * (half * (base : K) ^ e)

variable {e m : ℤ} {x y : K}

/-- No other multiple is among them. -/
theorem Between.not_multiple (hhalf : 0 < half) (hbase : 1 < base) (hx : Between base half e m x)
    (hy : Between base half e m y) {n : ℤ} (hlow : x ≤ n * (half * (base : K) ^ e))
    (hhigh : n * (half * (base : K) ^ e) ≤ y) : False := by
  have hstep : (0 : K) < half * base ^ e :=
    mul_pos (by exact_mod_cast hhalf) (zpow_pos (base_pos hbase) _)
  have hleft : (m : K) < n := lt_of_mul_lt_mul_right (hx.1.trans_le hlow) hstep.le
  have hright : (n : K) < ((m + 1 : ℤ) : K) := by
    rw [Int.cast_add, Int.cast_one]
    exact lt_of_mul_lt_mul_right (hhigh.trans_lt hy.2) hstep.le
  have hleft' : m < n := by exact_mod_cast hleft
  have hright' : n < m + 1 := by exact_mod_cast hright
  omega

/-- A higher power of the base is a multiple of half the base. -/
theorem zpow_half_multiple (hbase : 1 < base) (heven : 2 * half = base) {f : ℤ} (h : e < f) :
    (base : K) ^ f = ((2 * base ^ (f - (e + 1)).toNat : ℕ) : ℤ) * (half * (base : K) ^ e) := by
  have hsplit : (base : K) ^ (e + 1) = 2 * half * base ^ e := by
    rw [zpow_add₀ (base_pos hbase).ne', zpow_one, ← Nat.cast_ofNat, ← Nat.cast_mul, heven,
      mul_comm]
  rw [zpow_multiple hbase (show e + 1 ≤ f by omega), hsplit]
  push_cast
  ring

theorem last_place_between (hbase : 1 < base) (hdigits : 0 < digits) (heven : 2 * half = base)
    (hpos : 0 < x) (hpos' : 0 < y) (hx : Between base half e m x) (hy : Between base half e m y)
    (hplace : e < last_place base digits least x) :
    last_place base digits least x ≤ last_place base digits least y := by
  have hhalf : 0 < half := by omega
  rcases max_choice (Int.log base x - (digits - 1)) least with hmax | hmax
  · have hplace' : last_place base digits least x = Int.log base x - (digits - 1) := hmax
    have hlog : Int.log base x ≤ Int.log base y := by
      rw [← Int.zpow_le_iff_le_log hbase hpos']
      by_contra hlt
      have hbelow : y ≤ (base : K) ^ Int.log base x := (not_le.mp hlt).le
      have habove : (base : K) ^ Int.log base x ≤ x := Int.zpow_log_le_self hbase hpos
      rw [zpow_half_multiple hbase heven (show e < Int.log base x by omega)] at hbelow habove
      exact hy.not_multiple hhalf hbase hx hbelow habove
    rw [hplace']
    exact (sub_le_sub_right hlog _).trans (le_max_left _ _)
  · have hplace' : last_place base digits least x = least := hmax
    rw [hplace']
    exact le_max_right _ _

theorem half_even_between (hbase : 1 < base) (heven : 2 * half = base)
    (hx : Between base half e m x) (hy : Between base half e m y) {f : ℤ} (h : e < f) :
    half_even (x / (base : K) ^ f) ≤ half_even (y / (base : K) ^ f) := by
  have hhalf : 0 < half := by omega
  have hunit : (0 : K) < base ^ f := zpow_pos (base_pos hbase) _
  by_contra hlt
  obtain ⟨hlow, hhigh⟩ := half_even_separates (not_le.mp hlt)
  -- the point half way above the lower result would lie between the two
  rw [div_le_iff₀ hunit] at hlow
  rw [le_div_iff₀ hunit] at hhigh
  have hpoint : ((half_even (y / (base : K) ^ f) : K) + 1 / 2) * base ^ f
      = (((2 * half_even (y / (base : K) ^ f) + 1) * (base ^ (f - (e + 1)).toNat : ℕ) : ℤ) : K)
        * (half * (base : K) ^ e) := by
    rw [zpow_half_multiple hbase heven h]
    push_cast
    ring
  rw [hpoint] at hlow hhigh
  exact hy.not_multiple hhalf hbase hx hlow hhigh

/-- **Numbers with the same leading digits round alike**, where a digit is left below the
unit and neither is a multiple of half the base in that digit. -/
theorem rounded_between (hbase : 1 < base) (hdigits : 0 < digits) (heven : 2 * half = base)
    (hpos : 0 < x) (hpos' : 0 < y) (hx : Between base half e m x) (hy : Between base half e m y)
    (hplace : e < last_place base digits least x) :
    rounded base digits least x = rounded base digits least y := by
  have hle := last_place_between hbase hdigits heven hpos hpos' hx hy hplace
  have hge := last_place_between hbase hdigits heven hpos' hpos hy hx (hplace.trans_le hle)
  have hunit : unit base digits least x = unit base digits least y := by
    rw [unit, unit, le_antisymm hle hge]
  have hcount : half_even (x / unit base digits least y)
      = half_even (y / unit base digits least y) :=
    le_antisymm (half_even_between hbase heven hx hy (hplace.trans_le hle))
      (half_even_between hbase heven hy hx (hplace.trans_le hle))
  rw [rounded, rounded, hunit, hcount]

end

end TradeLogistics.SignificantDigits
