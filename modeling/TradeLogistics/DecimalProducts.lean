/-
Python's `decimal.Decimal`, continued: products and quotients.

Both are taken exactly, as far as digits matter, and then finalized: kept as they are where
the context holds them, else rounded to its last digit. `finalize_rounded` says that this is
rounding to significant digits, of the number itself, and when it overflows instead; the
rest reads off that the product is rounded once (`multiply_rounded`), and so is the
quotient (`divide_rounded`), although its digits have no end: the division stops one digit
past the precision and marks what is left.

Everything is said of magnitudes. A sign is carried along and rounded on neither side.
-/
import TradeLogistics.PyDecimal
import TradeLogistics.SignificantDigits

set_option autoImplicit false

namespace TradeLogistics.PyDecimal

open TradeLogistics.SignificantDigits

/-! ## 1. `*` and `/` -/

/-- `x * y`. -/
def Finite.multiply (ctx : Context) (x y : Finite) : Except Signal Finite :=
  finalize ctx ⟨x.negative != y.negative, x.coefficient * y.coefficient, x.exponent + y.exponent⟩

/-- Zeros off the end of a coefficient, no more than `count`. -/
def dropZeros : ℕ → ℕ → ℤ → ℕ × ℤ
  | 0, coefficient, exponent => (coefficient, exponent)
  | count + 1, coefficient, exponent =>
    if coefficient % 10 = 0 then dropZeros count (coefficient / 10) (exponent + 1)
    else (coefficient, exponent)

/-- The digits of a quotient and the exponent of the last: one or two digits past the
precision, of which the last is neither 0 nor 5 where something is left. -/
def quotientDigits (ctx : Context) (x y : Finite) : ℕ × ℤ :=
  let shift : ℤ := numdigits y.coefficient - numdigits x.coefficient + ctx.prec + 1
  let dividend := x.coefficient * 10 ^ shift.toNat
  let divisor := y.coefficient * 10 ^ (-shift).toNat
  let exponent := x.exponent - y.exponent - shift
  let coefficient := dividend / divisor
  if dividend % divisor ≠ 0 then
    (if coefficient % 5 = 0 then coefficient + 1 else coefficient, exponent)
  else dropZeros shift.toNat coefficient exponent

/-- `x / y`, by a number that is not zero. -/
def Finite.divide (ctx : Context) (x y : Finite) (_nonzero : y.coefficient ≠ 0) :
    Except Signal Finite :=
  if x.coefficient = 0 then
    finalize ctx ⟨x.negative != y.negative, 0, x.exponent - y.exponent⟩
  else
    let (coefficient, exponent) := quotientDigits ctx x y
    finalize ctx ⟨x.negative != y.negative, coefficient, exponent⟩

/-- A NaN that is passed on: its payload keeps as many digits as the context carries. -/
def fixNan (ctx : Context) (negative : Bool) (payload : ℕ) : Decimal :=
  .nan negative false (payload % 10 ^ ctx.prec)

/-- `x * y`, of any two decimals. -/
def Decimal.multiply (ctx : Context) : Decimal → Decimal → Except Signal Decimal
  | .nan _ true _, _ | _, .nan _ true _ => .error .InvalidOperation
  | .nan negative false payload, _ | _, .nan negative false payload =>
    .ok (fixNan ctx negative payload)
  | .infinity negative, .infinity negative' => .ok (.infinity (negative != negative'))
  | .infinity negative, .finite x | .finite x, .infinity negative =>
    if x.coefficient = 0 then .error .InvalidOperation
    else .ok (.infinity (negative != x.negative))
  | .finite x, .finite y => (x.multiply ctx y).map .finite

/-- `x / y`, by a finite number that is not zero. -/
def Decimal.divide (ctx : Context) (x : Decimal) (y : Finite) (nonzero : y.coefficient ≠ 0) :
    Except Signal Decimal :=
  match x with
  | .nan _ true _ => .error .InvalidOperation
  | .nan negative false payload => .ok (fixNan ctx negative payload)
  | .infinity negative => .ok (.infinity (negative != y.negative))
  | .finite x => (x.divide ctx y nonzero).map .finite

/-! ## 2. What a context keeps of a number -/

/-- A number without its sign. -/
def Finite.magnitude (x : Finite) : ℚ := x.coefficient * (10 : ℚ) ^ x.exponent

theorem magnitude_nonneg (x : Finite) : 0 ≤ x.magnitude :=
  mul_nonneg (Nat.cast_nonneg _) (zpow_nonneg (by norm_num) _)

theorem magnitude_pos {x : Finite} (h : x.coefficient ≠ 0) : 0 < x.magnitude :=
  mul_pos (Nat.cast_pos.mpr (Nat.pos_of_ne_zero h)) (zpow_pos (by norm_num) _)

theorem magnitude_of_zero {x : Finite} (h : x.coefficient = 0) : x.magnitude = 0 := by
  rw [Finite.magnitude, h, Nat.cast_zero, zero_mul]

theorem value_eq_magnitude (x : Finite) :
    x.value = if x.negative then -x.magnitude else x.magnitude := by
  unfold Finite.value Finite.magnitude
  cases x.negative <;> simp

/-- From zero on a number is its magnitude. -/
theorem magnitude_of_nonneg {x : Finite} (h : 0 ≤ x.value) : x.magnitude = x.value := by
  rw [value_eq_magnitude] at h ⊢
  split at h
  · next hsign =>
      have hzero : x.magnitude = 0 := le_antisymm (by linarith) (magnitude_nonneg x)
      rw [if_pos hsign, hzero, neg_zero]
  · next hsign => rw [if_neg hsign]

/-- A number in the digits that a context carries. -/
def Context.rounded (ctx : Context) (q : ℚ) : ℚ :=
  SignificantDigits.rounded 10 ctx.prec ctx.Etiny q

/-- What one more is worth in the last of these digits. -/
def Context.unit (ctx : Context) (q : ℚ) : ℚ := SignificantDigits.unit 10 ctx.prec ctx.Etiny q

/-- The digits and the exponents that a context holds. -/
structure InRange (ctx : Context) (x : Finite) : Prop where
  digits : numdigits x.coefficient ≤ ctx.prec
  low : ctx.Etiny ≤ x.exponent
  high : x.exponent ≤ ctx.Emax

theorem quotient_half_even (n : ℕ) {d : ℕ} (hd : 0 < d) :
    half_even ((n : ℚ) / d) = Rounding.HALF_EVEN.quotient n d := by
  have hpos : (0 : ℚ) < d := by exact_mod_cast hd
  have hdiv : (n : ℚ) = (n / d : ℕ) * d + (n % d : ℕ) := by
    exact_mod_cast (Nat.div_add_mod' n d).symm
  have hquotient : (n : ℚ) / d = (n / d : ℕ) + (n % d : ℕ) / d := by
    rw [div_eq_iff hpos.ne', add_mul, div_mul_cancel₀ _ hpos.ne']
    exact hdiv
  have hmod : ((n % d : ℕ) : ℚ) / d < 1 := by
    rw [div_lt_one hpos]
    exact_mod_cast Nat.mod_lt n hd
  have hrest : (0 : ℚ) ≤ (n % d : ℕ) / d := by positivity
  have hhalf : ((n % d : ℕ) : ℚ) / d = 1 / 2 ↔ d = 2 * (n % d) := by
    rw [div_eq_div_iff hpos.ne' two_ne_zero, one_mul, mul_comm]
    norm_cast
    exact eq_comm
  have hbelow : ((n % d : ℕ) : ℚ) / d < 1 / 2 ↔ 2 * (n % d) < d := by
    rw [div_lt_div_iff₀ hpos two_pos, one_mul, mul_comm]
    norm_cast
  rw [hquotient]
  unfold Rounding.quotient
  generalize n / d = quotient
  generalize n % d = rest at hmod hrest hhalf hbelow ⊢
  extract_lets incremented
  have hincremented : incremented = true
      ↔ d < 2 * rest ∨ d = 2 * rest ∧ quotient % 2 = 1 := by
    show (decide (d < 2 * rest) || (d == 2 * rest && quotient % 2 == 1)) = true ↔ _
    simp only [Bool.or_eq_true, Bool.and_eq_true, decide_eq_true_eq, beq_iff_eq]
  split
  · next hup =>
      rw [hincremented] at hup
      have hge : (1 : ℚ) / 2 ≤ rest / d := by
        rw [← not_lt, hbelow]
        omega
      apply half_even_unique
      · push_cast
        linarith
      · push_cast
        linarith
      · intro htie
        have heq : (rest : ℚ) / d = 1 / 2 := by
          push_cast at htie
          rcases htie with h | h <;> linarith
        have hodd : quotient % 2 = 1 := by
          have := hhalf.mp heq
          omega
        rw [Int.even_coe_nat, Nat.even_iff]
        omega
  · next hdown =>
      rw [hincremented, not_or, not_and] at hdown
      have hle : (rest : ℚ) / d ≤ 1 / 2 := by
        rw [le_iff_lt_or_eq, hbelow, hhalf]
        omega
      apply half_even_unique
      · push_cast
        linarith
      · push_cast
        linarith
      · intro htie
        have heq : (rest : ℚ) / d = 1 / 2 := by
          push_cast at htie
          rcases htie with h | h <;> linarith
        have heven := hdown.2 (hhalf.mp heq)
        rw [Int.even_coe_nat, Nat.even_iff]
        omega

theorem magnitude_bounds {x : Finite} (h : x.coefficient ≠ 0) :
    (10 : ℚ) ^ x.adjusted ≤ x.magnitude ∧ x.magnitude < (10 : ℚ) ^ (x.adjusted + 1) := by
  have hpos := numdigits_pos x.coefficient
  have hpow : (0 : ℚ) < 10 ^ x.exponent := zpow_pos (by norm_num) _
  have hlead : (10 : ℚ) ^ (numdigits x.coefficient - 1) ≤ x.coefficient := by
    exact_mod_cast pow_numdigits_le h
  have hfits : (x.coefficient : ℚ) < 10 ^ numdigits x.coefficient := by
    exact_mod_cast (numdigits_le_iff hpos).mp le_rfl
  have hadjusted : x.adjusted = ((numdigits x.coefficient - 1 : ℕ) : ℤ) + x.exponent := by
    unfold Finite.adjusted
    omega
  have hnext : x.adjusted + 1 = (numdigits x.coefficient : ℤ) + x.exponent := by
    unfold Finite.adjusted
    omega
  rw [hnext, hadjusted, zpow_add₀ (by norm_num), zpow_add₀ (by norm_num), zpow_natCast,
    zpow_natCast]
  exact ⟨mul_le_mul_of_nonneg_right hlead hpow.le, mul_lt_mul_of_pos_right hfits hpow⟩

/-- The exponent of the leading digit is the logarithm. -/
theorem log_magnitude {x : Finite} (h : x.coefficient ≠ 0) :
    Int.log 10 x.magnitude = x.adjusted := by
  obtain ⟨hlow, hhigh⟩ := magnitude_bounds h
  have hpos := magnitude_pos h
  apply le_antisymm
  · apply Int.lt_add_one_iff.mp
    apply (Int.lt_zpow_iff_log_lt (by decide) hpos).mp
    rw [Nat.cast_ofNat]
    exact hhigh
  · apply (Int.zpow_le_iff_le_log (by decide) hpos).mp
    rw [Nat.cast_ofNat]
    exact hlow

/-- Digits off the end, down to the place of the last one kept, are rounding. -/
theorem rounded_shiftRight {ctx : Context} {x : Finite} {count : ℕ} (h : x.coefficient ≠ 0)
    (hplace : max (x.adjusted - (ctx.prec - 1)) ctx.Etiny = x.exponent + count) :
    ctx.rounded x.magnitude
      = shiftRight .HALF_EVEN x.coefficient count * (10 : ℚ) ^ (x.exponent + count) := by
  have hlast : last_place 10 ctx.prec ctx.Etiny x.magnitude = x.exponent + count := by
    unfold last_place
    rw [log_magnitude h, hplace]
  have hpow : (0 : ℚ) < 10 ^ x.exponent := zpow_pos (by norm_num) _
  have hunit : ((10 : ℕ) : ℚ) ^ (x.exponent + count)
      = ((10 ^ count : ℕ) : ℚ) * 10 ^ x.exponent := by
    rw [Nat.cast_ofNat, zpow_add₀ (by norm_num), zpow_natCast, Nat.cast_pow, Nat.cast_ofNat,
      mul_comm]
  unfold Context.rounded SignificantDigits.rounded SignificantDigits.unit
  rw [hlast, shiftRight_eq]
  congr 1
  rw [hunit, Finite.magnitude, mul_div_mul_right _ _ hpow.ne',
    quotient_half_even _ (by positivity), Int.cast_natCast]

/-- What fits is as it is. -/
theorem rounded_in_range {ctx : Context} {x : Finite} (h : InRange ctx x) :
    ctx.rounded x.magnitude = x.magnitude := by
  have hfits : x.coefficient < 10 ^ ctx.prec := (numdigits_le_iff ctx.prec_pos).mp h.digits
  have hrounded := rounded_fits (K := ℚ) (by decide : 1 < 10) hfits h.low
  rw [Nat.cast_ofNat] at hrounded
  exact hrounded

/-! ## 3. Finalizing is rounding

`checkExponent` and `checkRound` each round, one to the least exponent and one to the
precision, and never both. Either way it is to the last digit that the context keeps. -/

/-- `y` is what the context keeps of `q`, under a sign. -/
structure Rounds (ctx : Context) (negative : Bool) (q : ℚ) (y : Finite) : Prop where
  sign : y.negative = negative
  magnitude : y.magnitude = ctx.rounded q
  in_range : InRange ctx y

/-- What comes of an operation whose exact result is `q`: what the context keeps of it, or
the number has left the range. -/
def Outcome (ctx : Context) (negative : Bool) (q : ℚ) (result : Except Signal Finite) : Prop :=
  (∃ y, result = .ok y ∧ Rounds ctx negative q y)
    ∨ result = .error .Overflow ∧ (10 : ℚ) ^ ctx.Emax ≤ q

section

variable {ctx : Context} {x : Finite}

theorem finalize_zero (hrange : ctx.Etiny ≤ ctx.Emax) (h : x.coefficient = 0) :
    ∃ y, finalize ctx x = .ok y ∧ Rounds ctx x.negative x.magnitude y := by
  let y : Finite := { x with exponent := max ctx.Etiny (min ctx.Emax x.exponent) }
  have hcheck : checkExponent ctx x = .ok y := by
    unfold checkExponent
    rw [if_pos h]
  have hdigits : numdigits y.coefficient ≤ ctx.prec := by
    show numdigits x.coefficient ≤ ctx.prec
    rw [h]
    exact ctx.prec_pos
  have hlow : ctx.Etiny ≤ max ctx.Etiny (min ctx.Emax x.exponent) := le_max_left _ _
  have hhigh : max ctx.Etiny (min ctx.Emax x.exponent) ≤ ctx.Emax :=
    max_le hrange (min_le_left _ _)
  refine ⟨y, ?_, rfl, ?_, hdigits, hlow, hhigh⟩
  · rw [finalize_of_checkExponent hcheck, checkRound_short hdigits]
  · rw [magnitude_of_zero h, magnitude_of_zero (show y.coefficient = 0 from h)]
    exact SignificantDigits.rounded_zero.symm

/-- Below the least normal number the digits end at the least exponent. -/
theorem finalize_subnormal (hrange : ctx.Etiny ≤ ctx.Emax) (hne : x.coefficient ≠ 0)
    (hhigh : x.adjusted ≤ ctx.Emax) (hnormal : x.adjusted < ctx.Emin)
    (hlow : x.exponent < ctx.Etiny) :
    ∃ y, finalize ctx x = .ok y ∧ Rounds ctx x.negative x.magnitude y := by
  have hprec := ctx.prec_pos
  have htiny : ctx.Etiny = ctx.Emin - (ctx.prec - 1) := rfl
  have hadjusted : x.adjusted = x.exponent + numdigits x.coefficient - 1 := rfl
  obtain ⟨count, hcount⟩ : ∃ count : ℕ, x.exponent + count = ctx.Etiny :=
    ⟨(ctx.Etiny - x.exponent).toNat, by omega⟩
  have htoNat : (ctx.Etiny - x.exponent).toNat = count := by omega
  let y : Finite := ⟨x.negative, shiftRight .HALF_EVEN x.coefficient count, ctx.Etiny⟩
  have hcheck : checkExponent ctx x = .ok y := by
    unfold checkExponent
    rw [if_neg hne, if_neg (not_lt.mpr hhigh), if_pos ⟨hnormal, hlow⟩, htoNat]
  have hquotient : x.coefficient / 10 ^ count < 10 ^ (ctx.prec - 1) := by
    rw [Nat.div_lt_iff_lt_mul (by positivity), ← Nat.pow_add]
    calc x.coefficient < 10 ^ numdigits x.coefficient :=
          (numdigits_le_iff (numdigits_pos _)).mp le_rfl
      _ ≤ 10 ^ (ctx.prec - 1 + count) := Nat.pow_le_pow_right (by decide) (by omega)
  have hdigits : numdigits y.coefficient ≤ ctx.prec := by
    have hbound := (quotient_bounds .HALF_EVEN x.coefficient (10 ^ count)).2
    have hpow : 10 ^ (ctx.prec - 1) < 10 ^ ctx.prec :=
      Nat.pow_lt_pow_right (by decide) (by omega)
    apply (numdigits_le_iff hprec).mpr
    show shiftRight .HALF_EVEN x.coefficient count < 10 ^ ctx.prec
    rw [shiftRight_eq]
    omega
  refine ⟨y, ?_, rfl, ?_, hdigits, le_rfl, hrange⟩
  · rw [finalize_of_checkExponent hcheck, checkRound_short hdigits]
  · rw [rounded_shiftRight hne (show _ = x.exponent + count by omega), hcount]
    rfl

/-- Past the precision the digits are rounded, and the number may grow out of range. -/
theorem finalize_rounds (hne : x.coefficient ≠ 0) (hhigh : x.adjusted ≤ ctx.Emax)
    (hnormal : ¬ (x.adjusted < ctx.Emin ∧ x.exponent < ctx.Etiny))
    (hlong : ctx.prec < numdigits x.coefficient) :
    (∃ y, finalize ctx x = .ok y ∧ Rounds ctx x.negative x.magnitude y)
      ∨ finalize ctx x = .error .Overflow ∧ x.adjusted = ctx.Emax := by
  have hprec := ctx.prec_pos
  have htiny : ctx.Etiny = ctx.Emin - (ctx.prec - 1) := rfl
  have hadjusted : x.adjusted = x.exponent + numdigits x.coefficient - 1 := rfl
  have hcheck : checkExponent ctx x = .ok x := by
    unfold checkExponent
    rw [if_neg hne, if_neg (not_lt.mpr hhigh), if_neg hnormal]
  obtain ⟨count, hcount⟩ : ∃ count, numdigits x.coefficient = ctx.prec + count :=
    ⟨numdigits x.coefficient - ctx.prec, by omega⟩
  have hsub : numdigits x.coefficient - ctx.prec = count := by omega
  have hrounded := @rounded_shiftRight ctx x count hne
    (show max (x.adjusted - (ctx.prec - 1)) ctx.Etiny = x.exponent + count by omega)
  obtain ⟨-, hkept⟩ := shiftRight_kept .HALF_EVEN hprec hcount hne
  rw [finalize_of_checkExponent hcheck]
  unfold checkRound
  rw [if_pos hlong, hsub]
  dsimp only
  split
  · next hcarry =>
      obtain ⟨hpower, htenth, hdigits⟩ := carried hprec hkept hcarry
      let y : Finite :=
        ⟨x.negative, shiftRight .HALF_EVEN x.coefficient count / 10, x.exponent + count + 1⟩
      have hdigits' : numdigits y.coefficient = ctx.prec := hdigits
      have hy : y.adjusted = x.exponent + count + 1 + ctx.prec - 1 := by
        unfold Finite.adjusted
        rw [hdigits']
      have hyne : y.coefficient ≠ 0 := by
        show shiftRight .HALF_EVEN x.coefficient count / 10 ≠ 0
        rw [htenth]
        positivity
      show (∃ z, checkExponent ctx y = .ok z ∧ _) ∨ checkExponent ctx y = _ ∧ _
      unfold checkExponent
      rw [if_neg hyne]
      by_cases hover : ctx.Emax < y.adjusted
      · rw [if_pos hover]
        exact .inr ⟨rfl, by omega⟩
      · have hlow : ctx.Etiny ≤ x.exponent + count + 1 := by omega
        have hhigh' : x.exponent + count + 1 ≤ ctx.Emax := by omega
        rw [if_neg hover, if_neg fun h => absurd h.2 (not_lt.mpr hlow)]
        refine .inl ⟨y, rfl, rfl, ?_, hdigits'.le, hlow, hhigh'⟩
        rw [hrounded]
        unfold Finite.magnitude
        show ((shiftRight .HALF_EVEN x.coefficient count / 10 : ℕ) : ℚ)
          * 10 ^ (x.exponent + count + 1) = _
        rw [htenth, hpower, zpow_add₀ (by norm_num), zpow_one]
        push_cast
        ring
  · next hcarry =>
      have hlow : ctx.Etiny ≤ x.exponent + count := by omega
      have hhigh' : x.exponent + count ≤ ctx.Emax := by omega
      exact .inl ⟨_, rfl, rfl, hrounded.symm, not_lt.mp hcarry, hlow, hhigh'⟩

/-- **Finalizing rounds** the number to the digits of the context. -/
theorem finalize_rounded (hrange : ctx.Etiny ≤ ctx.Emax) (x : Finite) :
    Outcome ctx x.negative x.magnitude (finalize ctx x) := by
  by_cases hzero : x.coefficient = 0
  · exact .inl (finalize_zero hrange hzero)
  by_cases hover : ctx.Emax < x.adjusted
  · have hcheck : checkExponent ctx x = .error .Overflow := by
      unfold checkExponent
      rw [if_neg hzero, if_pos hover]
    refine .inr ⟨by unfold finalize; rw [hcheck]; rfl, ?_⟩
    calc (10 : ℚ) ^ ctx.Emax ≤ 10 ^ x.adjusted := zpow_le_zpow_right₀ (by norm_num) hover.le
      _ ≤ x.magnitude := (magnitude_bounds hzero).1
  by_cases hnormal : x.adjusted < ctx.Emin ∧ x.exponent < ctx.Etiny
  · exact .inl (finalize_subnormal hrange hzero (not_lt.mp hover) hnormal.1 hnormal.2)
  by_cases hlong : ctx.prec < numdigits x.coefficient
  · rcases finalize_rounds hzero (not_lt.mp hover) hnormal hlong with h | ⟨h, hadjusted⟩
    · exact .inl h
    · refine .inr ⟨h, ?_⟩
      rw [← hadjusted]
      exact (magnitude_bounds hzero).1
  · have hprec := ctx.prec_pos
    have hpos := numdigits_pos x.coefficient
    have htiny : ctx.Etiny = ctx.Emin - (ctx.prec - 1) := rfl
    have hadjusted : x.adjusted = x.exponent + numdigits x.coefficient - 1 := rfl
    have hrangeX : InRange ctx x := ⟨not_lt.mp hlong, by omega, by omega⟩
    have hcheck : checkExponent ctx x = .ok x := by
      unfold checkExponent
      rw [if_neg hzero, if_neg hover, if_neg hnormal]
    refine .inl ⟨x, ?_, rfl, (rounded_in_range hrangeX).symm, hrangeX⟩
    rw [finalize_of_checkExponent hcheck, checkRound_short hrangeX.digits]

end

/-! ## 4. Products and quotients are rounded once

A quotient that comes out even is exact. Of any other the division keeps the digits down to
one past the precision, and makes the last one neither 0 nor 5: between these the true
quotient lies, and no rounding can tell the two apart. -/

section

variable {ctx : Context}

/-- **A product is rounded once.** -/
theorem multiply_rounded (hrange : ctx.Etiny ≤ ctx.Emax) (x y : Finite) :
    Outcome ctx (x.negative != y.negative) (x.magnitude * y.magnitude) (x.multiply ctx y) := by
  have hproduct : x.magnitude * y.magnitude = Finite.magnitude ⟨x.negative != y.negative,
      x.coefficient * y.coefficient, x.exponent + y.exponent⟩ := by
    unfold Finite.magnitude
    dsimp only
    rw [zpow_add₀ (by norm_num), Nat.cast_mul]
    ring
  rw [hproduct]
  exact finalize_rounded hrange _

theorem dropZeros_value (count coefficient : ℕ) (exponent : ℤ) :
    ((dropZeros count coefficient exponent).1 : ℚ)
        * (10 : ℚ) ^ (dropZeros count coefficient exponent).2
      = coefficient * 10 ^ exponent := by
  induction count generalizing coefficient exponent with
  | zero => rfl
  | succ count ih =>
      unfold dropZeros
      split
      · next h =>
          have hcoefficient : coefficient = coefficient / 10 * 10 := by omega
          rw [ih, zpow_add₀ (by norm_num), zpow_one]
          conv_rhs => rw [hcoefficient]
          push_cast
          ring
      · rfl

/-- A power of ten, as what it lengthens one number by over what it lengthens another by. -/
theorem pow_toNat_shift (shift : ℤ) :
    (10 : ℚ) ^ shift.toNat = 10 ^ shift * 10 ^ (-shift).toNat := by
  rw [← zpow_natCast, ← zpow_natCast, ← zpow_add₀ (by norm_num)]
  congr 1
  omega

theorem between_scaled {t : ℚ} {m e : ℤ} (hlow : 5 * (m : ℚ) < t) (hhigh : t < 5 * ((m : ℚ) + 1)) :
    Between 10 5 e m (t * (10 : ℚ) ^ e) := by
  have hpow : (0 : ℚ) < 10 ^ e := zpow_pos (by norm_num) _
  unfold Between
  rw [Nat.cast_ofNat, Nat.cast_ofNat, ← mul_assoc, ← mul_assoc, mul_comm (m : ℚ),
    mul_comm ((m : ℚ) + 1)]
  exact ⟨mul_lt_mul_of_pos_right hlow hpow, mul_lt_mul_of_pos_right hhigh hpow⟩

/-- The digits of a quotient say it, or as much of it as a context sees. -/
theorem quotientDigits_cases (ctx : Context) {x y : Finite} (hx : x.coefficient ≠ 0)
    (hy : y.coefficient ≠ 0) {coefficient : ℕ} {exponent : ℤ}
    (h : quotientDigits ctx x y = (coefficient, exponent)) :
    coefficient * (10 : ℚ) ^ exponent = x.magnitude / y.magnitude
      ∨ 10 ^ ctx.prec ≤ coefficient ∧ (10 : ℚ) ^ exponent ≤ x.magnitude / y.magnitude
        ∧ ∃ m : ℤ, Between 10 5 exponent m ((coefficient : ℚ) * 10 ^ exponent)
          ∧ Between 10 5 exponent m (x.magnitude / y.magnitude) := by
  unfold quotientDigits at h
  extract_lets shift dividend divisor exponent₀ quotient at h
  have hdivisor : 0 < divisor := Nat.mul_pos (Nat.pos_of_ne_zero hy) (by positivity)
  have hdivisor' : (0 : ℚ) < divisor := by exact_mod_cast hdivisor
  have hexact : x.magnitude / y.magnitude = (dividend : ℚ) / divisor * 10 ^ exponent₀ := by
    have hdividend : (dividend : ℚ) = x.coefficient * (10 ^ shift * 10 ^ (-shift).toNat) := by
      show ((x.coefficient * 10 ^ shift.toNat : ℕ) : ℚ) = _
      rw [← pow_toNat_shift]
      push_cast
      ring
    have hdivisor'' : (divisor : ℚ) = y.coefficient * 10 ^ (-shift).toNat := by
      show ((y.coefficient * 10 ^ (-shift).toNat : ℕ) : ℚ) = _
      push_cast
      ring
    have hexponent : (10 : ℚ) ^ exponent₀ = 10 ^ x.exponent / 10 ^ y.exponent / 10 ^ shift := by
      show (10 : ℚ) ^ (x.exponent - y.exponent - shift) = _
      rw [zpow_sub₀ (by norm_num), zpow_sub₀ (by norm_num)]
    have hcoefficient : (y.coefficient : ℚ) ≠ 0 := by exact_mod_cast hy
    rw [hdividend, hdivisor'', hexponent]
    unfold Finite.magnitude
    field_simp
  have hdiv : (dividend : ℚ) = quotient * divisor + (dividend % divisor : ℕ) := by
    exact_mod_cast (Nat.div_add_mod' dividend divisor).symm
  split at h
  · next hrest =>
      rw [Prod.mk.injEq] at h
      obtain ⟨hcoefficient, rfl⟩ := h
      have hmod : (dividend % divisor : ℕ) < divisor := Nat.mod_lt _ hdivisor
      have hmod' : ((dividend % divisor : ℕ) : ℚ) < divisor := by exact_mod_cast hmod
      have hpos : (0 : ℚ) < (dividend % divisor : ℕ) := by
        exact_mod_cast Nat.pos_of_ne_zero hrest
      have hlow : (quotient : ℚ) < dividend / divisor := by
        rw [lt_div_iff₀ hdivisor']
        linarith
      have hhigh : (dividend : ℚ) / divisor < quotient + 1 := by
        rw [div_lt_iff₀ hdivisor']
        linarith
      have hlarge : 10 ^ ctx.prec ≤ quotient := by
        have hposX := numdigits_pos x.coefficient
        have hposY := numdigits_pos y.coefficient
        have hshift : shift
            = numdigits y.coefficient - numdigits x.coefficient + ctx.prec + 1 := rfl
        rw [Nat.le_div_iff_mul_le hdivisor]
        calc 10 ^ ctx.prec * divisor
            ≤ 10 ^ ctx.prec * (10 ^ numdigits y.coefficient * 10 ^ (-shift).toNat) :=
              Nat.mul_le_mul_left _ (Nat.mul_le_mul_right _
                ((numdigits_le_iff hposY).mp le_rfl).le)
          _ = 10 ^ (numdigits x.coefficient - 1) * 10 ^ shift.toNat := by
              rw [← Nat.pow_add, ← Nat.pow_add, ← Nat.pow_add]
              congr 1
              omega
          _ ≤ dividend := Nat.mul_le_mul_right _ (pow_numdigits_le hx)
      have hfive : 5 * (quotient / 5) < coefficient ∧ coefficient < 5 * (quotient / 5 + 1)
          ∧ quotient ≤ coefficient := by
        rw [← hcoefficient]
        split <;> omega
      have hmark : 5 * (((quotient / 5 : ℕ) : ℤ) : ℚ) < (coefficient : ℚ)
          ∧ (coefficient : ℚ) < 5 * ((((quotient / 5 : ℕ) : ℤ) : ℚ) + 1) := by
        rw [Int.cast_natCast]
        have hbounds := And.intro hfive.1 hfive.2.1
        exact_mod_cast hbounds
      have htrue : 5 * (((quotient / 5 : ℕ) : ℤ) : ℚ) ≤ quotient
          ∧ (quotient : ℚ) + 1 ≤ 5 * ((((quotient / 5 : ℕ) : ℤ) : ℚ) + 1) := by
        rw [Int.cast_natCast]
        have hbounds : 5 * (quotient / 5) ≤ quotient ∧ quotient + 1 ≤ 5 * (quotient / 5 + 1) := by
          omega
        exact_mod_cast hbounds
      have hone : (1 : ℚ) ≤ quotient := by
        exact_mod_cast (Nat.one_le_pow ctx.prec 10 (by decide)).trans hlarge
      refine .inr ⟨hlarge.trans hfive.2.2, ?_, (quotient / 5 : ℕ), ?_, ?_⟩
      · rw [hexact]
        exact le_mul_of_one_le_left (zpow_nonneg (by norm_num) _) (hone.trans hlow.le)
      · exact between_scaled hmark.1 hmark.2
      · rw [hexact]
        exact between_scaled (htrue.1.trans_lt hlow) (hhigh.trans_le htrue.2)
  · next hrest =>
      left
      have hvalue := dropZeros_value shift.toNat quotient exponent₀
      rw [h] at hvalue
      have hquotient : (dividend : ℚ) / divisor = quotient := by
        rw [div_eq_iff hdivisor'.ne', hdiv, not_not.mp hrest, Nat.cast_zero, add_zero]
      rw [hexact, hquotient]
      exact hvalue

/-- **A quotient is rounded once**, however many digits it has. -/
theorem divide_rounded (hrange : ctx.Etiny ≤ ctx.Emax) (x : Finite) {y : Finite}
    (hy : y.coefficient ≠ 0) :
    Outcome ctx (x.negative != y.negative) (x.magnitude / y.magnitude) (x.divide ctx y hy) := by
  unfold Finite.divide
  by_cases hx : x.coefficient = 0
  · have hzero := finalize_rounded hrange ⟨x.negative != y.negative, 0, x.exponent - y.exponent⟩
    rw [magnitude_of_zero rfl] at hzero
    rw [if_pos hx, magnitude_of_zero hx, zero_div]
    exact hzero
  rw [if_neg hx]
  obtain ⟨⟨coefficient, exponent⟩, hdigits⟩ : ∃ digits, quotientDigits ctx x y = digits :=
    ⟨_, rfl⟩
  rw [hdigits]
  let z : Finite := ⟨x.negative != y.negative, coefficient, exponent⟩
  have hz : Outcome ctx (x.negative != y.negative) (coefficient * (10 : ℚ) ^ exponent)
      (finalize ctx z) := finalize_rounded hrange z
  rcases quotientDigits_cases ctx hx hy hdigits with hexact | ⟨hlarge, hleast, m, hmark, htrue⟩
  · rw [← hexact]
    exact hz
  have hpow : (0 : ℚ) < 10 ^ exponent := zpow_pos (by norm_num) _
  have hpos : (0 : ℚ) < coefficient * 10 ^ exponent := by
    have hcoefficient : 0 < coefficient := (Nat.pow_pos (by decide)).trans_le hlarge
    exact mul_pos (by exact_mod_cast hcoefficient) hpow
  have hpos' : 0 < x.magnitude / y.magnitude := div_pos (magnitude_pos hx) (magnitude_pos hy)
  have hlog : (ctx.prec : ℤ) + exponent ≤ Int.log 10 (coefficient * (10 : ℚ) ^ exponent) := by
    apply (Int.zpow_le_iff_le_log (by decide) hpos).mp
    rw [Nat.cast_ofNat, zpow_add₀ (by norm_num), zpow_natCast]
    exact mul_le_mul_of_nonneg_right (by exact_mod_cast hlarge) hpow.le
  have hplace : exponent
      < last_place 10 ctx.prec ctx.Etiny (coefficient * (10 : ℚ) ^ exponent) := by
    have hle : Int.log 10 (coefficient * (10 : ℚ) ^ exponent) - (ctx.prec - 1)
        ≤ last_place 10 ctx.prec ctx.Etiny (coefficient * (10 : ℚ) ^ exponent) := le_max_left _ _
    omega
  rcases hz with ⟨w, hw, hrounds⟩ | ⟨hover, hemax⟩
  · refine .inl ⟨w, hw, hrounds.sign, ?_, hrounds.in_range⟩
    rw [hrounds.magnitude]
    exact rounded_between (by decide) ctx.prec_pos rfl hpos hpos' hmark htrue hplace
  · -- the bound is itself a multiple of ten in the last digit, so it is passed by both
    refine .inr ⟨hover, ?_⟩
    by_contra hlt
    have hbelow : x.magnitude / y.magnitude ≤ ((10 : ℕ) : ℚ) ^ ctx.Emax := by
      rw [Nat.cast_ofNat]
      exact (not_le.mp hlt).le
    have habove : ((10 : ℕ) : ℚ) ^ ctx.Emax ≤ coefficient * (10 : ℚ) ^ exponent := by
      rw [Nat.cast_ofNat]
      exact hemax
    have hexponent : exponent < ctx.Emax :=
      (zpow_lt_zpow_iff_right₀ (by norm_num)).mp (hleast.trans_lt (not_le.mp hlt))
    rw [zpow_half_multiple (K := ℚ) (by decide : 1 < 10) (by decide : 2 * 5 = 10) hexponent]
      at hbelow habove
    exact htrue.not_multiple (by decide) (by decide) hmark hbelow habove

end

/-! ## 5. Rounding twice

A number that is rounded to the digits of a context and then to a whole number may come out
one off. Below a half it is lifted onto the half, and then up, when it is nearer to it than
half a unit. And a context that carries no digit behind the point has decided the half
itself, to the even side. -/

/-- `q` is so close under a half that the context takes it for one, or a half that the
context takes down. -/
def Context.CrossesHalf (ctx : Context) (q : ℚ) : Prop :=
  (ctx.unit q < 1 ∧ ∃ k : ℕ, q < k + 1 / 2
    ∧ (k + 1 / 2 - q < ctx.unit q / 2 ∨ k + 1 / 2 - q = ctx.unit q / 2 ∧ ctx.unit q < 1 / 10))
  ∨ (ctx.unit q = 1 ∧ ∃ k : ℕ, Even k ∧ q = k + 1 / 2)

theorem half_up_bounds {q : ℚ} (h : 0 ≤ q) :
    (half_up q : ℚ) ≤ q + 1 / 2 ∧ q + 1 / 2 < half_up q + 1 :=
  ⟨Nat.floor_le (by linarith), Nat.lt_floor_add_one _⟩

theorem half_up_eq {q : ℚ} {n : ℕ} (hlow : (n : ℚ) ≤ q + 1 / 2) (hhigh : q + 1 / 2 < n + 1) :
    half_up q = n :=
  (Nat.floor_eq_iff ((Nat.cast_nonneg n).trans hlow)).mpr ⟨hlow, hhigh⟩

theorem half_up_mono {p q : ℚ} (h : p ≤ q) : half_up p ≤ half_up q :=
  Nat.floor_le_floor (by linarith)

section

variable {ctx : Context} {q : ℚ}

theorem rounded_mono {p : ℚ} (hp : 0 ≤ p) (h : p ≤ q) : ctx.rounded p ≤ ctx.rounded q :=
  SignificantDigits.rounded_mono (by decide) ctx.prec_pos hp h

theorem rounded_nonneg (h : 0 ≤ q) : 0 ≤ ctx.rounded q := by
  have hzero : ctx.rounded 0 = 0 := SignificantDigits.rounded_zero
  rw [← hzero]
  exact rounded_mono le_rfl h

/-- A power of ten is one digit. -/
theorem rounded_power {e : ℤ} (h : ctx.Etiny ≤ e) : ctx.rounded ((10 : ℚ) ^ e) = 10 ^ e := by
  have hone : 1 < 10 ^ ctx.prec := Nat.one_lt_pow ctx.prec_pos.ne' (by decide)
  have hrounded := rounded_fits (K := ℚ) (by decide : 1 < 10) hone h
  rw [Nat.cast_one, one_mul, Nat.cast_ofNat] at hrounded
  exact hrounded

/-- A half is a multiple of a unit below one, an even one of any below a tenth. -/
theorem half_units (k j : ℕ) :
    ((k : ℚ) + 1 / 2) = (((2 * k + 1) * 5 * 10 ^ j : ℕ) : ℤ) * (10 : ℚ) ^ (-((j : ℤ) + 1))
      ∧ (Even (((2 * k + 1) * 5 * 10 ^ j : ℕ) : ℤ) ↔ (10 : ℚ) ^ (-((j : ℤ) + 1)) < 1 / 10) := by
  have hpow : (10 : ℚ) ^ (-((j : ℤ) + 1)) = 1 / (10 ^ j * 10) := by
    rw [zpow_neg, zpow_add₀ (by norm_num), zpow_natCast, zpow_one, one_div]
  rw [hpow]
  constructor
  · push_cast
    field_simp
    ring
  · rw [Int.even_coe_nat]
    cases j with
    | zero =>
        rw [pow_zero, pow_zero, one_mul, mul_one]
        exact ⟨fun heven => absurd heven (by rw [Nat.even_iff]; omega),
          fun h => absurd h (lt_irrefl _)⟩
    | succ j =>
        have hlarge : (10 : ℚ) < 10 ^ (j + 1) * 10 := by
          have hone : (1 : ℚ) ≤ 10 ^ j := one_le_pow₀ (by norm_num)
          rw [pow_succ]
          linarith
        have heven : Even ((2 * k + 1) * 5 * 10 ^ (j + 1)) := by
          rw [pow_succ, ← mul_assoc]
          exact Even.mul_left (by decide) _
        exact ⟨fun _ => one_div_lt_one_div_of_lt (by norm_num) hlarge, fun _ => heven⟩

/-- The half above `q` is the only one that `q` may be taken for. -/
theorem half_above_unique {k : ℕ} (hbelow : q < k + 1 / 2)
    (hclose : k + 1 / 2 - q < 1) : k = half_up q := by
  symm
  apply half_up_eq <;> linarith

/-- Digits behind the point are kept: only what is taken for a half goes wrong. -/
theorem twice_behind_point (hq : 0 ≤ q) (h : ctx.unit q < 1) :
    half_up (ctx.rounded q) = half_up q ↔ ¬ ctx.CrossesHalf q := by
  obtain ⟨j, hunit⟩ : ∃ j : ℕ, ctx.unit q = (10 : ℚ) ^ (-((j : ℤ) + 1)) := by
    have hunfold : ctx.unit q = (10 : ℚ) ^ last_place 10 ctx.prec ctx.Etiny q := by
      rw [← Nat.cast_ofNat]
      rfl
    rw [hunfold] at h ⊢
    have hplace : last_place 10 ctx.prec ctx.Etiny q < 0 := by
      rw [← zpow_zero (10 : ℚ)] at h
      exact (zpow_lt_zpow_iff_right₀ (by norm_num)).mp h
    exact ⟨(-last_place 10 ctx.prec ctx.Etiny q - 1).toNat, by congr 1; omega⟩
  have hpos : 0 < ctx.unit q := by
    rw [hunit]
    exact zpow_pos (by norm_num) _
  obtain ⟨hlow, hhigh⟩ := half_up_bounds hq
  obtain ⟨k, hk⟩ : ∃ k, half_up q = k := ⟨_, rfl⟩
  rw [hk] at hlow hhigh ⊢
  obtain ⟨hhalf, heven⟩ := half_units k j
  rw [← hunit] at hhalf heven
  generalize (((2 * k + 1) * 5 * 10 ^ j : ℕ) : ℤ) = n at hhalf heven
  have hrounded : ctx.rounded q = half_even (q / ctx.unit q) * ctx.unit q := rfl
  -- the result is the half up of `q` unless the half above is reached
  have hreached : half_up (ctx.rounded q) = k ↔ half_even (q / ctx.unit q) < n := by
    constructor
    · intro heq
      have hbounds := (half_up_bounds (rounded_nonneg hq : 0 ≤ ctx.rounded q)).2
      rw [heq, hrounded] at hbounds
      have hlt : (half_even (q / ctx.unit q) : ℚ) < n :=
        lt_of_mul_lt_mul_right (by rw [← hhalf]; linarith) hpos.le
      exact_mod_cast hlt
    · intro hlt
      have habove : ctx.rounded q < k + 1 / 2 := by
        rw [hhalf, hrounded]
        exact mul_lt_mul_of_pos_right (by exact_mod_cast hlt) hpos
      apply half_up_eq
      · cases k with
        | zero =>
            have hnonneg : 0 ≤ ctx.rounded q := rounded_nonneg hq
            rw [Nat.cast_zero]
            linarith
        | succ k =>
            obtain ⟨hhalf', -⟩ := half_units k j
            rw [← hunit] at hhalf'
            have hbelow : ((k : ℚ) + 1 / 2) ≤ ctx.rounded q := by
              rw [hhalf', hrounded]
              refine mul_le_mul_of_nonneg_right ?_ hpos.le
              refine Int.cast_le.mpr (le_half_even ?_)
              rw [le_div_iff₀ hpos, ← hhalf']
              push_cast at hlow
              linarith
            push_cast
            linarith
      · linarith
  have hnear : q / ctx.unit q < n - 1 / 2 ↔ ctx.unit q / 2 < k + 1 / 2 - q := by
    rw [div_lt_iff₀ hpos, sub_mul, ← hhalf]
    constructor <;> intro h <;> linarith
  have htie : q / ctx.unit q = n - 1 / 2 ↔ k + 1 / 2 - q = ctx.unit q / 2 := by
    rw [div_eq_iff hpos.ne', sub_mul, ← hhalf]
    constructor <;> intro h <;> linarith
  rw [hreached, half_even_lt_iff, hnear, htie, heven]
  constructor
  · rintro hfar (⟨-, k', hbelow, hclose⟩ | ⟨hone, -⟩)
    · have hclose' : (k' : ℚ) + 1 / 2 - q < 1 := by
        rcases hclose with hlt | ⟨heq, -⟩ <;> linarith
      rw [half_above_unique hbelow hclose', hk] at hclose
      rcases hfar with hfar | ⟨hfar, hodd⟩
      · rcases hclose with hlt | ⟨heq, -⟩ <;> linarith
      · rcases hclose with hlt | ⟨-, hsmall⟩
        · linarith
        · exact hodd hsmall
    · exact absurd hone h.ne
  · intro hnot
    by_contra hclose
    rw [not_or, not_lt, not_and, not_not] at hclose
    refine hnot (.inl ⟨h, k, by linarith, ?_⟩)
    rcases lt_or_eq_of_le hclose.1 with hlt | heq
    · exact .inl hlt
    · exact .inr ⟨heq, hclose.2 heq⟩

/-- No digit behind the point is kept: only a half goes wrong. -/
theorem twice_at_point (hq : 0 ≤ q) (h : ctx.unit q = 1) :
    half_up (ctx.rounded q) = half_up q ↔ ¬ ctx.CrossesHalf q := by
  obtain ⟨hlow, hhigh⟩ := half_up_bounds hq
  have hrounded : ctx.rounded q = half_even q := by
    have hunfold : ctx.rounded q = half_even (q / ctx.unit q) * ctx.unit q := rfl
    rw [hunfold, h, div_one, mul_one]
  rw [hrounded]
  constructor
  · rintro heq (⟨hlt, -⟩ | ⟨-, k, heven, rfl⟩)
    · exact absurd h hlt.ne
    · have hdown : half_even ((k : ℚ) + 1 / 2) = k := by
        apply half_even_unique
        · rw [Int.cast_natCast]
          linarith
        · rw [Int.cast_natCast]
          linarith
        · intro _
          rw [Int.even_coe_nat]
          exact heven
      have hup : half_up ((k : ℚ) + 1 / 2) = k + 1 := by
        apply half_up_eq <;> push_cast <;> linarith
      rw [hdown, Int.cast_natCast, half_up_natCast, hup] at heq
      omega
  · intro hnot
    have hsame : half_even q = half_up q := by
      apply half_even_unique
      · rw [Int.cast_natCast]
        linarith
      · rw [Int.cast_natCast]
        exact hlow
      · rw [Int.cast_natCast, Int.even_coe_nat]
        intro htie
        by_contra hodd
        -- a half above an even number is what the context takes down
        obtain ⟨k, hk⟩ : ∃ k, half_up q = k + 1 := by
          cases hzero : half_up q with
          | zero => exact absurd hodd (by rw [hzero]; decide)
          | succ k => exact ⟨k, rfl⟩
        rw [hk] at htie hodd hhigh
        push_cast at htie hhigh
        refine hnot (.inr ⟨h, k, ?_, ?_⟩)
        · rw [Nat.even_add_one, not_not] at hodd
          exact hodd
        · rcases htie with heq | heq <;> linarith
    rw [hsame, Int.cast_natCast, half_up_natCast]

/-- **Rounding twice** is rounding once unless the number crosses a half on the way. -/
theorem half_up_rounded_iff (hq : 0 ≤ q) (h : ctx.unit q ≤ 1) :
    half_up (ctx.rounded q) = half_up q ↔ ¬ ctx.CrossesHalf q := by
  rcases h.lt_or_eq with hlt | heq
  · exact twice_behind_point hq hlt
  · exact twice_at_point hq heq

end

end TradeLogistics.PyDecimal
