/-
Percentages of money.

`percentage` multiplies and divides in the context of the thread and then enters the
constructor, so a value is rounded three times: the product to 28 digits, the hundredth of
it to 28 digits, and that to cents. The second changes nothing that the third can see, so a
percentage is a count of cents rounded twice: `half_up` of the product in the digits of the
context (`percentage_ok`).

Rounding twice keeps every order that rounding once keeps, and it is not rounding once. What
is nearer to half a cent than the context can tell is paid as a whole one.
-/
import TradeLogistics.DecimalProducts
import TradeLogistics.MoneyLaws

set_option autoImplicit false

namespace TradeLogistics.Customs

open TradeLogistics.PyText TradeLogistics.PyNumber TradeLogistics.PyDecimal

/-! ## 1. `percentage` -/

/-- What a caller may pass as a percentage. -/
inductive Percent where
  | decimal (d : Decimal)
  | int (n : ℤ)
  | float (x : PyFloat)

/-- As an amount it would be written alike. -/
def Percent.amount : Percent → Amount
  | .decimal d => .decimal d
  | .int n => .value (.int n)
  | .float x => .value (.float x)

/-- `Decimal("100")`. -/
def ONE_HUNDRED : Finite := ⟨false, 100, 0⟩

theorem one_hundred_ne_zero : ONE_HUNDRED.coefficient ≠ 0 := by decide

section

variable (str_float : PyFloat → String)

/-- `str(percent)`, where it has a text. -/
def Percent.text (percent : Percent) : Option String := percent.amount.text str_float

/-- The number it stands for: of a float, the number that its text says. -/
def Percent.number (percent : Percent) : Option ℚ := percent.amount.number str_float

/-- `Decimal(str(percent))`. -/
def Percent.to_decimal (percent : Percent) : Except MoneyError Decimal :=
  match percent.text str_float with
  | none => .error (.ValueError STR_DIGITS_EXCEEDED)
  | some text =>
    match read text with
    | none => .error .InvalidOperation
    | some d => .ok d

def Money.percentage (self : Money) (percent : Percent) : Except MoneyError Money := do
  let rate ← percent.to_decimal str_float
  let product ← ((Decimal.finite self.amount).multiply DefaultContext rate).mapError signal_error
  let amount ← (product.divide DefaultContext ONE_HUNDRED one_hundred_ne_zero).mapError signal_error
  Money.new str_float (.decimal amount) (.str self.currency)

end

namespace Money

section

variable {str_float : PyFloat → String}

theorem to_decimal_of_text {percent : Percent} {text : String} {q : ℚ}
    (htext : percent.text str_float = some text) (hnumber : percent.number str_float = some q) :
    ∃ x, percent.to_decimal str_float = .ok (.finite x) ∧ x.value = q := by
  unfold Percent.number at hnumber
  rw [number_of_text str_float htext, finiteValue_iff] at hnumber
  obtain ⟨x, hread, hvalue⟩ := hnumber
  refine ⟨x, ?_, hvalue⟩
  unfold Percent.to_decimal
  rw [htext]
  dsimp only
  rw [hread]

/-- A decimal that the interpreter holds stands for itself. -/
theorem number_decimal {x : Finite} (h : Bounded x.coefficient x.exponent) :
    (Percent.decimal (.finite x)).number str_float = some x.value :=
  if_pos (show (Decimal.finite x).Representable from h)

/-- A number of few digits before the point has a text. -/
theorem text_of_number {percent : Percent} {q : ℚ} (hnumber : percent.number str_float = some q)
    (hnonneg : 0 ≤ q) (hle : q ≤ 100) : ∃ text, percent.text str_float = some text := by
  cases percent with
  | decimal d => exact ⟨d.str, rfl⟩
  | int n =>
      have hvalue : (n : ℚ) = q := Option.some.inj hnumber
      rw [← hvalue] at hnonneg hle
      have hlow : 0 ≤ n := by exact_mod_cast hnonneg
      have hhigh : n ≤ 100 := by exact_mod_cast hle
      exact ⟨toString n, str_of_int_of_lt (k := 3) (by decide) (by omega)⟩
  | float x => exact ⟨str_float x, rfl⟩

/-- The three steps on a finite number. -/
theorem percentage_eq (m : Money) {percent : Percent} {x : Finite}
    (h : percent.to_decimal str_float = .ok (.finite x)) :
    m.percentage str_float percent =
      ((m.amount.multiply DefaultContext x).mapError signal_error).bind fun product =>
        ((product.divide DefaultContext ONE_HUNDRED one_hundred_ne_zero).mapError
            signal_error).bind fun amount =>
          new str_float (.decimal (.finite amount)) (.str m.currency) := by
  unfold percentage
  rw [h]
  show (((m.amount.multiply DefaultContext x).map Decimal.finite).mapError signal_error).bind _ = _
  cases m.amount.multiply DefaultContext x with
  | error e => rfl
  | ok product =>
      show (((product.divide DefaultContext ONE_HUNDRED one_hundred_ne_zero).map
        Decimal.finite).mapError signal_error).bind _ = _
      rw [signal_bind]
      cases product.divide DefaultContext ONE_HUNDRED one_hundred_ne_zero <;> rfl

end

/-! ## 2. Rounded twice

The hundredth of a product has the digits of the product, two places further down. These are
all there unless the product is so small that nothing of it is left in cents. -/

theorem default_range : DefaultContext.Etiny ≤ DefaultContext.Emax := by decide

theorem one_hundred_magnitude : ONE_HUNDRED.magnitude = 100 := by
  unfold Finite.magnitude ONE_HUNDRED
  norm_num

theorem half_up_small {q : ℚ} (h : q ≤ 1 / 10) : half_up q = 0 :=
  Nat.floor_eq_zero.mpr (by linarith)

/-- What the context holds is divided by one hundred exactly, as far as cents can tell. -/
theorem hundredth_in_cents {y : Finite} (h : InRange DefaultContext y) :
    in_cents (DefaultContext.rounded (y.magnitude / 100)) = half_up y.magnitude := by
  have hprec : DefaultContext.prec = 28 := rfl
  have htiny : DefaultContext.Etiny = -1000026 := by decide
  have hnonneg := magnitude_nonneg y
  by_cases hsmall : y.magnitude ≤ 1 / 10
  · have hthousandth : (10 : ℚ) ^ (-3 : ℤ) = 1 / 1000 := by norm_num
    have hle : DefaultContext.rounded (y.magnitude / 100) ≤ 1 / 1000 := by
      rw [← hthousandth, ← @rounded_power DefaultContext (-3) (by omega)]
      exact rounded_mono (by positivity) (by rw [hthousandth]; linarith)
    rw [half_up_small hsmall, in_cents]
    exact half_up_small (by linarith)
  · have hne : y.coefficient ≠ 0 := by
      intro hzero
      rw [magnitude_of_zero hzero] at hsmall
      norm_num at hsmall
    have hleading : -1 < y.adjusted + 1 := by
      have hlt := (not_le.mp hsmall).trans (magnitude_bounds hne).2
      have htenth : (1 : ℚ) / 10 = 10 ^ (-1 : ℤ) := by norm_num
      rw [htenth] at hlt
      exact (zpow_lt_zpow_iff_right₀ (by norm_num)).mp hlt
    have hadjusted : y.adjusted = y.exponent + numdigits y.coefficient - 1 := rfl
    have hdigits := h.digits
    have hhigh := h.high
    have hhundredth : y.magnitude / 100
        = Finite.magnitude ⟨y.negative, y.coefficient, y.exponent - 2⟩ := by
      unfold Finite.magnitude
      dsimp only
      rw [zpow_sub₀ (by norm_num)]
      norm_num
      ring
    have hrange : InRange DefaultContext ⟨y.negative, y.coefficient, y.exponent - 2⟩ :=
      ⟨hdigits, show _ ≤ y.exponent - 2 by omega, show y.exponent - 2 ≤ _ by omega⟩
    rw [hhundredth, rounded_in_range hrange, ← hhundredth, in_cents,
      div_mul_cancel₀ _ (by norm_num)]

/-- What the context holds the interpreter holds. -/
theorem bounded_in_range {y : Finite} (h : InRange DefaultContext y) :
    Bounded y.coefficient y.exponent := by
  have hdigits := h.digits
  have hlow := h.low
  have hhigh := h.high
  have hprec : DefaultContext.prec = 28 := rfl
  have htiny : DefaultContext.Etiny = -1000026 := by decide
  have hemax : DefaultContext.Emax = 999999 := rfl
  unfold Bounded MAX_PREC MIN_ETINY MAX_EMAX
  omega

section

variable {str_float : PyFloat → String} {m : Money} {percent : Percent}

/-- The sign of a product of numbers from zero on is a plus, or there is nothing under it. -/
theorem product_sign {x : Finite} (hx : 0 ≤ x.value)
    (hsign : (m.amount.negative != x.negative) = true) : m.amount.value * x.value = 0 := by
  cases hleft : m.amount.negative with
  | true =>
      rw [value_of_zero (value_nonneg_iff.mp m.amount_nonneg hleft), zero_mul]
  | false =>
      rw [hleft] at hsign
      have hright : x.negative = true := by simpa using hsign
      rw [value_of_zero (value_nonneg_iff.mp hx hright), mul_zero]

/-- **What enters the constructor** is the product in the digits of the context, to the cent. -/
theorem percentage_cases {x : Finite} (h : percent.to_decimal str_float = .ok (.finite x))
    (hx : 0 ≤ x.value) :
    (∃ y : Finite, Bounded y.coefficient y.exponent ∧ 0 ≤ y.value
      ∧ in_cents y.value = half_up (DefaultContext.rounded (m.amount.value * x.value))
      ∧ m.percentage str_float percent =
          new str_float (.decimal (.finite y)) (.str m.currency))
    ∨ m.percentage str_float percent = .error .Overflow
      ∧ (10 : ℚ) ^ DefaultContext.Emax ≤ DefaultContext.rounded (m.amount.value * x.value) := by
  have hproduct := multiply_rounded default_range m.amount x
  rw [magnitude_of_nonneg m.amount_nonneg, magnitude_of_nonneg hx] at hproduct
  rw [percentage_eq m h]
  rcases hproduct with ⟨product, hok, hrounds⟩ | ⟨hover, hlarge⟩
  · rw [hok, signal_bind, ← hrounds.magnitude]
    have hquotient := divide_rounded default_range product one_hundred_ne_zero
    rw [one_hundred_magnitude] at hquotient
    rcases hquotient with ⟨y, hok', hrounds'⟩ | ⟨hover, hlarge⟩
    · rw [hok', signal_bind]
      have hvalue : y.value = y.magnitude := by
        rw [value_eq_magnitude]
        split
        · next hsign =>
            -- only zero comes out under a minus
            have hnothing : product.magnitude = 0 := by
              rw [hrounds.magnitude, product_sign hx]
              · exact SignificantDigits.rounded_zero
              · have hsame : y.negative = product.negative := by
                  rw [hrounds'.sign]
                  exact Bool.xor_false _
                rw [← hrounds.sign, ← hsame, hsign]
            have hzero : y.magnitude = 0 := by
              rw [hrounds'.magnitude, hnothing, zero_div]
              exact SignificantDigits.rounded_zero
            rw [hzero, neg_zero]
        · rfl
      refine .inl ⟨y, bounded_in_range hrounds'.in_range, ?_, ?_, rfl⟩
      · rw [hvalue]
        exact magnitude_nonneg y
      · rw [hvalue, hrounds'.magnitude, hundredth_in_cents hrounds.in_range]
    · rw [hover]
      refine .inr ⟨rfl, ?_⟩
      have := magnitude_nonneg product
      linarith
  · rw [hover]
    refine .inr ⟨rfl, ?_⟩
    rw [← @rounded_power DefaultContext _ default_range]
    exact rounded_mono (zpow_nonneg (by norm_num) _) hlarge

/-- **A percentage that is returned**, in cents. -/
theorem percentage_ok {q : ℚ} {r : Money} (hnumber : percent.number str_float = some q)
    (hnonneg : 0 ≤ q) (h : m.percentage str_float percent = .ok r) :
    r.cents = half_up (DefaultContext.rounded (m.amount.value * q)) ∧ r.currency = m.currency := by
  cases htext : percent.text str_float with
  | none =>
      have hdecimal : percent.to_decimal str_float = .error (.ValueError STR_DIGITS_EXCEEDED) := by
        unfold Percent.to_decimal
        rw [htext]
      unfold percentage at h
      rw [hdecimal] at h
      cases h
  | some text =>
      obtain ⟨x, hdecimal, rfl⟩ := to_decimal_of_text htext hnumber
      rcases percentage_cases (m := m) hdecimal hnonneg with
        ⟨y, hbounded, hy, hcents, heq⟩ | ⟨hover, -⟩
      · rw [heq, new_ok_iff, validated_currency_again m.valid_currency,
          validated_decimal hbounded hy] at h
        obtain ⟨hcurrency, hamount⟩ := h
        split at hamount
        · rw [Except.ok.injEq] at hamount hcurrency
          refine ⟨?_, hcurrency.symm⟩
          rw [← hcents, cents, ← hamount]
        · cases hamount
      · rw [hover] at h
        cases h

/-- **When it is returned**: as long as the context carries the cents. -/
theorem percentage_returns {q : ℚ} {text : String} (htext : percent.text str_float = some text)
    (hnumber : percent.number str_float = some q) (hnonneg : 0 ≤ q)
    (hfits : half_up (DefaultContext.rounded (m.amount.value * q)) < 10 ^ DefaultContext.prec) :
    ∃ r, m.percentage str_float percent = .ok r := by
  obtain ⟨x, hdecimal, rfl⟩ := to_decimal_of_text htext hnumber
  rcases percentage_cases (m := m) hdecimal hnonneg with
    ⟨y, hbounded, hy, hcents, heq⟩ | ⟨-, hlarge⟩
  · have hamount := @validated_decimal str_float y hbounded hy
    rw [hcents, if_pos hfits] at hamount
    obtain ⟨r, hr, -, -⟩ := new_accepted (validated_currency_again m.valid_currency) hamount
    exact ⟨r, heq.trans hr⟩
  · have hmany : 10 ^ DefaultContext.prec
        ≤ half_up (DefaultContext.rounded (m.amount.value * x.value)) := by
      apply le_half_up
      rw [Nat.cast_pow, Nat.cast_ofNat, ← zpow_natCast]
      exact (zpow_le_zpow_right₀ (by norm_num) (by decide)).trans hlarge
    omega

end

/-! ## 3. Rounded once

The hundredth part of an amount times a percentage is, in cents, the product itself. -/

theorem in_cents_hundredth (q : ℚ) : in_cents (q / 100) = half_up q := by
  rw [in_cents, div_mul_cancel₀ _ (by norm_num)]

/-- A count of cents that the context carries has no unit above one. -/
theorem unit_le_one {q : ℚ}
    (h : half_up (DefaultContext.rounded q) < 10 ^ DefaultContext.prec) :
    DefaultContext.unit q ≤ 1 := by
  have hprec : DefaultContext.prec = 28 := rfl
  have htiny : DefaultContext.Etiny = -1000026 := by decide
  have hunit : DefaultContext.unit q
      = (10 : ℚ) ^ max (Int.log 10 q - (DefaultContext.prec - 1)) DefaultContext.Etiny := by
    rw [← Nat.cast_ofNat]
    rfl
  by_contra hlarge
  rw [not_le, hunit, ← zpow_zero (10 : ℚ), zpow_lt_zpow_iff_right₀ (by norm_num)] at hlarge
  have hlog : 28 ≤ Int.log 10 q := by omega
  have hpos : 0 < q := by
    by_contra hneg
    rw [Int.log_of_right_le_zero _ (not_lt.mp hneg)] at hlog
    omega
  have hmany : (10 : ℚ) ^ (28 : ℤ) ≤ q := by
    have hle := (Int.zpow_le_iff_le_log (by decide : 1 < 10) hpos).mpr hlog
    rwa [Nat.cast_ofNat] at hle
  have hrounded : ((10 ^ DefaultContext.prec : ℕ) : ℚ) ≤ DefaultContext.rounded q := by
    rw [Nat.cast_pow, Nat.cast_ofNat, hprec, ← zpow_natCast,
      ← @rounded_power DefaultContext ((28 : ℕ) : ℤ) (by decide)]
    exact rounded_mono (zpow_nonneg (by norm_num) _) hmany
  exact absurd (le_half_up hrounded) (not_le.mpr h)

section

variable {str_float : PyFloat → String} {m r : Money} {percent : Percent} {q : ℚ}

/-- **A percentage is rounded once**, half of a cent upwards, exactly when the 28 digits
that the product is kept in do not carry it over half a cent. -/
theorem percentage_rounded_once_iff (hnumber : percent.number str_float = some q)
    (hnonneg : 0 ≤ q) (h : m.percentage str_float percent = .ok r) :
    (r.amount.value = (in_cents (m.amount.value * q / 100) : ℚ) / 100
        ∧ r.currency = m.currency)
      ↔ ¬ DefaultContext.CrossesHalf (m.amount.value * q) := by
  obtain ⟨hcents, hcurrency⟩ := percentage_ok hnumber hnonneg h
  have hfits := r.cents_lt
  rw [hcents] at hfits
  rw [← half_up_rounded_iff (mul_nonneg m.amount_nonneg hnonneg) (unit_le_one hfits), ← hcents,
    in_cents_hundredth, value_eq, div_left_inj' (by norm_num), Nat.cast_inj]
  exact and_iff_left hcurrency

end

/-- 9999999999.99 in francs. -/
def nearly_ten_billion : Money where
  amount := ⟨false, 999999999999, -2⟩
  currency := "CHF"
  in_minor_units := ⟨rfl, by decide, nofun⟩
  valid_currency := ⟨by decide +kernel, by decide +kernel, by decide, by decide +kernel⟩

/-- What has a result has it from a value. -/
theorem ok_of_map {α β : Type} {result : Except MoneyError α} {f : α → β} {b : β}
    (h : result.map f = .ok b) : ∃ a, result = .ok a ∧ f a = b := by
  cases result with
  | error e => cases h
  | ok a => exact ⟨a, rfl, Except.ok.inj h⟩

/-- A tenth of it. -/
theorem percentage_rounded_once_tenth :
    ∃ r, nearly_ten_billion.percentage (fun _ => "") (.decimal (.finite ⟨false, 10, 0⟩)) = .ok r
      ∧ ((r.amount.value = (in_cents (nearly_ten_billion.amount.value
              * Finite.value ⟨false, 10, 0⟩ / 100) : ℚ) / 100
            ∧ r.currency = nearly_ten_billion.currency)
          ↔ ¬ DefaultContext.CrossesHalf
            (nearly_ten_billion.amount.value * Finite.value ⟨false, 10, 0⟩)) := by
  have hresult : (nearly_ten_billion.percentage (fun _ => "")
      (.decimal (.finite ⟨false, 10, 0⟩))).map (·.cents) = .ok 100000000000 := by decide +kernel
  obtain ⟨r, hok, -⟩ := ok_of_map hresult
  exact ⟨r, hok, percentage_rounded_once_iff (number_decimal (by decide))
    (value_nonneg_iff.mpr nofun) hok⟩

/-- 50.001000000000001 percent of it are less than half a cent above 5000099999.99, and
5000100000.00 come out. -/
theorem percentage_rounded_twice : ¬ ∀ (str_float : PyFloat → String) (m r : Money)
    (percent : Percent) (q : ℚ), (∀ x, percent ≠ .float x) → percent.number str_float = some q →
      0 ≤ q → m.percentage str_float percent = .ok r →
        r.amount.value = (in_cents (m.amount.value * q / 100) : ℚ) / 100
          ∧ r.currency = m.currency := by
  intro hclaim
  let percent : Percent := .decimal (.finite ⟨false, 50001000000000001, -15⟩)
  have hresult : (nearly_ten_billion.percentage (fun _ => "") percent).map (·.cents)
      = .ok 500010000000 := by decide +kernel
  obtain ⟨r, hok, hcents⟩ := ok_of_map hresult
  have hdecimal : ∀ x, percent ≠ .float x := fun _ hx => Percent.noConfusion hx
  obtain ⟨hvalue, -⟩ := hclaim (fun _ => "") _ r percent _ hdecimal
    (number_decimal (by decide)) (value_nonneg_iff.mpr nofun) hok
  have hproduct : nearly_ten_billion.amount.value * Finite.value ⟨false, 50001000000000001, -15⟩
      = 999999999999 * 50001000000000001 / 10 ^ 17 := by
    unfold Finite.value nearly_ten_billion
    norm_num
  have hexact : in_cents (nearly_ten_billion.amount.value
      * Finite.value ⟨false, 50001000000000001, -15⟩ / 100) = 500009999999 := by
    rw [in_cents_hundredth, hproduct]
    apply half_up_eq <;> norm_num
  rw [hexact, value_eq, hcents] at hvalue
  norm_num at hvalue

/-! ## 4. Percentages keep the order

Each of the three roundings keeps it, so more of a larger amount is never less, and what is
computed on an amount does not overtake it. -/

section

variable {str_float : PyFloat → String}

/-- More of a larger amount is not less. -/
theorem percentage_covers {a b ra rb : Money} {percent percent' : Percent} {p q : ℚ}
    (hcovers : b.covers a = .ok true) (hp : percent.number str_float = some p)
    (hq : percent'.number str_float = some q) (hnonneg : 0 ≤ p) (hle : p ≤ q)
    (ha : a.percentage str_float percent = .ok ra)
    (hb : b.percentage str_float percent' = .ok rb) : rb.covers ra = .ok true := by
  have hcurrency : b.currency = a.currency := by
    by_contra hmixed
    rw [(@mixed_refused str_float b a hmixed).2.2] at hcovers
    cases hcovers
  obtain ⟨hcents, hcurrencyA⟩ := percentage_ok hp hnonneg ha
  obtain ⟨hcents', hcurrencyB⟩ := percentage_ok hq (hnonneg.trans hle) hb
  rw [covers_iff hcurrency] at hcovers
  rw [covers_iff (hcurrencyB.trans (hcurrency.trans hcurrencyA.symm)), hcents, hcents']
  apply half_up_mono
  apply rounded_mono (mul_nonneg a.amount_nonneg hnonneg)
  refine mul_le_mul ?_ hle hnonneg b.amount_nonneg
  rw [value_eq, value_eq]
  exact div_le_div_of_nonneg_right (by exact_mod_cast hcovers) (by norm_num)

/-- All of an amount is the amount. -/
theorem rounded_whole (m : Money) :
    half_up (DefaultContext.rounded (m.amount.value * 100)) = m.cents := by
  have hrange : InRange DefaultContext ⟨false, m.cents, 0⟩ :=
    ⟨(numdigits_le_iff DefaultContext.prec_pos).mpr m.cents_lt,
      show DefaultContext.Etiny ≤ 0 by decide, show 0 ≤ DefaultContext.Emax by decide⟩
  have hcount : (m.cents : ℚ) = Finite.magnitude ⟨false, m.cents, 0⟩ := by
    unfold Finite.magnitude
    rw [zpow_zero, mul_one]
  rw [← cents_eq, hcount, rounded_in_range hrange, ← hcount, half_up_natCast]

/-- A percentage up to one hundred is always returned. -/
theorem percentage_within {percent : Percent} {q : ℚ} (m : Money)
    (hnumber : percent.number str_float = some q) (hnonneg : 0 ≤ q) (hle : q ≤ 100) :
    ∃ r, m.percentage str_float percent = .ok r ∧ r.currency = m.currency
      ∧ r.cents = half_up (DefaultContext.rounded (m.amount.value * q)) ∧ r.cents ≤ m.cents := by
  have hbound : half_up (DefaultContext.rounded (m.amount.value * q)) ≤ m.cents := by
    rw [← rounded_whole m]
    apply half_up_mono
    apply rounded_mono (mul_nonneg m.amount_nonneg hnonneg)
    exact mul_le_mul_of_nonneg_left hle m.amount_nonneg
  obtain ⟨text, htext⟩ := text_of_number hnumber hnonneg hle
  obtain ⟨r, hr⟩ := percentage_returns htext hnumber hnonneg (hbound.trans_lt m.cents_lt)
  obtain ⟨hcents, hcurrency⟩ := percentage_ok hnumber hnonneg hr
  exact ⟨r, hr, hcurrency, hcents, hcents.trans_le hbound⟩

variable (str_float)

/-- **A duty never overtakes what it is computed on.** -/
theorem duty_never_overtakes :
    (∀ (a b ra rb : Money) (percent percent' : Percent) (p q : ℚ),
      b.covers a = .ok true → percent.number str_float = some p →
      percent'.number str_float = some q → 0 ≤ p → p ≤ q →
      a.percentage str_float percent = .ok ra → b.percentage str_float percent' = .ok rb →
        rb.covers ra = .ok true)
    ∧ (∀ (a : Money) (percent : Percent), percent.number str_float = some 100 →
      ∃ r, a.percentage str_float percent = .ok r ∧ r.eq a = true)
    ∧ (∀ (a : Money) (percent : Percent), percent.number str_float = some 0 →
      ∃ r nothing, a.percentage str_float percent = .ok r
        ∧ zero str_float (.str a.currency) = .ok nothing ∧ r.eq nothing = true)
    ∧ ∀ (a : Money) (percent : Percent) (p : ℚ), percent.number str_float = some p →
      0 ≤ p → p ≤ 100 →
        ∃ r, a.percentage str_float percent = .ok r ∧ a.covers r = .ok true := by
  refine ⟨?_, ?_, ?_, ?_⟩
  · intro a b ra rb percent percent' p q hcovers hp hq hnonneg hle ha hb
    exact percentage_covers hcovers hp hq hnonneg hle ha hb
  · intro a percent hnumber
    obtain ⟨r, hr, hcurrency, hcents, -⟩ :=
      percentage_within a hnumber (by norm_num) le_rfl
    rw [rounded_whole] at hcents
    exact ⟨r, hr, eq_iff.mpr ⟨hcents, hcurrency⟩⟩
  · intro a percent hnumber
    obtain ⟨r, hr, hcurrency, hcents, -⟩ :=
      percentage_within a hnumber le_rfl (by norm_num)
    obtain ⟨nothing, hnothing, hzero, hcurrency'⟩ := zero_ok str_float a
    have hrounded : DefaultContext.rounded 0 = 0 := SignificantDigits.rounded_zero
    rw [mul_zero, hrounded, ← Nat.cast_zero, half_up_natCast] at hcents
    exact ⟨r, nothing, hr, hnothing,
      eq_iff.mpr ⟨hcents.trans hzero.symm, hcurrency.trans hcurrency'.symm⟩⟩
  · intro a percent p hnumber hnonneg hle
    obtain ⟨r, hr, hcurrency, -, hbound⟩ := percentage_within a hnumber hnonneg hle
    exact ⟨r, hr, (covers_iff hcurrency.symm).mpr hbound⟩

end

end Money

end TradeLogistics.Customs
