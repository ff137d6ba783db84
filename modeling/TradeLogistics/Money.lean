/-
Money: an amount in cents and a currency.

What is held is a decimal, but a decimal of two places, so it is a count of cents, and
every operation is one on counts: as long as the context can carry the result, the sum is
the sum of the counts, the difference is theirs, and one amount covers another when its
count is not less. The rounding of the constructor, which every operation enters again,
then changes nothing. A sum that the context cannot carry is no count of cents, and the
rounding refuses it.
-/
import TradeLogistics.PyDecimal

set_option autoImplicit false

namespace TradeLogistics.Customs

open TradeLogistics.PyText TradeLogistics.PyNumber TradeLogistics.PyDecimal

/-! ## 1. Errors and values -/

/-- What the operations on money raise: two errors of the domain, and what may come from
below. -/
inductive MoneyError where
  | InvalidMoneyError (detail : String)
  | CurrencyMismatchError (detail : String)
  | InvalidOperation
  | Overflow
  | ValueError (detail : String)
  deriving DecidableEq, Repr

/-- The errors that the domain declares. -/
def MoneyError.declared : MoneyError → Bool
  | .InvalidMoneyError _ | .CurrencyMismatchError _ => true
  | _ => false

/-- A signal of the decimal context, as the exception it is. -/
def signal_error : Signal → MoneyError
  | .InvalidOperation => .InvalidOperation
  | .Overflow => .Overflow

/-- What a caller may pass as an amount. -/
inductive Amount where
  | decimal (d : Decimal)
  | value (v : Value)

/-- Money is stored and compared to the minor unit (cents). -/
def MINOR_UNIT : Finite := ⟨false, 1, -2⟩

/-- ISO 4217 alphabetic codes are exactly three letters. -/
def CURRENCY_CODE_LENGTH : ℕ := 3

/-! ## 2. Validation -/

def _validated_currency (value : Value) : Except MoneyError String :=
  match value with
  | .str value =>
    let code := upper (strip value)
    if code.length ≠ CURRENCY_CODE_LENGTH ∨ ¬ isalpha code then
      .error (.InvalidMoneyError (s!"'{value}' is not a valid ISO 4217 currency code; expected "
        ++ "three letters such as 'EUR'."))
    else .ok code
  | _ => .error (.InvalidMoneyError "The currency must be a string.")

/-- From the text of the amount on. -/
def _rounded_amount (text : String) : Except MoneyError Finite :=
  match read text with
  | none => .error (.InvalidMoneyError s!"'{text}' is not a valid amount.")
  | some (.finite amount) =>
    if amount.lt ⟨false, 0, 0⟩ then
      .error (.InvalidMoneyError "The amount cannot be negative.")
    else (amount.quantize DefaultContext MINOR_UNIT.exponent .HALF_UP).mapError signal_error
  | some _ => .error (.InvalidMoneyError "The amount must be a finite number.")

section

-- the text of a float, on which no result depends
variable (str_float : PyFloat → String)

def _validated_amount (value : Amount) : Except MoneyError Finite :=
  match value with
  | .decimal d => _rounded_amount d.str
  | .value (.int n) =>
    match str_of_int n with
    | some text => _rounded_amount text
    -- `str` raises under the guard, and once more where the message quotes the value
    | none => .error (.ValueError STR_DIGITS_EXCEEDED)
  | .value (.float x) => _rounded_amount (str_float x)
  | .value (.str s) => _rounded_amount s
  | .value _ => .error (.InvalidMoneyError "The amount must be a number.")

end

/-! ## 3. Currencies -/

/-- A currency code as `_validated_currency` leaves it. -/
structure ValidCurrency (code : String) : Prop where
  stripped : strip code = code
  upper_case : upper code = code
  length : code.length = CURRENCY_CODE_LENGTH
  letters : isalpha code = true

theorem validated_currency_ok {value : Value} {code : String}
    (h : _validated_currency value = .ok code) : ValidCurrency code := by
  unfold _validated_currency at h
  split at h
  · next text =>
      dsimp only at h
      split at h
      · cases h
      · next hvalid =>
          rw [not_or, not_not, not_not] at hvalid
          rw [Except.ok.injEq] at h
          subst h
          exact ⟨strip_upper text, upper_upper _, hvalid.1, hvalid.2⟩
  · cases h

/-- A code that passed once passes again, as it is. -/
theorem validated_currency_again {code : String} (h : ValidCurrency code) :
    _validated_currency (.str code) = .ok code := by
  unfold _validated_currency
  dsimp only
  rw [h.stripped, h.upper_case, if_neg]
  rintro (hlength | hletters)
  · exact hlength h.length
  · exact hletters h.letters

/-- The code that a currency is held as. -/
def normalized : Value → Option String
  | .str text => some (upper (strip text))
  | _ => none

theorem validated_currency_normalized {currency : Value} {code : String}
    (h : _validated_currency currency = .ok code) : normalized currency = some code := by
  unfold _validated_currency at h
  split at h
  · dsimp only at h
    split at h
    · cases h
    · rw [Except.ok.injEq] at h
      rw [normalized, h]
  · cases h

/-- A text of three letters, once blanks and case are gone. -/
def AcceptedCurrency (currency : Value) : Prop :=
  ∃ text, currency = .str text ∧ (upper (strip text)).length = CURRENCY_CODE_LENGTH
    ∧ isalpha (upper (strip text)) = true

theorem validated_currency_str (text : String) : _validated_currency (.str text) =
    if (upper (strip text)).length ≠ CURRENCY_CODE_LENGTH ∨ ¬ isalpha (upper (strip text)) then
      .error (.InvalidMoneyError (s!"'{text}' is not a valid ISO 4217 currency code; expected "
        ++ "three letters such as 'EUR'."))
    else .ok (upper (strip text)) := rfl

theorem validated_currency_cases (currency : Value) :
    (AcceptedCurrency currency ∧ ∃ code, _validated_currency currency = .ok code)
    ∨ (¬ AcceptedCurrency currency
      ∧ ∃ detail, _validated_currency currency = .error (.InvalidMoneyError detail)) := by
  cases currency with
  | str text =>
      by_cases h : (upper (strip text)).length ≠ CURRENCY_CODE_LENGTH
          ∨ ¬ isalpha (upper (strip text)) = true
      · rw [validated_currency_str, if_pos h]
        refine .inr ⟨?_, _, rfl⟩
        rintro ⟨text', htext, hlength, hletters⟩
        cases htext
        rcases h with h | h
        · exact h hlength
        · exact h hletters
      · have haccepted := h
        rw [not_or, not_not, not_not] at haccepted
        rw [validated_currency_str, if_neg h]
        exact .inl ⟨⟨text, rfl, haccepted⟩, _, rfl⟩
  | none | bool b | int n | float x | uuid u | other =>
      refine .inr ⟨?_, "The currency must be a string.", rfl⟩
      rintro ⟨text, htext, -⟩
      cases htext

/-! ## 4. Amounts

An amount comes in as a text, whatever it was. What the text says is a number, and a number
from zero on is rounded to cents, as many as the context carries. -/

/-- A count of cents, of which the context carries the digits, and none below zero. -/
structure InMinorUnits (amount : Finite) : Prop where
  exponent : amount.exponent = MINOR_UNIT.exponent
  fits : amount.coefficient < 10 ^ DefaultContext.prec
  not_negative : amount.negative = true → amount.coefficient = 0

/-- An amount in cents, half of one up. -/
def in_cents (q : ℚ) : ℕ := half_up (q * 100)

theorem in_cents_zero : in_cents 0 = 0 := by
  rw [in_cents, zero_mul, ← Nat.cast_zero, half_up_natCast]

theorem minor_unit_range : DefaultContext.Etiny ≤ MINOR_UNIT.exponent
    ∧ MINOR_UNIT.exponent + DefaultContext.prec < DefaultContext.Emax := by decide

/-- A number is from zero on unless its sign and its digits say otherwise. -/
theorem value_nonneg_iff {x : Finite} :
    0 ≤ x.value ↔ (x.negative = true → x.coefficient = 0) := by
  have hpow : (0 : ℚ) < 10 ^ x.exponent := zpow_pos (by norm_num) _
  have hcoefficient : (0 : ℚ) ≤ x.coefficient := Nat.cast_nonneg _
  unfold Finite.value
  cases hsign : x.negative with
  | false =>
      simp only [Bool.false_eq_true, if_false, false_imp_iff, iff_true, one_mul]
      exact mul_nonneg hcoefficient hpow.le
  | true =>
      simp only [if_true, true_imp_iff, neg_one_mul]
      constructor
      · intro h
        have hle : (x.coefficient : ℚ) ≤ 0 := by
          by_contra hpos
          have := mul_pos (not_le.mp hpos) hpow
          linarith
        exact_mod_cast le_antisymm hle hcoefficient
      · intro h
        rw [h, Nat.cast_zero, neg_zero, zero_mul]

theorem value_of_zero {x : Finite} (h : x.coefficient = 0) : x.value = 0 := by
  unfold Finite.value
  rw [h, Nat.cast_zero, mul_zero, zero_mul]

theorem lt_zero_iff {x : Finite} : x.lt ⟨false, 0, 0⟩ = true ↔ x.value < 0 := by
  rw [lt_iff, value_of_zero (x := ⟨false, 0, 0⟩) rfl]

/-- The coefficient in cents is the value in cents. -/
theorem units_eq {x : Finite} (h : 0 ≤ x.value) :
    x.coefficient * (10 : ℚ) ^ (x.exponent - MINOR_UNIT.exponent) = x.value * 100 := by
  have hscale : (10 : ℚ) ^ (x.exponent - MINOR_UNIT.exponent) = 10 ^ x.exponent * 100 := by
    rw [show x.exponent - MINOR_UNIT.exponent = x.exponent + 2 from rfl,
      zpow_add₀ (by norm_num)]
    norm_num
  have hvalue : x.value = x.coefficient * 10 ^ x.exponent := by
    have hnonneg := value_nonneg_iff.mp h
    unfold Finite.value
    cases hsign : x.negative with
    | false => simp
    | true => simp [hnonneg hsign]
  rw [hscale, hvalue, mul_assoc]

/-- **The rounding of a number from zero on**: to cents, where the context carries them. -/
theorem rounded_amount_eq {text : String} {x : Finite} (hread : read text = some (.finite x))
    (hnonneg : 0 ≤ x.value) :
    _rounded_amount text = if in_cents x.value < 10 ^ DefaultContext.prec then
        .ok ⟨x.negative, in_cents x.value, MINOR_UNIT.exponent⟩
      else .error .InvalidOperation := by
  unfold _rounded_amount
  rw [hread]
  dsimp only
  rw [if_neg (mt lt_zero_iff.mp (not_lt_of_ge hnonneg)),
    quantize_half_up DefaultContext x minor_unit_range.1 (by have := minor_unit_range.2; omega),
    units_eq hnonneg]
  unfold in_cents
  split <;> rfl

theorem rounded_amount_negative {text : String} {x : Finite}
    (hread : read text = some (.finite x)) (hnegative : x.value < 0) :
    _rounded_amount text = .error (.InvalidMoneyError "The amount cannot be negative.") := by
  unfold _rounded_amount
  rw [hread]
  exact if_pos (lt_zero_iff.mpr hnegative)

/-- **What the rounding does**, by what the text says. -/
theorem rounded_amount_cases (text : String) :
    (∃ x, read text = some (.finite x) ∧ 0 ≤ x.value
      ∧ in_cents x.value < 10 ^ DefaultContext.prec
      ∧ _rounded_amount text = .ok ⟨x.negative, in_cents x.value, MINOR_UNIT.exponent⟩)
    ∨ (∃ x, read text = some (.finite x) ∧ 0 ≤ x.value
      ∧ 10 ^ DefaultContext.prec ≤ in_cents x.value
      ∧ _rounded_amount text = .error .InvalidOperation)
    ∨ (∀ x, read text = some (.finite x) → x.value < 0)
      ∧ ∃ detail, _rounded_amount text = .error (.InvalidMoneyError detail) := by
  cases hread : read text with
  | none =>
      refine .inr (.inr ⟨nofun, s!"'{text}' is not a valid amount.", ?_⟩)
      rw [_rounded_amount, hread]
  | some d =>
      cases d with
      | finite x =>
          by_cases hnonneg : 0 ≤ x.value
          · have heq := rounded_amount_eq hread hnonneg
            by_cases hfits : in_cents x.value < 10 ^ DefaultContext.prec
            · rw [if_pos hfits] at heq
              exact .inl ⟨x, rfl, hnonneg, hfits, heq⟩
            · rw [if_neg hfits] at heq
              exact .inr (.inl ⟨x, rfl, hnonneg, not_lt.mp hfits, heq⟩)
          · refine .inr (.inr ⟨?_, "The amount cannot be negative.", ?_⟩)
            · rintro y hy
              cases hy
              exact not_le.mp hnonneg
            · exact rounded_amount_negative hread (not_le.mp hnonneg)
      | infinity negative =>
          refine .inr (.inr ⟨nofun, "The amount must be a finite number.", ?_⟩)
          rw [_rounded_amount, hread]
      | nan negative signaling payload =>
          refine .inr (.inr ⟨nofun, "The amount must be a finite number.", ?_⟩)
          rw [_rounded_amount, hread]

section

variable (str_float : PyFloat → String)

/-- The text that an amount is read from, where it has one. -/
def Amount.text : Amount → Option String
  | .decimal d => some d.str
  | .value (.int n) => str_of_int n
  | .value (.float x) => some (str_float x)
  | .value (.str s) => some s
  | .value _ => none

/-- An integer of more digits than `str` writes. -/
def Amount.Unprintable (amount : Amount) : Prop :=
  ∃ n, amount = .value (.int n) ∧ str_of_int n = none

theorem validated_amount_cases (amount : Amount) :
    (∃ text, amount.text str_float = some text
      ∧ _validated_amount str_float amount = _rounded_amount text)
    ∨ (amount.Unprintable ∧ amount.text str_float = none
      ∧ _validated_amount str_float amount = .error (.ValueError STR_DIGITS_EXCEEDED))
    ∨ (¬ amount.Unprintable ∧ amount.text str_float = none ∧ _validated_amount str_float amount =
      .error (.InvalidMoneyError "The amount must be a number.")) := by
  cases amount with
  | decimal d => exact .inl ⟨d.str, rfl, rfl⟩
  | value v =>
      cases v with
      | int n =>
          cases htext : str_of_int n with
          | some text =>
              refine .inl ⟨text, htext, ?_⟩
              simp only [_validated_amount, htext]
          | none =>
              refine .inr (.inl ⟨⟨n, rfl, htext⟩, htext, ?_⟩)
              simp only [_validated_amount, htext]
      | float x => exact .inl ⟨str_float x, rfl, rfl⟩
      | str s => exact .inl ⟨s, rfl, rfl⟩
      | none | bool b | uuid u | other =>
          refine .inr (.inr ⟨?_, rfl, rfl⟩)
          rintro ⟨n, hn, -⟩
          cases hn

/-- The number a text says. -/
def finiteValue : Option Decimal → Option ℚ
  | some (.finite x) => some x.value
  | _ => none

theorem finiteValue_iff {d : Option Decimal} {q : ℚ} :
    finiteValue d = some q ↔ ∃ x, d = some (.finite x) ∧ x.value = q := by
  constructor
  · intro h
    unfold finiteValue at h
    split at h
    · next x => exact ⟨x, rfl, Option.some.inj h⟩
    · cases h
  · rintro ⟨x, rfl, rfl⟩
    rfl

/-- The number an amount stands for: that of a decimal, an integer, or a text. -/
def Amount.number : Amount → Option ℚ
  | .decimal d => if d.Representable then finiteValue (some d) else none
  | .value (.int n) => some n
  | .value (.float x) => finiteValue (read (str_float x))
  | .value (.str s) => finiteValue (read s)
  | .value _ => none

theorem value_int (n : ℤ) : Finite.value ⟨decide (n < 0), n.natAbs, 0⟩ = n := by
  unfold Finite.value
  dsimp only
  rw [zpow_zero, mul_one]
  by_cases hneg : n < 0
  · have habs : (n.natAbs : ℤ) = -n := by omega
    rw [decide_eq_true hneg, if_pos rfl, ← Int.cast_natCast, habs]
    push_cast
    ring
  · have habs : (n.natAbs : ℤ) = n := by omega
    rw [decide_eq_false hneg, if_neg Bool.false_ne_true, ← Int.cast_natCast, habs, one_mul]

/-- **What is read is the number meant**: the text in between loses nothing. -/
theorem number_of_text {amount : Amount} {text : String} (htext : amount.text str_float = some text) :
    amount.number str_float = finiteValue (read text) := by
  cases amount with
  | decimal d =>
      rw [← Option.some.inj htext, Amount.number]
      split
      · next hd => rw [read_str hd]
      · next hd =>
          rw [read_str_unbounded hd]
          rfl
  | value v =>
      cases v with
      | int n =>
          have hbounded : Bounded n.natAbs 0 := by
            have hdigits : numdigits n.natAbs ≤ INT_MAX_STR_DIGITS :=
              (numdigits_le_iff (by decide)).mpr (lt_of_str_of_int htext)
            unfold INT_MAX_STR_DIGITS at hdigits
            unfold Bounded MAX_PREC MIN_ETINY MAX_EMAX
            omega
          rw [str_of_int_eq htext, read_toString, if_pos hbounded, finiteValue, value_int]
          rfl
      | float x => rw [← Option.some.inj htext, Amount.number]
      | str s => rw [← Option.some.inj htext, Amount.number]
      | none | bool b | uuid u | other => cases htext

theorem number_of_no_text {amount : Amount} (hprintable : ¬ amount.Unprintable)
    (htext : amount.text str_float = none) : amount.number str_float = none := by
  cases amount with
  | decimal d => cases htext
  | value v =>
      cases v with
      | int n => exact absurd ⟨n, rfl, htext⟩ hprintable
      | float x => cases htext
      | str s => cases htext
      | none | bool b | uuid u | other => rfl

/-- What an accepted amount is held as. -/
theorem validated_amount_ok {amount : Amount} {y : Finite}
    (h : _validated_amount str_float amount = .ok y) :
    ∃ x : Finite, amount.number str_float = some x.value ∧ 0 ≤ x.value
      ∧ in_cents x.value < 10 ^ DefaultContext.prec
      ∧ y = ⟨x.negative, in_cents x.value, MINOR_UNIT.exponent⟩ := by
  obtain ⟨text, htext, heq⟩ | ⟨-, -, heq⟩ | ⟨-, -, heq⟩ := validated_amount_cases str_float amount
  · rw [heq] at h
    rw [number_of_text str_float htext]
    obtain ⟨x, hread, hnonneg, hfits, hrounded⟩ | ⟨x, -, -, -, hrounded⟩ | ⟨-, detail, hrounded⟩ :=
      rounded_amount_cases text
    · rw [hrounded, Except.ok.injEq] at h
      exact ⟨x, by rw [hread, finiteValue], hnonneg, hfits, h.symm⟩
    · rw [hrounded] at h
      cases h
    · rw [hrounded] at h
      cases h
  · rw [heq] at h
    cases h
  · rw [heq] at h
    cases h

theorem validated_amount_valid {amount : Amount} {y : Finite}
    (h : _validated_amount str_float amount = .ok y) : InMinorUnits y := by
  obtain ⟨x, -, hnonneg, hfits, rfl⟩ := validated_amount_ok str_float h
  refine ⟨rfl, hfits, fun hsign => ?_⟩
  show in_cents x.value = 0
  rw [value_of_zero (value_nonneg_iff.mp hnonneg hsign), in_cents_zero]

/-- The amounts that the constructor can round, or refuses by its own rules. -/
def Amount.WithinContext (amount : Amount) : Prop :=
  ¬ amount.Unprintable
    ∧ ∀ q, amount.number str_float = some q → 0 ≤ q → in_cents q < 10 ^ DefaultContext.prec

theorem validated_amount_refuses_iff (amount : Amount) :
    (∀ e, _validated_amount str_float amount = .error e → ∃ detail, e = .InvalidMoneyError detail)
      ↔ amount.WithinContext str_float := by
  obtain ⟨text, htext, heq⟩ | ⟨hlong, -, heq⟩ | ⟨hshort, htext, heq⟩ :=
    validated_amount_cases str_float amount
  · have hshort : ¬ amount.Unprintable := by
      rintro ⟨n, rfl, hn⟩
      have htext' : str_of_int n = some text := htext
      rw [hn] at htext'
      cases htext'
    unfold Amount.WithinContext
    rw [heq, number_of_text str_float htext]
    obtain ⟨x, hread, hnonneg, hfits, hrounded⟩ | ⟨x, hread, hnonneg, hlarge, hrounded⟩
      | ⟨hnegative, detail, hrounded⟩ := rounded_amount_cases text
    · rw [hrounded, hread]
      constructor
      · intro _
        refine ⟨hshort, fun q hq _ => ?_⟩
        rw [← Option.some.inj hq]
        exact hfits
      · intro _ e he
        cases he
    · rw [hrounded, hread]
      constructor
      · intro hrefuses
        obtain ⟨detail, hdetail⟩ := hrefuses _ rfl
        cases hdetail
      · rintro ⟨-, hwithin⟩
        exact absurd (hwithin x.value rfl hnonneg) (not_lt.mpr hlarge)
    · rw [hrounded]
      constructor
      · intro _
        refine ⟨hshort, fun q hq hnonneg => ?_⟩
        obtain ⟨x, hread, rfl⟩ := finiteValue_iff.mp hq
        exact absurd hnonneg (not_le.mpr (hnegative x hread))
      · intro _ e he
        exact ⟨detail, (Except.error.inj he).symm⟩
  · rw [heq]
    constructor
    · intro hrefuses
      obtain ⟨detail, hdetail⟩ := hrefuses _ rfl
      cases hdetail
    · intro hwithin
      exact absurd hlong hwithin.1
  · rw [heq]
    constructor
    · intro _
      refine ⟨hshort, fun q hq => ?_⟩
      rw [number_of_no_text str_float hshort htext] at hq
      cases hq
    · intro _ e he
      exact ⟨_, (Except.error.inj he).symm⟩

end

/-! ## 5. `Money` -/

/-- An amount of money, rounded to the minor unit of its currency. What the constructor
leaves is part of the value. -/
structure Money where
  amount : Finite
  currency : String
  in_minor_units : InMinorUnits amount
  valid_currency : ValidCurrency currency

namespace Money

theorem ext_fields {left right : Money} (hamount : left.amount = right.amount)
    (hcurrency : left.currency = right.currency) : left = right := by
  cases left
  cases right
  cases hamount
  cases hcurrency
  rfl

section

variable (str_float : PyFloat → String)

/-- `Money(amount=..., currency=...)`: the currency is checked first. -/
def new (amount : Amount) (currency : Value) : Except MoneyError Money :=
  match hcurrency : _validated_currency currency with
  | .error e => .error e
  | .ok code =>
    match hamount : _validated_amount str_float amount with
    | .error e => .error e
    | .ok rounded =>
      .ok ⟨rounded, code, validated_amount_valid str_float hamount,
        validated_currency_ok hcurrency⟩

/-- Nothing owed, in the given currency. -/
def zero (currency : Value) : Except MoneyError Money :=
  new str_float (.decimal (.finite ⟨false, 0, 0⟩)) currency

/-- Rebuild from its columns: a row where both are `NULL` has no amount yet. -/
def from_columns (amount : Option Decimal) (currency : Option String) :
    Except MoneyError (Option Money) :=
  match amount, currency with
  | none, none => .ok none
  | _, _ =>
    (new str_float (match amount with | some d => .decimal d | none => .value .none)
      (match currency with | some code => .str code | none => .none)).map some

def _assert_same_currency (self other : Money) : Except MoneyError Unit :=
  if self.currency ≠ other.currency then
    .error (.CurrencyMismatchError (s!"Cannot combine {self.currency} with {other.currency} without "
      ++ "an explicit converter."))
  else .ok ()

def add (self other : Money) : Except MoneyError Money := do
  self._assert_same_currency other
  let amount ← (self.amount.add DefaultContext other.amount).mapError signal_error
  new str_float (.decimal (.finite amount)) (.str self.currency)

def subtract (self other : Money) : Except MoneyError Money := do
  self._assert_same_currency other
  let amount ← (self.amount.subtract DefaultContext other.amount).mapError signal_error
  new str_float (.decimal (.finite amount)) (.str self.currency)

def covers (self other : Money) : Except MoneyError Bool := do
  self._assert_same_currency other
  return self.amount.ge other.amount

end

/-- `==` of the dataclass. -/
def eq (self other : Money) : Bool :=
  self.amount.eq other.amount && self.currency == other.currency

/-- `__composite_values__`: what the columns hold. -/
def composite_values (self : Money) : Decimal × String := (.finite self.amount, self.currency)

example : (new (fun _ => "") (.value (.str "10.005")) (.str " eur ")).map (·.amount) =
    .ok ⟨false, 1001, -2⟩ := by decide +kernel

section

variable {str_float : PyFloat → String} {amount : Amount} {currency : Value}

theorem new_currency_error {e : MoneyError} (h : _validated_currency currency = .error e) :
    new str_float amount currency = .error e := by
  unfold new
  split
  · next e' h' =>
      rw [h, Except.error.injEq] at h'
      rw [h']
  · next code h' =>
      rw [h] at h'
      cases h'

theorem new_amount_error {e : MoneyError} {code : String}
    (hcurrency : _validated_currency currency = .ok code)
    (hamount : _validated_amount str_float amount = .error e) :
    new str_float amount currency = .error e := by
  unfold new
  split
  · next e' h' =>
      rw [hcurrency] at h'
      cases h'
  · split
    · next e' h' =>
        rw [hamount, Except.error.injEq] at h'
        rw [h']
    · next rounded h' =>
        rw [hamount] at h'
        cases h'

theorem new_accepted {code : String} {rounded : Finite}
    (hcurrency : _validated_currency currency = .ok code)
    (hamount : _validated_amount str_float amount = .ok rounded) :
    ∃ m, new str_float amount currency = .ok m ∧ m.amount = rounded ∧ m.currency = code := by
  unfold new
  split
  · next e' h' =>
      rw [hcurrency] at h'
      cases h'
  · next code' hcode =>
      split
      · next e' h' =>
          rw [hamount] at h'
          cases h'
      · next rounded' hrounded =>
          refine ⟨_, rfl, ?_, ?_⟩
          · rw [hamount, Except.ok.injEq] at hrounded
            exact hrounded.symm
          · rw [hcurrency, Except.ok.injEq] at hcode
            exact hcode.symm

/-- **A value is constructed** exactly from what the two checks leave. -/
theorem new_ok_iff {m : Money} : new str_float amount currency = .ok m ↔
    _validated_currency currency = .ok m.currency
      ∧ _validated_amount str_float amount = .ok m.amount := by
  constructor
  · intro h
    cases hcurrency : _validated_currency currency with
    | error e =>
        rw [new_currency_error hcurrency] at h
        cases h
    | ok code =>
        cases hamount : _validated_amount str_float amount with
        | error e =>
            rw [new_amount_error hcurrency hamount] at h
            cases h
        | ok rounded =>
            obtain ⟨m', hm', rfl, rfl⟩ := new_accepted hcurrency hamount
            rw [hm', Except.ok.injEq] at h
            exact ⟨congrArg _ (congrArg _ h), congrArg _ (congrArg _ h)⟩
  · rintro ⟨hcurrency, hamount⟩
    obtain ⟨m', hm', hrounded, hcode⟩ := new_accepted hcurrency hamount
    rw [hm', ext_fields hrounded hcode]

end

/-! ## 6. Cents

Below the decimals: a value is a count of cents in a currency. -/

def cents (m : Money) : ℕ := m.amount.coefficient

theorem cents_lt (m : Money) : m.cents < 10 ^ DefaultContext.prec := m.in_minor_units.fits

theorem exponent_eq (m : Money) : m.amount.exponent = MINOR_UNIT.exponent :=
  m.in_minor_units.exponent

theorem amount_nonneg (m : Money) : 0 ≤ m.amount.value :=
  value_nonneg_iff.mpr m.in_minor_units.not_negative

theorem cents_eq (m : Money) : (m.cents : ℚ) = m.amount.value * 100 := by
  have h := units_eq m.amount_nonneg
  rw [m.exponent_eq, sub_self, zpow_zero, mul_one] at h
  exact h

/-- The amount is the count over one hundred. -/
theorem value_eq (m : Money) : m.amount.value = m.cents / 100 := by
  rw [cents_eq]
  ring

theorem in_cents_value (m : Money) : in_cents m.amount.value = m.cents := by
  rw [in_cents, ← cents_eq, half_up_natCast]

/-- Only zero is held under a minus. -/
theorem cents_of_negative {m : Money} (h : m.amount.negative = true) : m.cents = 0 :=
  m.in_minor_units.not_negative h

/-- No sign is left in the count. -/
theorem count_eq (m : Money) : m.amount.count = m.cents := by
  unfold Finite.count
  split
  · next hsign =>
      have hzero : m.amount.coefficient = 0 := cents_of_negative hsign
      rw [hzero, cents_of_negative hsign]
      rfl
  · rfl

theorem eq_iff {left right : Money} :
    left.eq right = true ↔ left.cents = right.cents ∧ left.currency = right.currency := by
  unfold eq
  rw [Bool.and_eq_true, PyDecimal.eq_iff, beq_iff_eq, value_eq, value_eq,
    div_left_inj' (by norm_num), Nat.cast_inj]

section

variable {str_float : PyFloat → String} {left right : Money}

theorem validated_text (d : Decimal) :
    _validated_amount str_float (.decimal d) = _rounded_amount d.str := rfl

/-- A decimal that the interpreter holds enters the constructor as itself. -/
theorem validated_decimal {x : Finite} (h : Bounded x.coefficient x.exponent) (hnonneg : 0 ≤ x.value) :
    _validated_amount str_float (.decimal (.finite x)) =
      if in_cents x.value < 10 ^ DefaultContext.prec then
        .ok ⟨x.negative, in_cents x.value, MINOR_UNIT.exponent⟩
      else .error .InvalidOperation := by
  rw [validated_text]
  exact rounded_amount_eq (read_str (d := .finite x) h) hnonneg

/-- Every count of cents that the context carries is one that the interpreter holds. -/
theorem bounded_cents {n : ℕ} (h : n < 10 ^ DefaultContext.prec) :
    Bounded n MINOR_UNIT.exponent := by
  have hdigits : numdigits n ≤ DefaultContext.prec :=
    (numdigits_le_iff DefaultContext.prec_pos).mpr h
  have hprec : DefaultContext.prec = 28 := rfl
  have hexponent : MINOR_UNIT.exponent = -2 := rfl
  unfold Bounded MAX_PREC MIN_ETINY MAX_EMAX
  omega

/-- **The rounding changes nothing on a count of cents.** -/
theorem new_cents {x : Finite} {code : String} (h : InMinorUnits x) (hcode : ValidCurrency code) :
    ∃ m, new str_float (.decimal (.finite x)) (.str code) = .ok m
      ∧ m.amount = x ∧ m.currency = code := by
  let m : Money := ⟨x, code, h, hcode⟩
  have hbounded : Bounded x.coefficient x.exponent := by
    rw [h.exponent]
    exact bounded_cents h.fits
  have hcents : in_cents x.value = x.coefficient := m.in_cents_value
  refine new_accepted (validated_currency_again hcode) ?_
  rw [validated_decimal hbounded m.amount_nonneg, hcents, if_pos h.fits, ← h.exponent]

theorem assert_same (h : left.currency = right.currency) :
    left._assert_same_currency right = .ok () := by
  unfold _assert_same_currency
  rw [if_neg (not_not.mpr h)]

/-- The text of the refusal. -/
def mismatch (left right : Money) : MoneyError :=
  .CurrencyMismatchError (s!"Cannot combine {left.currency} with {right.currency} without "
    ++ "an explicit converter.")

theorem assert_mixed (h : left.currency ≠ right.currency) :
    left._assert_same_currency right = .error (mismatch left right) := by
  unfold _assert_same_currency
  rw [if_pos h]
  rfl

/-- Across currencies every operation is refused. -/
theorem mixed_refused (h : left.currency ≠ right.currency) :
    left.add str_float right = .error (mismatch left right)
      ∧ left.subtract str_float right = .error (mismatch left right)
      ∧ left.covers right = .error (mismatch left right) := by
  unfold add subtract covers
  rw [assert_mixed h]
  exact ⟨rfl, rfl, rfl⟩

/-- **Covering** is of the counts. -/
theorem covers_same (h : left.currency = right.currency) :
    left.covers right = .ok (decide (right.cents ≤ left.cents)) := by
  unfold covers
  rw [assert_same h]
  show Except.ok (left.amount.ge right.amount) = _
  rw [Except.ok.injEq, Bool.eq_iff_iff, ge_iff, decide_eq_true_eq, value_eq, value_eq,
    div_le_div_iff_of_pos_right (by norm_num), Nat.cast_le]

theorem no_cents_of_signs (h : (left.amount.negative && right.amount.negative) = true) :
    left.cents + right.cents = 0 := by
  rw [Bool.and_eq_true] at h
  rw [cents_of_negative h.1, cents_of_negative h.2]

theorem sumSign_eq : sumSign left.amount right.amount =
    (left.amount.negative && right.amount.negative) := by
  unfold sumSign
  rw [count_eq, count_eq]
  split
  · rfl
  · next hsum =>
      have hpositive : ¬ (left.cents : ℤ) + right.cents < 0 := by omega
      rw [decide_eq_false hpositive, eq_comm, Bool.eq_false_iff]
      intro hsigns
      have := no_cents_of_signs hsigns
      omega

/-- A result without a signal goes on. -/
theorem signal_bind {α : Type} (x : Finite) (f : Finite → Except MoneyError α) :
    ((Except.ok x : Except Signal Finite).mapError signal_error).bind f = f x := rfl

theorem add_eq (h : left.currency = right.currency) : left.add str_float right =
    ((left.amount.add DefaultContext right.amount).mapError signal_error).bind fun amount =>
      new str_float (.decimal (.finite amount)) (.str left.currency) := by
  unfold add
  rw [assert_same h]
  rfl

theorem subtract_eq (h : left.currency = right.currency) : left.subtract str_float right =
    ((left.amount.subtract DefaultContext right.amount).mapError signal_error).bind fun amount =>
      new str_float (.decimal (.finite amount)) (.str left.currency) := by
  unfold subtract
  rw [assert_same h]
  rfl

/-- **A sum of cents** that the context carries. -/
theorem add_cents (h : left.currency = right.currency)
    (hfits : left.cents + right.cents < 10 ^ DefaultContext.prec) :
    ∃ sum, left.add str_float right = .ok sum
      ∧ sum.amount = ⟨left.amount.negative && right.amount.negative, left.cents + right.cents,
          MINOR_UNIT.exponent⟩
      ∧ sum.currency = left.currency := by
  have hcount : (left.amount.count + right.amount.count).natAbs = left.cents + right.cents := by
    rw [count_eq, count_eq]
    omega
  have hsum := add_exact left.exponent_eq right.exponent_eq minor_unit_range.1
    (by have := minor_unit_range.2; omega) (hcount.trans_lt hfits)
  rw [hcount, sumSign_eq] at hsum
  have hvalid : InMinorUnits ⟨left.amount.negative && right.amount.negative,
      left.cents + right.cents, MINOR_UNIT.exponent⟩ := ⟨rfl, hfits, no_cents_of_signs⟩
  obtain ⟨sum, hnew, hamount, hcurrency⟩ := new_cents hvalid left.valid_currency
  refine ⟨sum, ?_, hamount, hcurrency⟩
  rw [add_eq h, hsum, signal_bind]
  exact hnew

/-- **A sum past the context** is not a refusal of the domain. -/
theorem add_too_large (h : left.currency = right.currency)
    (hlong : 10 ^ DefaultContext.prec ≤ left.cents + right.cents) :
    left.add str_float right = .error .InvalidOperation := by
  have hleft := left.cents_lt
  have hright := right.cents_lt
  have hprec : DefaultContext.prec = 28 := rfl
  have hcount : (left.amount.count + right.amount.count).natAbs = left.cents + right.cents := by
    rw [count_eq, count_eq]
    omega
  obtain ⟨sum, hsum, hsign, hexponent, hadjusted, hdigits, hrefused⟩ :=
    add_long left.exponent_eq right.exponent_eq minor_unit_range.1 minor_unit_range.2
      (hlong.trans_eq hcount.symm)
      (by rw [hcount, Nat.pow_succ]; omega)
  have hpositive : sum.negative = false := by
    rw [hsign, sumSign_eq, Bool.eq_false_iff]
    intro hsigns
    rw [no_cents_of_signs hsigns] at hlong
    exact absurd hlong (by decide)
  have hbounded : Bounded sum.coefficient sum.exponent := by
    have hminor : MINOR_UNIT.exponent = -2 := rfl
    have hmax : DefaultContext.Emax = 999999 := rfl
    have hleading : sum.adjusted = sum.exponent + numdigits sum.coefficient - 1 := rfl
    unfold Bounded MAX_PREC MIN_ETINY MAX_EMAX
    omega
  have hnonneg : 0 ≤ sum.value :=
    value_nonneg_iff.mpr fun hnegative => by rw [hpositive] at hnegative; cases hnegative
  have hrounded : _validated_amount str_float (.decimal (.finite sum)) =
      .error .InvalidOperation := by
    rw [validated_text]
    unfold _rounded_amount
    rw [read_str (d := .finite sum) hbounded]
    dsimp only
    rw [if_neg (mt lt_zero_iff.mp (not_lt_of_ge hnonneg)), hrefused]
    rfl
  rw [add_eq h, hsum, signal_bind]
  exact new_amount_error (validated_currency_again left.valid_currency) hrounded

/-- The amount under the other sign. -/
def opposite (m : Money) : Finite := { m.amount with negative := !m.amount.negative }

theorem opposite_count (m : Money) : m.opposite.count = -m.cents := by
  show (if (!m.amount.negative) = true then -(m.cents : ℤ) else m.cents) = -m.cents
  cases hsign : m.amount.negative with
  | false => rfl
  | true =>
      rw [cents_of_negative hsign]
      rfl

/-- The exact difference, as the context leaves it. -/
theorem subtract_exact : left.amount.subtract DefaultContext right.amount =
    .ok ⟨sumSign left.amount right.opposite, ((left.cents : ℤ) - right.cents).natAbs,
      MINOR_UNIT.exponent⟩ := by
  have hleft := left.cents_lt
  have hright := right.cents_lt
  have hcount : left.amount.count + right.opposite.count = (left.cents : ℤ) - right.cents := by
    rw [count_eq, opposite_count]
    rfl
  have hfits : (left.amount.count + right.opposite.count).natAbs < 10 ^ DefaultContext.prec := by
    rw [hcount]
    omega
  have hsum := add_exact left.exponent_eq (show right.opposite.exponent = _ from right.exponent_eq)
    minor_unit_range.1 (by have := minor_unit_range.2; omega) hfits
  rw [hcount] at hsum
  exact hsum

/-- **A difference of cents**, where there is one. -/
theorem subtract_cents (h : left.currency = right.currency) (hcovers : right.cents ≤ left.cents) :
    ∃ difference, left.subtract str_float right = .ok difference
      ∧ difference.cents = left.cents - right.cents
      ∧ difference.currency = left.currency := by
  have hleft := left.cents_lt
  have hvalid : InMinorUnits ⟨sumSign left.amount right.opposite,
      ((left.cents : ℤ) - right.cents).natAbs, MINOR_UNIT.exponent⟩ := by
    refine ⟨rfl, ?_, fun hsign => ?_⟩
    · show ((left.cents : ℤ) - right.cents).natAbs < 10 ^ DefaultContext.prec
      omega
    · show ((left.cents : ℤ) - right.cents).natAbs = 0
      have hsign' : sumSign left.amount right.opposite = true := hsign
      unfold sumSign at hsign'
      rw [count_eq, opposite_count] at hsign'
      split at hsign'
      · omega
      · rw [decide_eq_true_eq] at hsign'
        omega
  obtain ⟨difference, hnew, hamount, hcurrency⟩ := new_cents hvalid left.valid_currency
  refine ⟨difference, ?_, ?_, hcurrency⟩
  · rw [subtract_eq h, subtract_exact, signal_bind]
    exact hnew
  · rw [cents, hamount]
    show ((left.cents : ℤ) - right.cents).natAbs = left.cents - right.cents
    omega

/-- Nothing is owed backwards. -/
theorem subtract_uncovered (h : left.currency = right.currency) (hless : left.cents < right.cents) :
    left.subtract str_float right =
      .error (.InvalidMoneyError "The amount cannot be negative.") := by
  have hright := right.cents_lt
  have hsign : sumSign left.amount right.opposite = true := by
    unfold sumSign
    rw [count_eq, opposite_count, if_neg (by omega), decide_eq_true_eq]
    omega
  have hbounded : Bounded ((left.cents : ℤ) - right.cents).natAbs MINOR_UNIT.exponent :=
    bounded_cents (by omega)
  have hread := read_str
    (d := .finite ⟨true, ((left.cents : ℤ) - right.cents).natAbs, MINOR_UNIT.exponent⟩) hbounded
  have hnegative : Finite.value ⟨true, ((left.cents : ℤ) - right.cents).natAbs,
      MINOR_UNIT.exponent⟩ < 0 := by
    rw [← not_le, value_nonneg_iff]
    intro hzero
    have : ((left.cents : ℤ) - right.cents).natAbs = 0 := hzero rfl
    omega
  rw [subtract_eq h, subtract_exact, hsign, signal_bind]
  apply new_amount_error (validated_currency_again left.valid_currency)
  rw [validated_text]
  exact rounded_amount_negative hread hnegative

end

end Money

end TradeLogistics.Customs
