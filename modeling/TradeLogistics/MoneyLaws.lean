/-
What money promises: which errors escape from it, and the laws of its arithmetic.

The context carries 28 digits. An amount past that, or a sum, is not refused by a rule of
the domain: the parse is guarded and the rounding after it is not. Below that the counts of
cents are natural numbers, and what the columns hold is far below, so the laws of addition,
of subtraction and of the order are theirs.
-/
import TradeLogistics.Money

set_option autoImplicit false

namespace TradeLogistics.Customs

open TradeLogistics.PyText TradeLogistics.PyNumber TradeLogistics.PyDecimal

namespace Money

/-! ## 1. Which errors escape -/

/-- An answer, or a refusal of the amount or the currency. -/
def RefusesOnly (result : Except MoneyError Money) : Prop :=
  ∀ e, result = .error e → ∃ detail, e = .InvalidMoneyError detail

/-- An answer, or an error that the domain declares. -/
def DeclaresOnly {α : Type} (result : Except MoneyError α) : Prop :=
  ∀ e, result = .error e → e.declared = true

theorem declares_ok {α : Type} {result : Except MoneyError α} {a : α} (h : result = .ok a) :
    DeclaresOnly result := by
  intro e he
  rw [h] at he
  cases he

theorem declares_error_iff {α : Type} {result : Except MoneyError α} {e : MoneyError}
    (h : result = .error e) : DeclaresOnly result ↔ e.declared = true := by
  constructor
  · intro hdeclares
    exact hdeclares e h
  · intro hdeclared e' he'
    rw [h, Except.error.injEq] at he'
    rwa [← he']

section

variable (str_float : PyFloat → String)

theorem new_refuses_iff (amount : Amount) (currency : Value) :
    RefusesOnly (new str_float amount currency)
      ↔ (AcceptedCurrency currency → amount.WithinContext str_float) := by
  obtain ⟨haccepted, code, hcode⟩ | ⟨hrefused, detail, hdetail⟩ :=
    validated_currency_cases currency
  · rw [← validated_amount_refuses_iff]
    cases hamount : _validated_amount str_float amount with
    | ok rounded =>
        obtain ⟨m, hm, -, -⟩ := new_accepted hcode hamount
        rw [hm]
        constructor
        · intro _ _ e he
          cases he
        · intro _ e he
          cases he
    | error e =>
        rw [new_amount_error hcode hamount]
        constructor
        · intro hrefuses _ e' he'
          cases he'
          exact hrefuses e rfl
        · intro hrefuses e' he'
          cases he'
          exact hrefuses haccepted e rfl
  · rw [new_currency_error hdetail]
    constructor
    · intro _ haccepted
      exact absurd haccepted hrefused
    · intro _ e he
      exact ⟨detail, (Except.error.inj he).symm⟩

variable (left right : Money)

theorem add_declares_iff : DeclaresOnly (left.add str_float right)
    ↔ (left.currency = right.currency →
        left.cents + right.cents < 10 ^ DefaultContext.prec) := by
  by_cases hcurrency : left.currency = right.currency
  · by_cases hfits : left.cents + right.cents < 10 ^ DefaultContext.prec
    · obtain ⟨sum, hsum, -, -⟩ := add_cents hcurrency hfits
      exact ⟨fun _ _ => hfits, fun _ => declares_ok hsum⟩
    · rw [declares_error_iff (add_too_large hcurrency (not_lt.mp hfits))]
      constructor
      · intro h
        cases h
      · intro h
        exact absurd (h hcurrency) hfits
  · rw [declares_error_iff (mixed_refused hcurrency).1]
    exact ⟨fun _ h => absurd h hcurrency, fun _ => rfl⟩

theorem subtract_declares : DeclaresOnly (left.subtract str_float right) := by
  by_cases hcurrency : left.currency = right.currency
  · by_cases hcovers : right.cents ≤ left.cents
    · obtain ⟨difference, hdifference, -, -⟩ := subtract_cents hcurrency hcovers
      exact declares_ok hdifference
    · rw [declares_error_iff (subtract_uncovered hcurrency (not_le.mp hcovers))]
      rfl
  · rw [declares_error_iff (mixed_refused hcurrency).2.1]
    rfl

theorem covers_declares : DeclaresOnly (left.covers right) := by
  by_cases hcurrency : left.currency = right.currency
  · exact declares_ok (covers_same hcurrency)
  · rw [declares_error_iff (@mixed_refused (fun _ => "") left right hcurrency).2.2]
    rfl

/-- **Which errors escape.** The constructor answers, or refuses by a rule of its own,
exactly when the currency is refused first or the amount is one that can be written and
rounds to fewer cents than the context carries. A sum is answered under the same bound; a
difference and a comparison always are. -/
theorem domain_errors_iff (amount : Amount) (currency : Value) :
    (RefusesOnly (new str_float amount currency)
      ↔ (AcceptedCurrency currency → amount.WithinContext str_float))
    ∧ (DeclaresOnly (left.add str_float right)
      ↔ (left.currency = right.currency → left.amount.value + right.amount.value < 10 ^ 26))
    ∧ DeclaresOnly (left.subtract str_float right)
    ∧ DeclaresOnly (left.covers right) := by
  have hbound : left.amount.value + right.amount.value < 10 ^ 26
      ↔ left.cents + right.cents < 10 ^ DefaultContext.prec := by
    have hprec : DefaultContext.prec = 28 := rfl
    rw [value_eq, value_eq, ← add_div, div_lt_iff₀ (by norm_num), hprec]
    norm_cast
  rw [hbound]
  exact ⟨new_refuses_iff str_float amount currency, add_declares_iff str_float left right,
    subtract_declares str_float left right, covers_declares left right⟩

/-- One euro times ten to the 26th, which the context cannot hold in cents. -/
theorem domain_errors_escape :
    new (fun _ => "") (.decimal (.finite ⟨false, 1, 26⟩)) (.str "EUR") = .error .InvalidOperation
      ∧ ¬ ∀ str_float : PyFloat → String,
          (∀ amount currency, RefusesOnly (new str_float amount currency))
            ∧ ∀ left right : Money, DeclaresOnly (left.add str_float right)
              ∧ DeclaresOnly (left.subtract str_float right) ∧ DeclaresOnly (left.covers right) := by
  have hcurrency : _validated_currency (.str "EUR") = .ok "EUR" := by decide +kernel
  have hamount : _validated_amount (fun _ => "") (.decimal (.finite ⟨false, 1, 26⟩)) =
      .error .InvalidOperation := by decide +kernel
  have hnew := new_amount_error hcurrency hamount
  refine ⟨hnew, fun hclaim => ?_⟩
  obtain ⟨detail, hdetail⟩ := (hclaim fun _ => "").1 _ _ _ hnew
  cases hdetail

end

/-! ## 2. Exact cents

The laws of the operations, for amounts that the columns hold. Two values are the same
when `==` says so: zero keeps a sign that no comparison sees. -/

/-- What `NUMERIC(14, 2)` holds. -/
def InColumn (m : Money) : Prop := m.amount.value < 10 ^ 12

section

variable (str_float : PyFloat → String)

/-- Adding, for three values of one currency. -/
structure SumLaws (a b c : Money) : Prop where
  exact_sum : ∃ sum, a.add str_float b = .ok sum
    ∧ sum.amount.value = a.amount.value + b.amount.value ∧ sum.currency = a.currency
  commutative : a.add str_float b = b.add str_float a
  associative : (a.add str_float b).bind (·.add str_float c)
    = (b.add str_float c).bind fun sum => a.add str_float sum
  identity : ∃ nothing sum, zero str_float (.str a.currency) = .ok nothing
    ∧ a.add str_float nothing = .ok sum ∧ sum.eq a = true

/-- Subtracting is defined where it can be undone. -/
structure DifferenceLaws (a b : Money) : Prop where
  defined : (∃ difference, a.subtract str_float b = .ok difference) ↔ a.covers b = .ok true
  restored : ∀ difference, a.subtract str_float b = .ok difference →
    ∃ sum, difference.add str_float b = .ok sum ∧ sum.eq a = true

/-- Covering is a total order that adding keeps. -/
structure OrderLaws (a b c : Money) : Prop where
  reflexive : a.covers a = .ok true
  antisymmetric : a.covers b = .ok true → b.covers a = .ok true → a.eq b = true
  transitive : a.covers b = .ok true → b.covers c = .ok true → a.covers c = .ok true
  total : a.covers b = .ok true ∨ b.covers a = .ok true
  compatible : ∃ left right, a.add str_float c = .ok left ∧ b.add str_float c = .ok right
    ∧ (left.covers right = .ok true ↔ a.covers b = .ok true)

/-- What is held is the number meant, rounded once. -/
theorem new_number {amount : Amount} {currency : Value} {m : Money}
    (h : new str_float amount currency = .ok m) :
    ∃ q, amount.number str_float = some q ∧ 0 ≤ q ∧ m.cents = in_cents q
      ∧ normalized currency = some m.currency := by
  obtain ⟨hcurrency, hamount⟩ := new_ok_iff.mp h
  obtain ⟨x, hnumber, hnonneg, -, hrounded⟩ := validated_amount_ok str_float hamount
  refine ⟨x.value, hnumber, hnonneg, ?_, validated_currency_normalized hcurrency⟩
  rw [cents, hrounded]

theorem InColumn.cents_lt {m : Money} (h : m.InColumn) : m.cents < 10 ^ 14 := by
  unfold InColumn at h
  rw [value_eq, div_lt_iff₀ (by norm_num)] at h
  have hcents : (m.cents : ℚ) < ((10 ^ 14 : ℕ) : ℚ) := by
    push_cast
    linarith
  exact_mod_cast hcents

theorem accepted_bind {α β : Type} (a : α) (f : α → Except MoneyError β) :
    (Except.ok a).bind f = f a := rfl

variable {a b c : Money}

/-- A sum of two values that the columns hold, with its count and its currency. -/
theorem add_ok (h : a.currency = b.currency) (hfits : a.cents + b.cents < 10 ^ 16) :
    ∃ sum, a.add str_float b = .ok sum
      ∧ sum.amount = ⟨a.amount.negative && b.amount.negative, a.cents + b.cents,
          MINOR_UNIT.exponent⟩
      ∧ sum.cents = a.cents + b.cents ∧ sum.currency = a.currency := by
  have hprec : DefaultContext.prec = 28 := rfl
  obtain ⟨sum, hsum, hamount, hcurrency⟩ := @add_cents str_float a b h (by rw [hprec]; omega)
  refine ⟨sum, hsum, hamount, ?_, hcurrency⟩
  rw [cents, hamount]

theorem add_exact_value (h : a.currency = b.currency) (hfits : a.cents + b.cents < 10 ^ 16) :
    ∃ sum, a.add str_float b = .ok sum
      ∧ sum.amount.value = a.amount.value + b.amount.value ∧ sum.currency = a.currency := by
  obtain ⟨sum, hsum, -, hcents, hcurrency⟩ := add_ok str_float h hfits
  refine ⟨sum, hsum, ?_, hcurrency⟩
  rw [value_eq, value_eq, value_eq, hcents, Nat.cast_add, add_div]

theorem add_commutes (h : a.currency = b.currency) (hfits : a.cents + b.cents < 10 ^ 16) :
    a.add str_float b = b.add str_float a := by
  obtain ⟨left, hleft, hamount, -, hcurrency⟩ := add_ok str_float h hfits
  obtain ⟨right, hright, hamount', -, hcurrency'⟩ :=
    add_ok str_float h.symm ((Nat.add_comm _ _).trans_lt hfits)
  have hsame : left = right := by
    apply ext_fields
    · rw [hamount, hamount', Bool.and_comm, Nat.add_comm]
    · rw [hcurrency, hcurrency', h]
  rw [hleft, hright, hsame]

theorem add_regroups (hab : a.currency = b.currency) (hbc : b.currency = c.currency)
    (hfits : a.cents + b.cents + c.cents < 10 ^ 16) :
    (a.add str_float b).bind (·.add str_float c)
      = (b.add str_float c).bind fun sum => a.add str_float sum := by
  obtain ⟨ab, hab', hamount, hcents, hcurrency⟩ := add_ok str_float hab (by omega)
  obtain ⟨bc, hbc', hamount', hcents', hcurrency'⟩ := add_ok str_float hbc (by omega)
  obtain ⟨left, hleft, hleftAmount, -, hleftCurrency⟩ :=
    add_ok str_float (hcurrency.trans (hab.trans hbc)) (by omega)
  obtain ⟨right, hright, hrightAmount, -, hrightCurrency⟩ :=
    add_ok str_float (hab.trans hcurrency'.symm) (by omega)
  have hsame : left = right := by
    apply ext_fields
    · rw [hleftAmount, hrightAmount, hamount, hamount', hcents, hcents', Bool.and_assoc,
        Nat.add_assoc]
    · rw [hleftCurrency, hrightCurrency, hcurrency]
  rw [hab', hbc', accepted_bind, accepted_bind, hleft, hright, hsame]

/-- Nothing, in the currency of a value. -/
theorem zero_ok (m : Money) : ∃ nothing, zero str_float (.str m.currency) = .ok nothing
    ∧ nothing.cents = 0 ∧ nothing.currency = m.currency := by
  have hbounded : Bounded 0 0 := by decide
  have hvalue : Finite.value ⟨false, 0, 0⟩ = 0 := value_of_zero rfl
  have hrounded := @validated_decimal str_float ⟨false, 0, 0⟩ hbounded hvalue.ge
  rw [hvalue, in_cents_zero] at hrounded
  obtain ⟨nothing, hnew, hamount, hcurrency⟩ :=
    new_accepted (validated_currency_again m.valid_currency) hrounded
  refine ⟨nothing, hnew, ?_, hcurrency⟩
  rw [cents, hamount]

theorem covers_iff (h : a.currency = b.currency) :
    a.covers b = .ok true ↔ b.cents ≤ a.cents := by
  rw [covers_same h, Except.ok.injEq, decide_eq_true_eq]

theorem sum_laws (hab : a.currency = b.currency) (hbc : b.currency = c.currency)
    (ha : a.InColumn) (hb : b.InColumn) (hc : c.InColumn) : SumLaws str_float a b c := by
  have hcents := ha.cents_lt
  have hcents' := hb.cents_lt
  have hcents'' := hc.cents_lt
  refine ⟨add_exact_value str_float hab (by omega), add_commutes str_float hab (by omega),
    add_regroups str_float hab hbc (by omega), ?_⟩
  obtain ⟨nothing, hnothing, hzero, hcurrency⟩ := zero_ok str_float a
  obtain ⟨sum, hsum, -, hsumCents, hsumCurrency⟩ := add_ok str_float hcurrency.symm (by omega)
  refine ⟨nothing, sum, hnothing, hsum, eq_iff.mpr ⟨?_, hsumCurrency⟩⟩
  rw [hsumCents, hzero, Nat.add_zero]

theorem difference_laws (hab : a.currency = b.currency) (ha : a.InColumn) (hb : b.InColumn) :
    DifferenceLaws str_float a b := by
  have hcents := ha.cents_lt
  have hcents' := hb.cents_lt
  by_cases hcovers : b.cents ≤ a.cents
  · obtain ⟨difference, hdifference, hcount, hcurrency⟩ := @subtract_cents str_float a b hab hcovers
    refine ⟨⟨fun _ => (covers_iff hab).mpr hcovers, fun _ => ⟨difference, hdifference⟩⟩, ?_⟩
    intro difference' hdifference'
    rw [hdifference, Except.ok.injEq] at hdifference'
    subst hdifference'
    obtain ⟨sum, hsum, -, hsumCents, hsumCurrency⟩ :=
      add_ok str_float (hcurrency.trans hab) (by omega)
    refine ⟨sum, hsum, eq_iff.mpr ⟨?_, hsumCurrency.trans hcurrency⟩⟩
    rw [hsumCents, hcount, Nat.sub_add_cancel hcovers]
  · have hrefused := @subtract_uncovered str_float a b hab (not_le.mp hcovers)
    refine ⟨⟨?_, fun h => absurd ((covers_iff hab).mp h) hcovers⟩, ?_⟩
    · rintro ⟨difference, hdifference⟩
      rw [hrefused] at hdifference
      cases hdifference
    · intro difference hdifference
      rw [hrefused] at hdifference
      cases hdifference

theorem order_laws (hab : a.currency = b.currency) (hbc : b.currency = c.currency)
    (ha : a.InColumn) (hb : b.InColumn) (hc : c.InColumn) : OrderLaws str_float a b c := by
  have hcents := ha.cents_lt
  have hcents' := hb.cents_lt
  have hcents'' := hc.cents_lt
  refine ⟨(covers_iff rfl).mpr le_rfl, ?_, ?_, ?_, ?_⟩
  · intro h h'
    exact eq_iff.mpr ⟨le_antisymm ((covers_iff hab.symm).mp h') ((covers_iff hab).mp h), hab⟩
  · intro h h'
    exact (covers_iff (hab.trans hbc)).mpr
      (((covers_iff hbc).mp h').trans ((covers_iff hab).mp h))
  · rw [covers_iff hab, covers_iff hab.symm]
    exact le_total _ _
  · obtain ⟨left, hleft, -, hleftCents, hleftCurrency⟩ :=
      add_ok str_float (hab.trans hbc) (by omega)
    obtain ⟨right, hright, -, hrightCents, hrightCurrency⟩ := add_ok str_float hbc (by omega)
    refine ⟨left, right, hleft, hright, ?_⟩
    rw [covers_iff (hleftCurrency.trans (hab.trans hrightCurrency.symm)), covers_iff hab,
      hleftCents, hrightCents]
    omega

/-- The columns of a value give back the value. -/
theorem from_columns_composite (m : Money) :
    from_columns str_float (some m.composite_values.1) (some m.composite_values.2)
      = .ok (some m) := by
  obtain ⟨m', hnew, hamount, hcurrency⟩ := new_cents m.in_minor_units m.valid_currency
  have hsame : m' = m := ext_fields hamount hcurrency
  rw [hsame] at hnew
  show (new str_float (.decimal (.finite m.amount)) (.str m.currency)).map some = .ok (some m)
  rw [hnew]
  rfl

/-- **Money is exact cents.** -/
theorem exact_cents :
    (∀ amount currency m, new str_float amount currency = .ok m →
      ∃ q, amount.number str_float = some q ∧ 0 ≤ q ∧ 0 ≤ m.amount.value
        ∧ m.amount.value = (⌊q * 100 + 1 / 2⌋₊ : ℚ) / 100)
    ∧ (∀ amount currency amount' currency' m m', new str_float amount currency = .ok m →
      new str_float amount' currency' = .ok m' →
        (m.eq m' = true ↔ (amount.number str_float).map in_cents
            = (amount'.number str_float).map in_cents
          ∧ normalized currency = normalized currency'))
    ∧ (∀ m : Money, from_columns str_float (some m.composite_values.1)
        (some m.composite_values.2) = .ok (some m))
    ∧ (∀ a b c : Money, a.currency = b.currency → b.currency = c.currency →
      a.InColumn → b.InColumn → c.InColumn →
        SumLaws str_float a b c ∧ DifferenceLaws str_float a b ∧ OrderLaws str_float a b c)
    ∧ ∀ a b : Money, a.currency ≠ b.currency →
      a.add str_float b = .error (mismatch a b)
        ∧ a.subtract str_float b = .error (mismatch a b) ∧ a.covers b = .error (mismatch a b) := by
  refine ⟨?_, ?_, from_columns_composite str_float, ?_, ?_⟩
  · intro amount currency m h
    obtain ⟨q, hnumber, hnonneg, hcents, -⟩ := new_number str_float h
    refine ⟨q, hnumber, hnonneg, m.amount_nonneg, ?_⟩
    rw [value_eq, hcents]
    rfl
  · intro amount currency amount' currency' m m' h h'
    obtain ⟨q, hnumber, -, hcents, hcurrency⟩ := new_number str_float h
    obtain ⟨q', hnumber', -, hcents', hcurrency'⟩ := new_number str_float h'
    rw [eq_iff, hnumber, hnumber', hcurrency, hcurrency', hcents, hcents']
    simp only [Option.map_some, Option.some.injEq]
  · intro a b c hab hbc ha hb hc
    exact ⟨sum_laws str_float hab hbc ha hb hc, difference_laws str_float hab ha hb,
      order_laws str_float hab hbc ha hb hc⟩
  · intro a b h
    exact mixed_refused h

end

end Money

end TradeLogistics.Customs
