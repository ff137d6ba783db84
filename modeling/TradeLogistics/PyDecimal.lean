/-
Python's `decimal.Decimal`: the text of a number and the number of a text, and what a
context does to one.

A `Decimal` is a sign, a coefficient and an exponent, and the text of it says all three,
so it is read back as it was written (`read_str`). Reading is exact and knows no context,
only the limits of the interpreter; arithmetic is exact too and then rounded to the
precision of the context. `quantize` is the one operation that may not round away what does
not fit: it refuses, and `quantize_half_up` says when.

Rounding is over natural numbers, a quotient and what is left of it. That it is rounding
to the nearest is a fact about rationals (`quotient_half_up`).
-/
import TradeLogistics.PyNumber
import Mathlib.Algebra.Order.Floor.Semifield
import Mathlib.Data.Rat.Floor
import Mathlib.Tactic.Linarith
import Mathlib.Tactic.NormNum
import Mathlib.Tactic.Ring

set_option autoImplicit false

namespace TradeLogistics.PyDecimal

open TradeLogistics.PyText TradeLogistics.PyNumber

/-! ## 1. Decimals -/

/-- A finite number: `(-1)^negative · coefficient · 10^exponent`. Zero has a sign. -/
structure Finite where
  negative : Bool
  coefficient : ℕ
  exponent : ℤ
  deriving DecidableEq

inductive Decimal where
  | finite (x : Finite)
  | infinity (negative : Bool)
  | nan (negative signaling : Bool) (payload : ℕ)
  deriving DecidableEq

/-- `len(self._int)`: zero has one digit. -/
def numdigits (coefficient : ℕ) : ℕ := (Nat.toDigits 10 coefficient).length

def MAX_PREC : ℕ := 999999999999999999

def MAX_EMAX : ℤ := 999999999999999999

def MIN_ETINY : ℤ := -1999999999999999997

/-- What the interpreter can hold, in no context. -/
def Bounded (coefficient : ℕ) (exponent : ℤ) : Prop :=
  numdigits coefficient ≤ MAX_PREC ∧ MIN_ETINY ≤ exponent
    ∧ exponent + numdigits coefficient - 1 ≤ MAX_EMAX

instance (coefficient : ℕ) (exponent : ℤ) : Decidable (Bounded coefficient exponent) :=
  inferInstanceAs (Decidable (_ ∧ _))

/-! ## 2. `Decimal(text)` -/

/-- The text that is read: blanks around it and underscores in it play no part, and the
digits of any script are digits. -/
def numericText (s : String) : List Char :=
  ((stripChars isspace s.toList).filter (· != '_')).map fun c =>
    match decimalValue c with
    | some d => Nat.digitChar d
    | none => c

def asciiLower (c : Char) : Char :=
  if 65 ≤ c.toNat && c.toNat ≤ 90 then Char.ofNat (c.toNat + 32) else c

/-- A sign, if there is one, and the rest. -/
def readSign : List Char → Bool × List Char
  | '-' :: rest => (true, rest)
  | '+' :: rest => (false, rest)
  | rest => (false, rest)

/-- `exponent-part`, or nothing. -/
def readExponent : List Char → Option ℤ
  | [] => some 0
  | c :: rest =>
    let (negative, digits) := readSign rest
    if asciiLower c = 'e' ∧ digits ≠ [] ∧ digits.all Char.isDigit then
      some (if negative then -(Nat.ofDigitChars 10 digits 0 : ℤ) else Nat.ofDigitChars 10 digits 0)
    else none

/-- The digits behind a point, if there is one, and the rest. -/
def readFraction : List Char → List Char × List Char
  | '.' :: rest => (rest.takeWhile Char.isDigit, rest.dropWhile Char.isDigit)
  | rest => ([], rest)

/-- `decimal-part [exponent-part]`. -/
def readNumber (cs : List Char) : Option (ℕ × ℤ) :=
  let whole := cs.takeWhile Char.isDigit
  let (fraction, rest) := readFraction (cs.dropWhile Char.isDigit)
  if whole = [] ∧ fraction = [] then none
  else (readExponent rest).map fun exponent =>
    (Nat.ofDigitChars 10 (whole ++ fraction) 0, exponent - fraction.length)

/-- The text behind the sign. -/
def readUnsigned (negative : Bool) (cs : List Char) : Option Decimal :=
  match cs.map asciiLower with
  | ['i', 'n', 'f'] | ['i', 'n', 'f', 'i', 'n', 'i', 't', 'y'] => some (.infinity negative)
  | 'n' :: 'a' :: 'n' :: payload =>
    if payload.all Char.isDigit then some (.nan negative false (Nat.ofDigitChars 10 payload 0))
    else none
  | 's' :: 'n' :: 'a' :: 'n' :: payload =>
    if payload.all Char.isDigit then some (.nan negative true (Nat.ofDigitChars 10 payload 0))
    else none
  | _ => (readNumber cs).bind fun (coefficient, exponent) =>
    if Bounded coefficient exponent then some (.finite ⟨negative, coefficient, exponent⟩) else none

/-- `Decimal(text)`, `none` where it raises `InvalidOperation`. -/
def read (s : String) : Option Decimal :=
  let (negative, cs) := readSign (numericText s)
  readUnsigned negative cs

example : read " -1_0.50e-3 " = some (.finite ⟨true, 1050, -5⟩) := by decide +kernel

/-! ## 3. `str(decimal)` -/

/-- `"%+d" % n`. -/
def signedText (n : ℤ) : List Char := (if n < 0 then '-' else '+') :: Nat.toDigits 10 n.natAbs

/-- The text of a finite number without its sign. -/
def finiteText (coefficient : ℕ) (exponent : ℤ) : List Char :=
  let digits := Nat.toDigits 10 coefficient
  let leftdigits : ℤ := exponent + digits.length
  -- no exponent where the point falls at or near the digits, else one digit before the point
  let dotplace : ℤ := if exponent ≤ 0 ∧ -6 < leftdigits then leftdigits else 1
  (if dotplace ≤ 0 then '0' :: '.' :: (List.replicate (-dotplace).toNat '0' ++ digits)
    else if (digits.length : ℤ) ≤ dotplace then
      digits ++ List.replicate (dotplace - digits.length).toNat '0'
    else digits.take dotplace.toNat ++ '.' :: digits.drop dotplace.toNat)
  ++ (if leftdigits = dotplace then [] else 'E' :: signedText (leftdigits - dotplace))

def signText (negative : Bool) : List Char := if negative then ['-'] else []

/-- The payload of a NaN is written as digits, and zero not at all. -/
def payloadText (payload : ℕ) : List Char := if payload = 0 then [] else Nat.toDigits 10 payload

/-- `str(self)`. -/
def Decimal.str : Decimal → String
  | .finite x => String.ofList (signText x.negative ++ finiteText x.coefficient x.exponent)
  | .infinity negative => String.ofList (signText negative ++ "Infinity".toList)
  | .nan negative signaling payload =>
    String.ofList (signText negative ++ (if signaling then ['s', 'N', 'a', 'N'] else ['N', 'a', 'N'])
      ++ payloadText payload)

example : (Decimal.finite ⟨true, 1050, -5⟩).str = "-0.01050" := by decide
example : (Decimal.finite ⟨false, 5, 9⟩).str = "5E+9" := by decide

/-! ## 4. What is written is read

Both sides meet at the shape a text has: digits, perhaps a point and more digits, perhaps
an exponent. What is written has that shape, and what has it is read. -/

/-- Decimal digits, of ASCII. -/
def Digits (cs : List Char) : Prop := ∀ c ∈ cs, c.isDigit = true

/-- The exponent `n` as it is written: left out, or with its sign. -/
def ExponentText (n : ℤ) (cs : List Char) : Prop := cs = [] ∧ n = 0 ∨ cs = 'E' :: signedText n

/-- A text that says a coefficient and an exponent. -/
inductive Written (coefficient : ℕ) (exponent : ℤ) : List Char → Prop
  | whole {digits tail : List Char} : Digits digits → digits ≠ [] → ExponentText exponent tail →
      Nat.ofDigitChars 10 digits 0 = coefficient → Written coefficient exponent (digits ++ tail)
  | point {digits fraction tail : List Char} {n : ℤ} : Digits digits → digits ≠ [] →
      Digits fraction → ExponentText n tail →
      Nat.ofDigitChars 10 (digits ++ fraction) 0 = coefficient →
      n - fraction.length = exponent →
      Written coefficient exponent (digits ++ '.' :: (fraction ++ tail))

theorem digits_toDigits (n : ℕ) : Digits (Nat.toDigits 10 n) :=
  fun _ hc => Nat.isDigit_of_mem_toDigits (by decide) (by decide) hc

/-- Digits up to a character that is none. -/
theorem span_digits {digits rest : List Char} (h : Digits digits)
    (hrest : ∀ c ∈ rest.head?, c.isDigit = false) :
    (digits ++ rest).takeWhile Char.isDigit = digits
      ∧ (digits ++ rest).dropWhile Char.isDigit = rest := by
  rw [List.takeWhile_append_of_pos h, List.dropWhile_append_of_pos h]
  cases rest with
  | nil => simp
  | cons c rest =>
      have hc : c.isDigit = false := hrest c rfl
      simp [hc]

theorem ExponentText.head {n : ℤ} {cs : List Char} (h : ExponentText n cs) :
    ∀ c ∈ cs.head?, c = 'E' := by
  rcases h with ⟨rfl, -⟩ | rfl
  · intro c hc
    cases hc
  · intro c hc
    exact (Option.some.inj hc).symm

/-- A written exponent is read. -/
theorem ExponentText.read {n : ℤ} {cs : List Char} (h : ExponentText n cs) :
    readExponent cs = some n := by
  rcases h with ⟨rfl, rfl⟩ | rfl
  · rfl
  · have hdigits : (Nat.toDigits 10 n.natAbs).all Char.isDigit = true :=
      List.all_eq_true.mpr (digits_toDigits n.natAbs)
    by_cases hneg : n < 0
    · simp only [readExponent, signedText, if_pos hneg, readSign]
      rw [if_pos ⟨by decide, Nat.toDigits_ne_nil, hdigits⟩, if_pos trivial,
        Nat.ofDigitChars_ten_toDigits, Option.some.injEq]
      omega
    · simp only [readExponent, signedText, if_neg hneg, readSign]
      rw [if_pos ⟨by decide, Nat.toDigits_ne_nil, hdigits⟩, if_neg (by decide),
        Nat.ofDigitChars_ten_toDigits, Option.some.injEq]
      omega

/-- What has the shape is read. -/
theorem Written.readNumber {coefficient : ℕ} {exponent : ℤ} {cs : List Char}
    (h : Written coefficient exponent cs) : readNumber cs = some (coefficient, exponent) := by
  cases h with
  | @whole digits tail hdigits hne htail hcoefficient =>
      have hhead : ∀ c ∈ tail.head?, c.isDigit = false := by
        intro c hc
        rw [htail.head c hc]
        decide
      obtain ⟨htake, hdrop⟩ := span_digits hdigits hhead
      have hfraction : readFraction tail = ([], tail) := by
        unfold readFraction
        split
        · next rest => exact absurd (htail.head '.' rfl) (by decide)
        · rfl
      rw [PyDecimal.readNumber]
      simp only [htake, hdrop, hfraction]
      rw [if_neg fun hnone => hne hnone.1, htail.read, List.append_nil, hcoefficient]
      simp
  | @point digits fraction tail n hdigits hne hfraction htail hcoefficient hexponent =>
      have hhead : ∀ c ∈ tail.head?, c.isDigit = false := by
        intro c hc
        rw [htail.head c hc]
        decide
      have hpoint : ∀ c ∈ ('.' :: (fraction ++ tail)).head?, c.isDigit = false := by
        intro c hc
        rw [← Option.some.inj hc]
        decide
      obtain ⟨htake, hdrop⟩ := span_digits hdigits hpoint
      obtain ⟨htakeFraction, hdropFraction⟩ := span_digits hfraction hhead
      rw [PyDecimal.readNumber]
      simp only [htake, hdrop, readFraction, htakeFraction, hdropFraction]
      rw [if_neg fun hnone => hne hnone.1, htail.read, hcoefficient]
      simp [hexponent]

theorem exponentText_tail (m n : ℤ) :
    ExponentText (m - n) (if m = n then [] else 'E' :: signedText (m - n)) := by
  split
  · next h => exact .inl ⟨rfl, by omega⟩
  · exact .inr rfl

/-- What is written has the shape. -/
theorem written_finiteText (coefficient : ℕ) (exponent : ℤ) :
    Written coefficient exponent (finiteText coefficient exponent) := by
  unfold finiteText
  extract_lets digits leftdigits dotplace
  have hdigits : Digits digits := digits_toDigits coefficient
  have hlength : 0 < digits.length := List.length_pos_iff.mpr Nat.toDigits_ne_nil
  have hvalue : Nat.ofDigitChars 10 digits 0 = coefficient := Nat.ofDigitChars_ten_toDigits
  have hplace : dotplace = leftdigits ∧ exponent ≤ 0 ∨ dotplace = 1 := by
    show (if _ then _ else _) = leftdigits ∧ _ ∨ (if _ then _ else _) = (1 : ℤ)
    split
    · next h => exact .inl ⟨rfl, h.1⟩
    · exact .inr rfl
  have hleft : leftdigits = exponent + digits.length := rfl
  have htail := exponentText_tail leftdigits dotplace
  by_cases hzero : dotplace ≤ 0
  · -- zeros between the point and the digits
    rw [if_pos hzero]
    have hfraction : Digits (List.replicate (-dotplace).toNat '0' ++ digits) := by
      intro c hc
      rcases List.mem_append.mp hc with hc | hc
      · rw [List.eq_of_mem_replicate hc]
        decide
      · exact hdigits c hc
    have hlead : Digits ['0'] := by
      intro c hc
      rw [List.mem_singleton.mp hc]
      decide
    refine Written.point hlead (by decide) hfraction htail ?_ ?_
    · rw [List.singleton_append, ← List.cons_append, ← List.replicate_succ,
        Nat.ofDigitChars_append, Nat.ofDigitChars_replicate_zero, Nat.mul_zero, hvalue]
    · simp only [List.length_append, List.length_replicate]
      omega
  · rw [if_neg hzero]
    by_cases hwhole : (digits.length : ℤ) ≤ dotplace
    · -- all digits before the point, and none to add
      have hexponent : leftdigits - dotplace = exponent := by omega
      have hnone : (dotplace - digits.length).toNat = 0 := by omega
      rw [if_pos hwhole, hnone, List.replicate_zero, List.append_nil]
      rw [hexponent] at htail ⊢
      exact Written.whole hdigits Nat.toDigits_ne_nil htail hvalue
    · rw [if_neg hwhole, List.append_assoc, List.cons_append]
      have htake : Digits (digits.take dotplace.toNat) :=
        fun c hc => hdigits c (List.mem_of_mem_take hc)
      have hdrop : Digits (digits.drop dotplace.toNat) :=
        fun c hc => hdigits c (List.mem_of_mem_drop hc)
      refine Written.point htake ?_ hdrop htail ?_ ?_
      · apply List.ne_nil_of_length_pos
        rw [List.length_take]
        omega
      · rw [List.take_append_drop, hvalue]
      · rw [List.length_drop]
        omega

/-- The characters that a decimal is written in. -/
def numberChars : List Char := "0123456789.E+-NaNsInfinity".toList

/-- A fact about every character of a text, by a look at each. -/
theorem of_all {p : Char → Prop} [DecidablePred p] {cs : List Char}
    (h : (cs.all fun c => decide (p c)) = true) : ∀ c ∈ cs, p c :=
  fun c hc => of_decide_eq_true (List.all_eq_true.mp h c hc)

theorem numberChars_plain : ∀ c ∈ numberChars, isspace c = false ∧ (c != '_') = true
    ∧ (match decimalValue c with | some d => Nat.digitChar d | none => c) = c :=
  of_all (by decide +kernel)

theorem numericText_eq {cs : List Char} (h : ∀ c ∈ cs, c ∈ numberChars) :
    numericText (String.ofList cs) = cs := by
  have hstrip : stripChars isspace cs = cs :=
    stripChars_eq_self fun c hc => (numberChars_plain c (h c hc)).1
  have hfilter : cs.filter (· != '_') = cs :=
    List.filter_eq_self.mpr fun c hc => (numberChars_plain c (h c hc)).2.1
  rw [numericText, String.toList_ofList, hstrip, hfilter]
  calc cs.map _ = cs.map id :=
        List.map_congr_left fun c hc => (numberChars_plain c (h c hc)).2.2
    _ = cs := List.map_id cs

theorem digit_mem {c : Char} (h : c.isDigit = true) : c ∈ numberChars := by
  apply of_digits _ h
  intro n hn hn'
  interval_cases n <;> decide

theorem signText_mem (negative : Bool) : ∀ c ∈ signText negative, c ∈ numberChars := by
  cases negative <;> exact of_all (by decide)

/-- Behind the sign of a text stands what has none. -/
theorem read_signText (negative : Bool) {c : Char} {cs : List Char} (hminus : c ≠ '-')
    (hplus : c ≠ '+') (h : ∀ d ∈ c :: cs, d ∈ numberChars) :
    read (String.ofList (signText negative ++ c :: cs)) = readUnsigned negative (c :: cs) := by
  have hmem : ∀ d ∈ signText negative ++ c :: cs, d ∈ numberChars := by
    intro d hd
    rcases List.mem_append.mp hd with hd | hd
    · exact signText_mem negative d hd
    · exact h d hd
  have hsign : readSign (signText negative ++ c :: cs) = (negative, c :: cs) := by
    cases negative with
    | true => rfl
    | false =>
        show readSign (c :: cs) = (false, c :: cs)
        unfold readSign
        split
        · next h => exact absurd (List.cons.inj h).1 hminus
        · next h => exact absurd (List.cons.inj h).1 hplus
        · rfl
  rw [read, numericText_eq hmem, hsign]

theorem ExponentText.mem {n : ℤ} {cs : List Char} (h : ExponentText n cs) :
    ∀ c ∈ cs, c ∈ numberChars := by
  rcases h with ⟨rfl, -⟩ | rfl
  · intro c hc
    cases hc
  · intro c hc
    rcases List.mem_cons.mp hc with rfl | hc
    · decide
    rcases List.mem_cons.mp hc with rfl | hc
    · split <;> decide
    · exact digit_mem (digits_toDigits _ c hc)

theorem Written.mem {coefficient : ℕ} {exponent : ℤ} {cs : List Char}
    (h : Written coefficient exponent cs) : ∀ c ∈ cs, c ∈ numberChars := by
  intro c hc
  cases h with
  | whole hdigits _ htail _ =>
      rcases List.mem_append.mp hc with hc | hc
      · exact digit_mem (hdigits c hc)
      · exact htail.mem c hc
  | point hdigits _ hfraction htail _ _ =>
      rcases List.mem_append.mp hc with hc | hc
      · exact digit_mem (hdigits c hc)
      rcases List.mem_cons.mp hc with rfl | hc
      · decide
      rcases List.mem_append.mp hc with hc | hc
      · exact digit_mem (hfraction c hc)
      · exact htail.mem c hc

/-- It begins with a digit, so it is no name of a special value. -/
theorem Written.head {coefficient : ℕ} {exponent : ℤ} {cs : List Char}
    (h : Written coefficient exponent cs) : ∃ d rest, cs = d :: rest ∧ d.isDigit = true := by
  have hcons : ∀ digits rest : List Char, Digits digits → digits ≠ [] →
      ∃ d rest', digits ++ rest = d :: rest' ∧ d.isDigit = true := by
    intro digits rest hdigits hne
    obtain ⟨d, ds, rfl⟩ := List.exists_cons_of_ne_nil hne
    exact ⟨d, ds ++ rest, rfl, hdigits d List.mem_cons_self⟩
  cases h with
  | whole hdigits hne _ _ => exact hcons _ _ hdigits hne
  | point hdigits hne _ _ _ _ => exact hcons _ _ hdigits hne

theorem digit_lower {d : Char} (h : d.isDigit = true) : asciiLower d = d := by
  have hmem : ∀ c ∈ numberChars, c.isDigit = true → asciiLower c = c :=
    of_all (by decide +kernel)
  exact hmem d (digit_mem h) h

theorem digit_other {d : Char} (h : d.isDigit = true) :
    d ≠ '-' ∧ d ≠ '+' ∧ asciiLower d ≠ 'i' ∧ asciiLower d ≠ 'n' ∧ asciiLower d ≠ 's' := by
  have hmem : ∀ c ∈ numberChars, c.isDigit = true →
      c ≠ '-' ∧ c ≠ '+' ∧ asciiLower c ≠ 'i' ∧ asciiLower c ≠ 'n' ∧ asciiLower c ≠ 's' :=
    of_all (by decide +kernel)
  exact hmem d (digit_mem h) h

/-- **What has the shape is read with its sign**, as far as the interpreter can hold it. -/
theorem read_written {coefficient : ℕ} {exponent : ℤ} {cs : List Char} (negative : Bool)
    (h : Written coefficient exponent cs) :
    read (String.ofList (signText negative ++ cs)) =
      if Bounded coefficient exponent then some (.finite ⟨negative, coefficient, exponent⟩)
      else none := by
  obtain ⟨d, rest, rfl, hd⟩ := h.head
  obtain ⟨hminus, hplus, hi, hn, hs⟩ := digit_other hd
  rw [read_signText negative hminus hplus h.mem, readUnsigned, List.map_cons]
  split
  · next hc => exact absurd (List.cons.inj hc).1 hi
  · next hc => exact absurd (List.cons.inj hc).1 hi
  · next hc => exact absurd (List.cons.inj hc).1 hn
  · next hc => exact absurd (List.cons.inj hc).1 hs
  · rw [h.readNumber]
    rfl

theorem payloadText_spec (payload : ℕ) : Digits (payloadText payload)
    ∧ (payloadText payload).map asciiLower = payloadText payload
    ∧ Nat.ofDigitChars 10 (payloadText payload) 0 = payload := by
  have hdigits : Digits (payloadText payload) := by
    unfold payloadText
    split
    · intro c hc
      cases hc
    · exact digits_toDigits payload
  refine ⟨hdigits, ?_, ?_⟩
  · calc (payloadText payload).map asciiLower = (payloadText payload).map id :=
          List.map_congr_left fun c hc => digit_lower (hdigits c hc)
      _ = payloadText payload := List.map_id _
  · unfold payloadText
    split
    · next h => rw [h, Nat.ofDigitChars_nil]
    · exact Nat.ofDigitChars_ten_toDigits

theorem readUnsigned_NaN (negative : Bool) (payload : ℕ) :
    readUnsigned negative ('N' :: 'a' :: 'N' :: payloadText payload) =
      some (.nan negative false payload) := by
  obtain ⟨hdigits, hlower, hvalue⟩ := payloadText_spec payload
  unfold readUnsigned
  simp only [List.map_cons, hlower]
  show (if (payloadText payload).all Char.isDigit = true then _ else _) = _
  rw [if_pos (List.all_eq_true.mpr hdigits), hvalue]

theorem readUnsigned_sNaN (negative : Bool) (payload : ℕ) :
    readUnsigned negative ('s' :: 'N' :: 'a' :: 'N' :: payloadText payload) =
      some (.nan negative true payload) := by
  obtain ⟨hdigits, hlower, hvalue⟩ := payloadText_spec payload
  unfold readUnsigned
  simp only [List.map_cons, hlower]
  show (if (payloadText payload).all Char.isDigit = true then _ else _) = _
  rw [if_pos (List.all_eq_true.mpr hdigits), hvalue]

/-- A decimal that the interpreter can hold. -/
def Decimal.Representable : Decimal → Prop
  | .finite x => Bounded x.coefficient x.exponent
  | _ => True

instance : ∀ d : Decimal, Decidable d.Representable
  | .finite x => inferInstanceAs (Decidable (Bounded x.coefficient x.exponent))
  | .infinity _ => isTrue trivial
  | .nan _ _ _ => isTrue trivial

/-- **The text of a decimal says that decimal.** -/
theorem read_str {d : Decimal} (h : d.Representable) : read d.str = some d := by
  cases d with
  | finite x =>
      have hread := read_written x.negative (written_finiteText x.coefficient x.exponent)
      rw [if_pos (show Bounded x.coefficient x.exponent from h)] at hread
      exact hread
  | infinity negative => cases negative <;> decide +kernel
  | nan negative signaling payload =>
      have hmem : ∀ name : List Char, (∀ c ∈ name, c ∈ numberChars) →
          ∀ c ∈ name ++ payloadText payload, c ∈ numberChars := by
        intro name hname c hc
        rcases List.mem_append.mp hc with hc | hc
        · exact hname c hc
        · exact digit_mem ((payloadText_spec payload).1 c hc)
      rw [Decimal.str, List.append_assoc]
      cases signaling with
      | true =>
          have hread := read_signText negative (show 's' ≠ '-' by decide) (by decide)
            (hmem ['s', 'N', 'a', 'N'] (of_all (by decide)))
          exact hread.trans (readUnsigned_sNaN negative payload)
      | false =>
          have hread := read_signText negative (show 'N' ≠ '-' by decide) (by decide)
            (hmem ['N', 'a', 'N'] (of_all (by decide)))
          exact hread.trans (readUnsigned_NaN negative payload)

/-- One that it cannot hold is not read. -/
theorem read_str_unbounded {d : Decimal} (h : ¬ d.Representable) : read d.str = none := by
  cases d with
  | finite x =>
      have hread := read_written x.negative (written_finiteText x.coefficient x.exponent)
      rw [if_neg (show ¬ Bounded x.coefficient x.exponent from h)] at hread
      exact hread
  | infinity negative => exact absurd trivial h
  | nan negative signaling payload => exact absurd trivial h

/-- So does the text of an integer. -/
theorem read_toString (n : ℤ) :
    read (toString n) =
      if Bounded n.natAbs 0 then some (.finite ⟨decide (n < 0), n.natAbs, 0⟩) else none := by
  have hwritten : Written n.natAbs 0 (Nat.toDigits 10 n.natAbs) := by
    have h := Written.whole (digits_toDigits n.natAbs) Nat.toDigits_ne_nil
      (.inl ⟨rfl, rfl⟩ : ExponentText 0 []) Nat.ofDigitChars_ten_toDigits
    rwa [List.append_nil] at h
  have htext : toString n =
      String.ofList (signText (decide (n < 0)) ++ Nat.toDigits 10 n.natAbs) := by
    rw [← String.toList_inj, String.toList_ofList, toString_chars, signText]
    simp only [decide_eq_true_eq]
  rw [htext, read_written (decide (n < 0)) hwritten]

/-! ## 5. Contexts -/

structure Context where
  prec : ℕ
  Emin : ℤ
  Emax : ℤ
  prec_pos : 0 < prec

/-- The context of a thread that sets none. -/
def DefaultContext : Context where
  prec := 28
  Emin := -999999
  Emax := 999999
  prec_pos := by decide

/-- The least exponent of a subnormal number. -/
def Context.Etiny (ctx : Context) : ℤ := ctx.Emin - (ctx.prec - 1)

/-- The signals that the default context traps. -/
inductive Signal where
  | InvalidOperation
  | Overflow
  deriving DecidableEq

inductive Rounding where
  | HALF_UP
  | HALF_EVEN

/-- `n / d`, rounded. -/
def Rounding.quotient (rounding : Rounding) (n d : ℕ) : ℕ :=
  let incremented : Bool := match rounding with
    | .HALF_UP => d ≤ 2 * (n % d)
    | .HALF_EVEN => d < 2 * (n % d) || (d == 2 * (n % d) && n / d % 2 == 1)
  if incremented then n / d + 1 else n / d

/-- `count` digits off the end of a coefficient: with all of them nothing is left, and the
power need not be computed. -/
def shiftRight (rounding : Rounding) (coefficient count : ℕ) : ℕ :=
  if numdigits coefficient < count then 0 else rounding.quotient coefficient (10 ^ count)

/-- `self.adjusted()`: the exponent of the leading digit. -/
def Finite.adjusted (x : Finite) : ℤ := x.exponent + numdigits x.coefficient - 1

/-- An exponent in the range of the context. -/
def checkExponent (ctx : Context) (x : Finite) : Except Signal Finite :=
  if x.coefficient = 0 then
    .ok { x with exponent := max ctx.Etiny (min ctx.Emax x.exponent) }
  else if ctx.Emax < x.adjusted then .error .Overflow
  else if x.adjusted < ctx.Emin ∧ x.exponent < ctx.Etiny then
    .ok ⟨x.negative, shiftRight .HALF_EVEN x.coefficient (ctx.Etiny - x.exponent).toNat, ctx.Etiny⟩
  else .ok x

/-- A coefficient within the precision of the context. -/
def checkRound (ctx : Context) (x : Finite) : Except Signal Finite :=
  if ctx.prec < numdigits x.coefficient then
    let count := numdigits x.coefficient - ctx.prec
    let coefficient := shiftRight .HALF_EVEN x.coefficient count
    -- rounding up may have carried into one digit more
    if ctx.prec < numdigits coefficient then
      checkExponent ctx ⟨x.negative, coefficient / 10, x.exponent + count + 1⟩
    else .ok ⟨x.negative, coefficient, x.exponent + count⟩
  else .ok x

/-- What the context makes of an exact result. -/
def finalize (ctx : Context) (x : Finite) : Except Signal Finite :=
  (checkExponent ctx x).bind (checkRound ctx)

/-- The coefficient with its sign, in units of a lower power of ten. -/
def Finite.scaled (x : Finite) (exponent : ℤ) : ℤ :=
  let magnitude : ℤ := x.coefficient * 10 ^ (x.exponent - exponent).toNat
  if x.negative then -magnitude else magnitude

/-- `x + y`. -/
def Finite.add (ctx : Context) (x y : Finite) : Except Signal Finite :=
  let exponent := min x.exponent y.exponent
  let sum := x.scaled exponent + y.scaled exponent
  let negative := if sum = 0 then x.negative && y.negative else decide (sum < 0)
  finalize ctx ⟨negative, sum.natAbs, exponent⟩

/-- `x - y`: the sum with `y` under the other sign. -/
def Finite.subtract (ctx : Context) (x y : Finite) : Except Signal Finite :=
  x.add ctx { y with negative := !y.negative }

/-- `x < y`, of the exact numbers. -/
def Finite.lt (x y : Finite) : Bool :=
  let exponent := min x.exponent y.exponent
  x.scaled exponent < y.scaled exponent

/-- `x >= y`. -/
def Finite.ge (x y : Finite) : Bool := !x.lt y

/-- `x == y`: numbers are equal whatever their exponents. -/
def Finite.eq (x y : Finite) : Bool :=
  let exponent := min x.exponent y.exponent
  x.scaled exponent == y.scaled exponent

/-- `x.quantize(Decimal((0, (1,), exponent)), rounding)`: what does not fit is refused. -/
def Finite.quantize (ctx : Context) (x : Finite) (exponent : ℤ) (rounding : Rounding) :
    Except Signal Finite :=
  if ctx.Emax < exponent ∨ exponent < ctx.Etiny then .error .InvalidOperation
  else if x.coefficient = 0 then .ok { x with exponent }
  else if (ctx.prec : ℤ) < numdigits x.coefficient + (x.exponent - exponent) then
    .error .InvalidOperation
  else
    let coefficient :=
      if exponent ≤ x.exponent then x.coefficient * 10 ^ (x.exponent - exponent).toNat
      else shiftRight rounding x.coefficient (exponent - x.exponent).toNat
    let result : Finite := ⟨x.negative, coefficient, exponent⟩
    if ctx.prec < numdigits coefficient ∨ ctx.Emax < result.adjusted then
      .error .InvalidOperation
    else .ok result

/-! ## 6. What the arithmetic means

A finite number stands for a rational. Comparison is of these; `quantize` rounds to the
nearest multiple of a power of ten and refuses what has more digits than the context
carries. -/

def Finite.value (x : Finite) : ℚ :=
  (if x.negative then -1 else 1) * x.coefficient * (10 : ℚ) ^ x.exponent

/-- The nearest natural number, the upper one of two. -/
def half_up (q : ℚ) : ℕ := ⌊q + 1 / 2⌋₊

theorem half_up_natCast (n : ℕ) : half_up n = n := by
  rw [half_up, Nat.floor_eq_iff (by positivity)]
  constructor <;> norm_num

theorem le_half_up {n : ℕ} {q : ℚ} (h : (n : ℚ) ≤ q) : n ≤ half_up q :=
  Nat.le_floor (by linarith)

theorem numdigits_pos (n : ℕ) : 0 < numdigits n := Nat.length_toDigits_pos

theorem numdigits_le_iff {n k : ℕ} (hk : 0 < k) : numdigits n ≤ k ↔ n < 10 ^ k :=
  Nat.length_toDigits_le_iff (by decide) hk

/-- The leading digit is not zero. -/
theorem pow_numdigits_le {n : ℕ} (hn : n ≠ 0) : 10 ^ (numdigits n - 1) ≤ n := by
  by_cases hone : numdigits n = 1
  · rw [hone]
    exact Nat.one_le_iff_ne_zero.mpr hn
  · have hpos := numdigits_pos n
    have h := numdigits_le_iff (n := n) (k := numdigits n - 1) (by omega)
    by_contra hlt
    have := h.mpr (by omega)
    omega

theorem quotient_half_up (n : ℕ) {d : ℕ} (hd : 0 < d) :
    Rounding.HALF_UP.quotient n d = half_up ((n : ℚ) / d) := by
  have hne : (d : ℚ) ≠ 0 := by exact_mod_cast hd.ne'
  have hsum : (n : ℚ) / d + 1 / 2 = ((2 * n + d : ℕ) : ℚ) / ((2 * d : ℕ) : ℚ) := by
    push_cast
    field_simp
  rw [half_up, hsum, Nat.floor_div_eq_div]
  have hdiv := Nat.div_add_mod n d
  have hmod := Nat.mod_lt n hd
  have hscaled : ∀ k, (n / d + k) * (2 * d) = 2 * (d * (n / d)) + 2 * (k * d) := by
    intro k
    ring
  have hnext := hscaled 1
  by_cases hup : d ≤ 2 * (n % d)
  · have hquotient : (2 * n + d) / (2 * d) = n / d + 1 := by
      have hlast : (n / d + 1 + 1) * (2 * d) = 2 * (d * (n / d)) + 2 * (2 * d) := hscaled 2
      apply Nat.div_eq_of_lt_le <;> omega
    rw [hquotient]
    simp [Rounding.quotient, hup]
  · have hquotient : (2 * n + d) / (2 * d) = n / d := by
      have hfirst := hscaled 0
      rw [Nat.add_zero] at hfirst
      apply Nat.div_eq_of_lt_le <;> omega
    rw [hquotient]
    simp [Rounding.quotient, hup]

/-- Rounding adds at most one to the quotient. -/
theorem quotient_bounds (rounding : Rounding) (n d : ℕ) :
    n / d ≤ rounding.quotient n d ∧ rounding.quotient n d ≤ n / d + 1 := by
  unfold Rounding.quotient
  extract_lets incremented
  split <;> omega

/-- The digits need not be counted. -/
theorem shiftRight_eq (rounding : Rounding) (coefficient count : ℕ) :
    shiftRight rounding coefficient count = rounding.quotient coefficient (10 ^ count) := by
  unfold shiftRight
  split
  · next hcount =>
      have hpos := numdigits_pos coefficient
      have hlt : coefficient < 10 ^ (count - 1) := (numdigits_le_iff (by omega)).mp (by omega)
      have hpow : 10 ^ count = 10 * 10 ^ (count - 1) := by
        rw [← Nat.pow_succ']
        congr 1
        omega
      have hdiv : coefficient / 10 ^ count = 0 := Nat.div_eq_of_lt (by omega)
      have hmod : coefficient % 10 ^ count = coefficient := Nat.mod_eq_of_lt (by omega)
      unfold Rounding.quotient
      rw [hdiv, hmod]
      cases rounding with
      | HALF_UP =>
          have hup : ¬ 10 ^ count ≤ 2 * coefficient := by omega
          simp [hup]
      | HALF_EVEN =>
          have hup : ¬ 10 ^ count < 2 * coefficient := by omega
          simp [hup]
  · rfl

theorem shiftRight_half_up (coefficient count : ℕ) :
    shiftRight .HALF_UP coefficient count = half_up (coefficient * (10 : ℚ) ^ (-(count : ℤ))) := by
  rw [shiftRight_eq, quotient_half_up _ (by positivity)]
  congr 1
  rw [zpow_neg, zpow_natCast, Nat.cast_pow, Nat.cast_ofNat, div_eq_mul_inv]

/-- A coefficient counted in a lower power of ten. -/
theorem scaled_value (x : Finite) {exponent : ℤ} (h : exponent ≤ x.exponent) :
    (x.scaled exponent : ℚ) * 10 ^ exponent = x.value := by
  have hpow : (10 : ℚ) ^ (x.exponent - exponent).toNat * 10 ^ exponent = 10 ^ x.exponent := by
    rw [← zpow_natCast, ← zpow_add₀ (by norm_num)]
    congr 1
    omega
  unfold Finite.scaled Finite.value
  rw [← hpow]
  cases x.negative <;> push_cast <;> simp <;> ring

/-- **Comparison is of the exact numbers.** -/
theorem lt_iff (x y : Finite) : x.lt y = true ↔ x.value < y.value := by
  have hpos : (0 : ℚ) < 10 ^ min x.exponent y.exponent := zpow_pos (by norm_num) _
  rw [← scaled_value x (min_le_left _ _), ← scaled_value y (min_le_right _ _),
    mul_lt_mul_iff_left₀ hpos, Int.cast_lt]
  simp only [Finite.lt, decide_eq_true_eq]

theorem ge_iff (x y : Finite) : x.ge y = true ↔ y.value ≤ x.value := by
  rw [Finite.ge, Bool.not_eq_true', ← not_lt, ← lt_iff, Bool.not_eq_true]

theorem eq_iff (x y : Finite) : x.eq y = true ↔ x.value = y.value := by
  have hpos : (10 : ℚ) ^ min x.exponent y.exponent ≠ 0 := zpow_ne_zero _ (by norm_num)
  rw [← scaled_value x (min_le_left _ _), ← scaled_value y (min_le_right _ _),
    mul_left_inj' hpos, Int.cast_inj]
  simp only [Finite.eq, beq_iff_eq]

/-- Where the leading digit alone is past `prec` digits of a unit, so is the number. -/
theorem units_long {coefficient prec : ℕ} {shift : ℤ} (hne : coefficient ≠ 0)
    (hlong : (prec : ℤ) < numdigits coefficient + shift) :
    ((10 ^ prec : ℕ) : ℚ) ≤ coefficient * (10 : ℚ) ^ shift := by
  have hleading : (10 : ℚ) ^ (numdigits coefficient - 1) ≤ coefficient := by
    exact_mod_cast pow_numdigits_le hne
  have hpos := numdigits_pos coefficient
  calc ((10 ^ prec : ℕ) : ℚ) = (10 : ℚ) ^ (prec : ℤ) := by
        rw [zpow_natCast, Nat.cast_pow, Nat.cast_ofNat]
    _ ≤ (10 : ℚ) ^ (((numdigits coefficient - 1 : ℕ) : ℤ) + shift) :=
        zpow_le_zpow_right₀ (by norm_num) (by omega)
    _ = (10 : ℚ) ^ (numdigits coefficient - 1) * (10 : ℚ) ^ shift := by
        rw [zpow_add₀ (by norm_num), zpow_natCast]
    _ ≤ coefficient * (10 : ℚ) ^ shift :=
        mul_le_mul_of_nonneg_right hleading (zpow_nonneg (by norm_num) _)

/-- A coefficient moved to another exponent: exactly to a lower one, rounded to a higher. -/
theorem moved_half_up (x : Finite) (exponent : ℤ) :
    (if exponent ≤ x.exponent then x.coefficient * 10 ^ (x.exponent - exponent).toNat
      else shiftRight .HALF_UP x.coefficient (exponent - x.exponent).toNat)
    = half_up (x.coefficient * (10 : ℚ) ^ (x.exponent - exponent)) := by
  split
  · next h =>
      have hcast : (x.coefficient * (10 : ℚ) ^ (x.exponent - exponent))
          = ((x.coefficient * 10 ^ (x.exponent - exponent).toNat : ℕ) : ℚ) := by
        rw [Nat.cast_mul, Nat.cast_pow, Nat.cast_ofNat, ← zpow_natCast]
        congr 2
        omega
      rw [hcast, half_up_natCast]
  · next h =>
      rw [shiftRight_half_up]
      congr 3
      omega

/-- **`quantize`** rounds to the nearest multiple of the power of ten, half upwards, and
answers as long as the precision can carry that many. -/
theorem quantize_half_up (ctx : Context) (x : Finite) {exponent : ℤ}
    (hlow : ctx.Etiny ≤ exponent) (hhigh : exponent + ctx.prec - 1 ≤ ctx.Emax) :
    x.quantize ctx exponent .HALF_UP =
      if half_up (x.coefficient * (10 : ℚ) ^ (x.exponent - exponent)) < 10 ^ ctx.prec then
        .ok ⟨x.negative, half_up (x.coefficient * (10 : ℚ) ^ (x.exponent - exponent)), exponent⟩
      else .error .InvalidOperation := by
  have hprec := ctx.prec_pos
  unfold Finite.quantize
  rw [if_neg (by omega)]
  by_cases hzero : x.coefficient = 0
  · have hhalf : half_up 0 = 0 := by
      rw [← Nat.cast_zero, half_up_natCast]
    rw [if_pos hzero, hzero, Nat.cast_zero, zero_mul, hhalf, if_pos (by positivity)]
  rw [if_neg hzero]
  by_cases hlong : (ctx.prec : ℤ) < numdigits x.coefficient + (x.exponent - exponent)
  · rw [if_pos hlong, if_neg (Nat.not_lt_of_le (le_half_up (units_long hzero hlong)))]
  rw [if_neg hlong, moved_half_up]
  extract_lets coefficient result
  show _ = if coefficient < 10 ^ ctx.prec then Except.ok result else _
  by_cases hfits : coefficient < 10 ^ ctx.prec
  · have hdigits := (numdigits_le_iff hprec).mpr hfits
    rw [if_pos hfits, if_neg]
    rintro (h | h)
    · omega
    · have hadjusted : result.adjusted = exponent + numdigits coefficient - 1 := rfl
      omega
  · have hdigits := mt (numdigits_le_iff hprec).mp hfits
    rw [if_neg hfits, if_pos (.inl (by omega))]

theorem checkExponent_in_range (ctx : Context) {x : Finite} (hne : x.coefficient ≠ 0)
    (hlow : ctx.Etiny ≤ x.exponent) (hhigh : x.adjusted ≤ ctx.Emax) :
    checkExponent ctx x = .ok x := by
  unfold checkExponent
  rw [if_neg hne, if_neg (by omega), if_neg (by omega)]

theorem checkRound_short {ctx : Context} {y : Finite} (h : numdigits y.coefficient ≤ ctx.prec) :
    checkRound ctx y = .ok y := by
  unfold checkRound
  rw [if_neg (not_lt.mpr h)]

theorem finalize_of_checkExponent {ctx : Context} {x y : Finite} (h : checkExponent ctx x = .ok y) :
    finalize ctx x = checkRound ctx y := by
  unfold finalize
  rw [h]
  rfl

/-- A result that the context can hold is left as it is. -/
theorem finalize_fits (ctx : Context) (x : Finite) (hlow : ctx.Etiny ≤ x.exponent)
    (hhigh : x.exponent + ctx.prec - 1 ≤ ctx.Emax) (hfits : x.coefficient < 10 ^ ctx.prec) :
    finalize ctx x = .ok x := by
  have hdigits := (numdigits_le_iff ctx.prec_pos).mpr hfits
  have hprec := ctx.prec_pos
  have hexponent : checkExponent ctx x = .ok x := by
    by_cases hzero : x.coefficient = 0
    · have hsame : max ctx.Etiny (min ctx.Emax x.exponent) = x.exponent := by omega
      rw [checkExponent, if_pos hzero, hsame]
    · have hadjusted : x.adjusted = x.exponent + numdigits x.coefficient - 1 := rfl
      exact checkExponent_in_range ctx hzero hlow (by omega)
  rw [finalize_of_checkExponent hexponent, checkRound_short hdigits]

/-- What is left of a coefficient after its last digits: as many as were to be kept, or a
power of ten of one more. -/
theorem shiftRight_kept (rounding : Rounding) {coefficient prec count : ℕ} (hprec : 0 < prec)
    (hdigits : numdigits coefficient = prec + count) (hne : coefficient ≠ 0) :
    10 ^ (prec - 1) ≤ shiftRight rounding coefficient count
      ∧ shiftRight rounding coefficient count ≤ 10 ^ prec := by
  have hbounds := quotient_bounds rounding coefficient (10 ^ count)
  rw [shiftRight_eq]
  constructor
  · calc 10 ^ (prec - 1) = 10 ^ (numdigits coefficient - 1) / 10 ^ count := by
          rw [Nat.pow_div (by omega) (by decide)]
          congr 1
          omega
      _ ≤ coefficient / 10 ^ count := Nat.div_le_div_right (pow_numdigits_le hne)
      _ ≤ rounding.quotient coefficient (10 ^ count) := hbounds.1
  · have hquotient : coefficient / 10 ^ count < 10 ^ prec := by
      rw [Nat.div_lt_iff_lt_mul (by positivity), ← Nat.pow_add, ← hdigits]
      exact (numdigits_le_iff (numdigits_pos _)).mp le_rfl
    exact hbounds.2.trans hquotient

/-- A carry into one digit more leaves a power of ten, and the zero comes off. -/
theorem carried {prec coefficient : ℕ} (hprec : 0 < prec) (hle : coefficient ≤ 10 ^ prec)
    (hlong : prec < numdigits coefficient) :
    coefficient = 10 ^ (prec - 1) * 10 ∧ coefficient / 10 = 10 ^ (prec - 1)
      ∧ numdigits (coefficient / 10) = prec := by
  have hge : 10 ^ prec ≤ coefficient :=
    not_lt.mp (mt (numdigits_le_iff hprec).mpr (Nat.not_le_of_lt hlong))
  have hpow : 10 ^ prec = 10 ^ (prec - 1) * 10 := by
    rw [← Nat.pow_succ]
    congr 1
    omega
  have htenth : coefficient / 10 = 10 ^ (prec - 1) := by omega
  refine ⟨by omega, htenth, ?_⟩
  rw [htenth]
  apply le_antisymm
  · exact (numdigits_le_iff hprec).mpr (Nat.pow_lt_pow_right (by decide) (by omega))
  · by_contra hshort
    rcases Nat.eq_zero_or_pos (prec - 1) with hone | hmore
    · have := numdigits_pos (10 ^ (prec - 1))
      omega
    · exact lt_irrefl _ ((numdigits_le_iff hmore).mp (by omega))

/-- A result of more digits keeps as many as the context carries, in units of a higher power
of ten. -/
theorem finalize_long (ctx : Context) (x : Finite) (hlow : ctx.Etiny ≤ x.exponent)
    (hhigh : x.adjusted < ctx.Emax) (hlong : 10 ^ ctx.prec ≤ x.coefficient) :
    ∃ y, finalize ctx x = .ok y ∧ y.negative = x.negative ∧ x.exponent < y.exponent
      ∧ y.adjusted ≤ ctx.Emax ∧ numdigits y.coefficient ≤ ctx.prec
      ∧ 10 ^ (ctx.prec - 1) ≤ y.coefficient := by
  have hprec := ctx.prec_pos
  have hne : x.coefficient ≠ 0 := by
    have hpow : 0 < 10 ^ ctx.prec := by positivity
    omega
  have hdigits : ctx.prec < numdigits x.coefficient :=
    not_le.mp (mt (numdigits_le_iff hprec).mp (Nat.not_lt_of_le hlong))
  have hadjusted : x.adjusted = x.exponent + numdigits x.coefficient - 1 := rfl
  rw [finalize_of_checkExponent (checkExponent_in_range ctx hne hlow hhigh.le)]
  unfold checkRound
  rw [if_pos hdigits]
  extract_lets count coefficient
  have hcount : numdigits x.coefficient = ctx.prec + count := by omega
  obtain ⟨hkept, hbound⟩ : 10 ^ (ctx.prec - 1) ≤ coefficient ∧ coefficient ≤ 10 ^ ctx.prec :=
    shiftRight_kept .HALF_EVEN hprec hcount hne
  split
  · next hcarry =>
      -- the carry leaves a power of ten, and one zero less of it
      obtain ⟨-, htenth, hshort⟩ := carried hprec hbound hcarry
      have hone : 0 < 10 ^ (ctx.prec - 1) := by positivity
      have hrange : x.exponent + count + 1 + numdigits (coefficient / 10) - 1 ≤ ctx.Emax := by
        omega
      refine ⟨⟨x.negative, coefficient / 10, x.exponent + count + 1⟩, ?_, rfl, ?_, hrange,
        hshort.le, htenth.ge⟩
      · refine checkExponent_in_range ctx
          (x := ⟨x.negative, coefficient / 10, x.exponent + count + 1⟩) ?_ ?_ hrange
        · show coefficient / 10 ≠ 0
          omega
        · show ctx.Etiny ≤ x.exponent + count + 1
          omega
      · show x.exponent < x.exponent + count + 1
        omega
  · next hcarry =>
      have hshort : numdigits coefficient ≤ ctx.prec := not_lt.mp hcarry
      refine ⟨⟨x.negative, coefficient, x.exponent + count⟩, rfl, rfl, ?_, ?_, hshort, hkept⟩
      · show x.exponent < x.exponent + count
        omega
      · show x.exponent + count + numdigits coefficient - 1 ≤ ctx.Emax
        omega

/-! ## 7. Sums and differences in one unit

Where both numbers are counts of one power of ten, the sum is the count added up, as long
as the precision carries it. One that it does not carry is rounded in a higher unit, and
no `quantize` brings that back to the first. -/

/-- The count of units, with its sign. -/
def Finite.count (x : Finite) : ℤ := if x.negative then -x.coefficient else x.coefficient

theorem scaled_self {x : Finite} {exponent : ℤ} (h : x.exponent = exponent) :
    x.scaled exponent = x.count := by
  unfold Finite.scaled Finite.count
  rw [h, sub_self, Int.toNat_zero, pow_zero, mul_one]

/-- Zero keeps the sign that both have. -/
def sumSign (x y : Finite) : Bool :=
  if x.count + y.count = 0 then x.negative && y.negative else decide (x.count + y.count < 0)

theorem add_same (ctx : Context) {x y : Finite} {exponent : ℤ} (hx : x.exponent = exponent)
    (hy : y.exponent = exponent) :
    x.add ctx y = finalize ctx ⟨sumSign x y, (x.count + y.count).natAbs, exponent⟩ := by
  unfold Finite.add
  rw [hx, hy, min_self]
  dsimp only
  rw [scaled_self hx, scaled_self hy]
  rfl

section

variable {ctx : Context} {x y : Finite} {exponent : ℤ}

/-- **A sum that fits is exact.** -/
theorem add_exact (hx : x.exponent = exponent) (hy : y.exponent = exponent)
    (hlow : ctx.Etiny ≤ exponent) (hhigh : exponent + ctx.prec - 1 ≤ ctx.Emax)
    (hfits : (x.count + y.count).natAbs < 10 ^ ctx.prec) :
    x.add ctx y = .ok ⟨sumSign x y, (x.count + y.count).natAbs, exponent⟩ := by
  rw [add_same ctx hx hy]
  exact finalize_fits ctx _ hlow hhigh hfits

/-- **A sum that does not fit is no longer counted in the unit**, nor can it be again. -/
theorem add_long (hx : x.exponent = exponent) (hy : y.exponent = exponent)
    (hlow : ctx.Etiny ≤ exponent) (hhigh : exponent + ctx.prec < ctx.Emax)
    (hlong : 10 ^ ctx.prec ≤ (x.count + y.count).natAbs)
    (hcarry : (x.count + y.count).natAbs < 10 ^ (ctx.prec + 1)) :
    ∃ sum, x.add ctx y = .ok sum ∧ sum.negative = sumSign x y ∧ exponent < sum.exponent
      ∧ sum.adjusted ≤ ctx.Emax ∧ numdigits sum.coefficient ≤ ctx.prec
      ∧ sum.quantize ctx exponent .HALF_UP = .error .InvalidOperation := by
  have hdigits : numdigits (x.count + y.count).natAbs ≤ ctx.prec + 1 :=
    (numdigits_le_iff (Nat.succ_pos _)).mpr hcarry
  have hadjusted : Finite.adjusted ⟨sumSign x y, (x.count + y.count).natAbs, exponent⟩
      < ctx.Emax := by
    show exponent + numdigits (x.count + y.count).natAbs - 1 < ctx.Emax
    omega
  obtain ⟨sum, hsum, hsign, hexponent, hrange, hshort, hlarge⟩ :=
    finalize_long ctx ⟨sumSign x y, (x.count + y.count).natAbs, exponent⟩ hlow hadjusted hlong
  rw [add_same ctx hx hy]
  refine ⟨sum, hsum, hsign, hexponent, hrange, hshort, ?_⟩
  have hexponent' : exponent < sum.exponent := hexponent
  have hunits : ((10 ^ ctx.prec : ℕ) : ℚ)
      ≤ sum.coefficient * (10 : ℚ) ^ (sum.exponent - exponent) := by
    have hprec := ctx.prec_pos
    have hcoefficient : (10 : ℚ) ^ (ctx.prec - 1) ≤ sum.coefficient := by exact_mod_cast hlarge
    calc ((10 ^ ctx.prec : ℕ) : ℚ) = (10 : ℚ) ^ (ctx.prec - 1) * 10 ^ (1 : ℤ) := by
          rw [zpow_one, ← pow_succ, Nat.cast_pow, Nat.cast_ofNat]
          congr 1
          omega
      _ ≤ sum.coefficient * (10 : ℚ) ^ (sum.exponent - exponent) :=
          mul_le_mul hcoefficient (zpow_le_zpow_right₀ (by norm_num) (by omega)) (by norm_num)
            (by positivity)
  rw [quantize_half_up ctx sum hlow (by omega), if_neg (Nat.not_lt_of_le (le_half_up hunits))]

end

end TradeLogistics.PyDecimal
