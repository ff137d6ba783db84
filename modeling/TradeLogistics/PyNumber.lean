/-
The part of Python's numbers the modules lean on: `float` with its comparisons, the
conversion between `int` and `float`, and `int(text)`; and the values a constructor
may be handed, told apart as `isinstance` tells them apart.

A `float` is a rational, an infinity or NaN. Arithmetic on floats does not occur in
the program, so nothing here rounds except the conversion of an `int`, which takes the
nearest double and refuses what is beyond the largest one.
-/
import TradeLogistics.PyText
import Mathlib.Data.Rat.Floor

set_option autoImplicit false

namespace TradeLogistics.PyNumber

open TradeLogistics.PyText

/-! ## 1. `float` -/

inductive PyFloat where
  | finite (q : ℚ)
  | inf
  | neg_inf
  | nan
  deriving DecidableEq

/-- `x < y`: nothing compares with NaN. -/
def PyFloat.lt : PyFloat → PyFloat → Bool
  | .nan, _ => false
  | _, .nan => false
  | .finite p, .finite q => p < q
  | .neg_inf, .neg_inf => false
  | .neg_inf, _ => true
  | _, .neg_inf => false
  | .inf, _ => false
  | _, .inf => true

/-- `x <= y`. -/
def PyFloat.le : PyFloat → PyFloat → Bool
  | .nan, _ => false
  | _, .nan => false
  | .finite p, .finite q => p ≤ q
  | .neg_inf, _ => true
  | _, .inf => true
  | _, .neg_inf => false
  | .inf, _ => false

/-- `math.isfinite(x)`. -/
def PyFloat.isfinite : PyFloat → Bool
  | .finite _ => true
  | _ => false

/-- The natural number nearest to `n` that a significand of 53 bits holds, the even one
of two equally near. -/
def nearestDouble (n : ℕ) : ℕ :=
  let unit := 2 ^ (Nat.log2 n - 52)
  let below := n / unit
  let rest := n % unit
  let rounded := if 2 * rest > unit || (2 * rest == unit && below % 2 == 1) then below + 1
    else below
  rounded * unit

/-- `float(n)`, `none` where it raises `OverflowError`. -/
def float_of_int (n : ℤ) : Option PyFloat :=
  let magnitude := nearestDouble n.natAbs
  if 2 ^ 1024 ≤ magnitude then none
  else some (.finite (if n < 0 then -(magnitude : ℚ) else (magnitude : ℚ)))

/-- `int(q)` of a finite number: towards zero. -/
def truncate (q : ℚ) : ℤ := if q < 0 then ⌈q⌉ else ⌊q⌋

/-! ## 2. `int(text)` -/

/-- The value of one decimal digit, of any script. -/
def decimalValue (c : Char) : Option ℕ :=
  let n := c.toNat
  (UnicodeTables.decimalZeros.find? fun z => z ≤ n && n < z + 10).map fun z => n - z

/-- The digits of a number, most significant first: single underscores may stand
between two digits. -/
def decimalDigits (acc : ℕ) : List Char → Option ℕ
  | [] => some acc
  | ['_'] => none
  | '_' :: '_' :: _ => none
  | '_' :: c :: cs => (decimalValue c).bind fun d => decimalDigits (acc * 10 + d) cs
  | c :: cs => (decimalValue c).bind fun d => decimalDigits (acc * 10 + d) cs

/-- The digits `int` converts from a text before it refuses it for length. -/
def INT_MAX_STR_DIGITS : ℕ := 4300

/-- `int(text)` with the blanks of the text already told apart: one sign, then digits. -/
def intDigits (cs : List Char) : Option ℤ :=
  let (negative, digits) := match cs with
    | '-' :: rest => (true, rest)
    | '+' :: rest => (false, rest)
    | _ => (false, cs)
  match digits with
  | [] => none
  | '_' :: _ => none
  | _ =>
    if (digits.filter (· != '_')).length > INT_MAX_STR_DIGITS then none
    else (decimalDigits 0 digits).map fun n => if negative then -(n : ℤ) else (n : ℤ)

/-- `int(text)` of a string, `none` where it raises `ValueError`. -/
def int_of_str (s : String) : Option ℤ := intDigits (numberText s.toList)

/-- `int(text)` of a byte string, which has to be ASCII. -/
def int_of_bytes (bs : List UInt8) : Option ℤ :=
  if bs.all (· < 128) then
    intDigits (stripChars isspaceByte (bs.map fun b => Char.ofNat b.toNat))
  else none

example : int_of_str " -1_000 " = some (-1000) := by decide

-- `str.strip` would take this separator away, `int` refuses it
example : int_of_str "\x1c5" = none := by decide

theorem isDigit_bounds {c : Char} (h : c.isDigit = true) : 48 ≤ c.toNat ∧ c.toNat ≤ 57 := by
  simp only [Char.isDigit, Bool.and_eq_true, decide_eq_true_eq] at h
  exact h

/-- A fact about every digit, by a look at each. -/
theorem of_digits {p : Char → Prop} (h : ∀ n, 48 ≤ n → n ≤ 57 → p (Char.ofNat n)) {c : Char}
    (hc : c.isDigit = true) : p c := by
  obtain ⟨hlow, hhigh⟩ := isDigit_bounds hc
  rw [← Char.ofNat_toNat c]
  exact h c.toNat hlow hhigh

/-- A digit is no blank, no sign and no underscore, and its value is its place after '0'. -/
theorem digit_plain {c : Char} (hc : c.isDigit = true) : c ≠ '_' ∧ c ≠ '-' ∧ c ≠ '+'
    ∧ (asciiDigitOrSpace c = c ∧ isspaceByte c = false)
    ∧ decimalValue c = some (c.toNat - '0'.toNat) := by
  apply of_digits _ hc
  intro n hn hn'
  interval_cases n <;> decide

theorem decimalDigits_cons {c : Char} (hc : c ≠ '_') (acc : ℕ) (cs : List Char) :
    decimalDigits acc (c :: cs) =
      (decimalValue c).bind fun d => decimalDigits (acc * 10 + d) cs := by
  rw [decimalDigits]
  · exact fun h => absurd h hc
  · exact fun _ h => absurd h hc
  · exact fun _ _ h => absurd h hc

theorem decimalDigits_eq {cs : List Char} (h : ∀ c ∈ cs, c.isDigit = true) (acc : ℕ) :
    decimalDigits acc cs = some (Nat.ofDigitChars 10 cs acc) := by
  induction cs generalizing acc with
  | nil => rfl
  | cons c cs ih =>
      obtain ⟨hunderscore, -, -, -, hvalue⟩ := digit_plain (h c List.mem_cons_self)
      rw [decimalDigits_cons hunderscore, hvalue, Option.bind_some,
        ih (fun d hd => h d (List.mem_cons_of_mem c hd)), Nat.ofDigitChars_cons, Nat.mul_comm]

/-- Digits alone are read as the number they are the notation of. -/
theorem int_of_digits {cs : List Char} (h : ∀ c ∈ cs, c.isDigit = true) (hne : cs ≠ [])
    (hshort : cs.length ≤ INT_MAX_STR_DIGITS) :
    int_of_str (String.ofList cs) = some (Nat.ofDigitChars 10 cs 0 : ℤ) := by
  have hread : numberText cs = cs :=
    numberText_eq_self fun c hc => (digit_plain (h c hc)).2.2.2.1
  have hfilter : cs.filter (· != '_') = cs :=
    List.filter_eq_self.mpr fun c hc => bne_iff_ne.mpr (digit_plain (h c hc)).1
  cases cs with
  | nil => exact absurd rfl hne
  | cons c cs =>
      obtain ⟨hunderscore, hminus, hplus, -, -⟩ := digit_plain (h c List.mem_cons_self)
      rw [int_of_str, String.toList_ofList, hread, intDigits]
      · rw [hfilter, if_neg (Nat.not_lt_of_le hshort), decimalDigits_eq h]
        rfl
      · exact fun rest heq => absurd (List.cons.inj heq).1 hminus
      · exact fun rest heq => absurd (List.cons.inj heq).1 hplus
      · exact fun heq => absurd heq hne
      · exact fun rest heq => absurd (List.cons.inj heq).1 hunderscore

/-- `str(n)`: a minus sign for a negative number, then the digits of its magnitude. -/
theorem toString_chars (n : ℤ) : (toString n).toList =
    (if n < 0 then ['-'] else []) ++ Nat.toDigits 10 n.natAbs := by
  rw [Int.toString_eq_repr, Int.repr_eq_if]
  by_cases hneg : n < 0
  · have habs : (-n).toNat = n.natAbs := by omega
    rw [if_neg (by omega), if_pos hneg, habs, Nat.repr_eq_ofList_toDigits, String.toList_append,
      String.toList_ofList (l := Nat.toDigits 10 n.natAbs)]
    rfl
  · have habs : n.toNat = n.natAbs := by omega
    rw [if_pos (by omega), if_neg hneg, habs, Nat.repr_eq_ofList_toDigits, String.toList_ofList,
      List.nil_append]

/-- `str(n)`, `none` where it raises `ValueError`: the digits are limited this way too.
The bound is a number of 4300 digits, which no proof should evaluate. -/
@[irreducible] def str_of_int (n : ℤ) : Option String :=
  if 10 ^ INT_MAX_STR_DIGITS ≤ n.natAbs then none else some (toString n)

theorem str_of_int_eq {n : ℤ} {s : String} (h : str_of_int n = some s) : s = toString n := by
  unfold str_of_int at h
  split at h
  · cases h
  · rw [Option.some.injEq] at h
    exact h.symm

theorem lt_of_str_of_int {n : ℤ} {s : String} (h : str_of_int n = some s) :
    n.natAbs < 10 ^ INT_MAX_STR_DIGITS := by
  unfold str_of_int at h
  split at h
  · cases h
  · next hshort => exact not_le.mp hshort

theorem str_of_int_none {n : ℤ} (h : 10 ^ INT_MAX_STR_DIGITS ≤ n.natAbs) :
    str_of_int n = none := by
  unfold str_of_int
  rw [if_pos h]

/-- `str(n)` answers for every integer of at most 4300 digits. -/
theorem str_of_int_of_lt {n : ℤ} {k : ℕ} (hk : k ≤ INT_MAX_STR_DIGITS) (h : n.natAbs < 10 ^ k) :
    str_of_int n = some (toString n) := by
  unfold str_of_int
  split
  · next hlong =>
      exact absurd (h.trans_le (Nat.pow_le_pow_right (by decide) hk)) (Nat.not_lt_of_le hlong)
  · rfl

/-- The text of that `ValueError`. -/
def STR_DIGITS_EXCEEDED : String :=
  s!"Exceeds the limit ({INT_MAX_STR_DIGITS} digits) for integer string conversion; "
    ++ "use sys.set_int_max_str_digits() to increase the limit"

/-! ## 3. Values of any type -/

/-- What a caller may pass where the source checks the type itself. -/
inductive Value where
  | none
  | bool (b : Bool)
  | int (n : ℤ)
  | float (x : PyFloat)
  | str (s : String)
  | uuid (u : Uuid)
  | other
  deriving DecidableEq

end TradeLogistics.PyNumber
