/-
Waybill numbers as an encoding of serials.

`from_serial` prints the serial into the carrier format and hands the text to the
constructor, so which serials it encodes is decided by an anchored pattern: seven digits
are what a serial below `10 ^ 7` is padded to, a minus sign is no digit, and from eight
digits on nothing is padded. The digits of a number read back as its serial, and one
serial gives one number.

The serials come from a sequence that starts at 1, is bounded by the largest serial of
seven digits and does not cycle, so every draw is encoded until the sequence itself
refuses, and no two draws agree.
-/
import TradeLogistics.ShipmentRoutes

set_option autoImplicit false

namespace TradeLogistics.Shipments

open TradeLogistics.PyText TradeLogistics.PyNumber

/-! ## 1. `from_serial` -/

/-- What can go wrong between drawing a serial and its waybill number: the constructor
refuses it, the interpreter refuses to print it, or the sequence has no more. -/
inductive SerialError where
  | refused (error : ShipmentError)
  | ValueError (detail : String)
  | SequenceGeneratorLimitExceeded (detail : String)
  deriving DecidableEq, Repr

/-- `f"{n:0{width}d}"`: zeros up to the width, after the sign. -/
def zero_padded (width : ℕ) (n : ℤ) : Option String :=
  (str_of_int n).map fun text =>
    match text.toList with
    | '-' :: digits => String.ofList ('-' :: digits.leftpad (width - 1) '0')
    | digits => String.ofList (digits.leftpad width '0')

def SERIAL_DIGITS : ℕ := 7

/-- `WaybillNumber.from_serial(serial)`. -/
def WaybillNumber.from_serial (serial : ℤ) : Except SerialError WaybillNumber :=
  match zero_padded SERIAL_DIGITS serial with
  | none => .error (.ValueError STR_DIGITS_EXCEEDED)
  | some digits => (WaybillNumber.make (.str ("MUST-" ++ digits))).mapError .refused

/-- What is printed after the prefix. -/
def WaybillNumber.digits (number : WaybillNumber) : String :=
  String.ofList (number.value.toList.drop 5)

/-! ## 2. What is printed -/

/-- The characters: zeros in front of the digits of the magnitude, a minus sign in front of
these, which takes one of the places. -/
def padded (width : ℕ) (n : ℤ) : List Char :=
  if n < 0 then '-' :: (Nat.toDigits 10 n.natAbs).leftpad (width - 1) '0'
  else (Nat.toDigits 10 n.natAbs).leftpad width '0'

theorem zero_padded_eq (width : ℕ) (n : ℤ) :
    zero_padded width n = (str_of_int n).map fun _ => String.ofList (padded width n) := by
  cases htext : str_of_int n with
  | none => rw [zero_padded, htext, Option.map_none, Option.map_none]
  | some text =>
      have hchars := toString_chars n
      rw [← str_of_int_eq htext] at hchars
      rw [zero_padded, htext, Option.map_some, Option.map_some, Option.some.injEq, hchars, padded]
      by_cases hneg : n < 0
      · rw [if_pos hneg, if_pos hneg]
        rfl
      · rw [if_neg hneg, if_neg hneg, List.nil_append]
        split
        · -- a minus sign is no digit, so this branch is not taken
          next digits hminus =>
            have hdigit : '-' ∈ Nat.toDigits 10 n.natAbs := by
              rw [hminus]
              exact List.mem_cons_self
            exact absurd (Nat.isDigit_of_mem_toDigits (by decide) (by decide) hdigit) (by decide)
        · rfl

/-- Padded digits are digits. -/
theorem leftpad_digits {width n : ℕ} :
    ∀ c ∈ (Nat.toDigits 10 n).leftpad width '0', c.isDigit = true := by
  intro c hc
  rw [List.leftpad, List.mem_append] at hc
  rcases hc with hzero | hdigit
  · rw [(List.mem_replicate.mp hzero).2]
    rfl
  · exact Nat.isDigit_of_mem_toDigits (by decide) (by decide) hdigit

/-- Zeros in front do not count. -/
theorem leftpad_value {width n : ℕ} :
    Nat.ofDigitChars 10 ((Nat.toDigits 10 n).leftpad width '0') 0 = n := by
  rw [List.leftpad, Nat.ofDigitChars_append, Nat.ofDigitChars_replicate_zero, Nat.mul_zero,
    Nat.ofDigitChars_ten_toDigits]

/-- They fill the width exactly up to the largest number of that many digits. -/
theorem leftpad_length_iff {width n : ℕ} (hwidth : 0 < width) :
    ((Nat.toDigits 10 n).leftpad width '0').length = width ↔ n < 10 ^ width := by
  rw [List.length_leftpad, ← Nat.length_toDigits_le_iff (by decide) hwidth]
  omega

/-- So the pattern's digits are what is padded of a number that is not negative and not
beyond the width. -/
theorem padded_digits_iff {width : ℕ} {n : ℤ} (hwidth : 0 < width) :
    ((padded width n).length = width ∧ ∀ c ∈ padded width n, c.isDigit = true)
      ↔ 0 ≤ n ∧ n.natAbs < 10 ^ width := by
  unfold padded
  by_cases hneg : n < 0
  · rw [if_pos hneg]
    constructor
    · rintro ⟨-, hdigits⟩
      exact absurd (hdigits '-' List.mem_cons_self) (by decide)
    · rintro ⟨hnonneg, -⟩
      omega
  · rw [if_neg hneg, leftpad_length_iff hwidth]
    constructor
    · rintro ⟨hfits, -⟩
      exact ⟨not_lt.mp hneg, hfits⟩
    · rintro ⟨-, hfits⟩
      exact ⟨hfits, leftpad_digits⟩

/-- Nothing printed is a blank or a small letter. -/
theorem digit_range {c : Char} (h : c.isDigit = true) : 45 ≤ c.toNat ∧ c.toNat ≤ 90 := by
  have hbounds := isDigit_bounds h
  omega

theorem padded_range {width : ℕ} {n : ℤ} :
    ∀ c ∈ padded width n, 45 ≤ c.toNat ∧ c.toNat ≤ 90 := by
  intro c hc
  unfold padded at hc
  split at hc
  · rcases List.mem_cons.mp hc with rfl | hc
    · decide
    · exact digit_range (leftpad_digits c hc)
  · exact digit_range (leftpad_digits c hc)

/-! ## 3. What the constructor makes of it -/

namespace WaybillNumber

theorem make_str (s : String) : make (.str s) =
    if h : WAYBILL_NUMBER_PATTERN (normalized s) = true then .ok ⟨normalized s, h⟩
    else .error (.InvalidWaybillNumberError
      (s!"'{s}' does not match the carrier waybill format " ++ "'^MUST-[0-9]\x7b7\x7d$'.")) := by
  unfold normalized
  rfl

theorem prefixed_chars (cs : List Char) :
    ("MUST-" ++ String.ofList cs).toList = 'M' :: 'U' :: 'S' :: 'T' :: '-' :: cs := by
  rw [String.toList_append, String.toList_ofList (l := cs)]
  rfl

theorem pattern_iff {cs : List Char} :
    WAYBILL_NUMBER_PATTERN ("MUST-" ++ String.ofList cs) = true
      ↔ cs.length = SERIAL_DIGITS ∧ ∀ c ∈ cs, c.isDigit = true := by
  rw [WAYBILL_NUMBER_PATTERN, prefixed_chars]
  simp only [Bool.and_eq_true, beq_iff_eq, List.all_eq_true, isDigitAscii_iff]
  rfl

/-- Behind the prefix, a text without blanks and small letters is in normal form. -/
theorem normalized_prefixed {cs : List Char} (h : ∀ c ∈ cs, 45 ≤ c.toNat ∧ c.toNat ≤ 90) :
    normalized ("MUST-" ++ String.ofList cs) = "MUST-" ++ String.ofList cs := by
  have hprefix : ("MUST-".toList.all fun c => decide (45 ≤ c.toNat ∧ c.toNat ≤ 90)) = true := by
    decide
  unfold normalized
  apply upper_strip_plain
  intro c hc
  rw [String.toList_append, String.toList_ofList (l := cs), List.mem_append] at hc
  rcases hc with hc | hc
  · exact of_decide_eq_true (List.all_eq_true.mp hprefix c hc)
  · exact h c hc

/-- A number is the prefix and seven digits. -/
theorem value_eq (number : WaybillNumber) : ∃ cs, number.value = "MUST-" ++ String.ofList cs
    ∧ cs.length = SERIAL_DIGITS ∧ ∀ c ∈ cs, c.isDigit = true := by
  obtain ⟨value, hprinted⟩ := number
  have hchars : ∃ cs, value = "MUST-" ++ String.ofList cs := by
    unfold WAYBILL_NUMBER_PATTERN at hprinted
    split at hprinted
    · next cs hvalue =>
        refine ⟨cs, ?_⟩
        rw [← String.toList_inj, hvalue, prefixed_chars]
    · cases hprinted
  obtain ⟨cs, rfl⟩ := hchars
  exact ⟨cs, rfl, pattern_iff.mp hprinted⟩

/-- **Read back from its column a number is itself.** -/
theorem make_value (number : WaybillNumber) : make (.str number.value) = .ok number := by
  have hnormal : normalized number.value = number.value := by
    obtain ⟨cs, hvalue, -, hdigits⟩ := number.value_eq
    rw [hvalue, normalized_prefixed fun c hc => digit_range (hdigits c hc)]
  have hprinted : WAYBILL_NUMBER_PATTERN (normalized number.value) = true := by
    rw [hnormal]
    exact number.printed
  rw [make_str, dif_pos hprinted]
  simp only [hnormal]

/-! ## 4. What `from_serial` makes of a serial -/

theorem from_serial_too_long {serial : ℤ} (h : 10 ^ INT_MAX_STR_DIGITS ≤ serial.natAbs) :
    from_serial serial = .error (.ValueError STR_DIGITS_EXCEEDED) := by
  rw [from_serial, zero_padded_eq, str_of_int_none h]
  rfl

theorem from_serial_printed {serial : ℤ} {text : String} (h : str_of_int serial = some text) :
    from_serial serial =
      (make (.str ("MUST-" ++ String.ofList (padded SERIAL_DIGITS serial)))).mapError .refused := by
  rw [from_serial, zero_padded_eq, h]
  rfl

/-- Seven digits reach as far as the pattern asks. -/
theorem encodable_iff {serial : ℤ} : (0 ≤ serial ∧ serial ≤ 9999999) ↔
    WAYBILL_NUMBER_PATTERN ("MUST-" ++ String.ofList (padded SERIAL_DIGITS serial)) = true := by
  have hlargest : 10 ^ SERIAL_DIGITS = 9999999 + 1 := by rfl
  rw [pattern_iff, padded_digits_iff (by decide), hlargest]
  omega

theorem from_serial_encodable {serial : ℤ} (h : 0 ≤ serial ∧ serial ≤ 9999999) :
    ∃ number, from_serial serial = .ok number
      ∧ number.value = "MUST-" ++ String.ofList (padded SERIAL_DIGITS serial) := by
  have htext := @str_of_int_of_lt serial 7 (by decide) (by omega)
  have hprinted := encodable_iff.mp h
  have hmade := make_value ⟨_, hprinted⟩
  rw [from_serial_printed htext, hmade]
  exact ⟨_, rfl, rfl⟩

theorem from_serial_refused {serial : ℤ} (h : ¬ (0 ≤ serial ∧ serial ≤ 9999999))
    (hshort : serial.natAbs < 10 ^ INT_MAX_STR_DIGITS) :
    ∃ detail, from_serial serial = .error (.refused (.InvalidWaybillNumberError detail)) := by
  have hnormal := normalized_prefixed (@padded_range SERIAL_DIGITS serial)
  rw [from_serial_printed (str_of_int_of_lt le_rfl hshort), make_str, dif_neg]
  · exact ⟨_, rfl⟩
  · rw [hnormal, ← encodable_iff]
    exact h

theorem from_serial_ok {serial : ℤ} {number : WaybillNumber} (h : from_serial serial = .ok number) :
    (0 ≤ serial ∧ serial ≤ 9999999)
      ∧ number.value = "MUST-" ++ String.ofList (padded SERIAL_DIGITS serial) := by
  -- what is returned outside the range is an error, of one kind or the other
  by_cases hrange : 0 ≤ serial ∧ serial ≤ 9999999
  · obtain ⟨encoded, hencoded, hvalue⟩ := from_serial_encodable hrange
    rw [hencoded, Except.ok.injEq] at h
    exact ⟨hrange, h ▸ hvalue⟩
  · by_cases hshort : serial.natAbs < 10 ^ INT_MAX_STR_DIGITS
    · obtain ⟨detail, hrefused⟩ := from_serial_refused hrange hshort
      rw [hrefused] at h
      cases h
    · rw [from_serial_too_long (not_lt.mp hshort)] at h
      cases h

example : (from_serial 90210).map (·.value) = .ok "MUST-0090210" := by decide +kernel

/-- **The seven digits read back as the serial.** -/
theorem digits_from_serial {serial : ℤ} {number : WaybillNumber}
    (h : from_serial serial = .ok number) : int_of_str number.digits = some serial := by
  obtain ⟨hrange, hvalue⟩ := from_serial_ok h
  have hpadded : padded SERIAL_DIGITS serial =
      (Nat.toDigits 10 serial.natAbs).leftpad SERIAL_DIGITS '0' := if_neg (not_lt.mpr hrange.1)
  have hprinted := pattern_iff.mp (encodable_iff.mp hrange)
  have hne : padded SERIAL_DIGITS serial ≠ [] := by
    intro hnil
    rw [hnil] at hprinted
    exact absurd hprinted.1 (by decide)
  have hshort : (padded SERIAL_DIGITS serial).length ≤ INT_MAX_STR_DIGITS := by
    rw [hprinted.1]
    decide
  rw [digits, hvalue, prefixed_chars]
  simp only [List.drop_succ_cons, List.drop_zero]
  rw [int_of_digits hprinted.2 hne hshort, hpadded, leftpad_value]
  exact congrArg some (Int.natAbs_of_nonneg hrange.1)

/-- So one number has one serial. -/
theorem from_serial_injective {serial other : ℤ} {number : WaybillNumber}
    (h : from_serial serial = .ok number) (hother : from_serial other = .ok number) :
    serial = other := by
  have hread := digits_from_serial h
  rw [digits_from_serial hother, Option.some.injEq] at hread
  exact hread.symm

theorem digits_length (number : WaybillNumber) : number.digits.length = SERIAL_DIGITS := by
  obtain ⟨cs, hvalue, hlength, -⟩ := number.value_eq
  rw [digits, hvalue, prefixed_chars, String.length_ofList]
  exact hlength

end WaybillNumber

/-! ## 5. The sequence

`nextval` is atomic and is not undone by a rollback, so the draws of all sessions are one
series, whatever becomes of the transactions they were made in. -/

def START : ℤ := 1

def MAXVALUE : ℤ := 9999999

/-- `shipment.waybill_serial`: the value drawn last, or the one to begin with. -/
structure WaybillSequence where
  last_value : ℤ
  is_called : Bool
  deriving DecidableEq, Repr

namespace WaybillSequence

def created : WaybillSequence := { last_value := START, is_called := false }

/-- `nextval`, `none` at the end of a sequence that does not cycle. -/
def nextval (sequence : WaybillSequence) : Option (ℤ × WaybillSequence) :=
  if sequence.is_called = false then
    some (sequence.last_value, { sequence with is_called := true })
  else if sequence.last_value + 1 > MAXVALUE then none
  else some (sequence.last_value + 1, { sequence with last_value := sequence.last_value + 1 })

/-- What the database answers at the end of the sequence. -/
def exhausted : SerialError :=
  .SequenceGeneratorLimitExceeded
    s!"nextval: reached maximum value of sequence \"waybill_serial\" ({MAXVALUE})"

/-- `PostgresWaybillNumberGenerator.next`. -/
def next (sequence : WaybillSequence) : Except SerialError WaybillNumber × WaybillSequence :=
  match sequence.nextval with
  | none => (.error exhausted, sequence)
  | some (serial, sequence) => (WaybillNumber.from_serial serial, sequence)

/-- The answers to so many draws in a row. -/
def draws : ℕ → WaybillSequence → List (Except SerialError WaybillNumber)
  | 0, _ => []
  | n + 1, sequence => sequence.next.1 :: draws n sequence.next.2

/-- The state after so many draws. -/
def after : ℕ → WaybillSequence
  | 0 => created
  | k + 1 => { last_value := min (k + 1) MAXVALUE, is_called := true }

/-- The answer to the draw after so many. -/
def answer (k : ℕ) : Except SerialError WaybillNumber :=
  if k < 9999999 then WaybillNumber.from_serial (k + 1) else .error exhausted

theorem nextval_left {last_value : ℤ} (h : last_value + 1 ≤ MAXVALUE) :
    nextval { last_value, is_called := true }
      = some (last_value + 1, { last_value := last_value + 1, is_called := true }) := by
  rw [nextval, if_neg Bool.false_ne_true.symm, if_neg (not_lt.mpr h)]

theorem nextval_past {last_value : ℤ} (h : MAXVALUE < last_value + 1) :
    nextval { last_value, is_called := true } = none := by
  rw [nextval, if_neg Bool.false_ne_true.symm, if_pos h]

theorem after_left {k : ℕ} (h : k < 9999999) :
    after (k + 1) = { last_value := k + 1, is_called := true } := by
  have hmax : MAXVALUE = 9999999 := rfl
  rw [after, min_eq_left (by omega)]

theorem after_past {k : ℕ} (h : ¬ k + 1 < 9999999) :
    after (k + 1) = { last_value := MAXVALUE, is_called := true } := by
  have hmax : MAXVALUE = 9999999 := rfl
  rw [after, min_eq_right (by omega)]

/-- One draw: the next serial, until there is none. -/
theorem next_after (k : ℕ) : (after k).next = (answer k, after (k + 1)) := by
  have hmax : MAXVALUE = 9999999 := rfl
  -- the first draw is the start value itself, every later one an increment
  cases k with
  | zero =>
      rw [answer, if_pos (by decide), after_left (by decide), Nat.cast_zero, Int.zero_add]
      rfl
  | succ k =>
      by_cases hleft : k + 1 < 9999999
      · rw [answer, if_pos hleft, after_left hleft, after_left (by omega), next,
          nextval_left (by omega), Nat.cast_add, Nat.cast_one]
      · -- at the end the state stays what it is
        rw [answer, if_neg hleft, after_past hleft, after_past (by omega), next,
          nextval_past (by omega)]

theorem draws_after (n k : ℕ) : draws n (after k) = (List.range' k n).map answer := by
  induction n generalizing k with
  | zero => rfl
  | succ n ih =>
      rw [draws, next_after, ih, List.range'_succ, List.map_cons]

theorem draws_created (n : ℕ) : draws n created = (List.range n).map answer := by
  rw [List.range_eq_range']
  exact draws_after n 0

/-- No two draws are answered with one number. -/
theorem draws_distinct (n : ℕ) : (draws n created).Pairwise fun first second =>
    ∀ number, first = .ok number → second ≠ .ok number := by
  rw [draws_created, List.pairwise_map]
  apply List.pairwise_lt_range.imp
  intro i j hlt number hfirst hsecond
  -- a number names its serial, and the serials of two draws differ
  unfold answer at hfirst hsecond
  split at hfirst
  · split at hsecond
    · have hserial := WaybillNumber.from_serial_injective hfirst hsecond
      omega
    · cases hsecond
  · cases hfirst

/-- Every draw within the sequence is encoded. -/
theorem answer_encoded {k : ℕ} (h : k < 9999999) : ∃ number, answer k = .ok number := by
  obtain ⟨number, hnumber, -⟩ := @WaybillNumber.from_serial_encodable (k + 1) (by omega)
  refine ⟨number, ?_⟩
  rw [answer, if_pos h, hnumber]

end WaybillSequence

/-! ## 6. The encoding -/

open WaybillSequence in
/-- **Waybill numbers encode serials faithfully**, and the sequence never leaves the serials
they encode. -/
theorem WaybillNumber.from_serial_faithful :
    (∀ serial, (∃ number, from_serial serial = .ok number) ↔ 0 ≤ serial ∧ serial ≤ 9999999)
    ∧ (∀ serial, ¬ (0 ≤ serial ∧ serial ≤ 9999999) → serial.natAbs < 10 ^ INT_MAX_STR_DIGITS →
      ∃ detail, from_serial serial = .error (.refused (.InvalidWaybillNumberError detail)))
    ∧ (∀ serial, 10 ^ INT_MAX_STR_DIGITS ≤ serial.natAbs →
      from_serial serial = .error (.ValueError STR_DIGITS_EXCEEDED))
    ∧ (∀ serial number, from_serial serial = .ok number →
      number.digits.length = 7 ∧ int_of_str number.digits = some serial
        ∧ make (.str number.value) = .ok number)
    ∧ (∀ serial other number, from_serial serial = .ok number →
      from_serial other = .ok number → serial = other)
    ∧ ∀ n,
      (∀ k < n, if k < 9999999 then ∃ number, (draws n created)[k]? = some (.ok number)
        else (draws n created)[k]? = some (.error exhausted))
      ∧ (draws n created).Pairwise fun first second =>
        ∀ number, first = .ok number → second ≠ .ok number := by
  refine ⟨fun serial => ?_, fun serial hrange hshort => from_serial_refused hrange hshort,
    fun serial hlong => from_serial_too_long hlong, fun serial number h => ?_,
    fun serial other number h hother => from_serial_injective h hother, fun n => ?_⟩
  · constructor
    · rintro ⟨number, hnumber⟩
      exact (from_serial_ok hnumber).1
    · intro hrange
      obtain ⟨number, hnumber, -⟩ := from_serial_encodable hrange
      exact ⟨number, hnumber⟩
  · exact ⟨number.digits_length, digits_from_serial h, number.make_value⟩
  · refine ⟨fun k hk => ?_, draws_distinct n⟩
    have hdraw : (draws n created)[k]? = some (answer k) := by
      rw [draws_created, List.getElem?_map, List.getElem?_range hk, Option.map_some]
    rw [hdraw]
    split
    · next hleft =>
        obtain ⟨number, hnumber⟩ := answer_encoded hleft
        exact ⟨number, congrArg some hnumber⟩
    · next hpast => rw [answer, if_neg hpast]

/-- There are integers of more digits than the interpreter prints. -/
theorem exists_unprintable :
    ∃ serial : ℤ, 10 ^ INT_MAX_STR_DIGITS ≤ serial.natAbs ∧ 9999999 < serial := by
  -- over every exponent, so that nothing evaluates the power
  have hgrows : ∀ k : ℕ, 7 ≤ k → (10 ^ k : ℤ).natAbs = 10 ^ k ∧ (10 : ℤ) ^ 7 ≤ 10 ^ k :=
    fun k hk => ⟨Int.natAbs_pow 10 k, pow_le_pow_right₀ (by decide) hk⟩
  obtain ⟨habs, hbeyond⟩ := hgrows INT_MAX_STR_DIGITS (by decide)
  exact ⟨_, habs.ge, lt_of_lt_of_le (by decide) hbeyond⟩

/-- Beyond the digits that the interpreter prints, its own `ValueError` is raised. -/
theorem WaybillNumber.from_serial_unprintable :
    ¬ ∀ serial, ¬ (0 ≤ serial ∧ serial ≤ 9999999) →
      ∃ detail, from_serial serial = .error (.refused (.InvalidWaybillNumberError detail)) := by
  intro h
  obtain ⟨serial, hlong, hbeyond⟩ := exists_unprintable
  obtain ⟨detail, hrefused⟩ := h serial (by omega)
  rw [from_serial_too_long hlong] at hrefused
  cases hrefused

end TradeLogistics.Shipments
