/-
The part of Python's text handling the modules lean on: `str.strip`, `str.upper`,
`str.lower`, `str.isalpha`, `str.split`, `str.join`, `str.replace`, `int(text, 16)`, and the
`UUID` type with its two conversions.

A Python string is a `String`, and every function below works on its characters.
What the rest of the development uses about them is at the end of each section:
stripping twice is stripping once, what a strip leaves has no blank at either end, in
upper case too, and the canonical text of a `UUID` contains no blank and is read back.
-/
import TradeLogistics.UnicodeTables
import Mathlib.Data.List.DropRight
import Mathlib.Data.Nat.Digits.Lemmas
import Mathlib.Tactic.Ring

set_option autoImplicit false

namespace TradeLogistics.PyText

open TradeLogistics.UnicodeTables

/-! ## 1. `str.strip` -/

/-- `str.isspace` of one character. -/
def isspace (c : Char) : Bool :=
  let n := c.toNat
  (9 ≤ n && n ≤ 13) || (28 ≤ n && n ≤ 32) || n == 0x85 || n == 0xA0 || n == 0x1680
    || (0x2000 ≤ n && n ≤ 0x200A) || n == 0x2028 || n == 0x2029 || n == 0x202F
    || n == 0x205F || n == 0x3000

/-- Drop the characters of a class from both ends. -/
def stripChars (p : Char → Bool) (cs : List Char) : List Char :=
  (cs.dropWhile p).rdropWhile p

/-- `str.strip()`. -/
def strip (s : String) : String := String.ofList (stripChars isspace s.toList)

/-- What `stripChars` leaves starts outside the class. -/
theorem dropWhile_stripChars (p : Char → Bool) (cs : List Char) :
    (stripChars p cs).dropWhile p = stripChars p cs := by
  unfold stripChars
  set ds := cs.dropWhile p with hds
  rcases hr : ds.rdropWhile p with _ | ⟨x, xs⟩
  · rfl
  · have hpre : (x :: xs) <+: ds := hr ▸ List.rdropWhile_prefix p ds
    obtain ⟨ys, hys⟩ := hpre
    have hhead : ds.head? = some x := by rw [← hys]; rfl
    have hx : ¬ p x = true := by
      have h := List.head?_dropWhile_not p cs
      rw [← hds, hhead] at h
      simpa using h
    rw [List.dropWhile_cons_of_neg hx]

/-- Stripping twice is stripping once. -/
theorem stripChars_idem (p : Char → Bool) (cs : List Char) :
    stripChars p (stripChars p cs) = stripChars p cs := by
  conv_lhs => rw [stripChars, dropWhile_stripChars]
  unfold stripChars
  exact List.rdropWhile_idempotent p _

theorem strip_strip (s : String) : strip (strip s) = strip s := by
  simp only [strip, String.toList_ofList, stripChars_idem]

/-- A text without a character of the class is left as it is. -/
theorem stripChars_eq_self {p : Char → Bool} {cs : List Char} (h : ∀ c ∈ cs, p c = false) :
    stripChars p cs = cs := by
  have hd : cs.dropWhile p = cs := by
    cases cs with
    | nil => rfl
    | cons c cs => exact List.dropWhile_cons_of_neg (by simp [h c (List.mem_cons_self)])
  rw [stripChars, hd, List.rdropWhile_eq_self_iff]
  intro hne
  simp [h _ (List.getLast_mem hne)]

theorem strip_eq_self {s : String} (h : ∀ c ∈ s.toList, isspace c = false) : strip s = s := by
  rw [strip, stripChars_eq_self h, String.ofList_toList]

/-- A strip takes a part out of the text. -/
theorem stripChars_within (p : Char → Bool) (cs : List Char) : stripChars p cs <:+: cs :=
  (List.rdropWhile_prefix p _).isInfix.trans (List.dropWhile_suffix p).isInfix

/-- A strip that loses no character loses nothing. -/
theorem stripChars_eq_of_length {p : Char → Bool} {cs : List Char}
    (h : cs.length ≤ (stripChars p cs).length) : stripChars p cs = cs :=
  (stripChars_within p cs).sublist.eq_of_length_le h

/-- What a strip leaves alone: a text that neither begins nor ends in the class. -/
theorem stripChars_eq_self_iff {p : Char → Bool} {cs : List Char} :
    stripChars p cs = cs ↔ (∀ c ∈ cs.head?, p c = false) ∧ ∀ c ∈ cs.getLast?, p c = false := by
  constructor
  · intro h
    constructor
    · intro c hc
      have hdrop := dropWhile_stripChars p cs
      rw [h] at hdrop
      have hhead := List.head?_dropWhile_not p cs
      rw [hdrop, Option.mem_def.mp hc] at hhead
      simpa using hhead
    · intro c hc
      have hne : cs ≠ [] := by
        rintro rfl
        simp at hc
      have hdrop : cs.rdropWhile p = cs := by
        rw [← h, stripChars]
        exact List.rdropWhile_idempotent p _
      have hlast := List.rdropWhile_eq_self_iff.mp hdrop hne
      rw [Option.mem_def, List.getLast?_eq_some_getLast hne, Option.some.injEq] at hc
      simpa [hc] using hlast
  · rintro ⟨hhead, hlast⟩
    have hd : cs.dropWhile p = cs := by
      cases cs with
      | nil => rfl
      | cons c cs => exact List.dropWhile_cons_of_neg (by simp [hhead c rfl])
    rw [stripChars, hd, List.rdropWhile_eq_self_iff]
    intro hne
    simp [hlast _ (List.getLast?_eq_some_getLast hne)]

/-! ## 2. Case -/

/-- Look one code point up in a table of ranges. -/
def rangeLookup (ranges : List (ℕ × ℕ × ℕ × ℕ)) (n : ℕ) : ℕ :=
  match ranges.find? fun r => r.1 ≤ n && n ≤ r.2.1 && (n - r.1) % r.2.2.1 == 0 with
  | some (a, _, _, t) => t + (n - a)
  | none => n

/-- Full upper case of one character. -/
def upperChar (c : Char) : List Char :=
  let n := c.toNat
  if n < 128 then [if 97 ≤ n && n ≤ 122 then Char.ofNat (n - 32) else c]
  else match upperSpecial.lookup n with
    | some ms => ms.map Char.ofNat
    | none => [Char.ofNat (rangeLookup upperRanges n)]

/-- Full lower case of one character. The one rule of `str.lower` that looks at the
neighbours, a capital sigma at the end of a word, is not in it. -/
def lowerChar (c : Char) : List Char :=
  let n := c.toNat
  if n < 128 then [if 65 ≤ n && n ≤ 90 then Char.ofNat (n + 32) else c]
  else match lowerSpecial.lookup n with
    | some ms => ms.map Char.ofNat
    | none => [Char.ofNat (rangeLookup lowerRanges n)]

/-- `str.upper()`. -/
def upper (s : String) : String := String.ofList (s.toList.flatMap upperChar)

/-- `str.lower()`. -/
def lower (s : String) : String := String.ofList (s.toList.flatMap lowerChar)

/-- A letter, of any script. -/
def isalphaChar (c : Char) : Bool :=
  let n := c.toNat
  if n < 128 then (65 ≤ n && n ≤ 90) || (97 ≤ n && n ≤ 122)
  else letterRanges.any fun (first, last) => first ≤ n && n ≤ last

/-- `str.isalpha()`: false of the empty text. -/
def isalpha (s : String) : Bool := !s.toList.isEmpty && s.toList.all isalphaChar

example : upper "bill_of_lading" = "BILL_OF_LADING" := by decide

/-- The code points of the blanks, as intervals. -/
def blankRanges : List (ℕ × ℕ) :=
  [(9, 13), (28, 32), (0x85, 0x85), (0xA0, 0xA0), (0x1680, 0x1680), (0x2000, 0x200A),
   (0x2028, 0x2029), (0x202F, 0x202F), (0x205F, 0x205F), (0x3000, 0x3000)]

theorem isspace_iff {c : Char} :
    isspace c = true ↔ ∃ b ∈ blankRanges, b.1 ≤ c.toNat ∧ c.toNat ≤ b.2 := by
  simp only [isspace, blankRanges, List.mem_cons, List.not_mem_nil, or_false, exists_eq_or_imp,
    exists_eq_left, Bool.or_eq_true, Bool.and_eq_true, decide_eq_true_eq, beq_iff_eq]
  omega

/-- No capital of the tables is a blank: no interval of the one meets one of the other. -/
theorem upperTables_plain :
    (∀ r ∈ upperRanges, ∀ b ∈ blankRanges, r.2.2.2 + (r.2.1 - r.1) < b.1 ∨ b.2 < r.2.2.2)
    ∧ ∀ e ∈ upperSpecial, e.2 ≠ [] ∧ ∀ m ∈ e.2, isspace (Char.ofNat m) = false := by
  constructor <;> decide +kernel

/-- A code point outside the blanks is not one, nor is what an invalid one becomes. -/
theorem isspace_ofNat {n : ℕ} (h : ∀ b ∈ blankRanges, n < b.1 ∨ b.2 < n) :
    isspace (Char.ofNat n) = false := by
  rw [Bool.eq_false_iff, ne_eq, isspace_iff]
  rintro ⟨b, hb, hlow, hhigh⟩
  by_cases hvalid : n.isValidChar
  · have hcode : (Char.ofNat n).toNat = n := by
      rw [Char.ofNat, dif_pos hvalid]
      rfl
    rw [hcode] at hlow hhigh
    have hout := h b hb
    omega
  · have hcode : (Char.ofNat n).toNat = 0 := by
      rw [Char.ofNat, dif_neg hvalid]
      rfl
    rw [hcode] at hlow
    have hpos : ∀ b ∈ blankRanges, 0 < b.1 := by decide
    have hb0 := hpos b hb
    omega

/-- The capital of a character is at least one character, none of them a blank. -/
theorem upperChar_plain {c : Char} (h : isspace c = false) :
    upperChar c ≠ [] ∧ ∀ d ∈ upperChar c, isspace d = false := by
  unfold upperChar
  by_cases hascii : c.toNat < 128
  · rw [if_pos hascii]
    refine ⟨by simp, fun d hd => ?_⟩
    rw [List.mem_singleton] at hd
    subst hd
    split
    · next hletter =>
        -- a capital letter of ASCII: its code point is in no range of blanks
        simp only [Bool.and_eq_true, decide_eq_true_eq] at hletter
        refine isspace_ofNat ?_
        simp only [blankRanges, List.forall_mem_cons]
        refine ⟨?_, ?_, ?_, ?_, ?_, ?_, ?_, ?_, ?_, ?_, by simp⟩ <;> omega
    · exact h
  · rw [if_neg hascii]
    cases hspecial : upperSpecial.lookup c.toNat with
    | some ms =>
        have hmem : (c.toNat, ms) ∈ upperSpecial := by
          obtain ⟨l₁, l₂, hsplit, -⟩ := List.lookup_eq_some_iff.mp hspecial
          rw [hsplit]
          simp
        obtain ⟨hne, hplain⟩ := upperTables_plain.2 _ hmem
        refine ⟨by simpa using hne, fun d hd => ?_⟩
        obtain ⟨m, hm, rfl⟩ := List.mem_map.mp hd
        exact hplain m hm
    | none =>
        refine ⟨by simp, fun d hd => ?_⟩
        rw [List.mem_singleton] at hd
        subst hd
        rw [rangeLookup]
        split
        · next a last stride image hfind =>
            have hmem := List.mem_of_find?_eq_some hfind
            have hin := List.find?_some hfind
            simp only [Bool.and_eq_true, decide_eq_true_eq] at hin
            refine isspace_ofNat fun b hb => ?_
            -- a range of the table and its images keep apart from the blanks
            have hapart := upperTables_plain.1 _ hmem b hb
            dsimp only at hapart
            omega
        · rwa [Char.ofNat_toNat]

/-- A text whose ends are not blank keeps them in upper case. -/
theorem strip_upper (s : String) : strip (upper (strip s)) = upper (strip s) := by
  have hstripped : stripChars isspace (strip s).toList = (strip s).toList := by
    rw [strip, String.toList_ofList, stripChars_idem]
  obtain ⟨hhead, hlast⟩ := stripChars_eq_self_iff.mp hstripped
  have hkept : stripChars isspace ((strip s).toList.flatMap upperChar)
      = (strip s).toList.flatMap upperChar := by
    rw [stripChars_eq_self_iff]
    -- the first character of the capitals is one of the first character, and so at the end
    constructor
    · intro d hd
      cases hcs : (strip s).toList with
      | nil => simp [hcs] at hd
      | cons c cs =>
          obtain ⟨hne, hplain⟩ := upperChar_plain (hhead c (by simp [hcs]))
          rw [hcs, List.flatMap_cons, Option.mem_def, List.head?_append,
            List.head?_eq_some_head hne, Option.some_or, Option.some.injEq] at hd
          exact hplain d (hd ▸ List.head_mem hne)
    · intro d hd
      rcases List.eq_nil_or_concat (strip s).toList with hnil | ⟨cs, c, hcs⟩
      · simp [hnil] at hd
      · rw [List.concat_eq_append] at hcs
        obtain ⟨hne, hplain⟩ := upperChar_plain (hlast c (by simp [hcs]))
        rw [hcs, List.flatMap_append, List.flatMap_singleton, Option.mem_def, List.getLast?_append,
          List.getLast?_eq_some_getLast hne, Option.some_or, Option.some.injEq] at hd
        exact hplain d (hd ▸ List.getLast_mem hne)
  rw [strip, upper, String.toList_ofList, hkept]

/-! ### Upper case once and twice

No code point `upper` makes is one it changes, which is looked up in the tables with the
code points of each side as the bits of one number. -/

/-- The code points of a range of the tables. -/
def points (first last stride : ℕ) : List ℕ :=
  (List.range ((last - first) / stride + 1)).map fun k => first + stride * k

/-- The code points `upper` changes. -/
def upperSources : List ℕ :=
  points 97 122 1 ++ (upperRanges.flatMap fun r => points r.1 r.2.1 r.2.2.1)
    ++ upperSpecial.map Prod.fst

/-- What it makes of them. -/
def upperImages : List ℕ :=
  points 65 90 1
    ++ (upperRanges.flatMap fun r => points r.2.2.2 (r.2.2.2 + (r.2.1 - r.1)) r.2.2.1)
    ++ upperSpecial.flatMap Prod.snd

/-- A set of numbers as one number, by its bits. -/
def mask (ns : List ℕ) : ℕ := ns.foldr (fun n bits => bits ||| 1 <<< n) 0

theorem testBit_mask (ns : List ℕ) (n : ℕ) : (mask ns).testBit n = decide (n ∈ ns) := by
  induction ns with
  | nil => simp [mask]
  | cons m ns ih =>
      rw [mask, List.foldr_cons, ← mask, Nat.testBit_or, ih, Nat.one_shiftLeft,
        Nat.testBit_two_pow, Bool.or_comm]
      simp [eq_comm]

/-- Sets without a bit in common have no number in common. -/
theorem not_mem_of_mask {ms ns : List ℕ} (h : mask ms &&& mask ns = 0) {n : ℕ} (hn : n ∈ ms) :
    n ∉ ns := by
  intro hmem
  have hbit : (mask ms &&& mask ns).testBit n = true := by
    rw [Nat.testBit_and, testBit_mask, testBit_mask, decide_eq_true hn, decide_eq_true hmem]
    rfl
  rw [h, Nat.zero_testBit] at hbit
  cases hbit

/-- Nothing `upper` makes is something it changes. -/
theorem upperTables_final : mask upperImages &&& mask upperSources = 0 := by decide +kernel

theorem upperImages_valid : ∀ n ∈ upperImages, n.isValidChar := by decide +kernel

theorem toNat_ofNat_image {n : ℕ} (h : n ∈ upperImages) : (Char.ofNat n).toNat = n := by
  rw [Char.ofNat, dif_pos (upperImages_valid n h)]
  rfl

/-- A code point that meets the test of a range, and what stands as far from another start. -/
theorem mem_points {first last stride n : ℕ} (hlast : n ≤ last)
    (hstride : (n - first) % stride = 0) (start : ℕ) :
    start + (n - first) ∈ points start (start + (last - first)) stride := by
  refine List.mem_map.mpr ⟨(n - first) / stride, List.mem_range.mpr ?_, ?_⟩
  · rw [Nat.add_sub_cancel_left, Nat.lt_succ_iff]
    exact Nat.div_le_div_right (Nat.sub_le_sub_right hlast first)
  · have hdivides := Nat.div_add_mod (n - first) stride
    rw [hstride, Nat.add_zero] at hdivides
    rw [hdivides]

/-- A range of the tables that is found has the code point among its sources, and the image
of the code point among its images. -/
theorem rangeLookup_found {n : ℕ} {r : ℕ × ℕ × ℕ × ℕ}
    (h : (upperRanges.find? fun r => r.1 ≤ n && n ≤ r.2.1 && (n - r.1) % r.2.2.1 == 0) = some r) :
    n ∈ upperSources ∧ r.2.2.2 + (n - r.1) ∈ upperImages := by
  have hmem := List.mem_of_find?_eq_some h
  have hin := List.find?_some h
  simp only [Bool.and_eq_true, decide_eq_true_eq, beq_iff_eq] at hin
  obtain ⟨⟨hfirst, hlast⟩, hstride⟩ := hin
  constructor
  · refine List.mem_append_left _ (List.mem_append_right _ (List.mem_flatMap.mpr ⟨r, hmem, ?_⟩))
    have hpoint := mem_points hlast hstride r.1
    rwa [Nat.add_sub_cancel' hfirst, Nat.add_sub_cancel' (hfirst.trans hlast)] at hpoint
  · refine List.mem_append_left _ (List.mem_append_right _ (List.mem_flatMap.mpr ⟨r, hmem, ?_⟩))
    exact mem_points hlast hstride r.2.2.2

theorem lookup_special {n : ℕ} {ms : List ℕ} (h : upperSpecial.lookup n = some ms) :
    n ∈ upperSources ∧ ∀ m ∈ ms, m ∈ upperImages := by
  have hmem : (n, ms) ∈ upperSpecial := by
    obtain ⟨l₁, l₂, hsplit, -⟩ := List.lookup_eq_some_iff.mp h
    rw [hsplit]
    exact List.mem_append_right l₁ List.mem_cons_self
  exact ⟨List.mem_append_right _ (List.mem_map_of_mem hmem), fun m hm =>
    List.mem_append_right _ (List.mem_flatMap.mpr ⟨_, hmem, hm⟩)⟩

/-- A character is its own capital, or its capitals are images of the tables. -/
theorem upperChar_images (c : Char) :
    upperChar c = [c] ∨ c.toNat ∈ upperSources ∧ ∀ d ∈ upperChar c, d.toNat ∈ upperImages := by
  unfold upperChar
  by_cases hascii : c.toNat < 128
  · rw [if_pos hascii]
    by_cases hletter : (97 ≤ c.toNat && c.toNat ≤ 122) = true
    · rw [if_pos hletter]
      simp only [Bool.and_eq_true, decide_eq_true_eq] at hletter
      have hsource := mem_points hletter.2 (Nat.mod_one (c.toNat - 97)) 97
      have himage := mem_points hletter.2 (Nat.mod_one (c.toNat - 97)) 65
      have hmem : c.toNat - 32 ∈ upperImages := by
        refine List.mem_append_left _ (List.mem_append_left _ ?_)
        rwa [show 65 + (c.toNat - 97) = c.toNat - 32 by omega] at himage
      refine .inr ⟨List.mem_append_left _ (List.mem_append_left _ ?_), fun d hd => ?_⟩
      · rwa [Nat.add_sub_cancel' hletter.1] at hsource
      · rw [List.mem_singleton.mp hd, toNat_ofNat_image hmem]
        exact hmem
    · rw [if_neg hletter]
      exact .inl rfl
  · rw [if_neg hascii]
    cases hspecial : upperSpecial.lookup c.toNat with
    | some ms =>
        obtain ⟨hsource, himages⟩ := lookup_special hspecial
        refine .inr ⟨hsource, fun d hd => ?_⟩
        obtain ⟨m, hm, rfl⟩ := List.mem_map.mp hd
        rw [toNat_ofNat_image (himages m hm)]
        exact himages m hm
    | none =>
        simp only [rangeLookup]
        split
        · next first last stride image hfind =>
            obtain ⟨hsource, himage⟩ := rangeLookup_found hfind
            refine .inr ⟨hsource, fun d hd => ?_⟩
            rw [List.mem_singleton.mp hd, toNat_ofNat_image himage]
            exact himage
        · rw [Char.ofNat_toNat]
          exact .inl rfl

/-- A capital is its own capital. -/
theorem upperChar_upperChar {c d : Char} (h : d ∈ upperChar c) : upperChar d = [d] := by
  rcases upperChar_images c with hsame | ⟨-, himages⟩
  · rw [hsame, List.mem_singleton] at h
    rw [h, hsame]
  · rcases upperChar_images d with hsame | ⟨hsource, -⟩
    · exact hsame
    · exact absurd hsource (not_mem_of_mask upperTables_final (himages d h))

/-- **Upper case is final.** -/
theorem upper_upper (s : String) : upper (upper s) = upper s := by
  rw [upper, upper, String.toList_ofList, String.ofList_inj, List.flatMap_assoc]
  refine List.flatMap_congr fun c _ => ?_
  calc (upperChar c).flatMap upperChar = (upperChar c).flatMap List.singleton :=
        List.flatMap_congr fun d hd => upperChar_upperChar hd
    _ = upperChar c := List.flatMap_singleton' _

/-- Digits, capital letters and what stands before and between them, such as a hyphen: no
blank, and no letter to be changed. -/
theorem plain_capital {c : Char} (hlow : 45 ≤ c.toNat) (hhigh : c.toNat ≤ 90) :
    isspace c = false ∧ upperChar c = [c] := by
  constructor
  · have hblanks : ∀ b ∈ blankRanges, b.2 < 45 ∨ 90 < b.1 := by decide
    rw [← Char.ofNat_toNat c]
    apply isspace_ofNat
    intro b hb
    have hout := hblanks b hb
    omega
  · unfold upperChar
    have hsmall : ¬ (97 ≤ c.toNat ∧ c.toNat ≤ 122) := by omega
    have hascii : c.toNat < 128 := by omega
    simp only [hascii, if_true, Bool.and_eq_true, decide_eq_true_eq, hsmall, if_false]

/-- A text of these is what it is stripped and in upper case. -/
theorem upper_strip_plain {s : String}
    (h : ∀ c ∈ s.toList, 45 ≤ c.toNat ∧ c.toNat ≤ 90) : upper (strip s) = s := by
  have hchars : ∀ c ∈ s.toList, isspace c = false ∧ upperChar c = [c] :=
    fun c hc => plain_capital (h c hc).1 (h c hc).2
  have hsame : s.toList.flatMap upperChar = s.toList := by
    calc s.toList.flatMap upperChar = s.toList.flatMap fun c => [c] :=
          List.flatMap_congr fun c hc => (hchars c hc).2
      _ = s.toList := List.flatMap_singleton' _
  rw [strip_eq_self fun c hc => (hchars c hc).1, upper, hsame, String.ofList_toList]

/-! ## 3. `str.split` and `str.replace` -/

/-- `str.split(sep)` for a separator of one character, empty pieces included. -/
def splitChars (sep : Char) : List Char → List (List Char)
  | [] => [[]]
  | c :: cs =>
    if c = sep then [] :: splitChars sep cs
    else match splitChars sep cs with
      | [] => [[c]]
      | piece :: rest => (c :: piece) :: rest

/-- `sep.join(pieces)` for a separator of one character. -/
def joinChars (sep : Char) : List (List Char) → List Char
  | [] => []
  | [piece] => piece
  | piece :: rest => piece ++ sep :: joinChars sep rest

theorem splitChars_ne_nil (sep : Char) (cs : List Char) : splitChars sep cs ≠ [] := by
  cases cs with
  | nil => simp [splitChars]
  | cons c cs =>
      rw [splitChars]
      split
      · simp
      · split <;> simp

/-- Splitting around a separator splits both sides. -/
theorem splitChars_append (sep : Char) (cs ds : List Char) :
    splitChars sep (cs ++ sep :: ds) = splitChars sep cs ++ splitChars sep ds := by
  induction cs with
  | nil => simp [splitChars]
  | cons c cs ih =>
      rw [List.cons_append, splitChars, splitChars]
      by_cases hc : c = sep
      · rw [if_pos hc, if_pos hc, ih, List.cons_append]
      · rw [if_neg hc, if_neg hc, ih]
        rcases hpieces : splitChars sep cs with _ | ⟨piece, rest⟩
        · exact absurd hpieces (splitChars_ne_nil sep cs)
        · rfl

/-- A text without the separator is one piece. -/
theorem splitChars_free {sep : Char} {cs : List Char} (h : sep ∉ cs) :
    splitChars sep cs = [cs] := by
  induction cs with
  | nil => rfl
  | cons c cs ih =>
      rw [List.mem_cons, not_or] at h
      rw [splitChars, if_neg (Ne.symm h.1), ih h.2]

/-- The pieces are made of the text, and no separator is among them. -/
theorem mem_splitChars {sep : Char} {cs piece : List Char} (h : piece ∈ splitChars sep cs) :
    ∀ c ∈ piece, c ∈ cs ∧ c ≠ sep := by
  induction cs generalizing piece with
  | nil =>
      rw [splitChars, List.mem_singleton] at h
      simp [h]
  | cons d cs ih =>
      rw [splitChars] at h
      split at h
      · rcases List.mem_cons.mp h with rfl | h
        · simp
        · exact fun c hc => ⟨List.mem_cons_of_mem d (ih h c hc).1, (ih h c hc).2⟩
      · next hd =>
          rcases hpieces : splitChars sep cs with _ | ⟨first, rest⟩
          · exact absurd hpieces (splitChars_ne_nil sep cs)
          · rw [hpieces] at h ih
            intro c hc
            rcases List.mem_cons.mp h with rfl | h
            · rcases List.mem_cons.mp hc with rfl | hc
              · exact ⟨List.mem_cons_self, hd⟩
              · have hfirst := ih List.mem_cons_self c hc
                exact ⟨List.mem_cons_of_mem d hfirst.1, hfirst.2⟩
            · have hrest := ih (List.mem_cons_of_mem first h) c hc
              exact ⟨List.mem_cons_of_mem d hrest.1, hrest.2⟩

theorem joinChars_cons (sep : Char) (piece : List Char) {rest : List (List Char)}
    (h : rest ≠ []) : joinChars sep (piece :: rest) = piece ++ sep :: joinChars sep rest := by
  cases rest with
  | nil => exact absurd rfl h
  | cons next rest => rfl

theorem joinChars_concat (sep : Char) {pieces : List (List Char)} {last : List Char}
    (h : pieces ≠ []) : joinChars sep (pieces ++ [last]) = joinChars sep pieces ++ sep :: last := by
  induction pieces with
  | nil => exact absurd rfl h
  | cons piece rest ih =>
      by_cases hrest : rest = []
      · rw [hrest]
        rfl
      · rw [List.cons_append, joinChars_cons sep piece (by simp), ih hrest,
          joinChars_cons sep piece hrest, List.append_assoc, List.cons_append]

/-- Pieces that were joined are the pieces of the text. -/
theorem splitChars_joinChars {sep : Char} {pieces : List (List Char)} (hne : pieces ≠ [])
    (h : ∀ piece ∈ pieces, sep ∉ piece) : splitChars sep (joinChars sep pieces) = pieces := by
  induction pieces with
  | nil => exact absurd rfl hne
  | cons piece rest ih =>
      have hpiece := splitChars_free (h piece List.mem_cons_self)
      by_cases hrest : rest = []
      · rw [hrest, joinChars, hpiece]
      · rw [joinChars_cons sep piece hrest, splitChars_append, hpiece,
          ih hrest fun p hp => h p (List.mem_cons_of_mem piece hp)]
        rfl

/-- A text is its pieces joined. -/
theorem joinChars_splitChars (sep : Char) (cs : List Char) :
    joinChars sep (splitChars sep cs) = cs := by
  induction cs with
  | nil => rfl
  | cons c cs ih =>
      have hne := splitChars_ne_nil sep cs
      rw [splitChars]
      split
      · next hc => rw [joinChars_cons sep [] hne, ih, List.nil_append, hc]
      · rcases hpieces : splitChars sep cs with _ | ⟨first, rest⟩
        · exact absurd hpieces hne
        · rw [hpieces] at ih
          by_cases hrest : rest = []
          · rw [hrest, joinChars] at ih ⊢
            rw [ih]
          · rw [joinChars_cons sep _ hrest] at ih ⊢
            rw [← ih, List.cons_append]

/-- What is joined is made of the pieces and the separator. -/
theorem mem_joinChars {sep : Char} {pieces : List (List Char)} {c : Char}
    (h : c ∈ joinChars sep pieces) : c = sep ∨ ∃ piece ∈ pieces, c ∈ piece := by
  induction pieces with
  | nil => simp [joinChars] at h
  | cons piece rest ih =>
      by_cases hrest : rest = []
      · rw [hrest, joinChars] at h
        exact .inr ⟨piece, List.mem_cons_self, h⟩
      · rw [joinChars_cons sep piece hrest, List.mem_append, List.mem_cons] at h
        rcases h with h | h | h
        · exact .inr ⟨piece, List.mem_cons_self, h⟩
        · exact .inl h
        · rcases ih h with h | ⟨other, hother, h⟩
          · exact .inl h
          · exact .inr ⟨other, List.mem_cons_of_mem piece hother, h⟩

/-- A text of pieces ends as its last piece does. -/
theorem joinChars_getLast {sep : Char} {pieces : List (List Char)} {last : List Char}
    (h : pieces.getLast? = some last) (hne : last ≠ []) :
    (joinChars sep pieces).getLast? = last.getLast? := by
  induction pieces with
  | nil => simp at h
  | cons piece rest ih =>
      by_cases hrest : rest = []
      · rw [hrest, List.getLast?_singleton, Option.some.injEq] at h
        rw [hrest, joinChars, h]
      · have hlast : rest.getLast? = some last := by
          rw [← h, List.getLast?_cons, List.getLast?_eq_some_getLast hrest]
          rfl
        have hjoin := ih hlast
        rw [joinChars_cons sep piece hrest, List.getLast?_append, List.getLast?_cons, hjoin,
          List.getLast?_eq_some_getLast hne]
        rfl

/-- Dropping pieces makes the text no longer. -/
theorem joinChars_filter_length (sep : Char) (p : List Char → Bool) (pieces : List (List Char)) :
    (joinChars sep (pieces.filter p)).length ≤ (joinChars sep pieces).length := by
  induction pieces with
  | nil => exact Nat.le_refl _
  | cons piece rest ih =>
      by_cases hrest : rest = []
      · subst hrest
        rw [List.filter_cons]
        split <;> simp [joinChars]
      · rw [joinChars_cons sep piece hrest, List.length_append, List.length_cons,
          List.filter_cons]
        split
        · by_cases hkept : rest.filter p = []
          · rw [hkept, joinChars]
            omega
          · rw [joinChars_cons sep piece hkept, List.length_append, List.length_cons]
            omega
        · omega

/-- `str.replace(pat, "")` for a non-empty pattern: occurrences from the left, none
overlapping. The fuel is the length of the text, since every step consumes some of it. -/
def removeAll (pat : List Char) : ℕ → List Char → List Char
  | 0, cs => cs
  | _ + 1, [] => []
  | fuel + 1, c :: cs =>
    if pat.isPrefixOf (c :: cs) then removeAll pat fuel ((c :: cs).drop pat.length)
    else c :: removeAll pat fuel cs

/-- A pattern whose first character does not occur is nowhere to be removed. -/
theorem removeAll_free {c : Char} {pat cs : List Char} (h : c ∉ cs) :
    ∀ fuel, removeAll (c :: pat) fuel cs = cs := by
  intro fuel
  induction fuel generalizing cs with
  | zero => rfl
  | succ fuel ih =>
      cases cs with
      | nil => rfl
      | cons d ds =>
          rw [List.mem_cons, not_or] at h
          have hno : (c :: pat).isPrefixOf (d :: ds) = false := by
            simp [List.isPrefixOf, h.1]
          rw [removeAll, hno, ih h.2]
          simp

/-- `str.split(sep)` for a separator that is not empty: occurrences from the left, none
overlapping. The characters of an occurrence still to be passed over are counted in
`skip`, and `piece` holds what stands before the next one, last character first. -/
def splitText (sep : List Char) : ℕ → List Char → List Char → List (List Char)
  | _, piece, [] => [piece.reverse]
  | skip + 1, piece, _ :: cs => splitText sep skip piece cs
  | 0, piece, c :: cs =>
    if sep.isPrefixOf (c :: cs) then piece.reverse :: splitText sep (sep.length - 1) [] cs
    else splitText sep 0 (c :: piece) cs

/-- `s.split(sep)`. -/
def split (sep s : String) : List String :=
  (splitText sep.toList 0 [] s.toList).map String.ofList

/-- `sep.join(pieces)`. -/
def join (sep : String) (pieces : List String) : String :=
  String.ofList (sep.toList.intercalate (pieces.map String.toList))

theorem splitText_skip (sep piece cs ds : List Char) :
    splitText sep cs.length piece (cs ++ ds) = splitText sep 0 piece ds := by
  induction cs with
  | nil => rfl
  | cons c cs ih => exact ih

/-- Up to a separator stands a piece without its first character. -/
theorem splitText_piece {c : Char} {sep cs : List Char} (h : c ∉ cs) (piece ds : List Char) :
    splitText (c :: sep) 0 piece (cs ++ (c :: sep) ++ ds)
      = (piece.reverse ++ cs) :: splitText (c :: sep) 0 [] ds := by
  induction cs generalizing piece with
  | nil =>
      have hprefix : (c :: sep).isPrefixOf (c :: (sep ++ ds)) = true := by
        rw [List.isPrefixOf_iff_prefix]
        exact List.prefix_append _ _
      show splitText (c :: sep) 0 piece (c :: (sep ++ ds)) = _
      rw [splitText, if_pos hprefix, List.append_nil]
      exact congrArg _ (splitText_skip _ _ sep ds)
  | cons d cs ih =>
      rw [List.mem_cons, not_or] at h
      have hno : ¬ (c :: sep).isPrefixOf (d :: (cs ++ (c :: sep) ++ ds)) = true := by
        simp [List.isPrefixOf, h.1]
      show splitText (c :: sep) 0 piece (d :: (cs ++ (c :: sep) ++ ds)) = _
      rw [splitText, if_neg hno, ih h.2, List.reverse_cons, List.append_assoc]
      rfl

/-- The last piece. -/
theorem splitText_last {c : Char} {sep cs : List Char} (h : c ∉ cs) (piece : List Char) :
    splitText (c :: sep) 0 piece cs = [piece.reverse ++ cs] := by
  induction cs generalizing piece with
  | nil => rw [splitText, List.append_nil]
  | cons d cs ih =>
      rw [List.mem_cons, not_or] at h
      have hno : ¬ (c :: sep).isPrefixOf (d :: cs) = true := by
        simp [List.isPrefixOf, h.1]
      rw [splitText, if_neg hno, ih h.2, List.reverse_cons, List.append_assoc]
      rfl

/-- **What is joined is split** into the same pieces, when none of them has the first
character of the separator. -/
theorem splitText_intercalate {c : Char} {sep : List Char} {pieces : List (List Char)}
    (hne : pieces ≠ []) (h : ∀ piece ∈ pieces, c ∉ piece) :
    splitText (c :: sep) 0 [] ((c :: sep).intercalate pieces) = pieces := by
  induction pieces with
  | nil => exact absurd rfl hne
  | cons piece rest ih =>
      have hpiece := h piece List.mem_cons_self
      by_cases hrest : rest = []
      · rw [hrest, List.intercalate_singleton, splitText_last hpiece]
        rfl
      · rw [List.intercalate_cons_of_ne_nil hrest, splitText_piece hpiece,
          ih hrest fun p hp => h p (List.mem_cons_of_mem piece hp)]
        rfl

theorem split_join {sep : String} {c : Char} {rest : List Char} {pieces : List String}
    (hsep : sep.toList = c :: rest) (hne : pieces ≠ [])
    (h : ∀ piece ∈ pieces, c ∉ piece.toList) : split sep (join sep pieces) = pieces := by
  have hpieces : pieces.map String.toList ≠ [] := by
    rw [ne_eq, List.map_eq_nil_iff]
    exact hne
  have hfree : ∀ piece ∈ pieces.map String.toList, c ∉ piece := by
    intro piece hpiece
    obtain ⟨text, htext, rfl⟩ := List.mem_map.mp hpiece
    exact h text htext
  rw [split, join, hsep, String.toList_ofList, splitText_intercalate hpieces hfree, List.map_map]
  calc pieces.map (String.ofList ∘ String.toList) = pieces.map id :=
        List.map_congr_left fun s _ => String.ofList_toList
    _ = pieces := List.map_id pieces

/-! ## 4. `int(text, 16)` -/

/-- The blanks a number may stand between, once its text is ASCII. -/
def isspaceByte (c : Char) : Bool :=
  let n := c.toNat
  (9 ≤ n && n ≤ 13) || n == 32

/-- What `int` puts in the place of one character before it reads a text: a space for a
blank outside ASCII, an ASCII digit for a decimal digit of any script. -/
def asciiDigitOrSpace (c : Char) : Char :=
  let n := c.toNat
  if n < 127 then c
  else if isspace c then ' '
  else match decimalZeros.find? fun z => z ≤ n && n < z + 10 with
  | some z => Char.ofNat (48 + (n - z))
  | none => '?'

/-- The text `int` reads. The separators `\x1c` to `\x1f`, which `str.strip` takes away,
stay where they are, and are no digits. -/
def numberText (cs : List Char) : List Char :=
  stripChars isspaceByte (cs.map asciiDigitOrSpace)

theorem numberText_eq_self {cs : List Char}
    (h : ∀ c ∈ cs, asciiDigitOrSpace c = c ∧ isspaceByte c = false) : numberText cs = cs := by
  have hsame : cs.map asciiDigitOrSpace = cs :=
    (List.map_congr_left fun c hc => (h c hc).1).trans (List.map_id cs)
  rw [numberText, hsame, stripChars_eq_self fun c hc => (h c hc).2]

/-- The value of one digit in base 16. -/
def hexValue (c : Char) : Option ℕ :=
  let n := c.toNat
  if 97 ≤ n && n ≤ 102 then some (n - 87)
  else if 65 ≤ n && n ≤ 70 then some (n - 55)
  else if 48 ≤ n && n ≤ 57 then some (n - 48)
  else none

/-- The digits after the prefix: single underscores may stand between two digits. -/
def hexDigits (acc : ℕ) : List Char → Option ℕ
  | [] => some acc
  | ['_'] => none
  | '_' :: '_' :: _ => none
  | '_' :: c :: cs => (hexValue c).bind fun d => hexDigits (acc * 16 + d) cs
  | c :: cs => (hexValue c).bind fun d => hexDigits (acc * 16 + d) cs

/-- `int(text, 16)` for a text without a minus sign: blanks around it, one plus sign,
one `0x` with an underscore after it, then at least one digit. -/
def intBase16 (cs : List Char) : Option ℕ :=
  let body := numberText cs
  let unsigned := match body with
    | '+' :: rest => rest
    | _ => body
  let digits := match unsigned with
    | '0' :: 'x' :: '_' :: rest => rest
    | '0' :: 'X' :: '_' :: rest => rest
    | '0' :: 'x' :: rest => rest
    | '0' :: 'X' :: rest => rest
    | _ => unsigned
  match digits with
  | [] => none
  | '_' :: _ => none
  | _ => hexDigits 0 digits

-- a digit of another script may stand before the `x`
example : intBase16 "\u0660x1F".toList = some 31 := by decide +kernel

theorem hexDigits_cons {acc : ℕ} {c : Char} (cs : List Char) (h : c ≠ '_') :
    hexDigits acc (c :: cs) = (hexValue c).bind fun d => hexDigits (acc * 16 + d) cs := by
  rw [hexDigits]
  all_goals intros; exact absurd ‹_› h

/-- What the sixteen digits are read as. -/
theorem digitChar_value :
    ∀ d < 16, hexValue (Nat.digitChar d) = some d ∧ Nat.digitChar d ∉ ['_', '+', 'x', 'X'] := by
  decide

/-- Reading digits from the left is reading a number to its base. -/
theorem hexDigits_digits (m : ℕ) : ∀ n acc : ℕ,
    hexDigits acc ((List.range n).map fun i => Nat.digitChar (m / 16 ^ (n - 1 - i) % 16))
      = some (acc * 16 ^ n + m % 16 ^ n) := by
  intro n
  induction n with
  | zero => intro acc; simp [hexDigits, Nat.mod_one]
  | succ n ih =>
      intro acc
      obtain ⟨hfirst, hplain⟩ := digitChar_value (m / 16 ^ n % 16) (Nat.mod_lt _ (by decide))
      have hrest : ∀ i, n + 1 - 1 - (i + 1) = n - 1 - i := fun i => by omega
      rw [List.range_succ_eq_map, List.map_cons, List.map_map]
      simp only [Function.comp_def, Nat.succ_eq_add_one, hrest]
      rw [Nat.add_sub_cancel, Nat.sub_zero, hexDigits_cons _ (by simp_all), hfirst,
        Option.bind_some, ih, Nat.pow_succ, Nat.mod_mul]
      congr 1
      ring

/-- A text of plain digits is read digit by digit. -/
theorem intBase16_plain {c d : Char} {cs : List Char}
    (hplain : ∀ e ∈ c :: d :: cs, asciiDigitOrSpace e = e ∧ isspaceByte e = false)
    (hc : c ∉ ['_', '+', 'x', 'X']) (hd : d ∉ ['_', '+', 'x', 'X']) :
    intBase16 (c :: d :: cs) = hexDigits 0 (c :: d :: cs) := by
  simp only [List.mem_cons, List.not_mem_nil, or_false, not_or] at hc hd
  obtain ⟨hc1, hc2, hc3, hc4⟩ := hc
  obtain ⟨hd1, hd2, hd3, hd4⟩ := hd
  unfold intBase16
  rw [numberText_eq_self hplain]
  simp [*]

/-! ## 5. `UUID` -/

/-- A `uuid.UUID`: a 128-bit number. -/
structure Uuid where
  int : ℕ
  isLt : int < 16 ^ 32
  deriving DecidableEq

/-- `UUID(int=byte)`. -/
def Uuid.of_byte (byte : UInt8) : Uuid := ⟨byte.toNat, byte.toNat_lt.trans (by decide)⟩

/-- `UUID(text)`, `none` where it raises `ValueError`. -/
def Uuid.parse (text : String) : Option Uuid :=
  let cs := text.toList
  let cs := removeAll "urn:".toList cs.length cs
  let cs := removeAll "uuid:".toList cs.length cs
  let cs := (stripChars (fun c => c == '{' || c == '}') cs).filter (· != '-')
  if cs.length = 32 then
    (intBase16 cs).bind fun n => if h : n < 16 ^ 32 then some ⟨n, h⟩ else none
  else none

/-- `UUID.hex`: 32 lower-case digits, the most significant first. -/
def Uuid.hex (u : Uuid) : List Char :=
  (List.range 32).map fun i => Nat.digitChar (u.int / 16 ^ (31 - i) % 16)

/-- `str(uuid)`: the digits in groups of 8, 4, 4, 4 and 12. -/
def Uuid.str (u : Uuid) : String :=
  String.ofList (u.hex.take 8 ++ '-' :: ((u.hex.drop 8).take 4 ++ '-' ::
    ((u.hex.drop 12).take 4 ++ '-' :: ((u.hex.drop 16).take 4 ++ '-' :: u.hex.drop 20))))

example : (Uuid.parse "{7C392D07-85d6-4a3b-b24f-6382c72cc648}").map Uuid.str
    = some "7c392d07-85d6-4a3b-b24f-6382c72cc648" := by decide

-- `str.strip` would take this separator away, `UUID` refuses it
example : Uuid.parse "\x1c0000000000000000000000000000007" = none := by decide

/-- None of the sixteen digits is a hyphen or a blank. -/
theorem digitChar_plain :
    (∀ d < 16, (Nat.digitChar d != '-') = true) ∧ ∀ d < 16, isspace (Nat.digitChar d) = false := by
  decide

/-- `int` reads each of them as it is. -/
theorem digitChar_number : ∀ d < 16, asciiDigitOrSpace (Nat.digitChar d) = Nat.digitChar d
    ∧ isspaceByte (Nat.digitChar d) = false := by
  decide

/-- A digit of `UUID.hex` is one of sixteen characters. -/
theorem mem_hex {u : Uuid} {c : Char} (h : c ∈ u.hex) : ∃ d < 16, c = Nat.digitChar d := by
  obtain ⟨i, -, rfl⟩ := List.mem_map.mp h
  exact ⟨_, Nat.mod_lt _ (by decide), rfl⟩

theorem hex_length (u : Uuid) : u.hex.length = 32 := by
  simp [Uuid.hex]

/-- The groups of the text are the digits, with four hyphens between them. -/
theorem filter_str (u : Uuid) : u.str.toList.filter (· != '-') = u.hex := by
  have hdash : ∀ cs : List Char, (∀ c ∈ cs, c ∈ u.hex) → cs.filter (· != '-') = cs := by
    intro cs hcs
    rw [List.filter_eq_self]
    intro c hc
    obtain ⟨d, hd, rfl⟩ := mem_hex (hcs c hc)
    exact digitChar_plain.1 d hd
  have htake : ∀ n m, ((u.hex.drop n).take m).filter (· != '-') = (u.hex.drop n).take m :=
    fun n m => hdash _ fun c hc => List.mem_of_mem_drop (List.mem_of_mem_take hc)
  have hfirst : (u.hex.take 8).filter (· != '-') = u.hex.take 8 :=
    hdash _ fun c hc => List.mem_of_mem_take hc
  have hlast : (u.hex.drop 20).filter (· != '-') = u.hex.drop 20 :=
    hdash _ fun c hc => List.mem_of_mem_drop hc
  have hjoin : ∀ n m, (u.hex.drop n).take m ++ u.hex.drop (n + m) = u.hex.drop n := by
    intro n m
    rw [← List.drop_drop, List.take_append_drop]
  rw [Uuid.str, String.toList_ofList]
  simp only [List.filter_append, List.filter_cons, htake, hfirst, hlast, bne_self_eq_false,
    Bool.false_eq_true, if_false]
  rw [hjoin 16 4, hjoin 12 4, hjoin 8 4, List.take_append_drop]

theorem digitChar_inj {a b : ℕ} (ha : a < 16) (hb : b < 16)
    (h : Nat.digitChar a = Nat.digitChar b) : a = b := by
  have hall : ∀ x < 16, ∀ y < 16, Nat.digitChar x = Nat.digitChar y → x = y := by decide
  exact hall a ha b hb h

/-- Numbers with the same low digits agree modulo the power they fill. -/
theorem mod_eq_of_digits {a b : ℕ} :
    ∀ k, (∀ j < k, a / 16 ^ j % 16 = b / 16 ^ j % 16) → a % 16 ^ k = b % 16 ^ k := by
  intro k
  induction k with
  | zero => intro _; simp [Nat.mod_one]
  | succ k ih =>
      intro h
      rw [pow_succ, Nat.mod_mul, Nat.mod_mul, ih fun j hj => h j (by omega), h k (by omega)]

/-- The canonical text determines the `UUID`. -/
theorem Uuid.str_injective : Function.Injective Uuid.str := by
  intro u v h
  have hhex : u.hex = v.hex := by rw [← filter_str, ← filter_str, h]
  have hdigit : ∀ j < 32, u.int / 16 ^ j % 16 = v.int / 16 ^ j % 16 := by
    intro j hj
    have hget := congrArg (fun cs => cs[31 - j]?) hhex
    have hi : 31 - (31 - j) = j := by omega
    simp only [Uuid.hex, List.getElem?_map, List.getElem?_range (show 31 - j < 32 by omega),
      Option.map_some, Option.some.injEq, hi] at hget
    exact digitChar_inj (Nat.mod_lt _ (by decide)) (Nat.mod_lt _ (by decide)) hget
  have hmod := mod_eq_of_digits 32 hdigit
  rw [Nat.mod_eq_of_lt u.isLt, Nat.mod_eq_of_lt v.isLt] at hmod
  cases u
  cases v
  simpa using hmod

/-- The canonical text contains no blank, so stripping leaves it as it is. -/
theorem Uuid.strip_str (u : Uuid) : strip u.str = u.str := by
  refine strip_eq_self fun c hc => ?_
  by_cases hdash : c = '-'
  · rw [hdash]
    decide
  · have hmem : c ∈ u.hex := by
      rw [← filter_str]
      exact List.mem_filter.mpr ⟨hc, by simpa using hdash⟩
    obtain ⟨d, hd, rfl⟩ := mem_hex hmem
    exact digitChar_plain.2 d hd

theorem Uuid.str_length (u : Uuid) : u.str.length = 36 := by
  rw [Uuid.str, ← String.length_toList, String.toList_ofList]
  simp [hex_length]

/-- What the characters of the canonical text are not. -/
theorem Uuid.mem_str {u : Uuid} {c : Char} (h : c ∈ u.str.toList) :
    c ≠ 'u' ∧ (c == '{' || c == '}') = false := by
  by_cases hdash : c = '-'
  · rw [hdash]
    decide
  · have hmem : c ∈ u.hex := by
      rw [← filter_str]
      exact List.mem_filter.mpr ⟨h, by simpa using hdash⟩
    obtain ⟨d, hd, rfl⟩ := mem_hex hmem
    have hall : ∀ d < 16, Nat.digitChar d ≠ 'u'
        ∧ (Nat.digitChar d == '{' || Nat.digitChar d == '}') = false := by decide
    exact hall d hd

theorem intBase16_hex (u : Uuid) : intBase16 u.hex = some u.int := by
  have hdigits := hexDigits_digits u.int 32 0
  rw [Nat.zero_mul, Nat.zero_add, Nat.mod_eq_of_lt u.isLt] at hdigits
  have hread : ∀ c ∈ u.hex, asciiDigitOrSpace c = c ∧ isspaceByte c = false := by
    intro c hc
    obtain ⟨d, hd, rfl⟩ := mem_hex hc
    exact digitChar_number d hd
  have hplain : ∀ c ∈ u.hex, c ∉ ['_', '+', 'x', 'X'] := by
    intro c hc
    obtain ⟨d, hd, rfl⟩ := mem_hex hc
    exact (digitChar_value d hd).2
  have hlength := hex_length u
  rw [← hdigits]
  change intBase16 u.hex = hexDigits 0 u.hex
  rcases hhex : u.hex with _ | ⟨c, _ | ⟨d, cs⟩⟩
  · simp [hhex] at hlength
  · simp [hhex] at hlength
  · rw [hhex] at hread hplain
    exact intBase16_plain hread (hplain c (by simp)) (hplain d (by simp))

/-- **The canonical text is read back.** -/
theorem Uuid.parse_str (u : Uuid) : Uuid.parse u.str = some u := by
  have hfree : 'u' ∉ u.str.toList := fun h => (Uuid.mem_str h).1 rfl
  have hurn : ∀ fuel, removeAll "urn:".toList fuel u.str.toList = u.str.toList :=
    removeAll_free hfree
  have huuid : ∀ fuel, removeAll "uuid:".toList fuel u.str.toList = u.str.toList :=
    removeAll_free hfree
  have hbraces : stripChars (fun c => c == '{' || c == '}') u.str.toList = u.str.toList :=
    stripChars_eq_self fun c hc => (Uuid.mem_str hc).2
  unfold Uuid.parse
  simp only [hurn, huuid, hbraces, filter_str, hex_length, if_true, intBase16_hex,
    Option.bind_some, u.isLt, dif_pos]

end TradeLogistics.PyText
