/-
Taking the first few of a list, oldest first, round after round.

After a round the good elements among those taken are gone and the bad ones are still there,
so they stand at the head of the next arrangement as well. What decides whether the good ones
run out is again one number, now with the last good element in view: how many bad elements
are at least as old as *some* good one. With fewer of these than are taken, every round takes
a good element. With as many, an arrangement that lets the youngest good element wait for all
of them can be repeated for ever.

Either way the good elements go in the order of age: one that is still there has been
overtaken by no younger one.
-/
import TradeLogistics.OldestFirst
import Mathlib.Data.List.MinMax

set_option autoImplicit false

namespace TradeLogistics.OldestFirst

section

variable {α β : Type*} [LinearOrder β] (age : α → β) (good : α → Bool) (n : ℕ)

/-- A round: the first `n` of an arrangement are taken, and the good ones of these go. -/
def Round (l l' : List α) : Prop :=
  ∃ order, Arrangement age l order ∧ ∃ stays : α → Bool, l' = l.filter stays
    ∧ ∀ a ∈ l, (stays a = false ↔ a ∈ order.take n ∧ good a = true)

/-- So many rounds. -/
def Rounds : ℕ → List α → List α → Prop
  | 0, l, l' => l' = l
  | m + 1, l, l' => ∃ l₁, Round age good n l l₁ ∧ Rounds m l₁ l'

/-- A bad element that is at least as old as some good one. -/
def isBlocking (l : List α) (a : α) : Bool :=
  !good a && l.any fun b => good b && decide (age a ≤ age b)

def blocking (l : List α) : List α := l.filter (isBlocking age good l)

variable {age good n} {l l' order : List α}

theorem isBlocking_iff {a : α} :
    isBlocking age good l a = true
      ↔ good a = false ∧ ∃ b ∈ l, good b = true ∧ age a ≤ age b := by
  simp only [isBlocking, Bool.and_eq_true, Bool.not_eq_true', List.any_eq_true, decide_eq_true_eq]

/-! ## 1. One round -/

/-- Whoever is there after a round was there before, and was not taken if it is good. -/
theorem Round.mem_iff (h : Round age good n l l') :
    ∃ order, Arrangement age l order
      ∧ ∀ a, a ∈ l' ↔ a ∈ l ∧ ¬ (a ∈ order.take n ∧ good a = true) := by
  obtain ⟨order, horder, stays, rfl, hstays⟩ := h
  refine ⟨order, horder, fun a => ?_⟩
  rw [List.mem_filter]
  refine and_congr_right fun ha => ?_
  rw [← hstays a ha, Bool.not_eq_false]

theorem Round.sublist (h : Round age good n l l') : l'.Sublist l := by
  obtain ⟨_, -, stays, rfl, -⟩ := h
  exact List.filter_sublist

/-- A bad element stays. -/
theorem Round.bad_stays (h : Round age good n l l') (p : α → Bool)
    (hp : ∀ a, p a = true → good a = false) : l'.countP p = l.countP p := by
  obtain ⟨order, -, stays, rfl, hstays⟩ := h
  rw [List.countP_filter]
  refine List.countP_congr fun a ha => ?_
  constructor
  · intro hboth
    exact (Bool.and_eq_true_iff.mp hboth).1
  · intro hpa
    have hkept : stays a ≠ false := by
      intro hgone
      have hgood := ((hstays a ha).mp hgone).2
      rw [hp a hpa] at hgood
      cases hgood
    rw [hpa, Bool.eq_true_of_not_eq_false hkept]
    rfl

/-- After a round no more elements block than before. -/
theorem Round.blocking_le (h : Round age good n l l') :
    (blocking age good l').length ≤ (blocking age good l).length := by
  have hfewer : ∀ a, isBlocking age good l' a = true → isBlocking age good l a = true := by
    intro a ha
    rw [isBlocking_iff] at ha ⊢
    obtain ⟨hbad, b, hb, hgood, hle⟩ := ha
    exact ⟨hbad, b, h.sublist.subset hb, hgood, hle⟩
  rw [blocking, blocking, ← List.countP_eq_length_filter, ← List.countP_eq_length_filter]
  calc l'.countP (isBlocking age good l') ≤ l'.countP (isBlocking age good l) :=
        List.countP_mono_left fun a _ => hfewer a
    _ ≤ l.countP (isBlocking age good l) := h.sublist.countP_le

/-- What is ahead of every good element blocks. -/
theorem ahead_le_blocking (hgood : ∃ a ∈ l, good a = true) :
    (ahead age good l).length ≤ (blocking age good l).length := by
  obtain ⟨b, hb, hgoodb⟩ := hgood
  rw [ahead, blocking, ← List.countP_eq_length_filter, ← List.countP_eq_length_filter]
  refine List.countP_mono_left fun a _ ha => ?_
  obtain ⟨hbad, hold⟩ := isAhead_iff.mp ha
  exact isBlocking_iff.mpr ⟨hbad, b, hb, hgoodb, hold b hb hgoodb⟩

/-- **A round takes a good element** while fewer elements block than are taken. -/
theorem Round.progress (h : Round age good n l l') (hgood : ∃ a ∈ l, good a = true)
    (hfew : (blocking age good l).length < n) : l'.countP good < l.countP good := by
  obtain ⟨order, horder, stays, rfl, hstays⟩ := h
  obtain ⟨a, ha, hgooda⟩ :=
    good_taken horder hgood (lt_of_le_of_lt (ahead_le_blocking hgood) hfew)
  have hmem : a ∈ l := horder.1.mem_iff.mp (List.mem_of_mem_take ha)
  have hgone : stays a = false := (hstays a hmem).mpr ⟨ha, hgooda⟩
  rw [List.countP_filter, List.countP_eq_length_filter, List.countP_eq_length_filter]
  -- what is counted afterwards is counted before, and `a` is counted before only
  refine lt_of_le_of_ne (List.Sublist.length_le ?_) fun hsame => ?_
  · exact List.monotone_filter_right l fun b hb => (Bool.and_eq_true_iff.mp hb).1
  · have hsub : (l.filter fun b => good b && stays b).Sublist (l.filter good) :=
      List.monotone_filter_right l fun b hb => (Bool.and_eq_true_iff.mp hb).1
    have ha' : a ∈ l.filter fun b => good b && stays b := by
      rw [hsub.eq_of_length hsame]
      exact List.mem_filter.mpr ⟨hmem, hgooda⟩
    have hkept := (Bool.and_eq_true_iff.mp (List.mem_filter.mp ha').2).2
    rw [hgone] at hkept
    cases hkept

/-- **No good element overtakes an older one** in a round. -/
theorem Round.in_order (h : Round age good n l l') {a b : α} (hb : b ∈ l)
    (hgooda : good a = true) (hlt : age a < age b) (ha : a ∈ l') : b ∈ l' := by
  obtain ⟨order, horder, hmem⟩ := h.mem_iff
  obtain ⟨hal, hnot⟩ := (hmem a).mp ha
  refine (hmem b).mpr ⟨hb, fun hboth => hnot ⟨?_, hgooda⟩⟩
  have haorder : a ∈ order := horder.1.mem_iff.mpr hal
  rw [← List.take_append_drop n order, List.mem_append] at haorder
  refine haorder.resolve_right fun hrest => ?_
  -- what is left over is at least as old as nothing that is taken
  have hsorted := horder.2
  rw [← List.take_append_drop n order, List.pairwise_append] at hsorted
  exact absurd (hsorted.2.2 b hboth.1 a hrest) (not_le.mpr hlt)

/-! ## 2. Many rounds -/

theorem Rounds.sublist {m : ℕ} : ∀ {l l' : List α}, Rounds age good n m l l' → l'.Sublist l := by
  induction m with
  | zero =>
      rintro l l' rfl
      exact List.Sublist.refl _
  | succ m ih =>
      rintro l l' ⟨l₁, hfirst, hrest⟩
      exact (ih hrest).trans hfirst.sublist

/-- A bad element is there for good. -/
theorem Rounds.bad_mem {m : ℕ} : ∀ {l l' : List α}, Rounds age good n m l l' → ∀ {a : α},
    a ∈ l → good a = false → a ∈ l' := by
  induction m with
  | zero =>
      rintro l l' rfl a ha _
      exact ha
  | succ m ih =>
      rintro l l' ⟨l₁, hfirst, hrest⟩ a ha hbad
      obtain ⟨order, -, hmem⟩ := hfirst.mem_iff
      refine ih hrest ((hmem a).mpr ⟨ha, fun hboth => ?_⟩) hbad
      rw [hbad] at hboth
      cases hboth.2

/-- **The good elements run out.** With fewer blocking than are taken, as many rounds as there
are good elements leave none. -/
theorem Rounds.drained {m : ℕ} : ∀ {l l' : List α}, Rounds age good n m l l' →
    (blocking age good l).length < n → l.countP good ≤ m → ∀ a ∈ l', good a = false := by
  induction m with
  | zero =>
      rintro l l' rfl _ hcount a ha
      have hnone : l'.countP good = 0 := Nat.le_zero.mp hcount
      simpa using List.countP_eq_zero.mp hnone a ha
  | succ m ih =>
      rintro l l' ⟨l₁, hfirst, hrest⟩ hfew hcount
      refine ih hrest (lt_of_le_of_lt hfirst.blocking_le hfew) ?_
      by_cases hgood : ∃ a ∈ l, good a = true
      · have hless := hfirst.progress hgood hfew
        omega
      · -- nothing good is left to take
        have hnone : l.countP good = 0 :=
          List.countP_eq_zero.mpr fun a ha hgooda => hgood ⟨a, ha, hgooda⟩
        have hstill := hfirst.sublist.countP_le (p := good)
        omega

/-- **The good elements go in the order of age.** -/
theorem Rounds.in_order {m : ℕ} : ∀ {l l' : List α}, Rounds age good n m l l' → ∀ {a b : α},
    b ∈ l → good a = true → age a < age b → a ∈ l' → b ∈ l' := by
  induction m with
  | zero =>
      rintro l l' rfl a b hb _ _ _
      exact hb
  | succ m ih =>
      rintro l l' ⟨l₁, hfirst, hrest⟩ a b hb hgooda hlt ha
      exact ih hrest (hfirst.in_order hb hgooda hlt (hrest.sublist.subset ha)) hgooda hlt ha

/-! ## 3. Waiting for ever -/

/-- An element may be arranged behind everything that is as old. -/
theorem exists_behind {a : α} {xs ys : List α} :
    ∃ order, Arrangement age (xs ++ a :: ys) order ∧
      order.take ((xs ++ ys).countP fun b => decide (age b ≤ age a))
        = ((xs ++ ys).filter fun b => decide (age b ≤ age a)).insertionSort
            (fun b c => age b ≤ age c) := by
  set older := (xs ++ ys).filter fun b => decide (age b ≤ age a) with holder
  set younger := (xs ++ ys).filter fun b => !decide (age b ≤ age a) with hyounger
  refine ⟨older.insertionSort (fun b c => age b ≤ age c)
    ++ a :: younger.insertionSort (fun b c => age b ≤ age c), ⟨?_, ?_⟩, ?_⟩
  · have hparts : (older.insertionSort (fun b c => age b ≤ age c)
        ++ younger.insertionSort (fun b c => age b ≤ age c)).Perm (xs ++ ys) :=
      ((List.perm_insertionSort _ _).append (List.perm_insertionSort _ _)).trans
        (List.filter_append_perm _ _)
    exact List.perm_middle.trans ((hparts.cons a).trans List.perm_middle.symm)
  · refine List.pairwise_append.mpr ⟨sorted_insertionSort _, List.pairwise_cons.mpr
      ⟨fun c hc => ?_, sorted_insertionSort _⟩, fun b hb c hc => ?_⟩
    · rw [List.mem_insertionSort, hyounger, List.mem_filter] at hc
      have hlt : ¬ age c ≤ age a := by simpa using hc.2
      exact (not_le.mp hlt).le
    · rw [List.mem_insertionSort, holder, List.mem_filter] at hb
      have hba : age b ≤ age a := by simpa using hb.2
      rcases List.mem_cons.mp hc with rfl | hc
      · exact hba
      · rw [List.mem_insertionSort, hyounger, List.mem_filter] at hc
        have hlt : ¬ age c ≤ age a := by simpa using hc.2
        exact hba.trans (not_le.mp hlt).le
  · rw [List.countP_eq_length_filter, ← holder, ← List.length_insertionSort
      (fun b c => age b ≤ age c) older, List.take_left]

/-- A good element with as many bad ones at least as old as are taken may wait. -/
theorem exists_waiting_round {a : α} (hnodup : l.Nodup) (ha : a ∈ l) (hgood : good a = true)
    (hmany : n ≤ l.countP fun b => !good b && decide (age b ≤ age a)) :
    ∃ l', Round age good n l l' ∧ a ∈ l' := by
  classical
  obtain ⟨xs, ys, rfl⟩ := List.append_of_mem ha
  obtain ⟨order, horder, htake⟩ := @exists_behind _ _ _ age a xs ys
  have hfresh : a ∉ xs ++ ys := by
    have hmiddle := (@List.perm_middle _ a xs ys).nodup_iff.mp hnodup
    exact (List.nodup_cons.mp hmiddle).1
  -- those that are as old, without `a` itself, are enough to fill the places
  have henough : n ≤ (xs ++ ys).countP fun b => decide (age b ≤ age a) := by
    rw [List.perm_middle.countP_eq, List.countP_cons_of_neg (by simp [hgood])] at hmany
    refine hmany.trans (List.countP_mono_left fun b _ hb => ?_)
    exact (Bool.and_eq_true_iff.mp hb).2
  have hnot : a ∉ order.take n := by
    intro htaken
    have hfront : a ∈ order.take ((xs ++ ys).countP fun b => decide (age b ≤ age a)) :=
      (List.take_sublist_take_left henough).subset htaken
    rw [htake, List.mem_insertionSort] at hfront
    exact hfresh (List.mem_of_mem_filter hfront)
  refine ⟨(xs ++ a :: ys).filter fun b => !decide (b ∈ order.take n ∧ good b = true),
    ⟨order, horder, _, rfl, fun b _ => ?_⟩, ?_⟩
  · rw [Bool.not_eq_false', decide_eq_true_eq]
  · rw [List.mem_filter]
    exact ⟨ha, by simp [hnot]⟩

/-- And for any number of rounds. -/
theorem exists_waiting {a : α} (m : ℕ) : ∀ {l : List α}, l.Nodup → a ∈ l → good a = true →
    n ≤ (l.countP fun b => !good b && decide (age b ≤ age a)) →
    ∃ l', Rounds age good n m l l' ∧ a ∈ l' := by
  induction m with
  | zero =>
      intro l _ ha _ _
      exact ⟨l, rfl, ha⟩
  | succ m ih =>
      intro l hnodup ha hgood hmany
      obtain ⟨l₁, hround, ha₁⟩ := exists_waiting_round hnodup ha hgood hmany
      have hstill : n ≤ l₁.countP fun b => !good b && decide (age b ≤ age a) := by
        rw [hround.bad_stays]
        · exact hmany
        · intro b hb
          simpa using (Bool.and_eq_true_iff.mp hb).1
      obtain ⟨l', hrounds, ha'⟩ := ih (hround.sublist.nodup hnodup) ha₁ hgood hstill
      exact ⟨l', ⟨l₁, hround, hrounds⟩, ha'⟩

/-- Everything that blocks is as old as the youngest good element. -/
theorem exists_youngest (hgood : ∃ a ∈ l, good a = true) :
    ∃ a ∈ l, good a = true ∧ (blocking age good l).length
      = l.countP fun b => !good b && decide (age b ≤ age a) := by
  obtain ⟨a₀, ha₀, hgood₀⟩ := hgood
  have hmem₀ : a₀ ∈ l.filter good := List.mem_filter.mpr ⟨ha₀, hgood₀⟩
  obtain ⟨a, ha⟩ : ∃ a, (l.filter good).argmax age = some a := by
    rw [← Option.isSome_iff_exists, Option.isSome_iff_ne_none, ne_eq, List.argmax_eq_none]
    exact List.ne_nil_of_mem hmem₀
  obtain ⟨hal, hgooda⟩ := List.mem_filter.mp (List.argmax_mem ha)
  refine ⟨a, hal, hgooda, ?_⟩
  rw [blocking, ← List.countP_eq_length_filter]
  refine List.countP_congr fun b _ => ?_
  rw [isBlocking_iff, Bool.and_eq_true, Bool.not_eq_true', decide_eq_true_eq]
  refine and_congr_right fun _ => ⟨?_, fun hle => ⟨a, hal, hgooda, hle⟩⟩
  rintro ⟨c, hc, hgoodc, hle⟩
  exact hle.trans (List.le_of_mem_argmax (List.mem_filter.mpr ⟨hc, hgoodc⟩) ha)

/-- **The good elements run out in every schedule** exactly when fewer elements block than
are taken, as soon as there are as many rounds as good elements. -/
theorem drained_iff {m : ℕ} (hnodup : l.Nodup) (hgood : ∃ a ∈ l, good a = true)
    (hm : l.countP good ≤ m) :
    (∀ l', Rounds age good n m l l' → ∀ a ∈ l', good a = false)
      ↔ (blocking age good l).length < n := by
  constructor
  · intro h
    by_contra hmany
    obtain ⟨a, ha, hgooda, hcount⟩ := @exists_youngest _ _ _ age _ _ hgood
    obtain ⟨l', hrounds, ha'⟩ :=
      exists_waiting m hnodup ha hgooda (hcount ▸ not_lt.mp hmany)
    rw [h l' hrounds a ha'] at hgooda
    cases hgooda
  · exact fun hfew l' hrounds => hrounds.drained hfew hm

end

end TradeLogistics.OldestFirst
