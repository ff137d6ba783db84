/-
What a storage location lets through, and where its key leads.

Two things are asked of `StorageLocation`. That nothing it accepts leads out of the disk:
the key is a path of proper names, so a walk along it from the root only descends. And
that what it accepts is accepted again, because the composite rebuilds the location from
its own columns on every load. The first holds. The second does not, since the blanks, the
tilde and the drive letter are looked for in the text as it was sent and the separators
around it are dropped afterwards, so they may surface at the ends of what is stored.
-/
import TradeLogistics.StoredFile

set_option autoImplicit false

namespace TradeLogistics.Files

open TradeLogistics.PyText TradeLogistics.PyNumber

namespace StorageLocation

/-! ## 1. A path that is accepted -/

/-- The text `_validated_path` looks at: stripped, with one kind of separator. -/
def slashed (s : String) : String :=
  String.ofList ((strip s).toList.map fun c => if c = '\\' then '/' else c)

/-- **What it takes for a path to be accepted**, and what is stored then. -/
theorem validated_path_ok {s : String} {p : { p : String // p.length ≤ MAX_PATH_LENGTH }} :
    _validated_path (.str s) = .ok p ↔
      _reject_dangerous_characters (slashed s) "path" = none
      ∧ (∀ segment ∈ segments (slashed s), segment ∉ TRAVERSAL_SEGMENTS)
      ∧ p.val = joined (segments (slashed s)) := by
  have hsearch : (segments (slashed s)).find? (· ∈ TRAVERSAL_SEGMENTS) = none
      ↔ ∀ segment ∈ segments (slashed s), segment ∉ TRAVERSAL_SEGMENTS := by
    rw [List.find?_eq_none]
    simp
  rw [← hsearch]
  unfold _validated_path slashed
  simp only
  cases hreject : _reject_dangerous_characters
      (String.ofList ((strip s).toList.map fun c => if c = '\\' then '/' else c)) "path" with
  | some error => simp
  | none =>
      simp only
      cases hfind : (segments (String.ofList
          ((strip s).toList.map fun c => if c = '\\' then '/' else c))).find?
          (· ∈ TRAVERSAL_SEGMENTS) with
      | some segment => simp
      | none =>
          simp only [true_and]
          split
          -- the bound is on what is stored, so the subtype already says it is met
          · next hlong =>
              refine iff_of_false (by simp) fun hp => ?_
              have hfits := p.property
              rw [hp] at hfits
              exact Nat.not_lt_of_le hfits hlong
          · next hfits =>
              rw [Except.ok.injEq]
              constructor
              · intro h
                rw [← h]
              · intro hp
                exact Subtype.ext hp.symm

/-- The characters no backend should see. -/
theorem reject_none {candidate label : String} :
    _reject_dangerous_characters candidate label = none ↔
      '\x00' ∉ candidate.toList ∧ candidate.toList.head? ≠ some '~'
      ∧ candidate.toList[1]? ≠ some ':' := by
  unfold _reject_dangerous_characters
  constructor
  · intro h
    split at h
    · simp at h
    · next hnul =>
        split at h
        · simp at h
        · next htilde =>
            split at h
            · simp at h
            · next hdrive => exact ⟨hnul, htilde, hdrive⟩
  · rintro ⟨hnul, htilde, hdrive⟩
    rw [if_neg hnul, if_neg htilde, if_neg hdrive]

/-! ## 2. Segments -/

/-- A segment as it may stand in a key: a name, and not one that climbs. -/
structure Segment (cs : List Char) : Prop where
  nonempty : cs ≠ []
  no_separator : '/' ∉ cs
  no_backslash : '\\' ∉ cs
  no_nul : '\x00' ∉ cs
  no_climb : String.ofList cs ∉ TRAVERSAL_SEGMENTS

/-- The characters of the segments. -/
def pieces (candidate : String) : List (List Char) :=
  (splitChars '/' candidate.toList).filter fun piece => !piece.isEmpty

theorem segments_eq (candidate : String) :
    segments candidate = (pieces candidate).map String.ofList := rfl

theorem joined_eq (candidate : String) :
    joined (segments candidate) = String.ofList (joinChars '/' (pieces candidate)) := by
  rw [joined, segments_eq, List.map_map]
  congr 2
  exact (List.map_congr_left fun piece _ => String.toList_ofList).trans (List.map_id _)

/-- The text has no backslash left. -/
theorem slashed_plain (s : String) : '\\' ∉ (slashed s).toList := by
  rw [slashed, String.toList_ofList, List.mem_map]
  rintro ⟨c, -, hc⟩
  split at hc
  · simp at hc
  · next hne => exact hne hc

/-- The segments of an accepted path. -/
theorem accepted_segments {s : String} {p : { p : String // p.length ≤ MAX_PATH_LENGTH }}
    (h : _validated_path (.str s) = .ok p) : ∀ piece ∈ pieces (slashed s), Segment piece := by
  obtain ⟨hreject, htraversal, -⟩ := validated_path_ok.mp h
  intro piece hpiece
  obtain ⟨hmem, hnonempty⟩ := List.mem_filter.mp hpiece
  refine ⟨?_, ?_, ?_, ?_, ?_⟩
  · rintro rfl
    simp at hnonempty
  · exact fun hsep => (mem_splitChars hmem '/' hsep).2 rfl
  · exact fun hback => slashed_plain s (mem_splitChars hmem '\\' hback).1
  · exact fun hnul => (reject_none.mp hreject).1 (mem_splitChars hmem '\x00' hnul).1
  · exact htraversal _ (List.mem_map_of_mem hpiece)

/-- Segments that are joined are the segments of what they make. -/
theorem pieces_joinChars {directories : List (List Char)} (h : ∀ d ∈ directories, Segment d) :
    pieces (String.ofList (joinChars '/' directories)) = directories := by
  rw [pieces, String.toList_ofList]
  by_cases hnil : directories = []
  · subst hnil
    rfl
  · rw [splitChars_joinChars hnil fun d hd => (h d hd).no_separator, List.filter_eq_self]
    intro d hd
    have hne := (h d hd).nonempty
    simpa using hne

/-! ## 3. Reading a path back

A stored path is read back as it is when it has no blank to lose at its ends and passes
the check once more; a strip that takes anything away leaves too little to join. -/

/-- Nothing in a text of segments is what a segment may not contain. -/
theorem not_mem_joined {directories : List (List Char)} {c : Char} (hc : c ≠ '/')
    (h : ∀ d ∈ directories, c ∉ d) : c ∉ joinChars '/' directories := by
  intro hmem
  rcases mem_joinChars hmem with rfl | ⟨d, hd, hcd⟩
  · exact hc rfl
  · exact h d hd hcd

theorem slashed_of_plain {p : String} (h : '\\' ∉ p.toList) : slashed p = strip p := by
  have hmap : (strip p).toList.map (fun c => if c = '\\' then '/' else c) = (strip p).toList := by
    refine (List.map_congr_left fun c hc => ?_).trans (List.map_id _)
    rw [strip, String.toList_ofList] at hc
    have hne : c ≠ '\\' := fun hc' => h (hc' ▸ (stripChars_within isspace _).mem hc)
    rw [if_neg hne, id]
  rw [slashed, hmap, String.ofList_toList]

theorem path_read_back {s : String} {p : { p : String // p.length ≤ MAX_PATH_LENGTH }}
    (h : _validated_path (.str s) = .ok p) :
    _validated_path (.str p.val) = .ok p ↔
      strip p.val = p.val ∧ _reject_dangerous_characters p.val "path" = none := by
  have hsegments := accepted_segments h
  obtain ⟨-, htraversal, hp⟩ := validated_path_ok.mp h
  have hlist : p.val = String.ofList (joinChars '/' (pieces (slashed s))) := by
    rw [hp, joined_eq]
  have hplain : '\\' ∉ p.val.toList := by
    rw [hlist, String.toList_ofList]
    exact not_mem_joined (by decide) fun d hd => (hsegments d hd).no_backslash
  rw [validated_path_ok, slashed_of_plain hplain]
  constructor
  · rintro ⟨hreject, -, hjoined⟩
    -- what is joined of the stripped text is no longer than the text, and is all of the path
    have hstrip : strip p.val = p.val := by
      have hlong : p.val.toList.length ≤ (stripChars isspace p.val.toList).length := by
        have hfilter := joinChars_filter_length '/' (fun piece => !piece.isEmpty)
          (splitChars '/' (strip p.val).toList)
        rw [joinChars_splitChars, strip, String.toList_ofList] at hfilter
        calc p.val.toList.length
            = (joinChars '/' (pieces (strip p.val))).length := by
              conv_lhs => rw [hjoined, joined_eq, String.toList_ofList]
          _ ≤ (stripChars isspace p.val.toList).length := by
              rw [pieces, strip, String.toList_ofList]
              exact hfilter
      rw [strip, stripChars_eq_of_length hlong, String.ofList_toList]
    exact ⟨hstrip, hstrip ▸ hreject⟩
  · rintro ⟨hstrip, hreject⟩
    have hsame : segments p.val = segments (slashed s) := by
      rw [segments_eq, hlist, pieces_joinChars hsegments, segments_eq]
    rw [hstrip, hsame]
    exact ⟨hreject, htraversal, hp⟩

/-! ## 4. Names, and the whole location -/

theorem validated_name_ok {s : String}
    {n : { n : String // n ≠ "" ∧ n.length ≤ MAX_NAME_LENGTH ∧ '/' ∉ n.toList }} :
    _validated_name (.str s) = .ok n ↔
      _reject_dangerous_characters (strip s) "file name" = none ∧ '\\' ∉ (strip s).toList
      ∧ strip s ∉ TRAVERSAL_SEGMENTS ∧ n.val = strip s := by
  obtain ⟨n, hempty, hfits, hsep⟩ := n
  unfold _validated_name
  simp only
  -- the checks in the order of the source; each that fails contradicts a field of `n`
  by_cases hnone : strip s = ""
  · rw [dif_pos hnone]
    refine iff_of_false (by simp) ?_
    rintro ⟨-, -, -, hn⟩
    exact hempty (hn.trans hnone)
  · rw [dif_neg hnone]
    cases hreject : _reject_dangerous_characters (strip s) "file name" with
    | some error => simp
    | none =>
        simp only [true_and]
        by_cases hseparator : '/' ∈ (strip s).toList ∨ '\\' ∈ (strip s).toList
        · rw [dif_pos hseparator]
          refine iff_of_false (by simp) ?_
          rintro ⟨hback, -, hn⟩
          rcases hseparator with hslash | hbackslash
          · exact hsep (hn ▸ hslash)
          · exact hback hbackslash
        · rw [dif_neg hseparator]
          rw [not_or] at hseparator
          by_cases htraversal : strip s ∈ TRAVERSAL_SEGMENTS
          · rw [if_pos htraversal]
            exact iff_of_false (by simp) fun h => h.2.1 htraversal
          · rw [if_neg htraversal]
            by_cases hlong : (strip s).length > MAX_NAME_LENGTH
            · rw [dif_pos hlong]
              refine iff_of_false (by simp) ?_
              rintro ⟨-, -, hn⟩
              rw [hn] at hfits
              exact Nat.not_lt_of_le hfits hlong
            · rw [dif_neg hlong, Except.ok.injEq, Subtype.mk.injEq]
              constructor
              · intro hn
                exact ⟨hseparator.2, htraversal, hn.symm⟩
              · rintro ⟨-, -, hn⟩
                exact hn.symm

/-- A name is stored as it is read back. -/
theorem name_read_back {s : String}
    {n : { n : String // n ≠ "" ∧ n.length ≤ MAX_NAME_LENGTH ∧ '/' ∉ n.toList }}
    (h : _validated_name (.str s) = .ok n) : _validated_name (.str n.val) = .ok n := by
  obtain ⟨hreject, hback, htraversal, hn⟩ := validated_name_ok.mp h
  rw [validated_name_ok, hn, strip_strip]
  exact ⟨hreject, hback, htraversal, rfl⟩

/-- A location is a path and a name, each validated. -/
theorem make_ok {path name : Value} {location : StorageLocation} :
    make path name = .ok location ↔
      (∃ p, _validated_path path = .ok p ∧ location.path = p.val)
      ∧ ∃ n, _validated_name name = .ok n ∧ location.name = n.val := by
  obtain ⟨locpath, locname, hpath, hname, hfits, hsep⟩ := location
  unfold make
  cases hp : _validated_path path with
  | error error => exact iff_of_false (by rintro ⟨⟩) (by simp)
  | ok p =>
      cases hn : _validated_name name with
      | error error => exact iff_of_false (by rintro ⟨⟩) (by simp)
      | ok n =>
          simp only [bind, Except.bind, pure, Except.pure, Except.ok.injEq,
            StorageLocation.mk.injEq, exists_eq_left']
          exact and_congr eq_comm eq_comm

/-- `__composite_values__`. -/
def composite_values (self : StorageLocation) : String × String := (self.path, self.name)

/-- `StorageLocation(*values)`, as the composite builds it from a row. -/
def of_columns (values : String × String) : Except FileError StorageLocation :=
  make (.str values.1) (.str values.2)

/-- What the ends of a path must be like: the first directory begins with no blank, no
tilde and no drive letter, and the last one ends with no blank. -/
def PlainEnds (path : Value) : Prop :=
  match path with
  | .str s =>
    (∀ first ∈ (segments (slashed s)).head?,
      _reject_dangerous_characters first "path" = none
      ∧ ∀ c ∈ first.toList.head?, isspace c = false)
    ∧ ∀ last ∈ (segments (slashed s)).getLast?, ∀ c ∈ last.toList.getLast?, isspace c = false
  | _ => True

/-- The ends of a stored path are those of its first and its last directory. -/
theorem plain_ends_iff {s : String} {p : { p : String // p.length ≤ MAX_PATH_LENGTH }}
    (h : _validated_path (.str s) = .ok p) :
    (strip p.val = p.val ∧ _reject_dangerous_characters p.val "path" = none)
      ↔ PlainEnds (.str s) := by
  have hsegments := accepted_segments h
  have hp : p.val = String.ofList (joinChars '/' (pieces (slashed s))) := by
    rw [(validated_path_ok.mp h).2.2, joined_eq]
  have hstrip : strip p.val = p.val
      ↔ stripChars isspace (joinChars '/' (pieces (slashed s)))
        = joinChars '/' (pieces (slashed s)) := by
    rw [hp, strip, String.toList_ofList, String.ofList_inj]
  rw [hstrip, hp, stripChars_eq_self_iff, reject_none, PlainEnds, segments_eq,
    String.toList_ofList]
  rcases hpieces : pieces (slashed s) with _ | ⟨first, rest⟩
  · simp [joinChars]
  · -- the join begins as the first segment does, and ends as the last one does
    rw [hpieces] at hsegments
    have hfirst := hsegments first List.mem_cons_self
    have hnul : '\x00' ∉ joinChars '/' (first :: rest) :=
      not_mem_joined (by decide) fun d hd => (hsegments d hd).no_nul
    have hbegin : (joinChars '/' (first :: rest)).head? = first.head?
        ∧ ((joinChars '/' (first :: rest))[1]? ≠ some ':' ↔ first[1]? ≠ some ':') := by
      by_cases hrest : rest = []
      · rw [hrest, joinChars]
        exact ⟨rfl, Iff.rfl⟩
      · rw [joinChars_cons '/' first hrest]
        rcases first with _ | ⟨c, _ | ⟨d, tail⟩⟩
        · exact absurd rfl hfirst.nonempty
        · simp
        · simp
    obtain ⟨last, hlast⟩ : ∃ last, (first :: rest).getLast? = some last :=
      ⟨_, List.getLast?_eq_some_getLast (List.cons_ne_nil _ _)⟩
    have hmem : last ∈ first :: rest := List.mem_of_getLast? hlast
    have hend : (joinChars '/' (first :: rest)).getLast? = last.getLast? :=
      joinChars_getLast hlast (hsegments last hmem).nonempty
    rw [hbegin.1, hbegin.2, hend, List.getLast?_map, hlast]
    simp only [List.map_cons, List.head?_cons, Option.map_some, Option.mem_some_iff,
      forall_eq', reject_none, String.toList_ofList]
    constructor
    · rintro ⟨⟨hhead, htail⟩, -, htilde, hdrive⟩
      exact ⟨⟨⟨hfirst.no_nul, htilde, hdrive⟩, hhead⟩, htail⟩
    · rintro ⟨⟨⟨-, htilde, hdrive⟩, hhead⟩, htail⟩
      exact ⟨⟨hhead, htail⟩, hnul, htilde, hdrive⟩

/-- The name is stored as it is read back, so it comes down to the path. -/
theorem rebuilt_iff_path {path name : Value} {location : StorageLocation}
    {p : { p : String // p.length ≤ MAX_PATH_LENGTH }} (h : make path name = .ok location)
    (hp : _validated_path path = .ok p) :
    of_columns location.composite_values = .ok location
      ↔ _validated_path (.str p.val) = .ok p := by
  obtain ⟨⟨p', hp', hlocpath⟩, n, hn, hlocname⟩ := make_ok.mp h
  obtain rfl : p = p' := Except.ok.inj (hp.symm.trans hp')
  rw [of_columns, composite_values, make_ok, hlocpath, hlocname]
  constructor
  · rintro ⟨⟨p', hp', hsame⟩, -⟩
    rw [hp', Subtype.ext hsame]
  · intro hread
    refine ⟨⟨p, hread, rfl⟩, n, ?_, rfl⟩
    cases name with
    | str s => exact name_read_back hn
    | _ => simp [_validated_name] at hn

/-- A path that is sent as text is read back exactly when it has plain ends. -/
theorem rebuilt_iff_plainEnds {s : String} {name : Value} {location : StorageLocation}
    (h : make (.str s) name = .ok location) :
    of_columns location.composite_values = .ok location ↔ PlainEnds (.str s) := by
  obtain ⟨⟨p, hp, -⟩, -⟩ := make_ok.mp h
  rw [rebuilt_iff_path h hp, path_read_back hp, plain_ends_iff hp]

/-- **A stored location is read back exactly when its path has plain ends.** -/
theorem read_back_iff {path name : Value} {location : StorageLocation}
    (h : make path name = .ok location) :
    of_columns location.composite_values = .ok location ↔ PlainEnds path := by
  cases path with
  | str s => exact rebuilt_iff_plainEnds h
  | none =>
      obtain ⟨⟨p, hp, -⟩, -⟩ := make_ok.mp h
      have hempty : p = ⟨"", Nat.zero_le _⟩ := Except.ok.inj (hp.symm.trans rfl)
      rw [rebuilt_iff_path h hp, hempty]
      exact iff_of_true rfl trivial
  | _ =>
      obtain ⟨⟨p, hp, -⟩, -⟩ := make_ok.mp h
      simp [_validated_path] at hp

/-- A path as a client may send it, and one that is not read back. -/
def invoice : StorageLocation where
  path := "customs/cases"
  name := "invoice.pdf"
  path_fits := by decide
  name_required := by decide
  name_fits := by decide
  no_separator := by decide

theorem read_back_sample : of_columns invoice.composite_values = .ok invoice := by
  have hmade : make (.str " /customs\\cases/ ") (.str "invoice.pdf") = .ok invoice := rfl
  refine (read_back_iff hmade).mpr ⟨?_, ?_⟩
  · intro first hfirst
    have hcustoms : first = "customs" := (Option.mem_some_iff.mp hfirst).symm
    subst hcustoms
    refine ⟨by decide, fun c hc => ?_⟩
    have hc : c = 'c' := (Option.mem_some_iff.mp hc).symm
    subst hc
    decide
  · intro last hlast c hc
    have hcases : last = "cases" := (Option.mem_some_iff.mp hlast).symm
    subst hcases
    have hc : c = 's' := (Option.mem_some_iff.mp hc).symm
    subst hc
    decide

/-- A tilde behind a separator is accepted, stored, and refused on the next load; a blank
behind one is stored and lost, so that the key is another. -/
theorem not_read_back :
    (∃ location error, make (.str "/~/keys") (.str "invoice.pdf") = .ok location
      ∧ of_columns location.composite_values = .error error)
    ∧ ∃ location other, make (.str "/ keys") (.str "invoice.pdf") = .ok location
      ∧ of_columns location.composite_values = .ok other ∧ other.key ≠ location.key :=
  ⟨⟨_, _, rfl, rfl⟩, _, _, rfl, rfl, by decide⟩

/-! ## 5. The key

The segments of a key are those of the path and the name, so what is to be said of the
key is said of each of them. -/

/-- What keeps a key on its disk. -/
structure OnDisk (key : String) : Prop where
  nonempty : key ≠ ""
  no_nul : '\x00' ∉ key.toList
  no_backslash : '\\' ∉ key.toList
  no_leading : key.toList.head? ≠ some '/'
  no_trailing : key.toList.getLast? ≠ some '/'
  segments : ∀ piece ∈ splitChars '/' key.toList,
    piece ≠ [] ∧ String.ofList piece ∉ TRAVERSAL_SEGMENTS

theorem name_segment {name : Value}
    {n : { n : String // n ≠ "" ∧ n.length ≤ MAX_NAME_LENGTH ∧ '/' ∉ n.toList }}
    (h : _validated_name name = .ok n) : Segment n.val.toList := by
  cases name with
  | str s =>
      obtain ⟨hreject, hback, htraversal, hn⟩ := validated_name_ok.mp h
      refine ⟨?_, n.property.2.2, ?_, ?_, ?_⟩
      · intro hnil
        exact n.property.1 (String.toList_eq_nil_iff.mp hnil)
      · rw [hn]
        exact hback
      · rw [hn]
        exact (reject_none.mp hreject).1
      · rw [String.ofList_toList, hn]
        exact htraversal
  | _ => simp [_validated_name] at h

/-- A key is made of segments. -/
theorem key_pieces {path name : Value} {location : StorageLocation}
    (h : make path name = .ok location) :
    ∃ directories : List (List Char),
      (∀ d ∈ directories ++ [location.name.toList], Segment d)
      ∧ location.key.toList = joinChars '/' (directories ++ [location.name.toList]) := by
  obtain ⟨⟨p, hp, hlocpath⟩, n, hn, hlocname⟩ := make_ok.mp h
  have hname : Segment location.name.toList := by
    rw [hlocname]
    exact name_segment hn
  by_cases hempty : location.path = ""
  · -- at the root of the disk the key is the name
    refine ⟨[], fun d hd => ?_, ?_⟩
    · rw [List.mem_singleton.mp hd]
      exact hname
    · rw [key, if_pos hempty]
      rfl
  · cases path with
    | str s =>
        have hsegments := accepted_segments hp
        have hjoined : location.path = String.ofList (joinChars '/' (pieces (slashed s))) := by
          rw [hlocpath, (validated_path_ok.mp hp).2.2, joined_eq]
        refine ⟨pieces (slashed s), fun d hd => ?_, ?_⟩
        · rcases List.mem_append.mp hd with hd | hd
          · exact hsegments d hd
          · rw [List.mem_singleton.mp hd]
            exact hname
        · have hne : pieces (slashed s) ≠ [] := by
            intro hnil
            rw [hnil] at hjoined
            exact hempty hjoined
          rw [key, if_neg hempty, joinChars_concat '/' hne, String.toList_append,
            String.toList_append, hjoined, String.toList_ofList, List.append_assoc]
          rfl
    | none =>
        have hnone : p = ⟨"", Nat.zero_le _⟩ := Except.ok.inj (hp.symm.trans rfl)
        rw [hnone] at hlocpath
        exact absurd hlocpath hempty
    | _ => simp [_validated_path] at hp

theorem key_on_disk {path name : Value} {location : StorageLocation}
    (h : make path name = .ok location) : OnDisk location.key := by
  obtain ⟨directories, hsegments, hkey⟩ := key_pieces h
  have hne : directories ++ [location.name.toList] ≠ [] := by simp
  have hsplit : splitChars '/' location.key.toList = directories ++ [location.name.toList] := by
    rw [hkey, splitChars_joinChars hne fun d hd => (hsegments d hd).no_separator]
  have hlast : Segment location.name.toList := hsegments _ (by simp)
  have hends : location.key.toList.getLast? = location.name.toList.getLast? := by
    rw [hkey]
    exact joinChars_getLast List.getLast?_concat hlast.nonempty
  constructor
  · intro hempty
    rw [hempty] at hends
    rw [List.getLast?_eq_some_getLast hlast.nonempty] at hends
    simp at hends
  · rw [hkey]
    exact not_mem_joined (by decide) fun d hd => (hsegments d hd).no_nul
  · rw [hkey]
    exact not_mem_joined (by decide) fun d hd => (hsegments d hd).no_backslash
  · intro hslash
    -- A text that begins with a separator has an empty first piece.
    rcases hchars : location.key.toList with _ | ⟨c, rest⟩
    · rw [hchars] at hslash
      simp at hslash
    · rw [hchars, List.head?_cons, Option.some.injEq] at hslash
      rw [hchars, hslash, splitChars, if_pos rfl] at hsplit
      have hmem : [] ∈ directories ++ [location.name.toList] := by
        rw [← hsplit]
        exact List.mem_cons_self
      exact (hsegments [] hmem).nonempty rfl
  · rw [hends]
    intro hslash
    exact hlast.no_separator (List.mem_of_getLast? hslash)
  · rw [hsplit]
    exact fun piece hpiece => ⟨(hsegments piece hpiece).nonempty, (hsegments piece hpiece).no_climb⟩

end StorageLocation

/-! ## 6. What a file is loaded as

The mapping keeps the path and the name in columns of their own, and the location is one
value object over the two. A load builds it from them, and so does the next look at it once
a file is inserted. -/

/-- A file as it is loaded: its location is rebuilt from its columns. -/
def load (row : StoredFile) : Except FileError StoredFile :=
  match StorageLocation.of_columns row.location.composite_values with
  | .error error => .error error
  | .ok location => .ok { row with location := location }

/-- Only the location may differ from what the row says. -/
theorem load_ok {row file : StoredFile} : load row = .ok file ↔
    ∃ location, StorageLocation.of_columns row.location.composite_values = .ok location
      ∧ file = { row with location := location } := by
  unfold load
  cases StorageLocation.of_columns row.location.composite_values with
  | error error => simp
  | ok location => simp [eq_comm]

/-- A row whose location is rebuilt as it is, is loaded as it is. -/
theorem load_eq_self_iff {row : StoredFile} : load row = .ok row ↔
    StorageLocation.of_columns row.location.composite_values = .ok row.location := by
  rw [load_ok]
  constructor
  · rintro ⟨location, hlocation, hrow⟩
    rw [hlocation, congrArg StoredFile.location hrow]
  · intro hlocation
    exact ⟨row.location, hlocation, rfl⟩

/-! ## 7. The backend path -/

/-- The part of `DiskConfig` that says where the keys go. -/
structure DiskConfig where
  name : String
  root : String

/-- The root without its trailing separators. -/
def DiskConfig.base (config : DiskConfig) : String :=
  String.ofList (config.root.toList.rdropWhile (· == '/'))

/-- `_absolute`. -/
def _absolute (config : DiskConfig) (key : String) : String :=
  if config.base = "" then key else config.base ++ "/" ++ key

/-- Where a segment leads from a directory, given by the names above it. -/
def enter (directory : List String) (segment : String) : List String :=
  if segment = "" ∨ segment = "." then directory
  else if segment = ".." then directory.dropLast
  else directory ++ [segment]

/-- Where a path leads from a directory. -/
def resolve (directory : List String) (segments : List String) : List String :=
  segments.foldl enter directory

/-- The segments of a path. -/
def walk (path : String) : List String := (splitChars '/' path.toList).map String.ofList

/-- A walk along names only descends. -/
theorem resolve_descends {segments : List String} (h : ∀ s ∈ segments, s ≠ "..") :
    ∀ directory, directory <+: resolve directory segments := by
  induction segments with
  | nil => exact fun directory => List.prefix_rfl
  | cons segment rest ih =>
      intro directory
      have hrest := ih (fun s hs => h s (List.mem_cons_of_mem segment hs))
        (enter directory segment)
      refine List.IsPrefix.trans ?_ hrest
      rw [enter, if_neg (h segment List.mem_cons_self)]
      split
      · exact List.prefix_rfl
      · exact List.prefix_append directory [segment]

/-- Where the root leads, as the part of the path before the key. -/
def DiskConfig.root_walk (config : DiskConfig) : List String :=
  if config.base = "" then [] else walk config.base

/-- The path is walked through the root first. -/
theorem walk_absolute (config : DiskConfig) (key : String) :
    walk (_absolute config key) = config.root_walk ++ walk key := by
  rw [_absolute, DiskConfig.root_walk]
  by_cases hbase : config.base = ""
  · rw [if_pos hbase, if_pos hbase, List.nil_append]
  · rw [if_neg hbase, if_neg hbase, walk, walk, walk, String.toList_append, String.toList_append,
      List.append_assoc, ← List.map_append]
    exact congrArg _ (splitChars_append '/' config.base.toList key.toList)

/-- **An upload stays on its disk.** The key of a location that was accepted is a path of
proper names, and from wherever the root leads to, no part of the way along the backend
path leads out of it. -/
theorem upload_stays_on_disk (config : DiskConfig) {path name : Value}
    {location : StorageLocation} (h : StorageLocation.make path name = .ok location) :
    StorageLocation.OnDisk location.key
      ∧ _absolute config location.key
          = (if config.base = "" then location.key else config.base ++ "/" ++ location.key)
      ∧ ∀ start walked, config.root_walk <+: walked →
          walked <+: walk (_absolute config location.key) →
          resolve start config.root_walk <+: resolve start walked := by
  have hkey := StorageLocation.key_on_disk h
  refine ⟨hkey, rfl, ?_⟩
  rintro start walked ⟨part, rfl⟩ hwalked
  -- behind the root, every name walked is one of the key's
  rw [walk_absolute, List.prefix_append_right_inj] at hwalked
  rw [resolve, resolve, List.foldl_append]
  refine resolve_descends (fun s hs => ?_) _
  obtain ⟨piece, hpiece, rfl⟩ := List.mem_map.mp (hwalked.subset hs)
  intro hclimb
  refine (hkey.segments piece hpiece).2 ?_
  rw [hclimb]
  exact List.mem_cons_self

theorem upload_stays_on_disk_sample :
    StorageLocation.OnDisk StorageLocation.invoice.key
      ∧ _absolute ⟨"local", "/var/lib/files/"⟩ StorageLocation.invoice.key
          = "/var/lib/files/customs/cases/invoice.pdf" :=
  have hmade : StorageLocation.make (.str " /customs\\cases/ ") (.str "invoice.pdf")
      = .ok StorageLocation.invoice := rfl
  have hstays := upload_stays_on_disk ⟨"local", "/var/lib/files/"⟩ hmade
  ⟨hstays.1, hstays.2.1.trans (by decide)⟩

end TradeLogistics.Files
