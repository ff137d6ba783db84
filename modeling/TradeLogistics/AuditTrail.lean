/-
Who signed off on a document, when several requests do.

`DocumentRegistryItem.verify` refuses a second sign-off, and it refuses on what the copy
shows. A request that loaded the document before the first sign-off was committed sees it
outstanding, signs, and its commit writes both columns again: the first inspector's name
is gone, and two requests have reported success. Nothing else can do this. What a copy
shows as cleared stays cleared, so the trail is kept precisely as long as every sign-off
lands on a row that is still outstanding.
-/
import TradeLogistics.CaseRequests

set_option autoImplicit false

namespace TradeLogistics.Customs

open TradeLogistics.PyText TradeLogistics.Runs

/-! ## 1. The trail -/

/-- The document a request has signed off once it commits. -/
def Request.signs : Request → RequestStep → Option Uuid
  | .handled (.verify_document document_id _) copy _ _, .commit =>
    (copy.find_document document_id).map (·.id)
  | _, _ => none

section Trail

variable {ι : Type*} [DecidableEq ι]

/-- The requests and the rows, with the sign-offs reported so far: by which request, of
which document. -/
structure Audited (ι : Type*) where
  config : Config ι CaseRows Request
  reported : List (ι × Uuid)

def Audited.rows (s : Audited ι) : CaseRows := s.config.shared

/-- One action of one request; a sign-off is reported by its commit. -/
def audited_step (s : Audited ι) (e : ι × RequestStep) : Option (Audited ι) :=
  (fire request_step s.config e).map fun config =>
    { config
      reported := s.reported ++ ((s.config.locals e.1).signs e.2).toList.map fun d => (e.1, d) }

/-- A document that was cleared still is, by the inspector who cleared it. -/
def AuditKept (rows rows' : CaseRows) : Prop :=
  ∀ row ∈ rows.case.documents, row.is_verified = true →
    ∃ row' ∈ rows'.case.documents, row'.id = row.id ∧ row'.is_verified = true
      ∧ row'.verified_by_inspector_id = row.verified_by_inspector_id

theorem AuditKept.refl (rows : CaseRows) : AuditKept rows rows :=
  fun row hrow hv => ⟨row, hrow, rfl, hv, rfl⟩

theorem AuditKept.trans {a b c : CaseRows} (hab : AuditKept a b) (hbc : AuditKept b c) :
    AuditKept a c := by
  intro row hrow hv
  obtain ⟨row', hrow', hid, hv', hby⟩ := hab row hrow hv
  obtain ⟨row'', hrow'', hid', hv'', hby'⟩ := hbc row' hrow' hv'
  exact ⟨row'', hrow'', hid'.trans hid, hv'', hby'.trans hby⟩

/-- The first sign-off is final: the names stay, and no document is signed off by two
requests. -/
def SignedOnce (s s' : Audited ι) : Prop :=
  AuditKept s.rows s'.rows ∧ (s'.reported.map Prod.snd).Nodup

/-- What a sign-off commits to is outstanding in the rows it commits to. -/
def FindsUnverified (rows : CaseRows) (k : Request) (a : RequestStep) : Prop :=
  ∀ document_id, k.signs a = some document_id →
    ∀ row ∈ rows.case.documents, row.id = document_id → row.is_verified = false

/-! ## 2. What a sign-off leaves -/

/-- A sign-off on rows where its document is outstanding touches nobody's name. -/
theorem sign_off_kept {ds : List DocumentRegistryItem} {d d' row : DocumentRegistryItem}
    (hfinds : ∀ row ∈ ds, row.id = d.id → row.is_verified = false)
    (hrow : row ∈ ds) (hv : row.is_verified = true) : row ∈ sign_off d d' ds := by
  refine List.mem_map.mpr ⟨row, hrow, if_neg ?_⟩
  intro hid
  have hunverified := hfinds row hrow hid.symm
  rw [hv] at hunverified
  simp at hunverified

/-- Whatever a sign-off finds, it clears its own document and no other. -/
theorem verified_sign_off {ds : List DocumentRegistryItem} {d d' row' : DocumentRegistryItem}
    {inspector_id : Argument} (hverify : d.verify inspector_id = (d', .ok ()))
    (hrow' : row' ∈ sign_off d d' ds) (hne : row'.id ≠ d.id) : row' ∈ ds := by
  obtain ⟨row, hrow, rfl⟩ := List.mem_map.mp hrow'
  by_cases hid : d.id = row.id
  · rw [if_pos hid] at hne
    rw [(sign_off_row hverify row).1] at hne
    exact absurd hid.symm hne
  · rw [if_neg hid]
    exact hrow

/-! ## 3. What holds between the steps

`before` are the documents that were cleared when the requests came in. -/

/-- A collection shows these documents as cleared. -/
def Shows (before : List Uuid) (ds : List DocumentRegistryItem) : Prop :=
  ∀ d ∈ ds, d.id ∈ before → d.is_verified = true

/-- A collection a request has loaded: its documents are still there, and it shows what
was cleared before. -/
def Loaded (before : List Uuid) (rows : CaseRows) (ds : List DocumentRegistryItem) : Prop :=
  Within ds rows.case.documents ∧ Shows before ds

/-- What a request knows from what it has read. -/
def Request.Aware (before : List Uuid) (rows : CaseRows) : Request → Prop
  | .loaded _ copy => Loaded before rows copy.documents
  | .handled call copy after event =>
    Loaded before rows copy.documents ∧ call.perform copy = (after, .ok event)
  | _ => True

theorem Request.Aware.mono {before : List Uuid} {rows rows' : CaseRows}
    (h : Within rows.case.documents rows'.case.documents) {k : Request}
    (hk : k.Aware before rows) : k.Aware before rows' := by
  cases k with
  | received call => trivial
  | case_read call row => trivial
  | loaded call copy => exact ⟨hk.1.trans h, hk.2⟩
  | handled call copy after event => exact ⟨⟨hk.1.1.trans h, hk.1.2⟩, hk.2⟩
  | finished => trivial

/-- The trail so far: what is cleared in the rows was so before or has been reported, and
the other way round. -/
structure Trail (before : List Uuid) (s : Audited ι) : Prop where
  cleared : ∀ row ∈ s.rows.case.documents, row.is_verified = true →
    row.id ∈ before ∨ row.id ∈ s.reported.map Prod.snd
  shown : Shows before s.rows.case.documents
  filed : ∀ document_id ∈ before, ∃ row ∈ s.rows.case.documents, row.id = document_id
  kept : ∀ document_id ∈ s.reported.map Prod.snd,
    ∃ row ∈ s.rows.case.documents, row.id = document_id ∧ row.is_verified = true
  once : (s.reported.map Prod.snd).Nodup
  aware : ∀ i, (s.config.locals i).Aware before s.rows

/-! ## 4. One action -/

theorem signs_of_ne_commit {k : Request} {a : RequestStep} (ha : a ≠ .commit) :
    k.signs a = none := by
  unfold Request.signs
  split
  · exact absurd rfl ha
  · rfl

/-- What one action does to the trail: nothing, a document more, or a sign-off of one the
copy did not show as cleared. -/
inductive Acted (before : List Uuid) (s s' : Audited ι) (e : ι × RequestStep) : Prop where
  | aside (hrows : s'.rows = s.rows) (hreported : s'.reported = s.reported)
      (hsigns : (s.config.locals e.1).signs e.2 = none)
  | attached (d : DocumentRegistryItem) (hd : d.is_verified = false)
      (hnew : ∀ row ∈ s.rows.case.documents, row.id ≠ d.id)
      (hrows : s'.rows.case.documents = s.rows.case.documents ++ [d])
      (hreported : s'.reported = s.reported)
      (hsigns : (s.config.locals e.1).signs e.2 = none)
  | signed (d d' : DocumentRegistryItem) (inspector_id : Argument)
      (hverify : d.verify inspector_id = (d', .ok ())) (hnew : d.id ∉ before)
      (hfiled : ∃ row ∈ s.rows.case.documents, row.id = d.id)
      (hrows : s'.rows.case.documents = sign_off d d' s.rows.case.documents)
      (hreported : s'.reported = s.reported ++ [(e.1, d.id)])
      (hsigns : (s.config.locals e.1).signs e.2 = some d.id)

omit [DecidableEq ι] in
/-- No document is taken away, and none is outstanding again. -/
theorem Acted.within {before : List Uuid} {s s' : Audited ι} {e : ι × RequestStep}
    (h : Acted before s s' e) : Within s.rows.case.documents s'.rows.case.documents := by
  cases h with
  | aside hrows _ _ =>
      rw [hrows]
      exact Within.refl _
  | attached d _ _ hrows _ _ =>
      rw [hrows]
      exact Within.append _ [d]
  | signed d d' inspector_id hverify _ _ hrows _ _ =>
      rw [hrows]
      exact within_sign_off hverify _

/-- Every action is one of these, and leaves its request aware. -/
theorem audited_step_cases {before : List Uuid} {s s' : Audited ι} {e : ι × RequestStep}
    (hshown : Shows before s.rows.case.documents)
    (haware : (s.config.locals e.1).Aware before s.rows) (h : audited_step s e = some s') :
    Acted before s s' e ∧ ∃ k', s'.config.locals = Function.update s.config.locals e.1 k'
      ∧ k'.Aware before s.rows := by
  obtain ⟨config, hfire, rfl⟩ := Option.map_eq_some_iff.mp h
  obtain ⟨rows', k', hact, rfl⟩ := fire_eq_some.mp hfire
  rcases request_step_cases hact with
    ⟨hrows, ha, hk'⟩ | ⟨call, copy, after, event, hk, ha, hcommit, hk'⟩
  · have hsigns := signs_of_ne_commit (k := s.config.locals e.1) ha
    refine ⟨.aside hrows ?_ hsigns, k', rfl, ?_⟩
    · dsimp only
      rw [hsigns]
      simp
    · rcases hk' with rfl | ⟨call, -, rfl⟩ | ⟨call, row, -, rfl⟩ |
        ⟨call, copy, after, event, hk, hcall, rfl⟩
      · trivial
      · trivial
      · exact ⟨Within.refl _, hshown⟩
      · rw [hk] at haware
        exact ⟨haware, hcall⟩
  · rw [hk] at haware
    obtain ⟨hcopy, hcall⟩ := haware
    refine ⟨?_, k', rfl, by rw [hk']; trivial⟩
    cases call with
    | attach_document document_type file_uuid document_id =>
        have hsigns : (s.config.locals e.1).signs e.2 = none := by rw [hk]; rfl
        obtain ⟨rfl, d, hattach⟩ := perform_attach_ok hcall
        obtain ⟨hd, hnew, hrows⟩ := attach_document_commit hattach hcommit
        refine .attached d hd hnew ?_ ?_ hsigns
        · unfold Audited.rows
          dsimp only
          rw [hrows]
        · dsimp only
          rw [hsigns]
          simp
    | verify_document document_id inspector_id =>
        obtain ⟨d, d', hfind, hverify, hrows⟩ := verify_document_commit hcall s.config.shared
        rw [hcommit, Option.some.injEq] at hrows
        have hsigns : (s.config.locals e.1).signs e.2 = some d.id := by
          rw [hk, ha, Request.signs, hfind]
          rfl
        have hd := List.mem_of_find?_eq_some hfind
        -- the copy shows what was cleared before, and `verify` accepted this one
        refine .signed d d' inspector_id hverify ?_ ?_ ?_ ?_ hsigns
        · intro hbefore
          have hshows := hcopy.2 d hd hbefore
          rw [(DocumentRegistryItem.verify_ok hverify).1] at hshows
          simp at hshows
        · obtain ⟨row, hrow, hid, -⟩ := hcopy.1 d hd
          exact ⟨row, hrow, hid⟩
        · unfold Audited.rows
          dsimp only
          rw [hrows]
        · dsimp only
          rw [hsigns]
          rfl

/-- The requests are aware after an action that left its own aware. -/
theorem aware_update {before : List Uuid} {rows rows' : CaseRows} {locals locals' : ι → Request}
    {i : ι} {k' : Request} (hwithin : Within rows.case.documents rows'.case.documents)
    (haware : ∀ j, (locals j).Aware before rows) (hlocals : locals' = Function.update locals i k')
    (hk' : k'.Aware before rows) : ∀ j, (locals' j).Aware before rows' := by
  intro j
  refine Request.Aware.mono hwithin ?_
  rw [hlocals]
  by_cases hj : j = i
  · rw [hj, Function.update_self]
    exact hk'
  · rw [Function.update_of_ne hj]
    exact haware j

omit [DecidableEq ι] in
/-- An action that writes and reports nothing. -/
theorem Trail.aside {before : List Uuid} {s s' : Audited ι} (htrail : Trail before s)
    (hrows : s'.rows = s.rows) (hreported : s'.reported = s.reported)
    (haware : ∀ i, (s'.config.locals i).Aware before s'.rows) :
    SignedOnce s s' ∧ Trail before s' := by
  refine ⟨⟨?_, ?_⟩, ?_⟩
  · rw [hrows]
    exact AuditKept.refl _
  · rw [hreported]
    exact htrail.once
  · constructor
    · rw [hrows, hreported]
      exact htrail.cleared
    · rw [hrows]
      exact htrail.shown
    · rw [hrows]
      exact htrail.filed
    · rw [hrows, hreported]
      exact htrail.kept
    · rw [hreported]
      exact htrail.once
    · exact haware

omit [DecidableEq ι] in
/-- A document more, outstanding and under an identifier that no row has. -/
theorem Trail.attached {before : List Uuid} {s s' : Audited ι} (htrail : Trail before s)
    {d : DocumentRegistryItem} (hd : d.is_verified = false)
    (hnew : ∀ row ∈ s.rows.case.documents, row.id ≠ d.id)
    (hrows : s'.rows.case.documents = s.rows.case.documents ++ [d])
    (hreported : s'.reported = s.reported)
    (haware : ∀ i, (s'.config.locals i).Aware before s'.rows) :
    SignedOnce s s' ∧ Trail before s' := by
  have hmem : ∀ row ∈ s.rows.case.documents, row ∈ s'.rows.case.documents := by
    intro row hrow
    rw [hrows]
    exact List.mem_append_left _ hrow
  have hsplit : ∀ row ∈ s'.rows.case.documents, row ∈ s.rows.case.documents ∨ row = d := by
    intro row hrow
    rw [hrows, List.mem_append, List.mem_singleton] at hrow
    exact hrow
  refine ⟨⟨fun row hrow hv => ⟨row, hmem row hrow, rfl, hv, rfl⟩, ?_⟩, ?_⟩
  · rw [hreported]
    exact htrail.once
  · constructor
    · intro row hrow hv
      rw [hreported]
      rcases hsplit row hrow with hold | rfl
      · exact htrail.cleared row hold hv
      · -- the new document is outstanding
        rw [hd] at hv
        simp at hv
    · intro row hrow hbefore
      rcases hsplit row hrow with hold | rfl
      · exact htrail.shown row hold hbefore
      · -- and it is none of those filed before
        obtain ⟨old, hold, hid⟩ := htrail.filed row.id hbefore
        exact absurd hid (hnew old hold)
    · intro document_id hbefore
      obtain ⟨row, hrow, hid⟩ := htrail.filed document_id hbefore
      exact ⟨row, hmem row hrow, hid⟩
    · intro document_id hdone
      rw [hreported] at hdone
      obtain ⟨row, hrow, hid, hv⟩ := htrail.kept document_id hdone
      exact ⟨row, hmem row hrow, hid, hv⟩
    · rw [hreported]
      exact htrail.once
    · exact haware

omit [DecidableEq ι] in
/-- A sign-off of a document that is outstanding in the rows. -/
theorem Trail.signed {before : List Uuid} {s s' : Audited ι} (htrail : Trail before s)
    {i : ι} {d d' : DocumentRegistryItem} {inspector_id : Argument}
    (hverify : d.verify inspector_id = (d', .ok ())) (hnew : d.id ∉ before)
    (hfiled : ∃ row ∈ s.rows.case.documents, row.id = d.id)
    (houtstanding : ∀ row ∈ s.rows.case.documents, row.id = d.id → row.is_verified = false)
    (hrows : s'.rows.case.documents = sign_off d d' s.rows.case.documents)
    (hreported : s'.reported = s.reported ++ [(i, d.id)])
    (haware : ∀ i, (s'.config.locals i).Aware before s'.rows) :
    SignedOnce s s' ∧ Trail before s' := by
  have hpairs : s'.reported.map Prod.snd = s.reported.map Prod.snd ++ [d.id] := by
    rw [hreported, List.map_append]
    rfl
  have hwithin : Within s.rows.case.documents s'.rows.case.documents := by
    rw [hrows]
    exact within_sign_off hverify _
  -- what was reported before is verified in the rows, and this document is not
  have honce : (s'.reported.map Prod.snd).Nodup := by
    rw [hpairs, List.nodup_append]
    refine ⟨htrail.once, List.nodup_singleton _, ?_⟩
    intro document_id hdone other hother heq
    rw [List.mem_singleton] at hother
    obtain ⟨row, hrow, hid, hv⟩ := htrail.kept document_id hdone
    rw [houtstanding row hrow (by rw [hid, heq, hother])] at hv
    simp at hv
  have hsplit : ∀ row' ∈ s'.rows.case.documents,
      row' ∈ s.rows.case.documents ∨ row'.id = d.id := by
    intro row' hrow'
    rw [hrows] at hrow'
    by_cases hid : row'.id = d.id
    · exact .inr hid
    · exact .inl (verified_sign_off hverify hrow' hid)
  refine ⟨⟨?_, honce⟩, ?_⟩
  · intro row hrow hv
    refine ⟨row, ?_, rfl, hv, rfl⟩
    rw [hrows]
    exact sign_off_kept houtstanding hrow hv
  · constructor
    · intro row' hrow' hv
      rw [hpairs, List.mem_append, List.mem_singleton]
      rcases hsplit row' hrow' with hold | hid
      · exact (htrail.cleared row' hold hv).imp_right .inl
      · exact .inr (.inr hid)
    · intro row' hrow' hbefore
      rcases hsplit row' hrow' with hold | hid
      · exact htrail.shown row' hold hbefore
      · rw [hid] at hbefore
        exact absurd hbefore hnew
    · intro document_id hbefore
      obtain ⟨row, hrow, hid⟩ := htrail.filed document_id hbefore
      obtain ⟨row', hrow', hid', -⟩ := hwithin row hrow
      exact ⟨row', hrow', hid'.trans hid⟩
    · intro document_id hdone
      rw [hpairs, List.mem_append, List.mem_singleton] at hdone
      rcases hdone with hdone | rfl
      · obtain ⟨row, hrow, hid, hv⟩ := htrail.kept document_id hdone
        obtain ⟨row', hrow', hid', -, hv'⟩ := hwithin row hrow
        exact ⟨row', hrow', hid'.trans hid, hv' hv⟩
      · obtain ⟨row, hrow, hid⟩ := hfiled
        refine ⟨merge_document d d' row, ?_, (sign_off_row hverify row).1.trans hid,
          (sign_off_row hverify row).2.2⟩
        rw [hrows]
        exact List.mem_map.mpr ⟨row, hrow, if_pos hid.symm⟩
    · exact honce
    · exact haware

/-- A sign-off that finds its document outstanding keeps the trail, and every name. -/
theorem trail_step {before : List Uuid} {s s' : Audited ι} {e : ι × RequestStep}
    (htrail : Trail before s) (h : audited_step s e = some s')
    (hfinds : FindsUnverified s.rows (s.config.locals e.1) e.2) :
    SignedOnce s s' ∧ Trail before s' := by
  obtain ⟨hacted, k', hlocals, hk'⟩ :=
    audited_step_cases htrail.shown (htrail.aware e.1) h
  have haware := aware_update hacted.within htrail.aware hlocals hk'
  cases hacted with
  | aside hrows hreported _ => exact htrail.aside hrows hreported haware
  | attached d hd hnew hrows hreported _ => exact htrail.attached hd hnew hrows hreported haware
  | signed d d' inspector_id hverify hnew hfiled hrows hreported hsigns =>
      exact htrail.signed hverify hnew hfiled (hfinds d.id hsigns) hrows hreported haware

/-- A sign-off that keeps the trail found its document outstanding: one that did not is
the second report of it. -/
theorem trail_finds {before : List Uuid} {s s' : Audited ι} {e : ι × RequestStep}
    (htrail : Trail before s) (h : audited_step s e = some s') (hgood : SignedOnce s s') :
    FindsUnverified s.rows (s.config.locals e.1) e.2 := by
  obtain ⟨hacted, -⟩ := audited_step_cases htrail.shown (htrail.aware e.1) h
  intro document_id hdocument row hrow hid
  cases hacted with
  | aside _ _ hsigns =>
      rw [hsigns] at hdocument
      simp at hdocument
  | attached _ _ _ _ _ hsigns =>
      rw [hsigns] at hdocument
      simp at hdocument
  | signed d d' inspector_id hverify hnew hfiled hrows hreported hsigns =>
      rw [hsigns, Option.some.injEq] at hdocument
      by_contra hverified
      -- verified before, the copy would have shown it; reported, it is reported twice
      have honce := hgood.2
      rw [hreported, List.map_append, List.nodup_append] at honce
      rcases htrail.cleared row hrow (by simpa using hverified) with hbefore | hdone
      · rw [hid, ← hdocument] at hbefore
        exact hnew hbefore
      · rw [hid, ← hdocument] at hdone
        exact honce.2.2 d.id hdone d.id List.mem_cons_self rfl

/-! ## 5. Every run -/

/-- The committed rows of a case: `id` is the primary key of its documents. -/
structure CommittedCase where
  rows : CaseRows
  ids : (rows.case.documents.map (·.id)).Nodup

/-- A committed case, and a request for each thread. -/
def requested (committed : CommittedCase) (requests : ι → Call) : Audited ι where
  config := ⟨committed.rows, fun i => .received (requests i)⟩
  reported := []

/-- The documents cleared in a committed case. -/
def CommittedCase.cleared (committed : CommittedCase) : List Uuid :=
  (committed.rows.case.documents.filter (·.is_verified)).map (·.id)

omit [DecidableEq ι] in
theorem trail_requested (committed : CommittedCase) (requests : ι → Call) :
    Trail committed.cleared (requested committed requests) := by
  have hmem : ∀ document_id, document_id ∈ committed.cleared ↔
      ∃ row ∈ committed.rows.case.documents, row.is_verified = true ∧ row.id = document_id := by
    intro document_id
    simp only [CommittedCase.cleared, List.mem_map, List.mem_filter, and_assoc]
  constructor
  · intro row hrow hv
    exact .inl ((hmem row.id).mpr ⟨row, hrow, hv, rfl⟩)
  · intro row hrow hbefore
    obtain ⟨other, hother, hv, hid⟩ := (hmem row.id).mp hbefore
    rwa [← List.inj_on_of_nodup_map committed.ids hother hrow hid]
  · intro document_id hbefore
    obtain ⟨row, hrow, -, hid⟩ := (hmem document_id).mp hbefore
    exact ⟨row, hrow, hid⟩
  · intro document_id hdone
    simp [requested] at hdone
  · exact List.nodup_nil
  · exact fun _ => trivial

/-- **The first sign-off is final, exactly.** In any interleaving of any requests on one
case, every committed sign-off keeps its name and is the only one of its document
precisely when every sign-off lands on rows where its document is still outstanding. -/
theorem first_sign_off_final_iff (committed : CommittedCase) (requests : ι → Call)
    (steps : List (ι × RequestStep)) :
    Along audited_step (fun s _ s' => SignedOnce s s') (requested committed requests) steps
      ↔ Along audited_step (fun s e _ => FindsUnverified s.rows (s.config.locals e.1) e.2)
        (requested committed requests) steps := by
  refine Runs.along_exact audited_step (Trail committed.cleared) (fun s _ s' => SignedOnce s s')
    (fun s e => FindsUnverified s.rows (s.config.locals e.1) e.2) ?_ ?_
    (trail_requested committed requests)
  · intro s e s' htrail hstep hfinds
    exact trail_step htrail hstep hfinds
  · intro s e s' htrail hstep hgood
    exact trail_finds htrail hstep hgood

/-- Between any two states of such a run, however far apart, no name has changed. -/
theorem names_kept {s t u : Audited ι} {earlier later : List (ι × RequestStep)}
    (h : Along audited_step (fun s _ s' => SignedOnce s s') s (earlier ++ later))
    (hearlier : run audited_step s earlier = some t) (hlater : run audited_step t later = some u) :
    AuditKept t.rows u.rows := by
  have hrest := along_drop audited_step h hearlier
  have hkept : Along audited_step (fun s _ s' => AuditKept s.rows s'.rows) t later :=
    along_mono audited_step (fun _ _ _ hsigned => hsigned.1) hrest
  exact along_rel audited_step (fun s => AuditKept.refl s.rows)
    (fun _ _ _ hab hbc => hab.trans hbc) hkept hlater

end Trail

/-! ### Two inspectors, one document -/

/-- A case with one document outstanding. -/
def one_outstanding : CommittedCase where
  rows :=
    { case :=
        { id := .of_byte 7
          shipment_id := "SHP-4021"
          status := .DOCUMENT_VERIFICATION
          documents := [{ id := .of_byte 1
                          document_type := .COMMERCIAL_INVOICE
                          file_uuid := .of_byte 21
                          is_verified := false
                          verified_by_inspector_id := none }] }
      outbox := [] }
  ids := by decide

/-- Two inspectors sign it off. -/
def twoInspectors : ℕ → Call
  | 0 => .verify_document (.uuid (.of_byte 1)) (.str "INS-1")
  | _ => .verify_document (.uuid (.of_byte 1)) (.str "INS-2")

/-- Both have loaded the document before either commits. -/
def overlapping : List (ℕ × RequestStep) :=
  [(0, .find_by_id), (0, .load_documents), (1, .find_by_id), (1, .load_documents),
    (0, .handle), (1, .handle), (0, .commit)]

/-- The second name replaces the first, and both requests report success. -/
theorem second_inspector_overwrites :
    ¬ Along audited_step (fun s _ s' => SignedOnce s s')
        (requested one_outstanding twoInspectors) (overlapping ++ [(1, .commit)]) := by
  intro h
  have hend : (run audited_step (requested one_outstanding twoInspectors)
      (overlapping ++ [(1, .commit)])).map
        (fun s => (s.rows.case.documents.map (·.verified_by_inspector_id), s.reported))
      = some ([some "INS-2"], [(0, ⟨1, by decide⟩), (1, ⟨1, by decide⟩)]) := by decide
  obtain ⟨s, hrun, hs⟩ := Option.map_eq_some_iff.mp hend
  obtain ⟨before, -, -, honce⟩ := along_last audited_step h hrun
  simp only [Prod.mk.injEq] at hs
  rw [hs.2] at honce
  exact absurd honce (by decide)

end TradeLogistics.Customs
