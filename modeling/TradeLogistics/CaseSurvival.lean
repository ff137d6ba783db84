/-
What a clearance case keeps in every interleaving, and what it takes to end a verification
that overlapping sign-offs left open.

`CaseRequests` says exactly which schedules keep the promise of the aggregate. This file is
about all the others too. The columns that requests write together are few, and most of
what the aggregate guarantees does not rest on them: documents are only inserted, a
sign-off only ever sets its flag, and a request that announces has seen every kind cleared
on a copy, which the table cannot have lost since. So the announcement is never premature,
whatever overlaps; what can go wrong is that it is missing, repeated, or followed by a
status that moved back.

A missing one is the second subject. Where two sign-offs have each missed the other, every
document is cleared and the case is in verification. No sign-off can be repeated, so no
request to sign off ends it; one more document does.
-/
import TradeLogistics.CaseRequests

set_option autoImplicit false

namespace TradeLogistics.Customs

open TradeLogistics.PyText TradeLogistics.Runs TradeLogistics.UnitOfWork

/-! ## 1. What lasts -/

/-- The columns of a document that no request writes once the row is there. -/
def DocumentRegistryItem.entry (d : DocumentRegistryItem) : Uuid × DocumentType × Uuid :=
  (d.id, d.document_type, d.file_uuid)

/-- What later committed rows keep of earlier ones: the case they are of, every document
as it was filed, every sign-off made, and every announcement. -/
structure Lasts (rows rows' : CaseRows) : Prop where
  id : rows'.case.id = rows.case.id
  shipment_id : rows'.case.shipment_id = rows.case.shipment_id
  filed : rows.case.documents.map (·.entry) ⊆ rows'.case.documents.map (·.entry)
  cleared : Within rows.case.documents rows'.case.documents
  announced : rows.outbox <+: rows'.outbox

theorem Lasts.refl (rows : CaseRows) : Lasts rows rows :=
  ⟨rfl, rfl, List.Subset.refl _, Within.refl _, List.prefix_rfl⟩

theorem Lasts.trans {a b c : CaseRows} (hab : Lasts a b) (hbc : Lasts b c) : Lasts a c :=
  ⟨hbc.id.trans hab.id, hbc.shipment_id.trans hab.shipment_id,
    List.Subset.trans hab.filed hbc.filed, hab.cleared.trans hbc.cleared,
    hab.announced.trans hbc.announced⟩

/-- A case with documents has them for good. -/
theorem Lasts.has_documents {rows rows' : CaseRows} (h : Lasts rows rows')
    (hne : rows.case.documents ≠ []) : rows'.case.documents ≠ [] := by
  obtain ⟨d, hd⟩ := List.exists_mem_of_ne_nil _ hne
  obtain ⟨d', hd', -⟩ := h.cleared d hd
  exact List.ne_nil_of_mem hd'

/-- Complete paperwork stays complete. -/
theorem Within.covers {ds ds' : List DocumentRegistryItem} (h : Within ds ds')
    (hc : covers_required (cleared_types ds) = true) :
    covers_required (cleared_types ds') = true := by
  rw [covers_required_iff] at hc ⊢
  exact fun t => h.cleared (hc t)

/-- What every committed state says, whatever overlapped: one identifier and one file for
each document, a stage these requests can reach and `Opened` exactly without documents,
risk assessment only once announced, and announcements of this case only, with complete
paperwork. -/
structure Standing (rows : CaseRows) : Prop where
  ids : (rows.case.documents.map (·.id)).Nodup
  files : (rows.case.documents.map (·.file_uuid)).Nodup
  stage : rows.case.status.rank ≤ 2
  opened : rows.case.status = .OPENED ↔ rows.case.documents = []
  assessed : rows.case.status = .RISK_ASSESSMENT → rows.outbox ≠ []
  complete : rows.outbox ≠ [] → rows.case.has_complete_paperwork = true
  named : ∀ event ∈ rows.outbox,
    event = { case_id := rows.case.id.str, shipment_id := rows.case.shipment_id }

/-! ## 2. What a copy tells -/

/-- A copy of the case: its documents are in the table, cleared if it saw them cleared, and
a copy past `Opened` was taken when the case had documents. -/
structure Copied (copy : ClearanceCase) (rows : CaseRows) : Prop where
  id : rows.case.id = copy.id
  shipment_id : rows.case.shipment_id = copy.shipment_id
  documents : Within copy.documents rows.case.documents
  opened : copy.status ≠ .OPENED → rows.case.documents ≠ []

theorem Copied.mono {copy : ClearanceCase} {rows rows' : CaseRows} (h : Copied copy rows)
    (hlasts : Lasts rows rows') : Copied copy rows' :=
  ⟨hlasts.id.trans h.id, hlasts.shipment_id.trans h.shipment_id,
    h.documents.trans hlasts.cleared, fun hne => hlasts.has_documents (h.opened hne)⟩

/-- What a request has read, and what the aggregate made of it. -/
def Request.Recalls (rows : CaseRows) : Request → Prop
  | .case_read _ row => Copied row rows
  | .loaded _ copy => Copied copy rows
  | .handled call copy after event =>
    Copied copy rows ∧ call.perform copy = (after, .ok event)
  | .received _ | .finished => True

theorem Request.Recalls.mono {rows rows' : CaseRows} (hlasts : Lasts rows rows')
    {k : Request} (hk : k.Recalls rows) : k.Recalls rows' := by
  cases k with
  | received call => trivial
  | case_read call row => exact Copied.mono hk hlasts
  | loaded call copy => exact Copied.mono hk hlasts
  | handled call copy after event => exact ⟨hk.1.mono hlasts, hk.2⟩
  | finished => trivial

/-! ## 3. The two commits

Neither needs to be current: what it decided on its copy goes onto other rows, and these
still stand. -/

/-- A sign-off leaves what is filed as it is. -/
theorem sign_off_entries {d d' : DocumentRegistryItem} {inspector_id : Argument}
    (hverify : d.verify inspector_id = (d', .ok ())) (ds : List DocumentRegistryItem) :
    (sign_off d d' ds).map (·.entry) = ds.map (·.entry) := by
  obtain ⟨-, s, -, rfl⟩ := DocumentRegistryItem.verify_ok hverify
  simp only [sign_off, List.map_map]
  refine List.map_congr_left fun row _ => ?_
  by_cases h : d.id = row.id
  · simp only [Function.comp_apply, if_pos h, DocumentRegistryItem.entry, merge_document,
      column_self]
  · simp only [Function.comp_apply, if_neg h]

theorem sign_off_files {d d' : DocumentRegistryItem} {inspector_id : Argument}
    (hverify : d.verify inspector_id = (d', .ok ())) (ds : List DocumentRegistryItem) :
    (sign_off d d' ds).map (·.file_uuid) = ds.map (·.file_uuid) := by
  have h := congrArg (List.map fun entry => entry.2.2) (sign_off_entries hverify ds)
  simpa only [List.map_map, Function.comp_def, DocumentRegistryItem.entry] using h

theorem sign_off_eq_nil {d d' : DocumentRegistryItem} {ds : List DocumentRegistryItem} :
    sign_off d d' ds = [] ↔ ds = [] := List.map_eq_nil_iff

/-- The file of an attachment that was committed is on no other row. -/
theorem attached_file_is_new {rows rows' : CaseRows} {copy : ClearanceCase}
    {d : DocumentRegistryItem} {event : Option DocumentVerificationCompleted}
    (hcommit : rows.commit copy { copy with
        documents := copy.documents ++ [d]
        status := if copy.status = .OPENED then .DOCUMENT_VERIFICATION else copy.status } event
      = some rows') : ∀ row ∈ rows.case.documents, row.file_uuid ≠ d.file_uuid := by
  intro row hrow hfile
  rw [commit_attached, if_pos] at hcommit
  · cases hcommit
  · simp only [violates_unique, List.any_cons, List.any_nil, Bool.or_false, List.any_eq_true]
    exact ⟨row, hrow, by simp [hfile]⟩

/-- A committed attachment leaves rows that stand, and lasts. -/
theorem attached_standing {rows : CaseRows} {copy : ClearanceCase} {d : DocumentRegistryItem}
    (h : Standing rows) (hcopy : Copied copy rows)
    (hid : ∀ row ∈ rows.case.documents, row.id ≠ d.id)
    (hfile : ∀ row ∈ rows.case.documents, row.file_uuid ≠ d.file_uuid) :
    let rows' : CaseRows :=
      { case := { rows.case with
          status := if copy.status = .OPENED then .DOCUMENT_VERIFICATION else rows.case.status
          documents := rows.case.documents ++ [d] }
        outbox := rows.outbox }
    Standing rows' ∧ Lasts rows rows' := by
  have hwithin := Within.append rows.case.documents [d]
  have hkeys : ∀ key : DocumentRegistryItem → Uuid, (rows.case.documents.map key).Nodup →
      (∀ row ∈ rows.case.documents, key row ≠ key d) →
      ((rows.case.documents ++ [d]).map key).Nodup := by
    intro key hnodup hnew
    rw [List.map_append, List.nodup_append]
    refine ⟨hnodup, List.nodup_singleton _, ?_⟩
    rintro a ha b hb rfl
    obtain ⟨row, hrow, hkey⟩ := List.mem_map.mp ha
    rw [List.map_cons, List.map_nil, List.mem_singleton] at hb
    exact hnew row hrow (hkey.trans hb)
  refine ⟨⟨hkeys _ h.ids hid, hkeys _ h.files hfile, ?_, ?_, ?_, ?_, h.named⟩,
    ⟨rfl, rfl, ?_, hwithin, List.prefix_rfl⟩⟩
  · dsimp only
    split
    · decide
    · exact h.stage
  · -- there is a document now, and the case is past `Opened`: moved on here, or before
    have hnil : rows.case.documents ++ [d] ≠ [] := by simp
    refine iff_of_false (fun hstatus => ?_) hnil
    dsimp only at hstatus
    split at hstatus
    · cases hstatus
    · next hne => exact hcopy.opened hne (h.opened.mp hstatus)
  · intro hstatus
    dsimp only at hstatus
    split at hstatus
    · cases hstatus
    · exact h.assessed hstatus
  · exact fun hne => hwithin.covers (h.complete hne)
  · rw [List.map_append]
    exact List.subset_append_left _ _

/-- A committed sign-off leaves rows that stand, and lasts. If it announces, the kinds its
copy had cleared are cleared in the table too. -/
theorem signed_standing {rows : CaseRows} {copy : ClearanceCase} {d d' : DocumentRegistryItem}
    {document_id inspector_id : Argument} (h : Standing rows) (hcopy : Copied copy rows)
    (hfind : copy.find_document document_id = some d)
    (hverify : d.verify inspector_id = (d', .ok ())) :
    let rows' : CaseRows :=
      { case := { rows.case with
          status := if copy.completed_by d.document_type then .RISK_ASSESSMENT
            else rows.case.status
          documents := sign_off d d' rows.case.documents }
        outbox := rows.outbox ++ if copy.completed_by d.document_type
          then [{ case_id := copy.id.str, shipment_id := copy.shipment_id }] else [] }
    Standing rows' ∧ Lasts rows rows' := by
  obtain ⟨row, hrow, hid, htype, -⟩ := hcopy.documents d (List.mem_of_find?_eq_some hfind)
  have hne : rows.case.documents ≠ [] := List.ne_nil_of_mem hrow
  have hwithin := within_sign_off hverify rows.case.documents
  refine ⟨⟨?_, ?_, ?_, ?_, ?_, ?_, ?_⟩, ⟨rfl, rfl, ?_, hwithin, List.prefix_append _ _⟩⟩
  · dsimp only
    rw [sign_off_ids]
    exact h.ids
  · dsimp only
    rw [sign_off_files hverify]
    exact h.files
  · dsimp only
    split
    · decide
    · exact h.stage
  · refine iff_of_false (fun hstatus => ?_) (mt sign_off_eq_nil.mp hne)
    dsimp only at hstatus
    split at hstatus
    · cases hstatus
    · exact hne (h.opened.mp hstatus)
  · intro hstatus
    dsimp only at hstatus ⊢
    split
    · simp
    · next hnot =>
        rw [if_neg hnot] at hstatus
        rw [List.append_nil]
        exact h.assessed hstatus
  · intro hsome
    dsimp only at hsome ⊢
    by_cases hdone : copy.completed_by d.document_type
    · -- what the copy had cleared, and the kind signed off here
      rw [ClearanceCase.has_complete_paperwork, covers_required_iff]
      intro t
      refine (mem_cleared_sign_off h.ids hverify hrow hid htype t).mpr ?_
      have ht := covers_required_iff.mp hdone.2 t
      rw [List.mem_cons] at ht ⊢
      exact ht.imp_right hcopy.documents.cleared
    · rw [if_neg hdone, List.append_nil] at hsome
      exact hwithin.covers (h.complete hsome)
  · intro event hevent
    dsimp only at hevent ⊢
    rcases List.mem_append.mp hevent with hold | hnew
    · exact h.named event hold
    · split at hnew
      · rw [List.mem_singleton.mp hnew, hcopy.id, hcopy.shipment_id]
      · cases hnew
  · rw [sign_off_entries hverify]
    exact List.Subset.refl _

/-- **The outline without conditions**: whatever overlaps, the committed rows stand, and
what they have lasts. -/
theorem standing_outline {ι : Type*} :
    Outline (request_step (ι := ι)) (fun _ _ _ => True) Standing
      (fun rows _ k => k.Recalls rows) (fun _ rows rows' => Lasts rows rows') where
  own := by
    intro i rows k a rows' k' h hk hstep _
    rcases request_step_cases hstep with
      ⟨rfl, -, hk'⟩ | ⟨call, copy, after, event, rfl, rfl, hcommit, rfl⟩
    · refine ⟨h, ?_, Lasts.refl _⟩
      rcases hk' with rfl | ⟨call, rfl, rfl⟩ | ⟨call, row, rfl, rfl⟩ |
        ⟨call, copy, after, event, rfl, hcall, rfl⟩
      · trivial
      · exact ⟨rfl, rfl, fun d hd => absurd hd List.not_mem_nil, mt h.opened.mpr⟩
      · exact ⟨hk.id, hk.shipment_id, Within.refl _, hk.opened⟩
      · exact ⟨hk, hcall⟩
    · obtain ⟨hcopy, hcall⟩ := hk
      cases call with
      | attach_document document_type file_uuid document_id =>
          obtain ⟨rfl, d, hattach⟩ := perform_attach_ok hcall
          have hfile : ∀ row ∈ rows.case.documents, row.file_uuid ≠ d.file_uuid := by
            rcases copy.attach_document_cases document_type file_uuid document_id with
              ⟨e, he⟩ | ⟨d₁, -, -, -, hok⟩
            · rw [he] at hattach
              cases hattach
            · rw [hok] at hattach
              cases hattach
              exact attached_file_is_new hcommit
          obtain ⟨-, hid, rfl⟩ := attach_document_commit hattach hcommit
          obtain ⟨h', hlasts⟩ := attached_standing h hcopy hid hfile
          exact ⟨h', trivial, hlasts⟩
      | verify_document document_id inspector_id =>
          obtain ⟨d, d', hfind, hverify, hrows⟩ := verify_document_commit hcall rows
          rw [hcommit, Option.some.injEq] at hrows
          subst hrows
          obtain ⟨h', hlasts⟩ := signed_standing h hcopy hfind hverify
          exact ⟨h', trivial, hlasts⟩
  stable := fun _ _ _ _ _ _ _ hlasts hk => hk.mono hlasts

theorem holds_standing {ι : Type*} (case_id : Uuid) (shipment_id : String)
    (requests : ι → Call) :
    Holds Standing (fun rows (_ : ι) k => k.Recalls rows)
      (opened_for case_id shipment_id requests) := by
  refine ⟨⟨List.nodup_nil, List.nodup_nil, Nat.zero_le _, iff_of_true rfl rfl, ?_, ?_, ?_⟩,
    fun _ => trivial⟩
  · intro hstatus
    cases hstatus
  · exact fun hne => absurd rfl hne
  · exact fun event hevent => absurd hevent List.not_mem_nil

/-- Two states of one run: the later keeps what the earlier has. -/
theorem run_lasts {ι : Type*} [DecidableEq ι] {es : List (ι × RequestStep)}
    {c c' : Config ι CaseRows Request}
    (hc : Holds Standing (fun rows (_ : ι) k => k.Recalls rows) c)
    (hrun : run (fire request_step) c es = some c') : Lasts c.shared c'.shared := by
  refine along_rel (fire request_step) (R := fun c c' => Lasts c.shared c'.shared)
    (fun c => Lasts.refl c.shared) (fun _ _ _ hab hbc => hab.trans hbc) ?_ hrun
  exact standing_outline.along
    (fun _ _ _ h hfire => (standing_outline.fire h hfire trivial).2) hc

/-- Every kind cleared and every document signed off, and the case in verification. -/
structure LeftOpen (rows : CaseRows) : Prop where
  status : rows.case.status = .DOCUMENT_VERIFICATION
  complete : rows.case.has_complete_paperwork = true
  cleared : ∀ d ∈ rows.case.documents, d.is_verified = true

/-- A document that is signed off is not signed off again. -/
theorem verify_refused {c after : ClearanceCase} {document_id inspector_id : Argument}
    {event : Option DocumentVerificationCompleted}
    (hcleared : ∀ d ∈ c.documents, d.is_verified = true) :
    (Call.verify_document document_id inspector_id).perform c ≠ (after, .ok event) := by
  intro hcall
  rw [Call.perform] at hcall
  rcases c.verify_document_cases document_id inspector_id with ⟨e, he⟩ | ⟨d, d', hfind, hok, -⟩
  · rw [he] at hcall
    cases hcall
  · have hv := hcleared d (List.mem_of_find?_eq_some hfind)
    rw [(DocumentRegistryItem.verify_ok hok).1] at hv
    cases hv

/-- Where a request to sign off stands while the rows stay as they are. -/
def Request.Idle (rows : CaseRows) : Request → Prop
  | .received (.verify_document _ _) | .finished => True
  | .case_read (.verify_document _ _) row => row = { rows.case with documents := [] }
  | .loaded (.verify_document _ _) copy => copy = rows.case
  | _ => False

/-- As long as only sign-offs are asked for, nothing moves. -/
theorem idle_outline {ι : Type*} {rows : CaseRows} (h : LeftOpen rows) :
    Outline (request_step (ι := ι)) (fun _ _ _ => True) (fun s => s = rows)
      (fun _ _ k => k.Idle rows) (fun _ _ _ => True) where
  own := by
    rintro i s k a s' k' rfl hk hstep -
    rcases request_step_cases hstep with
      ⟨rfl, -, hk'⟩ | ⟨call, copy, after, event, rfl, rfl, hcommit, rfl⟩
    · refine ⟨rfl, ?_, trivial⟩
      rcases hk' with rfl | ⟨call, rfl, rfl⟩ | ⟨call, row, rfl, rfl⟩ |
        ⟨call, copy, after, event, rfl, hcall, rfl⟩
      · trivial
      · cases call with
        | attach_document document_type file_uuid document_id => exact hk
        | verify_document document_id inspector_id => rfl
      · cases call with
        | attach_document document_type file_uuid document_id => exact hk
        | verify_document document_id inspector_id =>
            rw [Request.Idle] at hk
            rw [hk]
            rfl
      · -- the aggregate refuses every sign-off of the copy
        cases call with
        | attach_document document_type file_uuid document_id => exact hk
        | verify_document document_id inspector_id =>
            rw [Request.Idle] at hk
            rw [hk] at hcall
            exact absurd hcall (verify_refused h.cleared)
    · exact hk.elim
  stable := fun _ _ _ _ _ _ _ _ hk => hk

section Alone

variable {ι : Type*} [DecidableEq ι]

/-- A request from its first read to its commit. -/
def alone (i : ι) : List (ι × RequestStep) :=
  [(i, .find_by_id), (i, .load_documents), (i, .handle), (i, .commit)]

/-- A request that nobody overlaps does to the rows what the aggregate does to the case. -/
theorem run_alone {rows rows' : CaseRows} {locals : ι → Request} {i : ι} {call : Call}
    {after : ClearanceCase} {event : Option DocumentVerificationCompleted}
    (hi : locals i = .received call) (hcall : call.perform rows.case = (after, .ok event))
    (hcommit : rows.commit rows.case after event = some rows') :
    run (fire request_step) ⟨rows, locals⟩ (alone i)
      = some ⟨rows', Function.update locals i .finished⟩ := by
  have hfind : fire request_step ⟨rows, locals⟩ (i, .find_by_id)
      = some ⟨rows, Function.update locals i
          (.case_read call { rows.case with documents := [] })⟩ := by
    simp only [fire, hi, request_step, Option.map_some]
  have hload : fire request_step ⟨rows, Function.update locals i
        (.case_read call { rows.case with documents := [] })⟩ (i, .load_documents)
      = some ⟨rows, Function.update locals i (.loaded call rows.case)⟩ := by
    simp only [fire, Function.update_self, Function.update_idem, request_step, Option.map_some]
  have hhandle : fire request_step ⟨rows, Function.update locals i (.loaded call rows.case)⟩
        (i, .handle)
      = some ⟨rows, Function.update locals i (.handled call rows.case after event)⟩ := by
    simp only [fire, Function.update_self, Function.update_idem, request_step, hcall,
      Option.map_some]
  have hlast : fire request_step
        ⟨rows, Function.update locals i (.handled call rows.case after event)⟩ (i, .commit)
      = some ⟨rows', Function.update locals i .finished⟩ := by
    simp only [fire, Function.update_self, Function.update_idem, request_step, hcommit,
      Option.map_some]
  simp only [alone, run_cons, hfind, hload, hhandle, hlast, Option.bind_some, run_nil]

/-- One more document, filed in a case left open: the rows it is committed to. -/
theorem file_commit {rows : CaseRows} {document_type file_uuid : Argument} {document_id : Uuid}
    {d : DocumentRegistryItem} (h : rows.case.status = .DOCUMENT_VERIFICATION)
    (hattach : DocumentRegistryItem.attach document_type file_uuid document_id = .ok d)
    (hnew : ∀ row ∈ rows.case.documents, row.id ≠ document_id ∧ row.file_uuid ≠ d.file_uuid) :
    ∃ after, (Call.attach_document document_type file_uuid document_id).perform rows.case
        = (after, .ok none)
      ∧ rows.commit rows.case after none = some
        { case := { rows.case with documents := rows.case.documents ++ [d] }
          outbox := rows.outbox } := by
  have hid := (DocumentRegistryItem.attach_ok hattach).1
  have hopen : rows.case.status ≠ .OPENED := by
    rw [h]
    decide
  have hholds : rows.case.holds_file d.file_uuid = false := by
    rw [ClearanceCase.holds_file, List.any_eq_false]
    intro row hrow
    simpa using (hnew row hrow).2
  have hunique : violates_unique rows.case.documents [d] = false := by
    simp only [violates_unique, List.any_cons, List.any_nil, Bool.or_false, List.any_eq_false]
    intro row hrow
    simpa [hid] using hnew row hrow
  refine ⟨{ rows.case with
    documents := rows.case.documents ++ [d]
    status := if rows.case.status = .OPENED then .DOCUMENT_VERIFICATION
      else rows.case.status }, ?_, ?_⟩
  · have hdecided : rows.case.status ∉ DECIDED_STATUSES := by
      rw [h]
      decide
    simp only [Call.perform, ClearanceCase.attach_document, if_neg hdecided, hattach, hholds,
      Bool.false_eq_true, if_false, if_neg hopen]
    rfl
  · rw [commit_attached, if_neg (by simp [hunique]), if_neg hopen]
    simp

omit [DecidableEq ι] in
/-- A sign-off the item accepts is one the case accepts. -/
theorem verify_document_accepted {c : ClearanceCase} {d d' : DocumentRegistryItem}
    {document_id inspector_id : Argument} (hdecided : c.status ∉ DECIDED_STATUSES)
    (hfind : c.find_document document_id = some d)
    (hverify : d.verify inspector_id = (d', .ok ())) :
    ∃ after event, c.verify_document document_id inspector_id = (after, .ok event) := by
  unfold ClearanceCase.verify_document
  rw [if_neg hdecided, hfind]
  dsimp only
  rw [hverify]
  dsimp only
  split
  · exact ⟨_, _, rfl⟩
  · split
    · exact ⟨_, _, rfl⟩
    · exact ⟨_, _, rfl⟩

/-- Its sign-off ends the verification, since every kind was cleared before. -/
theorem sign_off_ends {rows : CaseRows} {d : DocumentRegistryItem} {inspector_id : Argument}
    {inspector : String} (h : LeftOpen rows) (hd : d.is_verified = false)
    (hnew : ∀ row ∈ rows.case.documents, row.id ≠ d.id)
    (hinspector : DocumentRegistryItem._validated_inspector_id inspector_id = .ok inspector)
    (filed : CaseRows) (hfiled : filed =
      { case := { rows.case with documents := rows.case.documents ++ [d] }
        outbox := rows.outbox }) :
    ∃ after event rows',
      (Call.verify_document (.uuid d.id) inspector_id).perform filed.case = (after, .ok event)
      ∧ filed.commit filed.case after event = some rows'
      ∧ rows'.case.status = .RISK_ASSESSMENT
      ∧ rows'.outbox = rows.outbox
        ++ [{ case_id := rows.case.id.str, shipment_id := rows.case.shipment_id }] := by
  have hstatus : filed.case.status = .DOCUMENT_VERIFICATION := by
    rw [hfiled]
    exact h.status
  have hdecided : filed.case.status ∉ DECIDED_STATUSES := by
    rw [hstatus]
    decide
  have hfind : filed.case.find_document (.uuid d.id) = some d := by
    rw [hfiled, ClearanceCase.find_document]
    dsimp only
    rw [List.find?_append, List.find?_eq_none.mpr, Option.none_or]
    · simp
    · intro row hrow
      simpa using hnew row hrow
  have hverify : d.verify inspector_id
      = ({ d with verified_by_inspector_id := some inspector, is_verified := true }, .ok ()) := by
    rw [DocumentRegistryItem.verify, if_neg (by simp [hd]), hinspector]
  obtain ⟨after, event, hcall⟩ := verify_document_accepted hdecided hfind hverify
  obtain ⟨d₂, d₂', -, -, hcommit⟩ := verify_document_commit hcall filed
  have hdone : filed.case.completed_by d₂.document_type := by
    refine ⟨hstatus, covers_required_iff.mpr fun t => List.mem_cons_of_mem _ ?_⟩
    rw [hfiled]
    exact (Within.append rows.case.documents [d]).cleared (covers_required_iff.mp h.complete t)
  rw [if_pos hdone, if_pos hdone] at hcommit
  refine ⟨after, event, _, hcall, hcommit, rfl, ?_⟩
  rw [hfiled]

/-- **A verification left open** stays open for as long as only sign-offs are asked for,
however many there are and whatever they overlap with. One more document, filed and signed
off, ends it and is announced. -/
theorem left_open_until_filed {rows : CaseRows} (h : LeftOpen rows) :
    (∀ (locals : ι → Request) (es : List (ι × RequestStep)) (c' : Config ι CaseRows Request),
      (∀ i, (locals i).Idle rows) → run (fire request_step) ⟨rows, locals⟩ es = some c' →
      c'.shared = rows)
    ∧ ∀ (locals : ι → Request) (i j : ι) (document_type file_uuid inspector_id : Argument)
        (document_id : Uuid) (d : DocumentRegistryItem) (inspector : String), i ≠ j →
      locals i = .received (.attach_document document_type file_uuid document_id) →
      locals j = .received (.verify_document (.uuid document_id) inspector_id) →
      DocumentRegistryItem.attach document_type file_uuid document_id = .ok d →
      (∀ row ∈ rows.case.documents, row.id ≠ document_id ∧ row.file_uuid ≠ d.file_uuid) →
      DocumentRegistryItem._validated_inspector_id inspector_id = .ok inspector →
      ∃ c', run (fire request_step) ⟨rows, locals⟩ (alone i ++ alone j) = some c'
        ∧ c'.shared.case.status = .RISK_ASSESSMENT
        ∧ c'.shared.outbox = rows.outbox
          ++ [{ case_id := rows.case.id.str, shipment_id := rows.case.shipment_id }] := by
  refine ⟨fun locals es c' hidle hrun => ?_, ?_⟩
  · exact ((idle_outline h).run ⟨rfl, hidle⟩ hrun).1
  · intro locals i j document_type file_uuid inspector_id document_id d inspector hij hi hj
      hattach hnew hinspector
    obtain ⟨hid, hd, -⟩ := DocumentRegistryItem.attach_ok hattach
    obtain ⟨after, hfile, hfiled⟩ := file_commit h.status hattach hnew
    have hnewid : ∀ row ∈ rows.case.documents, row.id ≠ d.id := by
      rw [hid]
      exact fun row hrow => (hnew row hrow).1
    obtain ⟨signed, event, rows', hsign, hsigned, hstatus, houtbox⟩ :=
      sign_off_ends h hd hnewid hinspector _ rfl
    have hj' : Function.update locals i .finished j
        = .received (.verify_document (.uuid d.id) inspector_id) := by
      rw [Function.update_of_ne hij.symm, hj, hid]
    refine ⟨⟨rows', Function.update (Function.update locals i .finished) j .finished⟩, ?_,
      hstatus, houtbox⟩
    rw [run_append, run_alone hi hfile hfiled, Option.bind_some, run_alone hj' hsign hsigned]

end Alone

/-- A third document to file, and its sign-off. -/
def filing_requests (i : ℕ) : Request :=
  if i = 0 then .received (.attach_document (.document_type .BILL_OF_LADING)
    (.uuid (.of_byte 23)) (.of_byte 3))
  else .received (.verify_document (.uuid (.of_byte 3)) (.str "INS-3"))

/-- The two sign-offs that missed each other leave such a case, and a third document ends
its verification. -/
theorem filing_ends_the_overlap : ∃ c c',
    run (fire request_step) (opened_for (.of_byte 9) "SHP-4022" skewRequests)
      (skewSteps ++ [(3, .commit)]) = some c
    ∧ LeftOpen c.shared
    ∧ run (fire request_step) ⟨c.shared, filing_requests⟩ (alone 0 ++ alone 1) = some c'
    ∧ c'.shared.case.status = .RISK_ASSESSMENT := by
  have hall : (run (fire request_step) (opened_for (.of_byte 9) "SHP-4022" skewRequests)
      (skewSteps ++ [(3, .commit)])).any (fun c =>
        c.shared.case.status == .DOCUMENT_VERIFICATION && c.shared.case.has_complete_paperwork
        && c.shared.case.documents.all (fun d => d.is_verified
          && d.id != .of_byte 3 && d.file_uuid != .of_byte 23)) = true := by
    decide +kernel
  simp only [Option.any_eq_true, Bool.and_eq_true, beq_iff_eq, List.all_eq_true, bne_iff_ne]
    at hall
  obtain ⟨c, hrun, ⟨hstatus, hcomplete⟩, hdocuments⟩ := hall
  have hopen : LeftOpen c.shared := ⟨hstatus, hcomplete, fun d hd => (hdocuments d hd).1.1⟩
  obtain ⟨c', hlater, hended, -⟩ := (left_open_until_filed hopen).2 filing_requests 0 1
    (.document_type .BILL_OF_LADING) (.uuid (.of_byte 23)) (.str "INS-3") (.of_byte 3) _ "INS-3"
    Nat.zero_ne_one rfl rfl rfl (fun d hd => ⟨(hdocuments d hd).1.2, (hdocuments d hd).2⟩)
    (by decide +kernel)
  exact ⟨c, c', hrun, hopen, hlater, hended⟩

end TradeLogistics.Customs
