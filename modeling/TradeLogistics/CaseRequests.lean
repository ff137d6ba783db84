/-
Concurrent requests on one clearance case.

A request is a session of its own at READ COMMITTED: it reads the case row, then the
document rows (the collection is loaded by a second `SELECT`, which sees a later
committed state), calls the aggregate on the copy it built, and commits the columns it
changed, the rows it added and the event together. No row is locked by the reads and
no version column is mapped, so a commit lands on whatever the table holds by then.
An update waits for the row until the transaction that wrote it ends, so writes of two
transactions never mix: applying all of a session's writes at its commit loses no
behaviour.

What the aggregate promises does not survive this. The completion test reads every
document of the copy and writes one of them, so two sign-offs on different documents
may each find the other's outstanding. The result below says exactly when it does
survive: along a run every committed state keeps the promise precisely when every
commit decides on its copy what it would decide on the committed rows.
-/
import TradeLogistics.CaseHistory
import TradeLogistics.UnitOfWork

set_option autoImplicit false

namespace TradeLogistics.Customs

open TradeLogistics.PyText TradeLogistics.Runs TradeLogistics.UnitOfWork

/-! ## 1. The committed rows, and what a session writes -/

/-- The committed rows of one case: its row with its documents, and the outbox rows it
has. The documents stand in the order of their commits; the relationship loads them by
`created_at`, which is when their transaction began, and nothing looks at the order. -/
structure CaseRows where
  case : ClearanceCase
  outbox : List DocumentVerificationCompleted
  deriving DecidableEq

/-- One document row after a flush, column by column; the key is never written. -/
def merge_document (loaded after stored : DocumentRegistryItem) : DocumentRegistryItem where
  id := stored.id
  document_type := column loaded.document_type after.document_type stored.document_type
  file_uuid := column loaded.file_uuid after.file_uuid stored.file_uuid
  is_verified := column loaded.is_verified after.is_verified stored.is_verified
  verified_by_inspector_id := column loaded.verified_by_inspector_id
    after.verified_by_inspector_id stored.verified_by_inspector_id

/-- The primary key of the documents, and `uq_clearance_case_documents_case_file`. -/
def violates_unique (stored new : List DocumentRegistryItem) : Bool :=
  new.any fun d => stored.any fun row => row.id == d.id || row.file_uuid == d.file_uuid

/-- The commit of a session that loaded one version of the case and leaves another,
with the event it scheduled. A violated constraint refuses it. -/
def CaseRows.commit (rows : CaseRows) (loaded after : ClearanceCase)
    (event : Option DocumentVerificationCompleted) : Option CaseRows :=
  let new := added loaded.documents after.documents
  if violates_unique rows.case.documents new then none
  else some
    { case :=
        { rows.case with
          status := column loaded.status after.status rows.case.status
          documents := update (·.id) merge_document (dirty loaded.documents after.documents)
            rows.case.documents ++ new }
      outbox := rows.outbox ++ event.toList }

/-! ## 2. Requests -/

/-- Where a request stands: what it was asked, the case row it read, the copy it built,
and what the aggregate made of the copy. -/
inductive Request where
  | received (call : Call)
  | case_read (call : Call) (row : ClearanceCase)
  | loaded (call : Call) (copy : ClearanceCase)
  | handled (call : Call) (copy after : ClearanceCase)
      (event : Option DocumentVerificationCompleted)
  | finished

/-- The atomic actions of a request: the two reads of `find_by_id`, the call on the
aggregate, the commit, and a failure at any point, which rolls the session back. -/
inductive RequestStep where
  | find_by_id | load_documents | handle | commit | fail
  deriving DecidableEq

/-- `AttachDocumentHandler.handle` and `VerifyDocumentHandler.handle` between two
commits of the others. A call the aggregate refuses ends the request; a commit the
constraints refuse is not possible, and leaves the request only to fail. -/
def request_step {ι : Type*} (_ : ι) (rows : CaseRows) :
    Request → RequestStep → Option (CaseRows × Request)
  | .received call, .find_by_id => some (rows, .case_read call { rows.case with documents := [] })
  | .case_read call row, .load_documents =>
    some (rows, .loaded call { row with documents := rows.case.documents })
  | .loaded call copy, .handle =>
    match call.perform copy with
    | (after, .ok event) => some (rows, .handled call copy after event)
    | (_, .error _) => some (rows, .finished)
  | .handled _ copy after event, .commit =>
    (rows.commit copy after event).map fun rows => (rows, .finished)
  | .finished, .fail => none
  | _, .fail => some (rows, .finished)
  | _, _ => none

/-- What the aggregate promises of a committed state: risk assessment exactly with
complete paperwork, and one announcement exactly then. -/
def Promised (rows : CaseRows) : Prop :=
  (rows.case.status = .RISK_ASSESSMENT ↔ rows.case.has_complete_paperwork = true)
    ∧ rows.outbox = if rows.case.status = .RISK_ASSESSMENT
        then [{ case_id := rows.case.id.str, shipment_id := rows.case.shipment_id }] else []

/-- A transition of the committed rows that keeps the promise and moves no stage back. -/
def Kept (rows rows' : CaseRows) : Prop :=
  rows.case.status.rank ≤ rows'.case.status.rank ∧ Promised rows'

/-- The sign-off of a document of this kind is the one that ends the verification. -/
def ClearanceCase.completed_by (c : ClearanceCase) (t : DocumentType) : Prop :=
  c.status = .DOCUMENT_VERIFICATION ∧ covers_required (t :: cleared_types c.documents) = true

instance (c : ClearanceCase) (t : DocumentType) : Decidable (c.completed_by t) :=
  inferInstanceAs (Decidable (_ ∧ _))

/-- A commit that decides on its copy what it would decide on the committed rows: an
attachment that found the case opened does not land on one in risk assessment, and a
sign-off ends the verification of the copy exactly when it ends that of the case. -/
def Current (rows : CaseRows) : Request → RequestStep → Prop
  | .handled (.attach_document _ _ _) copy _ _, .commit =>
    copy.status = .OPENED → rows.case.status ≠ .RISK_ASSESSMENT
  | .handled (.verify_document document_id _) copy _ _, .commit =>
    ∀ d, copy.find_document document_id = some d →
      (copy.completed_by d.document_type ↔ rows.case.completed_by d.document_type)
  | _, _ => True

/-! ## 3. What a commit writes

The changes of a session have one of two shapes, and so has its commit. -/

/-- The session of an accepted attachment: one row is new, and the status is written
only if the copy was opened. -/
theorem commit_attached (rows : CaseRows) {copy : ClearanceCase} {d : DocumentRegistryItem}
    (event : Option DocumentVerificationCompleted) :
    rows.commit copy { copy with
        documents := copy.documents ++ [d]
        status := if copy.status = .OPENED then .DOCUMENT_VERIFICATION else copy.status } event
      = if violates_unique rows.case.documents [d] then none
        else some
          { case := { rows.case with
              status := if copy.status = .OPENED then .DOCUMENT_VERIFICATION else rows.case.status
              documents := rows.case.documents ++ [d] }
            outbox := rows.outbox ++ event.toList } := by
  have hcolumn : column copy.status
      (if copy.status = .OPENED then AssessmentStatus.DOCUMENT_VERIFICATION else copy.status)
      rows.case.status
      = if copy.status = .OPENED then .DOCUMENT_VERIFICATION else rows.case.status := by
    by_cases h : copy.status = .OPENED
    · rw [if_pos h, if_pos h, h]
      exact column_of_ne (by decide)
    · rw [if_neg h, if_neg h, column_self]
  simp only [CaseRows.commit, added_append, dirty_append, update_nil, hcolumn]

/-- The changed rows of a session that signed off the item it found. -/
theorem dirty_store_document {ds : List DocumentRegistryItem} {d d' : DocumentRegistryItem}
    {document_id : Argument}
    (hfind : ds.find? (fun document => Argument.uuid document.id == document_id) = some d)
    (hid : d'.id = d.id) (hne : d ≠ d') :
    dirty ds (ClearanceCase.store_document d' ds) = [(d, d')] := by
  induction ds with
  | nil => cases hfind
  | cons x xs ih =>
      rw [ClearanceCase.store_document, hid]
      rcases ClearanceCase.find_document_cons hfind with rfl | ⟨hxd, hfind⟩
      · have hrest : dirty xs xs = [] := by simpa using dirty_append xs []
        rw [if_pos rfl]
        simpa [dirty, hne] using hrest
      · rw [if_neg hxd]
        simpa [dirty] using ih hfind

/-- The committed documents once the sign-off of one of them is written. -/
def sign_off (d d' : DocumentRegistryItem) (ds : List DocumentRegistryItem) :
    List DocumentRegistryItem :=
  ds.map fun row => if d.id = row.id then merge_document d d' row else row

/-- The session of an accepted sign-off updates one row, and the status it changed. -/
theorem commit_signed (rows : CaseRows) {copy : ClearanceCase} {d d' : DocumentRegistryItem}
    {document_id inspector_id : Argument} (status : AssessmentStatus)
    (event : Option DocumentVerificationCompleted)
    (hfind : copy.find_document document_id = some d)
    (hverify : d.verify inspector_id = (d', .ok ())) :
    rows.commit copy { copy with
        documents := ClearanceCase.store_document d' copy.documents
        status } event
      = some
          { case := { rows.case with
              status := column copy.status status rows.case.status
              documents := sign_off d d' rows.case.documents }
            outbox := rows.outbox ++ event.toList } := by
  obtain ⟨hunverified, s, -, hd'⟩ := DocumentRegistryItem.verify_ok hverify
  have hne : d ≠ d' := by
    intro he
    rw [he, hd'] at hunverified
    cases hunverified
  have hadded : added copy.documents (ClearanceCase.store_document d' copy.documents) = [] :=
    added_of_length (ClearanceCase.store_document_length d' copy.documents)
  have hdirty : dirty copy.documents (ClearanceCase.store_document d' copy.documents)
      = [(d, d')] :=
    dirty_store_document hfind (by rw [hd']) hne
  simp only [CaseRows.commit, hadded, hdirty, update_singleton, violates_unique, List.any_nil,
    Bool.false_eq_true, if_false, List.append_nil, sign_off]

/-! ## 4. Copies and the rows they were taken from

A copy is behind the table in one direction only: its stage is one the case had, its
documents are still there, and what it saw cleared still is. -/

/-- Every document of the first collection is in the second, cleared if it was. -/
def Within (ds ds' : List DocumentRegistryItem) : Prop :=
  ∀ d ∈ ds, ∃ d' ∈ ds', d'.id = d.id ∧ d'.document_type = d.document_type
    ∧ (d.is_verified = true → d'.is_verified = true)

theorem Within.refl (ds : List DocumentRegistryItem) : Within ds ds :=
  fun d hd => ⟨d, hd, rfl, rfl, fun h => h⟩

theorem Within.trans {as bs cs : List DocumentRegistryItem} (hab : Within as bs)
    (hbc : Within bs cs) : Within as cs := by
  intro a ha
  obtain ⟨b, hb, hbid, hbtype, hbv⟩ := hab a ha
  obtain ⟨c, hc, hcid, hctype, hcv⟩ := hbc b hb
  exact ⟨c, hc, hcid.trans hbid, hctype.trans hbtype, fun h => hcv (hbv h)⟩

theorem Within.append (ds new : List DocumentRegistryItem) : Within ds (ds ++ new) :=
  fun d hd => ⟨d, List.mem_append_left _ hd, rfl, rfl, fun h => h⟩

theorem Within.cleared {ds ds' : List DocumentRegistryItem} (h : Within ds ds')
    {t : DocumentType} (ht : t ∈ cleared_types ds) : t ∈ cleared_types ds' := by
  obtain ⟨d, hd, hv, rfl⟩ := mem_cleared_types.mp ht
  obtain ⟨d', hd', -, htype, hv'⟩ := h d hd
  exact mem_cleared_types.mpr ⟨d', hd', hv' hv, htype⟩

/-- `c` shows a version of the case that `c'` has moved on from, or not. -/
structure Precedes (c c' : ClearanceCase) : Prop where
  id : c'.id = c.id
  shipment_id : c'.shipment_id = c.shipment_id
  rank : c.status.rank ≤ c'.status.rank
  documents : Within c.documents c'.documents

theorem Precedes.refl (c : ClearanceCase) : Precedes c c := ⟨rfl, rfl, le_rfl, Within.refl _⟩

theorem Precedes.trans {a b c : ClearanceCase} (hab : Precedes a b) (hbc : Precedes b c) :
    Precedes a c :=
  ⟨hbc.id.trans hab.id, hbc.shipment_id.trans hab.shipment_id, hab.rank.trans hbc.rank,
    hab.documents.trans hbc.documents⟩

/-- A sign-off keeps key and kind of every row, and clears the rows of its document. -/
theorem sign_off_row {d d' : DocumentRegistryItem} {inspector_id : Argument}
    (hverify : d.verify inspector_id = (d', .ok ())) (row : DocumentRegistryItem) :
    (merge_document d d' row).id = row.id
      ∧ (merge_document d d' row).document_type = row.document_type
      ∧ (merge_document d d' row).is_verified = true := by
  obtain ⟨hunverified, s, -, rfl⟩ := DocumentRegistryItem.verify_ok hverify
  refine ⟨rfl, column_self _ _, ?_⟩
  have hchanged : true ≠ d.is_verified := by
    rw [hunverified]
    decide
  exact column_of_ne hchanged

theorem within_sign_off {d d' : DocumentRegistryItem} {inspector_id : Argument}
    (hverify : d.verify inspector_id = (d', .ok ())) (ds : List DocumentRegistryItem) :
    Within ds (sign_off d d' ds) := by
  intro row hrow
  refine ⟨_, List.mem_map.mpr ⟨row, hrow, rfl⟩, ?_⟩
  obtain ⟨hid, htype, hv⟩ := sign_off_row hverify row
  by_cases h : d.id = row.id
  · rw [if_pos h]
    exact ⟨hid, htype, fun _ => hv⟩
  · rw [if_neg h]
    exact ⟨rfl, rfl, fun hrow => hrow⟩

theorem sign_off_ids {d d' : DocumentRegistryItem} (ds : List DocumentRegistryItem) :
    (sign_off d d' ds).map (·.id) = ds.map (·.id) := by
  simp only [sign_off, List.map_map]
  refine List.map_congr_left fun row _ => ?_
  by_cases h : d.id = row.id
  · simp only [Function.comp_apply, if_pos h, merge_document]
  · simp only [Function.comp_apply, if_neg h]

/-- The kinds cleared once a sign-off is written: those before, and the one signed
off, whatever copy it was decided on. -/
theorem mem_cleared_sign_off {ds : List DocumentRegistryItem} (hids : (ds.map (·.id)).Nodup)
    {d d' row : DocumentRegistryItem} {inspector_id : Argument}
    (hverify : d.verify inspector_id = (d', .ok ()))
    (hrow : row ∈ ds) (hid : row.id = d.id) (htype : row.document_type = d.document_type)
    (t : DocumentType) :
    t ∈ cleared_types (sign_off d d' ds) ↔ t ∈ d.document_type :: cleared_types ds := by
  rw [List.mem_cons]
  constructor
  · intro ht
    obtain ⟨y, hy, hyv, rfl⟩ := mem_cleared_types.mp ht
    obtain ⟨x, hx, rfl⟩ := List.mem_map.mp hy
    by_cases hdx : d.id = x.id
    · have hxrow : x = row := List.inj_on_of_nodup_map hids hx hrow (by rw [hid, hdx])
      rw [if_pos hdx, (sign_off_row hverify x).2.1, hxrow]
      exact .inl htype
    · rw [if_neg hdx] at hyv ⊢
      exact .inr (mem_cleared_types.mpr ⟨x, hx, hyv, rfl⟩)
  · rintro (rfl | ht)
    · refine mem_cleared_types.mpr ⟨merge_document d d' row, ?_, (sign_off_row hverify row).2.2, ?_⟩
      · exact List.mem_map.mpr ⟨row, hrow, if_pos hid.symm⟩
      · rw [(sign_off_row hverify row).2.1, htype]
    · exact (within_sign_off hverify ds).cleared ht

open ClearanceCase in
theorem mem_store_document {ds : List DocumentRegistryItem} {item y : DocumentRegistryItem}
    (hy : y ∈ store_document item ds) : y = item ∨ y ∈ ds := by
  induction ds with
  | nil => cases hy
  | cons x xs ih =>
      rw [store_document] at hy
      split at hy
      · exact (List.mem_cons.mp hy).imp_right fun h => List.mem_cons_of_mem _ h
      · rcases List.mem_cons.mp hy with rfl | hy
        · exact .inr List.mem_cons_self
        · exact (ih hy).imp_right fun h => List.mem_cons_of_mem _ h

open ClearanceCase in
theorem stored_mem {ds : List DocumentRegistryItem} {d item : DocumentRegistryItem}
    (hd : d ∈ ds) (hid : item.id = d.id) : item ∈ store_document item ds := by
  induction ds with
  | nil => cases hd
  | cons x xs ih =>
      rw [store_document]
      split
      · exact List.mem_cons_self
      · next hx =>
        rcases List.mem_cons.mp hd with rfl | hd
        · exact absurd hid.symm hx
        · exact List.mem_cons_of_mem _ (ih hd)

/-- The same for the copy, where the aggregate mutated the item it had found. -/
theorem mem_cleared_store_document {ds : List DocumentRegistryItem} {d d' : DocumentRegistryItem}
    {document_id inspector_id : Argument}
    (hfind : ds.find? (fun document => Argument.uuid document.id == document_id) = some d)
    (hverify : d.verify inspector_id = (d', .ok ())) (t : DocumentType) :
    t ∈ cleared_types (ClearanceCase.store_document d' ds)
      ↔ t ∈ d.document_type :: cleared_types ds := by
  have hkeeps : Keeps d d' := keeps_verify hverify
  have hext := extends_store_document hfind hkeeps
  rw [List.mem_cons]
  constructor
  · intro ht
    obtain ⟨y, hy, hyv, rfl⟩ := mem_cleared_types.mp ht
    rcases mem_store_document hy with rfl | hy
    · exact .inl hkeeps.2.1
    · exact .inr (mem_cleared_types.mpr ⟨y, hy, hyv, rfl⟩)
  · rintro (rfl | ht)
    · obtain ⟨-, s, -, hd'⟩ := DocumentRegistryItem.verify_ok hverify
      refine mem_cleared_types.mpr ⟨d', ?_, by rw [hd'], hkeeps.2.1⟩
      exact stored_mem (List.mem_of_find?_eq_some hfind) hkeeps.1
    · obtain ⟨x, hx, hxv, rfl⟩ := mem_cleared_types.mp ht
      exact mem_cleared_types.mpr ⟨x, hext.mem_verified hx hxv, hxv, rfl⟩

theorem covers_congr {ts us : List DocumentType} (h : ∀ t, t ∈ ts ↔ t ∈ us) :
    covers_required ts = covers_required us := by
  rw [Bool.eq_iff_iff, covers_required_iff, covers_required_iff]
  exact forall_congr' h

/-- **An accepted sign-off, committed.** What it decided on its copy goes onto whatever
rows the table holds. -/
theorem verify_document_commit {copy after : ClearanceCase} {document_id inspector_id : Argument}
    {event : Option DocumentVerificationCompleted}
    (hcall : copy.verify_document document_id inspector_id = (after, .ok event))
    (rows : CaseRows) :
    ∃ d d', copy.find_document document_id = some d ∧ d.verify inspector_id = (d', .ok ())
      ∧ rows.commit copy after event = some
          { case := { rows.case with
              status := if copy.completed_by d.document_type then .RISK_ASSESSMENT
                else rows.case.status
              documents := sign_off d d' rows.case.documents }
            outbox := rows.outbox ++ if copy.completed_by d.document_type
              then [{ case_id := copy.id.str, shipment_id := copy.shipment_id }] else [] } := by
  rcases copy.verify_document_cases document_id inspector_id with
    ⟨e, he⟩ | ⟨d, d', hfind, hverify, -, hcases⟩
  · rw [he] at hcall
    cases hcall
  · refine ⟨d, d', hfind, hverify, ?_⟩
    have hcover : covers_required (cleared_types (ClearanceCase.store_document d' copy.documents))
        = covers_required (d.document_type :: cleared_types copy.documents) :=
      covers_congr (mem_cleared_store_document hfind hverify)
    rcases hcases with ⟨hstay, hok⟩ | ⟨hstatus, hcomplete, hok⟩
    · -- the copy stays where it is, and the session writes the item alone
      have hnot : ¬ copy.completed_by d.document_type := by
        rintro ⟨hs, hc⟩
        rcases hstay with hne | hout
        · exact hne hs
        · rw [hcover, hc] at hout
          cases hout
      rw [hok] at hcall
      cases hcall
      have hcommit := commit_signed rows copy.status none hfind hverify
      rw [if_neg hnot, if_neg hnot]
      simpa only [column_self, Option.toList_none] using hcommit
    · -- the copy leaves verification: the status is a changed column
      have hdone : copy.completed_by d.document_type := ⟨hstatus, hcover ▸ hcomplete⟩
      rw [hok] at hcall
      cases hcall
      have hcommit := commit_signed rows .RISK_ASSESSMENT
        (some { case_id := copy.id.str, shipment_id := copy.shipment_id }) hfind hverify
      have hchanged : AssessmentStatus.RISK_ASSESSMENT ≠ copy.status := by
        rw [hstatus]
        decide
      rw [if_pos hdone, if_pos hdone]
      simpa only [column_of_ne hchanged, Option.toList_some] using hcommit

/-- An accepted attachment announces nothing. -/
theorem perform_attach_ok {document_type file_uuid : Argument} {document_id : Uuid}
    {c after : ClearanceCase} {event : Option DocumentVerificationCompleted}
    (h : (Call.attach_document document_type file_uuid document_id).perform c
      = (after, .ok event)) :
    event = none ∧
      ∃ d, c.attach_document document_type file_uuid document_id = (after, .ok d) := by
  simp only [Call.perform] at h
  rcases hcall : c.attach_document document_type file_uuid document_id with ⟨c', e | d⟩
  · rw [hcall] at h
    cases h
  · rw [hcall] at h
    cases h
    exact ⟨rfl, d, rfl⟩

/-- **An accepted attachment, committed**, where the constraints allow it. -/
theorem attach_document_commit {copy after : ClearanceCase} {document_type file_uuid : Argument}
    {document_id : Uuid} {d : DocumentRegistryItem}
    (hcall : copy.attach_document document_type file_uuid document_id = (after, .ok d))
    {rows rows' : CaseRows} (hcommit : rows.commit copy after none = some rows') :
    d.is_verified = false ∧ (∀ row ∈ rows.case.documents, row.id ≠ d.id)
      ∧ rows' =
          { case := { rows.case with
              status := if copy.status = .OPENED then .DOCUMENT_VERIFICATION else rows.case.status
              documents := rows.case.documents ++ [d] }
            outbox := rows.outbox } := by
  rcases copy.attach_document_cases document_type file_uuid document_id with
    ⟨e, he⟩ | ⟨d₁, hattach, -, -, hok⟩
  · rw [he] at hcall
    cases hcall
  · rw [hok] at hcall
    cases hcall
    rw [commit_attached] at hcommit
    by_cases hv : violates_unique rows.case.documents [d] = true
    · rw [if_pos hv] at hcommit
      cases hcommit
    · rw [if_neg hv, Option.some.injEq] at hcommit
      refine ⟨(DocumentRegistryItem.attach_ok hattach).2.1, ?_, ?_⟩
      · -- a row with this identifier would have violated the unique constraint
        intro row hrow hid
        refine hv ?_
        simp only [violates_unique, List.any_cons, List.any_nil, Bool.or_false, List.any_eq_true]
        exact ⟨row, hrow, by simp [hid]⟩
      · rw [← hcommit]
        simp

/-! ## 5. The outline

What each request may rely on, and what the commits guarantee it. -/

/-- What one action of a request can do: everything but a commit leaves the rows alone. -/
theorem request_step_cases {ι : Type*} {i : ι} {rows rows' : CaseRows} {k k' : Request}
    {a : RequestStep} (h : request_step i rows k a = some (rows', k')) :
    (rows' = rows ∧ a ≠ .commit
      ∧ (k' = .finished
        ∨ (∃ call, k = .received call ∧ k' = .case_read call { rows.case with documents := [] })
        ∨ (∃ call row, k = .case_read call row
            ∧ k' = .loaded call { row with documents := rows.case.documents })
        ∨ (∃ call copy after event, k = .loaded call copy
            ∧ call.perform copy = (after, .ok event) ∧ k' = .handled call copy after event)))
    ∨ (∃ call copy after event, k = .handled call copy after event ∧ a = .commit
        ∧ rows.commit copy after event = some rows' ∧ k' = .finished) := by
  unfold request_step at h
  split at h
  · next call =>
    cases h
    exact .inl ⟨rfl, by decide, .inr (.inl ⟨call, rfl, rfl⟩)⟩
  · next call row =>
    cases h
    exact .inl ⟨rfl, by decide, .inr (.inr (.inl ⟨call, row, rfl, rfl⟩))⟩
  · next call copy =>
    split at h
    · next after event hcall =>
      cases h
      exact .inl ⟨rfl, by decide, .inr (.inr (.inr ⟨call, copy, after, event, rfl, hcall, rfl⟩))⟩
    · cases h
      exact .inl ⟨rfl, by decide, .inl rfl⟩
  · next call copy after event =>
    obtain ⟨stored, hcommit, hpair⟩ := Option.map_eq_some_iff.mp h
    cases hpair
    exact .inr ⟨call, copy, after, event, rfl, rfl, hcommit, rfl⟩
  · cases h
  · cases h
    exact .inl ⟨rfl, by decide, .inl rfl⟩
  · cases h

/-- The committed rows as long as every commit was current. -/
structure Consistent (rows : CaseRows) : Prop where
  stage : rows.case.status = expected_status rows.case.documents
  announced : rows.outbox = if rows.case.status = .RISK_ASSESSMENT
    then [{ case_id := rows.case.id.str, shipment_id := rows.case.shipment_id }] else []
  ids : (rows.case.documents.map (·.id)).Nodup

/-- What a request knows about the rows from what it has read. -/
def Request.Knows (rows : CaseRows) : Request → Prop
  | .received _ => True
  | .case_read _ row => Precedes row rows.case
  | .loaded _ copy => Precedes copy rows.case
  | .handled call copy after event =>
    Precedes copy rows.case ∧ call.perform copy = (after, .ok event)
  | .finished => True

theorem Request.Knows.mono {rows rows' : CaseRows} (h : Precedes rows.case rows'.case)
    {k : Request} (hk : k.Knows rows) : k.Knows rows' := by
  cases k with
  | received call => trivial
  | case_read call row => exact Precedes.trans hk h
  | loaded call copy => exact Precedes.trans hk h
  | handled call copy after event => exact ⟨Precedes.trans hk.1 h, hk.2⟩
  | finished => trivial

theorem Consistent.promised {rows : CaseRows} (h : Consistent rows) : Promised rows := by
  refine ⟨?_, h.announced⟩
  rw [h.stage]
  exact expected_status_assessment

/-- A case in assessment has a last rank among the stages these requests reach. -/
theorem Consistent.rank_le {rows : CaseRows} (h : Consistent rows) :
    rows.case.status.rank ≤ 2 := by
  have hmem := expected_status_undecided rows.case.documents
  rw [← h.stage] at hmem
  revert hmem
  cases rows.case.status <;> decide

/-- An attachment lands: the stage is again the one the documents demand, because a
copy that was opened does not meet a case in assessment. -/
theorem attached_consistent {rows : CaseRows} {copy : ClearanceCase} {d : DocumentRegistryItem}
    (h : Consistent rows) (hcopy : Precedes copy rows.case)
    (hcurrent : copy.status = .OPENED → rows.case.status ≠ .RISK_ASSESSMENT)
    (hd : d.is_verified = false) (hid : ∀ row ∈ rows.case.documents, row.id ≠ d.id) :
    let rows' : CaseRows :=
      { case := { rows.case with
          status := if copy.status = .OPENED then .DOCUMENT_VERIFICATION else rows.case.status
          documents := rows.case.documents ++ [d] }
        outbox := rows.outbox }
    Consistent rows' ∧ Precedes rows.case rows'.case := by
  have hstatus : (if copy.status = .OPENED then AssessmentStatus.DOCUMENT_VERIFICATION
      else rows.case.status) = expected_status (rows.case.documents ++ [d]) := by
    rw [expected_status_append hd, ← h.stage]
    by_cases hopened : copy.status = .OPENED
    · rw [if_pos hopened]
      have hle := h.rank_le
      have hne := hcurrent hopened
      revert hle hne
      cases rows.case.status <;> decide
    · -- a copy past `Opened` was loaded from rows that were past it too
      rw [if_neg hopened, if_neg]
      intro hrows
      have hrank := hcopy.rank
      rw [hrows] at hrank
      revert hrank hopened
      cases copy.status <;> decide
  have hranks : rows.case.status.rank ≤ (expected_status (rows.case.documents ++ [d])).rank := by
    rw [h.stage]
    exact expected_status_mono (Extends.append _ [d])
  refine ⟨⟨hstatus, ?_, ?_⟩, rfl, rfl, ?_, Within.append _ [d]⟩
  · dsimp only
    rw [h.announced, hstatus, expected_status_append hd, ← h.stage]
    by_cases hopened : rows.case.status = .OPENED
    · rw [if_pos hopened, hopened]
      rfl
    · rw [if_neg hopened]
  · rw [List.map_append, List.nodup_append]
    refine ⟨h.ids, List.nodup_singleton _, ?_⟩
    rintro a ha b hb rfl
    obtain ⟨row, hrow, hrowid⟩ := List.mem_map.mp ha
    rw [List.map_cons, List.map_nil, List.mem_singleton] at hb
    exact hid row hrow (hrowid.trans hb)
  · dsimp only
    rw [hstatus]
    exact hranks

/-- What a sign-off meets when it lands: the row is there, so the case has left
`Opened`, and the kinds then cleared are those committed and its own. -/
theorem signed_rows {rows : CaseRows} {copy : ClearanceCase} {d d' : DocumentRegistryItem}
    {document_id inspector_id : Argument} (h : Consistent rows) (hcopy : Precedes copy rows.case)
    (hfind : copy.find_document document_id = some d)
    (hverify : d.verify inspector_id = (d', .ok ())) :
    covers_required (cleared_types (sign_off d d' rows.case.documents))
        = covers_required (d.document_type :: cleared_types rows.case.documents)
      ∧ rows.case.documents ≠ []
      ∧ (rows.case.status = .DOCUMENT_VERIFICATION ∨ rows.case.status = .RISK_ASSESSMENT) := by
  obtain ⟨row, hrow, hid, htype, -⟩ := hcopy.documents d (List.mem_of_find?_eq_some hfind)
  have hfiled : rows.case.documents ≠ [] := List.ne_nil_of_mem hrow
  refine ⟨covers_congr (mem_cleared_sign_off h.ids hverify hrow hid htype), hfiled, ?_⟩
  rw [h.stage, expected_status_verification, expected_status_assessment]
  cases covers_required (cleared_types rows.case.documents)
  · exact .inl ⟨hfiled, rfl⟩
  · exact .inr rfl

/-- A sign-off lands: it ends the verification of the committed case exactly when it
ended that of its copy, so status and announcement are again those the documents
demand. -/
theorem signed_consistent {rows : CaseRows} {copy : ClearanceCase} {d d' : DocumentRegistryItem}
    {document_id inspector_id : Argument} (h : Consistent rows) (hcopy : Precedes copy rows.case)
    (hfind : copy.find_document document_id = some d)
    (hverify : d.verify inspector_id = (d', .ok ()))
    (hcurrent : copy.completed_by d.document_type ↔ rows.case.completed_by d.document_type) :
    let rows' : CaseRows :=
      { case := { rows.case with
          status := if copy.completed_by d.document_type then .RISK_ASSESSMENT
            else rows.case.status
          documents := sign_off d d' rows.case.documents }
        outbox := rows.outbox ++ if copy.completed_by d.document_type
          then [{ case_id := copy.id.str, shipment_id := copy.shipment_id }] else [] }
    Consistent rows' ∧ Precedes rows.case rows'.case := by
  obtain ⟨hcover, hfiled, hstage⟩ := signed_rows h hcopy hfind hverify
  have hids : ((sign_off d d' rows.case.documents).map (·.id)).Nodup := by
    rw [sign_off_ids]
    exact h.ids
  have hwithin := within_sign_off hverify rows.case.documents
  by_cases hdone : rows.case.completed_by d.document_type
  · -- the last kind outstanding, in the rows as in the copy: announced once, here
    have hopen : rows.case.status = .DOCUMENT_VERIFICATION := hdone.1
    have hexpected : expected_status (sign_off d d' rows.case.documents) = .RISK_ASSESSMENT := by
      rw [expected_status_assessment, hcover]
      exact hdone.2
    simp only [if_pos (hcurrent.mpr hdone)]
    refine ⟨⟨hexpected.symm, ?_, hids⟩, rfl, rfl, ?_, hwithin⟩
    · dsimp only
      rw [h.announced, hopen, if_neg (by decide), if_pos rfl, hcopy.id, hcopy.shipment_id]
      rfl
    · dsimp only
      rw [hopen]
      decide
  · -- either kinds are outstanding still, or none has been for some time
    have hexpected : expected_status (sign_off d d' rows.case.documents) = rows.case.status := by
      rcases hstage with hv | hr
      · have hout : covers_required (d.document_type :: cleared_types rows.case.documents)
            = false := by
          simpa using fun hc => hdone ⟨hv, hc⟩
        rw [hv, expected_status_verification, hcover]
        refine ⟨?_, hout⟩
        intro hnil
        exact hfiled (List.map_eq_nil_iff.mp hnil)
      · rw [hr, expected_status_assessment, hcover, covers_required_iff]
        rw [h.stage, expected_status_assessment, covers_required_iff] at hr
        exact fun t => List.mem_cons_of_mem _ (hr t)
    simp only [if_neg (mt hcurrent.mp hdone), List.append_nil]
    exact ⟨⟨hexpected.symm, h.announced, hids⟩, rfl, rfl, le_rfl, hwithin⟩

/-- Current commits keep the committed rows consistent, and a request's knowledge
survives the commits of the others. -/
theorem request_outline {ι : Type*} :
    Outline (request_step (ι := ι)) Current Consistent
      (fun rows _ k => k.Knows rows) (fun _ rows rows' => Precedes rows.case rows'.case) where
  own := by
    intro i rows k a rows' k' h hk hstep hcurrent
    rcases request_step_cases hstep with
      ⟨rfl, -, hk'⟩ | ⟨call, copy, after, event, rfl, rfl, hcommit, rfl⟩
    · refine ⟨h, ?_, Precedes.refl _⟩
      rcases hk' with rfl | ⟨call, rfl, rfl⟩ | ⟨call, row, rfl, rfl⟩ |
        ⟨call, copy, after, event, rfl, hcall, rfl⟩
      · trivial
      · exact ⟨rfl, rfl, le_rfl, fun d hd => absurd hd List.not_mem_nil⟩
      · exact ⟨hk.id, hk.shipment_id, hk.rank, Within.refl _⟩
      · exact ⟨hk, hcall⟩
    · -- the commit lands on rows that have moved on since the copy was taken
      obtain ⟨hcopy, hcall⟩ := hk
      cases call with
      | attach_document document_type file_uuid document_id =>
          obtain ⟨rfl, d, hattach⟩ := perform_attach_ok hcall
          obtain ⟨hd, hid, rfl⟩ := attach_document_commit hattach hcommit
          obtain ⟨h', hprec⟩ := attached_consistent h hcopy hcurrent hd hid
          exact ⟨h', trivial, hprec⟩
      | verify_document document_id inspector_id =>
          obtain ⟨d, d', hfind, hverify, hrows⟩ := verify_document_commit hcall rows
          rw [hcommit, Option.some.injEq] at hrows
          subst hrows
          obtain ⟨h', hprec⟩ := signed_consistent h hcopy hfind hverify (hcurrent d hfind)
          exact ⟨h', trivial, hprec⟩
  stable := by
    intro i j rows rows' k _ _ hprec hk
    exact hk.mono hprec

theorem current_of_ne_commit {rows : CaseRows} {k : Request} {a : RequestStep}
    (ha : a ≠ .commit) : Current rows k a := by
  unfold Current
  split
  · exact absurd rfl ha
  · exact absurd rfl ha
  · trivial

/-- A commit that keeps the promise was current. An attachment that is not moves the
case back from assessment; a sign-off that is not either announces a second time or
leaves complete paperwork in verification. -/
theorem kept_current {ι : Type*} {i : ι} {rows rows' : CaseRows} {k k' : Request}
    {a : RequestStep} (h : Consistent rows) (hk : k.Knows rows)
    (hstep : request_step i rows k a = some (rows', k')) (hkept : Kept rows rows') :
    Current rows k a := by
  rcases request_step_cases hstep with
    ⟨-, ha, -⟩ | ⟨call, copy, after, event, rfl, rfl, hcommit, -⟩
  · exact current_of_ne_commit ha
  · obtain ⟨hcopy, hcall⟩ := hk
    obtain ⟨hrank, hassessed, hannounced⟩ := hkept
    cases call with
    | attach_document document_type file_uuid document_id =>
        obtain ⟨rfl, d, hattach⟩ := perform_attach_ok hcall
        obtain ⟨-, -, rfl⟩ := attach_document_commit hattach hcommit
        intro hopened hrisk
        simp only [if_pos hopened, hrisk] at hrank
        exact absurd hrank (by decide)
    | verify_document document_id inspector_id =>
        obtain ⟨d₀, d', hfind, hverify, hrows⟩ := verify_document_commit hcall rows
        rw [hcommit, Option.some.injEq] at hrows
        subst hrows
        obtain ⟨hcover, -, hstage⟩ := signed_rows h hcopy hfind hverify
        intro d hd
        rw [hfind, Option.some.injEq] at hd
        subst hd
        constructor
        · -- the copy announces: then the rows had not
          intro hdone
          refine ⟨hstage.resolve_right fun hrisk => ?_, ?_⟩
          · have htwice := congrArg List.length hannounced
            simp only [if_pos hdone, h.announced, if_pos hrisk] at htwice
            simp at htwice
          · rw [covers_required_iff]
            intro t
            have ht := covers_required_iff.mp hdone.2 t
            rw [List.mem_cons] at ht ⊢
            exact ht.imp_right hcopy.documents.cleared
        · -- the rows are complete: then the copy must have moved them on
          rintro ⟨hv, hc⟩
          by_contra hnot
          have hrisk := hassessed.mpr (by
            rw [ClearanceCase.has_complete_paperwork, hcover]
            exact hc)
          simp only [if_neg hnot, hv] at hrisk
          cases hrisk

/-- A request whose copy is still what the table holds is current: requests that do
not overlap never break the promise. -/
theorem current_of_unchanged (rows : CaseRows) (call : Call) (after : ClearanceCase)
    (event : Option DocumentVerificationCompleted) (a : RequestStep) :
    Current rows (.handled call rows.case after event) a := by
  by_cases ha : a = .commit
  · subst ha
    cases call with
    | attach_document document_type file_uuid document_id =>
        intro hopened hrisk
        rw [hopened] at hrisk
        cases hrisk
    | verify_document document_id inspector_id => exact fun d _ => Iff.rfl
  · exact current_of_ne_commit ha

/-! ## 6. Every run -/

/-- A case as `open_for_shipment` left it, and a request for each thread. -/
def opened_for {ι : Type*} (case_id : Uuid) (shipment_id : String) (requests : ι → Call) :
    Config ι CaseRows Request where
  shared :=
    { case := { id := case_id, shipment_id, status := .OPENED, documents := [] }, outbox := [] }
  locals := fun i => .received (requests i)

theorem holds_opened_for {ι : Type*} (case_id : Uuid) (shipment_id : String)
    (requests : ι → Call) :
    Holds Consistent (fun rows (_ : ι) k => k.Knows rows)
      (opened_for case_id shipment_id requests) :=
  ⟨⟨rfl, rfl, List.nodup_nil⟩, fun _ => trivial⟩

/-- **Concurrent requests on one case, exactly.** In any interleaving of any number of
requests, every committed state keeps what the aggregate promises precisely when every
commit decides on its copy what it would decide on the committed rows. -/
theorem case_requests_kept_iff {ι : Type*} [DecidableEq ι] (case_id : Uuid)
    (shipment_id : String) (requests : ι → Call) (steps : List (ι × RequestStep)) :
    Along (fire request_step) (fun c _ c' => Kept c.shared c'.shared)
        (opened_for case_id shipment_id requests) steps
      ↔ Along (fire request_step) (fun c e _ => Current c.shared (c.locals e.1) e.2)
        (opened_for case_id shipment_id requests) steps := by
  refine request_outline.along_exact Kept ?_ ?_ (holds_opened_for case_id shipment_id requests)
  · intro i rows k a rows' k' h hk hstep hcurrent
    obtain ⟨h', -, hprec⟩ := request_outline.own i rows k a rows' k' h hk hstep hcurrent
    exact ⟨hprec.rank, h'.promised⟩
  · intro i rows k a rows' k' h hk hstep hkept
    exact kept_current h hk hstep hkept

/-- Two documents to file, and an inspector for each. -/
def skewRequests : ℕ → Call
  | 0 => .attach_document (.document_type .COMMERCIAL_INVOICE) (.uuid (.of_byte 21))
      (.of_byte 1)
  | 1 => .attach_document (.document_type .BILL_OF_LADING) (.uuid (.of_byte 22)) (.of_byte 2)
  | 2 => .verify_document (.uuid (.of_byte 1)) (.str "INS-1")
  | _ => .verify_document (.uuid (.of_byte 2)) (.str "INS-2")

/-- The documents are filed one after the other; the two sign-offs overlap. -/
def skewSteps : List (ℕ × RequestStep) :=
  [(0, .find_by_id), (0, .load_documents), (0, .handle), (0, .commit),
    (1, .find_by_id), (1, .load_documents), (1, .handle), (1, .commit),
    (2, .find_by_id), (2, .load_documents), (3, .find_by_id), (3, .load_documents),
    (2, .handle), (3, .handle), (2, .commit)]

/-- Two overlapping sign-offs leave complete paperwork in verification, announced by
nobody. -/
theorem two_sign_offs_not_kept :
    ¬ Along (fire request_step) (fun c _ c' => Kept c.shared c'.shared)
        (opened_for ⟨7, by decide⟩ "SHP-4021" skewRequests) (skewSteps ++ [(3, .commit)]) := by
  intro h
  have hend : (run (fire request_step) (opened_for ⟨7, by decide⟩ "SHP-4021" skewRequests)
      (skewSteps ++ [(3, .commit)])).map
        (fun c => (c.shared.case.status, c.shared.case.has_complete_paperwork, c.shared.outbox))
      = some (.DOCUMENT_VERIFICATION, true, []) := by decide
  obtain ⟨c, hrun, hc⟩ := Option.map_eq_some_iff.mp hend
  obtain ⟨before, -, -, hpromised, -⟩ := along_last (fire request_step) h hrun
  simp only [Prod.mk.injEq] at hc
  rw [hc.1, hc.2.1] at hpromised
  simp at hpromised

end TradeLogistics.Customs
