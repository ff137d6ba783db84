/-
One clearance case, called in any order by anybody.

A history is a case together with the events its calls have returned so far. A call
is one of the two methods with whatever arguments the caller passed, so a run of
calls mixes refusals with accepted ones, duplicate types with new ones, and documents
filed after the case has moved on.

The whole argument is one step: a call on a sound case is either refused, and then
changes nothing, or it develops the case (`Developed`), and the events returned so
far are again the ones the status accounts for.
-/
import TradeLogistics.ClearanceCase

set_option autoImplicit false

namespace TradeLogistics.Customs

open TradeLogistics.PyText TradeLogistics.Runs

/-! ## 1. Calls and histories -/

/-- One call on a case; `document_id` of the first is what `uuid4()` answers. -/
inductive Call where
  | attach_document (document_type file_uuid : Argument) (document_id : Uuid)
  | verify_document (document_id inspector_id : Argument)

/-- What a call makes of a case: the case after it, and the event it returned or the
exception it raised. -/
def Call.perform (call : Call) (c : ClearanceCase) :
    ClearanceCase × Except ClearanceError (Option DocumentVerificationCompleted) :=
  match call with
  | .attach_document document_type file_uuid document_id =>
    let (c, result) := c.attach_document document_type file_uuid document_id
    (c, result.map fun _ => none)
  | .verify_document document_id inspector_id => c.verify_document document_id inspector_id

/-- The event a call returned, if it returned one. -/
def returned (result : Except ClearanceError (Option DocumentVerificationCompleted)) :
    List DocumentVerificationCompleted :=
  match result with
  | .ok (some event) => [event]
  | _ => []

structure History where
  case : ClearanceCase
  events : List DocumentVerificationCompleted

/-- A call is always possible: a refusal is a call too. -/
def History.step (h : History) (call : Call) : Option History :=
  let (c, result) := call.perform h.case
  some { case := c, events := h.events ++ returned result }

/-- What the paperwork of a case says at any point of its history; `opened` is the case
as it was opened. -/
structure Invariant (opened : ClearanceCase) (h : History) : Prop where
  id : h.case.id = opened.id
  shipment_id : h.case.shipment_id = opened.shipment_id
  stage : h.case.status ∈ [AssessmentStatus.OPENED, .DOCUMENT_VERIFICATION, .RISK_ASSESSMENT]
  empty : h.case.status = .OPENED ↔ h.case.documents = []
  outstanding : h.case.status = .DOCUMENT_VERIFICATION → h.case.has_complete_paperwork = false
  complete : h.case.status = .RISK_ASSESSMENT → h.case.has_complete_paperwork = true
  announced : h.events = if h.case.status = .RISK_ASSESSMENT
    then [{ case_id := opened.id.str, shipment_id := opened.shipment_id }] else []
  files : (h.case.documents.map (·.file_uuid)).Nodup
  signed : ∀ d ∈ h.case.documents, d.is_verified = true ↔
    ∃ s, d.verified_by_inspector_id = some s ∧ DocumentRegistryItem.Identified s

/-- What can have happened to a case since: it moved forward or stayed, and its
paperwork developed. -/
def Later (c c' : ClearanceCase) : Prop :=
  c.status.rank ≤ c'.status.rank ∧ Extends c.documents c'.documents

/-! ## 2. One call -/

/-- A refused call leaves the whole case unchanged. -/
theorem perform_error {call : Call} {c : ClearanceCase} {e : ClearanceError}
    (h : (call.perform c).2 = .error e) : (call.perform c).1 = c := by
  cases call with
  | attach_document document_type file_uuid document_id =>
      rcases c.attach_document_cases document_type file_uuid document_id with
        ⟨e', he⟩ | ⟨d, -, -, -, hok⟩
      · simp only [Call.perform, he]
      · simp only [Call.perform, hok, Except.map] at h
        cases h
  | verify_document document_id inspector_id =>
      rcases c.verify_document_cases document_id inspector_id with
        ⟨e', he⟩ | ⟨d, d', -, -, -, ⟨-, hok⟩ | ⟨-, -, hok⟩⟩
      · simp only [Call.perform, he]
      · simp only [Call.perform, hok] at h
        cases h
      · simp only [Call.perform, hok] at h
        cases h

/-- An accepted call develops the case. -/
theorem perform_ok {call : Call} {c : ClearanceCase} (hc : c.Sound)
    {event : Option DocumentVerificationCompleted} (h : (call.perform c).2 = .ok event) :
    ClearanceCase.Developed c (call.perform c).1 event := by
  cases call with
  | attach_document document_type file_uuid document_id =>
      simp only [Call.perform] at h ⊢
      rcases hcall : c.attach_document document_type file_uuid document_id with ⟨c', e | d⟩
      · rw [hcall] at h
        cases h
      · rw [hcall] at h
        cases h
        exact ClearanceCase.attach_document_developed hc hcall
  | verify_document document_id inspector_id =>
      simp only [Call.perform] at h ⊢
      exact ClearanceCase.verify_document_developed hc (Prod.ext rfl h)

/-- The working invariant of a history: the case is sound, it is the one that was
opened, and the events are those its status accounts for. -/
structure Good (opened : ClearanceCase) (h : History) : Prop where
  sound : h.case.Sound
  id : h.case.id = opened.id
  shipment_id : h.case.shipment_id = opened.shipment_id
  announced : h.events = if h.case.status = .RISK_ASSESSMENT
    then [{ case_id := opened.id.str, shipment_id := opened.shipment_id }] else []

/-- A sound case never leaves risk assessment as its paperwork develops. -/
theorem stays_in_assessment {c c' : ClearanceCase} (h : c.Sound) (h' : c'.Sound)
    (hext : Extends c.documents c'.documents) (hc : c.status = .RISK_ASSESSMENT) :
    c'.status = .RISK_ASSESSMENT := by
  rw [h.status, expected_status_assessment] at hc
  rw [h'.status, expected_status_assessment]
  exact hext.covers hc

/-- **One call.** It keeps the working invariant, and the case only moves forward. -/
theorem step_good {opened : ClearanceCase} {h h' : History} {call : Call}
    (hg : Good opened h) (hstep : h.step call = some h') :
    Good opened h' ∧ Later h.case h'.case := by
  simp only [History.step, Option.some.injEq] at hstep
  subst hstep
  cases hresult : (call.perform h.case).2 with
  | error e =>
      have hsame := perform_error hresult
      simp only [returned, List.append_nil, hsame]
      exact ⟨hg, le_rfl, Extends.refl _⟩
  | ok event =>
      have hdev := perform_ok hg.sound hresult
      have hlater : Later h.case (call.perform h.case).1 := by
        refine ⟨?_, hdev.extends_⟩
        rw [hg.sound.status, hdev.sound.status]
        exact expected_status_mono hdev.extends_
      refine ⟨⟨hdev.sound, hdev.id.trans hg.id, hdev.shipment_id.trans hg.shipment_id, ?_⟩,
        hlater⟩
      dsimp only
      rw [hg.announced, hdev.announced]
      by_cases hbefore : h.case.status = .RISK_ASSESSMENT
      · have hafter := stays_in_assessment hg.sound hdev.sound hdev.extends_ hbefore
        simp [hbefore, hafter, returned]
      · by_cases hafter : (call.perform h.case).1.status = .RISK_ASSESSMENT
        · simp [hbefore, hafter, returned, hg.id, hg.shipment_id]
        · simp [hbefore, hafter, returned]

/-! ## 3. Every sequence of calls -/

theorem good_opened {case_id : Uuid} {shipment_id : Argument} {opened : ClearanceCase}
    (h : open_for_shipment case_id shipment_id = .ok opened) : Good opened ⟨opened, []⟩ := by
  have hnew : opened.status = .OPENED ∧ opened.documents = [] := by
    unfold open_for_shipment at h
    cases hs : _validated_shipment_id shipment_id with
    | error e => rw [hs] at h; cases h
    | ok s =>
        rw [hs] at h
        cases h
        exact ⟨rfl, rfl⟩
  obtain ⟨hstatus, hdocuments⟩ := hnew
  refine ⟨⟨?_, ?_, ?_⟩, rfl, rfl, ?_⟩
  · rw [hstatus, hdocuments]
    decide
  · rw [hdocuments]
    exact List.nodup_nil
  · rw [hdocuments]
    intro d hd
    cases hd
  · rw [hstatus, if_neg (by decide)]

/-- The working invariant says everything the claimed one does. -/
theorem Good.invariant {opened : ClearanceCase} {h : History} (hg : Good opened h) :
    Invariant opened h where
  id := hg.id
  shipment_id := hg.shipment_id
  stage := by
    rw [hg.sound.status]
    exact expected_status_undecided _
  empty := by
    rw [hg.sound.status]
    exact expected_status_opened
  outstanding := by
    rw [hg.sound.status, expected_status_verification]
    exact fun hv => hv.2
  complete := by
    rw [hg.sound.status, expected_status_assessment]
    exact fun hc => hc
  announced := hg.announced
  files := hg.sound.files
  signed := hg.sound.items

theorem Later.refl (c : ClearanceCase) : Later c c := ⟨le_rfl, Extends.refl _⟩

theorem Later.trans {a b c : ClearanceCase} (hab : Later a b) (hbc : Later b c) : Later a c :=
  ⟨hab.1.trans hbc.1, hab.2.trans hbc.2⟩

/-- More calls keep the working invariant, and every one of them moves forward. -/
theorem run_good {opened : ClearanceCase} {h h' : History} {calls : List Call}
    (hg : Good opened h) (hrun : run History.step h calls = some h') :
    Good opened h' ∧ Later h.case h'.case := by
  have hkeep : ∀ s call s', Good opened s ∧ Later h.case s.case → s.step call = some s' →
      Good opened s' ∧ Later h.case s'.case := by
    rintro s call s' ⟨hs, hlater⟩ hstep
    obtain ⟨hs', hnext⟩ := step_good hs hstep
    exact ⟨hs', hlater.trans hnext⟩
  exact run_inv History.step hkeep ⟨hg, Later.refl _⟩ hrun

/-- No sequence of calls gets stuck. -/
theorem history_total (h : History) (calls : List Call) :
    ∃ h', run History.step h calls = some h' := by
  induction calls generalizing h with
  | nil => exact ⟨h, rfl⟩
  | cons call calls ih => exact ih _

/-- **The life of a clearance case.** Whatever calls were made on a case since it was
opened, its invariant holds; whatever further calls are made, the case has only moved
forward; and a call that is refused leaves it as it was. -/
theorem clearance_case_history {case_id : Uuid} {shipment_id : Argument}
    {opened : ClearanceCase} (hopen : open_for_shipment case_id shipment_id = .ok opened)
    (calls more : List Call) :
    ∃ h h', run History.step ⟨opened, []⟩ calls = some h
      ∧ run History.step ⟨opened, []⟩ (calls ++ more) = some h'
      ∧ Invariant opened h ∧ Later h.case h'.case
      ∧ ∀ (call : Call) (e : ClearanceError),
        (call.perform h.case).2 = .error e → (call.perform h.case).1 = h.case := by
  obtain ⟨h, hcalls⟩ := history_total ⟨opened, []⟩ calls
  obtain ⟨h', hmore⟩ := history_total h more
  have hg := (run_good (good_opened hopen) hcalls).1
  refine ⟨h, h', hcalls, ?_, hg.invariant, (run_good hg hmore).2, fun _ _ => perform_error⟩
  rw [run_append, hcalls]
  exact hmore

/-- The case of the sample history below, as it was opened. -/
def sampleOpened : ClearanceCase where
  id := .of_byte 7
  shipment_id := "SHP-4021"
  status := .OPENED
  documents := []

/-- Both documents are filed, one under a type spelled in lower case, and signed off;
a blank inspector and a second sign-off are refused on the way. -/
def sampleCalls : List Call :=
  [.verify_document (.uuid (.of_byte 1)) (.str "INS-1"),
    .attach_document (.str " commercial_invoice ") (.uuid (.of_byte 21)) (.of_byte 1),
    .attach_document (.document_type .BILL_OF_LADING) (.uuid (.of_byte 22)) (.of_byte 2),
    .verify_document (.uuid (.of_byte 1)) (.str "  "),
    .verify_document (.uuid (.of_byte 1)) (.str "INS-1"),
    .verify_document (.uuid (.of_byte 1)) (.str "INS-2"),
    .verify_document (.uuid (.of_byte 2)) (.str "INS-2")]

theorem sample_opens :
    open_for_shipment ⟨7, by decide⟩ (.str " SHP-4021 ") = .ok sampleOpened := by rfl

/-- The history of the sample calls, up to the last sign-off and after it. -/
theorem clearance_case_history_sample :
    (∃ h h', run History.step ⟨sampleOpened, []⟩ (sampleCalls.take 6) = some h
      ∧ run History.step ⟨sampleOpened, []⟩ (sampleCalls.take 6 ++ sampleCalls.drop 6) = some h'
      ∧ Invariant sampleOpened h ∧ Later h.case h'.case
      ∧ ∀ (call : Call) (e : ClearanceError),
          (call.perform h.case).2 = .error e → (call.perform h.case).1 = h.case)
    ∧ (run History.step ⟨sampleOpened, []⟩ sampleCalls).map (fun h => (h.case.status, h.events))
      = some (.RISK_ASSESSMENT, [⟨sampleOpened.id.str, "SHP-4021"⟩]) :=
  ⟨clearance_case_history sample_opens (sampleCalls.take 6) (sampleCalls.drop 6), by decide⟩

end TradeLogistics.Customs
