/-
The `ClearanceCase` aggregate of the customs module, and what any sequence of calls
on one case keeps true.

The methods of the source mutate the aggregate and may raise, so each is a function
from the aggregate to the aggregate **and** an `Except`: the state after a call that
raises is a value here, not something the encoding throws away. That is what makes
"a refused call leaves the case as it was" a statement with content, and it is
checked at the only place where it could fail, `DocumentRegistryItem.verify`, which
mutates an item found inside the collection.

The law behind the whole aggregate is that its status is a function of its
documents, `expected_status`: no paperwork, paperwork outstanding, paperwork
complete. The invariant `Sound` says so, together with what each document keeps.
`declaration_value` and `duty_fee` are not modelled: no method here reads them.
-/
import TradeLogistics.PyText
import TradeLogistics.Runs

set_option autoImplicit false

namespace TradeLogistics.Customs

open TradeLogistics.PyText

/-! ## 1. Enumerations, errors and arguments -/

/-- Lifecycle of a case, in regulatory order. -/
inductive AssessmentStatus where
  | OPENED | DOCUMENT_VERIFICATION | RISK_ASSESSMENT | DUTY_PAYMENT_PENDING | RELEASED | REJECTED
  deriving DecidableEq, Repr

def AssessmentStatus.value : AssessmentStatus → String
  | .OPENED => "Opened"
  | .DOCUMENT_VERIFICATION => "DocumentVerification"
  | .RISK_ASSESSMENT => "RiskAssessment"
  | .DUTY_PAYMENT_PENDING => "DutyPaymentPending"
  | .RELEASED => "Released"
  | .REJECTED => "Rejected"

/-- Position in the regulatory order. -/
def AssessmentStatus.rank : AssessmentStatus → ℕ
  | .OPENED => 0
  | .DOCUMENT_VERIFICATION => 1
  | .RISK_ASSESSMENT => 2
  | .DUTY_PAYMENT_PENDING => 3
  | .RELEASED => 4
  | .REJECTED => 5

/-- Kinds of legal document a case accepts. -/
inductive DocumentType where
  | COMMERCIAL_INVOICE | BILL_OF_LADING
  deriving DecidableEq, Repr

def DocumentType.value : DocumentType → String
  | .COMMERCIAL_INVOICE => "COMMERCIAL_INVOICE"
  | .BILL_OF_LADING => "BILL_OF_LADING"

/-- The members of the enumeration, in definition order. -/
def DocumentType.members : List DocumentType := [.COMMERCIAL_INVOICE, .BILL_OF_LADING]

theorem DocumentType.mem_members (t : DocumentType) : t ∈ DocumentType.members := by
  cases t <;> decide

/-- `REQUIRED_DOCUMENT_TYPES`: every kind of paperwork. -/
def REQUIRED_DOCUMENT_TYPES : List DocumentType := DocumentType.members

/-- `DECIDED_STATUSES`: customs has decided, and the paperwork is closed. -/
def DECIDED_STATUSES : List AssessmentStatus := [.RELEASED, .REJECTED]

/-- The domain exceptions these methods raise, with the detail they carry. -/
inductive ClearanceError where
  | InvalidShipmentReferenceError (detail : String)
  | InvalidDocumentReferenceError (detail : String)
  | DocumentsNotAttachableError (detail : String)
  | DocumentAlreadyAttachedError (detail : String)
  | DocumentNotFoundError (detail : String)
  | DocumentNotVerifiableError (detail : String)
  | DocumentAlreadyVerifiedError (detail : String)
  | InvalidInspectorError (detail : String)
  deriving DecidableEq, Repr

/-- What a caller may pass where the source says `object`: a string, a member of
`DocumentType` (which is a string as well), a `UUID`, or anything else, of which the
methods only ever use the text `str` gives it. -/
inductive Argument where
  | str (s : String)
  | document_type (t : DocumentType)
  | uuid (u : Uuid)
  | other (text : String)
  deriving DecidableEq

/-- `isinstance(value, str)`, with the string. -/
def Argument.as_str : Argument → Option String
  | .str s => some s
  | .document_type t => some t.value
  | .uuid _ => none
  | .other _ => none

/-- `str(value)`, as the messages embed it. -/
def Argument.text : Argument → String
  | .str s => s
  | .document_type t => t.value
  | .uuid u => u.str
  | .other text => text

/-! ## 2. `DocumentRegistryItem` -/

def MAX_INSPECTOR_ID_LENGTH : ℕ := 128

structure DocumentRegistryItem where
  id : Uuid
  document_type : DocumentType
  file_uuid : Uuid
  is_verified : Bool
  verified_by_inspector_id : Option String
  deriving DecidableEq

namespace DocumentRegistryItem

/-- `_validated_type`: a member, or a string that names one once stripped and
upper-cased. -/
def _validated_type (value : Argument) : Except ClearanceError DocumentType :=
  let accepted := ", ".intercalate (DocumentType.members.map DocumentType.value)
  let refused := .error (.InvalidDocumentReferenceError
    s!"'{value.text}' is not a document customs accepts; expected one of {accepted}.")
  match value with
  | .document_type t => .ok t
  | .str s =>
    match DocumentType.members.find? fun t => t.value == upper (strip s) with
    | some t => .ok t
    | none => refused
  | _ => refused

/-- `_validated_file_uuid`. -/
def _validated_file_uuid (value : Argument) : Except ClearanceError Uuid :=
  match value with
  | .uuid u => .ok u
  | _ =>
    match value.as_str with
    | some s =>
      match Uuid.parse (strip s) with
      | some u => .ok u
      | none => .error (.InvalidDocumentReferenceError
          s!"'{value.text}' is not a valid file identifier.")
    | none => .error (.InvalidDocumentReferenceError "The file identifier must be a UUID.")

/-- `_validated_inspector_id`. -/
def _validated_inspector_id (value : Argument) : Except ClearanceError String :=
  match value.as_str with
  | none => .error (.InvalidInspectorError "The inspector identifier must be a string.")
  | some s =>
    let inspector_id := strip s
    if inspector_id = "" then
      .error (.InvalidInspectorError "The inspector identifier is required.")
    else if inspector_id.length > MAX_INSPECTOR_ID_LENGTH then
      .error (.InvalidInspectorError
        s!"The inspector identifier is longer than {MAX_INSPECTOR_ID_LENGTH} characters.")
    else .ok inspector_id

/-- `attach`; `document_id` is what `uuid4()` answers. -/
def attach (document_type file_uuid : Argument) (document_id : Uuid) :
    Except ClearanceError DocumentRegistryItem := do
  let document_type ← _validated_type document_type
  let file_uuid ← _validated_file_uuid file_uuid
  return { id := document_id, document_type, file_uuid, is_verified := false,
           verified_by_inspector_id := none }

/-- `verify`: the item after the call, and how the call ended. -/
def verify (self : DocumentRegistryItem) (inspector_id : Argument) :
    DocumentRegistryItem × Except ClearanceError Unit :=
  let inspector := self.verified_by_inspector_id.getD "None"
  if self.is_verified then
    (self, .error (.DocumentAlreadyVerifiedError
      s!"Document {self.id.str} was already cleared by inspector {inspector}."))
  else match _validated_inspector_id inspector_id with
    | .error e => (self, .error e)
    | .ok inspector_id =>
      let self := { self with verified_by_inspector_id := some inspector_id }
      let self := { self with is_verified := true }
      (self, .ok ())

/-- A stored inspector is non-blank and fits its column. -/
def Identified (inspector_id : String) : Prop :=
  strip inspector_id ≠ "" ∧ inspector_id.length ≤ MAX_INSPECTOR_ID_LENGTH

/-- A document is verified exactly when it carries an identified inspector. -/
def Sound (d : DocumentRegistryItem) : Prop :=
  d.is_verified = true ↔ ∃ s, d.verified_by_inspector_id = some s ∧ Identified s

theorem validated_inspector_id_ok {value : Argument} {s : String}
    (h : _validated_inspector_id value = .ok s) : Identified s := by
  unfold _validated_inspector_id at h
  split at h
  · cases h
  · next raw _ =>
    by_cases hblank : strip raw = ""
    · rw [if_pos hblank] at h
      cases h
    · by_cases hlong : (strip raw).length > MAX_INSPECTOR_ID_LENGTH
      · simp only [if_neg hblank, if_pos hlong] at h
        cases h
      · simp only [if_neg hblank, if_neg hlong, Except.ok.injEq] at h
        subst h
        exact ⟨by rwa [strip_strip], by omega⟩

/-- What an accepted `attach` returns: unverified, and under the identifier given. -/
theorem attach_ok {document_type file_uuid : Argument} {document_id : Uuid}
    {d : DocumentRegistryItem} (h : attach document_type file_uuid document_id = .ok d) :
    d.id = document_id ∧ d.is_verified = false ∧ d.verified_by_inspector_id = none := by
  unfold attach at h
  cases ht : _validated_type document_type with
  | error e => rw [ht] at h; cases h
  | ok t =>
      cases hf : _validated_file_uuid file_uuid with
      | error e => rw [ht, hf] at h; cases h
      | ok f =>
          rw [ht, hf] at h
          cases h
          exact ⟨rfl, rfl, rfl⟩

/-- A refused `verify` leaves the item as it was. -/
theorem verify_error {d d' : DocumentRegistryItem} {inspector_id : Argument} {e : ClearanceError}
    (h : d.verify inspector_id = (d', .error e)) : d' = d := by
  unfold verify at h
  split at h
  · exact (Prod.mk.inj h).1.symm
  · split at h
    · exact (Prod.mk.inj h).1.symm
    · cases (Prod.mk.inj h).2

/-- An accepted `verify` was made on an unverified item and writes the two fields. -/
theorem verify_ok {d d' : DocumentRegistryItem} {inspector_id : Argument}
    (h : d.verify inspector_id = (d', .ok ())) :
    d.is_verified = false ∧ ∃ s, Identified s ∧
      d' = { d with is_verified := true, verified_by_inspector_id := some s } := by
  unfold verify at h
  split at h
  · cases (Prod.mk.inj h).2
  · next hunverified =>
    split at h
    · cases (Prod.mk.inj h).2
    · next s hs =>
      refine ⟨by simpa using hunverified, s, validated_inspector_id_ok hs, ?_⟩
      exact (Prod.mk.inj h).1.symm

theorem sound_of_attach {document_type file_uuid : Argument} {document_id : Uuid}
    {d : DocumentRegistryItem} (h : attach document_type file_uuid document_id = .ok d) :
    d.Sound := by
  obtain ⟨-, hv, hi⟩ := attach_ok h
  simp [Sound, hv, hi]

/-- A sign-off is made by an identified inspector. -/
theorem sound_of_verify {d d' : DocumentRegistryItem} {inspector_id : Argument}
    (h : d.verify inspector_id = (d', .ok ())) : d'.Sound := by
  obtain ⟨-, s, hs, rfl⟩ := verify_ok h
  simp [Sound, hs]

end DocumentRegistryItem

/-! ## 3. `ClearanceCase` -/

/-- The event `DocumentVerificationCompleted`. -/
structure DocumentVerificationCompleted where
  case_id : String
  shipment_id : String
  deriving DecidableEq, Repr

structure ClearanceCase where
  id : Uuid
  shipment_id : String
  status : AssessmentStatus
  documents : List DocumentRegistryItem
  deriving DecidableEq

/-- `_validated_shipment_id`. -/
def _validated_shipment_id (value : Argument) : Except ClearanceError String :=
  match value.as_str with
  | none => .error (.InvalidShipmentReferenceError "The shipment reference must be a string.")
  | some s =>
    let reference := strip s
    if reference = "" then
      .error (.InvalidShipmentReferenceError "The shipment reference is required.")
    else .ok reference

/-- `open_for_shipment`. -/
def open_for_shipment (case_id : Uuid) (shipment_id : Argument) :
    Except ClearanceError ClearanceCase := do
  let shipment_id ← _validated_shipment_id shipment_id
  return { id := case_id, shipment_id, status := .OPENED, documents := [] }

/-- The kinds of document some inspector cleared, among the documents given. -/
def cleared_types (documents : List DocumentRegistryItem) : List DocumentType :=
  (documents.filter (·.is_verified)).map (·.document_type)

/-- Every required kind of document is among the kinds given. -/
def covers_required (cleared : List DocumentType) : Bool :=
  REQUIRED_DOCUMENT_TYPES.all fun t => cleared.contains t

namespace ClearanceCase

def has_complete_paperwork (self : ClearanceCase) : Bool :=
  covers_required (cleared_types self.documents)

def holds_file (self : ClearanceCase) (file_uuid : Uuid) : Bool :=
  self.documents.any fun document => document.file_uuid == file_uuid

/-- `find_document`: only a `UUID` can equal the identifier of a document. -/
def find_document (self : ClearanceCase) (document_id : Argument) :
    Option DocumentRegistryItem :=
  self.documents.find? fun document => Argument.uuid document.id == document_id

/-- The collection after the item `find_document` returned was mutated in place: the
first item under that identifier is the one it found. -/
def store_document (item : DocumentRegistryItem) :
    List DocumentRegistryItem → List DocumentRegistryItem
  | [] => []
  | d :: ds => if d.id = item.id then item :: ds else d :: store_document item ds

/-- `attach_document`; `document_id` is what `uuid4()` answers. -/
def attach_document (self : ClearanceCase) (document_type file_uuid : Argument)
    (document_id : Uuid) : ClearanceCase × Except ClearanceError DocumentRegistryItem :=
  if self.status ∈ DECIDED_STATUSES then
    (self, .error (.DocumentsNotAttachableError
      s!"Case {self.id.str} is already {self.status.value}; its paperwork is closed."))
  else match DocumentRegistryItem.attach document_type file_uuid document_id with
    | .error e => (self, .error e)
    | .ok document =>
      if self.holds_file document.file_uuid then
        (self, .error (.DocumentAlreadyAttachedError
          s!"File {document.file_uuid.str} is already attached to case {self.id.str}."))
      else
        let self := { self with documents := self.documents ++ [document] }
        let self :=
          if self.status = .OPENED then { self with status := .DOCUMENT_VERIFICATION } else self
        (self, .ok document)

/-- `verify_document`: the event when the sign-off completes the paperwork. -/
def verify_document (self : ClearanceCase) (document_id inspector_id : Argument) :
    ClearanceCase × Except ClearanceError (Option DocumentVerificationCompleted) :=
  if self.status ∈ DECIDED_STATUSES then
    (self, .error (.DocumentNotVerifiableError
      (s!"Case {self.id.str} is already {self.status.value}; its documents can no "
        ++ "longer be cleared.")))
  else match self.find_document document_id with
    | none => (self, .error (.DocumentNotFoundError
        s!"No document matches the identifier '{document_id.text}' on case {self.id.str}."))
    | some document =>
      match document.verify inspector_id with
      | (document, .error e) =>
        ({ self with documents := store_document document self.documents }, .error e)
      | (document, .ok ()) =>
        let self := { self with documents := store_document document self.documents }
        if self.status ≠ .DOCUMENT_VERIFICATION then (self, .ok none)
        else if !self.has_complete_paperwork then (self, .ok none)
        else
          let self := { self with status := .RISK_ASSESSMENT }
          (self, .ok (some { case_id := self.id.str, shipment_id := self.shipment_id }))

/-! ## 4. What one call can do

One inversion lemma for each method. Everything proved about the aggregate, here and
where several requests share it, starts from these two and never unfolds a method. -/

/-- The item found is the first one, or the first bears another id and the item is found
behind it. -/
theorem find_document_cons {x d : DocumentRegistryItem} {xs : List DocumentRegistryItem}
    {document_id : Argument}
    (h : (x :: xs).find? (fun document => Argument.uuid document.id == document_id) = some d) :
    x = d ∨ (x.id ≠ d.id
      ∧ xs.find? (fun document => Argument.uuid document.id == document_id) = some d) := by
  rw [List.find?_cons] at h
  by_cases hx : (Argument.uuid x.id == document_id) = true
  · rw [hx] at h
    exact .inl (Option.some.inj h)
  · simp only [hx] at h
    have hd : Argument.uuid d.id = document_id := by simpa using List.find?_some h
    refine .inr ⟨fun he => hx ?_, h⟩
    rw [he, hd]
    exact beq_self_eq_true document_id

/-- Mutating the item that was found without changing it changes nothing. -/
theorem store_document_found {self : ClearanceCase} {document_id : Argument}
    {d : DocumentRegistryItem} (h : self.find_document document_id = some d) :
    store_document d self.documents = self.documents := by
  unfold find_document at h
  generalize self.documents = ds at h ⊢
  induction ds with
  | nil => cases h
  | cons x xs ih =>
      rw [store_document]
      rcases find_document_cons h with rfl | ⟨hne, h⟩
      · rw [if_pos rfl]
      · rw [if_neg hne, ih h]

theorem store_document_length (item : DocumentRegistryItem) (ds : List DocumentRegistryItem) :
    (store_document item ds).length = ds.length := by
  induction ds with
  | nil => rfl
  | cons x xs ih =>
      rw [store_document]
      split
      · rfl
      · rw [List.length_cons, List.length_cons, ih]

/-- **`attach_document`.** A refused call changes nothing; an accepted one was made on
an undecided case not holding the file, appends the new item, and moves an opened case
to verification. -/
theorem attach_document_cases (self : ClearanceCase) (document_type file_uuid : Argument)
    (document_id : Uuid) :
    (∃ e, self.attach_document document_type file_uuid document_id = (self, .error e)) ∨
    (∃ d, DocumentRegistryItem.attach document_type file_uuid document_id = .ok d
      ∧ self.status ∉ DECIDED_STATUSES ∧ self.holds_file d.file_uuid = false
      ∧ self.attach_document document_type file_uuid document_id
        = ({ self with
              documents := self.documents ++ [d]
              status := if self.status = .OPENED then .DOCUMENT_VERIFICATION else self.status },
            .ok d)) := by
  unfold attach_document
  by_cases hdecided : self.status ∈ DECIDED_STATUSES
  · exact .inl ⟨_, by rw [if_pos hdecided]⟩
  · rw [if_neg hdecided]
    cases hattach : DocumentRegistryItem.attach document_type file_uuid document_id with
    | error e => exact .inl ⟨e, rfl⟩
    | ok d =>
        dsimp only
        -- the item is valid; what is left is whether its file is filed already
        by_cases hholds : self.holds_file d.file_uuid = true
        · exact .inl ⟨_, by rw [if_pos hholds]⟩
        · refine .inr ⟨d, rfl, hdecided, by simpa using hholds, ?_⟩
          rw [if_neg hholds]
          split <;> rfl

/-- **`verify_document`.** A refused call changes nothing; an accepted one signs off the
item it found, and then either the case stays where it is, because it is not in
verification or its paperwork is still outstanding, or it leaves verification with the
event. -/
theorem verify_document_cases (self : ClearanceCase) (document_id inspector_id : Argument) :
    (∃ e, self.verify_document document_id inspector_id = (self, .error e)) ∨
    (∃ d d', self.find_document document_id = some d ∧ d.verify inspector_id = (d', .ok ())
      ∧ self.status ∉ DECIDED_STATUSES
      ∧ (((self.status ≠ .DOCUMENT_VERIFICATION
            ∨ covers_required (cleared_types (store_document d' self.documents)) = false)
          ∧ self.verify_document document_id inspector_id
            = ({ self with documents := store_document d' self.documents }, .ok none))
        ∨ (self.status = .DOCUMENT_VERIFICATION
          ∧ covers_required (cleared_types (store_document d' self.documents)) = true
          ∧ self.verify_document document_id inspector_id
            = ({ self with
                  documents := store_document d' self.documents, status := .RISK_ASSESSMENT },
                .ok (some { case_id := self.id.str, shipment_id := self.shipment_id }))))) := by
  unfold verify_document
  by_cases hdecided : self.status ∈ DECIDED_STATUSES
  · exact .inl ⟨_, by rw [if_pos hdecided]⟩
  · rw [if_neg hdecided]
    cases hfind : self.find_document document_id with
    | none => exact .inl ⟨_, rfl⟩
    | some d =>
        dsimp only
        rcases hverify : d.verify inspector_id with ⟨d', _ | ⟨⟨⟩⟩⟩
        · -- a refused sign-off left the item as it was, so storing it changes nothing
          next e =>
          refine .inl ⟨e, ?_⟩
          dsimp only
          rw [DocumentRegistryItem.verify_error hverify, store_document_found hfind]
        · refine .inr ⟨d, d', rfl, hverify, hdecided, ?_⟩
          dsimp only
          by_cases hstatus : self.status = .DOCUMENT_VERIFICATION
          · rw [if_neg (not_not.mpr hstatus)]
            by_cases hcover : covers_required (cleared_types (store_document d' self.documents))
                = true
            · refine .inr ⟨hstatus, hcover, ?_⟩
              rw [if_neg (by simpa [has_complete_paperwork] using hcover)]
            · refine .inl ⟨.inr (by simpa using hcover), ?_⟩
              rw [if_pos (by simpa [has_complete_paperwork] using hcover)]
          · exact .inl ⟨.inl hstatus, by rw [if_pos hstatus]⟩

end ClearanceCase

/-! ## 5. The paperwork as a whole

`Extends` is the order in which a case's documents may develop: items are appended,
an item only ever goes from unverified to verified, and nothing else about it moves.
The kinds cleared only grow along it, which is why completeness is never lost. -/

/-- What a later version of an item keeps: what it is, and the sign-off once made. -/
def Keeps (d d' : DocumentRegistryItem) : Prop :=
  d'.id = d.id ∧ d'.document_type = d.document_type ∧ d'.file_uuid = d.file_uuid
    ∧ (d.is_verified = true → d' = d)

/-- A later version of a collection: the items there, in their places, then new ones. -/
inductive Extends : List DocumentRegistryItem → List DocumentRegistryItem → Prop where
  | filed (ds : List DocumentRegistryItem) : Extends [] ds
  | kept {d d' : DocumentRegistryItem} {ds ds' : List DocumentRegistryItem} :
      Keeps d d' → Extends ds ds' → Extends (d :: ds) (d' :: ds')

theorem Keeps.refl (d : DocumentRegistryItem) : Keeps d d := ⟨rfl, rfl, rfl, fun _ => rfl⟩

theorem Keeps.trans {a b c : DocumentRegistryItem} (hab : Keeps a b) (hbc : Keeps b c) :
    Keeps a c := by
  obtain ⟨hid, htype, hfile, hsigned⟩ := hab
  refine ⟨hbc.1.trans hid, hbc.2.1.trans htype, hbc.2.2.1.trans hfile, fun hv => ?_⟩
  have hba : b = a := hsigned hv
  rw [← hba] at hv ⊢
  exact hbc.2.2.2 hv

theorem Extends.append (ds filed : List DocumentRegistryItem) : Extends ds (ds ++ filed) := by
  induction ds with
  | nil => exact .filed filed
  | cons d ds ih => exact .kept (Keeps.refl d) ih

theorem Extends.refl (ds : List DocumentRegistryItem) : Extends ds ds := by
  simpa using Extends.append ds []

theorem Extends.trans {as bs cs : List DocumentRegistryItem} (hab : Extends as bs)
    (hbc : Extends bs cs) : Extends as cs := by
  induction hab generalizing cs with
  | filed _ => exact .filed cs
  | kept hd _ ih =>
      cases hbc with
      | kept hd' hrest => exact .kept (hd.trans hd') (ih hrest)

theorem mem_cleared_types {ds : List DocumentRegistryItem} {t : DocumentType} :
    t ∈ cleared_types ds ↔ ∃ d ∈ ds, d.is_verified = true ∧ d.document_type = t := by
  simp only [cleared_types, List.mem_map, List.mem_filter]
  constructor
  · rintro ⟨d, ⟨hd, hv⟩, ht⟩
    exact ⟨d, hd, hv, ht⟩
  · rintro ⟨d, hd, hv, ht⟩
    exact ⟨d, ⟨hd, hv⟩, ht⟩

theorem covers_required_iff {cleared : List DocumentType} :
    covers_required cleared = true ↔ ∀ t, t ∈ cleared := by
  simp only [covers_required, List.all_eq_true, List.contains_iff_mem]
  exact ⟨fun h t => h t t.mem_members, fun h t _ => h t⟩

/-- A verified item is still there, unchanged, in every later version. -/
theorem Extends.mem_verified {ds ds' : List DocumentRegistryItem} (h : Extends ds ds')
    {d : DocumentRegistryItem} (hd : d ∈ ds) (hv : d.is_verified = true) : d ∈ ds' := by
  induction h with
  | filed _ => cases hd
  | kept hk _ ih =>
      rcases List.mem_cons.mp hd with rfl | htail
      · rw [← hk.2.2.2 hv]
        exact List.mem_cons_self
      · exact List.mem_cons_of_mem _ (ih htail)

/-- A later version of the same length points at the same files. -/
theorem Extends.file_uuids {ds ds' : List DocumentRegistryItem} (h : Extends ds ds')
    (hlen : ds'.length = ds.length) :
    ds'.map (·.file_uuid) = ds.map (·.file_uuid) := by
  induction h with
  | filed ds =>
      rw [List.length_nil, List.length_eq_zero_iff] at hlen
      rw [hlen]
  | kept hk _ ih =>
      rw [List.length_cons, List.length_cons, Nat.add_right_cancel_iff] at hlen
      rw [List.map_cons, List.map_cons, hk.2.2.1, ih hlen]

/-- Completeness is never lost. -/
theorem Extends.covers {ds ds' : List DocumentRegistryItem} (h : Extends ds ds')
    (hc : covers_required (cleared_types ds) = true) :
    covers_required (cleared_types ds') = true := by
  rw [covers_required_iff] at hc ⊢
  intro t
  obtain ⟨d, hd, hv, ht⟩ := mem_cleared_types.mp (hc t)
  exact mem_cleared_types.mpr ⟨d, h.mem_verified hd hv, hv, ht⟩

open ClearanceCase in
/-- Storing a newly signed-off item over the one that was found is a later version. -/
theorem extends_store_document {ds : List DocumentRegistryItem} {d d' : DocumentRegistryItem}
    {document_id : Argument}
    (hfind : ds.find? (fun document => Argument.uuid document.id == document_id) = some d)
    (hk : Keeps d d') : Extends ds (store_document d' ds) := by
  induction ds with
  | nil => cases hfind
  | cons x xs ih =>
      rw [store_document, hk.1]
      rcases find_document_cons hfind with rfl | ⟨hne, hfind⟩
      · rw [if_pos rfl]
        exact .kept hk (Extends.refl _)
      · rw [if_neg hne]
        exact .kept (Keeps.refl x) (ih hfind)

theorem keeps_verify {d d' : DocumentRegistryItem} {inspector_id : Argument}
    (h : d.verify inspector_id = (d', .ok ())) : Keeps d d' := by
  obtain ⟨hv, s, -, rfl⟩ := DocumentRegistryItem.verify_ok h
  exact ⟨rfl, rfl, rfl, fun hd => by rw [hv] at hd; cases hd⟩

/-! ## 6. The invariant of the aggregate -/

/-- What the aggregate is for: the stage a case is in says how its paperwork stands. -/
def expected_status (documents : List DocumentRegistryItem) : AssessmentStatus :=
  if documents = [] then .OPENED
  else if covers_required (cleared_types documents) then .RISK_ASSESSMENT
  else .DOCUMENT_VERIFICATION

structure ClearanceCase.Sound (c : ClearanceCase) : Prop where
  status : c.status = expected_status c.documents
  files : (c.documents.map (·.file_uuid)).Nodup
  items : ∀ d ∈ c.documents, d.Sound

theorem expected_status_undecided (ds : List DocumentRegistryItem) :
    expected_status ds ∈ [AssessmentStatus.OPENED, .DOCUMENT_VERIFICATION, .RISK_ASSESSMENT] := by
  unfold expected_status
  split_ifs <;> decide

theorem expected_status_opened {ds : List DocumentRegistryItem} :
    expected_status ds = .OPENED ↔ ds = [] := by
  unfold expected_status
  split_ifs with h <;> simp [h]

/-- A case is in risk assessment exactly when its paperwork is complete: an empty
collection is never complete. -/
theorem expected_status_assessment {ds : List DocumentRegistryItem} :
    expected_status ds = .RISK_ASSESSMENT ↔ covers_required (cleared_types ds) = true := by
  unfold expected_status
  split_ifs with hnil hcover
  · subst hnil
    decide
  · simp [hcover]
  · simp [hcover]

theorem expected_status_verification {ds : List DocumentRegistryItem} :
    expected_status ds = .DOCUMENT_VERIFICATION ↔
      ds ≠ [] ∧ covers_required (cleared_types ds) = false := by
  unfold expected_status
  split_ifs with hnil hcover
  · simp [hnil]
  · simp [hcover]
  · simp [hnil, hcover]

/-- Filing an unverified item starts verification and otherwise changes no stage. -/
theorem expected_status_append {ds : List DocumentRegistryItem} {d : DocumentRegistryItem}
    (hd : d.is_verified = false) :
    expected_status (ds ++ [d])
      = if expected_status ds = .OPENED then .DOCUMENT_VERIFICATION else expected_status ds := by
  have hcleared : cleared_types (ds ++ [d]) = cleared_types ds := by
    simp [cleared_types, List.filter_append, hd]
  by_cases hnil : ds = []
  · subst hnil
    rw [if_pos (expected_status_opened.mpr rfl), expected_status_verification, hcleared]
    exact ⟨by simp, by decide⟩
  · rw [if_neg (mt expected_status_opened.mp hnil)]
    simp [expected_status, hcleared, hnil]

/-- The stage never moves backwards as the paperwork develops. -/
theorem expected_status_mono {ds ds' : List DocumentRegistryItem} (h : Extends ds ds') :
    (expected_status ds).rank ≤ (expected_status ds').rank := by
  by_cases hnil : ds = []
  · rw [expected_status_opened.mpr hnil]
    exact Nat.zero_le _
  · by_cases hcover : covers_required (cleared_types ds) = true
    · rw [expected_status_assessment.mpr hcover, expected_status_assessment.mpr (h.covers hcover)]
    · have hne' : expected_status ds' ≠ .OPENED := by
        rw [ne_eq, expected_status_opened]
        rintro rfl
        cases h
        exact hnil rfl
      rw [expected_status_verification.mpr ⟨hnil, by simpa using hcover⟩]
      have hmem := expected_status_undecided ds'
      simp only [List.mem_cons, List.not_mem_nil, or_false] at hmem
      rcases hmem with h | h | h
      · exact absurd h hne'
      · rw [h]
      · rw [h]
        decide

namespace ClearanceCase

theorem Sound.undecided {c : ClearanceCase} (h : c.Sound) :
    c.status ∉ DECIDED_STATUSES := by
  have hmem := expected_status_undecided c.documents
  rw [← h.status] at hmem
  revert hmem
  cases c.status <;> decide

/-- What one accepted or refused call does to a sound case: it stays sound, keeps its
identity, its paperwork develops, and an event is returned exactly by the call that
reaches risk assessment. -/
structure Developed (c c' : ClearanceCase)
    (event : Option DocumentVerificationCompleted) : Prop where
  sound : c'.Sound
  id : c'.id = c.id
  shipment_id : c'.shipment_id = c.shipment_id
  extends_ : Extends c.documents c'.documents
  announced : event = if c.status ≠ .RISK_ASSESSMENT ∧ c'.status = .RISK_ASSESSMENT
    then some { case_id := c.id.str, shipment_id := c.shipment_id } else none

/-- An accepted `attach_document` on a sound case. -/
theorem attach_document_developed {c : ClearanceCase} (h : c.Sound)
    {document_type file_uuid : Argument} {document_id : Uuid} {c' : ClearanceCase}
    {d : DocumentRegistryItem}
    (hcall : c.attach_document document_type file_uuid document_id = (c', .ok d)) :
    Developed c c' none := by
  rcases attach_document_cases c document_type file_uuid document_id with
    ⟨e, he⟩ | ⟨d₁, hattach, -, hholds, hok⟩
  · rw [he] at hcall
    cases hcall
  · rw [hok] at hcall
    cases hcall
    obtain ⟨-, hunverified, -⟩ := DocumentRegistryItem.attach_ok hattach
    have hstatus : expected_status (c.documents ++ [d]) = _ := expected_status_append hunverified
    have hfresh : d.file_uuid ∉ c.documents.map (·.file_uuid) := by
      simp only [holds_file, List.any_eq_false, beq_iff_eq] at hholds
      rintro hmem
      obtain ⟨x, hx, hxf⟩ := List.mem_map.mp hmem
      exact hholds x hx hxf
    refine ⟨⟨?_, ?_, ?_⟩, rfl, rfl, Extends.append _ [d], ?_⟩
    · dsimp only
      rw [hstatus, ← h.status]
    · rw [List.map_append, List.nodup_append]
      refine ⟨h.files, List.nodup_singleton _, ?_⟩
      intro a ha b hb hab
      simp only [List.map_cons, List.map_nil, List.mem_singleton] at hb
      exact hfresh (hb ▸ hab ▸ ha)
    · intro x hx
      rcases List.mem_append.mp hx with hx | hx
      · exact h.items x hx
      · rw [List.mem_singleton.mp hx]
        exact DocumentRegistryItem.sound_of_attach hattach
    · -- an attachment never brings a case into assessment, so it announces nothing
      dsimp only
      rw [if_neg]
      rintro ⟨hne, heq⟩
      by_cases hopened : c.status = .OPENED
      · rw [if_pos hopened] at heq
        cases heq
      · rw [if_neg hopened] at heq
        exact hne heq

/-- Signing an item off keeps what the items say about themselves, and where they are. -/
theorem items_store_document {ds : List DocumentRegistryItem} {d' : DocumentRegistryItem}
    (hd' : d'.Sound) (h : ∀ d ∈ ds, d.Sound) : ∀ d ∈ store_document d' ds, d.Sound := by
  induction ds with
  | nil =>
      intro d hd
      cases hd
  | cons x xs ih =>
      rw [List.forall_mem_cons] at h
      rw [store_document]
      by_cases hx : x.id = d'.id
      · rw [if_pos hx, List.forall_mem_cons]
        exact ⟨hd', h.2⟩
      · rw [if_neg hx, List.forall_mem_cons]
        exact ⟨h.1, ih h.2⟩

/-- An accepted `verify_document` on a sound case. The document signed off was filed, so
the case is not opened: what is left is whether the paperwork was complete before. -/
theorem verify_document_developed {c : ClearanceCase} (h : c.Sound)
    {document_id inspector_id : Argument} {c' : ClearanceCase}
    {event : Option DocumentVerificationCompleted}
    (hcall : c.verify_document document_id inspector_id = (c', .ok event)) :
    Developed c c' event := by
  rcases verify_document_cases c document_id inspector_id with
    ⟨e, he⟩ | ⟨d, d', hfind, hverify, -, hcases⟩
  · rw [he] at hcall
    cases hcall
  · have hext : Extends c.documents (store_document d' c.documents) :=
      extends_store_document hfind (keeps_verify hverify)
    have hitems : ∀ x ∈ store_document d' c.documents, x.Sound :=
      items_store_document (DocumentRegistryItem.sound_of_verify hverify) h.items
    have hfiles : ((store_document d' c.documents).map (·.file_uuid)).Nodup := by
      rw [hext.file_uuids (store_document_length d' c.documents)]
      exact h.files
    have hfiled : c.documents ≠ [] := by
      intro hnil
      rw [find_document, hnil] at hfind
      cases hfind
    have hfiled' : store_document d' c.documents ≠ [] := by
      intro hnil
      have hlen := store_document_length d' c.documents
      rw [hnil] at hlen
      exact hfiled (List.length_eq_zero_iff.mp hlen.symm)
    rcases hcases with ⟨hstay, hok⟩ | ⟨hstatus, hcover, hok⟩
    · rw [hok] at hcall
      cases hcall
      refine ⟨⟨?_, hfiles, hitems⟩, rfl, rfl, hext, ?_⟩
      · dsimp only
        -- complete before, it is in assessment and stays; else it is in verification
        by_cases hcomplete : covers_required (cleared_types c.documents) = true
        · rw [h.status, expected_status_assessment.mpr hcomplete,
            expected_status_assessment.mpr (hext.covers hcomplete)]
        · have hv : c.status = .DOCUMENT_VERIFICATION :=
            h.status.trans (expected_status_verification.mpr ⟨hfiled, by simpa using hcomplete⟩)
          have hout : covers_required (cleared_types (store_document d' c.documents)) = false :=
            hstay.resolve_left (not_not.mpr hv)
          rw [hv, expected_status_verification.mpr ⟨hfiled', hout⟩]
      · dsimp only
        rw [if_neg]
        exact fun hc => hc.1 hc.2
    · rw [hok] at hcall
      cases hcall
      refine ⟨⟨?_, hfiles, hitems⟩, rfl, rfl, hext, ?_⟩
      · dsimp only
        rw [expected_status_assessment.mpr hcover]
      · dsimp only
        rw [if_pos ⟨by rw [hstatus]; decide, rfl⟩]

end ClearanceCase

end TradeLogistics.Customs
