/-
Opening a case: what the customs module does with an announced manifest.

The body of a delivery becomes a command, the command a case, and the case is committed
with the inbox row of the delivery. Two questions are settled here. Does the command
accept what the shipment module announces, though the two share no code? And how many
cases can one shipment have? The answer to the second is the inbox's: nothing looks for
a case of the same shipment, neither the handler nor the table, so what is counted is
the identifiers under which the shipment was announced.

How pydantic strips a string, and the text of its errors, are parameters.
-/
import TradeLogistics.ClearanceCase
import TradeLogistics.Shipment
import TradeLogistics.Consumer

set_option autoImplicit false

namespace TradeLogistics.Customs

open TradeLogistics.PyText TradeLogistics.PyNumber TradeLogistics.PyAsync TradeLogistics.Runs
open TradeLogistics.MessageBus TradeLogistics.Shipments

/-! ## 1. `OpenClearanceCaseCommand` -/

/-- Why a field is refused. -/
inductive FieldErrorType where
  | missing | string_type | string_too_short | string_too_long
  deriving DecidableEq, Repr

structure FieldError where
  field : String
  type : FieldErrorType
  deriving DecidableEq, Repr

/-- What is taken from pydantic. -/
structure Pydantic where
  strip_whitespace : String → String
  error_text : List FieldError → String

/-- A string whose length is within bounds. -/
abbrev BoundedStr (min_length max_length : ℕ) :=
  { s : String // min_length ≤ s.length ∧ s.length ≤ max_length }

/-- One field `name: str = Field(min_length=.., max_length=..)`, with
`str_strip_whitespace`. -/
def str_field (pydantic : Pydantic) (name : String) (min_length max_length : ℕ) (body : Body) :
    Except FieldError (BoundedStr min_length max_length) :=
  match body.lookup name with
  | none => .error ⟨name, .missing⟩
  | some (.str s) =>
    let stripped := pydantic.strip_whitespace s
    if hlong : max_length < stripped.length then .error ⟨name, .string_too_long⟩
    else if hshort : stripped.length < min_length then .error ⟨name, .string_too_short⟩
    else .ok ⟨stripped, Nat.le_of_not_lt hshort, Nat.le_of_not_lt hlong⟩
  | some _ => .error ⟨name, .string_type⟩

structure OpenClearanceCaseCommand where
  shipment_id : BoundedStr 1 64
  commodity_code : BoundedStr 1 16

/-- `OpenClearanceCaseCommand(**body)`: other keys are ignored, and every field that is
refused is reported. -/
def OpenClearanceCaseCommand.of_body (pydantic : Pydantic) (body : Body) :
    Except PyException OpenClearanceCaseCommand :=
  let refused := fun errors => .error ⟨"ValidationError", pydantic.error_text errors, []⟩
  match str_field pydantic "shipment_id" 1 64 body,
    str_field pydantic "commodity_code" 1 16 body with
  | .ok shipment_id, .ok commodity_code => .ok { shipment_id, commodity_code }
  | .error first, .error second => refused [first, second]
  | .error first, .ok _ => refused [first]
  | .ok _, .error second => refused [second]

/-! ## 2. The handler -/

/-- The exception a domain error of the module is. -/
def ClearanceError.exception : ClearanceError → PyException
  | .InvalidShipmentReferenceError detail => ⟨"InvalidShipmentReferenceError", detail, []⟩
  | .InvalidDocumentReferenceError detail => ⟨"InvalidDocumentReferenceError", detail, []⟩
  | .DocumentsNotAttachableError detail => ⟨"DocumentsNotAttachableError", detail, []⟩
  | .DocumentAlreadyAttachedError detail => ⟨"DocumentAlreadyAttachedError", detail, []⟩
  | .DocumentNotFoundError detail => ⟨"DocumentNotFoundError", detail, []⟩
  | .DocumentNotVerifiableError detail => ⟨"DocumentNotVerifiableError", detail, []⟩
  | .DocumentAlreadyVerifiedError detail => ⟨"DocumentAlreadyVerifiedError", detail, []⟩
  | .InvalidInspectorError detail => ⟨"InvalidInspectorError", detail, []⟩

/-- `OpenClearanceCaseHandler.handle`: the case it persists, under the identifier
`CaseId.generate()` answers. -/
def OpenClearanceCaseHandler.handle (command : OpenClearanceCaseCommand) (case_id : Uuid) :
    Except PyException ClearanceCase :=
  match open_for_shipment case_id (.str command.shipment_id.val) with
  | .ok clearance_case => .ok clearance_case
  | .error error => .error error.exception

def SHIPMENT_MANIFEST_FINALIZED : String := "ShipmentManifestFinalized"

def OpenClearanceCaseMessageHandler : MessageHandler where
  path := "modules.customs_clearance.src.features.open_clearance_case"
    ++ ".open_clearance_case_message_handler"
  class_name := "OpenClearanceCaseMessageHandler"
  message_type := SHIPMENT_MANIFEST_FINALIZED
  declared_name := none

/-- `OpenClearanceCaseMessageHandler.handle`: it writes one case. -/
def OpenClearanceCaseMessageHandler.handle (pydantic : Pydantic) : Handling Uuid ClearanceCase :=
  fun _ envelope case_id =>
    match OpenClearanceCaseCommand.of_body pydantic envelope.body with
    | .error error => .error error
    | .ok command => OpenClearanceCaseHandler.handle command case_id

/-- `build_message_handlers`. -/
def build_message_handlers : MessageHandlerRegistry :=
  MessageHandlerRegistry.register [] OpenClearanceCaseMessageHandler

/-- The handlers of the module. -/
def customs_handlers : HandlerSet where
  handlers := [OpenClearanceCaseMessageHandler]
  distinct := by
    intro handler hhandler other hother _
    rw [List.mem_singleton] at hhandler hother
    rw [hhandler, hother]

/-- The shipment a body names, if a case can be opened from it. -/
def named_shipment (pydantic : Pydantic) (body : Body) : Option String :=
  match OpenClearanceCaseCommand.of_body pydantic body with
  | .error _ => none
  | .ok command =>
    let reference := strip command.shipment_id.val
    if reference = "" then none else some reference

/-- **What the handler writes**: a case of the shipment the body names, just opened. It
raises when the body names none. -/
theorem handle_ok_iff {pydantic : Pydantic} {handler : MessageHandler}
    {envelope : MessageEnvelope} {case_id : Uuid} {clearance_case : ClearanceCase} :
    OpenClearanceCaseMessageHandler.handle pydantic handler envelope case_id = .ok clearance_case
      ↔ ∃ shipment_id, named_shipment pydantic envelope.body = some shipment_id
        ∧ clearance_case = { id := case_id, shipment_id, status := .OPENED, documents := [] } := by
  unfold OpenClearanceCaseMessageHandler.handle named_shipment
  cases hcommand : OpenClearanceCaseCommand.of_body pydantic envelope.body with
  | error error => simp
  | ok command =>
      by_cases hblank : strip command.shipment_id.val = ""
      · simp [OpenClearanceCaseHandler.handle, open_for_shipment, _validated_shipment_id,
          Argument.as_str, hblank, bind, Except.bind]
      · simp [OpenClearanceCaseHandler.handle, open_for_shipment, _validated_shipment_id,
          Argument.as_str, hblank, bind, Except.bind, pure, Except.pure, eq_comm]

/-- A field that is accepted holds the stripped string it was given. -/
theorem str_field_eq {pydantic : Pydantic} {name : String} {min_length max_length : ℕ}
    {body : Body} {field : BoundedStr min_length max_length}
    (h : str_field pydantic name min_length max_length body = .ok field) :
    ∃ s, body.lookup name = some (.str s) ∧ field.val = pydantic.strip_whitespace s := by
  unfold str_field at h
  split at h
  · cases h
  · next s hlookup =>
      dsimp only at h
      by_cases hlong : max_length < (pydantic.strip_whitespace s).length
      · rw [dif_pos hlong] at h
        cases h
      · by_cases hshort : (pydantic.strip_whitespace s).length < min_length
        · rw [dif_neg hlong, dif_pos hshort] at h
          cases h
        · rw [dif_neg hlong, dif_neg hshort, Except.ok.injEq] at h
          exact ⟨s, hlookup, by rw [← h]⟩
  · cases h

/-- So the shipment a body names is stripped out of its member `shipment_id`. -/
theorem named_shipment_eq {pydantic : Pydantic} {body : Body} {shipment_id : String}
    (h : named_shipment pydantic body = some shipment_id) :
    ∃ s, body.lookup "shipment_id" = some (.str s)
      ∧ shipment_id = strip (pydantic.strip_whitespace s) := by
  unfold named_shipment OpenClearanceCaseCommand.of_body at h
  cases hfirst : str_field pydantic "shipment_id" 1 64 body with
  | error first =>
      cases hsecond : str_field pydantic "commodity_code" 1 16 body <;>
        rw [hfirst, hsecond] at h <;> cases h
  | ok field =>
      cases hsecond : str_field pydantic "commodity_code" 1 16 body with
      | error second =>
          rw [hfirst, hsecond] at h
          cases h
      | ok code =>
          obtain ⟨s, hlookup, hval⟩ := str_field_eq hfirst
          rw [hfirst, hsecond] at h
          dsimp only at h
          by_cases hblank : strip field.val = ""
          · rw [if_pos hblank] at h
            cases h
          · rw [if_neg hblank, Option.some.injEq] at h
            exact ⟨s, hlookup, by rw [← h, hval]⟩

/-! ## 3. The contract

The two modules share no code: the shipment module normalizes and bounds in its own
classes, the customs module in its command. What makes them agree is that a normalized
code and a canonical identifier are left alone by a strip, and fit. -/

/-- `json.loads` undoes `json.dumps` on a body, whose text is not empty. -/
def Restores (json : JsonModule) (body : Body) : Prop :=
  json.dumps body ≠ [] ∧ json.loads (json.dumps body) = .ok (.object body)

theorem Restores.decode {json : JsonModule} {body : Body} (h : Restores json body) :
    _decode json (json.dumps body) = .ok body := by
  obtain ⟨hne, hloads⟩ := h
  have htext : (json.dumps body).isEmpty = false := by simpa using hne
  unfold _decode
  rw [htext, if_neg (by decide), hloads]

/-- A field takes a string that is stripped already and of a length it admits. -/
theorem str_field_ok {pydantic : Pydantic} {name s : String} {min_length max_length : ℕ}
    {body : Body} (hlookup : body.lookup name = some (.str s))
    (hstripped : pydantic.strip_whitespace s = s) (hmin : min_length ≤ s.length)
    (hmax : s.length ≤ max_length) :
    str_field pydantic name min_length max_length body = .ok ⟨s, hmin, hmax⟩ := by
  unfold str_field
  rw [hlookup]
  dsimp only
  rw [dif_neg (by rw [hstripped]; omega), dif_neg (by rw [hstripped]; omega)]
  simp only [hstripped]

/-- The command accepts an announcement, with the fields it has. -/
theorem of_body_announced {pydantic : Pydantic} {event : ShipmentManifestFinalized}
    (hshipment : pydantic.strip_whitespace event.shipment_id = event.shipment_id)
    (hcode : pydantic.strip_whitespace event.commodity_code = event.commodity_code)
    (hshipment_fits : 1 ≤ event.shipment_id.length ∧ event.shipment_id.length ≤ 64)
    (hcode_fits : 1 ≤ event.commodity_code.length ∧ event.commodity_code.length ≤ 16) :
    OpenClearanceCaseCommand.of_body pydantic event.message.body
      = .ok ⟨⟨event.shipment_id, hshipment_fits⟩, ⟨event.commodity_code, hcode_fits⟩⟩ := by
  have hfirst : str_field pydantic "shipment_id" 1 64 event.message.body
      = .ok ⟨event.shipment_id, hshipment_fits⟩ :=
    str_field_ok rfl hshipment hshipment_fits.1 hshipment_fits.2
  have hsecond : str_field pydantic "commodity_code" 1 16 event.message.body
      = .ok ⟨event.commodity_code, hcode_fits⟩ :=
    str_field_ok rfl hcode hcode_fits.1 hcode_fits.2
  unfold OpenClearanceCaseCommand.of_body
  rw [hfirst, hsecond]

theorem announcement_subscribed :
    "ShipmentManifestFinalized" ∈ build_message_handlers.subscribed_types := by
  decide

/-- What `finalize_manifest` puts into the event it returns. -/
theorem announced_fields {shipment after : Shipment} {manifest : CargoManifest}
    {event : ShipmentManifestFinalized}
    (h : shipment.finalize_manifest manifest = (after, .ok event)) :
    event.shipment_id = shipment.id.str ∧ event.commodity_code = manifest.commodity_code := by
  rcases shipment.finalize_manifest_cases manifest with ⟨error, herror⟩ | ⟨-, -, hok⟩
  · rw [herror] at h
    cases h
  · rw [hok] at h
    cases h
    exact ⟨rfl, rfl⟩

/-- **Producer and consumer agree.** Whatever `finalize_manifest` announces reaches the
customs module as a command with the shipment's identifier and the manifest's code, opens
a case of that shipment, and is of a type the module subscribes to. -/
theorem announcement_opens_its_case (json : JsonModule) (pydantic : Pydantic)
    {total_weight_kg total_volume_cbm commodity_code : Value} {manifest : CargoManifest}
    {shipment after : Shipment} {event : ShipmentManifestFinalized}
    {row : OutboxMessage} {destination : MessageDestination} {message_id : Uuid}
    {created_at : ℕ} (case_id : Uuid)
    (hmade : CargoManifest.make total_weight_kg total_volume_cbm commodity_code = .ok manifest)
    (hfinalized : shipment.finalize_manifest manifest = (after, .ok event))
    (hrow : row = OutboxMessage.schedule event.message destination message_id created_at)
    (hjson : Restores json row.body) (hstrips : ∀ s, pydantic.strip_whitespace s = strip s) :
    row.message_type = IntegrationMessage.declared_type "ShipmentManifestFinalized" none
    ∧ row.message_type ∈ build_message_handlers.subscribed_types
    ∧ ∃ body, _decode json (row.publication json).message.body = .ok body
      ∧ ∃ command, OpenClearanceCaseCommand.of_body pydantic body = .ok command
        ∧ command.shipment_id.val = shipment.id.str
        ∧ command.commodity_code.val = manifest.commodity_code
        ∧ OpenClearanceCaseHandler.handle command case_id
          = .ok { id := case_id, shipment_id := shipment.id.str, status := .OPENED,
                  documents := [] } := by
  obtain ⟨hshipment, hcommodity⟩ := announced_fields hfinalized
  have hid : pydantic.strip_whitespace event.shipment_id = event.shipment_id := by
    rw [hstrips, hshipment, Uuid.strip_str]
  have hcode : pydantic.strip_whitespace event.commodity_code = event.commodity_code := by
    rw [hstrips, hcommodity, CargoManifest.make_code hmade]
  -- the bounds of the consumer hold of what the producer has normalized
  have hid_fits : 1 ≤ event.shipment_id.length ∧ event.shipment_id.length ≤ 64 := by
    rw [hshipment, Uuid.str_length]
    omega
  have hcode_fits : 1 ≤ event.commodity_code.length ∧ event.commodity_code.length ≤ 16 := by
    rw [hcommodity]
    refine ⟨Nat.one_le_iff_ne_zero.mpr fun hzero => ?_, manifest.code_fits⟩
    exact manifest.code_required (String.length_eq_zero_iff.mp hzero)
  have hopened : open_for_shipment case_id (.str event.shipment_id)
      = .ok { id := case_id, shipment_id := shipment.id.str, status := .OPENED,
              documents := [] } := by
    have hreference : _validated_shipment_id (.str event.shipment_id) = .ok shipment.id.str := by
      have hne : shipment.id.str ≠ "" := by
        intro hempty
        have hlength := shipment.id.str_length
        rw [hempty] at hlength
        exact absurd hlength (by decide)
      rw [_validated_shipment_id, Argument.as_str, hshipment]
      simp only [Uuid.strip_str, if_neg hne]
    rw [open_for_shipment, hreference]
    rfl
  have hcommand := of_body_announced hid hcode hid_fits hcode_fits
  subst hrow
  refine ⟨rfl, announcement_subscribed, event.message.body, hjson.decode, _, hcommand, hshipment,
    hcommodity, ?_⟩
  rw [OpenClearanceCaseHandler.handle, hopened]

/-- The text of an object of strings that need no escape. -/
def plain_text (body : Body) : String :=
  let member := fun entry : String × Json => match entry.2 with
    | .str s => "\"" ++ entry.1 ++ "\": \"" ++ s ++ "\""
    | _ => "\"" ++ entry.1 ++ "\": null"
  "\x7b" ++ ", ".intercalate (body.map member) ++ "\x7d"

/-- A `json` that writes such texts, and reads the one of a given body. -/
def plain_json (body : Body) : JsonModule where
  dumps := fun other => (plain_text other).toList.map fun c => UInt8.ofNat c.toNat
  loads := fun bytes =>
    if bytes = (plain_text body).toList.map fun c => UInt8.ofNat c.toNat then .ok (.object body)
    else .error .ValueError

theorem plain_json_restores (body : Body) : Restores (plain_json body) body := by
  refine ⟨fun h => ?_, by simp [plain_json]⟩
  have hlength := congrArg List.length h
  simp [plain_json, plain_text] at hlength

/-- A pydantic that strips as `str.strip` does. -/
def stripping : Pydantic where
  strip_whitespace := strip
  error_text := fun _ => "validation errors"

def cargo : CargoManifest where
  total_weight_kg := ⟨.finite 12500, by decide⟩
  total_volume_cbm := ⟨.finite 68, by decide⟩
  commodity_code := "8471A"
  code_required := by decide
  code_fits := by decide

def draft_shipment : Shipment where
  id := .of_byte 7
  waybill_number := ⟨"MUST-0000042", by decide⟩
  route := ⟨⟨"ESVLC", by decide⟩, ⟨"CNSHA", by decide⟩, [], by decide⟩
  status := .DRAFT
  manifest := none
  exception_reason := none

/-- What the draft announces, whose declared code was in lower case. -/
def announced_event : ShipmentManifestFinalized where
  shipment_id := draft_shipment.id.str
  waybill_number := "MUST-0000042"
  commodity_code := "8471A"

def announced_row : OutboxMessage :=
  OutboxMessage.schedule announced_event.message ⟨"trade-logistics.topic", "shipment"⟩
    (.of_byte 101) 1

theorem announcement_opens_its_case_sample :
    announced_row.message_type ∈ build_message_handlers.subscribed_types
    ∧ ∃ body, _decode (plain_json announced_row.body)
        (announced_row.publication (plain_json announced_row.body)).message.body = .ok body
      ∧ ∃ command, OpenClearanceCaseCommand.of_body stripping body = .ok command
        ∧ command.shipment_id.val = draft_shipment.id.str := by
  have hmade : CargoManifest.make (.float (.finite 12500)) (.float (.finite 68)) (.str " 8471a ")
      = .ok cargo := by rfl
  have hfinalized : draft_shipment.finalize_manifest cargo
      = ({ draft_shipment with manifest := some cargo, status := .READY_FOR_MANIFEST },
        .ok announced_event) := by rfl
  obtain ⟨-, hsubscribed, body, hbody, command, hcommand, hid, -⟩ :=
    announcement_opens_its_case (plain_json announced_row.body) stripping ⟨11, by decide⟩
      hmade hfinalized rfl (plain_json_restores announced_row.body) fun _ => rfl
  exact ⟨hsubscribed, body, hbody, command, hcommand, hid⟩

/-! ## 4. Deliveries -/

section Deliveries

variable {ι : Type*} [DecidableEq ι]

/-- The dispatchers of the module, with their database, and what was delivered so far. -/
structure CustomsState (ι : Type*) where
  config : Config ι (Inbox ι ClearanceCase) (Attempt ClearanceCase)
  delivered : List MessageEnvelope

/-- One statement of one attempt; an attempt starts with a delivery. -/
def customs_step (pydantic : Pydantic) (s : CustomsState ι) (e : ι × AttemptStep Uuid) :
    Option (CustomsState ι) :=
  (fire (attempt_step customs_handlers.handlers (OpenClearanceCaseMessageHandler.handle pydantic))
    s.config e).map fun config => ⟨config, s.delivered ++ e.2.envelope.toList⟩

/-- An empty database, and nothing delivered. -/
def no_cases : CustomsState ι where
  config := idle_dispatchers
  delivered := []

namespace CustomsState

/-- The committed rows of `customs.clearance_cases`. Each was inserted by the handler;
nothing deletes one or assigns its `shipment_id`. -/
def clearance_cases (s : CustomsState ι) : List ClearanceCase :=
  s.config.shared.committed.effects.map Effect.writes

/-- The rows `find_by_shipment_id` selects; it answers the first of them, in the order
the database happens to return them in. -/
def tracking (s : CustomsState ι) (shipment_id : String) : List ClearanceCase :=
  s.clearance_cases.filter fun clearance_case => clearance_case.shipment_id = shipment_id

/-- The deliveries that name a shipment. -/
def naming (s : CustomsState ι) (pydantic : Pydantic) (shipment_id : String) :
    List MessageEnvelope :=
  s.delivered.filter fun envelope => named_shipment pydantic envelope.body = some shipment_id

/-- The identifiers a shipment was announced under, each once. -/
def message_ids (s : CustomsState ι) (pydantic : Pydantic) (shipment_id : String) : List Uuid :=
  ((s.naming pydantic shipment_id).map MessageEnvelope.message_id).dedup

end CustomsState

/-- What every state keeps: effects and rows match, and effects come from deliveries. -/
def CustomsState.Kept (pydantic : Pydantic) (s : CustomsState ι) : Prop :=
  Holds (OneToOne customs_handlers.handlers)
    (fun inbox i attempt => attempt.Knows customs_handlers.handlers inbox i) s.config
  ∧ Holds (Inbox.From (OpenClearanceCaseMessageHandler.handle pydantic) (· ∈ s.delivered))
    (fun _ _ attempt =>
      attempt.From (OpenClearanceCaseMessageHandler.handle pydantic) (· ∈ s.delivered)) s.config

theorem no_cases_kept (pydantic : Pydantic) : (no_cases : CustomsState ι).Kept pydantic :=
  ⟨holds_idle_dispatchers customs_handlers.handlers,
    fun _ heffect => absurd heffect List.not_mem_nil, fun _ => trivial⟩

theorem customs_step_kept {pydantic : Pydantic} {s s' : CustomsState ι}
    {e : ι × AttemptStep Uuid} (hs : s.Kept pydantic) (h : customs_step pydantic s e = some s') :
    s'.Kept pydantic := by
  obtain ⟨config, hfire, rfl⟩ := Option.map_eq_some_iff.mp h
  obtain ⟨hmatched, hinbox, hattempts⟩ := hs
  have hmore : ∀ envelope ∈ s.delivered, envelope ∈ s.delivered ++ e.2.envelope.toList :=
    fun envelope hmem => List.mem_append_left _ hmem
  have hbrought : ∀ envelope ∈ e.2.envelope, envelope ∈ s.delivered ++ e.2.envelope.toList := by
    intro envelope hmem
    exact List.mem_append_right _ (Option.mem_toList.mpr hmem)
  refine ⟨((attempt_outline _ _).fire hmatched hfire trivial).1, ?_⟩
  -- What was delivered only grows, and the step starts from no more than that.
  exact ((origin_outline _ _ (· ∈ s.delivered ++ e.2.envelope.toList)).fire
    ⟨hinbox.mono hmore, fun i => (hattempts i).mono hmore⟩ hfire hbrought).1

omit [DecidableEq ι] in
/-- The identifiers of the effects are all different: there is one handler. -/
theorem effect_ids_nodup {inbox : Inbox ι ClearanceCase}
    (h : OneToOne customs_handlers.handlers inbox) :
    (inbox.committed.effects.map Effect.message_id).Nodup := by
  have hkeys : (inbox.committed.effects.map Effect.key).Nodup := by
    rw [h.paired]
    exact (List.nodup_append.mp h.once).1
  have hkey : inbox.committed.effects.map Effect.key
      = (inbox.committed.effects.map Effect.message_id).map
        fun message_id => (message_id, OpenClearanceCaseMessageHandler.handler_name) := by
    rw [List.map_map]
    refine List.map_congr_left fun effect heffect => ?_
    have hone := List.mem_singleton.mp (h.known effect heffect)
    simp [Effect.key, hone]
  rw [hkey] at hkeys
  exact hkeys.of_map

/-- A shipment has no more cases than identifiers it was announced under. -/
theorem CustomsState.Kept.tracking_le {pydantic : Pydantic} {s : CustomsState ι}
    (h : s.Kept pydantic) (shipment_id : String) :
    (s.tracking shipment_id).length ≤ (s.message_ids pydantic shipment_id).length := by
  obtain ⟨⟨hmatched, -⟩, hinbox, -⟩ := h
  have hids := effect_ids_nodup hmatched
  -- The effects behind the cases counted have identifiers of their own, all delivered.
  let behind := s.config.shared.committed.effects.filter
    fun effect => decide (effect.writes.shipment_id = shipment_id)
  have hlength : (s.tracking shipment_id).length = (behind.map Effect.message_id).length := by
    rw [List.length_map]
    simp only [CustomsState.tracking, CustomsState.clearance_cases, List.filter_map,
      List.length_map, behind]
    rfl
  have hnodup : (behind.map Effect.message_id).Nodup :=
    hids.sublist (List.filter_sublist.map Effect.message_id)
  have hsubset : behind.map Effect.message_id ⊆ s.message_ids pydantic shipment_id := by
    intro message_id hmem
    obtain ⟨effect, heffect, rfl⟩ := List.mem_map.mp hmem
    obtain ⟨hcommitted, hnames⟩ := List.mem_filter.mp heffect
    obtain ⟨envelope, hdelivered, hid, case_id, hhandle⟩ := hinbox effect hcommitted
    obtain ⟨named, hnamed, hcase⟩ := handle_ok_iff.mp hhandle
    have hshipment : named = shipment_id := by
      rw [hcase] at hnames
      exact of_decide_eq_true hnames
    rw [CustomsState.message_ids, List.mem_dedup, List.mem_map]
    refine ⟨envelope, List.mem_filter.mpr ⟨hdelivered, ?_⟩, hid⟩
    rw [hnamed, hshipment, decide_eq_true rfl]
  -- different identifiers, all of them delivered: no more of them than were delivered
  rw [hlength]
  exact (List.subperm_of_subset hnodup hsubset).length_le

omit [DecidableEq ι] in
/-- Deliveries of one identifier count once. -/
theorem CustomsState.message_ids_le_one {pydantic : Pydantic} {s : CustomsState ι}
    {shipment_id : String}
    (hone : ∀ envelope ∈ s.naming pydantic shipment_id,
      ∀ other ∈ s.naming pydantic shipment_id, envelope.message_id = other.message_id) :
    (s.message_ids pydantic shipment_id).length ≤ 1 := by
  rcases hnaming : s.naming pydantic shipment_id with _ | ⟨first, rest⟩
  · simp [CustomsState.message_ids, hnaming]
  · have hfirst : first ∈ s.naming pydantic shipment_id := hnaming ▸ List.mem_cons_self
    have hsubset : s.message_ids pydantic shipment_id ⊆ [first.message_id] := by
      intro message_id hmem
      obtain ⟨envelope, henvelope, rfl⟩ := List.mem_map.mp (List.mem_dedup.mp hmem)
      exact List.mem_singleton.mpr (hone envelope henvelope first hfirst)
    exact (List.subperm_of_subset (List.nodup_dedup _) hsubset).length_le

/-- **One case for each identifier, not for each shipment.** However the deliveries are
handled, a shipment has at most as many cases as there are message identifiers that named
it; so it has at most one when they all bear one identifier. -/
theorem cases_per_identifier (pydantic : Pydantic) (steps : List (ι × AttemptStep Uuid)) :
    Along (customs_step pydantic)
      (fun _ _ s => ∀ shipment_id,
        (s.tracking shipment_id).length ≤ (s.message_ids pydantic shipment_id).length
        ∧ ((∀ envelope ∈ s.naming pydantic shipment_id,
            ∀ other ∈ s.naming pydantic shipment_id, envelope.message_id = other.message_id) →
          (s.tracking shipment_id).length ≤ 1))
      (no_cases : CustomsState ι) steps := by
  have hkept : (no_cases : CustomsState ι).Kept pydantic := no_cases_kept pydantic
  apply along_of_inv (customs_step pydantic) _ hkept
  intro s e s' hs hstep
  have hs' := customs_step_kept hs hstep
  refine ⟨fun shipment_id => ⟨hs'.tracking_le shipment_id, fun hone => ?_⟩, hs'⟩
  exact (hs'.tracking_le shipment_id).trans (CustomsState.message_ids_le_one hone)

end Deliveries

/-- An announcement of one shipment, under an identifier. -/
def announced_as (message_id : Uuid) : MessageEnvelope where
  message_id
  message_type := SHIPMENT_MANIFEST_FINALIZED
  body := [("shipment_id", .str "3468ff71-574c-48f1-8af6-fd889d66eeef"),
    ("waybill_number", .str "MUST-0000006"), ("commodity_code", .str "8471")]
  headers := []

/-- What a dispatcher does with it, up to the commit. -/
def handling_of (message_id case_id : Uuid) : List (Unit × AttemptStep Uuid) :=
  [.start OpenClearanceCaseMessageHandler (announced_as message_id), .was_handled,
    .handle case_id, .record].map fun step => ((), step)

/-- Two announcements of one shipment, under two identifiers, open two cases for it. -/
theorem two_announcements_two_cases :
    ¬ Along (customs_step stripping)
      (fun _ _ s => ∀ shipment_id, (s.tracking shipment_id).length ≤ 1)
      (no_cases : CustomsState Unit)
      (handling_of ⟨1, by decide⟩ ⟨11, by decide⟩ ++ ((), .commit)
        :: handling_of ⟨2, by decide⟩ ⟨12, by decide⟩ ++ [((), .commit)]) := by
  intro h
  obtain ⟨t, hrun, htwo⟩ : ∃ t, run (customs_step stripping) (no_cases : CustomsState Unit)
      (handling_of ⟨1, by decide⟩ ⟨11, by decide⟩ ++ ((), .commit)
        :: handling_of ⟨2, by decide⟩ ⟨12, by decide⟩ ++ [((), .commit)]) = some t
      ∧ (t.tracking "3468ff71-574c-48f1-8af6-fd889d66eeef").length = 2 :=
    ⟨_, rfl, by decide +kernel⟩
  obtain ⟨before, -, hone⟩ := along_last (customs_step stripping) h hrun
  have hle := hone "3468ff71-574c-48f1-8af6-fd889d66eeef"
  omega

end TradeLogistics.Customs
