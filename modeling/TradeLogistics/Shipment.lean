/-
The `Shipment` aggregate and the value objects it is made of.

Each value object normalizes what it is given and refuses what it cannot normalize, so
its type here carries the normalized form with the proof that it is one: a
`CargoManifest` is never negative and never without a code, a `ShipmentRoute` never
calls at a port twice. The constructors of the source are the functions called `make`,
and they are the only way in.

A loaded aggregate is rebuilt from its row through the same constructors
(`from_row`), and a flush writes back, column by column, what the session assigned.
-/
import TradeLogistics.PyNumber
import TradeLogistics.Messages
import TradeLogistics.UnitOfWork

set_option autoImplicit false

namespace TradeLogistics.Shipments

open TradeLogistics.PyText TradeLogistics.PyNumber TradeLogistics.UnitOfWork
open TradeLogistics.MessageBus

/-! ## 1. Errors -/

/-- The domain exceptions of the module with their detail, and the one error of the
language a constructor lets through. -/
inductive ShipmentError where
  | InvalidShipmentIdError (detail : String)
  | InvalidWaybillNumberError (detail : String)
  | InvalidCargoManifestError (detail : String)
  | InvalidShipmentRouteError (detail : String)
  | RouteNotModifiableError (detail : String)
  | ManifestNotFinalizableError (detail : String)
  | ShipmentNotFoundError (detail : String)
  | OverflowError (detail : String)
  deriving DecidableEq, Repr

/-! ## 2. `CargoManifest` -/

def MAX_COMMODITY_CODE_LENGTH : ℕ := 16

/-- A figure that is not below zero. -/
abbrev Figure := { x : PyFloat // x.lt (.finite 0) = false }

@[ext]
structure CargoManifest where
  total_weight_kg : Figure
  total_volume_cbm : Figure
  commodity_code : String
  code_required : commodity_code ≠ ""
  code_fits : commodity_code.length ≤ MAX_COMMODITY_CODE_LENGTH

instance : DecidableEq CargoManifest := fun _ _ => decidable_of_iff _ CargoManifest.ext_iff.symm

/-- The conversion of an `int` keeps its sign. -/
theorem float_of_int_lt {n : ℤ} {x : PyFloat} (hn : ¬ n < 0) (h : float_of_int n = some x) :
    x.lt (.finite 0) = false := by
  unfold float_of_int at h
  by_cases hmax : 2 ^ 1024 ≤ nearestDouble n.natAbs
  · rw [if_pos hmax] at h
    cases h
  · rw [if_neg hmax, if_neg hn, Option.some.injEq] at h
    subst h
    simp [PyFloat.lt]

namespace CargoManifest

/-- `_validated_measure`: a `bool` is an `int`, and is refused all the same. -/
def _validated_measure (value : Value) (label : String) : Except ShipmentError Figure :=
  match value with
  | .int n =>
    if hn : n < 0 then .error (.InvalidCargoManifestError s!"The {label} cannot be negative.")
    else match h : float_of_int n with
      | some x => .ok ⟨x, float_of_int_lt hn h⟩
      | none => .error (.OverflowError "int too large to convert to float")
  | .float x =>
    if h : x.lt (.finite 0) = false then .ok ⟨x, h⟩
    else .error (.InvalidCargoManifestError s!"The {label} cannot be negative.")
  | _ => .error (.InvalidCargoManifestError s!"The {label} must be a number.")

/-- The rest of `__post_init__`: the commodity code, stripped and in upper case. -/
def _validated_code (value : Value) :
    Except ShipmentError { s : String // s ≠ "" ∧ s.length ≤ MAX_COMMODITY_CODE_LENGTH } :=
  match value with
  | .str s =>
    let code := upper (strip s)
    if hcode : code = "" then
      .error (.InvalidCargoManifestError "The commodity code is required.")
    else if hlong : code.length > MAX_COMMODITY_CODE_LENGTH then
      .error (.InvalidCargoManifestError
        s!"The commodity code cannot exceed {MAX_COMMODITY_CODE_LENGTH} characters.")
    else .ok ⟨code, hcode, Nat.le_of_not_lt hlong⟩
  | _ => .error (.InvalidCargoManifestError "The commodity code must be a string.")

/-- `CargoManifest(...)`. -/
def make (total_weight_kg total_volume_cbm commodity_code : Value) :
    Except ShipmentError CargoManifest := do
  let weight ← _validated_measure total_weight_kg "total weight (kg)"
  let volume ← _validated_measure total_volume_cbm "total volume (cbm)"
  let code ← _validated_code commodity_code
  return { total_weight_kg := weight, total_volume_cbm := volume, commodity_code := code.val,
           code_required := code.property.1, code_fits := code.property.2 }

/-- An accepted code keeps its form when it is stripped once more. -/
theorem validated_code_ok {value : Value}
    {code : { s : String // s ≠ "" ∧ s.length ≤ MAX_COMMODITY_CODE_LENGTH }}
    (h : _validated_code value = .ok code) : strip code.val = code.val := by
  unfold _validated_code at h
  split at h
  · next s =>
      dsimp only at h
      by_cases hblank : upper (strip s) = ""
      · rw [dif_pos hblank] at h
        cases h
      · by_cases hlong : (upper (strip s)).length > MAX_COMMODITY_CODE_LENGTH
        · rw [dif_neg hblank, dif_pos hlong] at h
          cases h
        · rw [dif_neg hblank, dif_neg hlong, Except.ok.injEq] at h
          rw [← h]
          exact strip_upper s
  · cases h

/-- So does the code of a manifest. -/
theorem make_code {total_weight_kg total_volume_cbm commodity_code : Value}
    {manifest : CargoManifest}
    (h : make total_weight_kg total_volume_cbm commodity_code = .ok manifest) :
    strip manifest.commodity_code = manifest.commodity_code := by
  unfold make at h
  cases hweight : _validated_measure total_weight_kg "total weight (kg)" with
  | error e => rw [hweight] at h; cases h
  | ok weight =>
      cases hvolume : _validated_measure total_volume_cbm "total volume (cbm)" with
      | error e => rw [hweight, hvolume] at h; cases h
      | ok volume =>
          cases hcode : _validated_code commodity_code with
          | error e => rw [hweight, hvolume, hcode] at h; cases h
          | ok code =>
              rw [hweight, hvolume, hcode] at h
              cases h
              exact validated_code_ok hcode

/-- `from_columns`: a row without any figure has no manifest. -/
def from_columns (total_weight_kg total_volume_cbm : Option PyFloat)
    (commodity_code : Option String) : Except ShipmentError (Option CargoManifest) :=
  match total_weight_kg, total_volume_cbm, commodity_code with
  | none, none, none => .ok none
  | weight, volume, code =>
    (make ((weight.map Value.float).getD .none) ((volume.map Value.float).getD .none)
      ((code.map Value.str).getD .none)).map some

end CargoManifest

/-! ## 3. `ShipmentRoute` and `WaybillNumber` -/

def isUpperAscii (c : Char) : Bool := 'A' ≤ c && c ≤ 'Z'

def isDigitAscii (c : Char) : Bool := '0' ≤ c && c ≤ '9'

/-- `PORT_CODE_PATTERN`. Its `$` would let a final newline pass, which a stripped text
does not have. -/
def PORT_CODE_PATTERN (s : String) : Bool :=
  match s.toList with
  | [a, b, c, d, e] =>
    isUpperAscii a && isUpperAscii b
      && [c, d, e].all fun x => isUpperAscii x || isDigitAscii x
  | _ => false

abbrev PortCode := { s : String // PORT_CODE_PATTERN s = true }

/-- `WAYBILL_NUMBER_PATTERN`. -/
def WAYBILL_NUMBER_PATTERN (s : String) : Bool :=
  match s.toList with
  | 'M' :: 'U' :: 'S' :: 'T' :: '-' :: digits => digits.length == 7 && digits.all isDigitAscii
  | _ => false

structure WaybillNumber where
  value : String
  printed : WAYBILL_NUMBER_PATTERN value = true
  deriving DecidableEq

/-- `WaybillNumber(value)`. -/
def WaybillNumber.make (value : Value) : Except ShipmentError WaybillNumber :=
  match value with
  | .str s =>
    let normalized := upper (strip s)
    if h : WAYBILL_NUMBER_PATTERN normalized = true then .ok ⟨normalized, h⟩
    else .error (.InvalidWaybillNumberError
      (s!"'{s}' does not match the carrier waybill format " ++ "'^MUST-[0-9]\x7b7\x7d$'."))
  | _ => .error (.InvalidWaybillNumberError "A waybill number must be a string.")

/-- `for hop in hops: if hop in visited`: the first hop called at again. -/
def calledTwice (visited : List PortCode) : List PortCode → Option PortCode
  | [] => none
  | hop :: hops => if hop ∈ visited then some hop else calledTwice (hop :: visited) hops

theorem nodup_of_calledTwice {hops : List PortCode} :
    ∀ {visited : List PortCode}, calledTwice visited hops = none →
      hops.Nodup ∧ ∀ hop ∈ hops, hop ∉ visited := by
  induction hops with
  | nil =>
      intro visited _
      exact ⟨List.nodup_nil, fun hop h => absurd h List.not_mem_nil⟩
  | cons hop hops ih =>
      intro visited h
      rw [calledTwice] at h
      by_cases hv : hop ∈ visited
      · rw [if_pos hv] at h
        cases h
      · rw [if_neg hv] at h
        obtain ⟨hnodup, hfresh⟩ := ih h
        refine ⟨List.nodup_cons.mpr ⟨fun hmem => hfresh hop hmem List.mem_cons_self, hnodup⟩, ?_⟩
        intro x hx
        rcases List.mem_cons.mp hx with rfl | hx
        · exact hv
        · exact fun hxv => hfresh x hx (List.mem_cons_of_mem _ hxv)

structure ShipmentRoute where
  origin_port_code : PortCode
  destination_port_code : PortCode
  transit_legs : List PortCode
  logical : (origin_port_code :: transit_legs ++ [destination_port_code]).Nodup
  deriving DecidableEq

/-- What a caller may pass for the legs: a sequence of values, or something that is not one.
What is false and no sequence, `None` or `0`, is `none` here, and `other` is true. -/
inductive Legs where
  | sequence (legs : List Value)
  | str (s : String)
  | none
  | other

namespace ShipmentRoute

/-- `_validated_port_code`. -/
def _validated_port_code (value : Value) (label : String) : Except ShipmentError PortCode :=
  match value with
  | .str s =>
    let normalized := upper (strip s)
    if h : PORT_CODE_PATTERN normalized = true then .ok ⟨normalized, h⟩
    else .error (.InvalidShipmentRouteError
      s!"'{s}' is not a valid {label}; expected a UN/LOCODE such as 'ESVLC'.")
  | _ => .error (.InvalidShipmentRouteError s!"The {label} must be a string.")

/-- `self.transit_legs or ()`, and then the check that it is a sequence. -/
def _sequence (legs : Legs) : Except ShipmentError (List Value) :=
  match legs with
  | .sequence legs => .ok legs
  | .none => .ok []
  | .str s =>
    if s = "" then .ok []
    else .error (.InvalidShipmentRouteError "The transit legs must be a sequence.")
  | .other => .error (.InvalidShipmentRouteError "The transit legs must be a sequence.")

/-- `ShipmentRoute(...)`. -/
def make (origin_port_code destination_port_code : Value) (transit_legs : Legs) :
    Except ShipmentError ShipmentRoute := do
  let origin ← _validated_port_code origin_port_code "origin port code"
  let destination ← _validated_port_code destination_port_code "destination port code"
  if origin = destination then
    .error (.InvalidShipmentRouteError
      s!"The origin port cannot be the same as the destination port ('{origin.val}').")
  else
    let legs ← _sequence transit_legs
    let normalized_legs ← legs.mapM fun leg => _validated_port_code leg "transit leg"
    match h : calledTwice [] (origin :: normalized_legs ++ [destination]) with
    | some hop => .error (.InvalidShipmentRouteError
        (s!"The route calls at '{hop.val}' more than once; the transit legs must form a "
          ++ "logical sequence from the origin to the destination."))
    | none => .ok ⟨origin, destination, normalized_legs, (nodup_of_calledTwice h).1⟩

/-- `hops`. -/
def hops (self : ShipmentRoute) : List PortCode :=
  self.origin_port_code :: self.transit_legs ++ [self.destination_port_code]

end ShipmentRoute

/-! ## 4. `Shipment` -/

inductive TrackingStatus where
  | DRAFT | READY_FOR_MANIFEST | AWAITING_CUSTOMS_RELEASE | IN_TRANSIT | DELIVERED
  | EXCEPTION_HELD
  deriving DecidableEq, Repr

def TrackingStatus.value : TrackingStatus → String
  | .DRAFT => "Draft"
  | .READY_FOR_MANIFEST => "ReadyForManifest"
  | .AWAITING_CUSTOMS_RELEASE => "AwaitingCustomsRelease"
  | .IN_TRANSIT => "InTransit"
  | .DELIVERED => "Delivered"
  | .EXCEPTION_HELD => "ExceptionHeld"

/-- `ROUTE_LOCKED_STATUSES`. -/
def ROUTE_LOCKED_STATUSES : List TrackingStatus :=
  [.AWAITING_CUSTOMS_RELEASE, .IN_TRANSIT, .DELIVERED]

structure Shipment where
  id : Uuid
  waybill_number : WaybillNumber
  route : ShipmentRoute
  status : TrackingStatus
  manifest : Option CargoManifest
  exception_reason : Option String
  deriving DecidableEq

/-- The event `ShipmentManifestFinalized`. -/
structure ShipmentManifestFinalized where
  shipment_id : String
  waybill_number : String
  commodity_code : String
  deriving DecidableEq, Repr

/-- `to_body()`, with the message type the class name defaults to. -/
def ShipmentManifestFinalized.message (event : ShipmentManifestFinalized) :
    IntegrationMessage where
  message_type := "ShipmentManifestFinalized"
  body := [("shipment_id", .str event.shipment_id),
    ("waybill_number", .str event.waybill_number),
    ("commodity_code", .str event.commodity_code)]

namespace Shipment

/-- `create`. -/
def create (shipment_id : Uuid) (waybill_number : WaybillNumber)
    (origin_port_code destination_port_code : Value) : Except ShipmentError Shipment := do
  let route ← ShipmentRoute.make origin_port_code destination_port_code .none
  return { id := shipment_id, waybill_number, route, status := .DRAFT, manifest := none,
           exception_reason := none }

/-- `assign_route`. -/
def assign_route (self : Shipment) (new_route : ShipmentRoute) :
    Shipment × Except ShipmentError Unit :=
  if self.status ∈ ROUTE_LOCKED_STATUSES then
    (self, .error (.RouteNotModifiableError
      s!"The route of a shipment in '{self.status.value}' state can no longer be modified."))
  else ({ self with route := new_route }, .ok ())

/-- `finalize_manifest`. -/
def finalize_manifest (self : Shipment) (manifest : CargoManifest) :
    Shipment × Except ShipmentError ShipmentManifestFinalized :=
  if self.status ≠ .DRAFT then
    (self, .error (.ManifestNotFinalizableError
      (s!"The manifest of a shipment in '{self.status.value}' state cannot be finalized; "
        ++ "only a draft can.")))
  else if manifest.total_weight_kg.val.le (.finite 0) then
    (self, .error (.InvalidCargoManifestError
      "The total weight must be greater than zero to finalize the manifest."))
  else
    let self := { self with manifest := some manifest }
    let self := { self with status := .READY_FOR_MANIFEST }
    (self, .ok
      { shipment_id := self.id.str, waybill_number := self.waybill_number.value,
        commodity_code := manifest.commodity_code })

/-- **`finalize_manifest`.** A refused call changes nothing; an accepted one was made on
a draft, and announces the manifest it stores. -/
theorem finalize_manifest_cases (self : Shipment) (manifest : CargoManifest) :
    (∃ e, self.finalize_manifest manifest = (self, .error e)) ∨
    (self.status = .DRAFT ∧ manifest.total_weight_kg.val.le (.finite 0) = false
      ∧ self.finalize_manifest manifest
        = ({ self with manifest := some manifest, status := .READY_FOR_MANIFEST },
            .ok { shipment_id := self.id.str, waybill_number := self.waybill_number.value,
                  commodity_code := manifest.commodity_code })) := by
  unfold finalize_manifest
  by_cases hdraft : self.status = .DRAFT
  · rw [if_neg (not_not.mpr hdraft)]
    by_cases hweight : manifest.total_weight_kg.val.le (.finite 0) = true
    · exact .inl ⟨_, by rw [if_pos hweight]⟩
    · exact .inr ⟨hdraft, by simpa using hweight, by rw [if_neg hweight]⟩
  · exact .inl ⟨_, by rw [if_pos hdraft]⟩

end Shipment

/-! ## 5. Rows -/

/-- A row of `shipment.shipments`, without its primary key. -/
structure ShipmentRow where
  waybill_number : String
  total_weight_kg : Option PyFloat
  total_volume_cbm : Option PyFloat
  commodity_code : Option String
  origin_port_code : String
  destination_port_code : String
  transit_legs : List String
  status : TrackingStatus
  exception_reason : Option String
  deriving DecidableEq

/-- What a `NUMERIC(14,3)` column holds of a value: it is rounded half away from zero
to three decimals, and refused when it is infinite or needs a twelfth digit. -/
def numeric_14_3 (x : PyFloat) : Option PyFloat :=
  match x with
  | .nan => some .nan
  | .finite q =>
    let scaled : ℚ := q * 1000
    let rounded : ℤ := if scaled < 0 then -⌊-scaled + 1 / 2⌋ else ⌊scaled + 1 / 2⌋
    if rounded.natAbs < 10 ^ 14 then some (.finite ((rounded : ℚ) / 1000)) else none
  | _ => none

namespace ShipmentRow

/-- The aggregate rebuilt from its row, composite by composite. -/
def to_shipment (id : Uuid) (row : ShipmentRow) : Except ShipmentError Shipment := do
  let waybill_number ← WaybillNumber.make (.str row.waybill_number)
  let manifest ← CargoManifest.from_columns row.total_weight_kg row.total_volume_cbm
    row.commodity_code
  let route ← ShipmentRoute.make (.str row.origin_port_code) (.str row.destination_port_code)
    (.sequence (row.transit_legs.map Value.str))
  return { id, waybill_number, route, status := row.status, manifest,
           exception_reason := row.exception_reason }

/-- The loaded row once `finalize_manifest` has assigned the manifest and the status: a
composite assigns every column it is built from. -/
def assigned (row : ShipmentRow) (after : Shipment) : ShipmentRow :=
  { row with
    total_weight_kg := after.manifest.map (·.total_weight_kg.val)
    total_volume_cbm := after.manifest.map (·.total_volume_cbm.val)
    commodity_code := after.manifest.map (·.commodity_code)
    status := after.status }

/-- One numeric column after a flush; a value the column cannot hold refuses it. -/
def numeric_column (loaded after stored : Option PyFloat) : Option (Option PyFloat) :=
  match column loaded after stored with
  | none => some none
  | some x => if after = loaded then some (some x) else (numeric_14_3 x).map some

/-- The row after a flush, column by column. -/
def flush (loaded after stored : ShipmentRow) : Option ShipmentRow := do
  let total_weight_kg ← numeric_column loaded.total_weight_kg after.total_weight_kg
    stored.total_weight_kg
  let total_volume_cbm ← numeric_column loaded.total_volume_cbm after.total_volume_cbm
    stored.total_volume_cbm
  return { stored with
    total_weight_kg, total_volume_cbm
    commodity_code := column loaded.commodity_code after.commodity_code stored.commodity_code
    status := column loaded.status after.status stored.status }

/-- The status of the aggregate is the one of its row. -/
theorem to_shipment_ok {id : Uuid} {row : ShipmentRow} {shipment : Shipment}
    (h : row.to_shipment id = .ok shipment) : shipment.id = id ∧ shipment.status = row.status := by
  unfold to_shipment at h
  cases hw : WaybillNumber.make (.str row.waybill_number) with
  | error e => rw [hw] at h; cases h
  | ok w =>
      cases hm : CargoManifest.from_columns row.total_weight_kg row.total_volume_cbm
          row.commodity_code with
      | error e => rw [hw, hm] at h; cases h
      | ok m =>
          cases hr : ShipmentRoute.make (.str row.origin_port_code) (.str row.destination_port_code)
              (.sequence (row.transit_legs.map Value.str)) with
          | error e => rw [hw, hm, hr] at h; cases h
          | ok r =>
              rw [hw, hm, hr] at h
              cases h
              exact ⟨rfl, rfl⟩

/-- A flushed row has the code and the status the columns rule gives it. -/
theorem flush_ok {loaded after stored row : ShipmentRow}
    (h : loaded.flush after stored = some row) :
    row.commodity_code = column loaded.commodity_code after.commodity_code stored.commodity_code
      ∧ row.status = column loaded.status after.status stored.status := by
  unfold flush at h
  cases hw : numeric_column loaded.total_weight_kg after.total_weight_kg
      stored.total_weight_kg with
  | none => rw [hw] at h; cases h
  | some w =>
      cases hv : numeric_column loaded.total_volume_cbm after.total_volume_cbm
          stored.total_volume_cbm with
      | none => rw [hw, hv] at h; cases h
      | some v =>
          rw [hw, hv] at h
          cases h
          exact ⟨rfl, rfl⟩

end ShipmentRow

end TradeLogistics.Shipments
