/-
Everything a client can ask of shipments, at the same time.

Three requests share the table: one opens a draft under a number drawn from the sequence,
one redraws the route, one finalizes the manifest. Each is a session of its own at READ
COMMITTED that reads without a lock and commits what it changed, so a commit lands on
whatever row is there by then. A finalization is the request of `ManifestRequests`, on the
rows it knows; the other two are described here, with the sequence and the unique index
that only they touch.

What the requests do to each other is settled once, by one case analysis of the step
(`service_step_effect`). From it follow, for every interleaving: a number is never given
twice, and no insert is refused over one; and a manifest that was declared is never undone
by a route that is redrawn, whatever copy the redrawing request works on.
-/
import TradeLogistics.ManifestRequests
import TradeLogistics.ManifestFigures
import TradeLogistics.ShipmentHistory
import TradeLogistics.WaybillSerials

set_option autoImplicit false

namespace TradeLogistics.Shipments

open TradeLogistics.PyText TradeLogistics.PyNumber TradeLogistics.Runs
open TradeLogistics.UnitOfWork TradeLogistics.MessageBus

/-! ## 1. Rows -/

namespace ShipmentRow

/-- The row of a new aggregate; a composite fills every column it is built from. -/
def inserted (shipment : Shipment) : Option ShipmentRow := do
  let total_weight_kg ← numeric_column none (shipment.manifest.map (·.total_weight_kg.val)) none
  let total_volume_cbm ← numeric_column none (shipment.manifest.map (·.total_volume_cbm.val)) none
  return {
    waybill_number := shipment.waybill_number.value
    total_weight_kg, total_volume_cbm
    commodity_code := shipment.manifest.map (·.commodity_code)
    origin_port_code := shipment.route.composite_values.1
    destination_port_code := shipment.route.composite_values.2.1
    transit_legs := shipment.route.composite_values.2.2
    status := shipment.status
    exception_reason := shipment.exception_reason }

/-- The columns of the route. -/
def route_columns (row : ShipmentRow) : String × String × List String :=
  (row.origin_port_code, row.destination_port_code, row.transit_legs)

/-- The row with these columns for its route. -/
def with_route (row : ShipmentRow) (columns : String × String × List String) : ShipmentRow :=
  { row with
    origin_port_code := columns.1
    destination_port_code := columns.2.1
    transit_legs := columns.2.2 }

/-- The three columns after a flush, one by one. -/
def merge_route (loaded after stored : String × String × List String) :
    String × String × List String :=
  (column loaded.1 after.1 stored.1, column loaded.2.1 after.2.1 stored.2.1,
    column loaded.2.2 after.2.2 stored.2.2)

/-- The stored row after the flush of a session that redrew the route, refused by the
`CHECK` constraint `route_endpoints_differ`. -/
def flush_route (loaded stored : ShipmentRow) (route : ShipmentRoute) : Option ShipmentRow :=
  let row := stored.with_route
    (merge_route loaded.route_columns route.composite_values stored.route_columns)
  if row.origin_port_code = row.destination_port_code then none else some row

@[simp] theorem with_route_columns (row : ShipmentRow) (columns : String × String × List String) :
    (row.with_route columns).route_columns = columns := rfl

@[simp] theorem with_route_waybill (row : ShipmentRow) (columns : String × String × List String) :
    (row.with_route columns).waybill_number = row.waybill_number := rfl

@[simp] theorem with_route_status (row : ShipmentRow) (columns : String × String × List String) :
    (row.with_route columns).status = row.status := rfl

theorem flush_route_ok {loaded stored row : ShipmentRow} {route : ShipmentRoute}
    (h : loaded.flush_route stored route = some row) :
    row = stored.with_route
      (merge_route loaded.route_columns route.composite_values stored.route_columns) := by
  unfold flush_route at h
  dsimp only at h
  split at h
  · cases h
  · exact (Option.some.inj h).symm

end ShipmentRow

/-! ## 2. Tables and requests -/

/-- The rows with the outbox of the module, the sequence of the numbers, and the entries of
`uq_shipments_waybill_number`. -/
structure ShipmentTables where
  database : ShipmentDatabase
  waybill_serial : WaybillSequence
  uq_shipments_waybill_number : List String

namespace ShipmentTables

/-- What the migrations leave. -/
def migrated : ShipmentTables where
  database := { shipments := fun _ => none, outbox := [] }
  waybill_serial := .created
  uq_shipments_waybill_number := []

/-- The commit of a session that added one aggregate; the primary key and the unique index
refuse what they hold. -/
def insert (tables : ShipmentTables) (shipment : Shipment) : Option ShipmentTables :=
  match ShipmentRow.inserted shipment with
  | none => none
  | some row =>
    if (tables.database.shipments shipment.id).isSome
        || tables.uq_shipments_waybill_number.contains row.waybill_number then none
    else some
      { tables with
        database := { tables.database with
          shipments := Function.update tables.database.shipments shipment.id (some row) }
        uq_shipments_waybill_number := row.waybill_number :: tables.uq_shipments_waybill_number }

/-- The commit of a session that loaded one version of a shipment and redrew its route. -/
def reroute (tables : ShipmentTables) (id : Uuid) (loaded : ShipmentRow)
    (route : ShipmentRoute) : Option ShipmentTables :=
  match (tables.database.shipments id).bind fun stored => loaded.flush_route stored route with
  | none => none
  | some row => some
      { tables with
        database := { tables.database with
          shipments := Function.update tables.database.shipments id (some row) } }

end ShipmentTables

/-- `CreateDraftShipmentCommand`. -/
structure CreateDraftShipmentCommand where
  origin_port_code : String
  destination_port_code : String

/-- `AssignRouteCommand`. -/
structure AssignRouteCommand where
  origin_port_code : String
  destination_port_code : String
  transit_legs : List String

/-- What a client asks for. -/
inductive ClientRequest where
  | create_draft_shipment (command : CreateDraftShipmentCommand)
  | assign_route (shipment_id : String) (command : AssignRouteCommand)
  | finalize_manifest (shipment_id : String) (command : FinalizeManifestCommand)

/-- Where a request stands: a draft waits for its number, has it, is made; a route was
asked for, its shipment was read, the aggregate took it. -/
inductive ShipmentRequest where
  | drafting (command : CreateDraftShipmentCommand)
  | numbered (shipment_id : Uuid) (waybill_number : WaybillNumber)
      (command : CreateDraftShipmentCommand)
  | drafted (shipment : Shipment)
  | rerouting (shipment_id : String) (command : AssignRouteCommand)
  | loaded (id : Uuid) (row : ShipmentRow) (command : AssignRouteCommand)
  | rerouted (id : Uuid) (row : ShipmentRow) (shipment : Shipment)
  | finalization (request : Finalization)
  | finished

def ClientRequest.received : ClientRequest → ShipmentRequest
  | .create_draft_shipment command => .drafting command
  | .assign_route shipment_id command => .rerouting shipment_id command
  | .finalize_manifest shipment_id command => .finalization (.received shipment_id command)

/-- The atomic actions of a request; a failure at any point rolls the session back. -/
inductive ShipmentRequestStep where
  | next (shipment_id : Uuid)
  | find_by_id
  | handle
  | commit
  | finalization (action : FinalizationStep)
  | fail

/-- What the aggregate makes of a row whose route is to be redrawn, `none` where anything
raises. -/
def redraw (id : Uuid) (row : ShipmentRow) (command : AssignRouteCommand) : Option Shipment :=
  match row.to_shipment id with
  | .error _ => none
  | .ok shipment =>
    match ShipmentRoute.make (.str command.origin_port_code) (.str command.destination_port_code)
        (.sequence (command.transit_legs.map Value.str)) with
    | .error _ => none
    | .ok route =>
      match shipment.assign_route route with
      | (_, .error _) => none
      | (shipment, .ok _) => some shipment

/-- `CreateDraftShipmentHandler.handle`, `AssignRouteHandler.handle` and
`FinalizeManifestHandler.handle`, between two commits of the others. -/
def service_step {ι : Type*} (exchange : String) (i : ι) (tables : ShipmentTables) :
    ShipmentRequest → ShipmentRequestStep → Option (ShipmentTables × ShipmentRequest)
  | .drafting command, .next shipment_id =>
    -- a draw is not undone by a rollback
    match tables.waybill_serial.next with
    | (.error _, waybill_serial) => some ({ tables with waybill_serial }, .finished)
    | (.ok waybill_number, waybill_serial) =>
      some ({ tables with waybill_serial }, .numbered shipment_id waybill_number command)
  | .numbered shipment_id waybill_number command, .handle =>
    match Shipment.create shipment_id waybill_number (.str command.origin_port_code)
        (.str command.destination_port_code) with
    | .error _ => some (tables, .finished)
    | .ok shipment => some (tables, .drafted shipment)
  | .drafted shipment, .commit => (tables.insert shipment).map fun tables => (tables, .finished)
  | .rerouting shipment_id command, .find_by_id =>
    match Uuid.parse shipment_id with
    | none => some (tables, .finished)
    | some id =>
      match tables.database.shipments id with
      | none => some (tables, .finished)
      | some row => some (tables, .loaded id row command)
  | .loaded id row command, .handle =>
    match redraw id row command with
    | none => some (tables, .finished)
    | some shipment => some (tables, .rerouted id row shipment)
  | .rerouted id row shipment, .commit =>
    (tables.reroute id row shipment.route).map fun tables => (tables, .finished)
  | .finalization request, .finalization action =>
    (finalize_step exchange i tables.database request action).map fun r =>
      ({ tables with database := r.1 }, .finalization r.2)
  | .finished, .fail => none
  | _, .fail => some (tables, .finished)
  | _, _ => none

/-- The migrated tables, and a request for each thread. -/
def service_started {ι : Type*} (requests : ι → ClientRequest) :
    Config ι ShipmentTables ShipmentRequest where
  shared := .migrated
  locals := fun i => (requests i).received

/-! ## 3. One action -/

/-- What one action does, case by case. -/
inductive ServiceEffect {ι : Type*} (exchange : String) (i : ι) (tables : ShipmentTables) :
    ShipmentRequest → ShipmentRequestStep → ShipmentTables → ShipmentRequest → Prop
  | ended {k : ShipmentRequest} {a : ShipmentRequestStep} (hcommit : a ≠ .commit)
      (hnext : ∀ shipment_id, a ≠ .next shipment_id) :
      ServiceEffect exchange i tables k a tables .finished
  | unnumbered {command : CreateDraftShipmentCommand} {shipment_id : Uuid} {e : SerialError}
      {waybill_serial : WaybillSequence}
      (h : tables.waybill_serial.next = (.error e, waybill_serial)) :
      ServiceEffect exchange i tables (.drafting command) (.next shipment_id)
        { tables with waybill_serial } .finished
  | numbered {command : CreateDraftShipmentCommand} {shipment_id : Uuid} {number : WaybillNumber}
      {waybill_serial : WaybillSequence}
      (h : tables.waybill_serial.next = (.ok number, waybill_serial)) :
      ServiceEffect exchange i tables (.drafting command) (.next shipment_id)
        { tables with waybill_serial } (.numbered shipment_id number command)
  | drafted {shipment_id : Uuid} {number : WaybillNumber} {command : CreateDraftShipmentCommand}
      {shipment : Shipment}
      (h : Shipment.create shipment_id number (.str command.origin_port_code)
        (.str command.destination_port_code) = .ok shipment) :
      ServiceEffect exchange i tables (.numbered shipment_id number command) .handle tables
        (.drafted shipment)
  | inserted {shipment : Shipment} {tables' : ShipmentTables}
      (h : tables.insert shipment = some tables') :
      ServiceEffect exchange i tables (.drafted shipment) .commit tables' .finished
  | loaded {shipment_id : String} {id : Uuid} {row : ShipmentRow} {command : AssignRouteCommand}
      (h : tables.database.shipments id = some row) :
      ServiceEffect exchange i tables (.rerouting shipment_id command) .find_by_id tables
        (.loaded id row command)
  | redrawn {id : Uuid} {row : ShipmentRow} {command : AssignRouteCommand} {shipment : Shipment}
      (h : redraw id row command = some shipment) :
      ServiceEffect exchange i tables (.loaded id row command) .handle tables
        (.rerouted id row shipment)
  | rerouted {id : Uuid} {row : ShipmentRow} {shipment : Shipment} {tables' : ShipmentTables}
      (h : tables.reroute id row shipment.route = some tables') :
      ServiceEffect exchange i tables (.rerouted id row shipment) .commit tables' .finished
  | finalization {request request' : Finalization} {action : FinalizationStep}
      {database : ShipmentDatabase}
      (h : finalize_step exchange i tables.database request action = some (database, request')) :
      ServiceEffect exchange i tables (.finalization request) (.finalization action)
        { tables with database } (.finalization request')

/-- **The one case analysis of the step**; nothing below unfolds it again. -/
theorem service_step_effect {ι : Type*} {exchange : String} {i : ι}
    {tables tables' : ShipmentTables} {k k' : ShipmentRequest} {a : ShipmentRequestStep}
    (h : service_step exchange i tables k a = some (tables', k')) :
    ServiceEffect exchange i tables k a tables' k' := by
  unfold service_step at h
  split at h
  · split at h
    · next hnext =>
        cases h
        exact .unnumbered hnext
    · next hnext =>
        cases h
        exact .numbered hnext
  · split at h
    · cases h
      exact .ended nofun nofun
    · next hcreate =>
        cases h
        exact .drafted hcreate
  · obtain ⟨_, hinsert, hpair⟩ := Option.map_eq_some_iff.mp h
    cases hpair
    exact .inserted hinsert
  · split at h
    · cases h
      exact .ended nofun nofun
    · split at h
      · cases h
        exact .ended nofun nofun
      · next hrow =>
          cases h
          exact .loaded hrow
  · split at h
    · cases h
      exact .ended nofun nofun
    · next hredraw =>
        cases h
        exact .redrawn hredraw
  · obtain ⟨_, hreroute, hpair⟩ := Option.map_eq_some_iff.mp h
    cases hpair
    exact .rerouted hreroute
  · obtain ⟨_, hfinalize, hpair⟩ := Option.map_eq_some_iff.mp h
    cases hpair
    exact .finalization hfinalize
  · cases h
  · cases h
    exact .ended nofun nofun
  · cases h

/-- What an insert adds: one row, and its number in the index, where there was neither. -/
theorem insert_ok {tables tables' : ShipmentTables} {shipment : Shipment}
    (h : tables.insert shipment = some tables') :
    ∃ row, ShipmentRow.inserted shipment = some row
      ∧ tables.database.shipments shipment.id = none
      ∧ row.waybill_number ∉ tables.uq_shipments_waybill_number
      ∧ tables' = { tables with
          database := { tables.database with
            shipments := Function.update tables.database.shipments shipment.id (some row) }
          uq_shipments_waybill_number :=
            row.waybill_number :: tables.uq_shipments_waybill_number } := by
  unfold ShipmentTables.insert at h
  split at h
  · cases h
  · next row hrow =>
    split at h
    · cases h
    · next hfree =>
      rw [Bool.or_eq_true, not_or, Bool.not_eq_true, Option.isSome_eq_false_iff,
        Option.isNone_iff_eq_none, List.contains_iff_mem] at hfree
      exact ⟨row, hrow, hfree.1, hfree.2, (Option.some.inj h).symm⟩

/-- What a redrawn route changes: the route columns of one row. -/
theorem reroute_ok {tables tables' : ShipmentTables} {id : Uuid} {loaded : ShipmentRow}
    {route : ShipmentRoute} (h : tables.reroute id loaded route = some tables') :
    ∃ stored row, tables.database.shipments id = some stored
      ∧ loaded.flush_route stored route = some row
      ∧ tables' = { tables with
          database := { tables.database with
            shipments := Function.update tables.database.shipments id (some row) } } := by
  unfold ShipmentTables.reroute at h
  split at h
  · cases h
  · next row hrow =>
    obtain ⟨stored, hstored, hflush⟩ := Option.bind_eq_some_iff.mp hrow
    exact ⟨stored, row, hstored, hflush, (Option.some.inj h).symm⟩

/-- A draft is made as it was asked for, without a manifest. -/
theorem create_ok {shipment_id : Uuid} {number : WaybillNumber} {origin destination : Value}
    {shipment : Shipment}
    (h : Shipment.create shipment_id number origin destination = .ok shipment) :
    shipment.id = shipment_id ∧ shipment.waybill_number = number ∧ shipment.status = .DRAFT
      ∧ shipment.manifest = none := by
  unfold Shipment.create at h
  cases hroute : ShipmentRoute.make origin destination .none with
  | error e =>
      rw [hroute] at h
      cases h
  | ok route =>
      rw [hroute] at h
      cases h
      exact ⟨rfl, rfl, rfl, rfl⟩

/-- The row of an aggregate without a manifest. -/
theorem inserted_draft {shipment : Shipment} (h : shipment.manifest = none) :
    ∃ row, ShipmentRow.inserted shipment = some row
      ∧ row.waybill_number = shipment.waybill_number.value
      ∧ row.status = shipment.status
      ∧ row.total_weight_kg = none ∧ row.total_volume_cbm = none ∧ row.commodity_code = none
      ∧ row.route_columns = shipment.route.composite_values := by
  unfold ShipmentRow.inserted
  rw [h]
  exact ⟨_, rfl, rfl, rfl, rfl, rfl, rfl, rfl⟩

/-- A redrawn route leaves the number of every row. -/
theorem reroute_rows {tables tables' : ShipmentTables} {id id' : Uuid} {loaded row' : ShipmentRow}
    {route : ShipmentRoute} (h : tables.reroute id loaded route = some tables')
    (hrow : tables'.database.shipments id' = some row') :
    ∃ row, tables.database.shipments id' = some row
      ∧ row'.waybill_number = row.waybill_number := by
  obtain ⟨stored, row, hstored, hflush, rfl⟩ := reroute_ok h
  have hrow' : Function.update tables.database.shipments id (some row) id' = some row' := hrow
  by_cases hid : id' = id
  · rw [hid, Function.update_self, Option.some.injEq] at hrow'
    refine ⟨stored, hid ▸ hstored, ?_⟩
    rw [← hrow', ShipmentRow.flush_route_ok hflush, ShipmentRow.with_route_waybill]
  · rw [Function.update_of_ne hid] at hrow'
    exact ⟨row', hrow', rfl⟩

/-- A finalization leaves the number of every row, and its route. -/
theorem finalize_step_rows {ι : Type*} {exchange : String} {i : ι} {db db' : ShipmentDatabase}
    {k k' : Finalization} {a : FinalizationStep} {id : Uuid} {row' : ShipmentRow}
    (h : finalize_step exchange i db k a = some (db', k')) (hrow : db'.shipments id = some row') :
    ∃ row, db.shipments id = some row ∧ row'.waybill_number = row.waybill_number
      ∧ row'.route_columns = row.route_columns := by
  rcases finalize_step_cases h with
    ⟨rfl, -, -⟩ | ⟨id', loaded, after, event, message_id, now, -, -, -, hcommit⟩
  · exact ⟨row', hrow, rfl, rfl⟩
  · obtain ⟨stored, row, hstored, hflush, hshipments, -⟩ := commit_ok hcommit
    rw [hshipments] at hrow
    by_cases hid : id = id'
    · subst hid
      rw [Function.update_self, Option.some.injEq] at hrow
      obtain ⟨_, _, -, -, rfl⟩ := ShipmentRow.flush_cases.mp hflush
      exact ⟨stored, hstored, hrow ▸ rfl, hrow ▸ rfl⟩
    · rw [Function.update_of_ne hid] at hrow
      exact ⟨row', hrow, rfl, rfl⟩

/-! ## 4. Numbers

The sequence is after so many draws, and what was drawn is either entered in the index, or
held by one request that may still enter it, or gone. -/

/-- The number a request would enter. -/
def ShipmentRequest.number : ShipmentRequest → Option WaybillNumber
  | .numbered _ number _ => some number
  | .drafted shipment => some shipment.waybill_number
  | _ => none

/-- The numbers of so many draws, from the draw after so many. -/
def serial_numbers (k n : ℕ) : List WaybillNumber :=
  ((List.range' k n).map WaybillSequence.answer).filterMap Except.toOption

theorem serial_numbers_append (k n m : ℕ) :
    serial_numbers k n ++ serial_numbers (k + n) m = serial_numbers k (n + m) := by
  rw [serial_numbers, serial_numbers, serial_numbers, ← List.filterMap_append, ← List.map_append,
    List.range'_append_1]

/-- The number was the answer to one of so many draws. -/
def Drawn (k : ℕ) (number : WaybillNumber) : Prop :=
  ∃ j < k, WaybillSequence.answer j = .ok number

theorem Drawn.mono {k k' : ℕ} {number : WaybillNumber} (hle : k ≤ k') (h : Drawn k number) :
    Drawn k' number := by
  obtain ⟨j, hj, hanswer⟩ := h
  exact ⟨j, hj.trans_le hle, hanswer⟩

theorem mem_serial_numbers {n : ℕ} {number : WaybillNumber} :
    number ∈ serial_numbers 0 n ↔ Drawn n number := by
  have hok : ∀ answer : Except SerialError WaybillNumber,
      answer.toOption = some number ↔ answer = .ok number := by
    intro answer
    cases answer with
    | error e => exact iff_of_false nofun nofun
    | ok other => simp [Except.toOption]
  simp only [serial_numbers, List.mem_filterMap, List.mem_map, List.mem_range'_1, Nat.zero_le,
    true_and, Nat.zero_add, hok]
  constructor
  · rintro ⟨answer, ⟨j, hj, rfl⟩, h⟩
    exact ⟨j, hj, h⟩
  · rintro ⟨j, hj, h⟩
    exact ⟨_, ⟨j, hj, rfl⟩, h⟩

/-- A draw that gives a number gives one that no other draw gives. -/
theorem answer_injective {j j' : ℕ} {number : WaybillNumber}
    (h : WaybillSequence.answer j = .ok number) (h' : WaybillSequence.answer j' = .ok number) :
    j = j' := by
  unfold WaybillSequence.answer at h h'
  split at h
  · split at h'
    · have hserial := WaybillNumber.from_serial_injective h h'
      omega
    · cases h'
  · cases h

/-- It was not the answer to an earlier draw. -/
theorem Drawn.ne {k : ℕ} {number other : WaybillNumber} (h : Drawn k other)
    (hanswer : WaybillSequence.answer k = .ok number) : other ≠ number := by
  rintro rfl
  obtain ⟨j, hj, hother⟩ := h
  exact absurd (answer_injective hother hanswer) (Nat.ne_of_lt hj)

theorem serial_numbers_nodup (k n : ℕ) : (serial_numbers k n).Nodup := by
  rw [serial_numbers, List.filterMap_map]
  refine List.Nodup.filterMap (fun j j' number hj hj' => ?_) List.nodup_range'
  have hok : ∀ j, (Except.toOption ∘ WaybillSequence.answer) j = some number →
      WaybillSequence.answer j = .ok number := by
    intro j hj
    cases hanswer : WaybillSequence.answer j with
    | error e =>
        rw [Function.comp_apply, hanswer] at hj
        cases hj
    | ok other =>
        rw [Function.comp_apply, hanswer] at hj
        rw [Option.some.inj hj]
  exact answer_injective (hok j hj) (hok j' hj')

section Numbers

variable {ι : Type*} [DecidableEq ι]

/-- The number a step is answered with, if it is a draw. -/
def number_drawn (c : Config ι ShipmentTables ShipmentRequest) (e : ι × ShipmentRequestStep) :
    List WaybillNumber :=
  match c.locals e.1, e.2, c.shared.waybill_serial.next.1 with
  | .drafting _, .next _, .ok number => [number]
  | _, _, _ => []

/-- The numbers of all draws of a run, in their order. -/
def numbers_drawn (exchange : String) (c : Config ι ShipmentTables ShipmentRequest) :
    List (ι × ShipmentRequestStep) → List WaybillNumber
  | [] => []
  | e :: es =>
    match fire (service_step exchange) c e with
    | none => []
    | some c' => number_drawn c e ++ numbers_drawn exchange c' es

/-- What holds after so many draws. -/
structure Numbering (k : ℕ) (c : Config ι ShipmentTables ShipmentRequest) : Prop where
  serial : c.shared.waybill_serial = .after k
  held : ∀ i number, (c.locals i).number = some number → Drawn k number
  free : ∀ i number, (c.locals i).number = some number →
    number.value ∉ c.shared.uq_shipments_waybill_number
  apart : ∀ i j number, (c.locals i).number = some number →
    (c.locals j).number = some number → i = j
  entered : ∀ entry ∈ c.shared.uq_shipments_waybill_number,
    ∃ number, Drawn k number ∧ number.value = entry
  indexed : ∀ id row, c.shared.database.shipments id = some row →
    row.waybill_number ∈ c.shared.uq_shipments_waybill_number
  unique : ∀ id id' row row', c.shared.database.shipments id = some row →
    c.shared.database.shipments id' = some row' → row.waybill_number = row'.waybill_number →
    id = id'
  drafts : ∀ i shipment, c.locals i = .drafted shipment → shipment.manifest = none

/-- A value has one number. -/
theorem number_of_value {number other : WaybillNumber} (h : number.value = other.value) :
    number = other := by
  cases number
  cases other
  cases h
  rfl

/-- The numbering survives a step that draws and enters nothing. -/
theorem Numbering.kept {k : ℕ} {c : Config ι ShipmentTables ShipmentRequest} (h : Numbering k c)
    {i : ι} {tables : ShipmentTables} {r : ShipmentRequest}
    (hserial : tables.waybill_serial = c.shared.waybill_serial)
    (hindex : tables.uq_shipments_waybill_number = c.shared.uq_shipments_waybill_number)
    (hrows : ∀ id row, tables.database.shipments id = some row →
      ∃ stored, c.shared.database.shipments id = some stored
        ∧ row.waybill_number = stored.waybill_number)
    (hnumber : ∀ number, r.number = some number → (c.locals i).number = some number)
    (hdraft : ∀ shipment, r = .drafted shipment → shipment.manifest = none) :
    Numbering k ⟨tables, Function.update c.locals i r⟩ := by
  have hheld : ∀ j number, (Function.update c.locals i r j).number = some number →
      (c.locals j).number = some number := by
    intro j number hj
    by_cases hji : j = i
    · subst hji
      rw [Function.update_self] at hj
      exact hnumber number hj
    · rwa [Function.update_of_ne hji] at hj
  refine ⟨hserial.trans h.serial, fun j number hj => h.held j number (hheld j number hj), ?_,
    fun j j' number hj hj' => h.apart j j' number (hheld j number hj) (hheld j' number hj'),
    ?_, ?_, ?_, ?_⟩
  · intro j number hj
    dsimp only
    rw [hindex]
    exact h.free j number (hheld j number hj)
  · dsimp only
    rw [hindex]
    exact h.entered
  · intro id row hrow
    obtain ⟨stored, hstored, hnumbers⟩ := hrows id row hrow
    dsimp only
    rw [hindex, hnumbers]
    exact h.indexed id stored hstored
  · intro id id' row row' hrow hrow' hsame
    obtain ⟨stored, hstored, hnumbers⟩ := hrows id row hrow
    obtain ⟨stored', hstored', hnumbers'⟩ := hrows id' row' hrow'
    exact h.unique id id' stored stored' hstored hstored' (hnumbers ▸ hnumbers' ▸ hsame)
  · intro j shipment hj
    by_cases hji : j = i
    · subst hji
      exact hdraft shipment (by simpa using hj)
    · exact h.drafts j shipment (by simpa [Function.update_of_ne hji] using hj)

omit [DecidableEq ι] in
/-- A draw that gives none. -/
theorem Numbering.later {k : ℕ} {c : Config ι ShipmentTables ShipmentRequest}
    (h : Numbering k c) {waybill_serial : WaybillSequence}
    (hserial : waybill_serial = .after (k + 1)) :
    Numbering (k + 1) ⟨{ c.shared with waybill_serial }, c.locals⟩ where
  serial := hserial
  held := fun i number hi => (h.held i number hi).mono (Nat.le_succ k)
  free := h.free
  apart := h.apart
  entered := fun entry hentry =>
    (h.entered entry hentry).imp fun _ hdrawn => ⟨hdrawn.1.mono (Nat.le_succ k), hdrawn.2⟩
  indexed := h.indexed
  unique := h.unique
  drafts := h.drafts

/-- A draw that gives a number gives the request one that nobody had before. -/
theorem Numbering.drawn {k : ℕ} {c : Config ι ShipmentTables ShipmentRequest}
    (h : Numbering k c) {i : ι} {shipment_id : Uuid} {command : CreateDraftShipmentCommand}
    {number : WaybillNumber} {waybill_serial : WaybillSequence}
    (hserial : waybill_serial = .after (k + 1))
    (hanswer : WaybillSequence.answer k = .ok number) :
    Numbering (k + 1) ⟨{ c.shared with waybill_serial },
      Function.update c.locals i (.numbered shipment_id number command)⟩ := by
  have hlater := h.later hserial
  have hheld : ∀ j other, (Function.update c.locals i
      (.numbered shipment_id number command) j).number = some other →
      (j = i ∧ other = number) ∨ (j ≠ i ∧ (c.locals j).number = some other) := by
    intro j other hj
    by_cases hji : j = i
    · subst hji
      rw [Function.update_self] at hj
      exact .inl ⟨rfl, (Option.some.inj hj).symm⟩
    · rw [Function.update_of_ne hji] at hj
      exact .inr ⟨hji, hj⟩
  refine ⟨hserial, ?_, ?_, ?_, hlater.entered, h.indexed, h.unique, ?_⟩
  · intro j other hj
    rcases hheld j other hj with ⟨-, hsame⟩ | ⟨-, hj⟩
    · exact ⟨k, Nat.lt_succ_self k, hsame ▸ hanswer⟩
    · exact hlater.held j other hj
  · intro j other hj hentry
    rcases hheld j other hj with ⟨-, hsame⟩ | ⟨-, hj⟩
    · -- what is entered was the answer to an earlier draw
      obtain ⟨entered, hdrawn, hvalue⟩ := h.entered _ hentry
      exact hdrawn.ne hanswer ((number_of_value hvalue).trans hsame)
    · exact h.free j other hj hentry
  · intro j j' other hj hj'
    rcases hheld j other hj with ⟨hji, hsame⟩ | ⟨-, hj⟩
    · rcases hheld j' other hj' with ⟨hji', -⟩ | ⟨-, hj'⟩
      · exact hji.trans hji'.symm
      · exact absurd hsame ((h.held j' other hj').ne hanswer)
    · rcases hheld j' other hj' with ⟨-, hsame⟩ | ⟨-, hj'⟩
      · exact absurd hsame ((h.held j other hj).ne hanswer)
      · exact h.apart j j' other hj hj'
  · intro j shipment hj
    by_cases hji : j = i
    · subst hji
      simp at hj
    · exact h.drafts j shipment (by simpa [Function.update_of_ne hji] using hj)

/-- A step after which the request holds no number, and that draws and enters none. -/
theorem Numbering.released {k : ℕ} {c : Config ι ShipmentTables ShipmentRequest}
    (h : Numbering k c) {i : ι} {tables : ShipmentTables} {r : ShipmentRequest}
    (hnumber : r.number = none)
    (hserial : tables.waybill_serial = c.shared.waybill_serial)
    (hindex : tables.uq_shipments_waybill_number = c.shared.uq_shipments_waybill_number)
    (hrows : ∀ id row, tables.database.shipments id = some row →
      ∃ stored, c.shared.database.shipments id = some stored
        ∧ row.waybill_number = stored.waybill_number) :
    Numbering k ⟨tables, Function.update c.locals i r⟩ := by
  refine h.kept hserial hindex hrows (fun number hheld => ?_) (fun shipment hdraft => ?_)
  · rw [hnumber] at hheld
    cases hheld
  · rw [hdraft] at hnumber
    cases hnumber

/-- An insert enters the number that its request held. -/
theorem Numbering.inserted {k : ℕ} {c : Config ι ShipmentTables ShipmentRequest}
    (h : Numbering k c) {i : ι} {shipment : Shipment} {tables : ShipmentTables}
    (hi : c.locals i = .drafted shipment) (hinsert : c.shared.insert shipment = some tables) :
    Numbering k ⟨tables, Function.update c.locals i .finished⟩ := by
  obtain ⟨row, hrow, hnew, -, rfl⟩ := insert_ok hinsert
  obtain ⟨_, hmade, hnumber, -⟩ := inserted_draft (h.drafts i shipment hi)
  rw [hrow, Option.some.injEq] at hmade
  subst hmade
  have hmine : (c.locals i).number = some shipment.waybill_number := by rw [hi]; rfl
  have hheld : ∀ j number, (Function.update c.locals i .finished j).number = some number →
      j ≠ i ∧ (c.locals j).number = some number := by
    intro j number hj
    by_cases hji : j = i
    · subst hji
      rw [Function.update_self] at hj
      cases hj
    · rw [Function.update_of_ne hji] at hj
      exact ⟨hji, hj⟩
  -- a row is the new one, or was there before
  have hrows : ∀ id r, Function.update c.shared.database.shipments shipment.id (some row) id
      = some r → (id = shipment.id ∧ r = row) ∨ c.shared.database.shipments id = some r := by
    intro id r hr
    by_cases hid : id = shipment.id
    · subst hid
      rw [Function.update_self] at hr
      exact .inl ⟨rfl, (Option.some.inj hr).symm⟩
    · rw [Function.update_of_ne hid] at hr
      exact .inr hr
  have hfree : ∀ id r, c.shared.database.shipments id = some r →
      r.waybill_number ≠ row.waybill_number := by
    intro id r hr hsame
    have hindexed := h.indexed id r hr
    rw [hsame, hnumber] at hindexed
    exact h.free i _ hmine hindexed
  refine ⟨h.serial, fun j number hj => h.held j number (hheld j number hj).2, ?_,
    fun j j' number hj hj' => h.apart j j' number (hheld j number hj).2 (hheld j' number hj').2,
    ?_, ?_, ?_, ?_⟩
  · intro j number hj hentry
    obtain ⟨hji, hj⟩ := hheld j number hj
    rcases List.mem_cons.mp hentry with hmade | hentry
    · rw [hnumber] at hmade
      exact hji (h.apart j i number hj (number_of_value hmade ▸ hmine))
    · exact h.free j number hj hentry
  · intro entry hentry
    rcases List.mem_cons.mp hentry with rfl | hentry
    · exact ⟨shipment.waybill_number, h.held i _ hmine, hnumber.symm⟩
    · exact h.entered entry hentry
  · intro id r hr
    rcases hrows id r hr with ⟨-, rfl⟩ | hr
    · exact List.mem_cons_self
    · exact List.mem_cons_of_mem _ (h.indexed id r hr)
  · intro id id' r r' hr hr' hsame
    rcases hrows id r hr with ⟨hid, hnew⟩ | hr
    · rcases hrows id' r' hr' with ⟨hid', -⟩ | hr'
      · exact hid.trans hid'.symm
      · exact absurd (hnew ▸ hsame.symm) (hfree id' r' hr')
    · rcases hrows id' r' hr' with ⟨-, hnew⟩ | hr'
      · exact absurd (hnew ▸ hsame) (hfree id r hr)
      · exact h.unique id id' r r' hr hr' hsame
  · intro j other hj
    by_cases hji : j = i
    · subst hji
      simp at hj
    · exact h.drafts j other (by simpa [Function.update_of_ne hji] using hj)

theorem serial_numbers_one {k : ℕ} {answer : Except SerialError WaybillNumber}
    (h : WaybillSequence.answer k = answer) : serial_numbers k 1 = answer.toOption.toList := by
  rw [serial_numbers, List.range'_one, List.map_singleton, h]
  cases answer <;> rfl

omit [DecidableEq ι] in
theorem number_drawn_next {c : Config ι ShipmentTables ShipmentRequest} {i : ι}
    {command : CreateDraftShipmentCommand} {shipment_id : Uuid}
    {answer : Except SerialError WaybillNumber} (hk : c.locals i = .drafting command)
    (h : c.shared.waybill_serial.next.1 = answer) :
    number_drawn c (i, .next shipment_id) = answer.toOption.toList := by
  simp only [number_drawn, hk, h]
  cases answer <;> rfl

/-- **One step** draws the next numbers, none or one, and keeps the numbering. -/
theorem Numbering.step {exchange : String} {k : ℕ} {c c' : Config ι ShipmentTables ShipmentRequest}
    (h : Numbering k c) {e : ι × ShipmentRequestStep}
    (hf : fire (service_step exchange) c e = some c') :
    ∃ n, Numbering (k + n) c' ∧ number_drawn c e = serial_numbers k n := by
  obtain ⟨i, a⟩ := e
  obtain ⟨tables, r, hact, rfl⟩ := fire_eq_some.mp hf
  dsimp only at hact ⊢
  have hnext : c.shared.waybill_serial.next
      = (WaybillSequence.answer k, WaybillSequence.after (k + 1)) := by
    rw [h.serial, WaybillSequence.next_after]
  -- a row that no request touches
  have hsame : ∀ id row, c.shared.database.shipments id = some row →
      ∃ stored, c.shared.database.shipments id = some stored
        ∧ row.waybill_number = stored.waybill_number := fun id row hrow => ⟨row, hrow, rfl⟩
  generalize hk : c.locals i = request at hact
  have heffect := service_step_effect hact
  cases heffect with
  | ended hcommit hdraw =>
      refine ⟨0, h.released rfl rfl rfl hsame, ?_⟩
      unfold number_drawn
      split
      · next hdrawn _ => exact absurd hdrawn (hdraw _)
      · rfl
  | @unnumbered command shipment_id e serial hserial =>
      obtain ⟨hanswer, hafter⟩ := Prod.mk.inj (hnext.symm.trans hserial)
      have hkept : Numbering k ⟨c.shared, Function.update c.locals i .finished⟩ :=
        h.released rfl rfl rfl hsame
      refine ⟨1, hkept.later hafter.symm, ?_⟩
      rw [serial_numbers_one hanswer, number_drawn_next hk (congrArg Prod.fst hserial)]
  | @numbered command shipment_id number serial hserial =>
      obtain ⟨hanswer, hafter⟩ := Prod.mk.inj (hnext.symm.trans hserial)
      refine ⟨1, h.drawn hafter.symm hanswer, ?_⟩
      rw [serial_numbers_one hanswer, number_drawn_next hk (congrArg Prod.fst hserial)]
  | @drafted shipment_id number command shipment hcreate =>
      obtain ⟨-, hnumber, -, hmanifest⟩ := create_ok hcreate
      refine ⟨0, h.kept rfl rfl hsame ?_ ?_, ?_⟩
      · intro other hother
        rw [hk, ← hother]
        exact congrArg some hnumber.symm
      · rintro other hother
        rw [ShipmentRequest.drafted.injEq] at hother
        exact hother ▸ hmanifest
      · simp only [number_drawn, hk]
        rfl
  | @inserted shipment tables' hinsert =>
      refine ⟨0, h.inserted hk hinsert, ?_⟩
      simp only [number_drawn, hk]
      rfl
  | loaded hrow =>
      refine ⟨0, h.released rfl rfl rfl hsame, ?_⟩
      simp only [number_drawn, hk]
      rfl
  | redrawn hredraw =>
      refine ⟨0, h.released rfl rfl rfl hsame, ?_⟩
      simp only [number_drawn, hk]
      rfl
  | @rerouted id loaded shipment tables' hreroute =>
      obtain ⟨_, _, -, -, hafter⟩ := reroute_ok hreroute
      refine ⟨0, h.released rfl ?_ ?_ (fun id' row' hrow' => reroute_rows hreroute hrow'), ?_⟩
      · rw [hafter]
      · rw [hafter]
      · simp only [number_drawn, hk]
        rfl
  | @finalization request request' action database hfinalize =>
      refine ⟨0, h.released rfl rfl rfl ?_, ?_⟩
      · intro id row hrow
        obtain ⟨stored, hstored, hnumber, -⟩ := finalize_step_rows hfinalize hrow
        exact ⟨stored, hstored, hnumber⟩
      · simp only [number_drawn, hk]
        rfl

/-- **A run** draws the next numbers and keeps the numbering. -/
theorem Numbering.run {exchange : String} {es : List (ι × ShipmentRequestStep)} :
    ∀ {k : ℕ} {c c' : Config ι ShipmentTables ShipmentRequest}, Numbering k c →
      Runs.run (fire (service_step exchange)) c es = some c' →
      ∃ n, Numbering (k + n) c' ∧ numbers_drawn exchange c es = serial_numbers k n := by
  induction es with
  | nil =>
      intro k c c' h hrun
      rw [run_nil, Option.some.injEq] at hrun
      exact ⟨0, hrun ▸ h, rfl⟩
  | cons e es ih =>
      intro k c c' h hrun
      obtain ⟨c₁, hfire, hrest⟩ := (run_cons_eq_some _).mp hrun
      obtain ⟨n, h₁, hdrawn⟩ := h.step hfire
      obtain ⟨m, h', hlater⟩ := ih h₁ hrest
      refine ⟨n + m, Nat.add_assoc k n m ▸ h', ?_⟩
      rw [numbers_drawn, hfire]
      dsimp only
      rw [hdrawn, hlater, serial_numbers_append]

omit [DecidableEq ι] in
/-- Nothing is drawn at first. -/
theorem numbering_started (requests : ι → ClientRequest) :
    Numbering 0 (service_started requests) where
  serial := rfl
  held := by
    intro i number hnumber
    dsimp only [service_started] at hnumber
    cases hrequest : requests i <;> rw [hrequest] at hnumber <;> cases hnumber
  free := fun _ _ _ => List.not_mem_nil
  apart := by
    intro i j number hnumber
    dsimp only [service_started] at hnumber
    cases hrequest : requests i <;> rw [hrequest] at hnumber <;> cases hnumber
  entered := fun _ hentry => absurd hentry List.not_mem_nil
  indexed := fun _ _ hrow => by cases hrow
  unique := fun _ _ _ _ hrow => by cases hrow
  drafts := by
    intro i shipment hshipment
    dsimp only [service_started] at hshipment
    cases hrequest : requests i <;> rw [hrequest] at hshipment <;> cases hshipment

end Numbers

/-! ## 5. Manifests

What a request read of a shipment stays true of it in the respects that matter: a number
does not change, and a status other than draft does not either. -/

/-- A figure is one after the column has rounded it. -/
theorem numeric_figure {x y : PyFloat} (hx : x.lt (.finite 0) = false)
    (h : numeric_14_3 x = some y) : y.lt (.finite 0) = false := by
  unfold numeric_14_3 at h
  cases x with
  | nan =>
      rw [← Option.some.inj h]
      rfl
  | inf => cases h
  | neg_inf => cases h
  | finite q =>
      have hq : ¬ q * 1000 < 0 := by
        rw [PyFloat.lt, decide_eq_false_iff_not] at hx
        linarith
      dsimp only at h
      rw [if_neg hq] at h
      split at h
      · rw [← Option.some.inj h, PyFloat.lt, decide_eq_false_iff_not, not_lt]
        have hfloor : 0 ≤ ⌊q * 1000 + 1 / 2⌋ := Int.floor_nonneg.mpr (by linarith)
        have hcast : (0 : ℚ) ≤ ⌊q * 1000 + 1 / 2⌋ := by exact_mod_cast hfloor
        positivity
      · cases h

namespace ShipmentRow

/-- Status and manifest agree: a draft declares nothing, and what is declared is a manifest. -/
structure Declared (row : ShipmentRow) : Prop where
  number : ∃ number : WaybillNumber, row.waybill_number = number.value
  status : row.status = .DRAFT ∨ row.status = .READY_FOR_MANIFEST
  draft : row.status = .DRAFT →
    row.total_weight_kg = none ∧ row.total_volume_cbm = none ∧ row.commodity_code = none
  ready : row.status ≠ .DRAFT → ∃ manifest, CargoManifest.from_columns row.total_weight_kg
    row.total_volume_cbm row.commodity_code = .ok (some manifest)

/-- What may become of a row. -/
structure Evolves (row row' : ShipmentRow) : Prop where
  waybill_number : row'.waybill_number = row.waybill_number
  status : row.status ≠ .DRAFT → row'.status = row.status

theorem Evolves.refl (row : ShipmentRow) : row.Evolves row := ⟨rfl, fun _ => rfl⟩

theorem Evolves.trans {a b c : ShipmentRow} (hab : a.Evolves b) (hbc : b.Evolves c) :
    a.Evolves c where
  waybill_number := hbc.waybill_number.trans hab.waybill_number
  status := fun ha => by
    have hb := hab.status ha
    rw [hbc.status (hb ▸ ha), hb]

theorem Declared.with_route {row : ShipmentRow} (h : row.Declared)
    (columns : String × String × List String) : (row.with_route columns).Declared :=
  ⟨h.number, h.status, h.draft, h.ready⟩

end ShipmentRow

/-- A finalization took a draft, and announces the manifest it assigned. -/
theorem finalize_made {id : Uuid} {row after : ShipmentRow} {command : FinalizeManifestCommand}
    {event : ShipmentManifestFinalized} (h : finalize id row command = some (after, event)) :
    ∃ shipment manifest, row.to_shipment id = .ok shipment ∧ shipment.status = .DRAFT
      ∧ CargoManifest.make (.float command.total_weight_kg) (.float command.total_volume_cbm)
        (.str command.commodity_code) = .ok manifest
      ∧ after = row.assigned
        { shipment with manifest := some manifest, status := .READY_FOR_MANIFEST }
      ∧ event = shipment.announcement manifest := by
  unfold finalize at h
  split at h
  · cases h
  · next shipment hload =>
    split at h
    · cases h
    · next manifest hmake =>
      rcases shipment.finalize_manifest_cases manifest with ⟨e, he⟩ | ⟨hdraft, -, hok⟩
      · rw [he] at h
        cases h
      · rw [hok] at h
        cases h
        exact ⟨shipment, manifest, hload, hdraft, hmake, rfl, rfl⟩

/-- A figure that a draft did not have comes out rounded, whatever is stored by then. -/
theorem numeric_column_new {x : PyFloat} {stored column : Option PyFloat}
    (h : ShipmentRow.numeric_column none (some x) stored = some column) :
    ∃ y, column = some y ∧ numeric_14_3 x = some y := by
  have hne : some x ≠ none := Option.some_ne_none x
  rw [ShipmentRow.numeric_column, column_of_ne hne] at h
  dsimp only at h
  rw [if_neg hne] at h
  obtain ⟨y, hy, rfl⟩ := Option.map_eq_some_iff.mp h
  exact ⟨y, rfl, hy⟩

/-- The number and the identifier of an aggregate are those of its row. -/
theorem to_shipment_number {id : Uuid} {row : ShipmentRow} {shipment : Shipment}
    (hrow : row.Declared) (h : row.to_shipment id = .ok shipment) :
    shipment.id = id ∧ shipment.status = row.status
      ∧ shipment.waybill_number.value = row.waybill_number := by
  obtain ⟨hid, hstatus⟩ := ShipmentRow.to_shipment_ok h
  refine ⟨hid, hstatus, ?_⟩
  obtain ⟨number, hnumber⟩ := hrow.number
  unfold ShipmentRow.to_shipment at h
  rw [hnumber, number.make_value] at h
  simp only [bind, Except.bind] at h
  split at h
  · cases h
  · split at h
    · cases h
    · cases h
      exact hnumber.symm

/-- A manifest is read back with other figures. -/
theorem CargoManifest.from_columns_rounded {total_weight_kg total_volume_cbm commodity_code : Value}
    {manifest : CargoManifest}
    (h : make total_weight_kg total_volume_cbm commodity_code = .ok manifest) {y z : PyFloat}
    (hy : y.lt (.finite 0) = false) (hz : z.lt (.finite 0) = false) :
    ∃ made, from_columns (some y) (some z) (some manifest.commodity_code) = .ok (some made) := by
  obtain ⟨-, -, hcode⟩ := make_cases.mp h
  have hagain := validated_code_again hcode
  have hweight : _validated_measure (.float y) "total weight (kg)" = .ok ⟨y, hy⟩ :=
    validated_measure_float.mpr rfl
  have hvolume : _validated_measure (.float z) "total volume (cbm)" = .ok ⟨z, hz⟩ :=
    validated_measure_float.mpr rfl
  have hmade : make (.float y) (.float z) (.str manifest.commodity_code)
      = .ok ⟨⟨y, hy⟩, ⟨z, hz⟩, manifest.commodity_code, manifest.code_required,
        manifest.code_fits⟩ :=
    make_cases.mpr ⟨hweight, hvolume, hagain⟩
  simp only [from_columns, Option.map_some, Option.getD_some, hmade]
  exact ⟨_, rfl⟩

/-- **What a finalization leaves of a row** is declared, whatever became of the row since the
request read it: the draft it read had no manifest, so every column of one is written. -/
theorem finalize_flush {id : Uuid} {loaded after stored row : ShipmentRow}
    {command : FinalizeManifestCommand} {event : ShipmentManifestFinalized}
    (hloaded : loaded.Declared) (h : finalize id loaded command = some (after, event))
    (hstored : stored.Declared) (hflush : loaded.flush after stored = some row) :
    row.Declared ∧ row.status = .READY_FOR_MANIFEST ∧ stored.Evolves row
      ∧ row.route_columns = stored.route_columns
      ∧ event.shipment_id = id.str ∧ event.waybill_number = loaded.waybill_number := by
  obtain ⟨shipment, manifest, hread, hdraft, hmake, rfl, rfl⟩ := finalize_made h
  obtain ⟨hid, hstatus, hnumber⟩ := to_shipment_number hloaded hread
  obtain ⟨hweight, hvolume, hcode⟩ := hloaded.draft (hstatus ▸ hdraft)
  obtain ⟨w, v, hw, hv, rfl⟩ := ShipmentRow.flush_cases.mp hflush
  rw [hweight] at hw
  rw [hvolume] at hv
  obtain ⟨y, rfl, hy⟩ := numeric_column_new hw
  obtain ⟨z, rfl, hz⟩ := numeric_column_new hv
  have hready : column loaded.status TrackingStatus.READY_FOR_MANIFEST stored.status
      = .READY_FOR_MANIFEST := by
    rw [← hstatus, hdraft]
    exact column_of_ne nofun
  have hmanifest : ∃ made, CargoManifest.from_columns (some y) (some z)
      (column loaded.commodity_code (some manifest.commodity_code) stored.commodity_code)
        = .ok (some made) := by
    rw [hcode, column_of_ne (Option.some_ne_none _)]
    exact CargoManifest.from_columns_rounded hmake
      (numeric_figure manifest.total_weight_kg.property hy)
      (numeric_figure manifest.total_volume_cbm.property hz)
  refine ⟨⟨hstored.number, .inr hready, ?_, fun _ => hmanifest⟩, hready, ⟨rfl, ?_⟩, rfl, ?_,
    hnumber⟩
  · intro hrow
    dsimp only at hrow
    rw [ShipmentRow.assigned, hready] at hrow
    cases hrow
  · intro hne
    exact hready.trans (hstored.status.resolve_left hne).symm
  · rw [← hid]
    rfl

/-- What the committed rows promise: they are declared, and announced exactly when they are
no drafts any more, under their number. -/
structure ShipmentTables.Sound (tables : ShipmentTables) : Prop where
  declared : ∀ id row, tables.database.shipments id = some row → row.Declared
  announced : ∀ id row, tables.database.shipments id = some row →
    (row.status = .DRAFT ↔ announcements tables.database id = [])
  known : ∀ id, tables.database.shipments id = none → announcements tables.database id = []
  named : ∀ id row, tables.database.shipments id = some row →
    ∀ message ∈ announcements tables.database id,
      body_text message "waybill_number" = some row.waybill_number

/-- What may become of the tables: no row goes, and no announcement. -/
structure ShipmentTables.Evolve (tables tables' : ShipmentTables) : Prop where
  rows : ∀ id row, tables.database.shipments id = some row →
    ∃ row', tables'.database.shipments id = some row' ∧ row.Evolves row'
  outbox : tables.database.outbox <+: tables'.database.outbox

theorem ShipmentTables.Evolve.refl (tables : ShipmentTables) : tables.Evolve tables :=
  ⟨fun _ row hrow => ⟨row, hrow, .refl row⟩, List.prefix_rfl⟩

theorem ShipmentTables.Evolve.trans {a b c : ShipmentTables} (hab : a.Evolve b)
    (hbc : b.Evolve c) : a.Evolve c := by
  refine ⟨fun id row hrow => ?_, hab.outbox.trans hbc.outbox⟩
  obtain ⟨row', hrow', hfirst⟩ := hab.rows id row hrow
  obtain ⟨row'', hrow'', hsecond⟩ := hbc.rows id row' hrow'
  exact ⟨row'', hrow'', hfirst.trans hsecond⟩

/-- A row that was read is declared, and the stored one has come out of it. -/
def ShipmentTables.Read (tables : ShipmentTables) (id : Uuid) (row : ShipmentRow) : Prop :=
  row.Declared ∧ ∃ stored, tables.database.shipments id = some stored ∧ row.Evolves stored

theorem ShipmentTables.Read.mono {tables tables' : ShipmentTables} {id : Uuid}
    {row : ShipmentRow} (h : tables.Evolve tables') (hrow : tables.Read id row) :
    tables'.Read id row := by
  obtain ⟨hdeclared, stored, hstored, hevolves⟩ := hrow
  obtain ⟨stored', hstored', hlater⟩ := h.rows id stored hstored
  exact ⟨hdeclared, stored', hstored', hevolves.trans hlater⟩

/-- What a request knows of the tables. -/
def ShipmentRequest.Informed (tables : ShipmentTables) : ShipmentRequest → Prop
  | .drafted shipment => shipment.status = .DRAFT ∧ shipment.manifest = none
  | .loaded id row _ => tables.Read id row
  | .rerouted id row _ => tables.Read id row
  | .finalization (.loaded id row _) => tables.Read id row
  | .finalization (.handled id row after event) =>
    tables.Read id row ∧ ∃ command, finalize id row command = some (after, event)
  | _ => True

theorem ShipmentRequest.Informed.mono {tables tables' : ShipmentTables} {k : ShipmentRequest}
    (h : tables.Evolve tables') (hk : k.Informed tables) : k.Informed tables' := by
  cases k with
  | drafting command => trivial
  | numbered shipment_id number command => trivial
  | drafted shipment => exact hk
  | rerouting shipment_id command => trivial
  | loaded id row command => exact ShipmentTables.Read.mono h hk
  | rerouted id row shipment => exact ShipmentTables.Read.mono h hk
  | finalization request =>
      cases request with
      | received shipment_id command => trivial
      | loaded id row command => exact ShipmentTables.Read.mono h hk
      | handled id row after event => exact ⟨ShipmentTables.Read.mono h hk.1, hk.2⟩
      | finished => trivial
  | finished => trivial

/-- A row is replaced by one it may become, and nothing else changes. -/
theorem sound_replaced {tables : ShipmentTables} (h : tables.Sound) {id : Uuid}
    {stored row : ShipmentRow} (hstored : tables.database.shipments id = some stored)
    (hdeclared : row.Declared) (hstatus : row.status = stored.status)
    (hnumber : row.waybill_number = stored.waybill_number) :
    ShipmentTables.Sound { tables with
        database := { tables.database with
          shipments := Function.update tables.database.shipments id (some row) } }
      ∧ tables.Evolve { tables with
        database := { tables.database with
          shipments := Function.update tables.database.shipments id (some row) } } := by
  have hrows : ∀ id' r, Function.update tables.database.shipments id (some row) id' = some r →
      ∃ r₀, tables.database.shipments id' = some r₀ ∧ r.status = r₀.status
        ∧ r.waybill_number = r₀.waybill_number ∧ r.Declared := by
    intro id' r hr
    by_cases hid : id' = id
    · rw [hid, Function.update_self, Option.some.injEq] at hr
      exact ⟨stored, hid ▸ hstored, hr ▸ hstatus, hr ▸ hnumber, hr ▸ hdeclared⟩
    · rw [Function.update_of_ne hid] at hr
      exact ⟨r, hr, rfl, rfl, h.declared id' r hr⟩
  refine ⟨⟨?_, ?_, ?_, ?_⟩, ?_, List.prefix_rfl⟩
  · intro id' r hr
    obtain ⟨_, -, -, -, hr⟩ := hrows id' r hr
    exact hr
  · intro id' r hr
    obtain ⟨r₀, hr₀, hsame, -⟩ := hrows id' r hr
    rw [hsame]
    exact h.announced id' r₀ hr₀
  · intro id' hnone
    apply h.known id'
    by_cases hid : id' = id
    · rw [hid] at hnone
      dsimp only at hnone
      rw [Function.update_self] at hnone
      cases hnone
    · dsimp only at hnone
      rwa [Function.update_of_ne hid] at hnone
  · intro id' r hr message hmessage
    obtain ⟨r₀, hr₀, -, hsame, -⟩ := hrows id' r hr
    rw [hsame]
    exact h.named id' r₀ hr₀ message hmessage
  · intro id' r hr
    by_cases hid : id' = id
    · rw [hid, hstored, Option.some.injEq] at hr
      refine ⟨row, ?_, hr ▸ hnumber, fun _ => hr ▸ hstatus⟩
      dsimp only
      rw [hid, Function.update_self]
    · refine ⟨r, ?_, .refl r⟩
      dsimp only
      rwa [Function.update_of_ne hid]

/-- A draft is inserted: nobody has announced it. -/
theorem sound_inserted {tables tables' : ShipmentTables} (h : tables.Sound) {shipment : Shipment}
    (hdraft : shipment.status = .DRAFT) (hmanifest : shipment.manifest = none)
    (hinsert : tables.insert shipment = some tables') :
    tables'.Sound ∧ tables.Evolve tables' := by
  obtain ⟨row, hrow, hnew, -, rfl⟩ := insert_ok hinsert
  obtain ⟨_, hmade, hnumber, hstatus, hweight, hvolume, hcode, -⟩ := inserted_draft hmanifest
  rw [hrow, Option.some.injEq] at hmade
  subst hmade
  rw [hdraft] at hstatus
  have hdeclared : row.Declared :=
    ⟨⟨shipment.waybill_number, hnumber⟩, .inl hstatus, fun _ => ⟨hweight, hvolume, hcode⟩,
      fun hne => absurd hstatus hne⟩
  have hunannounced : announcements tables.database shipment.id = [] := h.known _ hnew
  have hrows : ∀ id r, Function.update tables.database.shipments shipment.id (some row) id
      = some r → (id = shipment.id ∧ r = row) ∨ tables.database.shipments id = some r := by
    intro id r hr
    by_cases hid : id = shipment.id
    · rw [hid, Function.update_self, Option.some.injEq] at hr
      exact .inl ⟨hid, hr.symm⟩
    · rw [Function.update_of_ne hid] at hr
      exact .inr hr
  refine ⟨⟨?_, ?_, ?_, ?_⟩, ?_, List.prefix_rfl⟩
  · intro id r hr
    rcases hrows id r hr with ⟨-, rfl⟩ | hr
    · exact hdeclared
    · exact h.declared id r hr
  · intro id r hr
    rcases hrows id r hr with ⟨rfl, rfl⟩ | hr
    · exact iff_of_true hstatus hunannounced
    · exact h.announced id r hr
  · intro id hnone
    apply h.known id
    dsimp only at hnone
    by_cases hid : id = shipment.id
    · rw [hid, Function.update_self] at hnone
      cases hnone
    · rwa [Function.update_of_ne hid] at hnone
  · intro id r hr message hmessage
    rcases hrows id r hr with ⟨rfl, -⟩ | hr
    · have hnone : message ∈ announcements tables.database shipment.id := hmessage
      rw [hunannounced] at hnone
      exact absurd hnone List.not_mem_nil
    · exact h.named id r hr message hmessage
  · intro id r hr
    refine ⟨r, ?_, .refl r⟩
    dsimp only
    rw [Function.update_of_ne, hr]
    rintro rfl
    rw [hnew] at hr
    cases hr

/-- A finalization is committed: its row is a draft no more, and announced. -/
theorem sound_finalized {tables : ShipmentTables} {database : ShipmentDatabase}
    (h : tables.Sound) {exchange : String} {id message_id : Uuid} {row after : ShipmentRow}
    {command : FinalizeManifestCommand} {event : ShipmentManifestFinalized} {now : ℕ}
    (hread : tables.Read id row) (hfinalize : finalize id row command = some (after, event))
    (hcommit : tables.database.commit exchange id row after event message_id now
      = some database) :
    ShipmentTables.Sound { tables with database } ∧ tables.Evolve { tables with database } := by
  obtain ⟨hdeclared, current, hcurrent, hevolves⟩ := hread
  obtain ⟨stored, new, hstored, hflush, hshipments, houtbox⟩ := commit_ok hcommit
  rw [hcurrent, Option.some.injEq] at hstored
  subst hstored
  obtain ⟨hnew, hready, hlater, -, hevent, hnumber⟩ :=
    finalize_flush hdeclared hfinalize (h.declared id current hcurrent) hflush
  have hann := fun id' =>
    @announcements_commit _ _ exchange id' id event message_id now hevent houtbox
  have hrow : database.shipments id = some new := by rw [hshipments, Function.update_self]
  have hother : ∀ id', id' ≠ id → database.shipments id' = tables.database.shipments id' :=
    fun id' hid => by rw [hshipments, Function.update_of_ne hid]
  refine ⟨⟨?_, ?_, ?_, ?_⟩, ?_, ?_⟩
  · intro id' r hr
    by_cases hid : id' = id
    · rw [hid, hrow, Option.some.injEq] at hr
      exact hr ▸ hnew
    · rw [hother id' hid] at hr
      exact h.declared id' r hr
  · intro id' r hr
    dsimp only at hr ⊢
    rw [hann id']
    by_cases hid : id' = id
    · rw [hid, hrow, Option.some.injEq] at hr
      rw [if_pos hid.symm, ← hr, hready]
      exact iff_of_false nofun (by simp)
    · rw [hother id' hid] at hr
      rw [if_neg (Ne.symm hid), List.append_nil]
      exact h.announced id' r hr
  · intro id' hnone
    dsimp only at hnone ⊢
    have hid : id' ≠ id := by
      rintro rfl
      rw [hrow] at hnone
      cases hnone
    rw [hann id', if_neg (Ne.symm hid), List.append_nil]
    rw [hother id' hid] at hnone
    exact h.known id' hnone
  · intro id' r hr message hmessage
    dsimp only at hr hmessage
    rw [hann id'] at hmessage
    by_cases hid : id' = id
    · subst hid
      rw [hrow, Option.some.injEq] at hr
      subst hr
      rw [hlater.waybill_number]
      rw [if_pos rfl, List.mem_append, List.mem_singleton] at hmessage
      rcases hmessage with hmessage | rfl
      · exact h.named id' current hcurrent message hmessage
      · -- what the request announced is the number it read
        rw [hevolves.waybill_number, ← hnumber]
        rfl
    · rw [if_neg (Ne.symm hid), List.append_nil] at hmessage
      rw [hother id' hid] at hr
      exact h.named id' r hr message hmessage
  · intro id' r hr
    by_cases hid : id' = id
    · rw [hid, hcurrent, Option.some.injEq] at hr
      exact ⟨new, hid ▸ hrow, hr ▸ hlater⟩
    · exact ⟨r, (hother id' hid).trans hr, .refl r⟩
  · dsimp only
    rw [houtbox]
    exact List.prefix_append _ _

theorem service_outline {ι : Type*} (exchange : String) :
    Outline (service_step (ι := ι) exchange) (fun _ _ _ => True) ShipmentTables.Sound
      (fun tables _ k => k.Informed tables) (fun _ tables tables' => tables.Evolve tables') where
  own := by
    intro i tables k a tables' k' h hk hstep _
    have heffect := service_step_effect hstep
    cases heffect with
    | ended => exact ⟨h, trivial, .refl tables⟩
    | unnumbered => exact ⟨⟨h.declared, h.announced, h.known, h.named⟩, trivial,
        fun id row hrow => ⟨row, hrow, .refl row⟩, List.prefix_rfl⟩
    | numbered => exact ⟨⟨h.declared, h.announced, h.known, h.named⟩, trivial,
        fun id row hrow => ⟨row, hrow, .refl row⟩, List.prefix_rfl⟩
    | drafted hcreate =>
        obtain ⟨-, -, hdraft, hmanifest⟩ := create_ok hcreate
        exact ⟨h, ⟨hdraft, hmanifest⟩, .refl tables⟩
    | inserted hinsert =>
        obtain ⟨h', hevolve⟩ := sound_inserted h hk.1 hk.2 hinsert
        exact ⟨h', trivial, hevolve⟩
    | @loaded shipment_id id row command hrow =>
        exact ⟨h, ⟨h.declared id row hrow, row, hrow, .refl row⟩, .refl tables⟩
    | redrawn => exact ⟨h, hk, .refl tables⟩
    | rerouted hreroute =>
        obtain ⟨stored, row, hstored, hflush, rfl⟩ := reroute_ok hreroute
        have hrow := ShipmentRow.flush_route_ok hflush
        obtain ⟨h', hevolve⟩ := sound_replaced h hstored
          (hrow ▸ (h.declared _ stored hstored).with_route _) (by rw [hrow]; rfl)
          (by rw [hrow]; rfl)
        exact ⟨h', trivial, hevolve⟩
    | @finalization request request' action database hfinalize =>
        rcases finalize_step_cases hfinalize with
          ⟨rfl, -, hrequest⟩ |
            ⟨id, row, after, event, message_id, now, rfl, rfl, rfl, hcommit⟩
        · refine ⟨h, ?_, .refl tables⟩
          rcases hrequest with rfl | ⟨id, row, command, hrow, rfl⟩ |
            ⟨id, row, command, after, event, rfl, hmade, rfl⟩
          · trivial
          · exact ⟨h.declared id row hrow, row, hrow, .refl row⟩
          · exact ⟨hk, command, hmade⟩
        · obtain ⟨hread, command, hmade⟩ := hk
          obtain ⟨h', hevolve⟩ := sound_finalized h hread hmade hcommit
          exact ⟨h', trivial, hevolve⟩
  stable := fun _ _ _ _ _ _ _ hevolve hk => hk.mono hevolve

/-! ## 6. Every run -/

section EveryRun

variable {ι : Type*}

theorem holds_started (requests : ι → ClientRequest) :
    Holds ShipmentTables.Sound (fun tables _ k => k.Informed tables)
      (service_started requests) := by
  have hempty : ∀ id row, ShipmentTables.migrated.database.shipments id ≠ some row :=
    fun _ row hrow => Option.some_ne_none row hrow.symm
  refine ⟨⟨fun id row hrow => absurd hrow (hempty id row),
    fun id row hrow => absurd hrow (hempty id row), fun _ _ => rfl,
    fun id row hrow => absurd hrow (hempty id row)⟩, fun i => ?_⟩
  dsimp only [service_started]
  cases requests i <;> trivial

variable [DecidableEq ι]

/-- Whatever the requests do, the tables evolve. -/
theorem run_evolves {exchange : String} {c c' : Config ι ShipmentTables ShipmentRequest}
    {es : List (ι × ShipmentRequestStep)}
    (h : Holds ShipmentTables.Sound (fun tables _ k => k.Informed tables) c)
    (hrun : run (fire (service_step exchange)) c es = some c') : c.shared.Evolve c'.shared := by
  have halong : Along (fire (service_step exchange))
      (fun c _ c' => c.shared.Evolve c'.shared) c es :=
    (service_outline exchange).along
      (fun _ _ _ hc hfire => ((service_outline exchange).fire hc hfire trivial).2) h
  exact along_rel (fire (service_step exchange)) (fun c => .refl c.shared)
    (fun _ _ _ hab hbc => hab.trans hbc) halong hrun

/-- Two drafts, and two requests on the first. -/
def sample_clients : ℕ → ClientRequest
  | 0 => .create_draft_shipment ⟨"GBLON", "ZADUR"⟩
  | 1 => .create_draft_shipment ⟨"FIHEL", "MXVER"⟩
  | 2 => .finalize_manifest (Uuid.of_byte 21).str ⟨.finite 4100, .finite 12, "2204"⟩
  | _ => .assign_route (Uuid.of_byte 21).str ⟨"GBLON", "ZADUR", ["NAWVB"]⟩

/-- The second draft is inserted before the first. -/
def sample_drafting : List (ℕ × ShipmentRequestStep) :=
  [(0, .next (.of_byte 21)), (1, .next (.of_byte 22)), (1, .handle), (1, .commit),
    (0, .handle), (0, .commit)]

/-- The route is redrawn on a copy that was read before the manifest was finalized. -/
def sample_rerouting : List (ℕ × ShipmentRequestStep) :=
  [(3, .find_by_id), (2, .finalization .find_by_id), (2, .finalization .handle),
    (2, .finalization (.commit (.of_byte 120) 5)), (3, .handle), (3, .commit)]

theorem sample_runs : ∃ c c',
    run (fire (service_step "topic")) (service_started sample_clients) sample_drafting = some c
    ∧ run (fire (service_step "topic")) c sample_rerouting = some c'
    ∧ (∃ row, c.shared.database.shipments (.of_byte 21) = some row)
    ∧ (∃ row', c'.shared.database.shipments (.of_byte 21) = some row'
      ∧ row'.status = .READY_FOR_MANIFEST ∧ row'.transit_legs = ["NAWVB"]) := by
  have hall : (run (fire (service_step "topic")) (service_started sample_clients)
      sample_drafting).any (fun c => (c.shared.database.shipments (.of_byte 21)).isSome
        && (run (fire (service_step "topic")) c sample_rerouting).any fun c' =>
          (c'.shared.database.shipments (.of_byte 21)).any fun row' =>
            row'.status == .READY_FOR_MANIFEST && row'.transit_legs == ["NAWVB"]) = true := by
    decide +kernel
  simp only [Option.any_eq_true, Bool.and_eq_true, beq_iff_eq, Option.isSome_iff_exists] at hall
  obtain ⟨c, hc, ⟨row, hrow⟩, c', hc', row', hrow', hstatus, hlegs⟩ := hall
  exact ⟨c, c', hc, hc', ⟨row, hrow⟩, row', hrow', hstatus, hlegs⟩

/-- **A waybill number is given once.** In every interleaving of any requests, also where
requests fail and leave gaps: no two draws give one number, every row has a number that was
drawn, keeps it, and shares it with no other row, and the index never refuses a draft. -/
theorem waybill_numbers_unique {exchange : String} {requests : ι → ClientRequest}
    {es later : List (ι × ShipmentRequestStep)}
    {c c' : Config ι ShipmentTables ShipmentRequest}
    (hrun : run (fire (service_step exchange)) (service_started requests) es = some c)
    (hlater : run (fire (service_step exchange)) c later = some c') :
    (numbers_drawn exchange (service_started requests) (es ++ later)).Nodup
    ∧ (∀ id row, c.shared.database.shipments id = some row →
      (∃ number ∈ numbers_drawn exchange (service_started requests) es,
        number.value = row.waybill_number)
      ∧ (∃ row', c'.shared.database.shipments id = some row'
        ∧ row'.waybill_number = row.waybill_number)
      ∧ ∀ id' row', c.shared.database.shipments id' = some row' →
        row'.waybill_number = row.waybill_number → id' = id)
    ∧ ∀ i shipment, c.locals i = .drafted shipment →
      c.shared.database.shipments shipment.id = none →
      ∃ tables, c.shared.insert shipment = some tables := by
  obtain ⟨n, hnumbering, hdrawn⟩ := (numbering_started requests).run hrun
  have hall : run (fire (service_step exchange)) (service_started requests) (es ++ later)
      = some c' := by
    rw [run_append, hrun]
    exact hlater
  obtain ⟨m, -, hboth⟩ := (numbering_started requests).run hall
  have hevolve := run_evolves ((service_outline exchange).run (holds_started requests) hrun) hlater
  rw [Nat.zero_add] at hnumbering
  refine ⟨?_, fun id row hrow => ⟨?_, ?_, ?_⟩, ?_⟩
  · rw [hboth]
    exact serial_numbers_nodup 0 m
  · obtain ⟨number, hnumber, hvalue⟩ := hnumbering.entered _ (hnumbering.indexed id row hrow)
    rw [hdrawn]
    exact ⟨number, mem_serial_numbers.mpr hnumber, hvalue⟩
  · obtain ⟨row', hrow', hkept⟩ := hevolve.rows id row hrow
    exact ⟨row', hrow', hkept.waybill_number⟩
  · exact fun id' row' hrow' hsame => hnumbering.unique id' id row' row hrow' hrow hsame
  · intro i shipment hi hnew
    obtain ⟨row, hrow, hnumber, -⟩ := inserted_draft (hnumbering.drafts i shipment hi)
    have hfree : row.waybill_number ∉ c.shared.uq_shipments_waybill_number := by
      rw [hnumber]
      exact hnumbering.free i _ (by rw [hi]; rfl)
    have hcontains : c.shared.uq_shipments_waybill_number.contains row.waybill_number = false := by
      rw [← Bool.not_eq_true, List.contains_iff_mem]
      exact hfree
    unfold ShipmentTables.insert
    rw [hrow]
    dsimp only
    rw [hnew, hcontains]
    exact ⟨_, rfl⟩

/-- The numbers of the two drafts. -/
theorem waybill_numbers_sample : ∃ c c',
    run (fire (service_step "topic")) (service_started sample_clients) sample_drafting = some c
    ∧ run (fire (service_step "topic")) c sample_rerouting = some c'
    ∧ (numbers_drawn "topic" (service_started sample_clients)
      (sample_drafting ++ sample_rerouting)).Nodup := by
  obtain ⟨c, c', hrun, hlater, -⟩ := sample_runs
  exact ⟨c, c', hrun, hlater, (waybill_numbers_unique hrun hlater).1⟩

/-- **A finalization is never undone.** In every interleaving of any requests, a row is a
draft exactly when nobody has announced it, a draft declares nothing and every other row a
manifest, and the announcements carry the number of the row. A row that is no draft is never
one again, whatever copy of it a request read, and no announcement is taken back. -/
theorem finalization_never_undone {exchange : String} {requests : ι → ClientRequest}
    {es later : List (ι × ShipmentRequestStep)}
    {c c' : Config ι ShipmentTables ShipmentRequest}
    (hrun : run (fire (service_step exchange)) (service_started requests) es = some c)
    (hlater : run (fire (service_step exchange)) c later = some c')
    {id : Uuid} {row : ShipmentRow} (hrow : c.shared.database.shipments id = some row) :
    row.Declared
    ∧ (row.status = .DRAFT ↔ announcements c.shared.database id = [])
    ∧ (∀ message ∈ announcements c.shared.database id,
      body_text message "waybill_number" = some row.waybill_number)
    ∧ (∃ row', c'.shared.database.shipments id = some row' ∧ row.Evolves row')
    ∧ c.shared.database.outbox <+: c'.shared.database.outbox := by
  have hholds := (service_outline exchange).run (holds_started requests) hrun
  have hsound := hholds.1
  have hevolve := run_evolves hholds hlater
  exact ⟨hsound.declared id row hrow, hsound.announced id row hrow, hsound.named id row hrow,
    hevolve.rows id row hrow, hevolve.outbox⟩

/-- The finalization of the sample, and the route that was redrawn on the draft. -/
theorem finalization_never_undone_sample : ∃ c c' row,
    run (fire (service_step "topic")) (service_started sample_clients) sample_drafting = some c
    ∧ run (fire (service_step "topic")) c sample_rerouting = some c'
    ∧ c.shared.database.shipments (.of_byte 21) = some row
    ∧ (row.status = .DRAFT ↔ announcements c.shared.database (.of_byte 21) = [])
    ∧ ∃ row', c'.shared.database.shipments (.of_byte 21) = some row' ∧ row.Evolves row' := by
  obtain ⟨c, c', hrun, hlater, ⟨row, hrow⟩, -⟩ := sample_runs
  obtain ⟨-, hannounced, -, hkept, -⟩ := finalization_never_undone hrun hlater hrow
  exact ⟨c, c', row, hrun, hlater, hrow, hannounced, hkept⟩

end EveryRun

end TradeLogistics.Shipments
