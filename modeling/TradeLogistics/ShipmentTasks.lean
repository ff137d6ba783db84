/-
The tasks an answer about a shipment offers, and what becomes of them.

Each controller renders the links from the aggregate its request worked on. By the time the
client follows one, others have committed; so what a link is worth is a statement about
runs: whoever follows the one to the route or to the manifest, and however late, it leads to
that operation on the shipment it was offered for, and which state carries the operation out
is said exactly. The third kind of link leads to no operation.

A request that is followed is the one of `ShipmentRequests`, from its first read to its
commit without another in between. What the others did before is any run.
-/
import TradeLogistics.RouteRequests
import TradeLogistics.Hypermedia

set_option autoImplicit false

namespace TradeLogistics.Shipments

open TradeLogistics.PyText TradeLogistics.PyNumber TradeLogistics.Runs
open TradeLogistics.UnitOfWork TradeLogistics.MessageBus TradeLogistics.Http

/-! ## 1. The links -/

/-- `_next_tasks` of `create_draft_shipment_controller`. -/
def create_draft_shipment_controller._next_tasks (shipment_id : String) : List Link :=
  [{ rel := "assign-route", href := s!"/shipments/{shipment_id}/route", method := "PUT" },
    { rel := "finalize-manifest", href := s!"/shipments/{shipment_id}/finalize-manifest",
      method := "POST" }]

/-- `_next_tasks` of `assign_route_controller`. -/
def assign_route_controller._next_tasks (shipment : Shipment) : List Link :=
  let shipment_id := shipment.id.str
  [{ rel := "assign-route", href := s!"/shipments/{shipment_id}/route", method := "PUT" }]
    ++ if shipment.status = .DRAFT then
      [{ rel := "finalize-manifest", href := s!"/shipments/{shipment_id}/finalize-manifest",
         method := "POST" }]
    else []

/-- `_next_tasks` of `finalize_manifest_controller`. -/
def finalize_manifest_controller._next_tasks (shipment : Shipment) : List Link :=
  let shipment_id := shipment.id.str
  (if shipment.status ∉ ROUTE_LOCKED_STATUSES then
    [{ rel := "assign-route", href := s!"/shipments/{shipment_id}/route", method := "PUT" }]
  else [])
    ++ [{ rel := "flag-exception", href := s!"/shipments/{shipment_id}/flag-exception",
          method := "POST" }]

/-- The aggregate a committed request answers with, and the links of the answer. That of a
finalization is the one whose columns the session wrote. -/
inductive Answered : ShipmentRequest → ShipmentRequestStep → Shipment → List Link → Prop
  | drafted (shipment : Shipment) :
      Answered (.drafted shipment) .commit shipment
        (create_draft_shipment_controller._next_tasks shipment.id.str)
  | rerouted (id : Uuid) (row : ShipmentRow) (shipment : Shipment) :
      Answered (.rerouted id row shipment) .commit shipment
        (assign_route_controller._next_tasks shipment)
  | finalized (id : Uuid) (row : ShipmentRow) (shipment : Shipment)
      (event : ShipmentManifestFinalized) (message_id : Uuid) (now : ℕ) (hid : shipment.id = id) :
      Answered (.finalization (.handled id row (row.assigned shipment) event))
        (.finalization (.commit message_id now)) shipment
        (finalize_manifest_controller._next_tasks shipment)

/-! ## 2. Following a link -/

/-- What a client sends with a request. -/
inductive RequestBody where
  | draft (command : CreateDraftShipmentCommand)
  | route (command : AssignRouteCommand)
  | manifest (command : FinalizeManifestCommand)

/-- The request a link and a body make. -/
def request_of (link : Link) (body : RequestBody) : Option ClientRequest :=
  match link.leads_to, body with
  | .handled .create_draft_shipment [], .draft command => some (.create_draft_shipment command)
  | .handled .assign_route [shipment_id], .route command =>
    some (.assign_route shipment_id command)
  | .handled .finalize_manifest [shipment_id], .manifest command =>
    some (.finalize_manifest shipment_id command)
  | _, _ => none

/-- The actions of a request from its first to its commit; `fresh` is what `uuid4()`
answers it. -/
def ClientRequest.actions (fresh : Uuid) (now : ℕ) : ClientRequest → List ShipmentRequestStep
  | .create_draft_shipment _ => [.next fresh, .handle, .commit]
  | .assign_route _ _ => [.find_by_id, .handle, .commit]
  | .finalize_manifest _ _ =>
    [.finalization .find_by_id, .finalization .handle, .finalization (.commit fresh now)]

/-- The request is carried out on these tables when nobody comes in between. -/
def CarriedOut (exchange : String) (tables : ShipmentTables) (request : ClientRequest)
    (fresh : Uuid) (now : ℕ) : Prop :=
  ∃ c, run (fire (service_step exchange)) ⟨tables, fun _ : Unit => request.received⟩
    ((request.actions fresh now).map ((), ·)) = some c

/-- A route the domain takes. -/
def AssignRouteCommand.Valid (command : AssignRouteCommand) : Prop :=
  ∃ route, ShipmentRoute.make (.str command.origin_port_code)
    (.str command.destination_port_code) (.sequence (command.transit_legs.map Value.str))
      = .ok route

/-- A manifest the domain takes for a finalization, of figures the columns can hold. -/
def FinalizeManifestCommand.Valid (command : FinalizeManifestCommand) : Prop :=
  ∃ manifest, CargoManifest.make (.float command.total_weight_kg)
      (.float command.total_volume_cbm) (.str command.commodity_code) = .ok manifest
    ∧ manifest.total_weight_kg.val.le (.finite 0) = false
    ∧ (∃ weight, numeric_14_3 manifest.total_weight_kg.val = some (.finite weight))
    ∧ ∃ volume, numeric_14_3 manifest.total_volume_cbm.val = some (.finite volume)

/-- The shipment is stored, and can be rebuilt. -/
def ShipmentTables.Loads (tables : ShipmentTables) (id : Uuid) : Prop :=
  ∃ row shipment, tables.database.shipments id = some row ∧ row.to_shipment id = .ok shipment

/-! ## 3. One request, left alone -/

/-- The columns of a route end in two ports. -/
theorem route_ends_differ (route : ShipmentRoute) :
    route.composite_values.1 ≠ route.composite_values.2.1 := by
  intro hsame
  have hends : route.origin_port_code = route.destination_port_code := Subtype.ext hsame
  have hlogical := route.logical
  rw [List.cons_append, List.nodup_cons] at hlogical
  apply hlogical.1
  rw [hends]
  exact List.mem_append_right _ (List.mem_singleton_self _)

/-- A session that redraws the route of what is stored stores the new route. -/
theorem reroute_current {tables : ShipmentTables} {id : Uuid} {row : ShipmentRow}
    (hrow : tables.database.shipments id = some row) (route : ShipmentRoute) :
    ∃ tables', tables.reroute id row route = some tables' := by
  have hmerge : ShipmentRow.merge_route row.route_columns route.composite_values
      row.route_columns = route.composite_values := by
    simp only [ShipmentRow.merge_route, column_current]
  have hflush : row.flush_route row route = some (row.with_route route.composite_values) := by
    unfold ShipmentRow.flush_route
    rw [hmerge]
    exact if_neg (route_ends_differ route)
  unfold ShipmentTables.reroute
  rw [hrow, Option.bind_some, hflush]
  exact ⟨_, rfl⟩

/-- A redrawn route: the row is read, the aggregate takes the route, the commit finds the
row as it was read. -/
theorem assign_route_run {exchange : String} {tables : ShipmentTables} {id fresh : Uuid}
    {row : ShipmentRow} {now : ℕ} (command : AssignRouteCommand)
    (hrow : tables.database.shipments id = some row) :
    CarriedOut exchange tables (.assign_route id.str command) fresh now
      ↔ ∃ shipment, redraw id row command = some shipment := by
  have hfind : fire (service_step exchange)
        ⟨tables, fun _ : Unit => .rerouting id.str command⟩ ((), .find_by_id)
      = some ⟨tables, Function.update (fun _ => .rerouting id.str command) ()
          (.loaded id row command)⟩ := by
    simp only [fire, service_step, id.parse_str, hrow, Option.map_some]
  unfold CarriedOut
  rw [ClientRequest.actions, ClientRequest.received, List.map_cons, run_cons, hfind,
    Option.bind_some, List.map_cons, run_cons, List.map_cons, List.map_nil]
  cases hredraw : redraw id row command with
  | none =>
      -- the request ended where it was refused, and has nothing to commit
      refine iff_of_false ?_ (by rintro ⟨_, ⟨⟩⟩)
      rintro ⟨c, hc⟩
      simp only [fire, Function.update_self, service_step, hredraw, Option.map_some,
        Option.bind_some, run_cons, Option.map_none, Option.bind_none] at hc
      cases hc
  | some shipment =>
      refine iff_of_true ?_ ⟨shipment, rfl⟩
      obtain ⟨tables', hreroute⟩ := reroute_current hrow shipment.route
      simp only [fire, Function.update_self, service_step, hredraw, Option.map_some,
        Option.bind_some, run_cons, hreroute, run_nil]
      exact ⟨_, rfl⟩

/-- A finalization, likewise. -/
theorem finalize_manifest_run {exchange : String} {tables : ShipmentTables} {id fresh : Uuid}
    {row : ShipmentRow} {now : ℕ} (command : FinalizeManifestCommand)
    (hrow : tables.database.shipments id = some row) :
    CarriedOut exchange tables (.finalize_manifest id.str command) fresh now
      ↔ ∃ after event database, finalize id row command = some (after, event)
        ∧ tables.database.commit exchange id row after event fresh now = some database := by
  have hfind : fire (service_step exchange)
        ⟨tables, fun _ : Unit => .finalization (.received id.str command)⟩
        ((), .finalization .find_by_id)
      = some ⟨tables, Function.update (fun _ => .finalization (.received id.str command)) ()
          (.finalization (.loaded id row command))⟩ := by
    simp only [fire, service_step, finalize_step, id.parse_str, hrow, Option.map_some]
  unfold CarriedOut
  rw [ClientRequest.actions, ClientRequest.received, List.map_cons, run_cons, hfind,
    Option.bind_some, List.map_cons, run_cons, List.map_cons, List.map_nil]
  cases hfinalize : finalize id row command with
  | none =>
      refine iff_of_false ?_ (by rintro ⟨_, _, _, ⟨⟩, -⟩)
      rintro ⟨c, hc⟩
      simp only [fire, Function.update_self, service_step, finalize_step, hfinalize,
        Option.map_some, Option.bind_some, run_cons, Option.map_none, Option.bind_none] at hc
      cases hc
  | some made =>
      obtain ⟨after, event⟩ := made
      simp only [fire, Function.update_self, service_step, finalize_step, hfinalize,
        Option.map_some, Option.bind_some, run_cons, run_nil, Option.some.injEq, Prod.mk.injEq]
      constructor
      · rintro ⟨c, hc⟩
        obtain ⟨_, hlast, -⟩ := Option.bind_eq_some_iff.mp hc
        obtain ⟨_, hmapped, -⟩ := Option.map_eq_some_iff.mp hlast
        obtain ⟨_, hmapped, -⟩ := Option.map_eq_some_iff.mp hmapped
        obtain ⟨database, hcommit, -⟩ := Option.map_eq_some_iff.mp hmapped
        exact ⟨after, event, database, ⟨rfl, rfl⟩, hcommit⟩
      · rintro ⟨after', event', database, ⟨rfl, rfl⟩, hcommit⟩
        rw [hcommit]
        exact ⟨_, rfl⟩

/-- The aggregate takes a valid route whenever it can be rebuilt: no status that a request
leaves locks the route. -/
theorem redraw_iff {id : Uuid} {row : ShipmentRow} {command : AssignRouteCommand}
    (hrow : row.Declared) (hvalid : command.Valid) :
    (∃ shipment, redraw id row command = some shipment)
      ↔ ∃ shipment, row.to_shipment id = .ok shipment := by
  obtain ⟨route, hroute⟩ := hvalid
  unfold redraw
  cases hread : row.to_shipment id with
  | error e => exact iff_of_false (by rintro ⟨_, ⟨⟩⟩) (by rintro ⟨_, ⟨⟩⟩)
  | ok shipment =>
      refine iff_of_true ?_ ⟨shipment, rfl⟩
      have hopen : shipment.status ∉ ROUTE_LOCKED_STATUSES := by
        rw [(ShipmentRow.to_shipment_ok hread).2]
        rcases hrow.status with hstatus | hstatus
        · rw [hstatus]
          decide
        · rw [hstatus]
          decide
      simp only [hroute, Shipment.assign_route, if_neg hopen]
      exact ⟨_, rfl⟩

/-- It takes a valid manifest when it can be rebuilt and is a draft. -/
theorem finalize_iff {id : Uuid} {row : ShipmentRow} {command : FinalizeManifestCommand}
    (hvalid : command.Valid) :
    (∃ after event, finalize id row command = some (after, event))
      ↔ (∃ shipment, row.to_shipment id = .ok shipment) ∧ row.status = .DRAFT := by
  obtain ⟨manifest, hmake, hweight, -⟩ := hvalid
  constructor
  · rintro ⟨after, event, hfinalize⟩
    obtain ⟨shipment, -, hread, -⟩ := finalize_made hfinalize
    exact ⟨⟨shipment, hread⟩, (finalize_ok hfinalize).1⟩
  · rintro ⟨⟨shipment, hread⟩, hdraft⟩
    have hstatus : shipment.status = .DRAFT := (ShipmentRow.to_shipment_ok hread).2.trans hdraft
    have htaken : ∃ after event, shipment.finalize_manifest manifest = (after, .ok event) := by
      unfold Shipment.finalize_manifest
      rw [if_neg (not_not.mpr hstatus), hweight]
      exact ⟨_, _, rfl⟩
    obtain ⟨after, event, htaken⟩ := htaken
    simp only [finalize, hread, hmake, htaken]
    exact ⟨_, _, rfl⟩

/-- What it makes of a draft is written: a draft has no figures, and the new ones fit. -/
theorem finalize_commits {exchange : String} {tables : ShipmentTables} {id fresh : Uuid}
    {row after : ShipmentRow} {now : ℕ} {command : FinalizeManifestCommand}
    {event : ShipmentManifestFinalized} (hsound : tables.Sound) (hvalid : command.Valid)
    (hrow : tables.database.shipments id = some row)
    (hfresh : ∀ message ∈ tables.database.outbox, message.message_id ≠ fresh)
    (hfinalize : finalize id row command = some (after, event)) :
    ∃ database, tables.database.commit exchange id row after event fresh now = some database := by
  obtain ⟨manifest, hmake, -, ⟨weight, hweight⟩, volume, hvolume⟩ := hvalid
  obtain ⟨shipment, made, hread, hdraft, hmade, rfl, -⟩ := finalize_made hfinalize
  rw [hmake] at hmade
  cases hmade
  have hstatus : row.status = .DRAFT := (ShipmentRow.to_shipment_ok hread).2.symm.trans hdraft
  obtain ⟨hnoweight, hnovolume, -⟩ := (hsound.declared id row hrow).draft hstatus
  have hcolumn : ∀ {x y : PyFloat}, numeric_14_3 x = some y →
      ShipmentRow.numeric_column none (some x) none = some (some y) := by
    intro x y hxy
    rw [ShipmentRow.numeric_column, column_current]
    dsimp only
    rw [if_neg (Option.some_ne_none x), hxy, Option.map_some]
  have hflush : ∃ new, row.flush (row.assigned
      { shipment with manifest := some manifest, status := .READY_FOR_MANIFEST }) row
        = some new := by
    unfold ShipmentRow.flush ShipmentRow.assigned
    dsimp only [Option.map_some]
    rw [hnoweight, hnovolume, hcolumn hweight, hcolumn hvolume]
    exact ⟨_, rfl⟩
  obtain ⟨new, hnew⟩ := hflush
  have hfree : (tables.database.outbox.any fun message => message.message_id == fresh)
      = false := by
    rw [List.any_eq_false]
    intro message hmessage
    rw [beq_iff_eq]
    exact hfresh message hmessage
  unfold ShipmentDatabase.commit
  rw [hrow, Option.bind_some, hnew]
  dsimp only
  rw [hfree]
  exact ⟨_, rfl⟩

/-! ## 4. Which state carries a request out -/

section Requests

variable {exchange : String} {tables : ShipmentTables} {id : Uuid} {row : ShipmentRow}

theorem loads_iff (hrow : tables.database.shipments id = some row) :
    tables.Loads id ↔ ∃ shipment, row.to_shipment id = .ok shipment := by
  unfold ShipmentTables.Loads
  rw [hrow]
  constructor
  · rintro ⟨_, shipment, ⟨⟩, hread⟩
    exact ⟨shipment, hread⟩
  · rintro ⟨shipment, hread⟩
    exact ⟨row, shipment, rfl, hread⟩

/-- **A valid route is assigned** to every shipment that can be rebuilt, and to no other. -/
theorem assign_route_carried_out (hsound : tables.Sound)
    (hrow : tables.database.shipments id = some row) {command : AssignRouteCommand}
    (hvalid : command.Valid) (fresh : Uuid) (now : ℕ) :
    CarriedOut exchange tables (.assign_route id.str command) fresh now ↔ tables.Loads id := by
  rw [assign_route_run command hrow, redraw_iff (hsound.declared id row hrow) hvalid,
    loads_iff hrow]

/-- **A valid manifest is finalized** on every draft that can be rebuilt, and on no other
shipment. -/
theorem finalize_manifest_carried_out (hsound : tables.Sound)
    (hrow : tables.database.shipments id = some row) {command : FinalizeManifestCommand}
    (hvalid : command.Valid) {fresh : Uuid}
    (hfresh : ∀ message ∈ tables.database.outbox, message.message_id ≠ fresh) (now : ℕ) :
    CarriedOut exchange tables (.finalize_manifest id.str command) fresh now
      ↔ tables.Loads id ∧ row.status = .DRAFT := by
  rw [finalize_manifest_run command hrow, loads_iff hrow, ← finalize_iff hvalid]
  constructor
  · rintro ⟨after, event, _, hfinalize, -⟩
    exact ⟨after, event, hfinalize⟩
  · rintro ⟨after, event, hfinalize⟩
    obtain ⟨database, hcommit⟩ := finalize_commits hsound hvalid hrow hfresh hfinalize
    exact ⟨after, event, database, hfinalize, hcommit⟩

end Requests

/-! ## 5. What an answer offers -/

/-- A request that is about to answer with a redrawn shipment made it of the row it read. -/
def ShipmentRequest.Redrawn : ShipmentRequest → Prop
  | .rerouted id row shipment => shipment.id = id ∧ shipment.status = row.status
  | _ => True

theorem redraw_keeps {id : Uuid} {row : ShipmentRow} {command : AssignRouteCommand}
    {shipment : Shipment} (h : redraw id row command = some shipment) :
    shipment.id = id ∧ shipment.status = row.status := by
  unfold redraw at h
  split at h
  · cases h
  · next read hread =>
    obtain ⟨hid, hstatus⟩ := ShipmentRow.to_shipment_ok hread
    split at h
    · cases h
    · next route _ =>
      rcases read.assign_route_cases route with ⟨e, he⟩ | hok
      · rw [he] at h
        cases h
      · rw [hok] at h
        cases h
        exact ⟨hid, hstatus⟩

theorem redrawn_outline {ι : Type*} (exchange : String) :
    Outline (service_step (ι := ι) exchange) (fun _ _ _ => True) (fun _ => True)
      (fun _ _ k => k.Redrawn) (fun _ _ _ => True) where
  own := by
    intro i tables k a tables' k' _ _ hstep _
    have heffect := service_step_effect hstep
    cases heffect with
    | redrawn hredraw => exact ⟨trivial, redraw_keeps hredraw, trivial⟩
    | ended => exact ⟨trivial, trivial, trivial⟩
    | unnumbered => exact ⟨trivial, trivial, trivial⟩
    | numbered => exact ⟨trivial, trivial, trivial⟩
    | drafted => exact ⟨trivial, trivial, trivial⟩
    | inserted => exact ⟨trivial, trivial, trivial⟩
    | loaded => exact ⟨trivial, trivial, trivial⟩
    | rerouted => exact ⟨trivial, trivial, trivial⟩
    | finalization => exact ⟨trivial, trivial, trivial⟩
  stable := fun _ _ _ _ _ _ _ _ hk => hk

/-- The three links there are. -/
def assign_route_link (id : Uuid) : Link :=
  { rel := "assign-route", href := s!"/shipments/{id.str}/route", method := "PUT" }

def finalize_manifest_link (id : Uuid) : Link :=
  { rel := "finalize-manifest", href := s!"/shipments/{id.str}/finalize-manifest",
    method := "POST" }

def flag_exception_link (id : Uuid) : Link :=
  { rel := "flag-exception", href := s!"/shipments/{id.str}/flag-exception", method := "POST" }

theorem next_tasks_created (id : Uuid) : create_draft_shipment_controller._next_tasks id.str
    = [assign_route_link id, finalize_manifest_link id] := rfl

theorem next_tasks_rerouted (shipment : Shipment) :
    assign_route_controller._next_tasks shipment = assign_route_link shipment.id
      :: if shipment.status = .DRAFT then [finalize_manifest_link shipment.id] else [] := rfl

theorem next_tasks_finalized {shipment : Shipment} (h : shipment.status = .READY_FOR_MANIFEST) :
    finalize_manifest_controller._next_tasks shipment
      = [assign_route_link shipment.id, flag_exception_link shipment.id] := by
  have hopen : shipment.status ∉ ROUTE_LOCKED_STATUSES := by
    rw [h]
    decide
  unfold finalize_manifest_controller._next_tasks
  dsimp only
  rw [if_pos hopen]
  rfl

/-- **What an answer offers**, in the terms of the aggregate it was rendered from: always
the route, the manifest while that is a draft, the exception once it is none. -/
theorem answered_links {tables : ShipmentTables} {k : ShipmentRequest} {a : ShipmentRequestStep}
    {shipment : Shipment} {links : List Link} (hanswer : Answered k a shipment links)
    (hk : k.Informed tables) (hredrawn : k.Redrawn) :
    (shipment.status = .DRAFT
      ∧ links = [assign_route_link shipment.id, finalize_manifest_link shipment.id])
    ∨ (shipment.status = .READY_FOR_MANIFEST
      ∧ (links = [assign_route_link shipment.id]
        ∨ links = [assign_route_link shipment.id, flag_exception_link shipment.id])) := by
  cases hanswer with
  | drafted => exact .inl ⟨hk.1, next_tasks_created shipment.id⟩
  | rerouted id row =>
      rw [next_tasks_rerouted]
      rcases hk.1.status with hstatus | hstatus
      · rw [← hredrawn.2] at hstatus
        rw [if_pos hstatus]
        exact .inl ⟨hstatus, rfl⟩
      · rw [← hredrawn.2] at hstatus
        rw [if_neg (by rw [hstatus]; decide)]
        exact .inr ⟨hstatus, .inl rfl⟩
  | finalized id row shipment event message_id now hid =>
      obtain ⟨-, command, hmade⟩ := hk
      have hready : shipment.status = .READY_FOR_MANIFEST := (finalize_ok hmade).2.1
      exact .inr ⟨hready, .inr (next_tasks_finalized hready)⟩

/-! ## 6. Every run -/

/-- What following a link comes to on these tables. It asks for the operation it names, on
this shipment, and the operation is carried out in exactly these states; or no route takes
it. -/
inductive ShipmentTables.Honours (exchange : String) (tables : ShipmentTables) (id : Uuid)
    (link : Link) : Prop
  | assign_route (hrel : link.rel = "assign-route")
      (h : ∀ command : AssignRouteCommand, command.Valid →
        request_of link (.route command) = some (.assign_route id.str command)
        ∧ ∀ fresh now, CarriedOut exchange tables (.assign_route id.str command) fresh now
          ↔ tables.Loads id)
  | finalize_manifest (hrel : link.rel = "finalize-manifest")
      (h : ∀ command : FinalizeManifestCommand, command.Valid →
        request_of link (.manifest command) = some (.finalize_manifest id.str command)
        ∧ ∀ fresh now, (∀ message ∈ tables.database.outbox, message.message_id ≠ fresh) →
          (CarriedOut exchange tables (.finalize_manifest id.str command) fresh now
            ↔ tables.Loads id ∧ announcements tables.database id = []))
  | flag_exception (hrel : link.rel = "flag-exception") (h : link.leads_to = .not_found)

section Links

variable {exchange : String} {tables : ShipmentTables} {id : Uuid} {row : ShipmentRow}

theorem assign_route_link_honoured (hsound : tables.Sound)
    (hrow : tables.database.shipments id = some row) :
    tables.Honours exchange id (assign_route_link id) := by
  refine .assign_route rfl fun command hvalid =>
    ⟨?_, assign_route_carried_out hsound hrow hvalid⟩
  have hleads : (assign_route_link id).leads_to = .handled .assign_route [id.str] :=
    assign_route_leads id
  simp only [request_of, hleads]

theorem finalize_manifest_link_honoured (hsound : tables.Sound)
    (hrow : tables.database.shipments id = some row) :
    tables.Honours exchange id (finalize_manifest_link id) := by
  refine .finalize_manifest rfl fun command hvalid => ⟨?_, fun fresh now hfresh => ?_⟩
  · have hleads : (finalize_manifest_link id).leads_to = .handled .finalize_manifest [id.str] :=
      finalize_manifest_leads id
    simp only [request_of, hleads]
  · rw [finalize_manifest_carried_out hsound hrow hvalid hfresh,
      hsound.announced id row hrow]

theorem flag_exception_link_honoured :
    tables.Honours exchange id (flag_exception_link id) :=
  .flag_exception rfl (flag_exception_leads id "POST")

end Links

section EveryRun

variable {ι : Type*} [DecidableEq ι]

/-- The shipment an answer is about is stored with the commit. -/
theorem answered_stored {exchange : String} {c c' : Config ι ShipmentTables ShipmentRequest}
    {i : ι} {a : ShipmentRequestStep} {shipment : Shipment} {links : List Link}
    (hc : Holds ShipmentTables.Sound (fun tables _ k => k.Informed tables) c)
    (hredrawn : (c.locals i).Redrawn) (hanswer : Answered (c.locals i) a shipment links)
    (hcommit : fire (service_step exchange) c (i, a) = some c') :
    ∃ row, c'.shared.database.shipments shipment.id = some row := by
  have hevolve : c.shared.Evolve c'.shared :=
    ((service_outline exchange).fire hc hcommit trivial).2
  -- a row that was read is still there: nothing deletes a shipment
  have hread : ∀ {id row}, c.shared.Read id row →
      ∃ row', c'.shared.database.shipments id = some row' := by
    rintro id row ⟨-, stored, hstored, -⟩
    obtain ⟨row', hrow', -⟩ := hevolve.rows id stored hstored
    exact ⟨row', hrow'⟩
  have hinformed := hc.2 i
  obtain ⟨tables, k, hact, rfl⟩ := fire_eq_some.mp hcommit
  dsimp only at hact
  generalize c.locals i = request at hanswer hredrawn hinformed hact
  cases hanswer with
  | drafted =>
      -- nothing was read here; the row is the one the commit inserts
      cases service_step_effect hact with
      | ended hnocommit => exact absurd rfl hnocommit
      | inserted hinsert =>
          obtain ⟨row, -, -, -, rfl⟩ := insert_ok hinsert
          exact ⟨row, Function.update_self ..⟩
  | rerouted id row => exact hredrawn.1 ▸ hread hinformed
  | finalized id row shipment event message_id now hid => exact hid ▸ hread hinformed.1

/-- The first draft of the sample is made, and about to be committed. -/
def sample_drafted : List (ℕ × ShipmentRequestStep) :=
  [(0, .next (.of_byte 21)), (1, .next (.of_byte 22)), (1, .handle), (1, .commit), (0, .handle)]

end EveryRun

end TradeLogistics.Shipments
