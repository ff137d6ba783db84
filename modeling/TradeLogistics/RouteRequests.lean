/-
What concurrent requests make of a route.

A redrawn route is three columns, and a flush writes those of them that differ from what the
session read. Two requests that redraw one route from the same version therefore write
different columns, and what is stored may be neither's route: an origin and a destination of
one with the legs of the other. The `CHECK` constraint on the table compares the two ends
only, so the mixture may call at a port twice, which no route does.

Both halves are exact. Along a run every route is stored as some request assigned it, and
every shipment can be rebuilt, precisely when no request commits over a column that it left
alone and somebody else changed. And a shipment that cannot be rebuilt stays as it is: every
request fails where it loads the row, the one that would correct the route too.
-/
import TradeLogistics.ShipmentRequests

set_option autoImplicit false

namespace TradeLogistics.Shipments

open TradeLogistics.PyText TradeLogistics.PyNumber TradeLogistics.Runs
open TradeLogistics.UnitOfWork

/-! ## 1. Columns and routes -/

namespace ShipmentRow

/-- The columns that a session leaves as it read them are stored as it read them. -/
def ColumnsAsRead (loaded after stored : String × String × List String) : Prop :=
  (after.1 = loaded.1 → stored.1 = loaded.1)
    ∧ (after.2.1 = loaded.2.1 → stored.2.1 = loaded.2.1)
    ∧ (after.2.2 = loaded.2.2 → stored.2.2 = loaded.2.2)

theorem merge_route_eq_iff {loaded after stored : String × String × List String} :
    merge_route loaded after stored = after ↔ ColumnsAsRead loaded after stored := by
  unfold merge_route ColumnsAsRead
  rw [Prod.ext_iff, Prod.ext_iff, column_eq_after_iff, column_eq_after_iff, column_eq_after_iff]

/-- The columns of a route. -/
def Routed (row : ShipmentRow) : Prop :=
  ∃ route : ShipmentRoute, row.route_columns = route.composite_values

/-- **A declared row with the columns of a route is rebuilt**, on that route. -/
theorem to_shipment_routed {row : ShipmentRow} {route : ShipmentRoute} (hrow : row.Declared)
    (hroute : row.route_columns = route.composite_values) (id : Uuid) :
    ∃ shipment, row.to_shipment id = .ok shipment ∧ shipment.route = route := by
  obtain ⟨number, hnumber⟩ := hrow.number
  have hread : ShipmentRoute.make (.str row.origin_port_code) (.str row.destination_port_code)
      (.sequence (row.transit_legs.map Value.str)) = .ok route := by
    have hcomposite := ShipmentRoute.from_columns_composite route
    rw [← hroute] at hcomposite
    exact hcomposite
  have hmanifest : ∃ manifest, CargoManifest.from_columns row.total_weight_kg
      row.total_volume_cbm row.commodity_code = .ok manifest := by
    by_cases hdraft : row.status = .DRAFT
    · obtain ⟨hweight, hvolume, hcode⟩ := hrow.draft hdraft
      exact ⟨none, by rw [hweight, hvolume, hcode]; rfl⟩
    · obtain ⟨manifest, hmanifest⟩ := hrow.ready hdraft
      exact ⟨some manifest, hmanifest⟩
  obtain ⟨manifest, hmanifest⟩ := hmanifest
  unfold to_shipment
  rw [hnumber, number.make_value, hmanifest, hread]
  exact ⟨_, rfl, rfl⟩

end ShipmentRow

/-! ## 2. Routes as they were assigned -/

/-- Every shipment can be rebuilt from its row. -/
def ShipmentTables.Readable (tables : ShipmentTables) : Prop :=
  ∀ id row, tables.database.shipments id = some row →
    ∃ shipment, row.to_shipment id = .ok shipment

/-- Every row has the columns of a route. -/
def ShipmentTables.Routed (tables : ShipmentTables) : Prop :=
  ∀ id row, tables.database.shipments id = some row → row.Routed

/-- A request that commits leaves the route that it assigned. -/
def RouteStored (k : ShipmentRequest) (a : ShipmentRequestStep) (tables : ShipmentTables) :
    Prop :=
  match k, a with
  | .rerouted id _ shipment, .commit => ∃ row, tables.database.shipments id = some row
      ∧ row.route_columns = shipment.route.composite_values
  | _, _ => True

/-- A request that commits finds the columns it leaves alone as it read them. -/
def RouteAsRead (tables : ShipmentTables) (k : ShipmentRequest) (a : ShipmentRequestStep) :
    Prop :=
  match k, a with
  | .rerouted id loaded shipment, .commit => ∃ stored, tables.database.shipments id = some stored
      ∧ ShipmentRow.ColumnsAsRead loaded.route_columns shipment.route.composite_values
        stored.route_columns
  | _, _ => True

/-- The row of a draft has the columns of its route. -/
theorem insert_routed {tables tables' : ShipmentTables} {shipment : Shipment}
    (h : tables.Routed) (hmanifest : shipment.manifest = none)
    (hinsert : tables.insert shipment = some tables') : tables'.Routed := by
  obtain ⟨row, hrow, -, -, rfl⟩ := insert_ok hinsert
  obtain ⟨_, hmade, -, -, -, -, -, hroute⟩ := inserted_draft hmanifest
  rw [hrow, Option.some.injEq] at hmade
  subst hmade
  intro id r hr
  dsimp only at hr
  by_cases hid : id = shipment.id
  · rw [hid, Function.update_self, Option.some.injEq] at hr
    exact ⟨shipment.route, hr ▸ hroute⟩
  · rw [Function.update_of_ne hid] at hr
    exact h id r hr

/-- What a redrawn route leaves of the row, and that it leaves the other rows. -/
theorem reroute_columns {tables tables' : ShipmentTables} {id : Uuid} {loaded : ShipmentRow}
    {route : ShipmentRoute} (hreroute : tables.reroute id loaded route = some tables') :
    (∃ stored row, tables.database.shipments id = some stored
      ∧ tables'.database.shipments id = some row
      ∧ row.route_columns = ShipmentRow.merge_route loaded.route_columns route.composite_values
        stored.route_columns)
    ∧ ∀ id', id' ≠ id → tables'.database.shipments id' = tables.database.shipments id' := by
  obtain ⟨stored, row, hstored, hflush, rfl⟩ := reroute_ok hreroute
  refine ⟨⟨stored, row, hstored, ?_, ?_⟩, fun id' hid => ?_⟩
  · dsimp only
    rw [Function.update_self]
  · rw [ShipmentRow.flush_route_ok hflush, ShipmentRow.with_route_columns]
  · dsimp only
    rw [Function.update_of_ne hid]

/-- An admissible step keeps the routes. -/
theorem routed_step {ι : Type*} {exchange : String} {i : ι} {tables tables' : ShipmentTables}
    {k k' : ShipmentRequest} {a : ShipmentRequestStep} (h : tables.Routed)
    (hk : k.Informed tables) (hstep : service_step exchange i tables k a = some (tables', k'))
    (hread : RouteAsRead tables k a) : tables'.Routed ∧ RouteStored k a tables' := by
  have heffect := service_step_effect hstep
  cases heffect with
  | ended hcommit =>
      refine ⟨h, ?_⟩
      unfold RouteStored
      split
      · exact absurd rfl hcommit
      · trivial
  | unnumbered => exact ⟨h, trivial⟩
  | numbered => exact ⟨h, trivial⟩
  | drafted => exact ⟨h, trivial⟩
  | inserted hinsert => exact ⟨insert_routed h hk.2 hinsert, trivial⟩
  | loaded => exact ⟨h, trivial⟩
  | redrawn => exact ⟨h, trivial⟩
  | @rerouted id loaded shipment _ hreroute =>
      obtain ⟨⟨stored, row, hstored, hrow, hcolumns⟩, hothers⟩ := reroute_columns hreroute
      obtain ⟨found, hfound, hasread⟩ := hread
      rw [hstored, Option.some.injEq] at hfound
      subst hfound
      rw [ShipmentRow.merge_route_eq_iff.mpr hasread] at hcolumns
      refine ⟨fun id' r hr => ?_, row, hrow, hcolumns⟩
      by_cases hid : id' = id
      · rw [hid, hrow, Option.some.injEq] at hr
        exact ⟨shipment.route, hr ▸ hcolumns⟩
      · rw [hothers id' hid] at hr
        exact h id' r hr
  | finalization hfinalize =>
      refine ⟨fun id r hr => ?_, trivial⟩
      obtain ⟨stored, hstored, -, hsame⟩ := finalize_step_rows hfinalize hr
      obtain ⟨route, hroute⟩ := h id stored hstored
      exact ⟨route, hsame.trans hroute⟩

/-- A step that stored its route was admissible: what is stored is merged from what the
request read, what it left, and what it found. -/
theorem as_read_of_stored {ι : Type*} {exchange : String} {i : ι}
    {tables tables' : ShipmentTables} {k k' : ShipmentRequest} {a : ShipmentRequestStep}
    (hstep : service_step exchange i tables k a = some (tables', k'))
    (hstored : RouteStored k a tables') : RouteAsRead tables k a := by
  have heffect := service_step_effect hstep
  cases heffect with
  | ended hcommit =>
      unfold RouteAsRead
      split
      · exact absurd rfl hcommit
      · trivial
  | unnumbered => trivial
  | numbered => trivial
  | drafted => trivial
  | inserted => trivial
  | loaded => trivial
  | redrawn => trivial
  | @rerouted id loaded shipment _ hreroute =>
      obtain ⟨⟨found, row, hfound, hrow, hcolumns⟩, -⟩ := reroute_columns hreroute
      obtain ⟨_, hsame, hassigned⟩ := hstored
      rw [hrow, Option.some.injEq] at hsame
      subst hsame
      exact ⟨found, hfound, ShipmentRow.merge_route_eq_iff.mp (hcolumns.symm.trans hassigned)⟩
  | finalization => trivial

theorem route_outline {ι : Type*} (exchange : String) :
    Outline (service_step (ι := ι) exchange) RouteAsRead
      (fun tables => tables.Sound ∧ tables.Routed) (fun tables _ k => k.Informed tables)
      (fun _ tables tables' => tables.Evolve tables') where
  own := by
    rintro i tables k a tables' k' ⟨hsound, hrouted⟩ hk hstep hread
    obtain ⟨hsound', hk', hevolve⟩ :=
      (service_outline exchange).own i tables k a tables' k' hsound hk hstep trivial
    exact ⟨⟨hsound', (routed_step hrouted hk hstep hread).1⟩, hk', hevolve⟩
  stable := fun _ _ _ _ _ _ _ hevolve hk => hk.mono hevolve

/-- **Redrawn routes, exactly.** In every interleaving of any requests, each request leaves
the route that it assigned and every shipment can be rebuilt, throughout, precisely when
every request that redraws a route finds the columns it leaves alone as it read them. -/
theorem routes_stored_as_assigned_iff {ι : Type*} [DecidableEq ι] (exchange : String)
    (requests : ι → ClientRequest) (es : List (ι × ShipmentRequestStep)) :
    Along (fire (service_step exchange))
        (fun c e c' => RouteStored (c.locals e.1) e.2 c'.shared ∧ c'.shared.Readable)
        (service_started requests) es
      ↔ Along (fire (service_step exchange))
        (fun c e _ => RouteAsRead c.shared (c.locals e.1) e.2) (service_started requests) es := by
  have hstart : Holds (fun tables => tables.Sound ∧ tables.Routed)
      (fun tables (_ : ι) k => k.Informed tables) (service_started requests) := by
    obtain ⟨hsound, hknows⟩ := holds_started requests
    exact ⟨⟨hsound, fun _ row hrow => absurd hrow.symm (Option.some_ne_none row)⟩, hknows⟩
  refine Runs.along_exact (fire (service_step exchange)) (Holds _ _) _
    (fun c e => RouteAsRead c.shared (c.locals e.1) e.2) ?_ ?_ hstart
  · intro c e c' hc hfire hread
    obtain ⟨hc', -⟩ := (route_outline exchange).fire hc hfire hread
    refine ⟨⟨?_, ?_⟩, hc'⟩
    · obtain ⟨tables, k, hact, rfl⟩ := fire_eq_some.mp hfire
      exact (routed_step hc.1.2 (hc.2 e.1) hact hread).2
    · intro id row hrow
      obtain ⟨route, hroute⟩ := hc'.1.2 id row hrow
      obtain ⟨shipment, hshipment, -⟩ :=
        ShipmentRow.to_shipment_routed (hc'.1.1.declared id row hrow) hroute id
      exact ⟨shipment, hshipment⟩
  · intro c e c' _ hfire hgood
    obtain ⟨tables, k, hact, rfl⟩ := fire_eq_some.mp hfire
    exact as_read_of_stored hact hgood.1

/-! ## 3. A shipment that cannot be rebuilt -/

/-- The row cannot be rebuilt. -/
def Unreadable (id : Uuid) (row : ShipmentRow) : Prop := ∃ e, row.to_shipment id = .error e

/-- The request has read the shipment as this row at most, and made nothing of it. -/
def ShipmentRequest.reads_only (id : Uuid) (row : ShipmentRow) : ShipmentRequest → Bool
  | .loaded id' row' _ => id' != id || row' == row
  | .rerouted id' _ _ => id' != id
  | .finalization (.loaded id' row' _) => id' != id || row' == row
  | .finalization (.handled id' _ _ _) => id' != id
  | _ => true

theorem redraw_unreadable {id : Uuid} {row : ShipmentRow} (h : Unreadable id row)
    (command : AssignRouteCommand) : redraw id row command = none := by
  obtain ⟨e, he⟩ := h
  unfold redraw
  rw [he]

theorem finalize_unreadable {id : Uuid} {row : ShipmentRow} (h : Unreadable id row)
    (command : FinalizeManifestCommand) : finalize id row command = none := by
  obtain ⟨e, he⟩ := h
  unfold finalize
  rw [he]

/-- A request that made something of a shipment is about another one. -/
theorem elsewhere {id id' : Uuid} {row row' : ShipmentRow} {α : Type*} {made : Option α} {x : α}
    (hread : (id' != id || row' == row) = true) (hnone : id' = id → row' = row → made = none)
    (hmade : made = some x) : id' ≠ id := by
  intro hid
  rw [Bool.or_eq_true, bne_iff_ne, beq_iff_eq] at hread
  rw [hnone hid (hread.resolve_left (not_not.mpr hid))] at hmade
  cases hmade

theorem unreadable_outline {ι : Type*} (exchange : String) {id : Uuid} {row : ShipmentRow}
    (hunreadable : Unreadable id row) :
    Outline (service_step (ι := ι) exchange) (fun _ _ _ => True)
      (fun tables => tables.database.shipments id = some row)
      (fun _ _ k => k.reads_only id row = true) (fun _ _ _ => True) where
  own := by
    intro i tables k a tables' k' h hk hstep _
    have heffect := service_step_effect hstep
    cases heffect with
    | ended => exact ⟨h, rfl, trivial⟩
    | unnumbered => exact ⟨h, rfl, trivial⟩
    | numbered => exact ⟨h, rfl, trivial⟩
    | drafted => exact ⟨h, rfl, trivial⟩
    | @inserted shipment _ hinsert =>
        obtain ⟨_, -, hnew, -, rfl⟩ := insert_ok hinsert
        refine ⟨?_, rfl, trivial⟩
        dsimp only
        rw [Function.update_of_ne, h]
        rintro rfl
        rw [h] at hnew
        cases hnew
    | @loaded shipment_id id' row' command hrow =>
        refine ⟨h, ?_, trivial⟩
        -- who reads the shipment now reads this row
        rw [ShipmentRequest.reads_only, Bool.or_eq_true, bne_iff_ne, beq_iff_eq]
        by_cases hid : id' = id
        · rw [hid, h, Option.some.injEq] at hrow
          exact .inr hrow.symm
        · exact .inl hid
    | @redrawn id' row' command shipment hredraw =>
        refine ⟨h, ?_, trivial⟩
        rw [ShipmentRequest.reads_only, bne_iff_ne]
        refine elsewhere hk (fun hid hrow => ?_) hredraw
        rw [hid, hrow]
        exact redraw_unreadable hunreadable command
    | rerouted hreroute =>
        rw [ShipmentRequest.reads_only, bne_iff_ne] at hk
        exact ⟨((reroute_columns hreroute).2 id (Ne.symm hk)).trans h, rfl, trivial⟩
    | finalization hfinalize =>
        rcases finalize_step_cases hfinalize with
          ⟨rfl, -, hrequest⟩ | ⟨id', _, _, _, _, _, rfl, rfl, rfl, hcommit⟩
        · refine ⟨h, ?_, trivial⟩
          rcases hrequest with rfl | ⟨id', row', command, hrow, rfl⟩ |
            ⟨id', row', command, after, event, rfl, hmade, rfl⟩
          · rfl
          · rw [ShipmentRequest.reads_only, Bool.or_eq_true, bne_iff_ne, beq_iff_eq]
            by_cases hid : id' = id
            · rw [hid, h, Option.some.injEq] at hrow
              exact .inr hrow.symm
            · exact .inl hid
          · rw [ShipmentRequest.reads_only, bne_iff_ne]
            refine elsewhere hk (fun hid hrow => ?_) hmade
            rw [hid, hrow]
            exact finalize_unreadable hunreadable command
        · rw [ShipmentRequest.reads_only, bne_iff_ne] at hk
          obtain ⟨_, _, -, -, hshipments, -⟩ := commit_ok hcommit
          refine ⟨?_, rfl, trivial⟩
          dsimp only
          rw [hshipments, Function.update_of_ne (Ne.symm hk), h]
  stable := fun _ _ _ _ _ _ _ _ hk => hk

/-- Two requests redraw one route, one through a port the other one ends at. -/
def mixing_clients : Fin 5 → ClientRequest
  | 0 => .create_draft_shipment ⟨"ITGOA", "AEJEA"⟩
  | 1 => .assign_route (Uuid.of_byte 31).str ⟨"ITGOA", "AEJEA", ["EGPSD"]⟩
  | 2 => .assign_route (Uuid.of_byte 31).str ⟨"ITGOA", "EGPSD", []⟩
  | 3 => .assign_route (Uuid.of_byte 31).str ⟨"ITGOA", "AEJEA", []⟩
  | 4 => .finalize_manifest (Uuid.of_byte 31).str ⟨.finite 800, .finite 2, "6907"⟩

/-- Both read the draft before either commits. -/
def mixing_steps : List (Fin 5 × ShipmentRequestStep) :=
  [(0, .next (.of_byte 31)), (0, .handle), (0, .commit), (1, .find_by_id), (2, .find_by_id),
    (1, .handle), (2, .handle), (1, .commit), (2, .commit)]

/-- What is stored then is a route through its own destination. -/
theorem mixing_runs : ∃ c row,
    run (fire (service_step "topic")) (service_started mixing_clients) mixing_steps = some c
    ∧ c.shared.database.shipments (.of_byte 31) = some row
    ∧ row.route_columns = ("ITGOA", "EGPSD", ["EGPSD"])
    ∧ Unreadable (.of_byte 31) row
    ∧ ∀ i, (c.locals i).reads_only (.of_byte 31) row = true := by
  have hall : (run (fire (service_step "topic")) (service_started mixing_clients)
      mixing_steps).any (fun c => (c.shared.database.shipments (.of_byte 31)).any fun row =>
        row.route_columns == ("ITGOA", "EGPSD", ["EGPSD"])
          && !(row.to_shipment (.of_byte 31)).isOk
          && decide (∀ i, (c.locals i).reads_only (.of_byte 31) row = true)) = true := by
    decide +kernel
  simp only [Option.any_eq_true, Bool.and_eq_true, beq_iff_eq, Bool.not_eq_true',
    decide_eq_true_eq] at hall
  obtain ⟨c, hc, row, hrow, ⟨hcolumns, herror⟩, hlocals⟩ := hall
  refine ⟨c, row, hc, hrow, hcolumns, ?_, hlocals⟩
  unfold Unreadable
  cases hread : row.to_shipment (.of_byte 31) with
  | error e => exact ⟨e, rfl⟩
  | ok shipment =>
      rw [hread] at herror
      cases herror

/-- **A shipment that cannot be rebuilt is lost to every request.** In every run in which no
request still works on another version of the row, the row stays as it is: whatever is asked,
a corrected route too, fails where the row is loaded. -/
theorem unreadable_row_stays {ι : Type*} [DecidableEq ι] {exchange : String}
    {c c' : Config ι ShipmentTables ShipmentRequest} {es : List (ι × ShipmentRequestStep)}
    {id : Uuid} {row : ShipmentRow} (hrow : c.shared.database.shipments id = some row)
    (hunreadable : Unreadable id row) (hlocals : ∀ i, (c.locals i).reads_only id row = true)
    (hrun : run (fire (service_step exchange)) c es = some c') :
    c'.shared.database.shipments id = some row
      ∧ ∀ i loaded shipment, c'.locals i ≠ .rerouted id loaded shipment := by
  obtain ⟨hrow', hlocals'⟩ :=
    (unreadable_outline exchange hunreadable).run ⟨hrow, hlocals⟩ hrun
  refine ⟨hrow', fun i loaded shipment hi => ?_⟩
  have hread := hlocals' i
  rw [hi, ShipmentRequest.reads_only, bne_self_eq_false] at hread
  cases hread

/-- The two requests of the sample leave such a shipment, and it stays, also when the third
one asks for the original route. -/
theorem mixed_route_stays : ∃ c row,
    run (fire (service_step "topic")) (service_started mixing_clients) mixing_steps = some c
    ∧ Unreadable (.of_byte 31) row
    ∧ ∀ c', run (fire (service_step "topic")) c [(3, .find_by_id), (3, .handle)] = some c' →
      c'.shared.database.shipments (.of_byte 31) = some row := by
  obtain ⟨c, row, hrun, hrow, -, hunreadable, hlocals⟩ := mixing_runs
  exact ⟨c, row, hrun, hunreadable, fun c' hlater =>
    (unreadable_row_stays hrow hunreadable hlocals hlater).1⟩

end TradeLogistics.Shipments
