/-
Links, and where they lead.

An answer carries the tasks that come next as links: a relation, a target and a method. The
targets are written out in the controllers, apart from the decorators that declare the
routes, so that a link leads to what it names is something to be checked: on a shipment it
does for the route and for the manifest, and `flag-exception` leads nowhere.
-/
import TradeLogistics.PathTemplates

set_option autoImplicit false

namespace TradeLogistics.Http

open TradeLogistics.PyText TradeLogistics.PathTemplates

/-! ## 1. The service -/

/-- `Link`. -/
structure Link where
  rel : String
  href : String
  method : String
  deriving DecidableEq, Repr

/-- The operations behind the routes. -/
inductive Endpoint where
  | create_draft_shipment | assign_route | finalize_manifest | attach_document | verify_document
  | upload_file | health
  deriving DecidableEq, Repr

/-- The routes in the order `create_app` includes them: shipments, customs, files, the
probe. Those of the framework's own documentation pages are left out. -/
def routes : List (Route Endpoint) :=
  [⟨"POST", [.literal "shipments"], .create_draft_shipment⟩,
    ⟨"PUT", [.literal "shipments", .parameter "shipment_id", .literal "route"], .assign_route⟩,
    ⟨"POST", [.literal "shipments", .parameter "shipment_id", .literal "finalize-manifest"],
      .finalize_manifest⟩,
    ⟨"POST", [.literal "customs", .literal "cases", .parameter "case_id", .literal "documents"],
      .attach_document⟩,
    ⟨"POST", [.literal "customs", .literal "cases", .parameter "case_id", .literal "documents",
      .parameter "document_id", .literal "verify"], .verify_document⟩,
    ⟨"POST", [.literal "files"], .upload_file⟩,
    ⟨"GET", [.literal "health"], .health⟩]

/-- No request fits two of the routes. -/
theorem routes_separate : routes.Pairwise Route.Separate := by decide

/-- What following a link comes to. -/
def Link.leads_to (link : Link) : Resolution Endpoint := resolve routes link.method link.href

/-! ## 2. Identifiers in a path -/

/-- The text of an identifier is one segment of a path. -/
theorem slash_not_mem_str (u : Uuid) : '/' ∉ u.str.toList := by
  intro hslash
  have hmem : '/' ∈ u.hex := by
    rw [← filter_str]
    exact List.mem_filter.mpr ⟨hslash, by decide⟩
  obtain ⟨d, hd, hdigit⟩ := mem_hex hmem
  have hall : ∀ d < 16, '/' ≠ Nat.digitChar d := by decide
  exact hall d hd hdigit

theorem str_ne_empty (u : Uuid) : u.str ≠ "" := by
  intro hempty
  have hlength := u.str_length
  rw [hempty] at hlength
  exact absurd hlength (by decide)

/-! ## 3. The targets

Each is the template of a route, filled; the side conditions are computed. -/

/-- A target that is a filled template leads to the route. -/
theorem leads_to_route {route : Route Endpoint} (hroute : route ∈ routes) {href : String}
    {pieces values : List String} (hhref : href.toList = (path pieces).toList)
    (hfree : ∀ piece ∈ pieces, '/' ∉ piece.toList)
    (hmatch : match_segments route.template pieces = some values) :
    resolve routes route.method href = .handled route.endpoint values := by
  rw [String.toList_inj.mp hhref]
  exact resolve_filled routes_separate hroute hfree hmatch

theorem assign_route_leads (shipment_id : Uuid) :
    resolve routes "PUT" s!"/shipments/{shipment_id.str}/route"
      = .handled .assign_route [shipment_id.str] := by
  refine @leads_to_route
    ⟨"PUT", [.literal "shipments", .parameter "shipment_id", .literal "route"], .assign_route⟩
    (by simp [routes]) _ ["shipments", shipment_id.str, "route"] _ ?_ ?_ ?_
  · change ("/shipments/" ++ shipment_id.str ++ "/route").toList = _
    simp [path, joinChars]
  · simp [slash_not_mem_str]
  · simp [match_segments, str_ne_empty]

theorem finalize_manifest_leads (shipment_id : Uuid) :
    resolve routes "POST" s!"/shipments/{shipment_id.str}/finalize-manifest"
      = .handled .finalize_manifest [shipment_id.str] := by
  refine @leads_to_route
    ⟨"POST", [.literal "shipments", .parameter "shipment_id", .literal "finalize-manifest"],
      .finalize_manifest⟩
    (by simp [routes]) _ ["shipments", shipment_id.str, "finalize-manifest"] _ ?_ ?_ ?_
  · change ("/shipments/" ++ shipment_id.str ++ "/finalize-manifest").toList = _
    simp [path, joinChars]
  · simp [slash_not_mem_str]
  · simp [match_segments, str_ne_empty]

/-- No module publishes the task that `finalize_manifest` offers beside the route: its path
differs from every template in the length or in the last segment. -/
theorem flag_exception_leads (shipment_id : Uuid) (method : String) :
    resolve routes method s!"/shipments/{shipment_id.str}/flag-exception" = .not_found := by
  have hhref : s!"/shipments/{shipment_id.str}/flag-exception"
      = path ["shipments", shipment_id.str, "flag-exception"] := by
    change "/shipments/" ++ shipment_id.str ++ "/flag-exception" = _
    rw [← String.toList_inj]
    simp [path, joinChars]
  rw [hhref]
  refine @resolve_not_found _ routes
    [.literal "shipments", .parameter "shipment_id", .literal "flag-exception"]
    (by decide) _ [shipment_id.str] ?_ ?_ method
  · simp [slash_not_mem_str]
  · simp [match_segments, str_ne_empty]

end TradeLogistics.Http
