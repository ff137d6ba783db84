/-
Paths, and the templates a service routes them by.

A template is a path some of whose segments are open; an open segment takes any text that is
not empty, and no slash. A table of routes is looked through in order: the first route whose
method and template fit takes the request, a template that fits under another method only
refuses it as such, and what fits nowhere is not found. So it is documented of the router of
the framework, for paths without a line break; that it also tries a path with its last slash
added or taken away is left out.

What a client does with a template is the other direction: it fills it. The two are inverse
in a table whose routes are told apart by a fixed segment, by their length or by their
method: a filled template leads to its own route, with the texts it was filled with.
-/
import TradeLogistics.PyText

set_option autoImplicit false

namespace TradeLogistics.PathTemplates

open TradeLogistics.PyText

/-! ## 1. Paths as segments -/

/-- The path with these segments. -/
def path (pieces : List String) : String :=
  String.ofList (joinChars '/' ([] :: pieces.map String.toList))

/-- The segments of a path, `none` where it does not begin with a slash. -/
def segments (path : String) : Option (List String) :=
  match splitChars '/' path.toList with
  | [] :: pieces => some (pieces.map String.ofList)
  | _ => none

/-- **A path has the segments it was put together from.** -/
theorem segments_path {pieces : List String} (h : ∀ piece ∈ pieces, '/' ∉ piece.toList) :
    segments (path pieces) = some pieces := by
  have hfree : ∀ piece ∈ ([] :: pieces.map String.toList : List (List Char)), '/' ∉ piece := by
    intro piece hpiece
    rcases List.mem_cons.mp hpiece with rfl | hpiece
    · exact List.not_mem_nil
    · obtain ⟨text, htext, rfl⟩ := List.mem_map.mp hpiece
      exact h text htext
  have hsplit : splitChars '/' (path pieces).toList = [] :: pieces.map String.toList := by
    rw [path, String.toList_ofList, splitChars_joinChars (List.cons_ne_nil _ _) hfree]
  have hback : (pieces.map String.toList).map String.ofList = pieces := by
    rw [List.map_map]
    exact List.map_id'' (fun piece => String.ofList_toList) pieces
  simp only [segments, hsplit, hback]

/-! ## 2. Templates -/

/-- One segment of a template. -/
inductive Segment where
  | literal (text : String)
  | parameter (name : String)
  deriving DecidableEq

/-- The texts that stand in the open segments, `none` where the template does not fit. -/
def match_segments : List Segment → List String → Option (List String)
  | [], [] => some []
  | .literal text :: template, piece :: pieces =>
    if piece = text then match_segments template pieces else none
  | .parameter _ :: template, piece :: pieces =>
    if piece = "" then none else (match_segments template pieces).map (piece :: ·)
  | _, _ => none

/-- Two templates that differ in length or in a segment that both of them fix. -/
def apart : List Segment → List Segment → Bool
  | [], [] => false
  | .literal text :: template, .literal other :: template' =>
    text != other || apart template template'
  | _ :: template, _ :: template' => apart template template'
  | _, _ => true

/-- **Templates that are apart fit no path in common.** The induction is on the first
template, a segment at a time: the two agree on what they fix until they differ. -/
theorem match_segments_apart {template : List Segment} :
    ∀ {template' : List Segment} {pieces values : List String}, apart template template' = true →
      match_segments template pieces = some values → match_segments template' pieces = none := by
  induction template with
  | nil =>
      intro template' pieces values hapart hmatch
      cases pieces with
      | nil =>
          cases template' with
          | nil => cases hapart
          | cons segment template' => cases segment <;> rfl
      | cons piece pieces => cases hmatch
  | cons segment template ih =>
      intro template' pieces values hapart hmatch
      cases pieces with
      | nil => cases segment <;> cases hmatch
      | cons piece pieces =>
          -- the rest of the path fits the rest of the template, whatever the segment is
          have hrest : ∃ values', match_segments template pieces = some values' := by
            cases segment with
            | literal text =>
                rw [match_segments] at hmatch
                split at hmatch
                · exact ⟨values, hmatch⟩
                · cases hmatch
            | parameter name =>
                rw [match_segments] at hmatch
                split at hmatch
                · cases hmatch
                · obtain ⟨values', hvalues, -⟩ := Option.map_eq_some_iff.mp hmatch
                  exact ⟨values', hvalues⟩
          obtain ⟨values', hrest⟩ := hrest
          cases template' with
          | nil => rfl
          | cons segment' template' =>
              cases segment' with
              | parameter name' =>
                  have htail : apart template template' = true := by
                    cases segment <;> exact hapart
                  rw [match_segments, ih htail hrest]
                  split <;> rfl
              | literal text' =>
                  rw [match_segments]
                  split
                  · next hpiece =>
                      refine ih ?_ hrest
                      cases segment with
                      | parameter name => exact hapart
                      | literal text =>
                          -- both fix the segment, and the path has one text there
                          rw [match_segments] at hmatch
                          split at hmatch
                          · next htext =>
                              rw [apart, ← hpiece, ← htext, bne_self_eq_false,
                                Bool.false_or] at hapart
                              exact hapart
                          · cases hmatch
                  · rfl

/-! ## 3. Tables of routes -/

section Tables

variable {ε : Type*}

/-- A route: the method, the template, and what is called. -/
structure Route (ε : Type*) where
  method : String
  template : List Segment
  endpoint : ε

/-- What becomes of a request. -/
inductive Resolution (ε : Type*) where
  | handled (endpoint : ε) (values : List String)
  | method_not_allowed
  | not_found
  deriving DecidableEq

/-- The texts a route takes from a path. -/
def Route.values (route : Route ε) (path : String) : Option (List String) :=
  (segments path).bind (match_segments route.template)

/-- The route as the one that takes the request. -/
def Route.take (route : Route ε) (method path : String) : Option (ε × List String) :=
  if route.method = method then (route.values path).map fun values => (route.endpoint, values)
  else none

/-- The table, looked through in order. -/
def resolve (routes : List (Route ε)) (method path : String) : Resolution ε :=
  match routes.findSome? (·.take method path) with
  | some (endpoint, values) => .handled endpoint values
  | none =>
    if routes.any fun route => (route.values path).isSome then .method_not_allowed else .not_found

/-- Two routes no request fits both of. -/
def Route.Separate (route other : Route ε) : Prop :=
  route.method ≠ other.method ∨ apart route.template other.template = true

instance (route other : Route ε) : Decidable (route.Separate other) :=
  inferInstanceAs (Decidable (_ ∨ _))

/-- A filled template is taken by its own route. -/
theorem Route.take_filled {route : Route ε} {pieces values : List String}
    (hfree : ∀ piece ∈ pieces, '/' ∉ piece.toList)
    (hmatch : match_segments route.template pieces = some values) :
    route.take route.method (path pieces) = some (route.endpoint, values) := by
  rw [Route.take, if_pos rfl, Route.values, segments_path hfree, Option.bind_some, hmatch,
    Option.map_some]

/-- And by no route that is separate from it. -/
theorem Route.take_separate {route other : Route ε} {pieces values : List String}
    (h : other.Separate route) (hfree : ∀ piece ∈ pieces, '/' ∉ piece.toList)
    (hmatch : match_segments route.template pieces = some values) :
    other.take route.method (path pieces) = none := by
  rw [Route.take]
  split
  · next hmethod =>
      rw [Route.values, segments_path hfree, Option.bind_some]
      cases hother : match_segments other.template pieces with
      | none => rfl
      | some values' =>
          -- if the other fitted as well, its own template would exclude this one
          rw [match_segments_apart (h.resolve_left (not_not.mpr hmethod)) hother] at hmatch
          cases hmatch
  · rfl

/-- **A filled template leads to its route**, in a table of pairwise separate ones: the
routes before it do not fit. -/
theorem resolve_filled {routes : List (Route ε)} (hroutes : routes.Pairwise Route.Separate)
    {route : Route ε} (hroute : route ∈ routes) {pieces values : List String}
    (hfree : ∀ piece ∈ pieces, '/' ∉ piece.toList)
    (hmatch : match_segments route.template pieces = some values) :
    resolve routes route.method (path pieces) = .handled route.endpoint values := by
  have hfound : routes.findSome? (·.take route.method (path pieces))
      = some (route.endpoint, values) := by
    obtain ⟨before, after, rfl⟩ := List.append_of_mem hroute
    obtain ⟨-, -, hbefore⟩ := List.pairwise_append.mp hroutes
    have hnone : before.findSome? (·.take route.method (path pieces)) = none :=
      List.findSome?_eq_none_iff.mpr fun other hother =>
        Route.take_separate (hbefore other hother route List.mem_cons_self) hfree hmatch
    rw [List.findSome?_append, hnone, Option.none_or, List.findSome?_cons,
      Route.take_filled hfree hmatch]
  rw [resolve, hfound]

/-- **A path that no route has room for is not found**, whatever the method: it fits a
template apart from all of them. -/
theorem resolve_not_found {routes : List (Route ε)} {template : List Segment}
    (hroutes : ∀ route ∈ routes, apart template route.template = true)
    {pieces values : List String} (hfree : ∀ piece ∈ pieces, '/' ∉ piece.toList)
    (hmatch : match_segments template pieces = some values) (method : String) :
    resolve routes method (path pieces) = .not_found := by
  have hvalues : ∀ route ∈ routes, route.values (path pieces) = none := by
    intro route hroute
    rw [Route.values, segments_path hfree, Option.bind_some]
    exact match_segments_apart (hroutes route hroute) hmatch
  have hnone : routes.findSome? (·.take method (path pieces)) = none := by
    refine List.findSome?_eq_none_iff.mpr fun route hroute => ?_
    rw [Route.take, hvalues route hroute, Option.map_none]
    split <;> rfl
  have hany : (routes.any fun route => (route.values (path pieces)).isSome) = false := by
    rw [List.any_eq_false]
    intro route hroute
    rw [hvalues route hroute]
    exact Bool.false_ne_true
  simp only [resolve, hnone, hany, Bool.false_eq_true, if_false]

end Tables

end TradeLogistics.PathTemplates
