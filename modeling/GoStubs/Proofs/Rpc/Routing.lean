import GoStubs.Rpc.Routing
/-!
# The two maps of a routing

A routing is made by sending each method to one of two maps. Read back, each map holds the methods
that belong there, in the order of their declaration, and every method is in one of them.

* `unary_ofMethods`, `streaming_ofMethods`: the rows of the maps.
* `perm_keys`: the maps share the keys of the routing out among themselves.
-/

namespace GoStubs.Rpc.Routing

variable {μ : Type}

theorem unary_ofMethods (service : String) (methods : List (String × Flow × μ)) :
    (ofMethods service methods).unary =
      (methods.filter fun e => !e.2.1.streams).map fun e => (e.1, e.2.2) := by
  rw [unary, ofMethods, List.filterMap_map, ← List.filterMap_eq_filter, List.map_filterMap]
  -- What is left is about one method: whether it gets a row, and which.
  refine congrArg (List.filterMap · methods) (funext fun e => ?_)
  cases hs : e.2.1.streams <;> simp [Route.ofFlow, Option.guard, hs]

theorem streaming_ofMethods (service : String) (methods : List (String × Flow × μ)) :
    (ofMethods service methods).streaming =
      (methods.filter fun e => e.2.1.streams).map fun e =>
        ⟨e.1, e.2.2, e.2.1.streamsRequests, e.2.1.streamsResponses⟩ := by
  rw [streaming, ofMethods, List.filterMap_map, ← List.filterMap_eq_filter, List.map_filterMap]
  refine congrArg (List.filterMap · methods) (funext fun e => ?_)
  cases hs : e.2.1.streams <;> simp [Route.ofFlow, Option.guard, hs]

/-! ## Keys -/

/-- The keys of a routing, in the order of the methods. -/
def keys (r : Routing μ) : List String := r.routes.map Prod.fst

theorem keys_ofMethods (service : String) (methods : List (String × Flow × μ)) :
    (ofMethods service methods).keys = methods.map Prod.fst := by
  rw [keys, ofMethods, List.map_map]
  rfl

/-- Each key of a routing goes to one of the two maps, as often as it stands there. -/
theorem perm_keys (r : Routing μ) :
    (r.unary.map Prod.fst ++ r.streaming.map (·.key)).Perm r.keys := by
  obtain ⟨service, routes⟩ := r
  unfold unary streaming keys
  induction routes with
  | nil => exact List.Perm.refl _
  | cons route routes ih =>
    obtain ⟨key, route⟩ := route
    cases route with
    | unary method => exact ih.cons key
    | streaming method client server => exact List.perm_middle.trans (ih.cons key)

end GoStubs.Rpc.Routing
