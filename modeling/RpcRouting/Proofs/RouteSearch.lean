import RpcRouting.Proofs.Draw
import RpcRouting.Route.VirtualHost
import Mathlib.Data.List.Forall2

namespace RpcRouting

-- The same route, with its header matchers in any order.
structure Route.Rearranged (route other : Route) : Prop where
  path_eq : other.routeMatch.path = route.routeMatch.path
  headers_perm : other.routeMatch.headers.Perm route.routeMatch.headers
  fraction_eq : other.routeMatch.fraction = route.routeMatch.fraction
  action_eq : other.action = route.action

theorem Route.Rearranged.refl (route : Route) : route.Rearranged route := ⟨rfl, .refl _, rfl, rfl⟩

variable {path : String} {headers : Headers} {route other : Route} {routes others : List Route}

theorem RouteMatch.accepts_of_not_isCandidate {routeMatch : RouteMatch}
    (h : routeMatch.isCandidate path headers = false) :
    routeMatch.accepts path headers = pure false := by
  rw [accepts, h]
  rfl

theorem Route.Rearranged.isCandidate_eq (h : route.Rearranged other) :
    other.routeMatch.isCandidate path headers = route.routeMatch.isCandidate path headers := by
  unfold RouteMatch.isCandidate
  rw [h.path_eq, h.headers_perm.all_eq]

theorem Route.Rearranged.accepts_eq (h : route.Rearranged other) :
    other.routeMatch.accepts path headers = route.routeMatch.accepts path headers := by
  unfold RouteMatch.accepts
  rw [h.isCandidate_eq, h.fraction_eq]

-- The bounds of the questions that the candidates of a list can ask, in order.
def Route.bounds (path : String) (headers : Headers) (routes : List Route) : List Nat :=
  (routes.filter (·.routeMatch.isCandidate path headers)).filterMap fun route =>
    route.routeMatch.fraction.map (·.denominator.toNat)

-- A candidate asks what its fraction asks, and every other route nothing.
theorem Route.map_fst_draws_accepts {σ : Type} (answer : Nat → σ → Nat × σ) (source : σ)
    (route : Route) :
    ((route.routeMatch.accepts path headers).run answer source).draws.map (·.1) =
      bounds path headers [route] := by
  unfold RouteMatch.accepts
  cases hc : route.routeMatch.isCandidate path headers with
  | false => simp [bounds, hc, pure, Draw.run]
  | true =>
    cases hf : route.routeMatch.fraction with
    | none => simp [bounds, hc, hf, pure, Draw.run]
    | some fraction =>
      have hbounds : bounds path headers [route] = [fraction.denominator.toNat] := by
        simp [bounds, hc, hf]
      rw [hbounds]
      rfl

theorem Route.bounds_cons (route : Route) (rest : List Route) :
    bounds path headers (route :: rest) =
      bounds path headers [route] ++ bounds path headers rest := by
  simp only [bounds]
  rw [← List.singleton_append, List.filter_append, List.filterMap_append]

theorem RouteMatch.isCandidate_of_accepts {σ : Type} {answer : Nat → σ → Nat × σ} {source : σ}
    {routeMatch : RouteMatch}
    (h : ((routeMatch.accepts path headers).run answer source).value = true) :
    routeMatch.isCandidate path headers = true := by
  by_contra hn
  rw [accepts_of_not_isCandidate (Bool.not_eq_true _ ▸ hn)] at h
  cases h

namespace VirtualHost

theorem firstAccepting_of_not_isCandidate (index : Nat)
    (h : route.routeMatch.isCandidate path headers = false) :
    firstAccepting path headers index (route :: routes) =
      firstAccepting path headers (index + 1) routes := by
  rw [firstAccepting, RouteMatch.accepts_of_not_isCandidate h]
  rfl

-- Searching a list that lacks some routes, none of them a candidate, and that has the others
-- rearranged. What is found stands as far into this list as there are kept routes before it.
theorem firstAccepting_filter (keep : Route → Bool)
    (hkeep : ∀ route ∈ routes, route.routeMatch.isCandidate path headers = true →
      keep route = true)
    (hothers : List.Forall₂ Route.Rearranged (routes.filter keep) others) (index index' : Nat) :
    Draw.Alike
      (fun found found' => (found = none ∧ found' = none) ∨
        ∃ position route other, found = some (index + position, route) ∧ route.Rearranged other ∧
          found' = some (index' + (routes.take position).countP keep, other))
      (firstAccepting path headers index routes) (firstAccepting path headers index' others) := by
  induction routes generalizing others index index' with
  | nil =>
    cases hothers
    exact .done (.inl ⟨rfl, rfl⟩)
  | cons first rest ih =>
    rw [List.forall_mem_cons] at hkeep
    cases hk : keep first with
    | true =>
      rw [List.filter_cons_of_pos hk] at hothers
      cases hothers with
      | @cons _ first' _ rest' hfirst hrest =>
        rw [firstAccepting, firstAccepting, hfirst.accepts_eq]
        refine Draw.alike_bind _ fun accepted => ?_
        cases accepted with
        | true => exact .done (.inr ⟨0, first, first', rfl, hfirst, rfl⟩)
        | false =>
          refine (ih hkeep.2 hrest (index + 1) (index' + 1)).mono ?_
          rintro found found' (hnone | ⟨position, route, other, rfl, hsame, rfl⟩)
          · exact .inl hnone
          · refine .inr ⟨position + 1, route, other, ?_, hsame, ?_⟩
            · rw [Nat.add_right_comm, Nat.add_assoc]
            · rw [List.take_succ_cons, List.countP_cons_of_pos hk, Nat.add_right_comm,
                Nat.add_assoc]
    | false =>
      rw [List.filter_cons_of_neg (by simp [hk])] at hothers
      have hc : first.routeMatch.isCandidate path headers = false := by
        by_contra hn
        have htrue := hkeep.1 (Bool.not_eq_false _ ▸ hn)
        rw [hk] at htrue
        cases htrue
      rw [firstAccepting_of_not_isCandidate index hc]
      refine (ih hkeep.2 hothers (index + 1) index').mono ?_
      rintro found found' (hnone | ⟨position, route, other, rfl, hsame, rfl⟩)
      · exact .inl hnone
      · refine .inr ⟨position + 1, route, other, ?_, hsame, ?_⟩
        · rw [Nat.add_right_comm, Nat.add_assoc]
        · rw [List.take_succ_cons, List.countP_cons_of_neg (by simp [hk])]

-- The second host lacks routes of the first that are no candidates, and has the others rearranged.
structure ReducesTo (host : VirtualHost) (path : String) (headers : Headers)
    (keep : Route → Bool) (other : VirtualHost) : Prop where
  keeps_candidates : ∀ route ∈ host.routes,
    route.routeMatch.isCandidate path headers = true → keep route = true
  rearranged : List.Forall₂ Route.Rearranged (host.routes.filter keep) other.routes

-- What is found in a host and in one that it reduces to: nothing in either, or a route and the same
-- route rearranged. This one stands behind as many routes as are kept of those before the first.
inductive Corresponds (host : VirtualHost) (keep : Route → Bool) :
    Option (Nat × Route) → Option (Nat × Route) → Prop
  | none : Corresponds host keep none none
  | some {index : Nat} {route other : Route} (hsame : route.Rearranged other) :
      Corresponds host keep (some (index, route))
        (some ((host.routes.take index).countP keep, other))

theorem ReducesTo.findRoute_alike {host host' : VirtualHost} {keep : Route → Bool}
    (h : host.ReducesTo path headers keep host') :
    Draw.Alike (host.Corresponds keep) (host.findRoute path headers)
      (host'.findRoute path headers) := by
  refine (firstAccepting_filter keep h.keeps_candidates h.rearranged 0 0).mono ?_
  rintro found found' (⟨rfl, rfl⟩ | ⟨index, route, other, rfl, hsame, rfl⟩)
  · exact .none
  · rw [Nat.zero_add, Nat.zero_add]
    exact .some hsame

section Run

variable {σ : Type} {answer : Nat → σ → Nat × σ} {source : σ}

theorem run_firstAccepting_of_accepts (index : Nat)
    (h : ((route.routeMatch.accepts path headers).run answer source).value = true) :
    (firstAccepting path headers index (route :: routes)).run answer source =
      let first := (route.routeMatch.accepts path headers).run answer source
      ⟨some (index, route), first.draws, first.source⟩ := by
  rw [firstAccepting, Draw.run_bind]
  simp [h, pure, Draw.run]

theorem run_firstAccepting_of_rejects (index : Nat)
    (h : ((route.routeMatch.accepts path headers).run answer source).value = false) :
    (firstAccepting path headers index (route :: routes)).run answer source =
      let first := (route.routeMatch.accepts path headers).run answer source
      let rest := (firstAccepting path headers (index + 1) routes).run answer first.source
      ⟨rest.value, first.draws ++ rest.draws, rest.source⟩ := by
  rw [firstAccepting, Draw.run_bind]
  simp [h]

-- A search asks what the candidates ask that it comes to: up to the one that is found, or all.
theorem run_firstAccepting (answer : Nat → σ → Nat × σ) (routes : List Route) (index : Nat)
    (source : σ) :
    let found := (firstAccepting path headers index routes).run answer source
    (found.value = none → found.draws.map (·.1) = Route.bounds path headers routes) ∧
    ∀ place route, found.value = some (place, route) →
      ∃ position, place = index + position ∧ routes[position]? = some route ∧
        route.routeMatch.isCandidate path headers = true ∧
        found.draws.map (·.1) = Route.bounds path headers (routes.take (position + 1)) := by
  induction routes generalizing index source with
  | nil =>
    refine ⟨fun _ => rfl, fun place route h => ?_⟩
    cases h
  | cons first rest ih =>
    have hfirst : ((first.routeMatch.accepts path headers).run answer source).draws.map (·.1) =
        Route.bounds path headers [first] := first.map_fst_draws_accepts answer source
    cases hv : ((first.routeMatch.accepts path headers).run answer source).value with
    | true =>
      rw [run_firstAccepting_of_accepts index hv]
      dsimp only
      refine ⟨fun h => ?_, fun place route h => ?_⟩
      · cases h
      · cases h
        exact ⟨0, rfl, rfl, RouteMatch.isCandidate_of_accepts hv, hfirst⟩
    | false =>
      rw [run_firstAccepting_of_rejects index hv]
      obtain ⟨hnone, hsome⟩ :=
        ih (index + 1) ((first.routeMatch.accepts path headers).run answer source).source
      dsimp only
      rw [List.map_append, hfirst]
      refine ⟨fun h => ?_, fun place route h => ?_⟩
      · rw [hnone h, Route.bounds_cons first rest]
      · obtain ⟨position, rfl, hroute, hcandidate, hbounds⟩ := hsome place route h
        refine ⟨position + 1, by omega, hroute, hcandidate, ?_⟩
        rw [hbounds, List.take_succ_cons, Route.bounds_cons first (rest.take (position + 1))]

-- The questions of a search are those of the candidates, up to the one that is found or all.
structure AsksCandidates (host : VirtualHost) (path : String) (headers : Headers)
    (found : Draw.Result (Option (Nat × Route)) σ) : Prop where
  of_none : found.value = none →
    found.draws.map (·.1) = Route.bounds path headers host.routes
  of_some : ∀ index route, found.value = some (index, route) →
    host.routes[index]? = some route ∧ route.routeMatch.isCandidate path headers = true ∧
    found.draws.map (·.1) = Route.bounds path headers (host.routes.take (index + 1))

theorem run_findRoute (answer : Nat → σ → Nat × σ) (host : VirtualHost) (source : σ) :
    host.AsksCandidates path headers ((host.findRoute path headers).run answer source) := by
  obtain ⟨hnone, hsome⟩ := run_firstAccepting answer host.routes 0 source
  refine ⟨hnone, fun index route h => ?_⟩
  obtain ⟨position, hindex, hfound⟩ := hsome index route h
  rw [Nat.zero_add] at hindex
  rw [hindex]
  exact hfound

end Run

end VirtualHost

end RpcRouting
