import RpcRouting.Compile.VirtualHost
import RpcRouting.Resolver.RouteTable
import Mathlib.Tactic.SplitIfs

namespace RpcRouting

namespace Outcome

variable {α β : Type}

theorem bind_eq_compiled_iff {m : Outcome α} {f : α → Outcome β} {b : β} :
    m >>= f = .compiled b ↔ ∃ a, m = .compiled a ∧ f a = .compiled b := by
  cases m with
  | compiled a =>
    constructor
    · intro h
      exact ⟨a, rfl, h⟩
    · rintro ⟨a', ha, h⟩
      cases ha
      exact h
  | invalid defect => simp [Bind.bind, Outcome.bind]
  | skipped => simp [Bind.bind, Outcome.bind]

theorem bind_eq_skipped_iff {m : Outcome α} {f : α → Outcome β} :
    m >>= f = .skipped ↔ m = .skipped ∨ ∃ a, m = .compiled a ∧ f a = .skipped := by
  cases m <;> simp [Bind.bind, Outcome.bind]

theorem mapM_cons_eq_compiled_iff {f : α → Outcome β} {a : α} {as : List α} {bs : List β} :
    (a :: as).mapM f = .compiled bs ↔
      ∃ b rest, f a = .compiled b ∧ as.mapM f = .compiled rest ∧ bs = b :: rest := by
  rw [List.mapM_cons, bind_eq_compiled_iff]
  constructor
  · rintro ⟨b, hb, h⟩
    obtain ⟨rest, hr, he⟩ := bind_eq_compiled_iff.mp h
    cases he
    exact ⟨b, rest, hb, hr, rfl⟩
  · rintro ⟨b, rest, hb, hr, rfl⟩
    exact ⟨b, hb, bind_eq_compiled_iff.mpr ⟨rest, hr, rfl⟩⟩

-- Where a list compiles, each of its members does.
theorem exists_compiled_of_mem {f : α → Outcome β} {as : List α} {bs : List β}
    (h : as.mapM f = .compiled bs) {a : α} (ha : a ∈ as) : ∃ b, f a = .compiled b := by
  induction as generalizing bs with
  | nil => cases ha
  | cons first rest ih =>
    obtain ⟨b, others, hf, ho, rfl⟩ := mapM_cons_eq_compiled_iff.mp h
    rcases List.mem_cons.mp ha with rfl | ha
    · exact ⟨b, hf⟩
    · exact ih ho ha

-- Every member of a compiled list comes from one of the list.
theorem exists_of_mem_compiled {f : α → Outcome β} {as : List α} {bs : List β}
    (h : as.mapM f = .compiled bs) {b : β} (hb : b ∈ bs) : ∃ a ∈ as, f a = .compiled b := by
  induction as generalizing bs with
  | nil =>
    cases h
    cases hb
  | cons first rest ih =>
    obtain ⟨c, others, hf, ho, rfl⟩ := mapM_cons_eq_compiled_iff.mp h
    rcases List.mem_cons.mp hb with rfl | hb
    · exact ⟨first, List.mem_cons_self, hf⟩
    · obtain ⟨a, ha, hc⟩ := ih ho hb
      exact ⟨a, List.mem_cons_of_mem _ ha, hc⟩

end Outcome

namespace Compile

open Regex (Pattern)

theorem pathSpecifier_safeRegex_eq_compiled_iff {wire : Wire.RegexMatcher}
    {matcher : PathMatcher} :
    pathSpecifier (some (.safeRegex wire)) = .compiled matcher ↔
      ∃ pattern, Pattern.compile? wire.regex = some pattern ∧ matcher = .regex pattern := by
  simp only [pathSpecifier]
  cases Pattern.compile? wire.regex with
  | none => simp
  | some pattern => simp [eq_comm]

theorem headerSpecifier_safeRegex_eq_compiled_iff {header : String} {wire : Wire.RegexMatcher}
    {test : HeaderTest} :
    headerSpecifier header (some (.safeRegex wire)) = .compiled test ↔
      ∃ pattern, Pattern.compile? wire.regex = some pattern ∧ test = .regex pattern := by
  simp only [headerSpecifier]
  cases Pattern.compile? wire.regex with
  | none => simp
  | some pattern => simp [eq_comm]

theorem headerMatcher_eq_compiled_iff {wire : Wire.HeaderMatcher .v3} {matcher : HeaderMatcher} :
    headerMatcher wire = .compiled matcher ↔
      matcher.name = wire.name ∧ matcher.invert = wire.invert ∧
        headerSpecifier wire.name wire.specifier = .compiled matcher.test := by
  rw [headerMatcher, Outcome.bind_eq_compiled_iff]
  constructor
  · rintro ⟨test, ht, h⟩
    cases h
    exact ⟨rfl, rfl, ht⟩
  · rintro ⟨hn, hi, ht⟩
    exact ⟨matcher.test, ht, by cases matcher; simp_all [pure]⟩

theorem routeMatch_eq_compiled_iff {wire : Wire.RouteMatch .v3} {routeMatch' : RouteMatch} :
    routeMatch wire = .compiled routeMatch' ↔
      wire.queryParameters = [] ∧ wire.caseSensitive ≠ some false ∧
        pathSpecifier wire.path = .compiled routeMatch'.path ∧
        wire.headers.mapM headerMatcher = .compiled routeMatch'.headers ∧
        routeMatch'.fraction = wire.runtimeFraction.map fraction := by
  unfold routeMatch
  split_ifs with hq hc
  · simp only [false_iff, not_and]
    intro he
    simp [he] at hq
  · simp [hc]
  · have he : wire.queryParameters = [] := by simpa using hq
    rw [Outcome.bind_eq_compiled_iff]
    constructor
    · rintro ⟨path, hp, h⟩
      obtain ⟨headers, hh, h⟩ := Outcome.bind_eq_compiled_iff.mp h
      cases h
      exact ⟨he, hc, hp, hh, rfl⟩
    · rintro ⟨-, -, hp, hh, hf⟩
      refine ⟨_, hp, Outcome.bind_eq_compiled_iff.mpr ⟨_, hh, ?_⟩⟩
      rw [← hf]
      rfl

theorem action_eq_compiled_iff {wire : Option Wire.Action} {action' : RouteAction} :
    action wire = .compiled action' ↔
      ∃ inner, wire = some (.route inner) ∧ action'.timeoutNanos = timeoutNanos inner ∧
        destination inner.cluster = .compiled action'.destination := by
  cases wire with
  | none => simp [action]
  | some wire =>
    cases wire with
    | route inner =>
      simp only [action, routeAction, Outcome.bind_eq_compiled_iff, Option.some.injEq,
        Wire.Action.route.injEq, exists_eq_left']
      constructor
      · rintro ⟨chosen, hd, h⟩
        cases h
        exact ⟨rfl, hd⟩
      · rintro ⟨ht, hd⟩
        exact ⟨_, hd, by rw [← ht]; rfl⟩
    | redirect redirect => simp [action]
    | directResponse response => simp [action]

theorem route_eq_compiled_iff {wire : Wire.Route .v3} {route' : Route} :
    route wire = .compiled route' ↔
      routeMatch (wire.routeMatch.getD {}) = .compiled route'.routeMatch ∧
        action wire.action = .compiled route'.action := by
  rw [route, Outcome.bind_eq_compiled_iff]
  constructor
  · rintro ⟨m, hm, h⟩
    obtain ⟨a, ha, h⟩ := Outcome.bind_eq_compiled_iff.mp h
    cases h
    exact ⟨hm, ha⟩
  · rintro ⟨hm, ha⟩
    exact ⟨_, hm, Outcome.bind_eq_compiled_iff.mpr ⟨_, ha, rfl⟩⟩

theorem weightedClusters_eq_compiled_iff {wire : Wire.WeightedCluster} {chosen : Destination} :
    weightedClusters wire = .compiled chosen ↔
      chosen = .weighted (wire.clusters.map clusterWeight) ∧
        wire.clusters.map clusterWeight ≠ [] ∧
        1 ≤ ClusterWeight.total (wire.clusters.map clusterWeight) ∧
        ClusterWeight.total (wire.clusters.map clusterWeight) ≤ maxTotal := by
  simp only [weightedClusters]
  split_ifs with he hz hl
  · simp only [false_iff]
    rintro ⟨-, hne, -⟩
    exact hne (List.isEmpty_iff.mp he)
  · simp only [false_iff]
    omega
  · simp only [false_iff]
    omega
  · have hne : wire.clusters.map clusterWeight ≠ [] := fun h => he (List.isEmpty_iff.mpr h)
    constructor
    · intro h
      cases h
      exact ⟨rfl, hne, by omega, by omega⟩
    · rintro ⟨rfl, -⟩
      rfl

-- A specifier of version 3 is compiled or refused. Only a pattern has to be looked at for that.
theorem pathSpecifier_ne_skipped (wire : Option (Wire.PathSpecifier .v3)) :
    pathSpecifier wire ≠ .skipped := by
  intro h
  cases wire with
  | none => cases h
  | some specifier =>
    cases specifier with
    | startsWith start => cases h
    | path whole => cases h
    | connect => cases h
    | safeRegex wire =>
      simp only [pathSpecifier] at h
      cases hc : Pattern.compile? wire.regex with
      | none =>
        rw [hc] at h
        cases h
      | some pattern =>
        rw [hc] at h
        cases h

theorem headerSpecifier_ne_skipped (header : String) (wire : Option (Wire.HeaderSpecifier .v3)) :
    headerSpecifier header wire ≠ .skipped := by
  intro h
  cases wire with
  | none => cases h
  | some specifier =>
    cases specifier with
    | exact value => cases h
    | range bounds => cases h
    | present wanted => cases h
    | startsWith start => cases h
    | endsWith stop => cases h
    | safeRegex wire =>
      simp only [headerSpecifier] at h
      cases hc : Pattern.compile? wire.regex with
      | none =>
        rw [hc] at h
        cases h
      | some pattern =>
        rw [hc] at h
        cases h

theorem headerMatcher_ne_skipped (wire : Wire.HeaderMatcher .v3) :
    headerMatcher wire ≠ .skipped := by
  intro h
  rcases Outcome.bind_eq_skipped_iff.mp h with h | ⟨test, -, h⟩
  · exact headerSpecifier_ne_skipped _ _ h
  · cases h

theorem headers_ne_skipped (wires : List (Wire.HeaderMatcher .v3)) :
    wires.mapM headerMatcher ≠ .skipped := by
  induction wires with
  | nil =>
    intro h
    cases h
  | cons wire rest ih =>
    intro h
    rw [List.mapM_cons] at h
    rcases Outcome.bind_eq_skipped_iff.mp h with h | ⟨first, -, h⟩
    · exact headerMatcher_ne_skipped wire h
    rcases Outcome.bind_eq_skipped_iff.mp h with h | ⟨others, -, h⟩
    · exact ih h
    · cases h

theorem routeMatch_eq_skipped_iff {wire : Wire.RouteMatch .v3} :
    routeMatch wire = .skipped ↔ wire.queryParameters.isEmpty = false := by
  unfold routeMatch
  split_ifs with hq hc
  · simpa using hq
  · simp_all
  · constructor
    · intro h
      rcases Outcome.bind_eq_skipped_iff.mp h with h | ⟨path, -, h⟩
      · exact absurd h (pathSpecifier_ne_skipped _)
      rcases Outcome.bind_eq_skipped_iff.mp h with h | ⟨headers, -, h⟩
      · exact absurd h (headers_ne_skipped _)
      · cases h
    · intro h
      simp [h] at hq

theorem destination_eq_skipped_iff {wire : Option Wire.ClusterSpecifier} :
    destination wire = .skipped ↔ ∃ name, wire = some (.clusterHeader name) := by
  cases wire with
  | none => simp [destination]
  | some specifier =>
    cases specifier with
    | cluster name => simp [destination]
    | clusterHeader name => simp [destination]
    | weightedClusters wire =>
      simp only [destination, weightedClusters]
      split_ifs <;> simp

section RouteList

variable {host : String} {index : Nat} {before rest wires : List (Wire.Route .v3)}

-- Routes of which none is wrong are compiled or left out one by one, and the others follow.
theorem routesFrom_append (h : ∀ wire ∈ before, (route wire).defect? = none) :
    routesFrom host index (before ++ rest) =
      (routesFrom host (index + before.length) rest).map fun result =>
        ⟨before.filterMap (fun wire => (route wire).value?) ++ result.routes,
          before.countP (fun wire => (route wire).isSkipped) + result.skipped⟩ := by
  induction before generalizing index with
  | nil =>
    simp only [List.nil_append, List.length_nil, List.filterMap_nil, List.countP_nil, Nat.zero_add]
    cases routesFrom host index rest <;> rfl
  | cons wire before ih =>
    rw [List.forall_mem_cons] at h
    have hindex : index + 1 + before.length = index + (before.length + 1) := by omega
    rw [List.cons_append, routesFrom, ih h.2, hindex, List.length_cons, List.filterMap_cons,
      List.countP_cons]
    cases hr : route wire with
    | invalid defect =>
      rw [hr] at h
      cases h.1
    | skipped =>
      cases routesFrom host (index + (before.length + 1)) rest with
      | error cause => rfl
      | ok result =>
        simp only [Except.map, Outcome.value?, Outcome.isSkipped, if_true, Except.ok.injEq,
          Routes.mk.injEq, true_and]
        omega
    | compiled compiled =>
      cases routesFrom host (index + (before.length + 1)) rest with
      | error cause => rfl
      | ok result => rfl

theorem routesFrom_of_fine (h : ∀ wire ∈ wires, (route wire).defect? = none) :
    routesFrom host index wires =
      .ok ⟨wires.filterMap (fun wire => (route wire).value?),
        wires.countP (fun wire => (route wire).isSkipped)⟩ := by
  rw [← List.append_nil wires, routesFrom_append h]
  simp [routesFrom, Except.map]

theorem routesFrom_of_split {wire : Wire.Route .v3} {defect : Defect}
    (h : ∀ earlier ∈ before, (route earlier).defect? = none)
    (hw : route wire = .invalid defect) :
    routesFrom host index (before ++ wire :: rest) =
      .error ⟨host, index + before.length, wire.name, defect⟩ := by
  rw [routesFrom_append h, routesFrom, hw]
  rfl

-- Where a route of a list is wrong, there is a first one.
theorem exists_first_wrong (wires : List (Wire.Route .v3)) :
    (∀ wire ∈ wires, (route wire).defect? = none) ∨
      ∃ before wire after defect, wires = before ++ wire :: after ∧
        (∀ earlier ∈ before, (route earlier).defect? = none) ∧ route wire = .invalid defect := by
  induction wires with
  | nil => exact .inl fun wire hw => absurd hw List.not_mem_nil
  | cons first rest ih =>
    have hgo : (route first).defect? = none →
        (∀ wire ∈ first :: rest, (route wire).defect? = none) ∨
          ∃ before wire after defect, first :: rest = before ++ wire :: after ∧
            (∀ earlier ∈ before, (route earlier).defect? = none) ∧
            route wire = .invalid defect := by
      intro hfine
      rcases ih with hall | ⟨before, wire, after, defect, rfl, hbefore, hw⟩
      · exact .inl (List.forall_mem_cons.mpr ⟨hfine, hall⟩)
      · exact .inr ⟨first :: before, wire, after, defect, rfl,
          List.forall_mem_cons.mpr ⟨hfine, hbefore⟩, hw⟩
    cases hr : route first with
    | invalid defect => exact .inr ⟨[], first, rest, defect, rfl, by simp, hr⟩
    | skipped => exact hgo (by rw [hr]; rfl)
    | compiled compiled => exact hgo (by rw [hr]; rfl)

-- In a list where none is wrong, a route is either compiled or counted as skipped.
theorem length_add_skipped (h : ∀ wire ∈ wires, (route wire).defect? = none) :
    (wires.filterMap fun wire => (route wire).value?).length +
      (wires.countP fun wire => (route wire).isSkipped) = wires.length := by
  induction wires with
  | nil => rfl
  | cons wire rest ih =>
    rw [List.forall_mem_cons] at h
    have hlength := ih h.2
    rw [List.filterMap_cons, List.countP_cons, List.length_cons]
    cases hr : route wire with
    | invalid defect =>
      rw [hr] at h
      cases h.1
    | skipped =>
      simp only [Outcome.value?, Outcome.isSkipped, if_true] at hlength ⊢
      omega
    | compiled compiled =>
      simp only [Outcome.value?, Outcome.isSkipped, Bool.false_eq_true, if_false,
        List.length_cons] at hlength ⊢
      omega

theorem virtualHost_of_fine {wire : Wire.VirtualHost .v3}
    (h : ∀ wire' ∈ wire.routes, (route wire').defect? = none) :
    virtualHost wire =
      .ok (⟨wire.name, wire.domains, wire.routes.filterMap fun wire' => (route wire').value?⟩,
        wire.routes.countP fun wire' => (route wire').isSkipped) := by
  rw [virtualHost, routesFrom_of_fine h]
  rfl

theorem virtualHost_of_split {wire : Wire.VirtualHost .v3} {first : Wire.Route .v3}
    {defect : Defect} (hroutes : wire.routes = before ++ first :: rest)
    (h : ∀ earlier ∈ before, (route earlier).defect? = none)
    (hf : route first = .invalid defect) :
    virtualHost wire = .error ⟨wire.name, before.length, first.name, defect⟩ := by
  rw [virtualHost, hroutes, routesFrom_of_split h hf, Nat.zero_add]
  rfl

theorem virtualHost_eq_error_iff {wire : Wire.VirtualHost .v3} {cause : InvalidRoute} :
    virtualHost wire = .error cause ↔
      ∃ before first after, wire.routes = before ++ first :: after ∧
        (∀ earlier ∈ before, (route earlier).defect? = none) ∧
        route first = .invalid cause.defect ∧
        cause = ⟨wire.name, before.length, first.name, cause.defect⟩ := by
  constructor
  · intro herror
    rcases exists_first_wrong wire.routes with hall | ⟨before, first, after, defect, hs, hb, hf⟩
    · rw [virtualHost_of_fine hall] at herror
      cases herror
    · rw [virtualHost_of_split hs hb hf] at herror
      cases herror
      exact ⟨before, first, after, hs, hb, hf, rfl⟩
  · rintro ⟨before, first, after, hs, hb, hf, hcause⟩
    rw [virtualHost_of_split hs hb hf, ← hcause]

theorem virtualHost_eq_ok_iff {wire : Wire.VirtualHost .v3} {host : VirtualHost} {skipped : Nat} :
    virtualHost wire = .ok (host, skipped) ↔
      (∀ wire' ∈ wire.routes, (route wire').defect? = none) ∧
        host = ⟨wire.name, wire.domains,
          wire.routes.filterMap fun wire' => (route wire').value?⟩ ∧
        skipped = wire.routes.countP fun wire' => (route wire').isSkipped := by
  constructor
  · intro hok
    rcases exists_first_wrong wire.routes with hall | ⟨before, first, after, defect, hs, hb, hf⟩
    · rw [virtualHost_of_fine hall] at hok
      cases hok
      exact ⟨hall, rfl, rfl⟩
    · rw [virtualHost_of_split hs hb hf] at hok
      cases hok
  · rintro ⟨hall, rfl, rfl⟩
    exact virtualHost_of_fine hall

end RouteList

theorem virtualHost_eq_ok {wire : Wire.VirtualHost .v3} {host : VirtualHost} {skipped : Nat}
    (h : virtualHost wire = .ok (host, skipped)) :
    host.name = wire.name ∧ host.domains = wire.domains ∧
      host.routes = wire.routes.filterMap (fun wire => (route wire).value?) ∧
      ∀ route' ∈ wire.routes, (route route').defect? = none := by
  obtain ⟨hall, rfl, -⟩ := virtualHost_eq_ok_iff.mp h
  exact ⟨rfl, rfl, rfl, hall⟩

theorem length_add_skipped_of_virtualHost {wire : Wire.VirtualHost .v3} {host : VirtualHost}
    {skipped : Nat} (h : virtualHost wire = .ok (host, skipped)) :
    host.routes.length + skipped = wire.routes.length := by
  obtain ⟨hall, rfl, rfl⟩ := virtualHost_eq_ok_iff.mp h
  exact length_add_skipped hall

-- What is said about a host that does not compile is about the first route that is wrong.
-- Positions count the routes that are skipped.
theorem virtualHost_eq_error {wire : Wire.VirtualHost .v3} {cause : InvalidRoute}
    (h : virtualHost wire = .error cause) :
    cause.virtualHost = wire.name ∧
      ∃ wireRoute, wire.routes[cause.index]? = some wireRoute ∧ cause.route = wireRoute.name ∧
        route wireRoute = .invalid cause.defect ∧
        ∀ k < cause.index, ∀ earlier, wire.routes[k]? = some earlier →
          (route earlier).defect? = none := by
  obtain ⟨before, first, after, hs, hb, hf, hcause⟩ := virtualHost_eq_error_iff.mp h
  have hhost : cause.virtualHost = wire.name := by rw [hcause]
  have hindex : cause.index = before.length := by rw [hcause]
  have hname : cause.route = first.name := by rw [hcause]
  rw [hs, hindex]
  refine ⟨hhost, first, by simp, hname, hf, ?_⟩
  intro k hk earlier he
  rw [List.getElem?_append_left hk] at he
  exact hb earlier (List.mem_of_getElem? he)

-- One route that is wrong is enough to refuse a host.
theorem exists_virtualHost_eq_error {wire : Wire.VirtualHost .v3} {wireRoute : Wire.Route .v3}
    {defect : Defect} (hr : wireRoute ∈ wire.routes) (hd : route wireRoute = .invalid defect) :
    ∃ cause, virtualHost wire = .error cause := by
  cases hv : virtualHost wire with
  | error cause => exact ⟨cause, rfl⟩
  | ok built =>
    have hnone := (virtualHost_eq_ok_iff.mp hv).1 wireRoute hr
    rw [hd] at hnone
    cases hnone

theorem value?_eq_some_iff {α : Type} {outcome : Outcome α} {a : α} :
    outcome.value? = some a ↔ outcome = .compiled a := by
  cases outcome <;> simp [Outcome.value?]

end Compile

theorem RouteTable.build_eq_ok {config : Wire.RouteConfiguration .v3} {authority : String}
    {table : RouteTable} {skipped : Nat} (h : build config authority = .ok (table, skipped)) :
    ∃ wire, Wire.VirtualHost.select? config.virtualHosts authority = some wire ∧
      Compile.virtualHost wire = .ok (table.virtualHost, skipped) := by
  unfold build at h
  split at h
  · cases h
  · rename_i wire hs
    split at h
    · cases h
    · rename_i host count hv
      cases h
      exact ⟨wire, hs, hv⟩

-- Every route of a table was compiled from a route of the selected host.
theorem RouteTable.exists_wire_of_build {config : Wire.RouteConfiguration .v3} {authority : String}
    {table : RouteTable} {skipped : Nat} (h : build config authority = .ok (table, skipped))
    {route : Route} (hr : route ∈ table.virtualHost.routes) :
    ∃ host, Wire.VirtualHost.select? config.virtualHosts authority = some host ∧
      ∃ wire ∈ host.routes, Compile.route wire = .compiled route := by
  obtain ⟨host, hs, hv⟩ := build_eq_ok h
  obtain ⟨-, -, hroutes, -⟩ := Compile.virtualHost_eq_ok hv
  rw [hroutes, List.mem_filterMap] at hr
  obtain ⟨wire, hw, hc⟩ := hr
  exact ⟨host, hs, wire, hw, Compile.value?_eq_some_iff.mp hc⟩

-- An update is refused for want of a host, or for what is wrong with the selected one.
theorem RouteTable.build_eq_error {config : Wire.RouteConfiguration .v3} {authority : String}
    {error : UpdateError} (h : build config authority = .error error) :
    (Wire.VirtualHost.select? config.virtualHosts authority = none ∧
      error = .noVirtualHost config.name authority) ∨
    ∃ wire cause, Wire.VirtualHost.select? config.virtualHosts authority = some wire ∧
      Compile.virtualHost wire = .error cause ∧ error = .rejected config.name cause := by
  unfold build at h
  split at h
  · rename_i hs
    cases h
    exact .inl ⟨hs, rfl⟩
  · rename_i wire hs
    split at h
    · rename_i cause hv
      cases h
      exact .inr ⟨wire, cause, hs, hv, rfl⟩
    · cases h

end RpcRouting
