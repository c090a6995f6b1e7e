import RpcRouting.Proofs.Candidates
import RpcRouting.Proofs.HostSelection
import RpcRouting.Proofs.RouteList
import RpcRouting.Proofs.Upgrade

namespace RpcRouting

section

variable {path : String} {headers : Headers} {route : Route} {before after : List Route}

-- The requests that a default route takes: with the empty start all of them, and otherwise those
-- whose path begins with a slash.
def Route.Catches (route : Route) (path : String) : Prop :=
  route.isDefault = true ∧
    (route.routeMatch.path = .startsWith "" ∨ path.toList.head? = some '/')

-- A default route looks at the path alone, and draws nothing.
theorem Route.accepts_of_isDefault (h : route.isDefault = true) (path : String)
    (headers : Headers) :
    route.routeMatch.accepts path headers = pure (route.routeMatch.path.accepts path) := by
  simp only [isDefault, Bool.and_eq_true, List.isEmpty_iff, Option.isNone_iff_eq_none] at h
  obtain ⟨⟨-, hheaders⟩, hfraction⟩ := h
  simp only [RouteMatch.accepts, RouteMatch.isCandidate, hheaders, hfraction, List.all_nil,
    Bool.and_true]
  cases route.routeMatch.path.accepts path <;> rfl

theorem Route.catches_iff (h : route.isDefault = true) (path : String) :
    route.Catches path ↔ route.routeMatch.path.accepts path = true := by
  have hempty : PathMatcher.accepts (.startsWith "") path = true := by
    simp [PathMatcher.accepts]
  have hslash : PathMatcher.accepts (.startsWith "/") path = true ↔
      path.toList.head? = some '/' := by
    have htext : "/".toList = ['/'] := rfl
    rw [PathMatcher.accepts, htext]
    cases path.toList with
    | nil => simp
    | cons c rest =>
      have hfirst : ['/'].isPrefixOf (c :: rest) = true ↔ '/' = c := by simp
      rw [hfirst, List.head?_cons, Option.some.injEq, eq_comm]
  have hpath := h
  simp only [isDefault, Bool.and_eq_true, Bool.or_eq_true, beq_iff_eq] at hpath
  rw [Catches]
  rcases hpath.1.1 with hp | hp
  · simp only [hp, hempty, h, true_or, true_and]
  · simp only [hp, hslash, h, true_and, PathMatcher.startsWith.injEq]
    simp

namespace VirtualHost

-- Searching two lists one after the other.
theorem firstAccepting_append (index : Nat) (before after : List Route) :
    firstAccepting path headers index (before ++ after) =
      firstAccepting path headers index before >>= fun found =>
        found.elim (firstAccepting path headers (index + before.length) after)
          fun hit => pure (some hit) := by
  induction before generalizing index with
  | nil => rfl
  | cons first rest ih =>
    rw [List.cons_append, firstAccepting, firstAccepting, bind_assoc]
    congr 1
    funext accepted
    cases accepted with
    | true => rfl
    | false =>
      rw [List.length_cons, ← Nat.succ_eq_add_one, Nat.add_succ, ← Nat.succ_add]
      exact ih (index + 1)

-- A search that comes to a default route ends there, whatever follows.
theorem firstAccepting_of_catches (h : route.Catches path) (index : Nat)
    (after : List Route) :
    firstAccepting path headers index (route :: after) = pure (some (index, route)) := by
  have haccepts : route.routeMatch.accepts path headers = pure true := by
    rw [Route.accepts_of_isDefault h.1, (Route.catches_iff h.1 path).mp h]
  rw [firstAccepting, haccepts]
  rfl

-- So it finds a route before the default one, or the default one.
theorem findRoute_of_catches {host : VirtualHost} (hroutes : host.routes = before ++ route :: after)
    (h : route.Catches path) :
    host.findRoute path headers =
      (fun found => some (found.getD (before.length, route))) <$>
        firstAccepting path headers 0 before := by
  rw [findRoute, hroutes, firstAccepting_append, firstAccepting_of_catches h, Nat.zero_add,
    map_eq_pure_bind]
  congr 1
  funext found
  cases found with
  | none => rfl
  | some hit => rfl

theorem run_findRoute_of_catches {σ : Type} (answer : Nat → σ → Nat × σ) (source : σ)
    {host : VirtualHost} (hroutes : host.routes = before ++ route :: after)
    (h : route.Catches path) :
    ∃ index found, ((host.findRoute path headers).run answer source).value = some (index, found) ∧
      (before ++ [route])[index]? = some found := by
  have hvalue : ((host.findRoute path headers).run answer source).value =
      some (((firstAccepting path headers 0 before).run answer source).value.getD
        (before.length, route)) := by
    rw [findRoute_of_catches hroutes h, map_eq_pure_bind, Draw.run_bind]
    rfl
  rw [hvalue]
  cases hv : ((firstAccepting path headers 0 before).run answer source).value with
  | none => exact ⟨before.length, route, rfl, by simp⟩
  | some hit =>
    obtain ⟨position, hindex, hfound, -⟩ :=
      (run_firstAccepting answer before 0 source).2 hit.1 hit.2 hv
    refine ⟨hit.1, hit.2, rfl, ?_⟩
    rw [hindex, Nat.zero_add, List.getElem?_append_left, hfound]
    exact (List.getElem?_eq_some_iff.mp hfound).1

end VirtualHost

theorem Resolver.decide_of_findRoute {table other : RouteTable}
    (h : table.virtualHost.findRoute path headers = other.virtualHost.findRoute path headers) :
    decide table path headers = decide other path headers := by
  rw [decide, decide, h]

end

namespace Wire.VirtualHost

-- The second host is the first with more routes at its end, none of which is wrong.
def Extended (wire other : VirtualHost .v3) : Prop :=
  ∃ more, (∀ route ∈ more, (Compile.route route).defect? = none) ∧
    other = { wire with routes := wire.routes ++ more }

-- What is compiled of it begins with what is compiled of the first.
theorem Extended.compiled {wire other : VirtualHost .v3} (h : wire.Extended other)
    {host : RpcRouting.VirtualHost} {skipped : Nat}
    (hc : Compile.virtualHost wire = .ok (host, skipped)) :
    ∃ more skipped', Compile.virtualHost other =
      .ok ({ host with routes := host.routes ++ more }, skipped') := by
  obtain ⟨more, hmore, rfl⟩ := h
  obtain ⟨hfine, rfl, -⟩ := Compile.virtualHost_eq_ok_iff.mp hc
  have hall : ∀ route ∈ wire.routes ++ more, (Compile.route route).defect? = none := by
    intro route hr
    rcases List.mem_append.mp hr with hr | hr
    · exact hfine route hr
    · exact hmore route hr
  refine ⟨more.filterMap fun wire' => (Compile.route wire').value?, _,
    Compile.virtualHost_eq_ok_iff.mpr ⟨hall, ?_, rfl⟩⟩
  rw [List.filterMap_append]

-- Selection looks at domains only, and these are the same.
theorem Extended.selected {authority : String} {hosts others : List (VirtualHost .v3)}
    (h : List.Forall₂ Extended hosts others) {wire : VirtualHost .v3}
    (hs : select? hosts authority = some wire) :
    ∃ other, VirtualHost.select? others authority = some other ∧ wire.Extended other := by
  obtain ⟨n, strength, hbest⟩ := (select?_eq_some_iff authority hosts wire).mp hs
  have hmatches : List.Forall₂
      (fun a b => ∀ found, a.Matches authority found ↔ b.Matches authority found)
      hosts others := by
    refine h.imp fun a b hab => ?_
    obtain ⟨more, -, rfl⟩ := hab
    exact fun found => Iff.rfl
  obtain ⟨other, hother⟩ := hbest.transfer hmatches
  obtain ⟨found, hfound, hextended⟩ := getElem?_of_forall₂ h hbest.stands
  rw [hother.stands] at hfound
  cases hfound
  exact ⟨other, (select?_eq_some_iff authority others other).mpr ⟨n, strength, hother⟩, hextended⟩

end Wire.VirtualHost

-- More routes at the end of the hosts of a configuration, none of them wrong, are compiled or left
-- out behind the routes that were there.
theorem RouteTable.build_extended {config : Wire.RouteConfiguration .v3} {authority : String}
    {hosts : List (Wire.VirtualHost .v3)}
    (h : List.Forall₂ Wire.VirtualHost.Extended config.virtualHosts hosts)
    {table : RouteTable} {skipped : Nat} (hb : build config authority = .ok (table, skipped)) :
    ∃ other skipped', build { config with virtualHosts := hosts } authority = .ok (other, skipped') ∧
      ∃ more, other.virtualHost.routes = table.virtualHost.routes ++ more := by
  obtain ⟨wire, hs, hv⟩ := build_eq_ok hb
  obtain ⟨other, hother, hextended⟩ := Wire.VirtualHost.Extended.selected h hs
  obtain ⟨more, skipped', hcompiled⟩ := hextended.compiled hv
  refine ⟨⟨config.name, { table.virtualHost with routes := table.virtualHost.routes ++ more }⟩,
    skipped', ?_, more, rfl⟩
  simp only [build, hother, hcompiled]

-- A default route takes every request that comes to it, so one that it catches is decided by it or
-- by a route before it. What stands behind it has no part in the decision or in what is drawn for
-- it, be it in a table or in the configuration the table is made from.
theorem Resolver.defaultRoute_shadows_rest (host : VirtualHost) (before after : List Route)
    (route : Route) (hroutes : host.routes = before ++ route :: after)
    (hdefault : route.isDefault = true) (path : String) (headers : Headers)
    (hpath : route.routeMatch.path = .startsWith "" ∨ path.toList.head? = some '/') :
    (∀ (resolver : Resolver) (version : Nat) (name : String),
      resolver.snapshot = some ⟨version, ⟨name, host⟩⟩ →
        ∀ {σ : Type} (answer : Nat → σ → Nat × σ) (source : σ),
          ∃ index found cluster,
            ((host.findRoute path headers).run answer source).value = some (index, found) ∧
            (before ++ [route])[index]? = some found ∧
            ((resolver.resolve path headers).run answer source).value.1 =
              .ok ⟨cluster, found.action.timeoutNanos⟩) ∧
    (∀ rest : List Route,
      let other := { host with routes := before ++ route :: rest }
      other.findRoute path headers = host.findRoute path headers ∧
      ∀ (resolver : Resolver) (version : Nat) (name : String),
        resolver.snapshot = some ⟨version, ⟨name, host⟩⟩ →
          let resolver' := { resolver with snapshot := some ⟨version, ⟨name, other⟩⟩ }
          Prod.fst <$> resolver'.resolve path headers =
            Prod.fst <$> resolver.resolve path headers) ∧
    ∀ (config : Wire.RouteConfiguration .v3) (hosts : List (Wire.VirtualHost .v3))
        (authority name : String) (skipped : Nat),
      RouteTable.build config authority = .ok (⟨name, host⟩, skipped) →
      List.Forall₂ Wire.VirtualHost.Extended config.virtualHosts hosts →
        ∃ table skipped',
          RouteTable.build { config with virtualHosts := hosts } authority =
            .ok (table, skipped') ∧
          table.virtualHost.findRoute path headers = host.findRoute path headers ∧
          decide table path headers = decide ⟨name, host⟩ path headers := by
  have hcatches : route.Catches path := ⟨hdefault, hpath⟩
  have hsame : ∀ {other : VirtualHost} {rest : List Route},
      other.routes = before ++ route :: rest →
        other.findRoute path headers = host.findRoute path headers := by
    intro other rest hother
    rw [VirtualHost.findRoute_of_catches hother hcatches,
      VirtualHost.findRoute_of_catches hroutes hcatches]
  refine ⟨?_, ?_, ?_⟩
  · intro resolver version name hs σ answer source
    obtain ⟨index, found, hfound, hstands⟩ :=
      VirtualHost.run_findRoute_of_catches answer source hroutes hcatches
    let left := ((host.findRoute path headers).run answer source).source
    have hrouted : ((resolver.resolve path headers).run answer source).value.1 =
        .ok ⟨(found.action.selectCluster.run answer left).value, found.action.timeoutNanos⟩ := by
      rw [run_resolve hs, run_decide_of_some hfound]
    exact ⟨index, found, _, hfound, hstands, hrouted⟩
  · intro rest other
    have hfind : other.findRoute path headers = host.findRoute path headers := hsame rfl
    refine ⟨hfind, ?_⟩
    intro resolver version name hs resolver'
    rw [fst_resolve resolver', fst_resolve resolver, hs]
    exact decide_of_findRoute hfind
  · intro config hosts authority name skipped hb hextended
    obtain ⟨table, skipped', hbuild, more, hmore⟩ := RouteTable.build_extended hextended hb
    have hother : table.virtualHost.routes = before ++ route :: (after ++ more) := by
      rw [hmore, hroutes, List.append_assoc, List.cons_append]
    exact ⟨table, skipped', hbuild, hsame hother, decide_of_findRoute (hsame hother)⟩

-- A share of the requests is drawn for before the default route is come to. The exact path behind
-- it never gets a request, and neither does what is put after that.
theorem Resolver.defaultRoute_shadows_rest_drawnBefore :
    let action (name : String) : RouteAction := ⟨.default, .cluster name⟩
    let drawn : Route := ⟨{ path := .startsWith "/a", fraction := some ⟨1, 100⟩ }, action "canary"⟩
    let whole : Route := ⟨{ path := .startsWith "/" }, action "backend"⟩
    let behind : Route := ⟨{ path := .exact "/a" }, action "unused"⟩
    let host : VirtualHost := ⟨"host", ["*"], [drawn, whole, behind]⟩
    let wire (routeMatch : Wire.RouteMatch .v3) (name : String) : Wire.Route .v3 :=
      { routeMatch := some routeMatch, action := some (.route { cluster := some (.cluster name) }) }
    let config : Wire.RouteConfiguration .v3 :=
      { name := "routes"
        virtualHosts :=
          [{ name := "host", domains := ["*"],
             routes :=
              [wire { path := some (.startsWith "/a"),
                      runtimeFraction := some { defaultValue := some { numerator := 1 } } } "canary",
               wire { path := some (.startsWith "/") } "backend",
               wire { path := some (.path "/a") } "unused"] }] }
    let redirect : Wire.Route .v3 :=
      { routeMatch := some { path := some (.startsWith "/a") }, action := some (.redirect {}) }
    let hosts := config.virtualHosts.map fun wire =>
      { wire with routes := wire.routes ++ [redirect] }
    host.routes = [drawn] ++ whole :: [behind] ∧ whole.isDefault = true ∧
      "/a".toList.head? = some '/' ∧
      ((host.findRoute "/a" {}).run (fun bound _ => (bound - 1, ())) ()).draws = [(100, 99)] ∧
      { host with routes := [drawn, whole] }.findRoute "/a" {} = host.findRoute "/a" {} ∧
      RouteTable.build config "service" = .ok (⟨"routes", host⟩, 0) ∧
      ∃ table skipped,
        RouteTable.build { config with virtualHosts := hosts } "service" = .ok (table, skipped) ∧
        decide table "/a" {} = decide ⟨"routes", host⟩ "/a" {} := by
  intro action drawn whole behind host wire config redirect hosts
  have hbuild : RouteTable.build config "service" = .ok (⟨"routes", host⟩, 0) := rfl
  have hextended : List.Forall₂ Wire.VirtualHost.Extended config.virtualHosts hosts :=
    .cons ⟨[redirect], List.forall_mem_singleton.mpr rfl, rfl⟩ .nil
  obtain ⟨-, hrest, hconfig⟩ :=
    defaultRoute_shadows_rest host [drawn] [behind] whole rfl rfl "/a" {} (.inr rfl)
  obtain ⟨table, skipped, hother, -, hdecide⟩ :=
    hconfig config hosts "service" "routes" 0 hbuild hextended
  exact ⟨rfl, rfl, rfl, rfl, (hrest []).1, hbuild, table, skipped, hother, hdecide⟩

end RpcRouting
