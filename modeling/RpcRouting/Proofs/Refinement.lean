import RpcRouting.Proofs.Compilation
import RpcRouting.Proofs.Interpretation
import RpcRouting.Proofs.Regex.Anchoring
import RpcRouting.Proofs.Session
import RpcRouting.Proofs.WeightedSelection

namespace RpcRouting

open Regex (Pattern)

namespace Compile

open Wire (fitsAnchored)

variable {path : String} {headers : Headers}

theorem isFullMatch_of_compile? {source : String} {pattern : Pattern}
    (h : Pattern.compile? source = some pattern) (text : String) :
    pattern.isFullMatch text = fitsAnchored source text := by
  have hparse := pattern.parse?_source.1
  rw [Pattern.source_of_compile? h] at hparse
  rw [fitsAnchored, hparse, Option.any_some, Pattern.isFullMatch, Bool.eq_iff_iff,
    decide_eq_true_iff, Regex.Expr.occurs_iff]

theorem accepts_of_pathSpecifier {wire : Option (Wire.PathSpecifier .v3)} {matcher : PathMatcher}
    (h : pathSpecifier wire = .compiled matcher) :
    matcher.accepts path = wire.any (·.admits fitsAnchored path) := by
  cases wire with
  | none => cases h
  | some specifier =>
    cases specifier with
    | safeRegex wire =>
      obtain ⟨pattern, hc, rfl⟩ := pathSpecifier_safeRegex_eq_compiled_iff.mp h
      exact isFullMatch_of_compile? hc path
    | connect => cases h
    | _ =>
      cases h
      rw [Bool.eq_iff_iff]
      simp [PathMatcher.accepts, Wire.PathSpecifier.admits]

theorem accepts_of_headerSpecifier {header : String} {wire : Wire.HeaderSpecifier .v3}
    {test : HeaderTest} (h : headerSpecifier header (some wire) = .compiled test)
    (value : String) : test.accepts value = wire.admits fitsAnchored value := by
  cases wire with
  | safeRegex wire =>
    obtain ⟨pattern, hc, rfl⟩ := headerSpecifier_safeRegex_eq_compiled_iff.mp h
    exact isFullMatch_of_compile? hc value
  | range bounds =>
    cases h
    rfl
  | present wanted =>
    cases h
    rfl
  | _ =>
    cases h
    rw [Bool.eq_iff_iff]
    simp [HeaderTest.accepts, Wire.HeaderSpecifier.admits]

theorem accepts_of_headerMatcher {wire : Wire.HeaderMatcher .v3} {matcher : HeaderMatcher}
    (h : headerMatcher wire = .compiled matcher) :
    matcher.accepts (headers.value? matcher.name) = wire.admits fitsAnchored headers := by
  obtain ⟨hname, hinvert, htest⟩ := headerMatcher_eq_compiled_iff.mp h
  obtain ⟨name, test, invert⟩ := matcher
  obtain ⟨wireName, specifier, wireInvert⟩ := wire
  dsimp only at hname hinvert htest
  subst hname hinvert
  cases specifier with
  | none => cases htest
  | some specifier =>
    simp only [HeaderMatcher.accepts, Wire.HeaderMatcher.admits]
    cases headers.value? name with
    | some value => simp only [accepts_of_headerSpecifier htest]
    | none =>
      -- only a test for presence says anything about an absent header
      cases specifier with
      | safeRegex wire =>
        obtain ⟨pattern, -, rfl⟩ := headerSpecifier_safeRegex_eq_compiled_iff.mp htest
        rfl
      | _ =>
        cases htest
        rfl

theorem all_accepts_of_headers {wires : List (Wire.HeaderMatcher .v3)}
    {matchers : List HeaderMatcher} (h : wires.mapM headerMatcher = .compiled matchers) :
    matchers.all (fun matcher => matcher.accepts (headers.value? matcher.name)) =
      wires.all (·.admits fitsAnchored headers) := by
  induction wires generalizing matchers with
  | nil =>
    cases h
    rfl
  | cons wire rest ih =>
    obtain ⟨first, others, hf, ho, rfl⟩ := Outcome.mapM_cons_eq_compiled_iff.mp h
    rw [List.all_cons, List.all_cons, accepts_of_headerMatcher hf, ih ho]

theorem sample_fraction (wire : Wire.RuntimeFraction) : (fraction wire).sample = wire.sample := by
  unfold fraction Wire.RuntimeFraction.sample
  cases wire.defaultValue with
  | none => rfl
  | some percent => rfl

theorem accepts_of_routeMatch {wire : Wire.RouteMatch .v3} {routeMatch' : RouteMatch}
    (h : routeMatch wire = .compiled routeMatch') :
    routeMatch'.accepts path headers = wire.admits fitsAnchored path headers := by
  obtain ⟨-, -, hpath, hheaders, hfraction⟩ := routeMatch_eq_compiled_iff.mp h
  unfold RouteMatch.accepts RouteMatch.isCandidate Wire.RouteMatch.admits
  rw [accepts_of_pathSpecifier hpath, all_accepts_of_headers hheaders, hfraction]
  cases wire.runtimeFraction with
  | none => rfl
  | some wire => simp only [Option.map_some, sample_fraction]

theorem timeoutNanos_eq (wire : Wire.RouteAction) : timeoutNanos wire = wire.timeLimit := by
  have hzero : ∀ limit : Wire.Duration, limit.isZero = true ↔ limit = ⟨0, 0⟩ := by
    rintro ⟨seconds, nanos⟩
    simp [Wire.Duration.isZero]
  unfold timeoutNanos Wire.RouteAction.timeLimit
  cases wire.maxGrpcTimeout with
  | some limit => simp only [Option.some_or, hzero]
  | none =>
    cases wire.timeout with
    | some limit => simp only [Option.none_or, hzero]
    | none => rfl

theorem total_clusterWeight (wire : Wire.WeightedCluster) :
    ClusterWeight.total (wire.clusters.map clusterWeight) = wire.total := by
  rw [Wire.WeightedCluster.total]
  induction wire.clusters with
  | nil => rfl
  | cons cluster rest ih =>
    rw [List.map_cons, ClusterWeight.total_cons, ih]
    rfl

-- What is left of a number is how far it lies beyond the parts that have been passed.
theorem name_of_holder? {clusters : List Wire.ClusterWeight} (hne : clusters ≠ [])
    {draw passed : Nat} (hp : passed ≤ draw) :
    ∃ member, (ClusterWeight.holder? draw passed (clusters.map clusterWeight)).or
        (clusters.map clusterWeight).getLast? = some member ∧
      member.name = Wire.WeightedCluster.pick clusters (draw - passed) := by
  induction clusters generalizing passed with
  | nil => exact absurd rfl hne
  | cons first rest ih =>
    cases rest with
    | nil =>
      simp only [List.map_cons, List.map_nil, ClusterWeight.holder?]
      split
      · exact ⟨_, rfl, rfl⟩
      · exact ⟨_, rfl, rfl⟩
    | cons second others =>
      have hsplit : draw < passed + (first.weight.getD 0).toNat ↔
          draw - passed < (first.weight.getD 0).toNat := by omega
      have hpick : ∀ n, Wire.WeightedCluster.pick (first :: second :: others) n =
          if n < (first.weight.getD 0).toNat then first.name
          else Wire.WeightedCluster.pick (second :: others) (n - (first.weight.getD 0).toNat) :=
        fun _ => rfl
      rw [List.map_cons, ClusterWeight.holder?, hpick]
      simp only [clusterWeight, hsplit]
      split
      · exact ⟨_, rfl, rfl⟩
      · rename_i hpast
        have hp' : passed + (first.weight.getD 0).toNat ≤ draw := by omega
        obtain ⟨member, hm, hname⟩ := ih (by simp) hp'
        rw [Nat.sub_sub]
        exact ⟨member, hm, hname⟩

theorem select_eq_pick {clusters : List Wire.ClusterWeight} (hne : clusters ≠ []) (draw : Nat) :
    ClusterWeight.select (clusters.map clusterWeight) draw =
      Wire.WeightedCluster.pick clusters draw := by
  obtain ⟨member, hm, hname⟩ := name_of_holder? hne (Nat.zero_le draw)
  rw [ClusterWeight.select, hm]
  exact hname

theorem decide_of_action {wire : Option Wire.Action} {action' : RouteAction}
    (h : action wire = .compiled action') :
    ∃ wireAction, wire = some wireAction ∧ wireAction.isPassedOver = false ∧
      wireAction.decide = (do
        return .ok ⟨← action'.selectCluster, action'.timeoutNanos⟩ :
          Draw (Except ResolveError Decision)) := by
  obtain ⟨inner, rfl, htime, hdest⟩ := action_eq_compiled_iff.mp h
  obtain ⟨timeout, chosen⟩ := action'
  dsimp only at htime hdest
  refine ⟨.route inner, rfl, ?_⟩
  rw [htime, timeoutNanos_eq]
  simp only [Wire.Action.isPassedOver, Wire.RouteAction.isPassedOver, Wire.Action.decide,
    RouteAction.selectCluster]
  cases hc : inner.cluster with
  | none =>
    rw [hc] at hdest
    cases hdest
  | some specifier =>
    rw [hc] at hdest
    cases specifier with
    | cluster name =>
      cases hdest
      exact ⟨rfl, rfl⟩
    | clusterHeader name => cases hdest
    | weightedClusters wire =>
      obtain ⟨rfl, hne, -, -⟩ := weightedClusters_eq_compiled_iff.mp hdest
      have hne' : wire.clusters ≠ [] := fun h => hne (by rw [h, List.map_nil])
      refine ⟨rfl, ?_⟩
      simp only [total_clusterWeight, select_eq_pick hne', Wire.ClusterSpecifier.choose]

theorem isPassedOver_of_action {wire : Option Wire.Action} (h : action wire = .skipped) :
    wire.any (·.isPassedOver) = true := by
  unfold action at h
  split at h
  · rename_i inner
    rcases Outcome.bind_eq_skipped_iff.mp h with h | ⟨chosen, -, h⟩
    · obtain ⟨name, hname⟩ := destination_eq_skipped_iff.mp h
      simp [Wire.Action.isPassedOver, Wire.RouteAction.isPassedOver, hname]
    · cases h
  · rfl
  · rfl
  · cases h

-- A route that is left out is one that is to be passed over.
theorem isPassedOver_of_skipped {wire : Wire.Route .v3} (h : route wire = .skipped) :
    wire.isPassedOver = true := by
  rw [Wire.Route.isPassedOver, Bool.or_eq_true]
  rcases Outcome.bind_eq_skipped_iff.mp h with h | ⟨routeMatch', -, h⟩
  · left
    rw [routeMatch_eq_skipped_iff.mp h]
    rfl
  rcases Outcome.bind_eq_skipped_iff.mp h with h | ⟨action', -, h⟩
  · exact .inr (isPassedOver_of_action h)
  · cases h

theorem isPassedOver_of_compiled {wire : Wire.Route .v3} {route' : Route}
    (h : route wire = .compiled route') : wire.isPassedOver = false := by
  obtain ⟨hm, ha⟩ := route_eq_compiled_iff.mp h
  obtain ⟨hquery, -⟩ := routeMatch_eq_compiled_iff.mp hm
  obtain ⟨wireAction, haction, hpassed, -⟩ := decide_of_action ha
  simp [Wire.Route.isPassedOver, hquery, haction, hpassed]

-- The compiled routes of a host decide as the messages do. The induction is on the messages: one
-- that is left out is passed over, and one that is compiled accepts the same requests with the
-- same draws.
theorem decideFirst_of_routes {wires : List (Wire.Route .v3)}
    (h : ∀ wire ∈ wires, (route wire).defect? = none) (index : Nat) :
    (do
      match ← VirtualHost.firstAccepting path headers index
          (wires.filterMap fun wire => (route wire).value?) with
      | none => return .error (.noMatchingRoute path)
      | some (_, route) => return .ok ⟨← route.action.selectCluster, route.action.timeoutNanos⟩ :
        Draw (Except ResolveError Decision)) =
      Wire.Route.decideFirst fitsAnchored path headers wires := by
  induction wires generalizing index with
  | nil => rfl
  | cons wire rest ih =>
    rw [List.forall_mem_cons] at h
    rw [Wire.Route.decideFirst]
    cases hr : route wire with
    | invalid defect =>
      rw [hr] at h
      cases h.1
    | skipped =>
      rw [isPassedOver_of_skipped hr, List.filterMap_cons, hr]
      exact ih h.2 index
    | compiled route' =>
      obtain ⟨hm, ha⟩ := route_eq_compiled_iff.mp hr
      obtain ⟨wireAction, haction, -, hdecide⟩ := decide_of_action ha
      rw [isPassedOver_of_compiled hr, List.filterMap_cons, hr, ← accepts_of_routeMatch hm, haction]
      simp only [Outcome.value?, VirtualHost.firstAccepting, hdecide, bind_assoc]
      congr 1
      funext accepted
      cases accepted with
      | true => rfl
      | false => exact ih h.2 (index + 1)

-- A pattern that a compiled route is tested with has been compiled.
theorem compile?_of_mem_patterns {wire : Wire.Route .v3} {route' : Route}
    (h : route wire = .compiled route') {pattern : String}
    (hp : pattern ∈ (wire.routeMatch.getD {}).patterns) :
    ∃ compiled, Pattern.compile? pattern = some compiled := by
  obtain ⟨hm, -⟩ := route_eq_compiled_iff.mp h
  obtain ⟨-, -, hpath, hheaders, -⟩ := routeMatch_eq_compiled_iff.mp hm
  rcases List.mem_append.mp hp with hp | hp
  · obtain ⟨specifier, hs, hp⟩ := Option.bind_eq_some_iff.mp (Option.mem_toList.mp hp)
    rw [hs] at hpath
    cases specifier with
    | safeRegex wire =>
      cases hp
      obtain ⟨compiled, hc, -⟩ := pathSpecifier_safeRegex_eq_compiled_iff.mp hpath
      exact ⟨compiled, hc⟩
    | _ => cases hp
  · obtain ⟨header, hheader, hp⟩ := List.mem_filterMap.mp hp
    obtain ⟨specifier, hs, hp⟩ := Option.bind_eq_some_iff.mp hp
    obtain ⟨matcher, hmatcher⟩ := Outcome.exists_compiled_of_mem hheaders hheader
    obtain ⟨-, -, htest⟩ := headerMatcher_eq_compiled_iff.mp hmatcher
    rw [hs] at htest
    cases specifier with
    | safeRegex wire =>
      cases hp
      obtain ⟨compiled, hc, -⟩ := headerSpecifier_safeRegex_eq_compiled_iff.mp htest
      exact ⟨compiled, hc⟩
    | _ => cases hp

end Compile

namespace Wire

-- The test that is made and the test that is meant agree for patterns that can be read by
-- themselves, and otherwise only where nothing passes.
theorem fitsAnchored_eq_fitsWhole_iff {pattern : String} {compiled : Pattern}
    (h : Pattern.compile? pattern = some compiled) :
    (∀ text, fitsAnchored pattern text = fitsWhole pattern text) ↔
      Standalone pattern ∨ ∀ text, fitsAnchored pattern text = false := by
  by_cases hp : Standalone pattern
  · simp only [hp, true_or, iff_true]
    intro text
    obtain ⟨e, he⟩ := Option.isSome_iff_exists.mp hp
    rw [← Compile.isFullMatch_of_compile? h, fitsWhole, he, Option.any_some, Bool.eq_iff_iff,
      decide_eq_true_iff]
    exact Pattern.isFullMatch_iff (by rwa [Pattern.source_of_compile? h]) text
  · have hnone : ∀ text, fitsWhole pattern text = false := by
      intro text
      rw [fitsWhole, Option.not_isSome_iff_eq_none.mp hp, Option.any_none]
    simp only [hp, false_or, hnone]

end Wire

namespace Resolver

open Wire

-- A published table routes requests as its configuration says, draw by draw, where a regular
-- expression asks for a match of the pattern between the two ends of the text. That is a match of
-- the whole text for patterns that can be read by themselves, and for no other pattern that lets
-- something pass.
theorem resolve_eq_interpret (update : RouteConfigurationUpdate) (authority : String)
    (table : RouteTable) (skipped : Nat)
    (hbuild : RouteTable.build update.upgrade authority = .ok (table, skipped))
    (resolver : Resolver) (version : Nat) (hs : resolver.snapshot = some ⟨version, table⟩) :
    (∀ path headers,
      Prod.fst <$> resolver.resolve path headers =
        update.upgrade.interpret fitsAnchored path headers authority) ∧
    (∀ pattern ∈ update.upgrade.patterns authority,
      (∀ text, fitsAnchored pattern text = fitsWhole pattern text) ↔
        Standalone pattern ∨ ∀ text, fitsAnchored pattern text = false) ∧
    ((∀ pattern ∈ update.upgrade.patterns authority,
        Standalone pattern ∨ ∀ text, fitsAnchored pattern text = false) →
      ∀ path headers,
        Prod.fst <$> resolver.resolve path headers =
          update.upgrade.interpret fitsWhole path headers authority) := by
  obtain ⟨wire, hselect, hhost⟩ := RouteTable.build_eq_ok hbuild
  obtain ⟨-, -, hroutes, hall⟩ := Compile.virtualHost_eq_ok hhost
  rw [← VirtualHost.best?_eq_select?] at hselect
  have hanchored : ∀ path headers, Prod.fst <$> resolver.resolve path headers =
      update.upgrade.interpret fitsAnchored path headers authority := by
    intro path headers
    rw [RouteConfiguration.interpret, hselect]
    dsimp only
    rw [← Compile.decideFirst_of_routes hall 0, ← hroutes, resolve_of_some hs]
    simp only [map_bind, map_pure, bind_pure]
    rfl
  have hpatterns : ∀ pattern ∈ update.upgrade.patterns authority,
      ∃ compiled, Pattern.compile? pattern = some compiled := by
    intro pattern hp
    rw [RouteConfiguration.patterns, hselect] at hp
    obtain ⟨wireRoute, hr, hp⟩ := List.mem_flatMap.mp hp
    obtain ⟨hr, hpassed⟩ := List.mem_filter.mp hr
    cases hc : Compile.route wireRoute with
    | invalid defect =>
      have hnone := hall wireRoute hr
      rw [hc] at hnone
      cases hnone
    | skipped =>
      rw [Compile.isPassedOver_of_skipped hc] at hpassed
      cases hpassed
    | compiled compiled => exact Compile.compile?_of_mem_patterns hc hp
  refine ⟨hanchored, ?_, ?_⟩
  · intro pattern hp
    obtain ⟨compiled, hc⟩ := hpatterns pattern hp
    exact fitsAnchored_eq_fitsWhole_iff hc
  · intro hfaithful path headers
    rw [hanchored]
    apply RouteConfiguration.interpret_congr
    intro pattern hp
    obtain ⟨compiled, hc⟩ := hpatterns pattern hp
    exact (fitsAnchored_eq_fitsWhole_iff hc).mpr (hfaithful pattern hp)

-- One route, for the paths that fit a regular expression.
def patternRoutes (regex : String) : RouteConfigurationUpdate where
  version := .v2
  config :=
    { name := "routes"
      virtualHosts :=
        [{ name := "host", domains := ["*"],
           routes :=
            [{ routeMatch := some { path := some (.safeRegex ⟨regex⟩) },
               action := some (.route { cluster := some (.cluster "backend") }) }] }] }

-- A pattern that closes the group it is put into tests either end of a path only.
theorem resolve_eq_interpret_patternRoutes :
    (∃ table skipped,
      RouteTable.build (patternRoutes "a+b").upgrade "service" = .ok (table, skipped) ∧
      ∀ path headers,
        Prod.fst <$> resolve { authority := "service", snapshot := some ⟨1, table⟩ } path headers =
          (patternRoutes "a+b").upgrade.interpret fitsWhole path headers "service") ∧
    (∃ table skipped,
      RouteTable.build (patternRoutes "a)|(?:b").upgrade "service" = .ok (table, skipped) ∧
      Prod.fst <$> resolve { authority := "service", snapshot := some ⟨1, table⟩ } "ax" {} =
        .done (.ok ⟨"backend", .default⟩) ∧
      (patternRoutes "a)|(?:b").upgrade.interpret fitsWhole "ax" {} "service" =
        .done (.error (.noMatchingRoute "ax"))) := by
  obtain ⟨⟨plain, plainSkipped⟩, hplain⟩ :
      ∃ result, RouteTable.build (patternRoutes "a+b").upgrade "service" = .ok result := ⟨_, rfl⟩
  obtain ⟨⟨table, skipped⟩, hbuild⟩ :
      ∃ result, RouteTable.build (patternRoutes "a)|(?:b").upgrade "service" = .ok result :=
    ⟨_, rfl⟩
  refine ⟨⟨plain, plainSkipped, hplain, ?_⟩, table, skipped, hbuild, ?_, rfl⟩
  · refine (resolve_eq_interpret (patternRoutes "a+b") "service" plain plainSkipped hplain _ 1
      rfl).2.2 fun pattern hp => .inl ?_
    obtain rfl : pattern = "a+b" := List.mem_singleton.mp hp
    exact rfl
  · rw [(resolve_eq_interpret (patternRoutes "a)|(?:b") "service" table skipped hbuild _ 1 rfl).1]
    rfl

end Resolver

end RpcRouting
