import RpcRouting.Proofs.Compilation
import RpcRouting.Proofs.Draw
import RpcRouting.Proofs.Session
import RpcRouting.Proofs.WeightedSelection

namespace RpcRouting

open Regex (Pattern)

-- A route with which nothing can go wrong while requests are routed.
structure Route.WellFormed (route : Route) : Prop where
  path : ∀ pattern, route.routeMatch.path = .regex pattern →
    Pattern.compile? pattern.source = some pattern
  headers : ∀ matcher ∈ route.routeMatch.headers, ∀ pattern, matcher.test = .regex pattern →
    Pattern.compile? pattern.source = some pattern
  fraction : ∀ fraction, route.routeMatch.fraction = some fraction →
    fraction.denominator ∈ ([100, 10000, 1000000] : List UInt32)
  clusters : ∀ clusters, route.action.destination = .weighted clusters →
    clusters ≠ [] ∧ 1 ≤ ClusterWeight.total clusters ∧ ClusterWeight.total clusters ≤ 2 ^ 32 - 1

namespace Compile

theorem compiled_of_pathSpecifier {wire : Option (Wire.PathSpecifier .v3)} {pattern : Pattern}
    (h : pathSpecifier wire = .compiled (.regex pattern)) :
    Pattern.compile? pattern.source = some pattern := by
  cases wire with
  | none => cases h
  | some specifier =>
    cases specifier with
    | safeRegex wire =>
      obtain ⟨compiled, hc, he⟩ := pathSpecifier_safeRegex_eq_compiled_iff.mp h
      cases he
      rw [Pattern.source_of_compile? hc, hc]
    | _ => cases h

theorem compiled_of_headerSpecifier {header : String} {wire : Option (Wire.HeaderSpecifier .v3)}
    {pattern : Pattern} (h : headerSpecifier header wire = .compiled (.regex pattern)) :
    Pattern.compile? pattern.source = some pattern := by
  cases wire with
  | none => cases h
  | some specifier =>
    cases specifier with
    | safeRegex wire =>
      obtain ⟨compiled, hc, he⟩ := headerSpecifier_safeRegex_eq_compiled_iff.mp h
      cases he
      rw [Pattern.source_of_compile? hc, hc]
    | _ => cases h

theorem denominator_mem (wire : Wire.RuntimeFraction) :
    (fraction wire).denominator ∈ ([100, 10000, 1000000] : List UInt32) := by
  simp only [fraction]
  cases (wire.defaultValue.getD {}).denominator <;> simp [Wire.Denominator.scale]

theorem weighted_of_destination {wire : Option Wire.ClusterSpecifier}
    {clusters : List ClusterWeight} (h : destination wire = .compiled (.weighted clusters)) :
    clusters ≠ [] ∧ 1 ≤ ClusterWeight.total clusters ∧
      ClusterWeight.total clusters ≤ 2 ^ 32 - 1 := by
  cases wire with
  | none => cases h
  | some specifier =>
    cases specifier with
    | cluster name => cases h
    | clusterHeader name => cases h
    | weightedClusters wire =>
      obtain ⟨he, hn, hl, hu⟩ := weightedClusters_eq_compiled_iff.mp h
      cases he
      exact ⟨hn, hl, hu⟩

-- What compiles is well formed.
theorem route_wellFormed {wire : Wire.Route .v3} {route' : Route}
    (h : route wire = .compiled route') : route'.WellFormed := by
  obtain ⟨hm, ha⟩ := route_eq_compiled_iff.mp h
  obtain ⟨-, -, hpath, hheaders, hfraction⟩ := routeMatch_eq_compiled_iff.mp hm
  obtain ⟨inner, -, -, hdestination⟩ := action_eq_compiled_iff.mp ha
  constructor
  · intro pattern hp
    rw [hp] at hpath
    exact compiled_of_pathSpecifier hpath
  · intro matcher hmem pattern hp
    obtain ⟨header, -, hc⟩ := Outcome.exists_of_mem_compiled hheaders hmem
    obtain ⟨-, -, ht⟩ := headerMatcher_eq_compiled_iff.mp hc
    rw [hp] at ht
    exact compiled_of_headerSpecifier ht
  · intro fraction hf
    rw [hf] at hfraction
    obtain ⟨runtime, -, rfl⟩ := Option.map_eq_some_iff.mp hfraction.symm
    exact denominator_mem runtime
  · intro clusters hc
    rw [hc] at hdestination
    exact weighted_of_destination hdestination

end Compile

theorem RouteTable.wellFormed_of_build {config : Wire.RouteConfiguration .v3} {authority : String}
    {table : RouteTable} {skipped : Nat} (h : build config authority = .ok (table, skipped))
    {route : Route} (hr : route ∈ table.virtualHost.routes) : route.WellFormed := by
  obtain ⟨-, -, wire, -, hc⟩ := exists_wire_of_build h hr
  exact Compile.route_wellFormed hc

-- A cluster that a destination may send a request to: the single one, or a member that has weight
-- and holds some number below the total.
def Destination.Offers (destination : Destination) (name : String) : Prop :=
  destination = .cluster name ∨
    ∃ clusters, destination = .weighted clusters ∧
      ∃ draw < ClusterWeight.total clusters, ∃ member ∈ clusters,
        ClusterWeight.holder? draw 0 clusters = some member ∧ member.name = name ∧
          0 < member.weight.toNat

-- Below the total of the weights, the search for a member ends at one that has weight.
theorem ClusterWeight.exists_member_of_lt {clusters : List ClusterWeight} {draw : Nat}
    (h : draw < total clusters) :
    ∃ member ∈ clusters, holder? draw 0 clusters = some member ∧ 0 < member.weight.toNat := by
  have hlt : draw < 0 + total clusters := by omega
  obtain ⟨member, hm⟩ := exists_holder? hlt (Nat.zero_le draw)
  obtain ⟨before, after, rfl, hle, hupper⟩ := (holder?_eq_some_iff (Nat.zero_le draw)).mp hm
  exact ⟨member, by simp, hm, by omega⟩

theorem Route.WellFormed.selectCluster {route : Route} (h : route.WellFormed) :
    route.action.selectCluster.Ensures route.action.destination.Offers := by
  unfold RouteAction.selectCluster
  cases hd : route.action.destination with
  | cluster name => exact .inl rfl
  | weighted clusters =>
    obtain ⟨-, hpos, -⟩ := h.clusters clusters hd
    intro draw hdraw
    have hlt : draw < ClusterWeight.total clusters := hdraw (by omega)
    obtain ⟨member, hmem, hh, hw⟩ := ClusterWeight.exists_member_of_lt hlt
    refine .inr ⟨clusters, rfl, draw, hlt, member, hmem, hh, ?_, hw⟩
    simp [ClusterWeight.select, hh]

theorem VirtualHost.firstAccepting_mem (path : String) (headers : Headers) (index : Nat)
    (routes : List Route) :
    (firstAccepting path headers index routes).Ensures fun found =>
      ∀ position route, found = some (position, route) → route ∈ routes := by
  induction routes generalizing index with
  | nil =>
    intro position route h
    cases h
  | cons first rest ih =>
    refine Draw.Ensures.bind (Draw.ensures_true _) fun accepted _ => ?_
    cases accepted with
    | true =>
      intro position route h
      cases h
      exact List.mem_cons_self
    | false =>
      refine Draw.Ensures.mono (ih (index + 1)) fun found hf position route h => ?_
      exact List.mem_cons_of_mem _ (hf position route h)

-- Every decision of a table of well-formed routes comes from one of them.
theorem Resolver.decide_offers {table : RouteTable}
    (h : ∀ route ∈ table.virtualHost.routes, route.WellFormed) (path : String)
    (headers : Headers) :
    (decide table path headers).Ensures fun result =>
      ∀ decision, result = .ok decision →
        ∃ route ∈ table.virtualHost.routes, decision.timeoutNanos = route.action.timeoutNanos ∧
          route.action.destination.Offers decision.cluster := by
  refine Draw.Ensures.bind (VirtualHost.firstAccepting_mem path headers 0 _) fun found hf => ?_
  cases found with
  | none =>
    intro decision hd
    cases hd
  | some found =>
    have hmem := hf found.1 found.2 rfl
    refine Draw.Ensures.bind (h found.2 hmem).selectCluster fun name hname => ?_
    intro decision hd
    cases hd
    exact ⟨found.2, hmem, rfl, hname⟩

namespace Session

-- Whatever has been asked of a resolver, the table it has published is well formed, so the weights
-- of a split stay within 32 bits as they are added up, the search for a member never runs past
-- the end, and every decision is one that a route of the table offers.
theorem published_wellFormed {σ : Type} (answer : Nat → σ → Nat × σ) (authority : String)
    (source : σ) (calls : List Call) (snapshot : Snapshot)
    (hs : ((start authority source).run answer calls).2.resolver.snapshot = some snapshot) :
    (∃ update skipped, .update update ∈ calls ∧
      RouteTable.build update.upgrade authority = .ok (snapshot.table, skipped)) ∧
    (∀ wire : Wire.WeightedCluster, wire.clusters.length < 2 ^ 32 →
      (ClusterWeight.wordTotal (wire.clusters.map Compile.clusterWeight)).toNat =
        ClusterWeight.total (wire.clusters.map Compile.clusterWeight)) ∧
    (∀ route ∈ snapshot.table.virtualHost.routes, route.WellFormed ∧
      ∀ clusters, route.action.destination = .weighted clusters →
        (∀ before, before <+: clusters → ClusterWeight.total before ≤ 2 ^ 32 - 1) ∧
        ∀ draw < ClusterWeight.total clusters,
          ∃ member ∈ clusters, ClusterWeight.holder? draw 0 clusters = some member) ∧
    (Draw.Honest answer → ∀ path headers decision,
      (((start authority source).run answer calls).2.call answer (.resolve path headers)).1 =
          .resolved (.ok decision) →
        ∃ route ∈ snapshot.table.virtualHost.routes,
          decision.timeoutNanos = route.action.timeoutNanos ∧
          route.action.destination.Offers decision.cluster) := by
  obtain ⟨update, skipped, hmem, hbuild⟩ :=
    (reached_run answer authority source calls).1.exists_update hs
  have hwell : ∀ route ∈ snapshot.table.virtualHost.routes, route.WellFormed :=
    fun route hr => RouteTable.wellFormed_of_build hbuild hr
  refine ⟨⟨update, skipped, hmem, hbuild⟩, ?_, ?_, ?_⟩
  · intro wire hw
    exact ClusterWeight.toNat_wordTotal (by rwa [List.length_map])
  · intro route hr
    refine ⟨hwell route hr, fun clusters hc => ⟨?_, ?_⟩⟩
    · intro before hb
      have htotal := ((hwell route hr).clusters clusters hc).2.2
      exact (ClusterWeight.total_le_of_isPrefix hb).trans htotal
    · intro draw hdraw
      obtain ⟨member, hm, hh, -⟩ := ClusterWeight.exists_member_of_lt hdraw
      exact ⟨member, hm, hh⟩
  · intro hanswer path headers decision hd
    have hd := Reply.resolved.inj hd
    rw [Resolver.resolve_of_some hs, Draw.run_bind] at hd
    exact (Resolver.decide_offers hwell path headers).run hanswer _ decision hd

-- A split whose first member has no weight.
def unevenSplit : Wire.RouteConfiguration .v2 where
  name := "routes"
  virtualHosts :=
    [{ name := "host", domains := ["*"],
       routes :=
        [{ name := "split", routeMatch := some { path := some (.startsWith "/") },
           action := some (.route { cluster := some (.weightedClusters
             { clusters := [⟨"idle", some 0⟩, ⟨"busy", some 5⟩] }) }) }] }]

def unevenTable : RouteTable :=
  ⟨"routes", ⟨"host", ["*"],
    [⟨{ path := .startsWith "/" },
      ⟨.default, .weighted [⟨"idle", 0⟩, ⟨"busy", 5⟩]⟩⟩]⟩⟩

-- Even the lowest number is held by the member with weight.
theorem published_wellFormed_unevenSplit :
    let answer : Nat → Unit → Nat × Unit := fun _ _ => (0, ())
    let reached := ((start "service" ()).run answer [.update ⟨.v2, unevenSplit⟩]).2
    reached.resolver.snapshot = some ⟨1, unevenTable⟩ ∧ Draw.Honest answer ∧
      (reached.call answer (.resolve "/method" {})).1 = .resolved (.ok ⟨"busy", .default⟩) ∧
      ∃ route ∈ unevenTable.virtualHost.routes,
        TimeoutNanos.default = route.action.timeoutNanos ∧ route.action.destination.Offers "busy" := by
  intro answer reached
  have hs : reached.resolver.snapshot = some ⟨1, unevenTable⟩ := by decide
  have hanswer : Draw.Honest answer := fun bound _ hb => Nat.pos_of_ne_zero hb
  have hd : (reached.call answer (.resolve "/method" {})).1 =
      .resolved (.ok ⟨"busy", .default⟩) := rfl
  have hwell := published_wellFormed answer "service" () [.update ⟨.v2, unevenSplit⟩]
    ⟨1, unevenTable⟩ hs
  exact ⟨hs, hanswer, hd, hwell.2.2.2 hanswer "/method" {} ⟨"busy", .default⟩ hd⟩

end Session

end RpcRouting
