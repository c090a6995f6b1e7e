import RpcRouting.Proofs.Compilation
import RpcRouting.Proofs.Session
import Mathlib.Data.List.Forall2

namespace RpcRouting

namespace Wire

-- What a version 2 specifier is in version 3. A deprecated one has no counterpart there.
inductive PathSpecifier.Kept :
    Option (PathSpecifier .v2) → Option (PathSpecifier .v3) → Prop where
  | unset : Kept none none
  | startsWith (start : String) : Kept (some (.startsWith start)) (some (.startsWith start))
  | path (whole : String) : Kept (some (.path whole)) (some (.path whole))
  | safeRegex (wire : RegexMatcher) : Kept (some (.safeRegex wire)) (some (.safeRegex wire))
  | deprecated (pattern : String) : Kept (some (.regex pattern)) none

inductive HeaderSpecifier.Kept :
    Option (HeaderSpecifier .v2) → Option (HeaderSpecifier .v3) → Prop where
  | unset : Kept none none
  | exact (value : String) : Kept (some (.exact value)) (some (.exact value))
  | safeRegex (wire : RegexMatcher) : Kept (some (.safeRegex wire)) (some (.safeRegex wire))
  | range (bounds : IntRange) : Kept (some (.range bounds)) (some (.range bounds))
  | present (wanted : Bool) : Kept (some (.present wanted)) (some (.present wanted))
  | startsWith (start : String) : Kept (some (.startsWith start)) (some (.startsWith start))
  | endsWith (stop : String) : Kept (some (.endsWith stop)) (some (.endsWith stop))
  | deprecated (pattern : String) : Kept (some (.regex pattern)) none

-- A message and its counterpart: the same parts in the same order, and equal in all that the two
-- versions share.
structure HeaderMatcher.Kept (old : HeaderMatcher .v2) (new : HeaderMatcher .v3) : Prop where
  name : old.name = new.name
  specifier : HeaderSpecifier.Kept old.specifier new.specifier
  invert : old.invert = new.invert

structure RouteMatch.Kept (old : RouteMatch .v2) (new : RouteMatch .v3) : Prop where
  path : PathSpecifier.Kept old.path new.path
  caseSensitive : old.caseSensitive = new.caseSensitive
  runtimeFraction : old.runtimeFraction = new.runtimeFraction
  headers : List.Forall₂ HeaderMatcher.Kept old.headers new.headers
  queryParameters : old.queryParameters = new.queryParameters

structure Route.Kept (old : Route .v2) (new : Route .v3) : Prop where
  name : old.name = new.name
  routeMatch : Option.Rel RouteMatch.Kept old.routeMatch new.routeMatch
  action : old.action = new.action

structure VirtualHost.Kept (old : VirtualHost .v2) (new : VirtualHost .v3) : Prop where
  name : old.name = new.name
  domains : old.domains = new.domains
  routes : List.Forall₂ Route.Kept old.routes new.routes

structure RouteConfiguration.Kept (old : RouteConfiguration .v2) (new : RouteConfiguration .v3) :
    Prop where
  name : old.name = new.name
  virtualHosts : List.Forall₂ VirtualHost.Kept old.virtualHosts new.virtualHosts

-- Where a deprecated regular expression is used.
def HeaderMatcher.IsDeprecated (header : HeaderMatcher .v2) : Prop :=
  ∃ pattern, header.specifier = some (.regex pattern)

def RouteMatch.IsDeprecated (routeMatch : RouteMatch .v2) : Prop :=
  (∃ pattern, routeMatch.path = some (.regex pattern)) ∨
    ∃ header ∈ routeMatch.headers, header.IsDeprecated

def Route.IsDeprecated (route : Route .v2) : Prop :=
  ∃ routeMatch, route.routeMatch = some routeMatch ∧ routeMatch.IsDeprecated

def VirtualHost.IsDeprecated (host : VirtualHost .v2) : Prop :=
  ∃ route ∈ host.routes, route.IsDeprecated

def RouteConfiguration.IsDeprecated (config : RouteConfiguration .v2) : Prop :=
  ∃ host ∈ config.virtualHosts, host.IsDeprecated

private theorem forall₂_map_right {α β : Type} {R : α → β → Prop} {f : α → β}
    (h : ∀ a, R a (f a)) (as : List α) : List.Forall₂ R as (as.map f) :=
  List.forall₂_map_right_iff.mpr (List.forall₂_same.mpr fun a _ => h a)

theorem PathSpecifier.kept_upgrade (specifier : Option (PathSpecifier .v2)) :
    Kept specifier (specifier.bind (·.upgrade)) := by
  cases specifier with
  | none => exact .unset
  | some specifier => cases specifier <;> constructor

theorem HeaderSpecifier.kept_upgrade (specifier : Option (HeaderSpecifier .v2)) :
    Kept specifier (specifier.bind (·.upgrade)) := by
  cases specifier with
  | none => exact .unset
  | some specifier => cases specifier <;> constructor

theorem HeaderMatcher.kept_upgrade (header : HeaderMatcher .v2) : header.Kept header.upgrade :=
  ⟨rfl, HeaderSpecifier.kept_upgrade _, rfl⟩

theorem RouteMatch.kept_upgrade (routeMatch : RouteMatch .v2) :
    routeMatch.Kept routeMatch.upgrade :=
  ⟨PathSpecifier.kept_upgrade _, rfl, rfl, forall₂_map_right HeaderMatcher.kept_upgrade _, rfl⟩

theorem Route.kept_upgrade (route : Route .v2) : route.Kept route.upgrade := by
  refine ⟨rfl, ?_, rfl⟩
  simp only [Route.upgrade]
  cases route.routeMatch with
  | none => exact .none
  | some routeMatch => exact .some routeMatch.kept_upgrade

theorem VirtualHost.kept_upgrade (host : VirtualHost .v2) : host.Kept host.upgrade :=
  ⟨rfl, rfl, forall₂_map_right Route.kept_upgrade _⟩

theorem RouteConfiguration.kept_upgrade (config : RouteConfiguration .v2) :
    config.Kept config.upgrade :=
  ⟨rfl, forall₂_map_right VirtualHost.kept_upgrade _⟩

-- Without deprecated parts, a list is known from its counterpart if its members are.
private theorem eq_of_forall₂ {α β : Type} {R : α → β → Prop} {deprecated : α → Prop}
    (h : ∀ a b c, R a c → R b c → ¬ deprecated a → ¬ deprecated b → a = b)
    {as bs : List α} {cs : List β} (ha : List.Forall₂ R as cs) (hb : List.Forall₂ R bs cs)
    (hna : ¬ ∃ a ∈ as, deprecated a) (hnb : ¬ ∃ b ∈ bs, deprecated b) : as = bs := by
  induction ha generalizing bs with
  | nil =>
    cases hb
    rfl
  | cons hac _ ih =>
    cases hb with
    | cons hbc hbs =>
      simp only [List.exists_mem_cons_iff, not_or] at hna hnb
      rw [h _ _ _ hac hbc hna.1 hnb.1, ih hbs hna.2 hnb.2]

private theorem eq_of_rel {α β : Type} {R : α → β → Prop} {deprecated : α → Prop}
    (h : ∀ a b c, R a c → R b c → ¬ deprecated a → ¬ deprecated b → a = b)
    {old old' : Option α} {new : Option β} (ha : Option.Rel R old new) (hb : Option.Rel R old' new)
    (hna : ¬ ∃ a, old = some a ∧ deprecated a) (hnb : ¬ ∃ b, old' = some b ∧ deprecated b) :
    old = old' := by
  cases ha with
  | none =>
    cases hb
    rfl
  | some hac =>
    cases hb with
    | some hbc =>
      rw [h _ _ _ hac hbc (fun ha => hna ⟨_, rfl, ha⟩) fun hb => hnb ⟨_, rfl, hb⟩]

theorem PathSpecifier.Kept.unique {a b : Option (PathSpecifier .v2)}
    {c : Option (PathSpecifier .v3)} (ha : Kept a c) (hb : Kept b c)
    (hna : ¬ ∃ pattern, a = some (.regex pattern)) (hnb : ¬ ∃ pattern, b = some (.regex pattern)) :
    a = b := by
  cases ha with
  | deprecated pattern => exact absurd ⟨pattern, rfl⟩ hna
  | unset =>
    cases hb with
    | unset => rfl
    | deprecated pattern => exact absurd ⟨pattern, rfl⟩ hnb
  | _ =>
    cases hb
    rfl

theorem HeaderSpecifier.Kept.unique {a b : Option (HeaderSpecifier .v2)}
    {c : Option (HeaderSpecifier .v3)} (ha : Kept a c) (hb : Kept b c)
    (hna : ¬ ∃ pattern, a = some (.regex pattern)) (hnb : ¬ ∃ pattern, b = some (.regex pattern)) :
    a = b := by
  cases ha with
  | deprecated pattern => exact absurd ⟨pattern, rfl⟩ hna
  | unset =>
    cases hb with
    | unset => rfl
    | deprecated pattern => exact absurd ⟨pattern, rfl⟩ hnb
  | _ =>
    cases hb
    rfl

theorem HeaderMatcher.Kept.unique {a b : HeaderMatcher .v2} {c : HeaderMatcher .v3}
    (ha : a.Kept c) (hb : b.Kept c) (hna : ¬ a.IsDeprecated) (hnb : ¬ b.IsDeprecated) : a = b := by
  have hspecifier := ha.specifier.unique hb.specifier hna hnb
  have hname := ha.name.trans hb.name.symm
  have hinvert := ha.invert.trans hb.invert.symm
  cases a
  cases b
  congr

theorem RouteMatch.Kept.unique {a b : RouteMatch .v2} {c : RouteMatch .v3}
    (ha : a.Kept c) (hb : b.Kept c) (hna : ¬ a.IsDeprecated) (hnb : ¬ b.IsDeprecated) : a = b := by
  obtain ⟨hpa, hha⟩ := not_or.mp hna
  obtain ⟨hpb, hhb⟩ := not_or.mp hnb
  have hpath := ha.path.unique hb.path hpa hpb
  have hheaders := eq_of_forall₂ (fun _ _ _ => HeaderMatcher.Kept.unique) ha.headers hb.headers
    hha hhb
  have hcase := ha.caseSensitive.trans hb.caseSensitive.symm
  have hfraction := ha.runtimeFraction.trans hb.runtimeFraction.symm
  have hquery := ha.queryParameters.trans hb.queryParameters.symm
  cases a
  cases b
  congr

theorem Route.Kept.unique {a b : Route .v2} {c : Route .v3} (ha : a.Kept c) (hb : b.Kept c)
    (hna : ¬ a.IsDeprecated) (hnb : ¬ b.IsDeprecated) : a = b := by
  have hmatch := eq_of_rel (fun _ _ _ => RouteMatch.Kept.unique) ha.routeMatch hb.routeMatch
    hna hnb
  have hname := ha.name.trans hb.name.symm
  have haction := ha.action.trans hb.action.symm
  cases a
  cases b
  congr

theorem VirtualHost.Kept.unique {a b : VirtualHost .v2} {c : VirtualHost .v3} (ha : a.Kept c)
    (hb : b.Kept c) (hna : ¬ a.IsDeprecated) (hnb : ¬ b.IsDeprecated) : a = b := by
  have hroutes := eq_of_forall₂ (fun _ _ _ => Route.Kept.unique) ha.routes hb.routes hna hnb
  have hname := ha.name.trans hb.name.symm
  have hdomains := ha.domains.trans hb.domains.symm
  cases a
  cases b
  congr

theorem RouteConfiguration.Kept.unique {a b : RouteConfiguration .v2} {c : RouteConfiguration .v3}
    (ha : a.Kept c) (hb : b.Kept c) (hna : ¬ a.IsDeprecated) (hnb : ¬ b.IsDeprecated) : a = b := by
  have hhosts := eq_of_forall₂ (fun _ _ _ => VirtualHost.Kept.unique) ha.virtualHosts
    hb.virtualHosts hna hnb
  have hname := ha.name.trans hb.name.symm
  cases a
  cases b
  congr

-- Domains alone decide which host is selected, and a host keeps its domains.
theorem VirtualHost.select?_map_upgrade {v : ApiVersion} (hosts : List (VirtualHost v))
    (authority : String) :
    select? (hosts.map (·.upgrade)) authority = (select? hosts authority).map (·.upgrade) := by
  have hfold : ∀ best : Option (DomainMatch × VirtualHost v),
      (hosts.map (·.upgrade)).foldl (better authority) (best.map (Prod.map id (·.upgrade))) =
        (hosts.foldl (better authority) best).map (Prod.map id (·.upgrade)) := by
    induction hosts with
    | nil => exact fun _ => rfl
    | cons host rest ih =>
      intro best
      have hbetter : better authority (best.map (Prod.map id (·.upgrade))) host.upgrade =
          (better authority best host).map (Prod.map id (·.upgrade)) := by
        simp only [better, VirtualHost.upgrade]
        cases DomainMatch.ofDomains? host.domains authority with
        | none => rfl
        | some strength =>
          cases best with
          | none => rfl
          | some current =>
            by_cases hw : current.1.weaker strength = true <;> simp [hw]
      rw [List.map_cons, List.foldl_cons, List.foldl_cons, hbetter, ih]
  have h := hfold none
  rw [Option.map_none] at h
  simp only [select?, h, Option.map_map]
  rfl

end Wire

namespace Compile

-- What was deprecated is unset after the upgrade, and what is unset does not compile.
theorem routeMatch_upgrade_ne_compiled {wire : Wire.RouteMatch .v2} (h : wire.IsDeprecated)
    (compiled : RouteMatch) : routeMatch wire.upgrade ≠ .compiled compiled := by
  intro hc
  obtain ⟨-, -, hpath, hheaders, -⟩ := routeMatch_eq_compiled_iff.mp hc
  rcases h with ⟨pattern, hp⟩ | ⟨header, hmem, pattern, hp⟩
  · have hunset : wire.upgrade.path = none := by
      simp [Wire.RouteMatch.upgrade, hp, Wire.PathSpecifier.upgrade]
    rw [hunset] at hpath
    cases hpath
  · have hunset : header.upgrade.specifier = none := by
      simp [Wire.HeaderMatcher.upgrade, hp, Wire.HeaderSpecifier.upgrade]
    have hmem : header.upgrade ∈ wire.upgrade.headers := List.mem_map_of_mem hmem
    obtain ⟨matcher, hm⟩ := Outcome.exists_compiled_of_mem hheaders hmem
    obtain ⟨-, -, ht⟩ := headerMatcher_eq_compiled_iff.mp hm
    rw [hunset] at ht
    cases ht

-- Query parameters come first: with them, the route is left out before anything can be wrong.
theorem route_upgrade_of_isDeprecated {wire : Wire.Route .v2} {wireMatch : Wire.RouteMatch .v2}
    (hm : wire.routeMatch = some wireMatch) (h : wireMatch.IsDeprecated) :
    (wireMatch.queryParameters ≠ [] → route wire.upgrade = .skipped) ∧
      (wireMatch.queryParameters = [] → ∃ defect, route wire.upgrade = .invalid defect) := by
  have hupgrade : wire.upgrade.routeMatch.getD {} = wireMatch.upgrade := by
    simp [Wire.Route.upgrade, hm]
  have hskipped : routeMatch wireMatch.upgrade = .skipped ↔ wireMatch.queryParameters ≠ [] := by
    rw [routeMatch_eq_skipped_iff, List.isEmpty_eq_false_iff]
    rfl
  rw [route, hupgrade]
  cases hc : routeMatch wireMatch.upgrade with
  | compiled compiled => exact absurd hc (routeMatch_upgrade_ne_compiled h compiled)
  | invalid defect =>
    refine ⟨fun hne => ?_, fun _ => ⟨defect, rfl⟩⟩
    rw [hskipped.mpr hne] at hc
    cases hc
  | skipped => exact ⟨fun _ => rfl, fun he => absurd he (hskipped.mp hc)⟩

end Compile

namespace RouteTable

theorem build_upgrade_of_isDeprecated {config : Wire.RouteConfiguration .v2} {authority : String}
    {host : Wire.VirtualHost .v2} {wire : Wire.Route .v2} {wireMatch : Wire.RouteMatch .v2}
    (hs : Wire.VirtualHost.select? config.virtualHosts authority = some host)
    (hr : wire ∈ host.routes) (hm : wire.routeMatch = some wireMatch)
    (h : wireMatch.IsDeprecated) (hq : wireMatch.queryParameters = []) :
    ∃ cause, build config.upgrade authority = .error (.rejected config.name cause) := by
  obtain ⟨defect, hd⟩ := (Compile.route_upgrade_of_isDeprecated hm h).2 hq
  have hmem : wire.upgrade ∈ host.upgrade.routes := List.mem_map_of_mem hr
  obtain ⟨cause, hcause⟩ := Compile.exists_virtualHost_eq_error hmem hd
  have hselect : Wire.VirtualHost.select? config.upgrade.virtualHosts authority =
      some host.upgrade := by
    rw [Wire.RouteConfiguration.upgrade, Wire.VirtualHost.select?_map_upgrade, hs]
    rfl
  refine ⟨cause, ?_⟩
  simp only [build, hselect, hcause]
  rfl

end RouteTable

namespace Resolver

-- The decision depends on the current table alone. What has been counted has no part in it.
theorem fst_resolve (resolver : Resolver) (path : String) (headers : Headers) :
    Prod.fst <$> resolver.resolve path headers =
      (resolver.snapshot.elim (pure (.error .notLoaded)) fun snapshot =>
        decide snapshot.table path headers) := by
  cases hs : resolver.snapshot with
  | none =>
    rw [resolve_of_none hs]
    rfl
  | some snapshot =>
    rw [resolve_of_some hs, map_bind]
    simp only [map_pure, bind_pure, Option.elim_some]

theorem EqButMetrics.fst_resolve_eq {before after : Resolver} (h : before.EqButMetrics after)
    (path : String) (headers : Headers) :
    Prod.fst <$> after.resolve path headers = Prod.fst <$> before.resolve path headers := by
  rw [fst_resolve, fst_resolve, h]

-- The upgrade keeps everything in its place except deprecated regular expressions, so without them
-- nothing is lost. No route that uses one is ever compiled, and a host that has such a route is
-- refused, while requests are routed as before.
theorem upgrade_keeps_all_but_deprecated (config : Wire.RouteConfiguration .v2) :
    config.Kept config.upgrade ∧
    (¬ config.IsDeprecated → ∀ other : Wire.RouteConfiguration .v2, ¬ other.IsDeprecated →
      other.upgrade = config.upgrade → other = config) ∧
    (∀ (wire : Wire.Route .v2) (wireMatch : Wire.RouteMatch .v2),
      wire.routeMatch = some wireMatch → wireMatch.IsDeprecated →
      (wireMatch.queryParameters ≠ [] → Compile.route wire.upgrade = .skipped) ∧
      (wireMatch.queryParameters = [] →
        ∃ defect, Compile.route wire.upgrade = .invalid defect)) ∧
    (∀ (resolver : Resolver) (host : Wire.VirtualHost .v2) (wire : Wire.Route .v2)
        (wireMatch : Wire.RouteMatch .v2),
      Wire.VirtualHost.select? config.virtualHosts resolver.authority = some host →
      wire ∈ host.routes → wire.routeMatch = some wireMatch → wireMatch.IsDeprecated →
      wireMatch.queryParameters = [] →
      (∃ error, (resolver.update ⟨.v2, config⟩).1 = .error error ∧
        (resolver.isShutDown = false → ∃ cause, error = .rejected config.name cause)) ∧
      resolver.EqButMetrics (resolver.update ⟨.v2, config⟩).2 ∧
      ∀ path headers,
        Prod.fst <$> (resolver.update ⟨.v2, config⟩).2.resolve path headers =
          Prod.fst <$> resolver.resolve path headers) := by
  refine ⟨config.kept_upgrade, ?_, ?_, ?_⟩
  · intro hc other ho he
    exact (he ▸ other.kept_upgrade).unique config.kept_upgrade ho hc
  · exact fun wire wireMatch hm h => Compile.route_upgrade_of_isDeprecated hm h
  · intro resolver host wire wireMatch hs hr hm h hq
    obtain ⟨cause, hb⟩ := RouteTable.build_upgrade_of_isDeprecated hs hr hm h hq
    cases hdown : resolver.isShutDown with
    | true =>
      rw [update_of_isShutDown hdown]
      exact ⟨⟨.shutDown, rfl, fun hf => nomatch hf⟩, rfl, fun _ _ => rfl⟩
    | false =>
      have hbuild : RouteTable.build (Wire.RouteConfigurationUpdate.upgrade ⟨.v2, config⟩)
          resolver.authority = .error (.rejected config.name cause) := hb
      obtain ⟨hresult, hkept⟩ := update_of_error hdown hbuild
      exact ⟨⟨_, hresult, fun _ => ⟨cause, rfl⟩⟩, hkept, hkept.fst_resolve_eq⟩

-- A redirect, which would be passed over if its deprecated header test were not in the way.
def legacyMatch : Wire.RouteMatch .v2 where
  path := some (.startsWith "/")
  headers := [{ name := "x-env", specifier := some (.regex "prod.*") }]

def legacyRoute : Wire.Route .v2 where
  name := "legacy"
  routeMatch := some legacyMatch
  action := some (.redirect { host := "elsewhere" })

def legacyRoutes : Wire.RouteConfiguration .v2 where
  name := "routes"
  virtualHosts := [{ domains := ["*"], routes := [legacyRoute] }]

-- A resolver that serves an empty table, which the refused update leaves in place.
theorem upgrade_keeps_all_but_deprecated_legacyRoutes :
    let resolver : Resolver :=
      { authority := "service", snapshot := some ⟨1, "routes", ⟨"host", ["*"], []⟩⟩ }
    legacyRoute.routeMatch = some legacyMatch ∧ legacyMatch.IsDeprecated ∧
      legacyMatch.queryParameters = [] ∧
      (∃ defect, Compile.route legacyRoute.upgrade = .invalid defect) ∧
      (∃ error, (resolver.update ⟨.v2, legacyRoutes⟩).1 = .error error) ∧
      resolver.EqButMetrics (resolver.update ⟨.v2, legacyRoutes⟩).2 := by
  intro resolver
  have hdeprecated : legacyMatch.IsDeprecated :=
    .inr ⟨_, List.mem_singleton_self _, "prod.*", rfl⟩
  have hselect : Wire.VirtualHost.select? legacyRoutes.virtualHosts "service" =
      some { domains := ["*"], routes := [legacyRoute] } := rfl
  obtain ⟨-, -, hroute, hupdate⟩ := upgrade_keeps_all_but_deprecated legacyRoutes
  obtain ⟨⟨error, herror, -⟩, hkept, -⟩ := hupdate resolver _ legacyRoute legacyMatch hselect
    (List.mem_singleton_self _) rfl hdeprecated rfl
  exact ⟨rfl, hdeprecated, rfl, (hroute legacyRoute legacyMatch rfl hdeprecated).2 rfl,
    ⟨error, herror⟩, hkept⟩

end Resolver

end RpcRouting
