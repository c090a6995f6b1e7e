import RpcRouting.Command.Run
import RpcRouting.Proofs.Compilation
import RpcRouting.Proofs.HostSelection
import RpcRouting.Proofs.Session

namespace RpcRouting

open Wire.VirtualHost (FirstBest select?)

variable {explain : String → String}

namespace HostReport

def routeLine (explain : String → String) (index : Nat) (route : String × Outcome Route) :
    String :=
  "  #" ++ toString index ++ " " ++ Text.quoted route.1 ++ " " ++ verdict explain route.2

theorem getElem?_routeLines (index : Nat) (routes : List (String × Outcome Route)) (n : Nat) :
    (routeLines explain index routes)[n]? = (routes[n]?).map (routeLine explain (index + n)) := by
  induction routes generalizing index n with
  | nil => rfl
  | cons route rest ih =>
    cases n with
    | zero => rfl
    | succ n =>
      rw [routeLines, List.getElem?_cons_succ, List.getElem?_cons_succ, ih,
        Nat.add_right_comm, Nat.add_assoc]

-- After the line for the host itself, there is one for every route.
theorem getElem?_lines_succ (authority : String) (host : HostReport) (n : Nat) :
    (host.lines explain authority)[n + 1]? = (host.routes[n]?).map (routeLine explain n) := by
  rw [lines, List.getElem?_cons_succ, getElem?_routeLines, Nat.zero_add]

theorem exists_routeLine_of_mem {index : Nat} {routes : List (String × Outcome Route)}
    {line : String} (h : line ∈ routeLines explain index routes) :
    ∃ n route, line = routeLine explain n route := by
  obtain ⟨n, hn⟩ := List.mem_iff_getElem?.mp h
  rw [getElem?_routeLines] at hn
  obtain ⟨route, -, hline⟩ := Option.map_eq_some_iff.mp hn
  exact ⟨index + n, route, hline.symm⟩

end HostReport

namespace CheckReport

variable {config : Wire.RouteConfiguration .v3} {version : ApiVersion} {authority : String}

theorem getElem?_hosts (config : Wire.RouteConfiguration .v3) (version : ApiVersion)
    (authority : String) (n : Nat) :
    (build config version authority).hosts[n]? = (config.virtualHosts[n]?).map fun host =>
      { name := host.name
        domains := host.domains
        isSelected := (select? config.virtualHosts authority).map (·.name) = some host.name
        routes := host.routes.map fun wire => (wire.name, Compile.route wire) } :=
  List.getElem?_map

-- The line of the host at a position ends in the text that says whom the host is selected for.
def Marked (explain : String → String) (report : CheckReport) (n : Nat) : Prop :=
  ∃ host, report.hosts[n]? = some host ∧
    (host.lines explain report.authority).head? =
      some ("virtual host " ++ Text.quoted host.name ++ " domains=" ++
        Text.quotedList host.domains ++ (" [selected for " ++ report.authority ++ "]"))

theorem marker_ne_empty (authority : String) : " [selected for " ++ authority ++ "]" ≠ "" := by
  intro he
  have hlength := congrArg String.length he
  rw [String.length_append] at hlength
  exact absurd hlength (Nat.succ_ne_zero _)

theorem marked_iff {report : CheckReport} {n : Nat} :
    report.Marked explain n ↔ ∃ host, report.hosts[n]? = some host ∧ host.isSelected = true := by
  apply exists_congr
  intro host
  apply and_congr_right
  intro _
  rw [HostReport.lines, List.head?_cons, Option.some.injEq, String.append_right_inj]
  cases host.isSelected with
  | true => exact iff_of_true rfl rfl
  | false => exact iff_of_false (marker_ne_empty _).symm (by decide)

-- The marker goes by the name of the selected host.
theorem marked_build_iff {n : Nat} :
    (build config version authority).Marked explain n ↔
      ∃ wire selected, config.virtualHosts[n]? = some wire ∧
        select? config.virtualHosts authority = some selected ∧ wire.name = selected.name := by
  rw [marked_iff, getElem?_hosts]
  constructor
  · rintro ⟨host, hhost, hmark⟩
    obtain ⟨wire, hwire, rfl⟩ := Option.map_eq_some_iff.mp hhost
    obtain ⟨selected, hs, hname⟩ := Option.map_eq_some_iff.mp (of_decide_eq_true hmark)
    exact ⟨wire, selected, hwire, hs, hname.symm⟩
  · rintro ⟨wire, selected, hwire, hs, hname⟩
    rw [hwire, hs]
    exact ⟨_, rfl, decide_eq_true (congrArg some hname.symm)⟩

-- The host that the resolver would use is marked, and so is every host of the same name. It is the
-- only one that is marked exactly if no other has its name. If there is none, no host is marked.
theorem marked_iff_name_eq_selected (explain : String → String)
    (config : Wire.RouteConfiguration .v3) (version : ApiVersion) (authority : String) :
    (∀ n selected strength, FirstBest authority config.virtualHosts n selected strength →
      (build config version authority).Marked explain n ∧
      (∀ k, (build config version authority).Marked explain k ↔
        ∃ other, config.virtualHosts[k]? = some other ∧ other.name = selected.name) ∧
      ((∀ k, (build config version authority).Marked explain k → k = n) ↔
        ∀ k other, config.virtualHosts[k]? = some other → other.name = selected.name → k = n)) ∧
    (select? config.virtualHosts authority = none →
      ∀ k, ¬ (build config version authority).Marked explain k) := by
  constructor
  · intro n selected strength hbest
    have hs : select? config.virtualHosts authority = some selected :=
      (Wire.VirtualHost.select?_eq_some_iff _ _ _).mpr ⟨n, strength, hbest⟩
    have hmarked : ∀ k, (build config version authority).Marked explain k ↔
        ∃ other, config.virtualHosts[k]? = some other ∧ other.name = selected.name := by
      intro k
      rw [marked_build_iff]
      simp [hs]
    refine ⟨(hmarked n).mpr ⟨selected, hbest.stands, rfl⟩, hmarked, ?_⟩
    simp [hmarked]
  · intro hnone k hmark
    obtain ⟨wire, selected, -, hs, -⟩ := marked_build_iff.mp hmark
    rw [hnone] at hs
    cases hs

-- Two hosts without a name.
def namelessHosts : Wire.RouteConfiguration .v3 where
  name := "r"
  virtualHosts := [{ domains := ["a.com"] }, { domains := ["b.com"] }]

-- The first is the one for its domain, but both are marked.
theorem marked_namelessHosts :
    select? namelessHosts.virtualHosts "a.com" = some { domains := ["a.com"] } ∧
      (build namelessHosts .v3 "a.com").Marked (fun _ => "") 0 ∧
      (build namelessHosts .v3 "a.com").Marked (fun _ => "") 1 := by
  have hs : select? namelessHosts.virtualHosts "a.com" = some { domains := ["a.com"] } := rfl
  obtain ⟨n, strength, hbest⟩ := (Wire.VirtualHost.select?_eq_some_iff _ _ _).mp hs
  have hmarked :=
    ((marked_iff_name_eq_selected (fun _ => "") namelessHosts .v3 "a.com").1 n _ strength hbest).2.1
  exact ⟨hs, (hmarked 0).mpr ⟨_, rfl, rfl⟩, (hmarked 1).mpr ⟨_, rfl, rfl⟩⟩

theorem hasSelection_build :
    (build config version authority).hasSelection =
      (select? config.virtualHosts authority).isSome :=
  Option.isSome_map

theorem invalidCount_eq_zero_iff {report : CheckReport} :
    report.invalidCount = 0 ↔
      ∀ host ∈ report.hosts, ∀ route ∈ host.routes, route.2.defect? = none := by
  simp only [invalidCount, List.length_eq_zero_iff, List.filter_eq_nil_iff, List.mem_flatMap,
    Bool.not_eq_true, Option.isSome_eq_false_iff, Option.isNone_iff_eq_none]
  constructor
  · intro h host hh route hr
    exact h route ⟨host, hh, hr⟩
  · rintro h route ⟨host, hh, hr⟩
    exact h host hh route hr

-- The line for an authority that no host serves.
def noHostLine (authority : String) : String :=
  "no virtual host matches authority " ++ Text.quoted authority

private theorem append_ne_append {a b : String} {c d : Char} (ha : a.toList.head? = some c)
    (hb : b.toList.head? = some d) (hne : c ≠ d) (x y : String) : a ++ x ≠ b ++ y := by
  intro he
  have hfirst : (a ++ x).toList.head? = (b ++ y).toList.head? := by rw [he]
  rw [String.toList_append, String.toList_append, List.head?_append, List.head?_append, ha,
    hb] at hfirst
  exact hne (Option.some.inj hfirst)

-- No other line reads like it, whatever hosts and routes are called: the first letters differ.
theorem noHostLine_ne {start : String} {c : Char} (h : start.toList.head? = some c)
    (hc : c ≠ 'n') (authority rest : String) : noHostLine authority ≠ start ++ rest :=
  append_ne_append (c := 'n') (by decide) h hc.symm _ rest

theorem noHostLine_notMem_lines (authority : String) (host : HostReport) :
    noHostLine authority ∉ host.lines explain authority := by
  intro hmem
  rcases List.mem_cons.mp hmem with he | hmem
  · rw [String.append_assoc, String.append_assoc, String.append_assoc] at he
    exact noHostLine_ne (c := 'v') (by decide) (by decide) _ _ he
  · obtain ⟨n, route, he⟩ := HostReport.exists_routeLine_of_mem hmem
    rw [HostReport.routeLine, String.append_assoc, String.append_assoc, String.append_assoc,
      String.append_assoc] at he
    exact noHostLine_ne (c := ' ') (by decide) (by decide) _ _ he

theorem noHostLine_mem_lines_iff {report : CheckReport} :
    noHostLine report.authority ∈ report.lines explain ↔ report.hasSelection = false := by
  have htitle : noHostLine report.authority ≠ "route configuration " ++
      Text.quoted report.routeConfig ++ " (" ++ report.version.text ++ ")" := by
    rw [String.append_assoc, String.append_assoc, String.append_assoc]
    exact noHostLine_ne (c := 'r') (by decide) (by decide) _ _
  have hhosts : noHostLine report.authority ∉
      report.hosts.flatMap (HostReport.lines explain report.authority) := by
    intro hmem
    obtain ⟨host, -, hline⟩ := List.mem_flatMap.mp hmem
    exact noHostLine_notMem_lines report.authority host hline
  rw [lines, List.cons_append, List.mem_cons, List.mem_append, or_iff_right htitle,
    or_iff_right hhosts]
  cases report.hasSelection with
  | true => exact iff_of_false List.not_mem_nil (by decide)
  | false => exact iff_of_true (List.mem_singleton_self _) rfl

-- What is reported of the host at a position.
theorem exists_host {n : Nat} {wire : Wire.VirtualHost .v3}
    (h : config.virtualHosts[n]? = some wire) (version : ApiVersion) (authority : String) :
    ∃ host, (build config version authority).hosts[n]? = some host ∧ host.name = wire.name ∧
      host.routes = wire.routes.map fun wire => (wire.name, Compile.route wire) := by
  have hosts := getElem?_hosts config version authority n
  rw [h] at hosts
  exact ⟨_, hosts, rfl, rfl⟩

-- An error in the report of any host counts.
theorem invalidCount_ne_zero {report : CheckReport} {n k : Nat} {host : HostReport}
    {name : String} {defect : Defect} (hhost : report.hosts[n]? = some host)
    (hroute : host.routes[k]? = some (name, .invalid defect)) : report.invalidCount ≠ 0 := by
  intro hzero
  have hnone := invalidCount_eq_zero_iff.mp hzero host (List.mem_of_getElem? hhost) _
    (List.mem_of_getElem? hroute)
  cases hnone

-- What a host is refused for stands in its report, as the first error.
theorem exists_error_of_rejected {name : String} {cause : InvalidRoute}
    (h : RouteTable.build config authority = .error (.rejected name cause))
    (version : ApiVersion) :
    ∃ n wire strength host,
      FirstBest authority config.virtualHosts n wire strength ∧
      (build config version authority).hosts[n]? = some host ∧ host.name = cause.virtualHost ∧
      host.routes[cause.index]? = some (cause.route, .invalid cause.defect) ∧
      ∀ k < cause.index, ∀ earlier, host.routes[k]? = some earlier → earlier.2.defect? = none := by
  rcases RouteTable.build_eq_error h with ⟨-, he⟩ | ⟨wire, found, hs, hv, he⟩
  · cases he
  · cases he
    obtain ⟨n, strength, hbest⟩ := (Wire.VirtualHost.select?_eq_some_iff _ _ _).mp hs
    obtain ⟨host, hhost, hname, hroutes⟩ := exists_host hbest.stands version authority
    obtain ⟨hcause, wireRoute, hroute, hlabel, hdefect, hearlier⟩ :=
      Compile.virtualHost_eq_error hv
    refine ⟨n, wire, strength, host, hbest, hhost, hname.trans hcause.symm, ?_, ?_⟩
    · rw [hroutes, List.getElem?_map, hroute, hlabel, ← hdefect]
      rfl
    · intro k hk earlier he
      rw [hroutes, List.getElem?_map] at he
      obtain ⟨other, hother, rfl⟩ := Option.map_eq_some_iff.mp he
      exact hearlier k hk other hother

-- If no route of any host is wrong, the selected host compiles, and to the routes that compiled in
-- its report.
theorem exists_table_of_valid (hvalid : (build config version authority).invalidCount = 0)
    (hs : (build config version authority).hasSelection = true) :
    ∃ n wire strength host table skipped,
      FirstBest authority config.virtualHosts n wire strength ∧
      (build config version authority).hosts[n]? = some host ∧
      RouteTable.build config authority = .ok (table, skipped) ∧
      table.virtualHost.routes = host.routes.filterMap (·.2.value?) := by
  rw [hasSelection_build, Option.isSome_iff_exists] at hs
  obtain ⟨wire, hs⟩ := hs
  obtain ⟨n, strength, hbest⟩ := (Wire.VirtualHost.select?_eq_some_iff _ _ _).mp hs
  obtain ⟨host, hhost, -, hroutes⟩ := exists_host hbest.stands version authority
  cases hb : RouteTable.build config authority with
  | ok built =>
    obtain ⟨other, hother, hv⟩ := RouteTable.build_eq_ok hb
    rw [hs] at hother
    cases hother
    refine ⟨n, wire, strength, host, built.1, built.2, hbest, hhost, rfl, ?_⟩
    rw [(Compile.virtualHost_eq_ok hv).2.2.1, hroutes, List.filterMap_map]
    rfl
  | error error =>
    exfalso
    rcases RouteTable.build_eq_error hb with ⟨hnone, -⟩ | ⟨other, cause, -, -, rfl⟩
    · rw [hs] at hnone
      cases hnone
    · obtain ⟨k, refused, found, report, -, hreport, -, herror, -⟩ :=
        exists_error_of_rejected hb version
      exact invalidCount_ne_zero hreport herror hvalid

theorem noVirtualHost_iff :
    (∃ name refused, RouteTable.build config authority = .error (.noVirtualHost name refused)) ↔
      (build config version authority).hasSelection = false := by
  rw [hasSelection_build, Option.isSome_eq_false_iff, Option.isNone_iff_eq_none]
  constructor
  · rintro ⟨name, refused, h⟩
    rcases RouteTable.build_eq_error h with ⟨hnone, -⟩ | ⟨wire, cause, -, -, he⟩
    · exact hnone
    · cases he
  · intro hnone
    refine ⟨config.name, authority, ?_⟩
    rw [RouteTable.build, hnone]

end CheckReport

namespace Command

open CheckReport (noHostLine noHostLine_mem_lines_iff)

theorem runCheck_of_load {settings : Settings} {files : Files} {path : String}
    {version : Option ApiVersion} {authority : Option String}
    {update : Wire.RouteConfigurationUpdate}
    (h : files.loadRoutes path (version.getD settings.source.apiVersion) = .ok update) :
    runCheck settings files explain path version authority =
      let report := CheckReport.build update.upgrade (version.getD settings.source.apiVersion)
        (authority.getD settings.resolver.authority)
      ⟨if report.invalidCount = 0 then 0 else 1, String.join ((report.lines explain).map (· ++ "\n"))⟩ := by
  unfold runCheck
  dsimp only
  rw [h]

-- A check and an update see the same routes. If nothing is wrong and some host serves the
-- authority, a fresh resolver takes the update, and its table holds the routes that compiled in the
-- report for that host, in their order. If the update is refused for a route, the report has the
-- same error at the same place of the same host and none before it. If it is refused for want of a
-- host, the check says so, and only then.
theorem runCheck_agrees (settings : Settings) (files : Files) (explain : String → String)
    (path : String) (version : Option ApiVersion) (authority : Option String)
    (update : Wire.RouteConfigurationUpdate)
    (hload : files.loadRoutes path (version.getD settings.source.apiVersion) = .ok update) :
    let served := authority.getD settings.resolver.authority
    let report := CheckReport.build update.upgrade (version.getD settings.source.apiVersion) served
    let exit := runCheck settings files explain path version authority
    let result := ({ authority := served } : Resolver).update update
    exit.output = String.join ((report.lines explain).map (· ++ "\n")) ∧
    (exit.status = 0 → noHostLine served ∉ report.lines explain →
      ∃ n wire strength host table,
        FirstBest served update.upgrade.virtualHosts n wire strength ∧
        report.hosts[n]? = some host ∧
        result.1 = .ok 1 ∧ result.2.snapshot = some ⟨1, table⟩ ∧
        table.virtualHost.routes = host.routes.filterMap (·.2.value?)) ∧
    (∀ name cause, result.1 = .error (.rejected name cause) →
      exit.status ≠ 0 ∧
      ∃ n wire strength host,
        FirstBest served update.upgrade.virtualHosts n wire strength ∧
        report.hosts[n]? = some host ∧ host.name = cause.virtualHost ∧
        host.routes[cause.index]? = some (cause.route, .invalid cause.defect) ∧
        (host.lines explain served)[cause.index + 1]? =
          some ("  #" ++ toString cause.index ++ " " ++ Text.quoted cause.route ++ " " ++
            ("error: " ++ cause.defect.message explain)) ∧
        ∀ k < cause.index, ∀ earlier, host.routes[k]? = some earlier →
          earlier.2.defect? = none) ∧
    ((∃ name refused, result.1 = .error (.noVirtualHost name refused)) ↔
      noHostLine served ∈ report.lines explain) := by
  intro served report exit result
  have hexit : exit = ⟨if report.invalidCount = 0 then 0 else 1,
      String.join ((report.lines explain).map (· ++ "\n"))⟩ := runCheck_of_load hload
  have herror : ∀ error, result.1 = .error error ↔
      RouteTable.build update.upgrade served = .error error :=
    fun error => Resolver.update_eq_error_iff rfl
  have hsilent : noHostLine served ∈ report.lines explain ↔ report.hasSelection = false :=
    noHostLine_mem_lines_iff
  rw [hexit]
  refine ⟨rfl, ?_, ?_, ?_⟩
  · intro hstatus hnone
    have hvalid : report.invalidCount = 0 := by
      by_contra hne
      rw [if_neg hne] at hstatus
      cases hstatus
    have hs : report.hasSelection = true := by
      rw [hsilent, Bool.not_eq_false] at hnone
      exact hnone
    obtain ⟨n, wire, strength, host, table, skipped, hbest, hhost, hbuild, hroutes⟩ :=
      CheckReport.exists_table_of_valid hvalid hs
    obtain ⟨hversion, hresolver⟩ :=
      @Resolver.update_of_ok { authority := served } update table skipped rfl hbuild
    refine ⟨n, wire, strength, host, table, hbest, hhost, hversion, ?_, hroutes⟩
    rw [hresolver]
  · intro name cause hrejected
    obtain ⟨n, wire, strength, host, hbest, hhost, hname, hroute, hearlier⟩ :=
      CheckReport.exists_error_of_rejected ((herror _).mp hrejected) _
    refine ⟨?_, n, wire, strength, host, hbest, hhost, hname, hroute, ?_, hearlier⟩
    · have hone : (1 : UInt32) ≠ 0 := by decide
      rwa [if_neg (CheckReport.invalidCount_ne_zero hhost hroute)]
    · rw [HostReport.getElem?_lines_succ, hroute]
      rfl
  · rw [hsilent, ← CheckReport.noVirtualHost_iff]
    exact exists_congr fun name => exists_congr fun refused => herror _

theorem loadRoutes_of_json {files : Files} {path : String} (text : String) {version : ApiVersion}
    {config : Wire.RouteConfiguration version} (htoml : Files.isToml path = false)
    (htext : files.text? path = some text)
    (hread : (Document.Json.parse? text.toList).bind (Wire.RouteConfiguration.read version) =
      some config) : files.loadRoutes path version = .ok ⟨version, config⟩ := by
  have hload : files.loadText path = .ok text := by
    rw [Files.loadText, htext]
  simp only [Files.loadRoutes, hload, htoml, bind, Except.bind, pure, Except.pure]
  simp only [Bool.false_eq_true, if_false]
  rw [hread]

-- A host whose first route is a redirect, in a file and as it is read.
def redirectText (second : String) : String :=
  "[\"r\",[[\"h\",[\"*\"],[\x7b\"match\":\x7b\"prefix\":\"/\"\x7d,\"redirect\":\x7b\x7d\x7d," ++
    second ++ "]]]]"

def redirectFile (second : String) : Files :=
  ⟨[("routes", (redirectText second).toUTF8.toList)]⟩

def redirectFirst (second : Wire.Route .v3) : Wire.RouteConfiguration .v3 where
  name := "r"
  virtualHosts :=
    [{ name := "h", domains := ["*"],
       routes :=
        [{ routeMatch := some { path := some (.startsWith "/") }, action := some (.redirect {}) },
         second] }]

def clusterText : String :=
  "\x7b\"match\":\x7b\"prefix\":\"/\"\x7d,\"route\":\x7b\"cluster\":\"c\"\x7d\x7d"

def clusterRoute : Wire.Route .v3 where
  routeMatch := some { path := some (.startsWith "/") }
  action := some (.route { cluster := some (.cluster "c") })

theorem loadRoutes_redirectFirst :
    (redirectFile "\x7b\x7d").loadRoutes "routes" .v3 = .ok ⟨.v3, redirectFirst {}⟩ ∧
    (redirectFile clusterText).loadRoutes "routes" .v3 = .ok ⟨.v3, redirectFirst clusterRoute⟩ := by
  have htoml : Files.isToml "routes" = false := by decide +kernel
  constructor
  · exact loadRoutes_of_json (redirectText "\x7b\x7d") htoml (by decide +kernel)
      (by decide +kernel)
  · exact loadRoutes_of_json (redirectText clusterText) htoml (by decide +kernel)
      (by decide +kernel)

theorem runCheck_agrees_redirectFirst :
    let served : Resolver := { authority := "localhost" }
    (∃ update, (redirectFile "\x7b\x7d").loadRoutes "routes" .v3 = .ok update ∧
      (served.update update).1 = .error (.rejected "r" ⟨"h", 1, "", .noPathSpecifier⟩) ∧
      (runCheck {} (redirectFile "\x7b\x7d") (fun _ => "") "routes" none none).status ≠ 0) ∧
    ∃ update, (redirectFile clusterText).loadRoutes "routes" .v3 = .ok update ∧
      (runCheck {} (redirectFile clusterText) (fun _ => "") "routes" none none).status = 0 ∧
      (served.update update).1 = .ok 1 := by
  intro served
  obtain ⟨hrefused, htaken⟩ := loadRoutes_redirectFirst
  have hstatus :
      (runCheck {} (redirectFile clusterText) (fun _ => "") "routes" none none).status = 0 := by
    rw [runCheck_of_load htaken]
    rfl
  have hsilent : noHostLine "localhost" ∉
      (CheckReport.build (redirectFirst clusterRoute) .v3 "localhost").lines (fun _ => "") := by
    intro hmem
    cases noHostLine_mem_lines_iff.mp hmem
  refine ⟨⟨_, hrefused, rfl, ?_⟩, ⟨_, htaken, hstatus, ?_⟩⟩
  · exact ((runCheck_agrees {} _ (fun _ => "") "routes" none none _ hrefused).2.2.1 _ _ rfl).1
  · obtain ⟨n, wire, strength, host, table, -, -, hversion, -⟩ :=
      (runCheck_agrees {} _ (fun _ => "") "routes" none none _ htaken).2.1 hstatus hsilent
    exact hversion

end Command

end RpcRouting
