import RpcRouting.Proofs.RouteSearch
import RpcRouting.Proofs.Session

namespace RpcRouting

variable {path : String} {headers : Headers}

-- A request that does not meet the conditions of both routes.
def Route.ExclusiveFor (first second : Route) (path : String) (headers : Headers) : Prop :=
  first.routeMatch.isCandidate path headers = true →
    second.routeMatch.isCandidate path headers = false

-- The same routes, with two neighbours in the other order.
inductive Route.Swapped (first second : Route) : List Route → List Route → Prop
  | swap (before after : List Route) :
      Swapped first second (before ++ first :: second :: after) (before ++ second :: first :: after)

-- For a request that does not meet both conditions, the list of candidates stays the same.
theorem Route.ExclusiveFor.filter_swap {first second : Route} {routes others : List Route}
    (h : first.ExclusiveFor second path headers) (hs : first.Swapped second routes others) :
    routes.filter (·.routeMatch.isCandidate path headers) =
      others.filter (·.routeMatch.isCandidate path headers) := by
  obtain ⟨before, after⟩ := hs
  rw [List.filter_append, List.filter_append, List.append_cancel_left_eq]
  cases hf : first.routeMatch.isCandidate path headers with
  | false => simp only [List.filter_cons, hf, Bool.false_eq_true, if_false]
  | true => simp only [List.filter_cons, h hf, Bool.false_eq_true, if_false]

-- Tables that decide some requests in the same way, with the same questions.
def RouteTable.AgreesOn (table other : RouteTable) (requests : String → Headers → Prop) : Prop :=
  ∀ path headers, requests path headers →
    Resolver.decide table path headers = Resolver.decide other path headers

namespace Resolver

variable {table other : RouteTable}

-- The position of a route is of no account for a decision.
theorem decide_eq_of_reducesTo {keep : Route → Bool}
    (h : table.virtualHost.ReducesTo path headers keep other.virtualHost) :
    decide table path headers = decide other path headers := by
  refine h.findRoute_alike.bind_eq ?_
  rintro found found' (_ | ⟨hsame⟩)
  · rfl
  · simp only [hsame.action_eq]

theorem decide_eq_of_candidates
    (h : table.virtualHost.routes.filter (·.routeMatch.isCandidate path headers) =
      other.virtualHost.routes.filter (·.routeMatch.isCandidate path headers)) :
    decide table path headers = decide other path headers := by
  have hcandidates (table : RouteTable) : decide table path headers =
      decide ⟨"", ⟨"", [], table.virtualHost.routes.filter
        (·.routeMatch.isCandidate path headers)⟩⟩ path headers :=
    decide_eq_of_reducesTo ⟨fun _ _ hc => hc,
      List.forall₂_same.mpr fun route _ => Route.Rearranged.refl route⟩
  rw [hcandidates table, hcandidates other, h]

section Run

variable {σ : Type} {answer : Nat → σ → Nat × σ} {source : σ}

theorem run_decide_of_none
    (h : ((table.virtualHost.findRoute path headers).run answer source).value = none) :
    (decide table path headers).run answer source =
      let found := (table.virtualHost.findRoute path headers).run answer source
      ⟨.error (.noMatchingRoute path), found.draws, found.source⟩ := by
  rw [decide, Draw.run_bind]
  simp [h, pure, Draw.run]

theorem run_decide_of_some {index : Nat} {route : Route}
    (h : ((table.virtualHost.findRoute path headers).run answer source).value =
      some (index, route)) :
    (decide table path headers).run answer source =
      let found := (table.virtualHost.findRoute path headers).run answer source
      let selected := route.action.selectCluster.run answer found.source
      ⟨.ok ⟨selected.value, route.action.timeoutNanos⟩, found.draws ++ selected.draws,
        selected.source⟩ := by
  rw [decide, Draw.run_bind]
  simp [h, Draw.run_bind, pure, Draw.run]

-- The counting after a decision draws nothing.
theorem run_resolve {resolver : Resolver} {snapshot : Snapshot}
    (h : resolver.snapshot = some snapshot) :
    (resolver.resolve path headers).run answer source =
      let decided := (decide snapshot.table path headers).run answer source
      ⟨(decided.value, { resolver with metrics := count resolver.metrics decided.value }),
        decided.draws, decided.source⟩ := by
  rw [resolve_of_some h, Draw.run_bind]
  simp [pure, Draw.run]

-- How routing a request goes on from a search: its result, its questions and what it leaves of the
-- source. Only a split is one question more.
inductive GoesOn (answer : Nat → σ → Nat × σ) (path : String)
    (found : Draw.Result (Option (Nat × Route)) σ) :
    Except ResolveError Decision → List (Nat × Nat) → σ → Prop
  | noRoute (hv : found.value = none) :
      GoesOn answer path found (.error (.noMatchingRoute path)) found.draws found.source
  | cluster {index : Nat} {route : Route} {name : String}
      (hv : found.value = some (index, route)) (hd : route.action.destination = .cluster name) :
      GoesOn answer path found (.ok ⟨name, route.action.timeoutNanos⟩) found.draws found.source
  | split {index : Nat} {route : Route} {clusters : List ClusterWeight} {total n : Nat} {rest : σ}
      (hv : found.value = some (index, route)) (hd : route.action.destination = .weighted clusters)
      (ht : ClusterWeight.total clusters = total) (hn : answer total found.source = (n, rest)) :
      GoesOn answer path found
        (.ok ⟨ClusterWeight.select clusters n, route.action.timeoutNanos⟩)
        (found.draws ++ [(total, n)]) rest

theorem run_resolve_goesOn {resolver : Resolver} {snapshot : Snapshot}
    (h : resolver.snapshot = some snapshot) :
    let routed := (resolver.resolve path headers).run answer source
    GoesOn answer path ((snapshot.table.virtualHost.findRoute path headers).run answer source)
      routed.value.1 routed.draws routed.source := by
  rw [run_resolve h]
  cases hv : ((snapshot.table.virtualHost.findRoute path headers).run answer source).value with
  | none =>
    rw [run_decide_of_none hv]
    exact .noRoute hv
  | some found =>
    rw [run_decide_of_some hv]
    unfold RouteAction.selectCluster
    cases hd : found.2.action.destination with
    | cluster name =>
      simp only [pure, Draw.run, List.append_nil]
      exact .cluster hv hd
    | weighted clusters => exact .split hv hd rfl rfl

end Run

-- Two routes can change places for all requests that do not meet the conditions of both.
theorem agreesOn_swap {name : String} {host : VirtualHost} {routes : List Route}
    {first second : Route} (hs : first.Swapped second host.routes routes) :
    RouteTable.AgreesOn ⟨name, host⟩ ⟨name, { host with routes }⟩ (first.ExclusiveFor second) := by
  intro path headers h
  exact decide_eq_of_candidates (h.filter_swap hs)

-- Resolvers that differ in nothing but tables that agree on some requests.
structure Interchangeable (requests : String → Headers → Prop) (resolver other : Resolver) :
    Prop where
  eq_but_snapshot : other = { resolver with snapshot := other.snapshot }
  snapshot_rel : Option.Rel
    (fun snapshot snapshot' => snapshot.table.AgreesOn snapshot'.table requests)
    resolver.snapshot other.snapshot

namespace Interchangeable

variable {requests : String → Headers → Prop} {resolver other : Resolver}

theorem refl (resolver : Resolver) : Interchangeable requests resolver resolver := by
  refine ⟨rfl, ?_⟩
  cases resolver.snapshot with
  | none => exact .none
  | some snapshot => exact .some fun _ _ _ => rfl

theorem of_agreesOn {version : Nat} {table table' : RouteTable}
    (hs : resolver.snapshot = some ⟨version, table⟩) (ht : table.AgreesOn table' requests) :
    Interchangeable requests resolver
      { resolver with snapshot := some ⟨version, table'⟩ } := by
  refine ⟨rfl, ?_⟩
  rw [hs]
  exact .some ht

-- An update that is taken replaces the table, and what is refused leaves it in place.
theorem update (h : Interchangeable requests resolver other)
    (given : Wire.RouteConfigurationUpdate) :
    Interchangeable requests (resolver.update given).2 (other.update given).2 := by
  obtain ⟨heq, hrel⟩ := h
  rw [heq]
  simp only [Resolver.update]
  split
  · exact ⟨rfl, hrel⟩
  · cases RouteTable.build given.upgrade resolver.authority with
    | error error => exact ⟨rfl, hrel⟩
    | ok built => exact refl _

theorem shutdown (h : Interchangeable requests resolver other) :
    Interchangeable requests resolver.shutdown other.shutdown := by
  rw [h.eq_but_snapshot]
  exact refl _

theorem resolve (h : Interchangeable requests resolver other) (hr : requests path headers) :
    Draw.Alike
      (fun routed routed' =>
        routed.1 = routed'.1 ∧ Interchangeable requests routed.2 routed'.2)
      (resolver.resolve path headers) (other.resolve path headers) := by
  obtain ⟨heq, hrel⟩ := h
  rw [heq]
  generalize other.snapshot = current at hrel
  obtain ⟨authority, snapshot, nextVersion, isShutDown, metrics⟩ := resolver
  cases hrel with
  | none => exact .done ⟨rfl, refl _⟩
  | some htable =>
    simp only [Resolver.resolve, htable path headers hr]
    exact Draw.alike_bind _ fun result => .done ⟨rfl, rfl, .some htable⟩

end Interchangeable

end Resolver

-- What a request was told.
def Reply.decision? : Reply → Option (Except ResolveError Decision)
  | .resolved result => some result
  | _ => none

namespace Session

variable {σ : Type} (answer : Nat → σ → Nat × σ) {requests : String → Headers → Prop}
  {session other : Session σ}

-- Sessions that none of some requests can tell apart.
structure Indistinct (requests : String → Headers → Prop) (session other : Session σ) :
    Prop where
  resolver : Resolver.Interchangeable requests session.resolver other.resolver
  source_eq : session.source = other.source

theorem Indistinct.call (h : Indistinct requests session other) {call : Call}
    (hr : ∀ path headers, call = .resolve path headers → requests path headers) :
    (session.call answer call).1.decision? = (other.call answer call).1.decision? ∧
      Indistinct requests (session.call answer call).2 (other.call answer call).2 := by
  obtain ⟨hresolver, hsource⟩ := h
  cases call with
  | update given => exact ⟨rfl, hresolver.update given, hsource⟩
  | resolve path headers =>
    simp only [Session.call, ← hsource]
    obtain ⟨-, hrest, hresult, hafter⟩ :=
      (hresolver.resolve (hr path headers rfl)).run answer session.source
    exact ⟨congrArg some hresult, hafter, hrest.symm⟩
  | snapshot => exact ⟨rfl, hresolver, hsource⟩
  | shutdown => exact ⟨rfl, hresolver.shutdown, hsource⟩

theorem Indistinct.run (h : Indistinct requests session other) {calls : List Call}
    (hr : ∀ path headers, .resolve path headers ∈ calls → requests path headers) :
    (session.run answer calls).1.map Reply.decision? =
        (other.run answer calls).1.map Reply.decision? ∧
      Indistinct requests (session.run answer calls).2 (other.run answer calls).2 := by
  induction calls generalizing session other with
  | nil => exact ⟨rfl, h⟩
  | cons first rest ih =>
    obtain ⟨hfirst, hnext⟩ := h.call answer fun path headers he =>
      hr path headers (he ▸ List.mem_cons_self)
    obtain ⟨hrest, hlast⟩ := ih hnext fun path headers hm =>
      hr path headers (List.mem_cons_of_mem first hm)
    refine ⟨?_, hlast⟩
    simp only [Session.run, List.map_cons, hfirst, hrest]

-- The calls are told the same decisions in both sessions, and leave the same of the source.
structure DecideAlike (calls : List Call) (session other : Session σ) : Prop where
  decisions_eq : (other.run answer calls).1.map Reply.decision? =
    (session.run answer calls).1.map Reply.decision?
  source_eq : (other.run answer calls).2.source = (session.run answer calls).2.source

end Session

-- Only candidates draw. In the search of a host, routes that are no candidates can be left out, and
-- the header matchers of a route put in any order. The bounds are those of the candidates up to the
-- one that is found. Routing a request draws once more, and only for a split. So requests that
-- never meet the conditions of both of two neighbours cannot tell in which order these stand.
theorem only_candidates_draw {σ : Type} (answer : Nat → σ → Nat × σ) (host : VirtualHost) :
    (∀ (path : String) (headers : Headers) (source : σ),
      let found := (host.findRoute path headers).run answer source
      (∀ (keep : Route → Bool) (other : VirtualHost), host.ReducesTo path headers keep other →
        let found' := (other.findRoute path headers).run answer source
        found'.draws = found.draws ∧ found'.source = found.source ∧
          host.Corresponds keep found.value found'.value) ∧
      host.AsksCandidates path headers found ∧
      ∀ (resolver : Resolver) (snapshot : Snapshot), resolver.snapshot = some snapshot →
        snapshot.table.virtualHost = host →
          let routed := (resolver.resolve path headers).run answer source
          Resolver.GoesOn answer path found routed.value.1 routed.draws routed.source) ∧
    ∀ (first second : Route) (routes : List Route), first.Swapped second host.routes routes →
      ∀ (resolver : Resolver) (version : Nat) (name : String),
        resolver.snapshot = some ⟨version, ⟨name, host⟩⟩ →
          let resolver' :=
            { resolver with snapshot := some ⟨version, ⟨name, { host with routes }⟩⟩ }
          ∀ (source : σ) (calls : List Call),
            (∀ path headers, .resolve path headers ∈ calls →
              first.ExclusiveFor second path headers) →
            Session.DecideAlike answer calls ⟨resolver, source⟩ ⟨resolver', source⟩ := by
  refine ⟨fun path headers source => ⟨fun keep other h => ?_, ?_, ?_⟩, ?_⟩
  · exact h.findRoute_alike.run answer source
  · exact VirtualHost.run_findRoute answer host source
  · rintro resolver snapshot hs rfl
    exact Resolver.run_resolve_goesOn hs
  · intro first second routes hswapped resolver version name hs resolver' source calls hr
    have hsame : Resolver.Interchangeable (first.ExclusiveFor second) resolver resolver' :=
      .of_agreesOn hs (Resolver.agreesOn_swap hswapped)
    have hindistinct : Session.Indistinct (first.ExclusiveFor second)
        ⟨resolver, source⟩ ⟨resolver', source⟩ := ⟨hsame, rfl⟩
    obtain ⟨hdecisions, hended⟩ := hindistinct.run answer hr
    exact ⟨hdecisions.symm, hended.source_eq.symm⟩

-- The route in between is no candidate and draws nothing.
example :
    let action : RouteAction := ⟨.default, .cluster "backend"⟩
    let host : VirtualHost := ⟨"host", ["*"],
      [⟨{ path := .startsWith "/a", fraction := some ⟨1, 10⟩ }, action⟩,
       ⟨{ path := .exact "/b", fraction := some ⟨1, 7⟩ }, action⟩,
       ⟨{ path := .exact "/a", fraction := some ⟨20, 20⟩ }, action⟩]⟩
    let found := (host.findRoute "/a" {}).run (fun bound _ => (bound - 1, ())) ()
    found.value.map (·.1) = some 2 ∧ found.draws = [(10, 9), (20, 19)] := by decide +kernel

end RpcRouting
