import RpcRouting.Proofs.Candidates
import RpcRouting.Proofs.Compilation
import RpcRouting.Proofs.Wire.Duration

namespace RpcRouting

namespace Wire

-- A duration that stands for no limit: none at all, or one that cannot be told from no limit.
def Duration.IsUnlimited (d : Duration) : Prop :=
  d.seconds = 0 ∧ d.nanos = 0 ∨ d.asNanos = Int64.maxValue

instance (d : Duration) : Decidable d.IsUnlimited := inferInstanceAs (Decidable (_ ∨ _))

namespace RouteAction

-- The duration that counts: the limit for gRPC, or the other one where that is not set.
def Chooses (wire : RouteAction) (d : Duration) : Prop :=
  wire.maxGrpcTimeout = some d ∨ wire.maxGrpcTimeout = none ∧ wire.timeout = some d

-- How long an action lets a request take, in nanoseconds. A negative duration leaves no time.
inductive Grants (wire : RouteAction) : Option Nat → Prop where
  | default (hgrpc : wire.maxGrpcTimeout = none) (hplain : wire.timeout = none) :
    Grants wire (some 15000000000)
  | unlimited {d : Duration} (hd : wire.Chooses d) (hu : d.IsUnlimited) : Grants wire none
  | spent {d : Duration} (hd : wire.Chooses d) (hneg : d.asNanos.toInt < 0) : Grants wire (some 0)
  | limited {d : Duration} (hd : wire.Chooses d) (hu : ¬ d.IsUnlimited) {limit : Nat}
    (hl : d.asNanos.toInt = limit) : Grants wire (some limit)

theorem exists_grants (wire : RouteAction) : ∃ limit, wire.Grants limit := by
  have hchosen : ∀ d, wire.Chooses d → ∃ limit, wire.Grants limit := by
    intro d hd
    by_cases hu : d.IsUnlimited
    · exact ⟨none, .unlimited hd hu⟩
    · by_cases hneg : d.asNanos.toInt < 0
      · exact ⟨some 0, .spent hd hneg⟩
      · exact ⟨some d.asNanos.toInt.toNat, .limited hd hu (by omega)⟩
  cases hgrpc : wire.maxGrpcTimeout with
  | some d => exact hchosen d (.inl hgrpc)
  | none =>
    cases hplain : wire.timeout with
    | some d => exact hchosen d (.inr ⟨hgrpc, hplain⟩)
    | none => exact ⟨some 15000000000, .default hgrpc hplain⟩

end RouteAction

end Wire

theorem TimeoutNanos.limit?_of_ne_infinite {nanos : TimeoutNanos} (h : nanos ≠ .infinite) :
    nanos.limit? = some nanos.toInt.toNat := if_neg h

-- All but no limit at all is less than what 64 bits can hold, so nothing wraps around.
theorem TimeoutNanos.lt_of_limit? {nanos : TimeoutNanos} {limit : Nat}
    (h : nanos.limit? = some limit) : (limit : Int) < Int64.maxValue.toInt := by
  have hne : nanos ≠ .infinite := by
    rintro rfl
    cases h
  rw [limit?_of_ne_infinite hne] at h
  cases h
  have hle := nanos.toInt_le
  have hne' : nanos.toInt ≠ Int64.maxValue.toInt := fun he => hne (Int64.toInt_inj.mp he)
  have hpos : 0 < Int64.maxValue.toInt := by decide
  omega

namespace Compile

variable {wire : Wire.RouteAction} {d : Wire.Duration}

theorem timeoutNanos_of_chooses (h : wire.Chooses d) :
    timeoutNanos wire = if d.seconds = 0 ∧ d.nanos = 0 then TimeoutNanos.infinite else d.asNanos := by
  have hor : wire.maxGrpcTimeout.or wire.timeout = some d := by
    rcases h with hgrpc | ⟨hgrpc, hplain⟩
    · rw [hgrpc, Option.some_or]
    · rw [hgrpc, hplain, Option.none_or]
  simp [timeoutNanos, hor, Wire.Duration.isZero]

theorem timeoutNanos_eq_infinite_iff (h : wire.Chooses d) :
    timeoutNanos wire = .infinite ↔ d.IsUnlimited := by
  rw [timeoutNanos_of_chooses h, Wire.Duration.IsUnlimited]
  by_cases hzero : d.seconds = 0 ∧ d.nanos = 0
  · rw [if_pos hzero]
    exact iff_of_true rfl (.inl hzero)
  · rw [if_neg hzero, or_iff_right hzero, TimeoutNanos.infinite]

theorem limit?_of_limited (h : wire.Chooses d) (hu : ¬ d.IsUnlimited) :
    (timeoutNanos wire).limit? = some d.asNanos.toInt.toNat := by
  have hne : timeoutNanos wire ≠ .infinite := fun he => hu ((timeoutNanos_eq_infinite_iff h).mp he)
  rw [TimeoutNanos.limit?_of_ne_infinite hne, timeoutNanos_of_chooses h,
    if_neg fun hzero => hu (.inl hzero)]

theorem limit?_of_grants {limit : Option Nat} (h : wire.Grants limit) :
    (timeoutNanos wire).limit? = limit := by
  cases h with
  | default hgrpc hplain =>
    rw [timeoutNanos, hgrpc, hplain]
    rfl
  | unlimited hd hu =>
    rw [(timeoutNanos_eq_infinite_iff hd).mpr hu]
    rfl
  | @spent d hd hneg =>
    -- nothing negative stands for no limit
    have hu : ¬ d.IsUnlimited := by
      rintro (⟨hseconds, hnanos⟩ | hmax)
      · rw [Wire.Duration.asNanos_neg_iff, Wire.Duration.length, hseconds, hnanos] at hneg
        simp at hneg
      · rw [hmax, Int64.toInt_maxValue] at hneg
        omega
    rw [limit?_of_limited hd hu, Int.toNat_of_nonpos (Int.le_of_lt hneg)]
  | limited hd hu hl => rw [limit?_of_limited hd hu, hl, Int.toNat_natCast]

theorem limit?_eq_iff {limit : Option Nat} :
    (timeoutNanos wire).limit? = limit ↔ wire.Grants limit := by
  constructor
  · intro heq
    obtain ⟨granted, hg⟩ := wire.exists_grants
    rw [← heq, limit?_of_grants hg]
    exact hg
  · exact limit?_of_grants

theorem routeAction_eq_compiled_iff {action : RouteAction} :
    routeAction wire = .compiled action ↔
      action.timeoutNanos = timeoutNanos wire ∧
        destination wire.cluster = .compiled action.destination := by
  have haction := @action_eq_compiled_iff (some (.route wire)) action
  simpa only [Compile.action, Option.some.injEq, Wire.Action.route.injEq, exists_eq_left'] using haction

end Compile

-- The route that is found decides how long the request may take. The draws have no part in it.
theorem Resolver.run_resolve_of_found {σ : Type} {answer : Nat → σ → Nat × σ} {source : σ}
    {path : String} {headers : Headers} {resolver : Resolver} {snapshot : Snapshot} {index : Nat}
    {route : Route} (hs : resolver.snapshot = some snapshot)
    (hf : ((snapshot.table.virtualHost.findRoute path headers).run answer source).value =
      some (index, route)) :
    ∃ cluster, ((resolver.resolve path headers).run answer source).value.1 =
      .ok ⟨cluster, route.action.timeoutNanos⟩ := by
  rw [run_resolve hs, run_decide_of_some hf]
  exact ⟨_, rfl⟩

-- A request may take as long as the durations of the action of its route let it, and an action
-- keeps that however its other parts are changed: the cluster, and beside a limit for gRPC the
-- other duration too.
theorem Session.timeout_granted {σ : Type} (answer : Nat → σ → Nat × σ) (authority : String)
    (source : σ) (calls : List Call) :
    (∀ wire action, Compile.routeAction wire = .compiled action →
      (∀ limit, action.timeout? = limit ↔ wire.Grants limit) ∧
      (∀ d, wire.Chooses d → d.length < 0 → action.timeout? = some 0) ∧
      (∀ limit : Nat, action.timeout? = some limit → (limit : Int) < Int64.maxValue.toInt) ∧
      (wire.maxGrpcTimeout ≠ none → ∀ other,
        Compile.routeAction { wire with timeout := other } = .compiled action) ∧
      ∀ specifier other, Compile.routeAction { wire with cluster := specifier } = .compiled other →
        other.timeout? = action.timeout?) ∧
    let reached := ((start authority source).run answer calls).2
    ∀ snapshot path headers index route, reached.resolver.snapshot = some snapshot →
      ((snapshot.table.virtualHost.findRoute path headers).run answer reached.source).value =
        some (index, route) →
      ∃ update host wireRoute wire decision, .update update ∈ calls ∧
        Wire.VirtualHost.select? update.upgrade.virtualHosts authority = some host ∧
        wireRoute ∈ host.routes ∧ wireRoute.action = some (.route wire) ∧
        Compile.route wireRoute = .compiled route ∧
        Compile.routeAction wire = .compiled route.action ∧
        (reached.call answer (.resolve path headers)).1 = .resolved (.ok decision) ∧
        decision.timeout? = route.action.timeout? ∧ wire.Grants decision.timeout? := by
  refine ⟨?_, ?_⟩
  · intro wire action h
    obtain ⟨hnanos, hdestination⟩ := Compile.routeAction_eq_compiled_iff.mp h
    have hlimit : ∀ limit, action.timeout? = limit ↔ wire.Grants limit := by
      intro limit
      rw [RouteAction.timeout?, hnanos]
      exact Compile.limit?_eq_iff
    refine ⟨hlimit, ?_, fun limit => TimeoutNanos.lt_of_limit?, ?_, ?_⟩
    · intro d hd hneg
      exact (hlimit (some 0)).mpr (.spent hd (Wire.Duration.asNanos_neg_iff.mpr hneg))
    · intro hgrpc other
      obtain ⟨limit, hsome⟩ := Option.ne_none_iff_exists'.mp hgrpc
      have hsame : Compile.timeoutNanos { wire with timeout := other } =
          Compile.timeoutNanos wire := by
        simp only [Compile.timeoutNanos, hsome, Option.some_or]
      refine Compile.routeAction_eq_compiled_iff.mpr ⟨?_, hdestination⟩
      rw [hnanos, hsame]
    · intro specifier other hother
      have hnanos' : other.timeoutNanos = Compile.timeoutNanos wire :=
        (Compile.routeAction_eq_compiled_iff.mp hother).1
      rw [RouteAction.timeout?, RouteAction.timeout?, hnanos, hnanos']
  · intro reached snapshot path headers index route hs hf
    obtain ⟨update, skipped, hmem, hbuild⟩ :=
      (reached_run answer authority source calls).1.exists_update hs
    have hfound := ((VirtualHost.run_findRoute answer _ _).of_some index route hf).1
    obtain ⟨host, hselected, wireRoute, hwire, hroute⟩ :=
      RouteTable.exists_wire_of_build hbuild (List.mem_of_getElem? hfound)
    obtain ⟨wire, haction, hnanos, hdestination⟩ :=
      Compile.action_eq_compiled_iff.mp (Compile.route_eq_compiled_iff.mp hroute).2
    obtain ⟨cluster, hresult⟩ := Resolver.run_resolve_of_found hs hf
    refine ⟨update, host, wireRoute, wire, ⟨cluster, route.action.timeoutNanos⟩, hmem, hselected,
      hwire, haction, hroute, Compile.routeAction_eq_compiled_iff.mpr ⟨hnanos, hdestination⟩,
      congrArg Reply.resolved hresult, rfl, ?_⟩
    rw [Decision.timeout?, hnanos]
    exact Compile.limit?_eq_iff.mp rfl

-- The limit for gRPC stands before the other duration, and a negative one leaves no time, where
-- zero would leave any.
example :
    let wire : Wire.RouteAction :=
      { cluster := some (.cluster "backend"), timeout := some ⟨3, 0⟩,
        maxGrpcTimeout := some ⟨-1, 0⟩ }
    ((Compile.routeAction wire).value?.map (·.timeout?)) = some (some 0) := by decide

end RpcRouting
