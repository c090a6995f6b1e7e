import RpcRouting.Proofs.Refinement

namespace RpcRouting

open Regex (Pattern)

-- The defect, if it is there.
def Defect.when (defect : Defect) (there : Bool) : List Defect := if there then [defect] else []

namespace Wire

-- Everything that is wrong with a message, in the order in which it counts. No check depends on
-- what another one has found.

def PathSpecifier.defects : PathSpecifier .v3 → List Defect
  | .connect => [.connectMatcher]
  | .safeRegex wire =>
    (Defect.badPathPattern wire.regex).when (Pattern.compile? wire.regex).isNone
  | .startsWith _ => []
  | .path _ => []

def HeaderSpecifier.defects (header : String) : HeaderSpecifier .v3 → List Defect
  | .safeRegex wire =>
    (Defect.badHeaderPattern wire.regex header).when (Pattern.compile? wire.regex).isNone
  | _ => []

def HeaderMatcher.defects (wire : HeaderMatcher .v3) : List Defect :=
  wire.specifier.elim [.noHeaderSpecifier wire.name] (·.defects wire.name)

def RouteMatch.defects (wire : RouteMatch .v3) : List Defect :=
  Defect.caseInsensitive.when (wire.caseSensitive = some false) ++
    wire.path.elim [.noPathSpecifier] (·.defects) ++ wire.headers.flatMap (·.defects)

def WeightedCluster.defects (wire : WeightedCluster) : List Defect :=
  Defect.noClusters.when wire.clusters.isEmpty ++ Defect.zeroWeights.when (wire.total = 0) ++
    (Defect.weightsTooLarge wire.total).when (UInt32.size ≤ wire.total)

def ClusterSpecifier.defects : ClusterSpecifier → List Defect
  | .weightedClusters wire => wire.defects
  | _ => []

def Action.defects : Action → List Defect
  | .route wire => wire.cluster.elim [.noClusterSpecifier] (·.defects)
  | _ => []

-- A match that is not given is the empty one, which has no path specifier.
def Route.defects (wire : Route .v3) : List Defect :=
  (wire.routeMatch.getD {}).defects ++ wire.action.elim [.noAction] (·.defects)

end Wire

namespace Outcome

variable {α β : Type} {m : Outcome α} {defects others : List Defect}

-- What is said to be wrong is the first of some defects, and nothing if there are none.
def Reports (m : Outcome α) (defects : List Defect) : Prop := m.defect? = defects.head?

theorem defect?_eq_some_iff {defect : Defect} :
    m.defect? = some defect ↔ m = .invalid defect := by
  cases m <;> simp [defect?]

theorem Reports.eq_nil_iff (h : m.Reports defects) (hs : m ≠ .skipped) :
    defects = [] ↔ ∃ a, m = .compiled a := by
  rw [← List.head?_eq_none_iff, ← h]
  cases m with
  | compiled a => simp [defect?]
  | invalid defect => simp [defect?]
  | skipped => exact absurd rfl hs

-- A part that is never skipped is looked at before what follows it.
theorem Reports.bind {f : α → Outcome β} (h : m.Reports defects) (hs : m ≠ .skipped)
    (hf : ∀ a, m = .compiled a → (f a).Reports others) :
    (m >>= f).Reports (defects ++ others) := by
  cases m with
  | compiled a =>
    have hnil : defects = [] := List.head?_eq_none_iff.mp h.symm
    rw [hnil, List.nil_append]
    exact hf a rfl
  | invalid defect =>
    obtain ⟨rest, rfl⟩ := List.head?_eq_some_iff.mp h.symm
    rfl
  | skipped => exact absurd rfl hs

theorem reports_map {f : α → β} : (f <$> m).Reports defects ↔ m.Reports defects := by
  cases m <;> rfl

theorem reports_mapM {f : α → Outcome β} {found : α → List Defect} {as : List α}
    (h : ∀ a ∈ as, (f a).Reports (found a)) (hs : ∀ a ∈ as, f a ≠ .skipped) :
    (as.mapM f).Reports (as.flatMap found) := by
  induction as with
  | nil => rfl
  | cons a as ih =>
    rw [List.forall_mem_cons] at h hs
    rw [List.mapM_cons, List.flatMap_cons]
    refine h.1.bind hs.1 fun b _ => ?_
    exact reports_map.mpr (ih h.2 hs.2)

end Outcome

namespace Compile

theorem pathSpecifier_reports (wire : Option (Wire.PathSpecifier .v3)) :
    (pathSpecifier wire).Reports (wire.elim [.noPathSpecifier] (·.defects)) := by
  cases wire with
  | none => rfl
  | some specifier =>
    cases specifier with
    | safeRegex wire =>
      simp only [pathSpecifier, Option.elim_some, Wire.PathSpecifier.defects]
      cases Pattern.compile? wire.regex <;> rfl
    | _ => rfl

theorem headerMatcher_reports (wire : Wire.HeaderMatcher .v3) :
    (headerMatcher wire).Reports wire.defects := by
  refine Outcome.reports_map.mpr ?_
  rw [Wire.HeaderMatcher.defects]
  cases wire.specifier with
  | none => rfl
  | some specifier =>
    cases specifier with
    | safeRegex given =>
      simp only [headerSpecifier, Option.elim_some, Wire.HeaderSpecifier.defects]
      cases Pattern.compile? given.regex <;> rfl
    | _ => rfl

-- Case sensitivity counts before the path, and the path before the headers.
theorem routeMatch_reports {wire : Wire.RouteMatch .v3} (h : wire.queryParameters = []) :
    (routeMatch wire).Reports wire.defects := by
  simp only [routeMatch, h, List.isEmpty_nil, Bool.not_true, Bool.false_eq_true, if_false]
  rw [Wire.RouteMatch.defects, List.append_assoc]
  by_cases hc : wire.caseSensitive = some false
  · simp only [hc, if_true]
    rfl
  · simp only [if_neg hc, Defect.when, decide_eq_true_eq, List.nil_append]
    refine (pathSpecifier_reports wire.path).bind (pathSpecifier_ne_skipped _) fun path _ => ?_
    refine Outcome.reports_map.mpr (Outcome.reports_mapM ?_ ?_)
    · exact fun header _ => headerMatcher_reports header
    · exact fun header _ => headerMatcher_ne_skipped header

theorem weightedClusters_reports (wire : Wire.WeightedCluster) :
    (weightedClusters wire).Reports wire.defects := by
  have hlarge : wire.total > maxTotal ↔ UInt32.size ≤ wire.total := by
    simp only [maxTotal, UInt32.size]
    omega
  simp only [weightedClusters, total_clusterWeight, hlarge, List.isEmpty_map,
    Wire.WeightedCluster.defects, Defect.when, decide_eq_true_eq]
  by_cases he : wire.clusters.isEmpty = true
  · simp only [if_pos he]
    rfl
  · by_cases hz : wire.total = 0
    · simp only [if_neg he, if_pos hz]
      rfl
    · simp only [if_neg he, if_neg hz]
      by_cases hl : UInt32.size ≤ wire.total
      · simp only [if_pos hl]
        rfl
      · simp only [if_neg hl]
        rfl

theorem action_reports (wire : Option Wire.Action) :
    (action wire).Reports (wire.elim [.noAction] (·.defects)) := by
  cases wire with
  | none => rfl
  | some wire =>
    cases wire with
    | route inner =>
      refine Outcome.reports_map.mpr ?_
      rw [Option.elim_some, Wire.Action.defects]
      cases inner.cluster with
      | none => rfl
      | some specifier =>
        cases specifier with
        | weightedClusters split => exact weightedClusters_reports split
        | _ => rfl
    | redirect redirect => rfl
    | directResponse response => rfl

theorem route_reports {wire : Wire.Route .v3}
    (h : (wire.routeMatch.getD {}).queryParameters = []) : (route wire).Reports wire.defects := by
  have hs : routeMatch (wire.routeMatch.getD {}) ≠ .skipped := by
    rw [Ne, routeMatch_eq_skipped_iff, h]
    simp
  exact (routeMatch_reports h).bind hs fun routeMatch' _ =>
    Outcome.reports_map.mpr (action_reports wire.action)

theorem action_eq_skipped_iff {wire : Option Wire.Action} :
    action wire = .skipped ↔ wire.any (·.isPassedOver) = true := by
  constructor
  · exact isPassedOver_of_action
  · intro h
    cases wire with
    | none => cases h
    | some wire =>
      cases wire with
      | route inner =>
        obtain ⟨cluster, timeout, limit⟩ := inner
        cases cluster with
        | none => cases h
        | some specifier =>
          cases specifier with
          | clusterHeader name => rfl
          | _ => cases h
      | redirect redirect => rfl
      | directResponse response => rfl

theorem route_eq_skipped_iff {wire : Wire.Route .v3} :
    route wire = .skipped ↔
      (wire.routeMatch.getD {}).queryParameters ≠ [] ∨
        (wire.routeMatch.getD {}).defects = [] ∧ wire.action.any (·.isPassedOver) = true := by
  have hmap : ∀ routeMatch' : RouteMatch,
      (do return ⟨routeMatch', ← action wire.action⟩ : Outcome Route) = .skipped ↔
        wire.action.any (·.isPassedOver) = true := by
    intro routeMatch'
    rw [← action_eq_skipped_iff]
    cases action wire.action <;> simp [pure, bind, Outcome.bind]
  rw [route, Outcome.bind_eq_skipped_iff, routeMatch_eq_skipped_iff, List.isEmpty_eq_false_iff]
  simp only [hmap, exists_and_right]
  by_cases hq : (wire.routeMatch.getD {}).queryParameters = []
  · have hs : routeMatch (wire.routeMatch.getD {}) ≠ .skipped := by
      rw [Ne, routeMatch_eq_skipped_iff, hq]
      simp
    rw [(routeMatch_reports hq).eq_nil_iff hs]
  · simp only [hq, Ne, not_false_eq_true, true_or]

theorem route_eq_invalid_iff {wire : Wire.Route .v3} {defect : Defect} :
    route wire = .invalid defect ↔
      (wire.routeMatch.getD {}).queryParameters = [] ∧ wire.defects.head? = some defect := by
  by_cases hq : (wire.routeMatch.getD {}).queryParameters = []
  · rw [← Outcome.defect?_eq_some_iff, route_reports hq]
    simp only [hq, true_and]
  · rw [route_eq_skipped_iff.mpr (.inl hq)]
    simp [hq]

theorem exists_route_eq_compiled_iff {wire : Wire.Route .v3} :
    (∃ compiled, route wire = .compiled compiled) ↔
      (wire.routeMatch.getD {}).queryParameters = [] ∧ wire.defects = [] ∧
        wire.action.any (·.isPassedOver) = false := by
  constructor
  · rintro ⟨compiled, hc⟩
    have hs : route wire ≠ .skipped := by simp [hc]
    rw [Ne, route_eq_skipped_iff, not_or, not_not] at hs
    obtain ⟨hq, hpassed⟩ := hs
    have hnil : wire.defects = [] := by
      rw [← List.head?_eq_none_iff, ← route_reports hq, hc]
      rfl
    have hmatch : (wire.routeMatch.getD {}).defects = [] := (List.append_eq_nil_iff.mp hnil).1
    exact ⟨hq, hnil, Bool.eq_false_iff.mpr fun hp => hpassed ⟨hmatch, hp⟩⟩
  · rintro ⟨hq, hnil, hp⟩
    cases hr : route wire with
    | compiled compiled => exact ⟨compiled, rfl⟩
    | invalid defect =>
      have hhead := (route_eq_invalid_iff.mp hr).2
      rw [hnil] at hhead
      cases hhead
    | skipped =>
      rcases route_eq_skipped_iff.mp hr with hne | ⟨-, hpassed⟩
      · exact absurd hq hne
      · rw [hp] at hpassed
        cases hpassed

-- Of all that there may be to say about a route, query parameters come first, then what is wrong
-- with its match, then what is wrong with its action or not supported there. What is not left out
-- and has nothing wrong is compiled. So what is wrong with a match counts whatever the action is.
theorem route_precedence (wire : Wire.Route .v3) :
    (route wire = .skipped ↔
      (wire.routeMatch.getD {}).queryParameters ≠ [] ∨
        (wire.routeMatch.getD {}).defects = [] ∧ wire.action.any (·.isPassedOver) = true) ∧
    (∀ defect, route wire = .invalid defect ↔
      (wire.routeMatch.getD {}).queryParameters = [] ∧ wire.defects.head? = some defect) ∧
    ((∃ compiled, route wire = .compiled compiled) ↔
      (wire.routeMatch.getD {}).queryParameters = [] ∧ wire.defects = [] ∧
        wire.action.any (·.isPassedOver) = false) ∧
    (∀ header, headerMatcher header ≠ .skipped) ∧
    ((wire.routeMatch.getD {}).queryParameters = [] →
      (wire.routeMatch.getD {}).defects ≠ [] →
        ∀ other, ∃ defect, (wire.routeMatch.getD {}).defects.head? = some defect ∧
          route { wire with action := other } = .invalid defect) := by
  refine ⟨route_eq_skipped_iff, fun defect => route_eq_invalid_iff, exists_route_eq_compiled_iff,
    headerMatcher_ne_skipped, ?_⟩
  intro hq hne other
  obtain ⟨defect, rest, hdefects⟩ := List.exists_cons_of_ne_nil hne
  refine ⟨defect, by rw [hdefects, List.head?_cons], route_eq_invalid_iff.mpr ⟨hq, ?_⟩⟩
  rw [Wire.Route.defects, hdefects, List.cons_append, List.head?_cons]

-- A redirect is left out, unless its match is wrong. That the match has two more defects does not
-- show.
example :
    route { routeMatch := some { path := some .connect, headers := [{ name := "x-env" }] },
            action := some (.redirect {}) } = .invalid .connectMatcher := rfl

end Compile

end RpcRouting
