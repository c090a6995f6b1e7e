import RpcRouting.Proofs.HostSelection
import RpcRouting.Proofs.Regex.Occurrence
import RpcRouting.Regex.Pattern
import RpcRouting.Resolver.Interpretation

namespace RpcRouting.Wire

-- The test that is made: some part of the text matches the pattern between the two ends.
def fitsAnchored (pattern text : String) : Bool :=
  (Regex.Syntax.parse? (Regex.anchored pattern)).any fun e => Regex.Occurs e text.toList

-- The test that is meant: the pattern by itself matches the text from the first to the last
-- character.
def fitsWhole (pattern text : String) : Bool :=
  (Regex.Syntax.parse? pattern.toList).any fun e => Regex.Covers e text.toList

-- A pattern that can be read by itself, without what is put around it.
def Standalone (pattern : String) : Prop := (Regex.Syntax.parse? pattern.toList).isSome

section

variable {fits fits' : String → String → Bool} {path : String} {headers : Headers}

theorem PathSpecifier.admits_congr {wire : PathSpecifier .v3}
    (h : ∀ pattern, wire.pattern? = some pattern → ∀ text, fits pattern text = fits' pattern text) :
    wire.admits fits path = wire.admits fits' path := by
  cases wire with
  | safeRegex wire => exact h wire.regex rfl path
  | _ => rfl

theorem HeaderSpecifier.admits_congr {wire : HeaderSpecifier .v3}
    (h : ∀ pattern, wire.pattern? = some pattern → ∀ text, fits pattern text = fits' pattern text)
    (value : String) : wire.admits fits value = wire.admits fits' value := by
  cases wire with
  | safeRegex wire => exact h wire.regex rfl value
  | _ => rfl

theorem HeaderMatcher.admits_congr {wire : HeaderMatcher .v3}
    (h : ∀ pattern, wire.specifier.bind (·.pattern?) = some pattern →
      ∀ text, fits pattern text = fits' pattern text) :
    wire.admits fits headers = wire.admits fits' headers := by
  unfold HeaderMatcher.admits
  cases hs : wire.specifier with
  | none => rfl
  | some specifier =>
    cases headers.value? wire.name with
    | none => cases specifier <;> rfl
    | some value =>
      rw [hs] at h
      simp only [HeaderSpecifier.admits_congr h value]

theorem RouteMatch.admits_congr {wire : RouteMatch .v3}
    (h : ∀ pattern ∈ wire.patterns, ∀ text, fits pattern text = fits' pattern text) :
    wire.admits fits path headers = wire.admits fits' path headers := by
  simp only [RouteMatch.patterns, List.mem_append, Option.mem_toList, List.mem_filterMap] at h
  have hpath : wire.path.any (·.admits fits path) = wire.path.any (·.admits fits' path) := by
    cases hp : wire.path with
    | none => rfl
    | some specifier =>
      rw [hp] at h
      exact PathSpecifier.admits_congr fun pattern hs => h pattern (.inl hs)
  have hheaders :
      wire.headers.all (·.admits fits headers) = wire.headers.all (·.admits fits' headers) := by
    rw [Bool.eq_iff_iff, List.all_eq_true, List.all_eq_true]
    refine forall₂_congr fun header hh => ?_
    rw [HeaderMatcher.admits_congr fun pattern hs => h pattern (.inr ⟨header, hh, hs⟩)]
  rw [RouteMatch.admits, RouteMatch.admits, hpath, hheaders]

theorem Route.decideFirst_congr {wires : List (Route .v3)}
    (h : ∀ wire ∈ wires, wire.isPassedOver = false →
      ∀ pattern ∈ (wire.routeMatch.getD {}).patterns,
        ∀ text, fits pattern text = fits' pattern text) :
    decideFirst fits path headers wires = decideFirst fits' path headers wires := by
  induction wires with
  | nil => rfl
  | cons wire rest ih =>
    rw [List.forall_mem_cons] at h
    rw [decideFirst, decideFirst, ih h.2]
    cases hp : wire.isPassedOver with
    | true => rfl
    | false => rw [RouteMatch.admits_congr (h.1 hp)]

-- An interpretation depends on the tests with the patterns of the selected host only.
theorem RouteConfiguration.interpret_congr {config : RouteConfiguration .v3} {authority : String}
    (h : ∀ pattern ∈ config.patterns authority, ∀ text, fits pattern text = fits' pattern text) :
    config.interpret fits path headers authority =
      config.interpret fits' path headers authority := by
  unfold RouteConfiguration.interpret
  unfold RouteConfiguration.patterns at h
  split
  · rename_i host hbest
    rw [hbest] at h
    apply Route.decideFirst_congr
    intro wire hw hp pattern hpattern
    apply h pattern
    exact List.mem_flatMap.mpr ⟨wire, List.mem_filter.mpr ⟨hw, by rw [hp]; rfl⟩, hpattern⟩
  · rfl

end

namespace VirtualHost

variable {v : ApiVersion} {hosts : List (VirtualHost v)} {authority : String}
  {host : VirtualHost v}

theorem isBest_iff :
    isBest hosts authority host = true ↔
      ∃ strength, host.Matches authority strength ∧
        ∀ other ∈ hosts, ∀ found, other.Matches authority found → found ≤ strength := by
  simp only [isBest, List.any_eq_true, Option.any_eq_true, List.all_eq_true, Option.all_eq_true,
    Bool.not_eq_true', ← Bool.not_eq_true, DomainMatch.weaker_iff_lt, not_lt, Matches]
  constructor
  · rintro ⟨domain, hd, strength, hs, hall⟩
    refine ⟨strength, ⟨domain, hd, hs⟩, ?_⟩
    rintro other ho found ⟨rival, hr, hf⟩
    exact hall other ho rival hr found hf
  · rintro ⟨strength, ⟨domain, hd, hs⟩, hall⟩
    exact ⟨domain, hd, strength, hs,
      fun other ho rival hr found hf => hall other ho found ⟨rival, hr, hf⟩⟩

-- The first best host is the one that selection keeps.
theorem best?_eq_select? (hosts : List (VirtualHost v)) (authority : String) :
    best? hosts authority = select? hosts authority := by
  ext host
  rw [select?_eq_some_iff, best?, List.find?_eq_some_iff_getElem]
  constructor
  · rintro ⟨hbest, n, hn, rfl, hbefore⟩
    obtain ⟨strength, hattained, hgreatest⟩ := isBest_iff.mp hbest
    refine ⟨n, strength, by simp, hattained, hgreatest, ?_⟩
    intro k hk other ho hother
    obtain ⟨hlt, rfl⟩ := List.getElem?_eq_some_iff.mp ho
    have hnot := hbefore k hk
    rw [isBest_iff.mpr ⟨strength, hother, hgreatest⟩] at hnot
    cases hnot
  · rintro ⟨n, strength, h⟩
    obtain ⟨hn, rfl⟩ := List.getElem?_eq_some_iff.mp h.stands
    refine ⟨isBest_iff.mpr ⟨strength, h.attained, h.greatest⟩, n, hn, rfl, ?_⟩
    intro k hk
    rw [Bool.not_eq_true', ← Bool.not_eq_true, isBest_iff]
    rintro ⟨found, hfound, hall⟩
    have hle : strength ≤ found := hall _ h.mem strength h.attained
    have hlt : found < strength :=
      h.lt_of_before (List.mem_take_iff_getElem.mpr ⟨k, by omega, rfl⟩) hfound
    exact absurd hle (not_le.mpr hlt)

end VirtualHost

end RpcRouting.Wire
