import RpcRouting.Proofs.Compilation
import RpcRouting.Proofs.Wire.Spelling
import RpcRouting.Wire.Upgrade

namespace RpcRouting

open Document (Value)
open Regex (Pattern)
open Wire (Finds Members Spelling)
open Wire.Spelling (Decides Field list mixedMessage optional)

variable {v : ApiVersion}

-- What a document has to say for a part of a route to be installed. Where there are alternatives,
-- `Spelled name value part` says it of the member `name: value`.

inductive PathMatcher.Spelled : String → Value → PathMatcher → Prop where
  | startsWith (start : String) : Spelled "prefix" (.string start) (.startsWith start)
  | exact (path : String) : Spelled "path" (.string path) (.exact path)
  | regex {value : Value} {wire : Wire.RegexMatcher} {pattern : Pattern}
    (hvalue : Wire.Spelling.regexMatcher value wire)
    (hpattern : Pattern.compile? wire.regex = some pattern) :
    Spelled "safe_regex" value (.regex pattern)

inductive HeaderTest.Spelled : String → Value → HeaderTest → Prop where
  | exact (value : String) : Spelled "exact_match" (.string value) (.exact value)
  | regex {value : Value} {wire : Wire.RegexMatcher} {pattern : Pattern}
    (hvalue : Wire.Spelling.regexMatcher value wire)
    (hpattern : Pattern.compile? wire.regex = some pattern) :
    Spelled "safe_regex_match" value (.regex pattern)
  | range {value : Value} {wire : Wire.IntRange} (hvalue : Wire.Spelling.intRange value wire) :
    Spelled "range_match" value (.range ⟨wire.start, wire.stop⟩)
  | present (wanted : Bool) : Spelled "present_match" (.bool wanted) (.present wanted)
  | startsWith (start : String) : Spelled "prefix_match" (.string start) (.startsWith start)
  | endsWith (stop : String) : Spelled "suffix_match" (.string stop) (.endsWith stop)

inductive Destination.Spelled : String → Value → Destination → Prop where
  | cluster (name : String) : Spelled "cluster" (.string name) (.cluster name)
  | weighted {value : Value} {wire : Wire.WeightedCluster}
    (hvalue : Wire.Spelling.weightedCluster value wire) :
    Spelled "weighted_clusters" value (.weighted (wire.clusters.map Compile.clusterWeight))

-- The members that name alternatives.

def PathMatcher.memberNames : ApiVersion → List String
  | .v2 => ["prefix", "path", "regex", "safe_regex"]
  | .v3 => ["prefix", "path", "safe_regex", "connect_matcher"]

def HeaderTest.memberNames : ApiVersion → List String
  | .v2 => ["regex_match", "exact_match", "safe_regex_match", "range_match", "present_match",
      "prefix_match", "suffix_match"]
  | .v3 => ["exact_match", "safe_regex_match", "range_match", "present_match", "prefix_match",
      "suffix_match"]

def HeaderMatcher.Spelled (v : ApiVersion) : Spelling HeaderMatcher :=
  mixedMessage ["name", "invert_match"] fun members header =>
    Field members "name" Wire.Spelling.text "" header.name ∧
    Field members "invert_match" Wire.Spelling.flag false header.invert ∧
    Decides (HeaderTest.memberNames v) members fun name value =>
      HeaderTest.Spelled name value header.test

-- Case has to count, and there must be no test of query parameters.
def RouteMatch.Spelled (v : ApiVersion) : Spelling RouteMatch :=
  mixedMessage ["case_sensitive", "runtime_fraction", "headers", "query_parameters"]
    fun members routeMatch =>
      (∃ caseSensitive, Field members "case_sensitive" (optional Wire.Spelling.flag) none
        caseSensitive ∧ caseSensitive ≠ some false) ∧
      (∃ fraction, Field members "runtime_fraction" (optional Wire.Spelling.runtimeFraction) none
        fraction ∧ routeMatch.fraction = fraction.map Compile.fraction) ∧
      Field members "headers" (list (HeaderMatcher.Spelled v)) [] routeMatch.headers ∧
      Field members "query_parameters" (fun value _ => value = .array []) () () ∧
      Decides (PathMatcher.memberNames v) members fun name value =>
        PathMatcher.Spelled name value routeMatch.path

def RouteAction.Spelled : Spelling RouteAction :=
  mixedMessage ["timeout", "max_grpc_timeout"] fun members action =>
    (∃ timeout limit, Field members "timeout" (optional Wire.Spelling.duration) none timeout ∧
      Field members "max_grpc_timeout" (optional Wire.Spelling.duration) none limit ∧
      action.timeoutNanos =
        Compile.timeoutNanos { timeout := timeout, maxGrpcTimeout := limit }) ∧
    Decides ["cluster", "cluster_header", "weighted_clusters"] members fun name value =>
      Destination.Spelled name value action.destination

def Route.Spelled (v : ApiVersion) : Spelling Route :=
  mixedMessage ["name", "match"] fun members route =>
    (∃ name, Field members "name" Wire.Spelling.text "" name) ∧
    (∃ value, ("match", value) ∈ members ∧ RouteMatch.Spelled v value route.routeMatch) ∧
    Decides ["route", "redirect", "direct_response"] members fun name value =>
      name = "route" ∧ RouteAction.Spelled value route.action

theorem HeaderTest.spelled_of_shared {name header : String} {value : Value} {test : HeaderTest}
    {reader : Wire.Reader (Wire.HeaderSpecifier v)} {wire : Wire.HeaderSpecifier v}
    (hmem : (name, reader) ∈ Wire.HeaderSpecifier.sharedChoices v)
    (hread : reader value = some wire)
    (hcompiled : Compile.headerSpecifier header wire.upgrade = .compiled test) :
    Spelled name value test := by
  simp only [Wire.HeaderSpecifier.sharedChoices, List.mem_cons, Prod.mk.injEq, List.not_mem_nil,
    or_false] at hmem
  rcases hmem with ⟨rfl, rfl⟩ | ⟨rfl, rfl⟩ | ⟨rfl, rfl⟩ | ⟨rfl, rfl⟩ | ⟨rfl, rfl⟩ | ⟨rfl, rfl⟩
  all_goals obtain ⟨a, ha, rfl⟩ := Option.map_eq_some_iff.mp hread
  · cases hcompiled
    cases Finds.text _ _ ha
    exact .exact a
  · obtain ⟨pattern, hpattern, rfl⟩ :=
      Compile.headerSpecifier_safeRegex_eq_compiled_iff.mp hcompiled
    exact .regex (Finds.regexMatcher _ _ ha) hpattern
  · cases hcompiled
    exact .range (Finds.intRange _ _ ha)
  · cases hcompiled
    cases Finds.flag _ _ ha
    exact .present a
  · cases hcompiled
    cases Finds.text _ _ ha
    exact .startsWith a
  · cases hcompiled
    cases Finds.text _ _ ha
    exact .endsWith a

-- The regular expressions of version 2 are read, but nothing is compiled from them.
theorem HeaderTest.spelled {name header : String} {value : Value} {test : HeaderTest}
    {reader : Wire.Reader (Wire.HeaderSpecifier v)} {wire : Wire.HeaderSpecifier v}
    (hmem : (name, reader) ∈ Wire.HeaderSpecifier.choices v) (hread : reader value = some wire)
    (hcompiled : Compile.headerSpecifier header wire.upgrade = .compiled test) :
    Spelled name value test := by
  cases v with
  | v2 =>
    rcases List.mem_cons.mp hmem with hregex | hmem
    · cases hregex
      obtain ⟨a, -, rfl⟩ := Option.map_eq_some_iff.mp hread
      cases hcompiled
    · exact spelled_of_shared hmem hread hcompiled
  | v3 => exact spelled_of_shared hmem hread hcompiled

theorem PathMatcher.spelled_of_shared {name : String} {value : Value} {matcher : PathMatcher}
    {reader : Wire.Reader (Wire.PathSpecifier v)} {wire : Wire.PathSpecifier v}
    (hmem : (name, reader) ∈
      [("prefix", fun value => (Wire.Reader.text value).map .startsWith),
       ("path", fun value => (Wire.Reader.text value).map .path),
       ("safe_regex", fun value => (Wire.RegexMatcher.read value).map .safeRegex)])
    (hread : reader value = some wire)
    (hcompiled : Compile.pathSpecifier wire.upgrade = .compiled matcher) :
    Spelled name value matcher := by
  simp only [List.mem_cons, Prod.mk.injEq, List.not_mem_nil, or_false] at hmem
  rcases hmem with ⟨rfl, rfl⟩ | ⟨rfl, rfl⟩ | ⟨rfl, rfl⟩
  all_goals obtain ⟨a, ha, rfl⟩ := Option.map_eq_some_iff.mp hread
  · cases hcompiled
    cases Finds.text _ _ ha
    exact .startsWith a
  · cases hcompiled
    cases Finds.text _ _ ha
    exact .exact a
  · obtain ⟨pattern, hpattern, rfl⟩ :=
      Compile.pathSpecifier_safeRegex_eq_compiled_iff.mp hcompiled
    exact .regex (Finds.regexMatcher _ _ ha) hpattern

-- Nor is anything compiled from a test for the CONNECT method.
theorem PathMatcher.spelled {name : String} {value : Value} {matcher : PathMatcher}
    {reader : Wire.Reader (Wire.PathSpecifier v)} {wire : Wire.PathSpecifier v}
    (hmem : (name, reader) ∈ Wire.PathSpecifier.choices v) (hread : reader value = some wire)
    (hcompiled : Compile.pathSpecifier wire.upgrade = .compiled matcher) :
    Spelled name value matcher := by
  cases v with
  | v2 =>
    simp only [Wire.PathSpecifier.choices, List.mem_cons, List.not_mem_nil, or_false] at hmem
    rcases hmem with hstart | hpath | hregex | hsafe
    · exact spelled_of_shared (by simp [hstart]) hread hcompiled
    · exact spelled_of_shared (by simp [hpath]) hread hcompiled
    · cases hregex
      obtain ⟨a, -, rfl⟩ := Option.map_eq_some_iff.mp hread
      cases hcompiled
    · exact spelled_of_shared (by simp [hsafe]) hread hcompiled
  | v3 =>
    simp only [Wire.PathSpecifier.choices, List.mem_cons, List.not_mem_nil, or_false] at hmem
    rcases hmem with hstart | hpath | hsafe | hconnect
    · exact spelled_of_shared (by simp [hstart]) hread hcompiled
    · exact spelled_of_shared (by simp [hpath]) hread hcompiled
    · exact spelled_of_shared (by simp [hsafe]) hread hcompiled
    · cases hconnect
      obtain ⟨a, -, rfl⟩ := Option.map_eq_some_iff.mp hread
      cases hcompiled

theorem Destination.spelled {name : String} {value : Value} {destination : Destination}
    {reader : Wire.Reader Wire.ClusterSpecifier} {wire : Wire.ClusterSpecifier}
    (hmem : (name, reader) ∈ Wire.ClusterSpecifier.choices) (hread : reader value = some wire)
    (hcompiled : Compile.destination (some wire) = .compiled destination) :
    Spelled name value destination := by
  simp only [Wire.ClusterSpecifier.choices, List.mem_cons, Prod.mk.injEq, List.not_mem_nil,
    or_false] at hmem
  rcases hmem with ⟨rfl, rfl⟩ | ⟨rfl, rfl⟩ | ⟨rfl, rfl⟩
  all_goals obtain ⟨a, ha, rfl⟩ := Option.map_eq_some_iff.mp hread
  · cases hcompiled
    cases Finds.text _ _ ha
    exact .cluster a
  · cases hcompiled
  · obtain ⟨rfl, -⟩ := Compile.weightedClusters_eq_compiled_iff.mp hcompiled
    exact .weighted (Finds.weightedCluster _ _ ha)

-- From here on by message. What is compiled comes from the first member that names an alternative,
-- since a message in which that member is malformed has no alternative set and is not compiled.

theorem HeaderMatcher.spelled {value : Value} {wire : Wire.HeaderMatcher v} {header : HeaderMatcher}
    (hread : Wire.HeaderMatcher.read v value = some wire)
    (hcompiled : Compile.headerMatcher wire.upgrade = .compiled header) :
    Spelled v value header := by
  obtain ⟨members, rfl, hunique, hname, hinvert, hspecifier⟩ := Finds.headerMatcher v _ _ hread
  obtain ⟨hn, hi, htest⟩ := Compile.headerMatcher_eq_compiled_iff.mp hcompiled
  refine ⟨members, rfl, hunique, hn ▸ hname, hi ▸ hinvert, ?_⟩
  have hnames : HeaderTest.memberNames v = (Wire.HeaderSpecifier.choices v).map Prod.fst := by
    cases v <;> rfl
  rw [hnames]
  cases hs : wire.specifier with
  | none =>
    rw [Wire.HeaderMatcher.upgrade, hs] at htest
    cases htest
  | some specifier =>
    rw [Wire.HeaderMatcher.upgrade, hs] at htest
    refine (Wire.Spelling.decides_of_alternative (hspecifier ▸ hs)).imp ?_
    rintro name value ⟨reader, hmem, hread⟩
    exact HeaderTest.spelled hmem hread htest

theorem headers_spelled {items : List Value} {wires : List (Wire.HeaderMatcher v)}
    {headers : List HeaderMatcher}
    (hread : List.Forall₂ (fun value wire => Wire.HeaderMatcher.read v value = some wire) items wires)
    (hcompiled : (wires.map (·.upgrade)).mapM Compile.headerMatcher = .compiled headers) :
    List.Forall₂ (HeaderMatcher.Spelled v) items headers := by
  induction hread generalizing headers with
  | nil =>
    cases hcompiled
    exact .nil
  | cons hvalue _ ih =>
    obtain ⟨header, rest, hheader, hrest, rfl⟩ := Outcome.mapM_cons_eq_compiled_iff.mp hcompiled
    exact .cons (HeaderMatcher.spelled hvalue hheader) (ih hrest)

theorem RouteMatch.spelled {value : Value} {wire : Wire.RouteMatch v} {routeMatch : RouteMatch}
    (hread : Wire.RouteMatch.read v value = some wire)
    (hcompiled : Compile.routeMatch wire.upgrade = .compiled routeMatch) :
    Spelled v value routeMatch := by
  obtain ⟨members, rfl, hunique, hcase, hfraction, hheaders, hparameters, hpath⟩ :=
    Finds.routeMatch v _ _ hread
  obtain ⟨hnone, hsensitive, hp, hh, hf⟩ := Compile.routeMatch_eq_compiled_iff.mp hcompiled
  refine ⟨members, rfl, hunique, ⟨_, hcase, hsensitive⟩, ⟨_, hfraction, hf⟩, ?_, ?_, ?_⟩
  · refine hheaders.map ?_ ?_
    · rintro value ⟨items, rfl, hitems⟩
      exact ⟨items, rfl, headers_spelled hitems hh⟩
    · intro hempty
      rw [Wire.RouteMatch.upgrade, hempty] at hh
      exact (Outcome.compiled.inj hh).symm
  · refine hparameters.map ?_ fun _ => rfl
    rintro value ⟨items, rfl, hitems⟩
    have hempty : wire.queryParameters = [] := hnone
    rw [hempty, List.forall₂_nil_right_iff] at hitems
    rw [hitems]
  · have hnames : PathMatcher.memberNames v = (Wire.PathSpecifier.choices v).map Prod.fst := by
      cases v <;> rfl
    rw [hnames]
    cases hs : wire.path with
    | none =>
      rw [Wire.RouteMatch.upgrade, hs] at hp
      cases hp
    | some specifier =>
      rw [Wire.RouteMatch.upgrade, hs] at hp
      refine (Wire.Spelling.decides_of_alternative (hpath ▸ hs)).imp ?_
      rintro name value ⟨reader, hmem, hread⟩
      exact PathMatcher.spelled hmem hread hp

theorem RouteAction.spelled {value : Value} {wire : Wire.RouteAction} {action : RouteAction}
    (hread : Wire.RouteAction.read value = some wire)
    (htimeout : action.timeoutNanos = Compile.timeoutNanos wire)
    (hdestination : Compile.destination wire.cluster = .compiled action.destination) :
    Spelled value action := by
  obtain ⟨members, rfl, hunique, ht, hl, hcluster⟩ := Finds.routeAction _ _ hread
  refine ⟨members, rfl, hunique, ⟨_, _, ht, hl, htimeout⟩, ?_⟩
  cases hs : wire.cluster with
  | none =>
    rw [hs] at hdestination
    cases hdestination
  | some specifier =>
    rw [hs] at hdestination
    refine (Wire.Spelling.decides_of_alternative (hcluster ▸ hs)).imp ?_
    rintro name value ⟨reader, hmem, hread⟩
    exact Destination.spelled hmem hread hdestination

theorem Route.spelled {value : Value} {wire : Wire.Route v} {route : Route}
    (hread : Wire.Route.read v value = some wire)
    (hcompiled : Compile.route wire.upgrade = .compiled route) : Spelled v value route := by
  obtain ⟨members, rfl, hunique, hname, hmatch, haction⟩ := Finds.route v _ _ hread
  obtain ⟨hm, ha⟩ := Compile.route_eq_compiled_iff.mp hcompiled
  -- An empty match has no path specifier.
  have hgiven : wire.routeMatch ≠ none := by
    intro hnone
    rw [Wire.Route.upgrade, hnone] at hm
    cases (Compile.routeMatch_eq_compiled_iff.mp hm).2.2.1
  refine ⟨members, rfl, hunique, ⟨_, hname⟩, ?_, ?_⟩
  · rcases hmatch with ⟨value, hmem, ⟨-, hnone⟩ | ⟨wireMatch, hread, hsome⟩⟩ | ⟨-, hnone⟩
    · exact absurd hnone hgiven
    · rw [Wire.Route.upgrade, hsome] at hm
      exact ⟨value, hmem, RouteMatch.spelled hread hm⟩
    · exact absurd hnone hgiven
  · obtain ⟨inner, hinner, htimeout, hdestination⟩ := Compile.action_eq_compiled_iff.mp ha
    refine (Wire.Spelling.decides_of_alternative (haction ▸ hinner)).imp ?_
    rintro name value ⟨reader, hmem, hread⟩
    simp only [Wire.Action.choices, List.mem_cons, Prod.mk.injEq, List.not_mem_nil,
      or_false] at hmem
    rcases hmem with ⟨rfl, rfl⟩ | ⟨rfl, rfl⟩ | ⟨rfl, rfl⟩
    all_goals obtain ⟨a, ha, heq⟩ := Option.map_eq_some_iff.mp hread
    · cases heq
      exact ⟨rfl, RouteAction.spelled ha htimeout hdestination⟩
    · cases heq
    · cases heq

-- Every route that is compiled from a document, in either version, is one that the document spells.
theorem Route.spelled_of_compiled (document : Value) (route : Route) :
    (∀ wire, Wire.Route.read .v3 document = some wire → Compile.route wire = .compiled route →
      Spelled .v3 document route) ∧
    (∀ wire, Wire.Route.read .v2 document = some wire →
      Compile.route wire.upgrade = .compiled route → Spelled .v2 document route) := by
  refine ⟨fun wire hread hcompiled => ?_, fun wire hread hcompiled => spelled hread hcompiled⟩
  rw [← Wire.Route.upgrade_v3 wire] at hcompiled
  exact spelled hread hcompiled

-- A split that names its action before its match. A redirect after the action counts for nothing.
def splitDocument : Value :=
  .object
    [("route", .object
      [("timeout", .object [("seconds", .int 3)]),
       ("weighted_clusters", .object
         [("clusters", .array
           [.object [("weight", .int 1), ("name", .string "blue")], .array [.string "green"]])])]),
     ("redirect", .object []),
     ("match", .object
       [("headers", .array
         [.object [("name", .string "x-env"), ("suffix_match", .string "prod")]]),
        ("path", .string "/svc/call")])]

def splitRoute : Route :=
  ⟨⟨.exact "/svc/call", [⟨"x-env", .endsWith "prod", false⟩], none⟩,
    ⟨Compile.timeoutNanos { timeout := some { seconds := 3 } },
      .weighted [⟨"blue", 1⟩, ⟨"green", 0⟩]⟩⟩

theorem Route.spelled_of_compiled_splitDocument :
    ∃ wire, Wire.Route.read .v3 splitDocument = some wire ∧
      Compile.route wire = .compiled splitRoute ∧ Spelled .v3 splitDocument splitRoute :=
  ⟨_, rfl, rfl, (spelled_of_compiled splitDocument splitRoute).1 _ rfl rfl⟩

-- A member that comes later does not stand in for a malformed one.
example : (Wire.Route.read .v3 (.object
    [("match", .object [("prefix", .int 5), ("path", .string "/svc")]),
     ("route", .object [("cluster", .string "backend")])])).map Compile.route =
      some (.invalid .noPathSpecifier) := rfl

end RpcRouting
