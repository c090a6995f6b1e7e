import RpcRouting.Proofs.Wire.Steady
import RpcRouting.Resolver.Resolver
import RpcRouting.Wire.Reading

namespace RpcRouting.Wire

open Document Reader Schema

def Duration.schema : Schema := message [("seconds", leaf), ("nanos", leaf)] []

theorem Duration.steady : schema.Steady read :=
  steady_twoFields (by decide) steady_int64 steady_int32

def RegexMatcher.schema : Schema := message [("regex", leaf)] []

theorem RegexMatcher.steady : schema.Steady read :=
  steady_message fun _ _ h => by rw [h.field_eq "regex" rfl steady_text]

theorem steady_emptyMessage : (message [] []).Steady emptyMessage := by
  have hread : (message [] []).Steady fun value => members? [] value >>= fun _ => some () :=
    steady_message fun _ _ _ => rfl
  intro value other hsettled hedited
  rw [emptyMessage, emptyMessage, Option.map_eq_bind, Option.map_eq_bind]
  exact hread value other hsettled hedited

def PathSpecifier.schemas : ApiVersion → Schemas
  | .v2 => [("prefix", leaf), ("path", leaf), ("regex", leaf), ("safe_regex", RegexMatcher.schema)]
  | .v3 => [("prefix", leaf), ("path", leaf), ("safe_regex", RegexMatcher.schema),
      ("connect_matcher", message [] [])]

theorem PathSpecifier.steady (v : ApiVersion) : SteadyChoices (schemas v) (choices v) := by
  cases v with
  | v2 =>
    exact .cons ⟨rfl, steady_text.map _⟩ (.cons ⟨rfl, steady_text.map _⟩
      (.cons ⟨rfl, steady_text.map _⟩ (.cons ⟨rfl, RegexMatcher.steady.map _⟩ .nil)))
  | v3 =>
    exact .cons ⟨rfl, steady_text.map _⟩ (.cons ⟨rfl, steady_text.map _⟩
      (.cons ⟨rfl, RegexMatcher.steady.map _⟩ (.cons ⟨rfl, steady_emptyMessage.map _⟩ .nil)))

def IntRange.schema : Schema := message [("start", leaf), ("end", leaf)] []

theorem IntRange.steady : schema.Steady read :=
  steady_twoFields (by decide) steady_int64 steady_int64

def HeaderSpecifier.sharedSchemas : Schemas :=
  [("exact_match", leaf), ("safe_regex_match", RegexMatcher.schema),
    ("range_match", IntRange.schema), ("present_match", leaf), ("prefix_match", leaf),
    ("suffix_match", leaf)]

def HeaderSpecifier.schemas : ApiVersion → Schemas
  | .v2 => ("regex_match", leaf) :: sharedSchemas
  | .v3 => sharedSchemas

theorem HeaderSpecifier.steady (v : ApiVersion) : SteadyChoices (schemas v) (choices v) := by
  have hshared : SteadyChoices sharedSchemas (sharedChoices v) :=
    .cons ⟨rfl, steady_text.map _⟩ (.cons ⟨rfl, RegexMatcher.steady.map _⟩
      (.cons ⟨rfl, IntRange.steady.map _⟩ (.cons ⟨rfl, steady_flag.map _⟩
        (.cons ⟨rfl, steady_text.map _⟩ (.cons ⟨rfl, steady_text.map _⟩ .nil)))))
  cases v with
  | v2 => exact .cons ⟨rfl, steady_text.map _⟩ hshared
  | v3 => exact hshared

def HeaderMatcher.schema (v : ApiVersion) : Schema :=
  message [("name", leaf), ("invert_match", leaf)] (HeaderSpecifier.schemas v)

theorem HeaderMatcher.steady (v : ApiVersion) : (schema v).Steady (read v) :=
  steady_mixedMessage (by cases v <;> decide) fun _ _ h => by
    rw [h.field_eq "name" rfl steady_text, h.alternative_eq (HeaderSpecifier.steady v),
      h.field_eq "invert_match" rfl steady_flag]

def QueryParameterMatcher.schema : Schema := message [("name", leaf), ("present_match", leaf)] []

theorem QueryParameterMatcher.steady : schema.Steady read :=
  steady_twoFields (by decide) steady_text steady_flag.optional

def FractionalPercent.schema : Schema := message [("numerator", leaf), ("denominator", leaf)] []

theorem FractionalPercent.steady : schema.Steady read :=
  steady_twoFields (by decide) steady_uint32 (steady_word _)

def RuntimeFraction.schema : Schema :=
  message [("default_value", FractionalPercent.schema), ("runtime_key", leaf)] []

theorem RuntimeFraction.steady : schema.Steady read :=
  steady_twoFields (by decide) FractionalPercent.steady.optional steady_text

def RouteMatch.schema (v : ApiVersion) : Schema :=
  message
    [("case_sensitive", leaf), ("runtime_fraction", RuntimeFraction.schema),
      ("headers", list (HeaderMatcher.schema v)),
      ("query_parameters", list QueryParameterMatcher.schema)]
    (PathSpecifier.schemas v)

theorem RouteMatch.steady (v : ApiVersion) : (schema v).Steady (read v) :=
  steady_mixedMessage (by cases v <;> decide) fun _ _ h => by
    rw [h.alternative_eq (PathSpecifier.steady v),
      h.field_eq "case_sensitive" rfl steady_flag.optional,
      h.field_eq "runtime_fraction" rfl RuntimeFraction.steady.optional,
      h.field_eq "headers" rfl (HeaderMatcher.steady v).list,
      h.field_eq "query_parameters" rfl QueryParameterMatcher.steady.list]

def ClusterWeight.schema : Schema := message [("name", leaf), ("weight", leaf)] []

theorem ClusterWeight.steady : schema.Steady read :=
  steady_twoFields (by decide) steady_text steady_uint32.optional

def WeightedCluster.schema : Schema :=
  message [("clusters", list ClusterWeight.schema), ("total_weight", leaf)] []

theorem WeightedCluster.steady : schema.Steady read :=
  steady_twoFields (by decide) ClusterWeight.steady.list steady_uint32.optional

def ClusterSpecifier.schemas : Schemas :=
  [("cluster", leaf), ("cluster_header", leaf), ("weighted_clusters", WeightedCluster.schema)]

theorem ClusterSpecifier.steady : SteadyChoices schemas choices :=
  .cons ⟨rfl, steady_text.map _⟩ (.cons ⟨rfl, steady_text.map _⟩
    (.cons ⟨rfl, WeightedCluster.steady.map _⟩ .nil))

def RouteAction.schema : Schema :=
  message [("timeout", Duration.schema), ("max_grpc_timeout", Duration.schema)]
    ClusterSpecifier.schemas

theorem RouteAction.steady : schema.Steady read :=
  steady_mixedMessage (by decide) fun _ _ h => by
    rw [h.alternative_eq ClusterSpecifier.steady,
      h.field_eq "timeout" rfl Duration.steady.optional,
      h.field_eq "max_grpc_timeout" rfl Duration.steady.optional]

def Redirect.schema : Schema := message [("host_redirect", leaf), ("path_redirect", leaf)] []

theorem Redirect.steady : schema.Steady read :=
  steady_twoFields (by decide) steady_text steady_text

def DirectResponse.schema : Schema := message [("status", leaf)] []

theorem DirectResponse.steady : schema.Steady read :=
  steady_message fun _ _ h => by rw [h.field_eq "status" rfl steady_uint32]

def Action.schemas : Schemas :=
  [("route", RouteAction.schema), ("redirect", Redirect.schema),
    ("direct_response", DirectResponse.schema)]

theorem Action.steady : SteadyChoices schemas choices :=
  .cons ⟨rfl, RouteAction.steady.map _⟩ (.cons ⟨rfl, Redirect.steady.map _⟩
    (.cons ⟨rfl, DirectResponse.steady.map _⟩ .nil))

def Route.schema (v : ApiVersion) : Schema :=
  message [("name", leaf), ("match", RouteMatch.schema v)] Action.schemas

theorem Route.steady (v : ApiVersion) : (schema v).Steady (read v) :=
  steady_mixedMessage (by cases v <;> decide) fun _ _ h => by
    rw [h.field_eq "name" rfl steady_text, h.field_eq "match" rfl (RouteMatch.steady v).optional,
      h.alternative_eq Action.steady]

def VirtualHost.schema (v : ApiVersion) : Schema :=
  message [("name", leaf), ("domains", list leaf), ("routes", list (Route.schema v))] []

theorem VirtualHost.steady (v : ApiVersion) : (schema v).Steady (read v) :=
  steady_message fun _ _ h => by
    rw [h.field_eq "name" rfl steady_text, h.field_eq "domains" rfl steady_text.list,
      h.field_eq "routes" rfl (Route.steady v).list]

def RouteConfiguration.schema (v : ApiVersion) : Schema :=
  message [("name", leaf), ("virtual_hosts", list (VirtualHost.schema v))] []

theorem RouteConfiguration.steady (v : ApiVersion) : (schema v).Steady (read v) :=
  steady_twoFields (by decide) steady_text (VirtualHost.steady v).list

-- The outcome of every route of every host.
def RouteConfiguration.outcomes {v : ApiVersion} (config : RouteConfiguration v) :
    List (List (Outcome RpcRouting.Route)) :=
  config.upgrade.virtualHosts.map fun host => host.routes.map Compile.route

-- In a document whose messages name one alternative at most, it does not matter how the members of
-- objects are ordered, nor what else messages hold. Neither changes what is read, if anything is,
-- or what becomes of any route.
theorem RouteConfiguration.read_eq_of_edited (v : ApiVersion) (document : Value)
    (hsettled : (schema v).settled document) :
    (∀ other, document.Reordered other → (schema v).edited document other) ∧
    ∀ other, (schema v).edited document other →
      read v other = read v document ∧
      (read v other).map outcomes = (read v document).map outcomes ∧
      ∀ resolver : Resolver, (read v other).map (fun config => resolver.update ⟨v, config⟩) =
        (read v document).map fun config => resolver.update ⟨v, config⟩ := by
  refine ⟨fun other h => (schema v).of_reordered h, fun other hedited => ?_⟩
  have hread := RouteConfiguration.steady v document other hsettled hedited
  exact ⟨hread, by rw [hread], fun resolver => by rw [hread]⟩

-- A host given as an array, with one route.
def configurationOf (route : Value) (more : Members) : Value :=
  .object (more ++
    [("virtual_hosts", .array [.array [.string "host", .array [.string "*"], .array [route]]])])

def timeoutAction : Value :=
  .object [("cluster", .string "backend"), ("timeout", .object [("seconds", .int 3)])]

def labelledRoute : Value :=
  .object
    [("match", .object [("prefix", .string "/")]),
     ("labels", .object [("team", .string "a"), ("tier", .int 1)]), ("route", timeoutAction)]

-- The same route, for readers that know no more than the messages: with other members in the
-- action and in its timeout, and with the labels, which mean nothing, in another order.
def annotatedAction : Value :=
  .object
    [("timeout", .object [("unit", .string "s"), ("seconds", .int 3)]),
     ("cluster", .string "backend"), ("retry", .array [])]

def annotatedRoute : Value :=
  .object
    [("route", annotatedAction), ("labels", .object [("tier", .int 1), ("team", .string "a")]),
     ("match", .object [("prefix", .string "/")])]

theorem edited_annotatedAction : RouteAction.schema.edited timeoutAction annotatedAction := by
  have htimeout : Duration.schema.edited (.object [("seconds", .int 3)])
      (.object [("unit", .string "s"), ("seconds", .int 3)]) :=
    .members _ [("unit", .string "s")] (.cons (.intro _ (.same _)) .nil) (by decide) (.swap _ _ _)
  exact .members _ [("retry", .array [])]
    (.cons (.intro _ (.same _)) (.cons (.intro _ htimeout) .nil)) (by decide) (.swap _ _ _)

theorem edited_annotatedRoute : (Route.schema .v2).edited labelledRoute annotatedRoute := by
  have hlabels : leaf.edited (.object [("team", .string "a"), ("tier", .int 1)])
      (.object [("tier", .int 1), ("team", .string "a")]) :=
    .object (.cons (.intro _ (.same _)) (.cons (.intro _ (.same _)) .nil)) (.swap _ _ _)
  exact .members _ []
    (.cons (.intro _ (edited_refl _ _)) (.cons (.intro _ hlabels)
      (.cons (.intro _ edited_annotatedAction) .nil)))
    (by decide) (List.reverse_perm _).symm

theorem edited_configurationOf {v : ApiVersion} {route other : Value}
    (h : (Route.schema v).edited route other) :
    (RouteConfiguration.schema v).edited (configurationOf route [("name", .string "routes")])
      (configurationOf other [("revision", .int 7), ("name", .string "routes")]) := by
  have hhost : (VirtualHost.schema v).edited
      (.array [.string "host", .array [.string "*"], .array [route]])
      (.array [.string "host", .array [.string "*"], .array [other]]) :=
    .slots (.field (.same _) (.field (edited_refl _ _) (.field (.items (.cons h .nil)) (.nil _))))
  exact .members _ [("revision", .int 7)]
    (.cons (.intro _ (.same _)) (.cons (.intro _ (.items (.cons hhost .nil))) .nil))
    (List.forall_mem_singleton.mpr ⟨by simp, rfl⟩) (List.perm_append_singleton _ _)

theorem settled_labelledRoute :
    (RouteConfiguration.schema .v2).settled
      (configurationOf labelledRoute [("name", .string "routes")]) := by
  have haction : RouteAction.schema.settled timeoutAction :=
    ⟨by decide, List.forall_mem_cons.mpr ⟨trivial, List.forall_mem_singleton.mpr
      ⟨by decide, List.forall_mem_singleton.mpr trivial⟩⟩⟩
  have hroute : (Route.schema .v2).settled labelledRoute :=
    ⟨by decide, List.forall_mem_cons.mpr ⟨⟨by decide, List.forall_mem_singleton.mpr trivial⟩,
      List.forall_mem_cons.mpr ⟨trivial, List.forall_mem_singleton.mpr haction⟩⟩⟩
  have hhost : (VirtualHost.schema .v2).settled
      (.array [.string "host", .array [.string "*"], .array [labelledRoute]]) := by
    refine List.forall_mem_cons.mpr ⟨trivial, List.forall_mem_cons.mpr ⟨?_,
      List.forall_mem_singleton.mpr ?_⟩⟩
    · exact fun _ _ _ _ => trivial
    · rintro routes ⟨⟩
      exact List.forall_mem_singleton.mpr hroute
  refine ⟨by decide, List.forall_mem_cons.mpr ⟨trivial, List.forall_mem_singleton.mpr ?_⟩⟩
  rintro hosts ⟨⟩
  exact List.forall_mem_singleton.mpr hhost

theorem read_eq_of_edited_annotatedRoute :
    let document := configurationOf labelledRoute [("name", .string "routes")]
    let other := configurationOf annotatedRoute [("revision", .int 7), ("name", .string "routes")]
    (RouteConfiguration.schema .v2).settled document ∧
      (RouteConfiguration.schema .v2).edited document other ∧
      ∃ config, RouteConfiguration.read .v2 document = some config ∧
        RouteConfiguration.read .v2 other = some config := by
  intro document other
  obtain ⟨config, hc⟩ : ∃ config, RouteConfiguration.read .v2 document = some config := ⟨_, rfl⟩
  have hedited := edited_configurationOf edited_annotatedRoute
  have hread := (RouteConfiguration.read_eq_of_edited .v2 document settled_labelledRoute).2 other
    hedited
  exact ⟨settled_labelledRoute, hedited, config, hc, hread.1.trans hc⟩

end RpcRouting.Wire
