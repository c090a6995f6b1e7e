import RpcRouting.Proofs.Wire.Reader
import RpcRouting.Resolver.Resolver
import RpcRouting.Wire.Reading
import Mathlib.Data.List.Find

namespace RpcRouting.Wire

open Document Reader

-- The value of a field of a message, which `split` takes apart.
def FieldOf (split : Value → Option Members) (name : String) (message value : Value) : Prop :=
  ∃ members, split message = some members ∧ members.lookup name = some value

-- An item of the array that a field of a message holds.
def ItemOf (split : Value → Option Members) (name : String) (message item : Value) : Prop :=
  ∃ items, FieldOf split name message (.array items) ∧ item ∈ items

def HasMember (name : String) (value : Value) : Prop :=
  ∃ members, value = .object members ∧ name ∈ members.map Prod.fst

-- Documents without the members that only one of the versions knows, where they would count.

def HeaderMatcher.IsCommon (header : Value) : Prop := ¬ HasMember "regex_match" header

def RouteMatch.IsCommon (routeMatch : Value) : Prop :=
  ¬ HasMember "regex" routeMatch ∧ ¬ HasMember "connect_matcher" routeMatch ∧
    ∀ header,
      ItemOf (mixedMembers? ["case_sensitive", "runtime_fraction", "headers", "query_parameters"])
        "headers" routeMatch header → HeaderMatcher.IsCommon header

def Route.IsCommon (route : Value) : Prop :=
  ∀ routeMatch, FieldOf (mixedMembers? ["name", "match"]) "match" route routeMatch →
    RouteMatch.IsCommon routeMatch

def VirtualHost.IsCommon (host : Value) : Prop :=
  ∀ route, ItemOf (members? ["name", "domains", "routes"]) "routes" host route →
    Route.IsCommon route

def RouteConfiguration.IsCommon (config : Value) : Prop :=
  ∀ host, ItemOf (members? ["name", "virtual_hosts"]) "virtual_hosts" config host →
    VirtualHost.IsCommon host

-- Two readings agree if both fail, or if both succeed and, on what is common, the second is the
-- image of the first.
def Agree {α β : Type} (common : Prop) (f : α → β) (old : Option α) (new : Option β) : Prop :=
  (old = none ∧ new = none) ∨ ∃ a b, old = some a ∧ new = some b ∧ (common → f a = b)

namespace Agree

variable {α β γ δ : Type} {common : Prop} {f : α → β} {old : Option α} {new : Option β}

theorem refl (old : Option α) : Agree True id old old := by
  cases old with
  | none => exact .inl ⟨rfl, rfl⟩
  | some a => exact .inr ⟨a, a, rfl, rfl, fun _ => rfl⟩

theorem read {a : α} {b : β} (h : common → f a = b) : Agree common f (some a) (some b) :=
  .inr ⟨a, b, rfl, rfl, h⟩

theorem eq_none_iff (h : Agree common f old new) : old = none ↔ new = none := by
  rcases h with ⟨rfl, rfl⟩ | ⟨a, b, rfl, rfl, -⟩ <;> simp

theorem map_eq (h : Agree common f old new) (hc : common) : old.map f = new := by
  rcases h with ⟨rfl, rfl⟩ | ⟨a, b, rfl, rfl, h⟩
  · rfl
  · exact congrArg some (h hc)

theorem mono {narrower : Prop} (h : Agree common f old new) (hn : narrower → common) :
    Agree narrower f old new := by
  rcases h with h | ⟨a, b, ho, hw, h⟩
  · exact .inl h
  · exact .inr ⟨a, b, ho, hw, fun hc => h (hn hc)⟩

theorem bind {common' : Prop} {g : γ → δ} {next : α → Option γ} {next' : β → Option δ}
    (h : Agree common f old new)
    (hnext : ∀ a b, (common → f a = b) → Agree common' g (next a) (next' b)) :
    Agree common' g (old >>= next) (new >>= next') := by
  rcases h with ⟨rfl, rfl⟩ | ⟨a, b, rfl, rfl, h⟩
  · exact .inl ⟨rfl, rfl⟩
  · exact hnext a b h

theorem optional {reader : Reader α} {reader' : Reader β} {value : Value}
    (h : Agree common f (reader value) (reader' value)) :
    Agree common (Option.map f) (Reader.optional reader value) (Reader.optional reader' value) := by
  by_cases hv : value = .null
  · subst hv
    exact read fun _ => rfl
  · simp only [Reader.optional]
    rcases h with ⟨ho, hw⟩ | ⟨a, b, ho, hw, h⟩
    · exact .inl ⟨by rw [ho]; rfl, by rw [hw]; rfl⟩
    · exact .inr ⟨some a, some b, by rw [ho]; rfl, by rw [hw]; rfl, fun hc => congrArg some (h hc)⟩

theorem mapM {common : Value → Prop} {reader : Reader α} {reader' : Reader β}
    (h : ∀ item, Agree (common item) f (reader item) (reader' item)) (items : List Value) :
    Agree (∀ item ∈ items, common item) (List.map f) (items.mapM reader) (items.mapM reader') := by
  induction items with
  | nil => exact read fun _ => rfl
  | cons item rest ih =>
    rw [List.mapM_cons, List.mapM_cons]
    refine (h item).bind fun a b hitem => ih.bind fun as bs hrest => read fun hc => ?_
    rw [List.forall_mem_cons] at hc
    rw [List.map_cons, hitem hc.1, hrest hc.2]

theorem list {common : Value → Prop} {reader : Reader α} {reader' : Reader β}
    (h : ∀ item, Agree (common item) f (reader item) (reader' item)) (value : Value) :
    Agree (∀ items, value = .array items → ∀ item ∈ items, common item) (List.map f)
      (Reader.list reader value) (Reader.list reader' value) := by
  cases value with
  | array items => exact (mapM h items).mono fun hc => hc items rfl
  | _ => exact .inl ⟨rfl, rfl⟩

theorem field {common : Value → Prop} {reader : Reader α} {reader' : Reader β} {d : α} {d' : β}
    (h : ∀ value, Agree (common value) f (reader value) (reader' value)) (hd : f d = d')
    (members : Members) (name : String) :
    Agree (∀ value, members.lookup name = some value → common value) f
      (Wire.field members name reader d) (Wire.field members name reader' d') := by
  unfold Wire.field
  cases hv : members.lookup name with
  | none => exact read fun _ => hd
  | some value => exact (h value).mono fun hc => hc value rfl

end Agree

-- The same member decides in both versions if every member means the same in both.
theorem alternative_bind {α β : Type} {choices : List (String × Reader α)}
    {choices' : List (String × Reader β)} {f : α → Option β} {members : Members}
    (h : ∀ name ∈ members.map Prod.fst,
      (choices.lookup name).map (fun reader value => (reader value).bind f) =
        choices'.lookup name) :
    (alternative choices members).bind f = alternative choices' members := by
  have hnamed : ∀ m ∈ members, (choices.any fun choice => choice.1 == m.1) =
      choices'.any fun choice => choice.1 == m.1 := by
    intro m hm
    rw [any_name_eq_isSome_lookup, any_name_eq_isSome_lookup, ← h m.1 (List.mem_map_of_mem hm),
      Option.isSome_map]
  unfold alternative
  rw [← List.find?_congr hnamed]
  cases hfirst : members.find? fun m => choices.any fun choice => choice.1 == m.1 with
  | none => rfl
  | some first =>
    have hmem : first ∈ members := List.mem_of_find?_eq_some hfirst
    dsimp only
    rw [← h first.1 (List.mem_map_of_mem hmem), Option.bind_assoc, Option.bind_map]
    rfl

-- A choice whose values have a counterpart in the other version.
theorem map_choice {α β γ : Type} (f : α → Option β) {make : γ → α} {make' : γ → β}
    (h : ∀ c, f (make c) = some (make' c)) (reader : Reader γ) :
    (some fun value => (reader value).map make).map
        (fun (reader : Reader α) value => (reader value).bind f) =
      some fun value => (reader value).map make' := by
  have hread : ∀ read : Option γ, (read.map make).bind f = read.map make' := by
    intro read
    cases read with
    | none => rfl
    | some c => exact h c
  simp only [Option.map_some, hread]

theorem PathSpecifier.lookup_choices {name : String} (hr : name ≠ "regex")
    (hc : name ≠ "connect_matcher") :
    ((choices .v2).lookup name).map (fun reader value => (reader value).bind upgrade) =
      (choices .v3).lookup name := by
  simp only [choices, List.lookup_cons, List.lookup_nil, beq_false_of_ne hr, beq_false_of_ne hc]
  cases name == "prefix" with
  | true => exact map_choice upgrade (fun _ => rfl) text
  | false =>
  cases name == "path" with
  | true => exact map_choice upgrade (fun _ => rfl) text
  | false =>
  cases name == "safe_regex" with
  | true => exact map_choice upgrade (fun _ => rfl) RegexMatcher.read
  | false => rfl

theorem HeaderSpecifier.lookup_choices {name : String} (h : name ≠ "regex_match") :
    ((choices .v2).lookup name).map (fun reader value => (reader value).bind upgrade) =
      (choices .v3).lookup name := by
  simp only [choices, sharedChoices, List.lookup_cons, List.lookup_nil, beq_false_of_ne h]
  cases name == "exact_match" with
  | true => exact map_choice upgrade (fun _ => rfl) text
  | false =>
  cases name == "safe_regex_match" with
  | true => exact map_choice upgrade (fun _ => rfl) RegexMatcher.read
  | false =>
  cases name == "range_match" with
  | true => exact map_choice upgrade (fun _ => rfl) IntRange.read
  | false =>
  cases name == "present_match" with
  | true => exact map_choice upgrade (fun _ => rfl) flag
  | false =>
  cases name == "prefix_match" with
  | true => exact map_choice upgrade (fun _ => rfl) text
  | false =>
  cases name == "suffix_match" with
  | true => exact map_choice upgrade (fun _ => rfl) text
  | false => rfl

theorem ne_of_not_hasMember {name other : String} {members : Members}
    (h : ¬ HasMember name (.object members)) (ho : other ∈ members.map Prod.fst) : other ≠ name :=
  fun he => h ⟨members, rfl, he ▸ ho⟩

theorem HeaderMatcher.read_agree (header : Value) :
    Agree (IsCommon header) upgrade (read .v2 header) (read .v3 header) := by
  unfold read
  cases hm : mixedMembers? ["name", "invert_match"] header with
  | none => exact .inl ⟨rfl, rfl⟩
  | some members =>
    obtain ⟨rfl, -⟩ := mixedMembers?_eq_some hm
    refine (Agree.refl (field members "name" text "")).bind fun name _ hname => ?_
    obtain rfl := hname trivial
    refine (Agree.refl (field members "invert_match" flag false)).bind fun invert _ hinvert => ?_
    obtain rfl := hinvert trivial
    refine .read fun hc => ?_
    rw [upgrade, alternative_bind fun other ho =>
      HeaderSpecifier.lookup_choices (ne_of_not_hasMember hc ho)]
    rfl

theorem RouteMatch.read_agree (routeMatch : Value) :
    Agree (IsCommon routeMatch) upgrade (read .v2 routeMatch) (read .v3 routeMatch) := by
  unfold read
  cases hm : mixedMembers? ["case_sensitive", "runtime_fraction", "headers", "query_parameters"]
      routeMatch with
  | none => exact .inl ⟨rfl, rfl⟩
  | some members =>
    obtain ⟨rfl, -⟩ := mixedMembers?_eq_some hm
    refine (Agree.refl (field members "case_sensitive" (optional flag) none)).bind
      fun caseSensitive _ hcase => ?_
    obtain rfl := hcase trivial
    refine (Agree.refl (field members "runtime_fraction" (optional RuntimeFraction.read)
      none)).bind fun fraction _ hfraction => ?_
    obtain rfl := hfraction trivial
    refine (Agree.field (Agree.list HeaderMatcher.read_agree) rfl members "headers").bind
      fun headers headers' hheaders => ?_
    refine (Agree.refl (field members "query_parameters" (list QueryParameterMatcher.read)
      [])).bind fun parameters _ hparameters => ?_
    obtain rfl := hparameters trivial
    refine .read fun hc => ?_
    obtain ⟨hregex, hconnect, hcommon⟩ := hc
    obtain rfl := hheaders fun value hv items hi item hitem =>
      hcommon item ⟨items, ⟨members, hm, hi ▸ hv⟩, hitem⟩
    rw [upgrade, alternative_bind fun other ho => PathSpecifier.lookup_choices
      (ne_of_not_hasMember hregex ho) (ne_of_not_hasMember hconnect ho)]
    rfl

theorem Route.read_agree (route : Value) :
    Agree (IsCommon route) upgrade (read .v2 route) (read .v3 route) := by
  unfold read
  cases hm : mixedMembers? ["name", "match"] route with
  | none => exact .inl ⟨rfl, rfl⟩
  | some members =>
    refine (Agree.refl (field members "name" text "")).bind fun name _ hname => ?_
    obtain rfl := hname trivial
    refine (Agree.field (fun value => (RouteMatch.read_agree value).optional) rfl members
      "match").bind fun routeMatch routeMatch' hmatch => .read fun hc => ?_
    obtain rfl := hmatch fun value hv => hc value ⟨members, hm, hv⟩
    rfl

theorem VirtualHost.read_agree (host : Value) :
    Agree (IsCommon host) upgrade (read .v2 host) (read .v3 host) := by
  unfold read
  cases hm : members? ["name", "domains", "routes"] host with
  | none => exact .inl ⟨rfl, rfl⟩
  | some members =>
    refine (Agree.refl (field members "name" text "")).bind fun name _ hname => ?_
    obtain rfl := hname trivial
    refine (Agree.refl (field members "domains" (list text) [])).bind fun domains _ hdomains => ?_
    obtain rfl := hdomains trivial
    refine (Agree.field (Agree.list Route.read_agree) rfl members "routes").bind
      fun routes routes' hroutes => .read fun hc => ?_
    obtain rfl := hroutes fun value hv items hi item hitem =>
      hc item ⟨items, ⟨members, hm, hi ▸ hv⟩, hitem⟩
    rfl

theorem RouteConfiguration.read_agree (config : Value) :
    Agree (IsCommon config) upgrade (read .v2 config) (read .v3 config) := by
  unfold read
  cases hm : members? ["name", "virtual_hosts"] config with
  | none => exact .inl ⟨rfl, rfl⟩
  | some members =>
    refine (Agree.refl (field members "name" text "")).bind fun name _ hname => ?_
    obtain rfl := hname trivial
    refine (Agree.field (Agree.list VirtualHost.read_agree) rfl members "virtual_hosts").bind
      fun hosts hosts' hhosts => .read fun hc => ?_
    obtain rfl := hhosts fun value hv items hi item hitem =>
      hc item ⟨items, ⟨members, hm, hi ▸ hv⟩, hitem⟩
    rfl

-- Whether a document can be read does not depend on the version. What is common to both versions
-- means the same in both, down to the state that an update with it leads to.
theorem RouteConfiguration.read_eq_of_common (document : Value) :
    (read .v2 document = none ↔ read .v3 document = none) ∧
    (IsCommon document →
      (read .v2 document).map upgrade = read .v3 document ∧
      ∀ old new, read .v2 document = some old → read .v3 document = some new →
        ∀ resolver : Resolver, resolver.update ⟨.v2, old⟩ = resolver.update ⟨.v3, new⟩) := by
  have hagree := read_agree document
  refine ⟨hagree.eq_none_iff, fun hc => ⟨hagree.map_eq hc, ?_⟩⟩
  intro old new ho hn resolver
  have hmap := hagree.map_eq hc
  rw [ho, hn] at hmap
  have hupgrade : old.upgrade = new := Option.some.inj hmap
  simp only [Resolver.update, RouteConfigurationUpdate.upgrade, hupgrade, upgrade_v3]

-- A host given as an array, and a route with two path specifiers, of which the first is malformed.
def commonDocument : Value :=
  .object
    [("virtual_hosts", .array [.array [.string "host", .array [.string "*"], .array
      [.object
        [("match", .object
          [("path", .int 5), ("prefix", .string "/"),
           ("headers", .array
             [.object [("name", .string "x-env"), ("exact_match", .string "prod")]])]),
         ("route", .object [("cluster", .string "backend")])]]]])]

theorem isCommon_commonDocument : RouteConfiguration.IsCommon commonDocument := by
  rintro host ⟨hosts, ⟨members, hm, hl⟩, hhost⟩
  cases hm
  cases hl
  obtain rfl := List.mem_singleton.mp hhost
  rintro route ⟨routes, ⟨members, hm, hl⟩, hroute⟩
  cases hm
  cases hl
  obtain rfl := List.mem_singleton.mp hroute
  rintro routeMatch ⟨members, hm, hl⟩
  cases hm
  cases hl
  refine ⟨?_, ?_, ?_⟩
  · simp [HasMember]
  · simp [HasMember]
  · rintro header ⟨headers, ⟨members, hm, hl⟩, hheader⟩
    cases hm
    cases hl
    obtain rfl := List.mem_singleton.mp hheader
    simp [HeaderMatcher.IsCommon, HasMember]

theorem read_eq_of_common_commonDocument :
    RouteConfiguration.IsCommon commonDocument ∧
      ∃ config, RouteConfiguration.read .v3 commonDocument = some config ∧
        (RouteConfiguration.read .v2 commonDocument).map RouteConfiguration.upgrade =
          some config := by
  have hread : ∃ config, RouteConfiguration.read .v3 commonDocument = some config := ⟨_, rfl⟩
  obtain ⟨config, hc⟩ := hread
  have hagree := RouteConfiguration.read_eq_of_common commonDocument
  exact ⟨isCommon_commonDocument, config, hc, hc ▸ (hagree.2 isCommon_commonDocument).1⟩

end RpcRouting.Wire
