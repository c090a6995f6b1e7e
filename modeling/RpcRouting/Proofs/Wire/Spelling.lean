import RpcRouting.Wire.Reading
import RpcRouting.Proofs.Wire.Reader
import Mathlib.Data.List.Forall2

namespace RpcRouting.Wire

open Document

-- What a part of a document says, whoever reads it.
abbrev Spelling (α : Type) := Value → α → Prop

namespace Spelling

variable {α : Type}

def text : Spelling String := fun value s => value = .string s

def flag : Spelling Bool := fun value b => value = .bool b

def int64 : Spelling Int64 := fun value n => value = .int n.toInt

def int32 : Spelling Int32 := fun value n => value = .int n.toInt

def uint32 : Spelling UInt32 := fun value n => value = .int n.toNat

def list (spells : Spelling α) : Spelling (List α) := fun value as =>
  ∃ items, value = .array items ∧ List.Forall₂ spells items as

def optional (spells : Spelling α) : Spelling (Option α) := fun value a =>
  (value = .null ∧ a = none) ∨ ∃ b, spells value b ∧ a = some b

-- No field has two values.
def Unambiguous (fields : List String) (members : Members) : Prop :=
  ∀ name ∈ fields, (members.map Prod.fst).count name ≤ 1

-- A field is given, or it is missing and its default stands.
def Field (members : Members) (name : String) (spells : Spelling α) (default a : α) : Prop :=
  (∃ value, (name, value) ∈ members ∧ spells value a) ∨
    (name ∉ members.map Prod.fst ∧ a = default)

-- A message without alternatives is an object, or the array of its first fields.
def message (fields : List String) (spells : Members → α → Prop) : Spelling α := fun value a =>
  ∃ members, spells members a ∧
    ((value = .object members ∧ Unambiguous fields members) ∨
      ∃ items, value = .array items ∧ items.length ≤ fields.length ∧ members = fields.zip items)

-- A message with alternatives is an object.
def mixedMessage (fields : List String) (spells : Members → α → Prop) : Spelling α :=
  fun value a => ∃ members, value = .object members ∧ Unambiguous fields members ∧ spells members a

-- The messages without alternatives

def duration : Spelling Duration := message ["seconds", "nanos"] fun members d =>
  Field members "seconds" int64 0 d.seconds ∧ Field members "nanos" int32 0 d.nanos

def regexMatcher : Spelling RegexMatcher := message ["regex"] fun members r =>
  Field members "regex" text "" r.regex

def intRange : Spelling IntRange := message ["start", "end"] fun members r =>
  Field members "start" int64 0 r.start ∧ Field members "end" int64 0 r.stop

def denominator : Spelling Denominator := fun value d =>
  ∃ word,
    (word, d) ∈ [("HUNDRED", .hundred), ("TEN_THOUSAND", .tenThousand), ("MILLION", .million)] ∧
      (value = .string word ∨ value = .object [(word, .null)])

def fractionalPercent : Spelling FractionalPercent :=
  message ["numerator", "denominator"] fun members p =>
    Field members "numerator" uint32 0 p.numerator ∧
      Field members "denominator" denominator .hundred p.denominator

def runtimeFraction : Spelling RuntimeFraction :=
  message ["default_value", "runtime_key"] fun members f =>
    Field members "default_value" (optional fractionalPercent) none f.defaultValue ∧
      Field members "runtime_key" text "" f.runtimeKey

def clusterWeight : Spelling ClusterWeight := message ["name", "weight"] fun members c =>
  Field members "name" text "" c.name ∧ Field members "weight" (optional uint32) none c.weight

def weightedCluster : Spelling WeightedCluster :=
  message ["clusters", "total_weight"] fun members w =>
    Field members "clusters" (list clusterWeight) [] w.clusters ∧
      Field members "total_weight" (optional uint32) none w.totalWeight

-- The alternatives of a message

-- The member that names one of the alternatives before any other does.
def First (names : List String) (members : Members) (name : String) (value : Value) : Prop :=
  name ∈ names ∧
    ∃ before after, members = before ++ (name, value) :: after ∧ ∀ m ∈ before, m.1 ∉ names

-- Some member names an alternative, and the first that does is well formed. Nothing that comes
-- later can stand in for it.
def Decides (names : List String) (members : Members) (spells : String → Value → Prop) : Prop :=
  (∃ name value, First names members name value) ∧
    ∀ name value, First names members name value → spells name value

theorem Field.map {β : Type} {members : Members} {name : String} {spells : Spelling α}
    {spells' : Spelling β} {default a : α} {default' b : β}
    (h : Field members name spells default a) (hgiven : ∀ value, spells value a → spells' value b)
    (hmissing : a = default → b = default') : Field members name spells' default' b := by
  rcases h with ⟨value, hmem, hvalue⟩ | ⟨hname, ha⟩
  · exact .inl ⟨value, hmem, hgiven value hvalue⟩
  · exact .inr ⟨hname, hmissing ha⟩

theorem first_iff_find?_eq_some {names : List String} {members : Members} {name : String}
    {value : Value} : First names members name value ↔
      members.find? (fun m => names.contains m.1) = some (name, value) := by
  simp only [First, List.find?_eq_some_iff_append, List.contains_eq_mem, decide_eq_true_eq,
    Bool.not_eq_true', decide_eq_false_iff_not]

theorem decides_of_alternative {choices : List (String × Reader α)} {members : Members} {a : α}
    (h : alternative choices members = some a) :
    Decides (choices.map Prod.fst) members fun name value =>
      ∃ reader, (name, reader) ∈ choices ∧ reader value = some a := by
  have hfind : members.find? (fun m => choices.any fun choice => choice.1 == m.1) =
      members.find? fun m => (choices.map Prod.fst).contains m.1 := by
    refine congrArg (members.find? ·) (funext fun m => ?_)
    rw [Bool.eq_iff_iff]
    simp
  unfold alternative at h
  rw [hfind] at h
  split at h
  case h_1 => cases h
  case h_2 name value hfirst =>
    refine ⟨⟨name, value, first_iff_find?_eq_some.mpr hfirst⟩, fun name' value' hfirst' => ?_⟩
    rw [first_iff_find?_eq_some, hfirst] at hfirst'
    cases hfirst'
    obtain ⟨reader, hlookup, hread⟩ := Option.bind_eq_some_iff.mp h
    obtain ⟨before, after, rfl, -⟩ := List.lookup_eq_some_iff.mp hlookup
    exact ⟨reader, by simp, hread⟩

theorem Decides.imp {names : List String} {members : Members} {p q : String → Value → Prop}
    (h : Decides names members p) (himp : ∀ name value, p name value → q name value) :
    Decides names members q :=
  ⟨h.1, fun name value hfirst => himp name value (h.2 name value hfirst)⟩

end Spelling

-- A reader that finds nothing but what a document says.
def Finds {α : Type} (reader : Reader α) (spells : Spelling α) : Prop :=
  ∀ value a, reader value = some a → spells value a

namespace Finds

variable {α : Type} {reader : Reader α} {spells : Spelling α} {members : Members}

theorem text : Finds Reader.text Spelling.text := by
  intro value s h
  cases value <;> cases h
  rfl

theorem flag : Finds Reader.flag Spelling.flag := by
  intro value b h
  cases value <;> cases h
  rfl

theorem integer {low high : Int} : Finds (Reader.integer low high) fun value n =>
    value = .int n ∧ low ≤ n ∧ n ≤ high := by
  intro value n h
  cases value with
  | int m =>
    simp only [Reader.integer, Option.ite_none_right_eq_some, Bool.and_eq_true,
      decide_eq_true_eq] at h
    obtain ⟨⟨hlow, hhigh⟩, hm⟩ := h
    cases hm
    exact ⟨rfl, hlow, hhigh⟩
  | _ => cases h

theorem int64 : Finds Reader.int64 Spelling.int64 := by
  intro value n h
  obtain ⟨m, hm, rfl⟩ := Option.map_eq_some_iff.mp h
  obtain ⟨rfl, hlow, hhigh⟩ := integer _ _ hm
  have hmin : Int64.minValue.toInt = -9223372036854775808 := rfl
  have hmax : Int64.maxValue.toInt = 9223372036854775807 := rfl
  exact congrArg Value.int (Int64.toInt_ofInt_of_le (by omega) (by omega)).symm

theorem int32 : Finds Reader.int32 Spelling.int32 := by
  intro value n h
  obtain ⟨m, hm, rfl⟩ := Option.map_eq_some_iff.mp h
  obtain ⟨rfl, hlow, hhigh⟩ := integer _ _ hm
  have hmin : Int32.minValue.toInt = -2147483648 := rfl
  have hmax : Int32.maxValue.toInt = 2147483647 := rfl
  exact congrArg Value.int (Int32.toInt_ofInt_of_le (by omega) (by omega)).symm

theorem uint32 : Finds Reader.uint32 Spelling.uint32 := by
  intro value n h
  obtain ⟨m, hm, rfl⟩ := Option.map_eq_some_iff.mp h
  obtain ⟨rfl, hlow, hhigh⟩ := integer _ _ hm
  have hsize : m.toNat < UInt32.size := by omega
  rw [Spelling.uint32, UInt32.toNat_ofNat_of_lt' hsize, Int.toNat_of_nonneg hlow]

theorem list (h : Finds reader spells) : Finds (Reader.list reader) (Spelling.list spells) := by
  intro value as hread
  cases value with
  | array items =>
    refine ⟨items, rfl, ?_⟩
    rw [Reader.list] at hread
    induction items generalizing as with
    | nil =>
      cases hread
      exact .nil
    | cons item items ih =>
      rw [List.mapM_cons] at hread
      obtain ⟨b, hb, hread⟩ := Option.bind_eq_some_iff.mp hread
      obtain ⟨bs, hbs, hread⟩ := Option.bind_eq_some_iff.mp hread
      cases hread
      exact .cons (h item b hb) (ih bs hbs)
  | _ => cases hread

theorem optional (h : Finds reader spells) :
    Finds (Reader.optional reader) (Spelling.optional spells) := by
  intro value a hread
  by_cases hnull : value = .null
  · subst hnull
    cases hread
    exact .inl ⟨rfl, rfl⟩
  · rw [Reader.optional.eq_2 _ _ hnull] at hread
    obtain ⟨b, hb, rfl⟩ := Option.map_eq_some_iff.mp hread
    exact .inr ⟨b, h value b hb, rfl⟩

theorem field (h : Finds reader spells) {name : String} {default a : α}
    (hread : Wire.field members name reader default = some a) :
    Spelling.Field members name spells default a := by
  unfold Wire.field at hread
  split at hread
  case h_1 hlookup =>
    cases hread
    refine .inr ⟨fun hname => ?_, rfl⟩
    obtain ⟨m, hm, rfl⟩ := List.mem_map.mp hname
    simpa using List.lookup_eq_none_iff.mp hlookup m hm
  case h_2 value hlookup =>
    obtain ⟨before, after, rfl, -⟩ := List.lookup_eq_some_iff.mp hlookup
    exact .inl ⟨value, by simp, h value a hread⟩

theorem message {fields : List String} {rest : Members → Option α}
    {spells : Members → α → Prop} (h : ∀ members a, rest members = some a → spells members a) :
    Finds (fun value => members? fields value >>= rest) (Spelling.message fields spells) := by
  intro value a hread
  obtain ⟨members, hsplit, hrest⟩ := Option.bind_eq_some_iff.mp hread
  refine ⟨members, h members a hrest, (members?_eq_some hsplit).imp_left ?_⟩
  rintro ⟨hvalue, hunique⟩
  exact ⟨hvalue, hasRepeated_eq_false_iff.mp hunique⟩

theorem mixedMessage {fields : List String} {rest : Members → Option α}
    {spells : Members → α → Prop} (h : ∀ members a, rest members = some a → spells members a) :
    Finds (fun value => mixedMembers? fields value >>= rest)
      (Spelling.mixedMessage fields spells) := by
  intro value a hread
  obtain ⟨members, hsplit, hrest⟩ := Option.bind_eq_some_iff.mp hread
  obtain ⟨hvalue, hunique⟩ := mixedMembers?_eq_some hsplit
  exact ⟨members, hvalue, hasRepeated_eq_false_iff.mp hunique, h members a hrest⟩

theorem twoFields {β γ : Type} {first second : String} {reader' : Reader β}
    {spells' : Spelling β} {default : α} {default' : β} {make : α → β → γ} {part : γ → α}
    {part' : γ → β} (h : Finds reader spells) (h' : Finds reader' spells')
    (hpart : ∀ a b, part (make a b) = a) (hpart' : ∀ a b, part' (make a b) = b) :
    Finds
      (fun value => do
        let ms ← members? [first, second] value
        return make (← Wire.field ms first reader default)
          (← Wire.field ms second reader' default'))
      (Spelling.message [first, second] fun members c =>
        Spelling.Field members first spells default (part c) ∧
          Spelling.Field members second spells' default' (part' c)) := by
  refine message fun members c hread => ?_
  obtain ⟨a, ha, hread⟩ := Option.bind_eq_some_iff.mp hread
  obtain ⟨b, hb, hread⟩ := Option.bind_eq_some_iff.mp hread
  cases hread
  rw [hpart, hpart']
  exact ⟨h.field ha, h'.field hb⟩

theorem duration : Finds Duration.read Spelling.duration :=
  int64.twoFields int32 (fun _ _ => rfl) (fun _ _ => rfl)

theorem regexMatcher : Finds RegexMatcher.read Spelling.regexMatcher := by
  refine message fun members r hread => ?_
  obtain ⟨regex, hregex, hread⟩ := Option.bind_eq_some_iff.mp hread
  cases hread
  exact text.field hregex

theorem intRange : Finds IntRange.read Spelling.intRange :=
  int64.twoFields int64 (fun _ _ => rfl) (fun _ _ => rfl)

theorem word {words : List (String × α)} : Finds (Reader.word words) fun value a =>
    ∃ name, (name, a) ∈ words ∧ (value = .string name ∨ value = .object [(name, .null)]) := by
  intro value a hread
  unfold Reader.word at hread
  split at hread
  case h_1 name =>
    obtain ⟨before, after, rfl, -⟩ := List.lookup_eq_some_iff.mp hread
    exact ⟨name, by simp, .inl rfl⟩
  case h_2 name =>
    obtain ⟨before, after, rfl, -⟩ := List.lookup_eq_some_iff.mp hread
    exact ⟨name, by simp, .inr rfl⟩
  case h_3 => cases hread

theorem denominator : Finds Denominator.read Spelling.denominator := word

theorem fractionalPercent : Finds FractionalPercent.read Spelling.fractionalPercent :=
  uint32.twoFields denominator (fun _ _ => rfl) (fun _ _ => rfl)

theorem runtimeFraction : Finds RuntimeFraction.read Spelling.runtimeFraction :=
  fractionalPercent.optional.twoFields text (fun _ _ => rfl) (fun _ _ => rfl)

theorem clusterWeight : Finds ClusterWeight.read Spelling.clusterWeight :=
  text.twoFields uint32.optional (fun _ _ => rfl) (fun _ _ => rfl)

theorem weightedCluster : Finds WeightedCluster.read Spelling.weightedCluster :=
  clusterWeight.list.twoFields uint32.optional (fun _ _ => rfl) (fun _ _ => rfl)

-- Of a message with alternatives the fields are found so. Which alternative is set is still for
-- its members to say.

theorem headerMatcher (v : ApiVersion) : Finds (HeaderMatcher.read v)
    (Spelling.mixedMessage ["name", "invert_match"] fun members header =>
      Spelling.Field members "name" Spelling.text "" header.name ∧
      Spelling.Field members "invert_match" Spelling.flag false header.invert ∧
      header.specifier = alternative (HeaderSpecifier.choices v) members) := by
  refine mixedMessage fun members header hread => ?_
  obtain ⟨name, hname, hread⟩ := Option.bind_eq_some_iff.mp hread
  obtain ⟨invert, hinvert, hread⟩ := Option.bind_eq_some_iff.mp hread
  cases hread
  exact ⟨text.field hname, flag.field hinvert, rfl⟩

theorem routeMatch (v : ApiVersion) : Finds (RouteMatch.read v)
    (Spelling.mixedMessage ["case_sensitive", "runtime_fraction", "headers", "query_parameters"]
      fun members routeMatch =>
        Spelling.Field members "case_sensitive" (Spelling.optional Spelling.flag) none
          routeMatch.caseSensitive ∧
        Spelling.Field members "runtime_fraction" (Spelling.optional Spelling.runtimeFraction) none
          routeMatch.runtimeFraction ∧
        Spelling.Field members "headers"
          (Spelling.list fun value header => HeaderMatcher.read v value = some header) []
          routeMatch.headers ∧
        Spelling.Field members "query_parameters"
          (Spelling.list fun value parameter => QueryParameterMatcher.read value = some parameter)
          [] routeMatch.queryParameters ∧
        routeMatch.path = alternative (PathSpecifier.choices v) members) := by
  refine mixedMessage fun members routeMatch hread => ?_
  obtain ⟨caseSensitive, hcase, hread⟩ := Option.bind_eq_some_iff.mp hread
  obtain ⟨fraction, hfraction, hread⟩ := Option.bind_eq_some_iff.mp hread
  obtain ⟨headers, hheaders, hread⟩ := Option.bind_eq_some_iff.mp hread
  obtain ⟨parameters, hparameters, hread⟩ := Option.bind_eq_some_iff.mp hread
  cases hread
  exact ⟨flag.optional.field hcase, runtimeFraction.optional.field hfraction,
    (list fun _ _ h => h).field hheaders, (list fun _ _ h => h).field hparameters, rfl⟩

theorem routeAction : Finds RouteAction.read
    (Spelling.mixedMessage ["timeout", "max_grpc_timeout"] fun members action =>
      Spelling.Field members "timeout" (Spelling.optional Spelling.duration) none action.timeout ∧
      Spelling.Field members "max_grpc_timeout" (Spelling.optional Spelling.duration) none
        action.maxGrpcTimeout ∧
      action.cluster = alternative ClusterSpecifier.choices members) := by
  refine mixedMessage fun members action hread => ?_
  obtain ⟨timeout, htimeout, hread⟩ := Option.bind_eq_some_iff.mp hread
  obtain ⟨limit, hlimit, hread⟩ := Option.bind_eq_some_iff.mp hread
  cases hread
  exact ⟨duration.optional.field htimeout, duration.optional.field hlimit, rfl⟩

theorem route (v : ApiVersion) : Finds (Route.read v)
    (Spelling.mixedMessage ["name", "match"] fun members route =>
      Spelling.Field members "name" Spelling.text "" route.name ∧
      Spelling.Field members "match"
        (Spelling.optional fun value routeMatch => RouteMatch.read v value = some routeMatch) none
        route.routeMatch ∧
      route.action = alternative Action.choices members) := by
  refine mixedMessage fun members route hread => ?_
  obtain ⟨name, hname, hread⟩ := Option.bind_eq_some_iff.mp hread
  obtain ⟨routeMatch, hmatch, hread⟩ := Option.bind_eq_some_iff.mp hread
  cases hread
  exact ⟨text.field hname, (optional fun _ _ h => h).field hmatch, rfl⟩

end Finds

end RpcRouting.Wire
