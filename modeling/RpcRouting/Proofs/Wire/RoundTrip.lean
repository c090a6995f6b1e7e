import RpcRouting.Proofs.Document.Json.RoundTrip
import RpcRouting.Proofs.Wire.Reader
import RpcRouting.Wire.Reading
import RpcRouting.Wire.Writing

namespace RpcRouting.Wire

open Document Reader

-- The names of the alternatives of each message, in both versions.
def alternativeNames : List (List String) :=
  [(PathSpecifier.choices .v2).map Prod.fst, (PathSpecifier.choices .v3).map Prod.fst,
    (HeaderSpecifier.choices .v2).map Prod.fst, (HeaderSpecifier.choices .v3).map Prod.fst,
    ClusterSpecifier.choices.map Prod.fst, Action.choices.map Prod.fst]

-- No name stands twice, and of the alternatives of a message there is one at most.
def Tidy (names : List String) : Prop :=
  names.Nodup ∧ ∀ group ∈ alternativeNames, (names.filter group.contains).length ≤ 1

instance (names : List String) : Decidable (Tidy names) := inferInstanceAs (Decidable (_ ∧ _))

variable {v : ApiVersion} {α : Type} {depth : Nat} {members : Members}

theorem hasRepeated_eq_false (h : (members.map Prod.fst).Nodup) (names : List String) :
    hasRepeated names members = false :=
  hasRepeated_eq_false_iff.mpr fun name _ => List.nodup_iff_count.mp h name

theorem members?_of_plain (h : Value.Plain Tidy depth (.object members)) (names : List String) :
    members? names (.object members) = some members := by
  cases h with
  | object hnames _ => rw [members?, hasRepeated_eq_false hnames.1]; rfl

theorem mixedMembers?_of_plain (h : Value.Plain Tidy depth (.object members))
    (names : List String) : mixedMembers? names (.object members) = some members := by
  cases h with
  | object hnames hmembers =>
    have hreadable : ∀ m ∈ members, m.2.readable = true := fun m hm => (hmembers m hm).readable
    rw [mixedMembers?, hasRepeated_eq_false hnames.1]
    simp +contextual [hreadable]

-- What is written as a tree of at most `depth` levels and read again as it was.
structure Faithful (depth : Nat) (reader : Reader α) (write : α → Value) : Prop where
  plain : ∀ a more, Value.Plain Tidy (more + depth) (write a)
  read : ∀ a, reader (write a) = some a

theorem faithful_text : Faithful 0 text .string where
  plain s _ := .string s
  read _ := rfl

theorem faithful_flag : Faithful 0 flag .bool where
  plain b _ := .bool b
  read _ := rfl

theorem integer_int {low high n : Int} (hlow : low ≤ n) (hhigh : n ≤ high) :
    integer low high (.int n) = some n := by
  simp [integer, hlow, hhigh]

theorem faithful_int64 : Faithful 0 int64 fun n => .int n.toInt where
  plain n _ := .int n.minValue_le_toInt (Int.lt_of_le_of_lt n.toInt_le (by decide))
  read n := by
    rw [int64, integer_int n.minValue_le_toInt n.toInt_le, Option.map_some, Int64.ofInt_toInt]

theorem faithful_int32 : Faithful 0 int32 fun n => .int n.toInt where
  plain n _ := .int (Int.le_trans (by decide) n.minValue_le_toInt)
    (Int.lt_of_le_of_lt n.toInt_le (by decide))
  read n := by
    rw [int32, integer_int n.minValue_le_toInt n.toInt_le, Option.map_some, Int32.ofInt_toInt]

theorem faithful_uint32 : Faithful 0 uint32 writeNat32 where
  plain n _ := .int (Int.le_trans (by decide) (Int.natCast_nonneg n.toNat))
    (Int.lt_trans (Int.ofNat_lt.mpr n.toNat_lt_size) (by decide))
  read n := by
    have hsize := n.toNat_lt_size
    rw [uint32, writeNat32, integer_int (by omega) (by omega), Option.map_some, Int.toNat_natCast,
      UInt32.ofNat_toNat]

namespace Faithful

variable {reader : Reader α} {write : α → Value}

theorem optional (h : Faithful depth reader write) (hnull : reader .null = none) :
    Faithful depth (Reader.optional reader) (writeOptional write) where
  plain a more := by
    cases a with
    | none => exact .null
    | some a => exact h.plain a more
  read a := by
    cases a with
    | none => rfl
    | some a =>
      have hne : write a ≠ .null := by
        intro hwrite
        have hread := h.read a
        rw [hwrite, hnull] at hread
        cases hread
      rw [writeOptional, Reader.optional.eq_2 _ _ hne, h.read a]
      rfl

theorem list (h : Faithful depth reader write) :
    Faithful (depth + 1) (Reader.list reader) (writeList write) where
  plain items more := by
    refine .array fun item hitem => ?_
    obtain ⟨a, -, rfl⟩ := List.mem_map.mp hitem
    exact h.plain a more
  read items := by
    rw [writeList, Reader.list]
    induction items with
    | nil => rfl
    | cons item items ih => simp [h.read, ih]

end Faithful

theorem field_cons_self (name : String) (value : Value) (reader : Reader α) (default : α) :
    field ((name, value) :: members) name reader default = reader value := by
  simp [field]

theorem field_cons_ne {name other : String} (h : name ≠ other) (value : Value) (reader : Reader α)
    (default : α) :
    field ((other, value) :: members) name reader default = field members name reader default := by
  simp [field, List.lookup_cons, beq_false_of_ne h]

theorem plain_deeper {value : Value} {deeper : Nat}
    (h : ∀ more, Value.Plain Tidy (more + depth) value) (hle : depth ≤ deeper) (more : Nat) :
    Value.Plain Tidy (more + deeper) value := by
  have hplain := h (more + (deeper - depth))
  rwa [Nat.add_assoc, Nat.sub_add_cancel hle] at hplain

theorem Faithful.deeper {reader : Reader α} {write : α → Value} {deeper : Nat}
    (h : Faithful depth reader write) (hle : depth ≤ deeper) : Faithful deeper reader write where
  plain a := plain_deeper (h.plain a) hle
  read := h.read

-- Messages without alternatives

theorem faithful_oneField {β : Type} {name : String} {reader : Reader α} {write : α → Value}
    {default : α} {make : α → β} {part : β → α} (hmake : ∀ b, make (part b) = b)
    (htidy : Tidy [name]) (h : Faithful depth reader write) :
    Faithful (depth + 1)
      (fun v => do
        let ms ← members? [name] v
        return make (← field ms name reader default))
      (fun b => .object [(name, write (part b))]) := by
  have hplain : ∀ b more,
      Value.Plain Tidy (more + (depth + 1)) (.object [(name, write (part b))]) := fun b more =>
    .object htidy (List.forall_mem_singleton.mpr (h.plain (part b) more))
  refine ⟨hplain, fun b => ?_⟩
  simp [members?_of_plain (hplain b 0), field_cons_self, h.read, hmake]

theorem faithful_twoFields {β γ : Type} {first second : String} {reader : Reader α}
    {reader' : Reader β} {write : α → Value} {write' : β → Value} {default : α} {default' : β}
    {make : α → β → γ} {part : γ → α} {part' : γ → β} (hmake : ∀ c, make (part c) (part' c) = c)
    (htidy : Tidy [first, second]) (h : Faithful depth reader write)
    (h' : Faithful depth reader' write') :
    Faithful (depth + 1)
      (fun v => do
        let ms ← members? [first, second] v
        return make (← field ms first reader default) (← field ms second reader' default'))
      (fun c => .object [(first, write (part c)), (second, write' (part' c))]) := by
  have hne : second ≠ first := by
    rintro rfl
    simpa using htidy.1
  have hplain : ∀ c more, Value.Plain Tidy (more + (depth + 1))
      (.object [(first, write (part c)), (second, write' (part' c))]) := fun c more =>
    .object htidy (by
      rw [List.forall_mem_cons, List.forall_mem_singleton]
      exact ⟨h.plain (part c) more, h'.plain (part' c) more⟩)
  refine ⟨hplain, fun c => ?_⟩
  simp [members?_of_plain (hplain c 0), field_cons_self, field_cons_ne hne, h.read, h'.read, hmake]

theorem faithful_emptyMessage : Faithful 1 emptyMessage fun _ => .object [] where
  plain _ _ := .object (show Tidy [] by decide) (by simp)
  read _ := rfl

theorem Duration.faithful : Faithful 1 read write :=
  faithful_twoFields (fun _ => rfl) (by decide) faithful_int64 faithful_int32

theorem RegexMatcher.faithful : Faithful 1 read write :=
  faithful_oneField (fun _ => rfl) (by decide) faithful_text

theorem IntRange.faithful : Faithful 1 read write :=
  faithful_twoFields (fun _ => rfl) (by decide) faithful_int64 faithful_int64

theorem QueryParameterMatcher.faithful : Faithful 1 read write :=
  faithful_twoFields (fun _ => rfl) (by decide) faithful_text (faithful_flag.optional rfl)

theorem Denominator.faithful : Faithful 0 read write where
  plain d more := by
    cases d <;> exact .string _
  read d := by
    cases d <;> rfl

theorem FractionalPercent.faithful : Faithful 1 read write :=
  faithful_twoFields (fun _ => rfl) (by decide) faithful_uint32 Denominator.faithful

theorem RuntimeFraction.faithful : Faithful 2 read write :=
  faithful_twoFields (fun _ => rfl) (by decide) (FractionalPercent.faithful.optional rfl)
    (faithful_text.deeper (by decide))

theorem ClusterWeight.faithful : Faithful 1 read write :=
  faithful_twoFields (fun _ => rfl) (by decide) faithful_text (faithful_uint32.optional rfl)

theorem WeightedCluster.faithful : Faithful 3 read write :=
  faithful_twoFields (fun _ => rfl) (by decide) ClusterWeight.faithful.list
    ((faithful_uint32.optional rfl).deeper (by decide))

theorem Redirect.faithful : Faithful 1 read write :=
  faithful_twoFields (fun _ => rfl) (by decide) faithful_text faithful_text

theorem DirectResponse.faithful : Faithful 1 read write :=
  faithful_oneField (fun _ => rfl) (by decide) faithful_uint32

-- Messages with alternatives

-- An alternative that is set is written as a member that its choice reads again.
structure FaithfulChoice (depth : Nat) (choices : List (String × Reader α))
    (member : α → String × Value) : Prop where
  plain : ∀ a more, Value.Plain Tidy (more + depth) (member a).2
  read : ∀ a, (choices.lookup (member a).1).bind (fun reader => reader (member a).2) = some a

namespace FaithfulChoice

variable {choices : List (String × Reader α)} {member : α → String × Value}
  {before after : Members}

theorem lookup_isSome (h : FaithfulChoice depth choices member) (a : α) :
    (choices.lookup (member a).1).isSome = true :=
  Option.isSome_of_isSome_bind (f := fun reader => reader (member a).2) (by rw [h.read a]; rfl)

theorem name_mem (h : FaithfulChoice depth choices member) (a : α) :
    (member a).1 ∈ choices.map Prod.fst := by
  obtain ⟨choice, hchoice, hname⟩ := List.lookup_isSome_iff.mp (h.lookup_isSome a)
  exact List.mem_map.mpr ⟨choice, hchoice, (beq_iff_eq.mp hname).symm⟩

theorem deeper {deeper : Nat} (h : FaithfulChoice depth choices member) (hle : depth ≤ deeper) :
    FaithfulChoice deeper choices member where
  plain a := plain_deeper (h.plain a) hle
  read := h.read

theorem lookup_eq_none_of_not_mem {name : String} (hname : name ∉ choices.map Prod.fst) :
    choices.lookup name = none := by
  refine List.lookup_eq_none_iff.mpr fun choice hchoice => bne_iff_ne.mpr ?_
  rintro rfl
  exact hname (List.mem_map_of_mem hchoice)

-- The fields beside an alternative decide nothing.
theorem alternative_append (h : FaithfulChoice depth choices member) (a : Option α)
    (hfields : ∀ m ∈ before ++ after, m.1 ∉ choices.map Prod.fst) :
    alternative choices (before ++ (a.map member).toList ++ after) = a := by
  have hskip : ∀ fields : Members, (∀ m ∈ fields, m.1 ∉ choices.map Prod.fst) →
      fields.find? (fun m => choices.any fun choice => choice.1 == m.1) = none := by
    refine fun fields hfields => List.find?_eq_none.mpr fun m hm => ?_
    rw [any_name_eq_isSome_lookup, lookup_eq_none_of_not_mem (hfields m hm)]
    exact Bool.false_ne_true
  obtain ⟨hbefore, hafter⟩ := List.forall_mem_append.mp hfields
  rw [alternative, List.find?_append, List.find?_append, hskip before hbefore, hskip after hafter]
  cases a with
  | none => rfl
  | some a =>
    have hfirst : [member a].find? (fun m => choices.any fun choice => choice.1 == m.1) =
        some (member a) := by
      rw [List.find?_singleton, any_name_eq_isSome_lookup, h.lookup_isSome a]
      rfl
    simp [hfirst, h.read a]

-- Nor does the alternative decide what is in a field.
theorem field_append {β : Type} (h : FaithfulChoice depth choices member) (a : Option α)
    {name : String} (hname : name ∉ choices.map Prod.fst) (reader : Reader β) (default : β) :
    field (before ++ (a.map member).toList ++ after) name reader default =
      field (before ++ after) name reader default := by
  have hskip : (a.map member).toList.lookup name = none := by
    cases a with
    | none => rfl
    | some a =>
      have hne : name ≠ (member a).1 := fun heq => hname (heq ▸ h.name_mem a)
      simp [hne]
  simp [field, List.lookup_append, hskip]

-- A message with the fields `before` and `after` and an alternative between them. How it is read
-- from its members needs to be shown only of the fields and of the alternative.
theorem message {β : Type} {names : List String} {part : β → Option α} {rest : Members → Option β}
    {write : β → Value} (h : FaithfulChoice depth choices member) (before after : β → Members)
    (hwrite : ∀ b, write b = .object (before b ++ ((part b).map member).toList ++ after b))
    (hnone : ∀ b, Tidy ((before b ++ after b).map Prod.fst))
    (hsome : ∀ b, ∀ name ∈ choices.map Prod.fst,
      Tidy ((before b).map Prod.fst ++ name :: (after b).map Prod.fst))
    (hplain : ∀ b more, ∀ m ∈ before b ++ after b, Value.Plain Tidy (more + depth) m.2)
    (hread : ∀ b members, alternative choices members = part b →
      (∀ {γ : Type} (name : String) (reader : Reader γ) (default : γ),
        name ∈ (before b ++ after b).map Prod.fst →
        field members name reader default = field (before b ++ after b) name reader default) →
      rest members = some b) :
    Faithful (depth + 1) (fun v => mixedMembers? names v >>= rest) write := by
  have hobject : ∀ b more, Value.Plain Tidy (more + (depth + 1)) (write b) := by
    intro b more
    obtain ⟨hbefore, hafter⟩ := List.forall_mem_append.mp (hplain b more)
    rw [hwrite]
    cases part b with
    | none =>
      rw [Option.map_none, Option.toList_none, List.append_nil]
      exact .object (hnone b) (hplain b more)
    | some a =>
      rw [Option.map_some, Option.toList_some, List.append_assoc, List.singleton_append]
      refine .object ?_
        (List.forall_mem_append.mpr ⟨hbefore, List.forall_mem_cons.mpr ⟨?_, hafter⟩⟩)
      · rw [List.map_append, List.map_cons]
        exact hsome b _ (h.name_mem a)
      · exact h.plain a more
  -- No field has the name of an alternative, since the two would be one name twice.
  have hfields : ∀ b, ∀ m ∈ before b ++ after b, m.1 ∉ choices.map Prod.fst := by
    intro b m hm hname
    have hnodup := (List.perm_middle.nodup_iff.mp (hsome b m.1 hname).1)
    rw [← List.map_append] at hnodup
    exact (List.nodup_cons.mp hnodup).1 (List.mem_map_of_mem hm)
  refine ⟨hobject, fun b => ?_⟩
  have hsplit := mixedMembers?_of_plain (hwrite b ▸ hobject b 0) names
  rw [hwrite, hsplit]
  refine hread b _ (h.alternative_append (part b) (hfields b)) fun name reader default hname => ?_
  obtain ⟨m, hm, rfl⟩ := List.mem_map.mp hname
  exact h.field_append (part b) (hfields b m hm) reader default

end FaithfulChoice

theorem PathSpecifier.faithful : FaithfulChoice 1 (choices v) member where
  plain s more := by
    cases s with
    | safeRegex pattern => exact RegexMatcher.faithful.plain pattern more
    | connect => exact faithful_emptyMessage.plain () more
    | _ => exact .string _
  read s := by
    cases s with
    | safeRegex pattern =>
      have hread := RegexMatcher.faithful.read pattern
      cases v <;> exact congrArg (Option.map PathSpecifier.safeRegex) hread
    | regex | connect => rfl
    | _ => cases v <;> rfl

theorem HeaderSpecifier.faithful : FaithfulChoice 1 (choices v) member where
  plain s more := by
    cases s with
    | safeRegex pattern => exact RegexMatcher.faithful.plain pattern more
    | range bounds => exact IntRange.faithful.plain bounds more
    | present wanted => exact .bool wanted
    | _ => exact .string _
  read s := by
    cases s with
    | safeRegex pattern =>
      have hread := RegexMatcher.faithful.read pattern
      cases v <;> exact congrArg (Option.map HeaderSpecifier.safeRegex) hread
    | range bounds =>
      cases v <;> exact congrArg (Option.map HeaderSpecifier.range) (IntRange.faithful.read bounds)
    | regex => rfl
    | _ => cases v <;> rfl

theorem ClusterSpecifier.faithful : FaithfulChoice 3 choices member where
  plain s more := by
    cases s with
    | weightedClusters clusters => exact WeightedCluster.faithful.plain clusters more
    | _ => exact .string _
  read s := by
    cases s with
    | weightedClusters clusters =>
      exact congrArg (Option.map ClusterSpecifier.weightedClusters)
        (WeightedCluster.faithful.read clusters)
    | _ => rfl

theorem HeaderMatcher.faithful : Faithful 2 (read v) write :=
  HeaderSpecifier.faithful.message
    (fun header => [("name", .string header.name)])
    (fun header => [("invert_match", .bool header.invert)]) (fun _ => rfl)
    (fun _ => show Tidy ["name", "invert_match"] by decide)
    (fun _ => show ∀ name ∈ _, Tidy ["name", name, "invert_match"] by cases v <;> decide)
    (fun header more => by
      rw [List.singleton_append, List.forall_mem_cons, List.forall_mem_singleton]
      exact ⟨.string header.name, .bool header.invert⟩)
    (fun header members halternative hfield => by
      simp [halternative, hfield, field_cons_self, field_cons_ne, faithful_text.read,
        faithful_flag.read])

theorem RouteMatch.faithful : Faithful 4 (read v) write := by
  have hcase := (faithful_flag.optional rfl).deeper (show 0 ≤ 3 by decide)
  have hfraction := (RuntimeFraction.faithful.optional rfl).deeper (show 2 ≤ 3 by decide)
  have hheaders := (HeaderMatcher.faithful (v := v)).list
  have hparameters := QueryParameterMatcher.faithful.list.deeper (show 2 ≤ 3 by decide)
  exact (PathSpecifier.faithful.deeper (show 1 ≤ 3 by decide)).message
    (fun _ => [])
    (fun routeMatch =>
      [("case_sensitive", writeOptional .bool routeMatch.caseSensitive),
       ("runtime_fraction", writeOptional RuntimeFraction.write routeMatch.runtimeFraction),
       ("headers", writeList HeaderMatcher.write routeMatch.headers),
       ("query_parameters", writeList QueryParameterMatcher.write routeMatch.queryParameters)])
    (fun _ => rfl)
    (fun _ => show Tidy ["case_sensitive", "runtime_fraction", "headers", "query_parameters"] by
      decide)
    (fun _ => show ∀ name ∈ _,
        Tidy [name, "case_sensitive", "runtime_fraction", "headers", "query_parameters"] by
      cases v <;> decide)
    (fun routeMatch more => by
      rw [List.nil_append, List.forall_mem_cons, List.forall_mem_cons, List.forall_mem_cons,
        List.forall_mem_singleton]
      exact ⟨hcase.plain routeMatch.caseSensitive more,
        hfraction.plain routeMatch.runtimeFraction more, hheaders.plain routeMatch.headers more,
        hparameters.plain routeMatch.queryParameters more⟩)
    (fun routeMatch members halternative hfield => by
      simp [halternative, hfield, field_cons_self, field_cons_ne, hcase.read, hfraction.read,
        hheaders.read, hparameters.read])

theorem RouteAction.faithful : Faithful 4 read write := by
  have htimeout := (Duration.faithful.optional rfl).deeper (show 1 ≤ 3 by decide)
  exact ClusterSpecifier.faithful.message
    (fun _ => [])
    (fun action =>
      [("timeout", writeOptional Duration.write action.timeout),
       ("max_grpc_timeout", writeOptional Duration.write action.maxGrpcTimeout)])
    (fun _ => rfl)
    (fun _ => show Tidy ["timeout", "max_grpc_timeout"] by decide)
    (fun _ => show ∀ name ∈ _, Tidy [name, "timeout", "max_grpc_timeout"] by decide)
    (fun action more => by
      rw [List.nil_append, List.forall_mem_cons, List.forall_mem_singleton]
      exact ⟨htimeout.plain action.timeout more, htimeout.plain action.maxGrpcTimeout more⟩)
    (fun action members halternative hfield => by
      simp [halternative, hfield, field_cons_self, field_cons_ne, htimeout.read])

theorem Action.faithful : FaithfulChoice 4 choices member where
  plain s more := by
    cases s with
    | route action => exact RouteAction.faithful.plain action more
    | redirect target =>
      exact (Redirect.faithful.deeper (show 1 ≤ 4 by decide)).plain target more
    | directResponse response =>
      exact (DirectResponse.faithful.deeper (show 1 ≤ 4 by decide)).plain response more
  read s := by
    cases s with
    | route action => exact congrArg (Option.map Action.route) (RouteAction.faithful.read action)
    | redirect target =>
      exact congrArg (Option.map Action.redirect) (Redirect.faithful.read target)
    | directResponse response =>
      exact congrArg (Option.map Action.directResponse) (DirectResponse.faithful.read response)

theorem Route.faithful : Faithful 5 (read v) write := by
  have hmatch := (RouteMatch.faithful (v := v)).optional rfl
  exact Action.faithful.message
    (fun route => [("name", .string route.name),
      ("match", writeOptional RouteMatch.write route.routeMatch)])
    (fun _ => [])
    (fun _ => by rw [List.append_nil]; rfl)
    (fun _ => show Tidy ["name", "match"] by decide)
    (fun _ => show ∀ name ∈ _, Tidy ["name", "match", name] by decide)
    (fun route more => by
      rw [List.append_nil, List.forall_mem_cons, List.forall_mem_singleton]
      exact ⟨.string route.name, hmatch.plain route.routeMatch more⟩)
    (fun route members halternative hfield => by
      simp [halternative, hfield, field_cons_self, field_cons_ne, faithful_text.read, hmatch.read])

theorem VirtualHost.faithful : Faithful 7 (read v) write := by
  have hdomains : Faithful 6 (list text) writeTexts :=
    faithful_text.list.deeper (show 1 ≤ 6 by decide)
  have hroutes := (Route.faithful (v := v)).list
  have hplain : ∀ (host : VirtualHost v) more, Value.Plain Tidy (more + 7) host.write :=
    fun host more => .object (show Tidy ["name", "domains", "routes"] by decide) (by
      rw [List.forall_mem_cons, List.forall_mem_cons, List.forall_mem_singleton]
      exact ⟨.string host.name, hdomains.plain host.domains more, hroutes.plain host.routes more⟩)
  refine ⟨hplain, fun host => ?_⟩
  simp [read, write, members?_of_plain (hplain host 0), field_cons_self, field_cons_ne,
    faithful_text.read, hdomains.read, hroutes.read]

theorem RouteConfiguration.faithful : Faithful 9 (read v) write :=
  faithful_twoFields (fun _ => rfl) (by decide) (faithful_text.deeper (by decide))
    VirtualHost.faithful.list

-- Every configuration can be read back as it was written, from the tree as from a text in either
-- layout. In all that is written no name stands twice in an object, be it that of a field or of an
-- alternative, and of the alternatives of a message there is one at most.
theorem RouteConfiguration.read_write (v : ApiVersion) (config : RouteConfiguration v) :
    read v config.write = some config ∧
    (∀ layout, (Json.parse? (Json.print layout 0 config.write)).bind (read v) = some config) ∧
    ∀ members, Value.Part (.object members) config.write →
      (members.map Prod.fst).Nodup ∧
      ∀ group ∈ alternativeNames, ((members.map Prod.fst).filter group.contains).length ≤ 1 := by
  have hplain : Value.Plain Tidy Json.maxDepth config.write :=
    RouteConfiguration.faithful.plain config 118
  refine ⟨RouteConfiguration.faithful.read config, fun layout => ?_, fun members hpart => ?_⟩
  · rw [Json.parse?_print hplain layout]
    exact RouteConfiguration.faithful.read config
  · exact hplain.names_of_part hpart

end RpcRouting.Wire
