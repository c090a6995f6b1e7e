import Mathlib.Data.List.Basic
import Mathlib.Logic.Relation
import RpcRouting.Resolver.Resolver

namespace RpcRouting

namespace Headers

-- A name and a value to be added to the headers of a request.
abbrev Addition := String × List UInt8

-- The headers that come of a number of additions, if all of them can be made.
def ofAdditions (additions : List Addition) : Except HeaderError Headers :=
  additions.foldlM (fun headers addition => headers.append addition.1 addition.2) {}

def SameName (a b : String) : Prop := a.map Char.toLower = b.map Char.toLower

instance (a b : String) : Decidable (SameName a b) :=
  inferInstanceAs (Decidable (a.map Char.toLower = b.map Char.toLower))

def IsVisible (name : String) (addition : Addition) : Prop :=
  SameName addition.1 name ∧ addition.2.all isTextByte = true

instance (name : String) : DecidablePred (IsVisible name) :=
  fun addition => inferInstanceAs (Decidable (SameName addition.1 name ∧ _))

-- The textual values that were added under a name, in any case, in order.
def visible (name : String) (additions : List Addition) : List (List UInt8) :=
  (additions.filter (IsVisible name ·)).map (·.2)

theorem isNameChar_toLower (c : Char) : isNameChar c.toLower = isNameChar c := by
  by_cases h : 65 ≤ c.toNat ∧ c.toNat ≤ 90
  · have hall : ∀ n < 91, isNameChar (Char.ofNat n).toLower = isNameChar (Char.ofNat n) := by
      decide
    rw [← Char.ofNat_toNat c]
    exact hall c.toNat (by omega)
  · have hl : c.toLower = c := dif_neg h
    rw [hl]

-- Case decides neither whether a name is one nor how it is stored.
theorem SameName.storedName?_eq {a b : String} (h : SameName a b) :
    storedName? a = storedName? b := by
  have hlist : a.toList.map Char.toLower = b.toList.map Char.toLower := by
    rw [← String.toList_map, ← String.toList_map, h]
  have hempty : a.toList.isEmpty = b.toList.isEmpty := by
    rw [← List.isEmpty_map, hlist, List.isEmpty_map]
  have hall : a.toList.all isNameChar = b.toList.all isNameChar := by
    have hmap := congrArg (List.all · isNameChar) hlist
    simpa only [List.all_map, Function.comp_def, isNameChar_toLower] using hmap
  have hlength : a.length = b.length := by
    rw [← String.length_map, h, String.length_map]
  unfold storedName?
  rw [hempty, hall, hlength, h]

theorem storedName?_eq_some {name stored : String} (h : storedName? name = some stored) :
    name.map Char.toLower = stored := by
  unfold storedName? at h
  split at h
  · cases h
  · exact Option.some.inj h

theorem append_eq_ok {headers extended : Headers} {name : String} {value : List UInt8}
    (h : headers.append name value = .ok extended) :
    (storedName? name).isSome = true ∧
      extended.entries = headers.entries ++ [(name.map Char.toLower, value)] := by
  unfold append at h
  cases hs : storedName? name with
  | none =>
    rw [hs] at h
    cases h
  | some stored =>
    rw [hs] at h
    dsimp only at h
    split at h
    · cases h
      rw [storedName?_eq_some hs]
      exact ⟨rfl, rfl⟩
    · cases h

-- Every addition leaves one entry, under the name in lower case.
theorem entries_of_foldlM {additions : List Addition} {headers built : Headers}
    (h : additions.foldlM (fun headers addition => headers.append addition.1 addition.2) headers =
      .ok built) :
    (∀ addition ∈ additions, (storedName? addition.1).isSome = true) ∧
      built.entries =
        headers.entries ++ additions.map fun addition =>
          (addition.1.map Char.toLower, addition.2) := by
  induction additions generalizing headers with
  | nil =>
    cases h
    simp
  | cons first rest ih =>
    rw [List.foldlM_cons] at h
    cases ha : headers.append first.1 first.2 with
    | error cause =>
      rw [ha] at h
      cases h
    | ok extended =>
      rw [ha] at h
      obtain ⟨hname, hentries⟩ := append_eq_ok ha
      obtain ⟨hnames, hbuilt⟩ := ih h
      refine ⟨List.forall_mem_cons.mpr ⟨hname, hnames⟩, ?_⟩
      rw [hbuilt, hentries, List.map_cons, List.append_assoc, List.singleton_append]

-- What is found under a name is what was added under it, as far as it is text.
theorem textValues_of_additions {additions : List Addition} {headers : Headers}
    (h : ofAdditions additions = .ok headers) (name : String) :
    headers.textValues name = (visible name additions).filterMap textOf? := by
  obtain ⟨hnames, hentries⟩ := entries_of_foldlM h
  unfold textValues
  cases hs : storedName? name with
  | none =>
    -- a name that cannot be stored is not the name of any addition
    have hnone : visible name additions = [] := by
      rw [visible, List.map_eq_nil_iff, List.filter_eq_nil_iff]
      intro addition hmem hvisible
      have hsome := hnames addition hmem
      rw [(of_decide_eq_true hvisible).1.storedName?_eq, hs] at hsome
      cases hsome
    rw [hnone, List.filterMap_nil]
  | some stored =>
    obtain rfl := storedName?_eq_some hs
    dsimp only
    rw [hentries, List.nil_append, visible, List.filter_map, List.filterMap_map,
      List.filterMap_map, List.filterMap_filter, List.filterMap_filter]
    apply List.filterMap_congr
    intro addition _
    by_cases hname : SameName addition.1 name
    · have hstored : (addition.1.map Char.toLower == name.map Char.toLower) = true :=
        beq_iff_eq.mpr hname
      simp only [Function.comp_apply, hstored, if_true, IsVisible, hname, true_and]
      split
      · rfl
      · rename_i htext
        exact if_neg (by simpa using htext)
    · have hstored : (addition.1.map Char.toLower == name.map Char.toLower) = false :=
        beq_eq_false_iff_ne.mpr hname
      simp [Function.comp_apply, hstored, IsVisible, hname]

theorem value?_eq_of_visible {additions others : List Addition} {headers other : Headers}
    (h : ofAdditions additions = .ok headers) (ho : ofAdditions others = .ok other) {name : String}
    (hv : visible name additions = visible name others) :
    headers.value? name = other.value? name := by
  unfold value?
  rw [textValues_of_additions h, textValues_of_additions ho, hv]

-- A change to the additions that leaves alone what is visible under some names.
inductive UnseenChange (names : List String) : List Addition → List Addition → Prop
  | otherName (before after : List Addition) (name : String) (value : List UInt8)
      (h : ∀ seen ∈ names, ¬ SameName name seen) :
      UnseenChange names (before ++ after) (before ++ (name, value) :: after)
  | notText (before after : List Addition) (name : String) (value : List UInt8)
      (h : value.all isTextByte = false) :
      UnseenChange names (before ++ after) (before ++ (name, value) :: after)
  | exchange (before after : List Addition) (first second : Addition)
      (h : ¬ SameName first.1 second.1) :
      UnseenChange names (before ++ first :: second :: after) (before ++ second :: first :: after)

theorem visible_append (name : String) (additions others : List Addition) :
    visible name (additions ++ others) = visible name additions ++ visible name others := by
  rw [visible, List.filter_append, List.map_append]
  rfl

theorem visible_cons_of_not {name : String} {addition : Addition} (h : ¬ IsVisible name addition)
    (rest : List Addition) : visible name (addition :: rest) = visible name rest := by
  simp [visible, h]

theorem visible_exchange {name : String} {first second : Addition}
    (h : ¬ SameName first.1 second.1) (rest : List Addition) :
    visible name (first :: second :: rest) = visible name (second :: first :: rest) := by
  -- one of the two is not under the name, so it is not seen in either place
  by_cases hfirst : IsVisible name first
  · have hsecond : ¬ IsVisible name second :=
      fun hs => h (hfirst.1.trans hs.1.symm)
    simp [visible, hfirst, hsecond]
  · simp [visible, List.filter_cons, hfirst]

theorem UnseenChange.visible_eq {names : List String} {additions others : List Addition}
    (h : UnseenChange names additions others) {name : String} (hn : name ∈ names) :
    visible name additions = visible name others := by
  cases h with
  | otherName before after other value hother =>
    have hhidden : ¬ IsVisible name (other, value) := fun hv => hother name hn hv.1
    rw [visible_append, visible_append, visible_cons_of_not hhidden]
  | notText before after other value htext =>
    have hhidden : ¬ IsVisible name (other, value) := by
      intro hv
      rw [hv.2] at htext
      cases htext
    rw [visible_append, visible_append, visible_cons_of_not hhidden]
  | exchange before after first second hdiffer =>
    rw [visible_append, visible_append, visible_exchange hdiffer]

theorem visible_eq_of_changes {names : List String} {additions others : List Addition}
    (h : Relation.EqvGen (UnseenChange names) additions others) :
    ∀ name ∈ names, visible name additions = visible name others := by
  induction h with
  | rel _ _ h => exact fun name hn => h.visible_eq hn
  | refl => exact fun _ _ => rfl
  | symm _ _ _ ih => exact fun name hn => (ih name hn).symm
  | trans _ _ _ _ _ ih ih' => exact fun name hn => (ih name hn).trans (ih' name hn)

end Headers

open Headers (ofAdditions visible UnseenChange)

-- The names under which the matchers of a table look.
def RouteTable.matcherNames (table : RouteTable) : List String :=
  table.virtualHost.routes.flatMap fun route => route.routeMatch.headers.map (·.name)

def Resolver.matcherNames (resolver : Resolver) : List String :=
  resolver.snapshot.toList.flatMap (·.table.matcherNames)

section

variable {path : String} {headers other : Headers}

theorem RouteMatch.accepts_congr {routeMatch : RouteMatch}
    (h : ∀ matcher ∈ routeMatch.headers, headers.value? matcher.name = other.value? matcher.name) :
    routeMatch.accepts path headers = routeMatch.accepts path other := by
  have hall : (routeMatch.headers.all fun matcher => matcher.accepts (headers.value? matcher.name)) =
      routeMatch.headers.all fun matcher => matcher.accepts (other.value? matcher.name) := by
    rw [Bool.eq_iff_iff, List.all_eq_true, List.all_eq_true]
    exact forall₂_congr fun matcher hm => by rw [h matcher hm]
  unfold accepts isCandidate
  rw [hall]

theorem VirtualHost.firstAccepting_congr {routes : List Route}
    (h : ∀ route ∈ routes, ∀ matcher ∈ route.routeMatch.headers,
      headers.value? matcher.name = other.value? matcher.name) (index : Nat) :
    firstAccepting path headers index routes = firstAccepting path other index routes := by
  induction routes generalizing index with
  | nil => rfl
  | cons route rest ih =>
    rw [List.forall_mem_cons] at h
    rw [firstAccepting, firstAccepting, RouteMatch.accepts_congr h.1, ih h.2]

theorem Resolver.decide_congr {table : RouteTable}
    (h : ∀ name ∈ table.matcherNames, headers.value? name = other.value? name) :
    decide table path headers = decide table path other := by
  have hroutes : ∀ route ∈ table.virtualHost.routes, ∀ matcher ∈ route.routeMatch.headers,
      headers.value? matcher.name = other.value? matcher.name := by
    intro route hr matcher hm
    apply h
    exact List.mem_flatMap.mpr ⟨route, hr, List.mem_map_of_mem hm⟩
  unfold decide VirtualHost.findRoute
  rw [VirtualHost.firstAccepting_congr hroutes]

theorem Resolver.resolve_congr {resolver : Resolver}
    (h : ∀ name ∈ resolver.matcherNames, headers.value? name = other.value? name) :
    resolver.resolve path headers = resolver.resolve path other := by
  unfold resolve
  cases hs : resolver.snapshot with
  | none => rfl
  | some snapshot =>
    have hnames : resolver.matcherNames = snapshot.table.matcherNames := by
      rw [matcherNames, hs]
      exact List.append_nil _
    rw [hnames] at h
    dsimp only
    rw [decide_congr h]

end

namespace Resolver

-- Headers that show the same texts under the names of the matchers are routed alike: the same
-- questions are asked in the same order, and whatever the answers, the end is the same. Headers of
-- other names, values that are no text and the order among different names do not show.
theorem resolve_eq_of_visible (resolver : Resolver) (path : String)
    (additions others : List Headers.Addition) (headers other : Headers)
    (h : ofAdditions additions = .ok headers) (ho : ofAdditions others = .ok other) :
    ((∀ name ∈ resolver.matcherNames, visible name additions = visible name others) →
      resolver.resolve path headers = resolver.resolve path other) ∧
    (Relation.EqvGen (UnseenChange resolver.matcherNames) additions others →
      resolver.resolve path headers = resolver.resolve path other) := by
  have hvisible : (∀ name ∈ resolver.matcherNames,
      visible name additions = visible name others) →
      resolver.resolve path headers = resolver.resolve path other :=
    fun hv => resolve_congr fun name hn => Headers.value?_eq_of_visible h ho (hv name hn)
  exact ⟨hvisible, fun hchanges => hvisible (Headers.visible_eq_of_changes hchanges)⟩

-- A tenth of the requests of one tenant goes to a cluster of its own.
def tenantResolver : Resolver where
  authority := "service"
  snapshot := some ⟨1, "routes", "host", ["*"],
    [⟨{ path := .startsWith "/", headers := [⟨"X-Tenant", .exact "a,b", false⟩],
        fraction := some ⟨10, 100⟩ }, ⟨.default, .cluster "tenant"⟩⟩,
     ⟨{ path := .startsWith "/" }, ⟨.default, .cluster "shared"⟩⟩]⟩

theorem matcherNames_tenantResolver : tenantResolver.matcherNames = ["X-Tenant"] := rfl

-- The tenant in two values around another header, and then in two values that follow each other,
-- after one that is no text and before headers of other names.
def tenantApart : List Headers.Addition :=
  [("x-tenant", [97]), ("trace", [49]), ("x-tenant", [98])]

def tenantTogether : List Headers.Addition :=
  [("X-TENANT", [200]), ("x-tenant", [97]), ("x-tenant", [98]), ("trace", [49]), ("agent", [120])]

theorem changes_tenantTogether :
    Relation.EqvGen (UnseenChange ["X-Tenant"]) tenantApart tenantTogether := by
  have hexchange : UnseenChange ["X-Tenant"] tenantApart
      [("x-tenant", [97]), ("x-tenant", [98]), ("trace", [49])] :=
    .exchange [("x-tenant", [97])] [] ("trace", [49]) ("x-tenant", [98]) (by decide +kernel)
  have hadded : UnseenChange ["X-Tenant"]
      [("x-tenant", [97]), ("x-tenant", [98]), ("trace", [49])]
      [("x-tenant", [97]), ("x-tenant", [98]), ("trace", [49]), ("agent", [120])] :=
    .otherName [("x-tenant", [97]), ("x-tenant", [98]), ("trace", [49])] [] "agent" [120]
      (by decide +kernel)
  have hbytes : UnseenChange ["X-Tenant"]
      [("x-tenant", [97]), ("x-tenant", [98]), ("trace", [49]), ("agent", [120])]
      tenantTogether :=
    .notText [] _ "X-TENANT" [200] (by decide)
  exact (Relation.EqvGen.rel _ _ hexchange).trans _ _ _
    ((Relation.EqvGen.rel _ _ hadded).trans _ _ _ (.rel _ _ hbytes))

theorem resolve_eq_of_visible_tenant :
    ∃ headers other,
      ofAdditions tenantApart = .ok headers ∧ ofAdditions tenantTogether = .ok other ∧
      headers ≠ other ∧
      (∀ name ∈ tenantResolver.matcherNames,
        visible name tenantApart = visible name tenantTogether) ∧
      Relation.EqvGen (UnseenChange tenantResolver.matcherNames) tenantApart tenantTogether ∧
      tenantResolver.resolve "/method" headers = tenantResolver.resolve "/method" other := by
  have hapart : ofAdditions tenantApart =
      .ok ⟨[("x-tenant", [97]), ("trace", [49]), ("x-tenant", [98])]⟩ := by decide +kernel
  have htogether : ofAdditions tenantTogether =
      .ok ⟨[("x-tenant", [200]), ("x-tenant", [97]), ("x-tenant", [98]), ("trace", [49]),
        ("agent", [120])]⟩ := by decide +kernel
  have hvisible := Headers.visible_eq_of_changes changes_tenantTogether
  have hresolve := resolve_eq_of_visible tenantResolver "/method" tenantApart tenantTogether _ _
    hapart htogether
  rw [matcherNames_tenantResolver] at hresolve ⊢
  exact ⟨_, _, hapart, htogether, by decide, hvisible, changes_tenantTogether,
    hresolve.1 hvisible⟩

end Resolver

end RpcRouting
