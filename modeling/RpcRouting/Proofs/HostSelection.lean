import RpcRouting.Proofs.DomainMatch
import RpcRouting.Resolver.RouteTable
import Mathlib.Data.List.Induction

namespace RpcRouting

namespace Wire.VirtualHost

variable {v : ApiVersion} {authority : String} {hosts : List (VirtualHost v)} {n : Nat}
  {host : VirtualHost v} {strength : DomainMatch}

-- Some domain of the host matches the authority with this strength.
def Matches (authority : String) (host : VirtualHost v) (strength : DomainMatch) : Prop :=
  ∃ domain ∈ host.domains, DomainMatch.ofPattern? domain authority = some strength

-- The host at position `n` is the first whose strongest match is the greatest match of any domain
-- of any host.
structure FirstBest (authority : String) (hosts : List (VirtualHost v)) (n : Nat)
    (host : VirtualHost v) (strength : DomainMatch) : Prop where
  stands : hosts[n]? = some host
  attained : host.Matches authority strength
  greatest : ∀ other ∈ hosts, ∀ found, other.Matches authority found → found ≤ strength
  earliest : ∀ k < n, ∀ other, hosts[k]? = some other → ¬ other.Matches authority strength

theorem ofDomains?_eq_some_iff :
    DomainMatch.ofDomains? host.domains authority = some strength ↔
      host.Matches authority strength ∧
        ∀ found, host.Matches authority found → found ≤ strength := by
  rw [DomainMatch.ofDomains?_eq_some_iff]
  constructor
  · rintro ⟨hm, hall⟩
    exact ⟨hm, fun found ⟨domain, hd, hf⟩ => hall domain hd found hf⟩
  · rintro ⟨hm, hall⟩
    exact ⟨hm, fun domain hd found hf => hall found ⟨domain, hd, hf⟩⟩

theorem ofDomains?_eq_none_iff :
    DomainMatch.ofDomains? host.domains authority = none ↔
      ∀ found, ¬ host.Matches authority found := by
  rw [DomainMatch.ofDomains?_eq_none_iff]
  constructor
  · rintro h found ⟨domain, hd, hf⟩
    simp [h domain hd] at hf
  · intro h domain hd
    cases hf : DomainMatch.ofPattern? domain authority with
    | none => rfl
    | some found => exact absurd ⟨domain, hd, hf⟩ (h found)

namespace FirstBest

theorem lt_length (h : FirstBest authority hosts n host strength) : n < hosts.length :=
  (List.getElem?_eq_some_iff.mp h.stands).1

theorem mem (h : FirstBest authority hosts n host strength) : host ∈ hosts :=
  List.mem_of_getElem? h.stands

-- Hosts before the first best one are strictly weaker.
theorem lt_of_before (h : FirstBest authority hosts n host strength) {other : VirtualHost v}
    (ho : other ∈ hosts.take n) {found : DomainMatch} (hf : other.Matches authority found) :
    found < strength := by
  obtain ⟨k, hk, rfl⟩ := List.getElem_of_mem ho
  simp only [List.length_take, Nat.lt_min] at hk
  apply lt_of_le_of_ne (h.greatest _ (List.mem_of_mem_take ho) found hf)
  rintro rfl
  exact h.earliest k hk.1 _ (by simp [hk.2]) hf

theorem le_of_after (h : FirstBest authority hosts n host strength) {other : VirtualHost v}
    (ho : other ∈ hosts.drop (n + 1)) {found : DomainMatch} (hf : other.Matches authority found) :
    found ≤ strength :=
  h.greatest other (List.mem_of_mem_drop ho) found hf

-- There is at most one first best host.
theorem unique (h : FirstBest authority hosts n host strength) {m : Nat} {other : VirtualHost v}
    {found : DomainMatch} (ho : FirstBest authority hosts m other found) :
    n = m ∧ host = other ∧ strength = found := by
  have hs : strength = found :=
    le_antisymm (ho.greatest host h.mem strength h.attained)
      (h.greatest other ho.mem found ho.attained)
  subst hs
  have hn : n = m := by
    rcases Nat.lt_trichotomy n m with hlt | heq | hgt
    · exact absurd h.attained (ho.earliest n hlt host h.stands)
    · exact heq
    · exact absurd ho.attained (h.earliest m hgt other ho.stands)
  subst hn
  exact ⟨rfl, Option.some.inj (h.stands.symm.trans ho.stands), rfl⟩

-- A host between strictly weaker ones and others that are not stronger is the first best.
theorem of_split {before after : List (VirtualHost v)} (ha : host.Matches authority strength)
    (hh : ∀ found, host.Matches authority found → found ≤ strength)
    (hb : ∀ other ∈ before, ∀ found, other.Matches authority found → found < strength)
    (hl : ∀ other ∈ after, ∀ found, other.Matches authority found → found ≤ strength) :
    FirstBest authority (before ++ host :: after) before.length host strength where
  stands := by simp
  attained := ha
  greatest := by
    intro other ho found hf
    rcases List.mem_append.mp ho with ho | ho
    · exact (hb other ho found hf).le
    · rcases List.mem_cons.mp ho with rfl | ho
      · exact hh found hf
      · exact hl other ho found hf
  earliest := by
    intro k hk other ho hf
    rw [List.getElem?_append_left hk] at ho
    exact lt_irrefl _ (hb other (List.mem_of_getElem? ho) strength hf)

-- One more host that is not stronger does not take the place of the first best one.
theorem append (h : FirstBest authority hosts n host strength) {last : VirtualHost v}
    (hl : ∀ found, last.Matches authority found → found ≤ strength) :
    FirstBest authority (hosts ++ [last]) n host strength where
  stands := by rw [List.getElem?_append_left h.lt_length, h.stands]
  attained := h.attained
  greatest := by
    intro other ho found hf
    rcases List.mem_append.mp ho with ho | ho
    · exact h.greatest other ho found hf
    · cases List.mem_singleton.mp ho
      exact hl found hf
  earliest := by
    intro k hk other ho
    rw [List.getElem?_append_left (hk.trans h.lt_length)] at ho
    exact h.earliest k hk other ho

end FirstBest

-- What the selection holds after some hosts: nothing while no domain has matched, and the first
-- best host from then on.
def Selected (authority : String) (hosts : List (VirtualHost v)) :
    Option (DomainMatch × VirtualHost v) → Prop
  | none => ∀ other ∈ hosts, ∀ found, ¬ other.Matches authority found
  | some (strength, host) => ∃ n, FirstBest authority hosts n host strength

theorem Selected.better {best : Option (DomainMatch × VirtualHost v)}
    (h : Selected authority hosts best) (last : VirtualHost v) :
    Selected authority (hosts ++ [last]) (better authority best last) := by
  unfold VirtualHost.better
  cases hm : DomainMatch.ofDomains? last.domains authority with
  | none =>
    have hnone := ofDomains?_eq_none_iff.mp hm
    cases best with
    | none =>
      intro other ho
      rcases List.mem_append.mp ho with ho | ho
      · exact h other ho
      · cases List.mem_singleton.mp ho
        exact hnone
    | some current =>
      obtain ⟨n, hbest⟩ := h
      exact ⟨n, hbest.append fun found hf => absurd hf (hnone found)⟩
  | some strength =>
    obtain ⟨hattained, hgreatest⟩ := ofDomains?_eq_some_iff.mp hm
    cases best with
    | none =>
      exact ⟨hosts.length, FirstBest.of_split hattained hgreatest
        (fun other ho found hf => absurd hf (h other ho found)) (by simp)⟩
    | some current =>
      obtain ⟨n, hbest⟩ := h
      by_cases hlt : current.1 < strength
      · simp only [(DomainMatch.weaker_iff_lt _ _).mpr hlt, if_true]
        exact ⟨hosts.length, FirstBest.of_split hattained hgreatest
          (fun other ho found hf => (hbest.greatest other ho found hf).trans_lt hlt) (by simp)⟩
      · simp only [DomainMatch.weaker_iff_lt, hlt, if_false]
        exact ⟨n, hbest.append fun found hf => (hgreatest found hf).trans (not_lt.mp hlt)⟩

theorem selected_foldl (authority : String) (hosts : List (VirtualHost v)) :
    Selected authority hosts (hosts.foldl (better authority) none) := by
  induction hosts using List.reverseRecOn with
  | nil => exact fun other ho => absurd ho List.not_mem_nil
  | append_singleton hosts last ih =>
    rw [List.foldl_append]
    exact ih.better last

theorem select?_eq_some_iff (authority : String) (hosts : List (VirtualHost v))
    (host : VirtualHost v) :
    select? hosts authority = some host ↔
      ∃ n strength, FirstBest authority hosts n host strength := by
  have hs := selected_foldl authority hosts
  unfold select?
  cases hb : hosts.foldl (better authority) none with
  | none =>
    rw [hb] at hs
    constructor
    · intro h
      cases h
    · rintro ⟨n, strength, h⟩
      exact absurd h.attained (hs host h.mem strength)
  | some best =>
    rw [hb] at hs
    obtain ⟨n, hbest⟩ := hs
    constructor
    · intro h
      cases h
      exact ⟨n, best.1, hbest⟩
    · rintro ⟨m, strength, h⟩
      exact congrArg some (hbest.unique h).2.1

theorem select?_eq_none_iff (authority : String) (hosts : List (VirtualHost v)) :
    select? hosts authority = none ↔
      ∀ host ∈ hosts, ∀ found, ¬ host.Matches authority found := by
  have hs := selected_foldl authority hosts
  unfold select?
  cases hb : hosts.foldl (better authority) none with
  | none =>
    rw [hb] at hs
    exact ⟨fun _ => hs, fun _ => rfl⟩
  | some best =>
    rw [hb] at hs
    obtain ⟨n, hbest⟩ := hs
    constructor
    · intro h
      cases h
    · intro h
      exact absurd hbest.attained (h best.2 hbest.mem best.1)

-- Turns a list of hosts into another one: a host is taken out or gets another name and other
-- routes, whatever these are worth, and a host is put in where `admits` allows it.
inductive Edited (admits : VirtualHost v → Prop) :
    List (VirtualHost v) → List (VirtualHost v) → Prop where
  | nil : Edited admits [] []
  | keep (host : VirtualHost v) {hosts edited : List (VirtualHost v)}
      (h : Edited admits hosts edited) : Edited admits (host :: hosts) (host :: edited)
  | delete (host : VirtualHost v) {hosts edited : List (VirtualHost v)}
      (h : Edited admits hosts edited) : Edited admits (host :: hosts) edited
  | replace (host : VirtualHost v) (name : String) (routes : List (Route v))
      {hosts edited : List (VirtualHost v)} (h : Edited admits hosts edited) :
      Edited admits (host :: hosts) ({ host with name, routes } :: edited)
  | insert (host : VirtualHost v) (ha : admits host) {hosts edited : List (VirtualHost v)}
      (h : Edited admits hosts edited) : Edited admits hosts (host :: edited)

-- An edit admits only hosts whose matches stay within a bound, and matches depend on domains alone.
-- So the bound goes over from the old list to the new one.
theorem Edited.forall_matches {within : DomainMatch → Prop} {edited : List (VirtualHost v)}
    (h : Edited (fun host => ∀ found, host.Matches authority found → within found) hosts edited)
    (hw : ∀ host ∈ hosts, ∀ found, host.Matches authority found → within found) :
    ∀ host ∈ edited, ∀ found, host.Matches authority found → within found := by
  induction h with
  | nil => exact hw
  | keep host _ ih =>
    rw [List.forall_mem_cons] at hw ⊢
    exact ⟨hw.1, ih hw.2⟩
  | delete host _ ih =>
    rw [List.forall_mem_cons] at hw
    exact ih hw.2
  | replace host name routes _ ih =>
    rw [List.forall_mem_cons] at hw ⊢
    exact ⟨hw.1, ih hw.2⟩
  | insert host ha _ ih =>
    rw [List.forall_mem_cons]
    exact ⟨ha, ih hw⟩

-- Edits that keep weaker hosts before the first best one, and no stronger ones after it, leave it
-- the first best.
theorem FirstBest.edited (h : FirstBest authority hosts n host strength)
    {before after : List (VirtualHost v)}
    (hb : Edited (fun host => ∀ found, host.Matches authority found → found < strength)
      (hosts.take n) before)
    (ha : Edited (fun host => ∀ found, host.Matches authority found → found ≤ strength)
      (hosts.drop (n + 1)) after) :
    FirstBest authority (before ++ host :: after) before.length host strength :=
  of_split h.attained (h.greatest host h.mem)
    (hb.forall_matches fun _ ho _ hf => h.lt_of_before ho hf)
    (ha.forall_matches fun _ ho _ hf => h.le_of_after ho hf)

-- The second host is the first with some letters of its domains in another case.
def RecasedDomains (a b : VirtualHost v) : Prop :=
  b = { a with domains := b.domains } ∧ List.Forall₂ DomainMatch.Recased a.domains b.domains

theorem matches_iff_mem_map :
    host.Matches authority strength ↔
      some strength ∈ host.domains.map (DomainMatch.ofPattern? · authority) := by
  simp [Matches]

theorem RecasedDomains.matches_iff {a b : VirtualHost v} (h : RecasedDomains a b)
    {authority' : String} (ha : DomainMatch.Recased authority authority') (found : DomainMatch) :
    a.Matches authority found ↔ b.Matches authority' found := by
  rw [matches_iff_mem_map, matches_iff_mem_map, DomainMatch.map_ofPattern?_recased h.2 ha]

theorem getElem?_of_forall₂ {α β : Type} {R : α → β → Prop} {as : List α} {bs : List β}
    (h : List.Forall₂ R as bs) {k : Nat} {a : α} (ha : as[k]? = some a) :
    ∃ b, bs[k]? = some b ∧ R a b := by
  obtain ⟨hk, rfl⟩ := List.getElem?_eq_some_iff.mp ha
  have hk' : k < bs.length := h.length_eq ▸ hk
  exact ⟨bs[k], List.getElem?_eq_getElem hk', h.get hk hk'⟩

-- Which position is the first best is settled by what the hosts match, one by one.
theorem FirstBest.transfer (h : FirstBest authority hosts n host strength) {authority' : String}
    {hosts' : List (VirtualHost v)}
    (hs : List.Forall₂ (fun a b => ∀ found, a.Matches authority found ↔ b.Matches authority' found)
      hosts hosts') :
    ∃ host', FirstBest authority' hosts' n host' strength := by
  obtain ⟨host', hn, hm⟩ := getElem?_of_forall₂ hs h.stands
  refine ⟨host', hn, (hm strength).mp h.attained, ?_, ?_⟩
  · intro other ho found hf
    obtain ⟨k, hk⟩ := List.mem_iff_getElem?.mp ho
    obtain ⟨old, hold, hmo⟩ := getElem?_of_forall₂ hs.flip hk
    exact h.greatest old (List.mem_of_getElem? hold) found ((hmo found).mpr hf)
  · intro k hk other ho hf
    obtain ⟨old, hold, hmo⟩ := getElem?_of_forall₂ hs.flip ho
    exact h.earliest k hk old hold ((hmo strength).mpr hf)

theorem exists_firstBest_recased_iff {authority' : String} {hosts' : List (VirtualHost v)}
    (ha : DomainMatch.Recased authority authority')
    (hs : List.Forall₂ RecasedDomains hosts hosts') :
    (∃ host, FirstBest authority hosts n host strength) ↔
      ∃ host, FirstBest authority' hosts' n host strength := by
  constructor
  · rintro ⟨host, h⟩
    exact h.transfer (hs.imp fun _ _ hr => hr.matches_iff ha)
  · rintro ⟨host, h⟩
    exact h.transfer (hs.flip.imp fun _ _ (hr : RecasedDomains _ _) found =>
      (hr.matches_iff ha found).symm)

end Wire.VirtualHost

namespace RouteTable

open Wire.VirtualHost

-- A table is made from the name of the configuration and the selected host alone.
theorem build_congr {config : Wire.RouteConfiguration .v3} {authority : String}
    {hosts : List (Wire.VirtualHost .v3)}
    (h : select? hosts authority = select? config.virtualHosts authority) :
    build { config with virtualHosts := hosts } authority = build config authority := by
  simp only [build, h]

-- Selection takes the first best host and is blind to all else: to which other hosts there are as
-- long as none of them is better, to what they are called and what their routes say, and to case.
theorem selection_firstBest_and_blind (config : Wire.RouteConfiguration .v3) (authority : String) :
    (∀ host, select? config.virtualHosts authority = some host ↔
      ∃ n strength, FirstBest authority config.virtualHosts n host strength) ∧
    (select? config.virtualHosts authority = none ↔
      ∀ host ∈ config.virtualHosts, ∀ domain ∈ host.domains,
        DomainMatch.ofPattern? domain authority = none) ∧
    (∀ n host strength, FirstBest authority config.virtualHosts n host strength →
      ∀ before after,
        Edited (fun other => ∀ found, other.Matches authority found → found < strength)
          (config.virtualHosts.take n) before →
        Edited (fun other => ∀ found, other.Matches authority found → found ≤ strength)
          (config.virtualHosts.drop (n + 1)) after →
        build { config with virtualHosts := before ++ host :: after } authority =
          build config authority) ∧
    (select? config.virtualHosts authority = none →
      ∀ hosts, Edited (fun other => ∀ found, ¬ other.Matches authority found)
          config.virtualHosts hosts →
        build { config with virtualHosts := hosts } authority = build config authority) ∧
    (∀ authority' hosts', DomainMatch.Recased authority authority' →
      List.Forall₂ RecasedDomains config.virtualHosts hosts' →
      ∀ n strength, (∃ host, FirstBest authority config.virtualHosts n host strength) ↔
        ∃ host, FirstBest authority' hosts' n host strength) := by
  refine ⟨select?_eq_some_iff authority config.virtualHosts, ?_, ?_, ?_, ?_⟩
  · rw [select?_eq_none_iff]
    simp only [← ofDomains?_eq_none_iff, DomainMatch.ofDomains?_eq_none_iff]
  · intro n host strength h before after hb ha
    apply build_congr
    rw [(select?_eq_some_iff _ _ _).mpr ⟨n, strength, h⟩]
    exact (select?_eq_some_iff _ _ _).mpr ⟨before.length, strength, h.edited hb ha⟩
  · intro hnone hosts he
    apply build_congr
    rw [hnone]
    rw [select?_eq_none_iff] at hnone ⊢
    exact he.forall_matches hnone
  · intro authority' hosts' ha hs n strength
    exact exists_firstBest_recased_iff ha hs

end RouteTable

end RpcRouting
