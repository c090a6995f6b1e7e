import RpcRouting.Proofs.WeightedSelection
import Mathlib.Data.List.Basic
import Mathlib.Logic.Relation

namespace RpcRouting.ClusterWeight

variable {clusters other : List ClusterWeight} {draw passed position : Nat}

-- The names that the numbers below the total select, in order: each as often as its weight says.
def tickets (clusters : List ClusterWeight) : List String :=
  clusters.flatMap fun cluster => List.replicate cluster.weight.toNat cluster.name

@[simp] theorem tickets_cons (cluster : ClusterWeight) (rest : List ClusterWeight) :
    tickets (cluster :: rest) =
      List.replicate cluster.weight.toNat cluster.name ++ tickets rest := rfl

@[simp] theorem tickets_append (before after : List ClusterWeight) :
    tickets (before ++ after) = tickets before ++ tickets after := List.flatMap_append

theorem length_tickets (clusters : List ClusterWeight) :
    (tickets clusters).length = total clusters := by
  induction clusters with
  | nil => rfl
  | cons cluster rest ih => simp [ih]

theorem count_tickets (name : String) (clusters : List ClusterWeight) :
    (tickets clusters).count name = total (clusters.filter (·.name = name)) := by
  induction clusters with
  | nil => rfl
  | cons cluster rest ih =>
    by_cases hname : cluster.name = name <;> simp [ih, List.count_replicate, hname]

-- The walk through the members ends at the one whose name is on the ticket.
theorem map_holder? (draw passed : Nat) (clusters : List ClusterWeight) :
    (holder? (passed + draw) passed clusters).map (·.name) = (tickets clusters)[draw]? := by
  induction clusters generalizing draw passed with
  | nil => rfl
  | cons cluster rest ih =>
    rw [holder?, tickets_cons, List.getElem?_append, List.length_replicate]
    by_cases hlt : draw < cluster.weight.toNat
    · simp [hlt]
    · have hrest := ih (draw - cluster.weight.toNat) (passed + cluster.weight.toNat)
      have hdraw : passed + cluster.weight.toNat + (draw - cluster.weight.toNat) =
          passed + draw := by omega
      rw [hdraw] at hrest
      simp [hlt, hrest]

theorem getElem?_tickets (h : draw < total clusters) :
    (tickets clusters)[draw]? = some (select clusters draw) := by
  have hlt : draw < 0 + total clusters := by omega
  obtain ⟨member, hm⟩ := exists_holder? hlt (Nat.zero_le draw)
  have hticket := map_holder? draw 0 clusters
  rw [Nat.zero_add, hm] at hticket
  rw [← hticket, select, hm]
  rfl

theorem map_select_range (clusters : List ClusterWeight) :
    (List.range (total clusters)).map (select clusters) = tickets clusters := by
  apply List.ext_getElem?
  intro draw
  by_cases hlt : draw < total clusters
  · simp [getElem?_tickets hlt, hlt]
  · have hge : (tickets clusters).length ≤ draw := by
      rw [length_tickets]
      omega
    simp [List.getElem?_eq_none hge, hlt]

-- What is the same for the tickets is the same for every number below the total.
theorem select_eq_of_tickets (h : tickets other = tickets clusters) :
    total other = total clusters ∧
      ∀ draw < total clusters, select other draw = select clusters draw := by
  have htotal : total other = total clusters := by
    rw [← length_tickets, h, length_tickets]
  refine ⟨htotal, fun draw hlt => ?_⟩
  have hother : (tickets other)[draw]? = some (select other draw) := getElem?_tickets (by omega)
  rw [h, getElem?_tickets hlt] at hother
  exact (Option.some.inj hother).symm

-- The walk stops at a position: the members before do not hold the number, and with it they do.
def StopsAt (clusters : List ClusterWeight) (draw position : Nat) : Prop :=
  holder? draw 0 (clusters.take position) = none ∧
    (holder? draw 0 (clusters.take (position + 1))).isSome

theorem holder?_isSome_iff (h : passed ≤ draw) :
    (holder? draw passed clusters).isSome ↔ draw < passed + total clusters := by
  constructor
  · intro hsome
    obtain ⟨member, hm⟩ := Option.isSome_iff_exists.mp hsome
    obtain ⟨before, after, rfl, -, hlt⟩ := (holder?_eq_some_iff h).mp hm
    rw [total_append, total_cons]
    omega
  · intro hlt
    exact Option.isSome_iff_exists.mpr (exists_holder? hlt h)

theorem stopsAt_iff :
    StopsAt clusters draw position ↔
      total (clusters.take position) ≤ draw ∧ draw < total (clusters.take (position + 1)) := by
  rw [StopsAt, ← Option.not_isSome_iff_eq_none, holder?_isSome_iff (Nat.zero_le draw),
    holder?_isSome_iff (Nat.zero_le draw), Nat.zero_add, Nat.zero_add, Nat.not_lt]

-- The member where the walk stops has weight, and it is the one selected.
theorem StopsAt.exists_member (h : StopsAt clusters draw position) :
    ∃ member, clusters[position]? = some member ∧ member.weight ≠ 0 ∧
      select clusters draw = member.name := by
  obtain ⟨hle, hlt⟩ := stopsAt_iff.mp h
  have hposition : position < clusters.length := by
    by_contra hge
    rw [List.take_of_length_le (by omega)] at hle hlt
    omega
  have htake := (List.take_append_getElem hposition).symm
  rw [htake, total_append, total_cons, total_nil, Nat.add_zero] at hlt
  have hholder : holder? draw 0 clusters = some clusters[position] := by
    rw [holder?_eq_some_iff (Nat.zero_le draw)]
    refine ⟨clusters.take position, clusters.drop (position + 1), ?_, by omega, by omega⟩
    simp
  refine ⟨clusters[position], List.getElem?_eq_getElem hposition, ?_, ?_⟩
  · intro hzero
    rw [hzero] at hlt
    exact absurd hlt (by simpa using hle)
  · rw [select, hholder]
    rfl

theorem existsUnique_stopsAt (h : draw < total clusters) :
    ∃! position, StopsAt clusters draw position := by
  have hlt : draw < 0 + total clusters := by omega
  obtain ⟨member, hm⟩ := exists_holder? hlt (Nat.zero_le draw)
  obtain ⟨before, after, rfl, hle, hupper⟩ := (holder?_eq_some_iff (Nat.zero_le draw)).mp hm
  have htake : (before ++ member :: after).take (before.length + 1) = before ++ [member] :=
    List.take_length_add_append 1
  refine ⟨before.length, stopsAt_iff.mpr ?_, ?_⟩
  · rw [htake, List.take_left, total_append, total_cons, total_nil]
    omega
  · -- parts do not overlap, since what is passed on the way only grows
    intro position hp
    obtain ⟨hle', hupper'⟩ := stopsAt_iff.mp hp
    rcases Nat.lt_trichotomy position before.length with hless | rfl | hmore
    · have hpart : (before ++ member :: after).take (position + 1) <+: before := by
        rw [List.take_append_of_le_length hless]
        exact List.take_prefix _ _
      have hgrows := total_le_of_isPrefix hpart
      omega
    · rfl
    · have hpart : before ++ [member] <+: (before ++ member :: after).take position := by
        rw [← htake]
        exact List.take_prefix_take_left (by omega)
      have hgrows := total_le_of_isPrefix hpart
      rw [total_append, total_cons, total_nil] at hgrows
      omega

-- Changes to a split that leave everyone with the same share: a member without weight comes in, or
-- a member is divided into several of its name.
inductive Respread : List ClusterWeight → List ClusterWeight → Prop where
  | insert (before after : List ClusterWeight) (idle : ClusterWeight) (h : idle.weight = 0) :
    Respread (before ++ after) (before ++ idle :: after)
  | split (before after : List ClusterWeight) (member : ClusterWeight)
    (parts : List ClusterWeight) (hname : ∀ part ∈ parts, part.name = member.name)
    (hweight : total parts = member.weight.toNat) :
    Respread (before ++ member :: after) (before ++ parts ++ after)

theorem tickets_of_name {parts : List ClusterWeight} {name : String}
    (h : ∀ part ∈ parts, part.name = name) :
    tickets parts = List.replicate (total parts) name := by
  rw [List.eq_replicate_iff, length_tickets]
  refine ⟨rfl, fun other hmem => ?_⟩
  obtain ⟨part, hp, ho⟩ := List.mem_flatMap.mp hmem
  rw [List.eq_of_mem_replicate ho, h part hp]

theorem Respread.tickets_eq (h : Respread clusters other) : tickets other = tickets clusters := by
  cases h with
  | insert before after idle hidle => simp [hidle]
  | split before after member parts hname hweight =>
    simp [tickets_of_name hname, hweight]

theorem tickets_eq_of_respread (h : Relation.ReflTransGen Respread clusters other) :
    tickets other = tickets clusters := by
  induction h with
  | refl => rfl
  | tail _ hlast ih => exact hlast.tickets_eq.trans ih

-- The numbers below the total are shared out by weight. One of them is asked for. Each position of
-- the list has those from the weights before it up to its own, each name as many as its weights add
-- up to, and what leaves all shares as they are changes nothing for any number. No sum on the way
-- overflows a word of 64 bits where the total does not.
theorem selection_apportioned (clusters : List ClusterWeight) :
    (∀ timeoutNanos, RouteAction.selectCluster ⟨timeoutNanos, .weighted clusters⟩ =
      .ask (total clusters) fun draw => .done (select clusters draw)) ∧
    (total clusters < 2 ^ 64 →
      ∀ part, part <+: clusters → (wordTotal part).toNat = total part) ∧
    (∀ draw < total clusters,
      (∀ position, StopsAt clusters draw position ↔
        total (clusters.take position) ≤ draw ∧ draw < total (clusters.take (position + 1))) ∧
      (∃! position, StopsAt clusters draw position) ∧
      ∀ position, StopsAt clusters draw position →
        ∃ member, clusters[position]? = some member ∧ member.weight ≠ 0 ∧
          select clusters draw = member.name) ∧
    (∀ name, (List.range (total clusters)).countP (select clusters · = name) =
      total (clusters.filter (·.name = name))) ∧
    ∀ other, Relation.ReflTransGen Respread clusters other →
      total other = total clusters ∧
        ∀ draw < total clusters, select other draw = select clusters draw := by
  refine ⟨fun _ => rfl, ?_, ?_, ?_, ?_⟩
  · intro h part hp
    have hle := total_le_of_isPrefix hp
    exact toNat_wordTotal_of_lt (by omega)
  · intro draw hlt
    exact ⟨fun _ => stopsAt_iff, existsUnique_stopsAt hlt, fun _ => StopsAt.exists_member⟩
  · intro name
    have hcount := count_tickets name clusters
    rw [← map_select_range, List.count, List.countP_map] at hcount
    rw [← hcount]
    exact List.countP_congr fun draw _ => by simp
  · exact fun other h => select_eq_of_tickets (tickets_eq_of_respread h)

-- A member without weight at the front and one that is divided leave the border between two names
-- where it was.
example :
    [0, 69, 70, 99].map (select [⟨"idle", 0⟩, ⟨"a", 30⟩, ⟨"a", 40⟩, ⟨"b", 30⟩]) =
      ["a", "a", "b", "b"] := by decide

end RpcRouting.ClusterWeight
