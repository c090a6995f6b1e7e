import RpcRouting.Route.RouteAction
import Mathlib.Algebra.Group.Nat.Defs

namespace RpcRouting.ClusterWeight

@[simp] theorem total_nil : total [] = 0 := rfl

@[simp] theorem total_cons (cluster : ClusterWeight) (rest : List ClusterWeight) :
    total (cluster :: rest) = cluster.weight.toNat + total rest := rfl

@[simp] theorem total_append (before after : List ClusterWeight) :
    total (before ++ after) = total before + total after := by
  induction before with
  | nil => simp
  | cons cluster rest ih => simp [ih, Nat.add_assoc]

-- What has been added up part of the way never exceeds the total.
theorem total_le_of_isPrefix {before clusters : List ClusterWeight} (h : before <+: clusters) :
    total before ≤ total clusters := by
  obtain ⟨after, rfl⟩ := h
  simp

-- The sum of the weights in words of 64 bits.
def wordTotal (clusters : List ClusterWeight) : UInt64 :=
  clusters.foldr (fun cluster sum => cluster.weight.toUInt64 + sum) 0

theorem total_le (clusters : List ClusterWeight) :
    total clusters ≤ clusters.length * (2 ^ 32 - 1) := by
  induction clusters with
  | nil => simp
  | cons cluster rest ih =>
    have hw := cluster.weight.toNat_lt
    rw [total_cons, List.length_cons, Nat.succ_mul]
    omega

-- Such words do not overflow where the sum fits into one.
theorem toNat_wordTotal_of_lt {clusters : List ClusterWeight} (h : total clusters < 2 ^ 64) :
    (wordTotal clusters).toNat = total clusters := by
  induction clusters with
  | nil => rfl
  | cons cluster rest ih =>
    rw [total_cons] at h
    have hr : total rest < 2 ^ 64 := by omega
    change (cluster.weight.toUInt64 + wordTotal rest).toNat = _
    rw [UInt64.toNat_add, ih hr, UInt32.toNat_toUInt64, total_cons, Nat.mod_eq_of_lt h]

-- Less than 2^32 weights cannot make such words overflow.
theorem toNat_wordTotal {clusters : List ClusterWeight} (h : clusters.length < 2 ^ 32) :
    (wordTotal clusters).toNat = total clusters := by
  apply toNat_wordTotal_of_lt
  have hle := total_le clusters
  omega

-- A number is held by the member whose part it falls into: not below the parts before, and below
-- the end of its own.
theorem holder?_eq_some_iff {draw passed : Nat} {clusters : List ClusterWeight}
    {member : ClusterWeight} (h : passed ≤ draw) :
    holder? draw passed clusters = some member ↔
      ∃ before after, clusters = before ++ member :: after ∧
        passed + total before ≤ draw ∧
        draw < passed + total before + member.weight.toNat := by
  induction clusters generalizing passed with
  | nil => simp [holder?]
  | cons cluster rest ih =>
    simp only [holder?]
    split
    · rename_i hlt
      constructor
      · intro he
        cases he
        exact ⟨[], rest, rfl, h, hlt⟩
      · rintro ⟨before, after, he, hle, -⟩
        cases before with
        | nil =>
          cases he
          rfl
        | cons first others =>
          cases he
          simp only [total_cons] at hle
          omega
    · rename_i hge
      rw [ih (Nat.not_lt.mp hge)]
      constructor
      · rintro ⟨before, after, rfl, hle, hlt⟩
        exact ⟨cluster :: before, after, rfl, by rw [total_cons]; omega, by rw [total_cons]; omega⟩
      · rintro ⟨before, after, he, hle, hlt⟩
        cases before with
        | nil =>
          cases he
          exact absurd hlt hge
        | cons first others =>
          cases he
          rw [total_cons] at hle hlt
          exact ⟨others, after, rfl, by omega, by omega⟩

-- Below the total, every number is held.
theorem exists_holder? {draw passed : Nat} {clusters : List ClusterWeight}
    (h : draw < passed + total clusters) (hp : passed ≤ draw) :
    ∃ member, holder? draw passed clusters = some member := by
  induction clusters generalizing passed with
  | nil =>
    simp only [total_nil] at h
    omega
  | cons cluster rest ih =>
    simp only [holder?]
    split
    · exact ⟨cluster, rfl⟩
    · rename_i hge
      rw [total_cons] at h
      exact ih (by omega) (by omega)

end RpcRouting.ClusterWeight
