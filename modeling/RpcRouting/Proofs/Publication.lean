import RpcRouting.Proofs.Finality
import RpcRouting.Proofs.Session
import Mathlib.Data.List.Perm.Basic

namespace RpcRouting

namespace Stage

-- The version of an update that has put its table in place and has not seen a shutdown since.
def applied? : Stage → Option Nat
  | checking snapshot => some snapshot.version
  | updated (.ok version) => some version
  | _ => none

-- What a step does to versions: it takes the next one, or it leaves no snapshot to be put in place.
theorem Step.version_cases {resolver after : Resolver} {stage next : Stage}
    (h : stage.Step resolver next after) :
    (∃ table, stage.stored? = none ∧ next.stored? = some ⟨resolver.nextVersion, table⟩ ∧
      after.nextVersion = resolver.nextVersion + 1) ∨
    next.stored? = none ∧ after.nextVersion = resolver.nextVersion := by
  cases h with
  | number table => exact .inl ⟨table, rfl, rfl, rfl⟩
  | _ => exact .inr ⟨rfl, rfl⟩

end Stage

namespace SharedResolver

-- The snapshots that have their versions and are yet to be put in place.
def pending (shared : SharedResolver) : List Snapshot := shared.calls.filterMap Stage.stored?

def applied (shared : SharedResolver) : List Nat := shared.calls.filterMap Stage.applied?

-- No update puts its table in place while one with a smaller version has yet to do so.
def InOrder : SharedResolver → List Move → Prop
  | _, [] => True
  | shared, first :: rest =>
    (∀ snapshot, shared.stored? first = some snapshot →
      ∀ other ∈ shared.pending, snapshot.version ≤ other.version) ∧
    InOrder (shared.move first) rest

variable {shared after : SharedResolver} {stored : Option Snapshot} {earlier : List Snapshot}
  {caller : Nat} {stage next : Stage} {resolver : Resolver}

theorem filterMap_called {α : Type} {part : Stage → Option α} (hp : part stage = none) :
    (shared.calls ++ [stage]).filterMap part = shared.calls.filterMap part := by
  simp [hp]

-- What is taken from the calls one by one changes at the call that takes a step.
theorem exists_filterMap_perm {α : Type} (part : Stage → Option α) (next : Stage)
    (hstage : shared.calls[caller]? = some stage) :
    ∃ others, (shared.calls.filterMap part).Perm ((part stage).toList ++ others) ∧
      ((shared.calls.set caller next).filterMap part).Perm ((part next).toList ++ others) := by
  obtain ⟨hlt, rfl⟩ := List.getElem?_eq_some_iff.mp hstage
  have hcons : ∀ stage : Stage, (stage :: shared.calls.eraseIdx caller).filterMap part =
      (part stage).toList ++ (shared.calls.eraseIdx caller).filterMap part := by
    intro stage
    cases hp : part stage <;> simp [hp]
  refine ⟨(shared.calls.eraseIdx caller).filterMap part, ?_, ?_⟩
  · rw [← hcons]
    exact (List.getElem_cons_eraseIdx_perm hlt).symm.filterMap part
  · rw [← hcons]
    exact (List.set_perm_cons_eraseIdx hlt next).filterMap part

-- A move takes the next version for one more snapshot, or it leaves the versions and what is yet to
-- be put in place as they are, but for the snapshot that it puts in place.
theorem pending_moved (hm : shared.Moved stored after) :
    (∃ table, stored = none ∧
      after.pending.Perm (⟨shared.resolver.nextVersion, table⟩ :: shared.pending) ∧
      after.resolver.nextVersion = shared.resolver.nextVersion + 1) ∨
    shared.pending.Perm (stored.toList ++ after.pending) ∧
      after.resolver.nextVersion = shared.resolver.nextVersion := by
  cases hm with
  | update update =>
    refine .inr ⟨.of_eq ?_, rfl⟩
    exact (filterMap_called rfl).symm
  | shutdown =>
    refine .inr ⟨.of_eq ?_, rfl⟩
    exact (filterMap_called rfl).symm
  | idle => exact .inr ⟨.refl _, rfl⟩
  | @advance caller stage next resolver hstage hstep =>
    obtain ⟨others, hbefore, hafter⟩ := exists_filterMap_perm Stage.stored? next hstage
    rcases hstep.version_cases with ⟨table, hnone, hsome, hv⟩ | ⟨hnone, hv⟩
    · rw [hnone] at hbefore
      rw [hsome] at hafter
      exact .inl ⟨table, hnone, hafter.trans (hbefore.symm.cons _), hv⟩
    · rw [hnone] at hafter
      exact .inr ⟨hbefore.trans (hafter.symm.append_left _), hv⟩

-- No move takes more than one version.
theorem nextVersion_run_le (shared : SharedResolver) (moves : List Move) :
    (shared.run moves).resolver.nextVersion ≤ shared.resolver.nextVersion + moves.length := by
  induction moves generalizing shared with
  | nil => exact Nat.le_refl _
  | cons first rest ih =>
    have hfirst : (shared.move first).resolver.nextVersion ≤ shared.resolver.nextVersion + 1 := by
      rcases pending_moved (shared.moved first) with ⟨table, -, -, hv⟩ | ⟨-, hv⟩ <;> omega
    calc (shared.run (first :: rest)).resolver.nextVersion
      _ ≤ (shared.move first).resolver.nextVersion + rest.length := ih (shared.move first)
      _ ≤ shared.resolver.nextVersion + (first :: rest).length := by
        rw [List.length_cons]
        omega

-- The versions taken so far, each once, are those of the snapshots put in place so far and of the
-- snapshots that are yet to be.
def Numbered (earlier : List Snapshot) (shared : SharedResolver) : Prop :=
  ∃ count, shared.resolver.nextVersion = count + 1 ∧
    ((earlier ++ shared.pending).map (·.version)).Perm (List.range' 1 count)

namespace Numbered

theorem start (authority : String) : Numbered [] (start authority) := ⟨0, rfl, .refl _⟩

theorem nodup (h : Numbered earlier shared) :
    ((earlier ++ shared.pending).map (·.version)).Nodup := by
  obtain ⟨count, -, htaken⟩ := h
  exact htaken.nodup_iff.mpr List.nodup_range'

theorem lt_nextVersion (h : Numbered earlier shared) {snapshot : Snapshot}
    (hs : snapshot ∈ earlier ++ shared.pending) :
    snapshot.version < shared.resolver.nextVersion := by
  obtain ⟨count, hcount, htaken⟩ := h
  have hrange := List.mem_range'_1.mp (htaken.mem_iff.mp (List.mem_map_of_mem hs))
  omega

-- A counter of 64 bits gives the versions that were taken, as long as it does not wrap.
theorem mem_wordVersions (h : Numbered earlier shared) {snapshot : Snapshot} {count : Nat}
    (hs : snapshot ∈ earlier ++ shared.pending) (hle : shared.resolver.nextVersion ≤ 1 + count)
    (hcount : count + 1 < UInt64.size) :
    snapshot.version ∈ (wordVersions count 1).map (·.toNat) := by
  obtain ⟨taken, htaken, hperm⟩ := h
  have hversion := List.mem_range'_1.mp (hperm.mem_iff.mp (List.mem_map_of_mem hs))
  rw [toNat_wordVersions (by rw [UInt64.toNat_one]; omega), UInt64.toNat_one, List.mem_range'_1]
  omega

open List in
theorem moved (h : Numbered earlier shared) (hm : shared.Moved stored after) :
    Numbered (earlier ++ stored.toList) after := by
  obtain ⟨count, hcount, htaken⟩ := h
  rcases pending_moved hm with ⟨table, rfl, hp, hv⟩ | ⟨hp, hv⟩
  · refine ⟨count + 1, by rw [hv, hcount], ?_⟩
    let latest : Snapshot := ⟨shared.resolver.nextVersion, table⟩
    have hnew : earlier ++ after.pending ~ (earlier ++ shared.pending) ++ [latest] :=
      (hp.append_left earlier).trans (perm_middle.trans (perm_append_singleton _ _).symm)
    rw [Option.toList_none, List.append_nil]
    calc (earlier ++ after.pending).map (·.version)
      _ ~ ((earlier ++ shared.pending) ++ [latest]).map (·.version) := hnew.map _
      _ = (earlier ++ shared.pending).map (·.version) ++ [count + 1] := by simp [latest, hcount]
      _ ~ List.range' 1 count ++ [count + 1] := htaken.append_right _
      _ = List.range' 1 (count + 1) := by rw [List.range'_1_concat, Nat.add_comm]
  · refine ⟨count, hv.trans hcount, ?_⟩
    rw [List.append_assoc]
    exact ((hp.symm.append_left earlier).map _).trans htaken

end Numbered

-- The snapshots put in place so far have ascending versions, and those on their way have larger
-- ones.
structure Ascending (earlier : List Snapshot) (shared : SharedResolver) : Prop where
  pairwise : (earlier.map (·.version)).Pairwise (· < ·)
  lt_pending : ∀ snapshot ∈ earlier, ∀ other ∈ shared.pending, snapshot.version < other.version

theorem Ascending.start (authority : String) : Ascending [] (start authority) where
  pairwise := .nil
  lt_pending _ hs := absurd hs List.not_mem_nil

theorem Ascending.moved (h : Ascending earlier shared) (hn : Numbered earlier shared)
    (hm : shared.Moved stored after)
    (hle : ∀ snapshot, stored = some snapshot →
      ∀ other ∈ shared.pending, snapshot.version ≤ other.version) :
    Ascending (earlier ++ stored.toList) after := by
  rcases pending_moved hm with ⟨table, rfl, hp, -⟩ | ⟨hp, -⟩
  · rw [Option.toList_none, List.append_nil]
    refine ⟨h.pairwise, fun snapshot hs other ho => ?_⟩
    rcases List.mem_cons.mp (hp.mem_iff.mp ho) with rfl | ho
    · exact hn.lt_nextVersion (List.mem_append_left _ hs)
    · exact h.lt_pending snapshot hs other ho
  · cases stored with
    | none =>
      rw [Option.toList_none, List.append_nil]
      exact ⟨h.pairwise, fun snapshot hs other ho =>
        h.lt_pending snapshot hs other (hp.mem_iff.mpr ho)⟩
    | some latest =>
      have hlatest : latest ∈ shared.pending := hp.mem_iff.mpr List.mem_cons_self
      have hrest : ∀ other ∈ after.pending, other ∈ shared.pending := fun other ho =>
        hp.mem_iff.mpr (List.mem_cons_of_mem _ ho)
      have hne : ∀ other ∈ after.pending, latest.version ≠ other.version := by
        have hnodup : (shared.pending.map (·.version)).Nodup :=
          (List.nodup_append.mp (List.map_append ▸ hn.nodup)).2.1
        rw [(hp.map _).nodup_iff, Option.toList_some, List.singleton_append, List.map_cons,
          List.nodup_cons] at hnodup
        intro other ho he
        exact hnodup.1 (List.mem_map.mpr ⟨other, ho, he.symm⟩)
      refine ⟨?_, fun snapshot hs other ho => ?_⟩
      · rw [Option.toList_some, List.map_append, List.pairwise_append]
        refine ⟨h.pairwise, List.pairwise_singleton _ _, fun version hv version' hv' => ?_⟩
        obtain ⟨snapshot, hs, rfl⟩ := List.mem_map.mp hv
        rw [List.mem_singleton.mp hv']
        exact h.lt_pending snapshot hs latest hlatest
      · rcases List.mem_append.mp hs with hs | hs
        · exact h.lt_pending snapshot hs other (hrest other ho)
        · rw [List.mem_singleton.mp hs]
          exact Nat.lt_of_le_of_ne (hle latest rfl other (hrest other ho)) (hne other ho)

theorem Ascending.run (h : Ascending earlier shared) (hn : Numbered earlier shared)
    (moves : List Move) (ho : InOrder shared moves) :
    Ascending (earlier ++ shared.published moves) (shared.run moves) := by
  induction moves generalizing shared earlier with
  | nil => simpa [published, SharedResolver.run] using h
  | cons first rest ih =>
    have hm := shared.moved first
    rw [published, ← List.append_assoc]
    exact ih (h.moved hn hm ho.1) (hn.moved hm) ho.2

-- A snapshot on its way stays so until it is put in place.
theorem published_or_pending {snapshot : Snapshot} (hs : snapshot ∈ shared.pending)
    (moves : List Move) :
    snapshot ∈ shared.published moves ∨ snapshot ∈ (shared.run moves).pending := by
  refine @published_of_move shared (fun earlier shared => snapshot ∈ earlier ∨
    snapshot ∈ shared.pending) (fun {earlier shared stored after} hm h => ?_) [] (.inr hs) moves
  rcases h with h | h
  · exact .inl (List.mem_append_left _ h)
  · rcases pending_moved hm with ⟨table, rfl, hp, -⟩ | ⟨hp, -⟩
    · exact .inr (hp.mem_iff.mpr (List.mem_cons_of_mem _ h))
    · rcases List.mem_append.mp (hp.mem_iff.mp h) with h | h
      · exact .inl (List.mem_append_right _ h)
      · exact .inr h

theorem inOrder_of_pairwise {moves : List Move} (hnone : (shared.run moves).pending = [])
    (hp : ((shared.published moves).map (·.version)).Pairwise (· < ·)) : InOrder shared moves := by
  induction moves generalizing shared with
  | nil => trivial
  | cons first rest ih =>
    rw [published, List.map_append, List.pairwise_append] at hp
    refine ⟨fun snapshot hs other ho => ?_, ih hnone hp.2.1⟩
    have hfirst : snapshot.version ∈ ((shared.stored? first).toList).map (·.version) := by simp [hs]
    rcases published_or_pending ho (first :: rest) with ho | ho
    · rw [published, hs, Option.toList_some, List.singleton_append, List.mem_cons] at ho
      rcases ho with rfl | ho
      · exact Nat.le_refl _
      · exact Nat.le_of_lt (hp.2.2 _ hfirst _ (List.mem_map_of_mem ho))
    · rw [hnone] at ho
      cases ho

-- The order is kept where no two updates are at once between their versions and their tables.
theorem inOrder_of_length_pending_le_one {moves : List Move}
    (h : ∀ before rest, moves = before ++ rest → (shared.run before).pending.length ≤ 1) :
    InOrder shared moves := by
  induction moves generalizing shared with
  | nil => trivial
  | cons first rest ih =>
    refine ⟨fun snapshot hs other ho => ?_, ih fun before rest he =>
      h (first :: before) rest (congrArg (first :: ·) he)⟩
    have hm := shared.moved first
    rw [hs] at hm
    rcases pending_moved hm with ⟨-, he, -⟩ | ⟨hp, -⟩
    · cases he
    · have hone := h [] (first :: rest) rfl
      have hlength := hp.length_eq
      rw [Option.toList_some, List.length_append, List.length_singleton] at hlength
      have hnone : (shared.move first).pending = [] := by
        refine List.length_eq_zero_iff.mp ?_
        rw [run, List.foldl_nil] at hone
        omega
      rw [hnone] at hp
      have he : other = snapshot := List.mem_singleton.mp (hp.mem_iff.mp ho)
      exact Nat.le_of_eq (congrArg Snapshot.version he.symm)

-- As long as no shutdown has begun, the snapshot that is served is the one put in place last, and
-- each of those put in place belongs to an update that has returned its version or is about to.
structure Served (earlier : List Snapshot) (shared : SharedResolver) : Prop where
  guarded : Guarded shared
  snapshot : shared.resolver.isShutDown = false → shared.resolver.snapshot = earlier.getLast?
  applied : shared.resolver.isShutDown = false → (earlier.map (·.version)).Perm shared.applied

namespace Served

theorem start (authority : String) : Served [] (start authority) where
  guarded := .start authority
  snapshot _ := rfl
  applied _ := .refl _

-- A step that puts no table in place and takes none away.
theorem quiet (h : Served earlier shared) (hstage : shared.calls[caller]? = some stage)
    (hg : Guarded ⟨resolver, shared.calls.set caller next⟩) (hnone : stage.stored? = none)
    (hd : resolver.isShutDown = shared.resolver.isShutDown)
    (hs : resolver.snapshot = shared.resolver.snapshot) (ha : stage.applied? = next.applied?) :
    Served (earlier ++ stage.stored?.toList) ⟨resolver, shared.calls.set caller next⟩ := by
  rw [hnone, Option.toList_none, List.append_nil]
  refine ⟨hg, fun hopen => hs.trans (h.snapshot (hd ▸ hopen)), fun hopen => ?_⟩
  obtain ⟨others, hbefore, hafter⟩ := exists_filterMap_perm Stage.applied? next hstage
  rw [← ha] at hafter
  exact (h.applied (hd ▸ hopen)).trans (hbefore.trans hafter.symm)

-- After a shutdown has begun there is nothing to say.
theorem shut (hg : Guarded after) (hd : after.resolver.isShutDown = true) :
    Served earlier after where
  guarded := hg
  snapshot hopen := absurd hopen (by simp [hd])
  applied hopen := absurd hopen (by simp [hd])

theorem moved (h : Served earlier shared) (hm : shared.Moved stored after) :
    Served (earlier ++ stored.toList) after := by
  have hg := h.guarded.moved hm
  cases hm with
  | update update =>
    rw [Option.toList_none, List.append_nil]
    refine ⟨hg, h.snapshot, fun hopen => (h.applied hopen).trans (.of_eq ?_)⟩
    exact (filterMap_called rfl).symm
  | shutdown =>
    rw [Option.toList_none, List.append_nil]
    refine ⟨hg, h.snapshot, fun hopen => (h.applied hopen).trans (.of_eq ?_)⟩
    exact (filterMap_called rfl).symm
  | idle => simpa using h
  | @advance caller stage next resolver hstage hstep =>
    have hknown := h.guarded.known _ (List.mem_of_getElem? hstage)
    cases hstep with
    | store snapshot =>
      refine ⟨hg, fun _ => by simp [Stage.stored?], fun hopen => ?_⟩
      obtain ⟨others, hbefore, hafter⟩ :=
        exists_filterMap_perm Stage.applied? (.checking snapshot) hstage
      have happlied := (h.applied hopen).trans hbefore
      rw [Stage.stored?, Option.toList_some, List.map_append, List.map_singleton]
      exact (happlied.append_right _).trans ((List.perm_append_singleton _ _).trans hafter.symm)
    | notice snapshot hd => exact shut hg hd
    | clear => exact shut hg (hknown rfl)
    | drop metrics => exact shut hg (hknown rfl)
    | announce => exact shut hg rfl
    | _ => exact h.quiet hstage hg rfl rfl rfl rfl

-- Once all updates have returned, the versions put in place are those that they have returned.
theorem returned_iff (h : Served earlier shared) (hopen : shared.resolver.isShutDown = false)
    (hidle : ∀ stage ∈ shared.calls, stage.isUpdate = false) (version : Nat) :
    .updated (.ok version) ∈ shared.calls ↔ version ∈ earlier.map (·.version) := by
  rw [(h.applied hopen).mem_iff, SharedResolver.applied, List.mem_filterMap]
  refine ⟨fun hmem => ⟨_, hmem, rfl⟩, ?_⟩
  rintro ⟨stage, hmem, ha⟩
  have hu := hidle stage hmem
  cases stage with
  | updated result =>
    cases result with
    | ok returned =>
      cases ha
      exact hmem
    | error error => cases ha
  | checking snapshot => cases hu
  | _ => cases ha

end Served

-- No version is put in place twice, and in fewer than 2^64 moves a counter of 64 bits gives all that
-- are. In a run where no table is put in place before one with a smaller version, the versions
-- ascend, and with nothing left to be put in place they do so in no other run. As long as no
-- shutdown has begun, the table put in place last is served, and once all updates have returned, the
-- versions put in place are those that they have returned. In a run that keeps the order, the one
-- that is served is the greatest of them.
theorem published_versions (authority : String) (moves : List Move) :
    let shared := (start authority).run moves
    let snapshots := (start authority).published moves
    (snapshots.map (·.version)).Nodup ∧
    (moves.length + 1 < UInt64.size → ∀ snapshot ∈ snapshots,
      snapshot.version ∈ (wordVersions moves.length 1).map (·.toNat)) ∧
    (InOrder (start authority) moves → (snapshots.map (·.version)).Pairwise (· < ·)) ∧
    (shared.pending = [] → (snapshots.map (·.version)).Pairwise (· < ·) →
      InOrder (start authority) moves) ∧
    (shared.resolver.isShutDown = false → shared.resolver.snapshot = snapshots.getLast? ∧
      ((∀ stage ∈ shared.calls, stage.isUpdate = false) →
        (∀ version, .updated (.ok version) ∈ shared.calls ↔
          version ∈ snapshots.map (·.version)) ∧
        (InOrder (start authority) moves → ∀ snapshot, shared.resolver.snapshot = some snapshot →
          .updated (.ok snapshot.version) ∈ shared.calls ∧
          ∀ version, .updated (.ok version) ∈ shared.calls → version ≤ snapshot.version))) := by
  intro shared snapshots
  have hnumbered : Numbered snapshots shared :=
    published_of_move (fun hm h => Numbered.moved h hm) (.start authority) moves
  have hserved : Served snapshots shared :=
    published_of_move (fun hm h => Served.moved h hm) (.start authority) moves
  have hascending : InOrder (start authority) moves →
      (snapshots.map (·.version)).Pairwise (· < ·) := fun horder =>
    (Ascending.run (.start authority) (.start authority) moves horder).pairwise
  refine ⟨?_, ?_, hascending, inOrder_of_pairwise, fun hopen => ⟨hserved.snapshot hopen, ?_⟩⟩
  · exact (List.nodup_append.mp (List.map_append ▸ hnumbered.nodup)).1
  · exact fun hmoves snapshot hs =>
      hnumbered.mem_wordVersions (List.mem_append_left _ hs) (nextVersion_run_le _ moves) hmoves
  · intro hidle
    have hreturned := hserved.returned_iff hopen hidle
    refine ⟨hreturned, fun horder snapshot hs => ?_⟩
    rw [hserved.snapshot hopen, List.getLast?_eq_some_iff] at hs
    obtain ⟨others, hothers⟩ := hs
    refine ⟨(hreturned _).mpr (by simp [hothers]), fun version hv => ?_⟩
    have hpairwise := hascending horder
    have hmem := (hreturned version).mp hv
    rw [hothers, List.map_append, List.map_singleton] at hpairwise hmem
    rcases List.mem_append.mp hmem with hmem | hmem
    · exact Nat.le_of_lt ((List.pairwise_append.mp hpairwise).2.2 _ hmem _ List.mem_cons_self)
    · exact Nat.le_of_eq (List.mem_singleton.mp hmem)

-- Two updates take their versions in one order and put their tables in place in the other.
def overtaking : List Move :=
  [.update (catchAll "older"), .update (catchAll "newer")] ++
    [0, 0, 0, 1, 1, 1, 1, 1, 0, 0].map .advance

theorem older_served_after_overtaking :
    let shared := (start "service").run overtaking
    let versions := ((start "service").published overtaking).map (·.version)
    versions = [2, 1] ∧ ¬versions.Pairwise (· < ·) ∧ shared.resolver.isShutDown = false ∧
    shared.calls = [.updated (.ok 1), .updated (.ok 2)] ∧
    shared.resolver.snapshot.map (·.version) = some 1 :=
  ⟨rfl, by decide, rfl, rfl, rfl⟩

end SharedResolver

end RpcRouting
