import RpcRouting.Resolver.Session
import Mathlib.Data.List.Induction
import Mathlib.Data.List.TakeWhile

namespace RpcRouting

namespace Resolver

variable {resolver : Resolver} {update : Wire.RouteConfigurationUpdate}

-- The second resolver is the first, except for what has been counted.
def EqButMetrics (before after : Resolver) : Prop :=
  after = { before with metrics := after.metrics }

theorem update_of_isShutDown (h : resolver.isShutDown = true) :
    resolver.update update = (.error .shutDown, resolver) := by
  simp [Resolver.update, h]

theorem update_of_error {error : UpdateError} (h : resolver.isShutDown = false)
    (hb : RouteTable.build update.upgrade resolver.authority = .error error) :
    (resolver.update update).1 = .error error ∧
      resolver.EqButMetrics (resolver.update update).2 := by
  simp [Resolver.update, h, hb, EqButMetrics]

theorem update_of_ok {table : RouteTable} {skipped : Nat} (h : resolver.isShutDown = false)
    (hb : RouteTable.build update.upgrade resolver.authority = .ok (table, skipped)) :
    (resolver.update update).1 = .ok resolver.nextVersion ∧
      Resolver.EqButMetrics
        { resolver with
          snapshot := some ⟨resolver.nextVersion, table⟩
          nextVersion := resolver.nextVersion + 1 }
        (resolver.update update).2 := by
  simp [Resolver.update, h, hb, EqButMetrics]

theorem update_eq_error_iff {error : UpdateError} (h : resolver.isShutDown = false) :
    (resolver.update update).1 = .error error ↔
      RouteTable.build update.upgrade resolver.authority = .error error := by
  cases hb : RouteTable.build update.upgrade resolver.authority with
  | error other => rw [(update_of_error h hb).1, Except.error.injEq, Except.error.injEq]
  | ok built =>
    rw [(update_of_ok h hb).1]
    exact iff_of_false nofun nofun

theorem resolve_of_none (h : resolver.snapshot = none) (path : String) (headers : Headers) :
    resolver.resolve path headers =
      pure (.error .notLoaded,
        { resolver with metrics := count resolver.metrics (.error .notLoaded) }) := by
  simp [resolve, h]

theorem resolve_of_some {snapshot : Snapshot} (h : resolver.snapshot = some snapshot)
    (path : String) (headers : Headers) :
    resolver.resolve path headers = do
      let result ← decide snapshot.table path headers
      return (result, { resolver with metrics := count resolver.metrics result }) := by
  simp [resolve, h]

-- Whatever is drawn, routing a request only counts.
theorem resolve_eqButMetrics {σ : Type} (answer : Nat → σ → Nat × σ) (source : σ) (path : String)
    (headers : Headers) :
    resolver.EqButMetrics ((resolver.resolve path headers).run answer source).value.2 := by
  cases h : resolver.snapshot with
  | none =>
    rw [resolve_of_none h]
    rfl
  | some snapshot =>
    rw [resolve_of_some h, Draw.run_bind]
    rfl

end Resolver

-- The table that a call would install, if it is an update that compiles.
def Call.table? (authority : String) : Call → Option RouteTable
  | .update given => (RouteTable.build given.upgrade authority).toOption.map (·.1)
  | _ => none

theorem Call.table?_of_ok {authority : String} {update : Wire.RouteConfigurationUpdate}
    {table : RouteTable} {skipped : Nat}
    (h : RouteTable.build update.upgrade authority = .ok (table, skipped)) :
    (Call.update update).table? authority = some table := by
  simp [Call.table?, h, Except.toOption]

theorem Call.table?_of_error {authority : String} {update : Wire.RouteConfigurationUpdate}
    {error : UpdateError} (h : RouteTable.build update.upgrade authority = .error error) :
    (Call.update update).table? authority = none := by
  simp [Call.table?, h, Except.toOption]

-- The tables that some calls install, one after another. After a shutdown nothing is installed.
def accepted (authority : String) (calls : List Call) : List RouteTable :=
  (calls.takeWhile (· != .shutdown)).filterMap (·.table? authority)

variable {authority : String} {calls : List Call} {call : Call}

theorem takeWhile_eq_self (h : .shutdown ∉ calls) : calls.takeWhile (· != .shutdown) = calls :=
  List.takeWhile_eq_self_iff.mpr fun _ hc => bne_iff_ne.mpr fun he => h (he ▸ hc)

theorem accepted_concat_of_mem (h : .shutdown ∈ calls) :
    accepted authority (calls ++ [call]) = accepted authority calls := by
  have hlt : ¬ (calls.takeWhile (· != .shutdown)).length = calls.length := by
    intro he
    have hself := (List.takeWhile_prefix (· != Call.shutdown)).eq_of_length he
    simpa using List.takeWhile_eq_self_iff.mp hself _ h
  rw [accepted, List.takeWhile_append, if_neg hlt, accepted]

theorem accepted_concat_of_notMem (h : .shutdown ∉ calls) :
    accepted authority (calls ++ [call]) =
      accepted authority calls ++ (call.table? authority).toList := by
  rw [accepted, List.takeWhile_append, takeWhile_eq_self h, if_pos rfl, List.filterMap_append,
    accepted, takeWhile_eq_self h]
  congr 1
  by_cases hc : call = .shutdown
  · subst hc
    rfl
  · cases ht : call.table? authority <;> simp [hc, ht]

theorem accepted_concat_of_table?_eq_none (h : call.table? authority = none) :
    accepted authority (calls ++ [call]) = accepted authority calls := by
  by_cases hm : .shutdown ∈ calls
  · exact accepted_concat_of_mem hm
  · rw [accepted_concat_of_notMem hm, h, Option.toList_none, List.append_nil]

theorem mem_accepted {table : RouteTable} (h : table ∈ accepted authority calls) :
    ∃ update skipped, .update update ∈ calls ∧
      RouteTable.build update.upgrade authority = .ok (table, skipped) := by
  obtain ⟨call, hc, ht⟩ := List.mem_filterMap.mp h
  have hmem : call ∈ calls := (List.takeWhile_sublist _).subset hc
  cases call with
  | update update =>
    cases hb : RouteTable.build update.upgrade authority with
    | error error =>
      rw [Call.table?_of_error hb] at ht
      cases ht
    | ok built =>
      obtain ⟨built, skipped⟩ := built
      rw [Call.table?_of_ok hb] at ht
      cases ht
      exact ⟨update, skipped, hmem, hb⟩
  | resolve path headers => cases ht
  | snapshot => cases ht
  | shutdown => cases ht

theorem length_accepted_le (authority : String) (calls : List Call) :
    (accepted authority calls).length ≤ calls.length :=
  (List.length_filterMap_le _ _).trans (List.takeWhile_prefix _).length_le

-- The versions that a counter of 64 bits gives one after another. It wraps.
def wordVersions : Nat → UInt64 → List UInt64
  | 0, _ => []
  | count + 1, next => next :: wordVersions count (next + 1)

theorem toNat_wordVersions {count : Nat} {next : UInt64} (h : next.toNat + count < UInt64.size) :
    (wordVersions count next).map (·.toNat) = List.range' next.toNat count := by
  induction count generalizing next with
  | zero => rfl
  | succ count ih =>
    have hlt : next.toNat + 1 < UInt64.size := by omega
    have hnext : (next + 1).toNat = next.toNat + 1 := by
      rw [UInt64.toNat_add, UInt64.toNat_one]
      exact Nat.mod_eq_of_lt hlt
    rw [wordVersions, List.map_cons, List.range'_succ, ih (by omega), hnext]

-- The last of several tables, numbered from one.
def newest (tables : List RouteTable) : Option Snapshot :=
  tables.getLast?.map fun table => ⟨tables.length, table⟩

-- What some calls have made of a fresh resolver. Versions count the accepted updates.
structure Reached (authority : String) (calls : List Call) (resolver : Resolver) : Prop where
  authority_eq : resolver.authority = authority
  isShutDown_iff : resolver.isShutDown = true ↔ .shutdown ∈ calls
  nextVersion_eq : resolver.nextVersion = (accepted authority calls).length + 1
  snapshot_of_notMem : .shutdown ∉ calls → resolver.snapshot = newest (accepted authority calls)
  snapshot_of_mem : .shutdown ∈ calls → resolver.snapshot = none

namespace Reached

variable {resolver : Resolver}

theorem start (authority : String) : Reached authority [] { authority } where
  authority_eq := rfl
  isShutDown_iff := by simp
  nextVersion_eq := rfl
  snapshot_of_notMem := fun _ => rfl
  snapshot_of_mem := fun _ => rfl

theorem isShutDown_eq_false (h : Reached authority calls resolver) (hn : .shutdown ∉ calls) :
    resolver.isShutDown = false := by
  rw [← Bool.not_eq_true, h.isShutDown_iff]
  exact hn

-- What is published was built from one of the updates.
theorem exists_update (h : Reached authority calls resolver) {snapshot : Snapshot}
    (hs : resolver.snapshot = some snapshot) :
    ∃ update skipped, .update update ∈ calls ∧
      RouteTable.build update.upgrade authority = .ok (snapshot.table, skipped) := by
  by_cases hm : .shutdown ∈ calls
  · rw [h.snapshot_of_mem hm] at hs
    cases hs
  · rw [h.snapshot_of_notMem hm, newest, Option.map_eq_some_iff] at hs
    obtain ⟨table, ht, rfl⟩ := hs
    exact mem_accepted (List.mem_of_getLast? ht)

-- A call that installs nothing and does not shut down leaves all that matters in place.
theorem keep (h : Reached authority calls resolver) {after : Resolver}
    (he : resolver.EqButMetrics after) (hc : call ≠ .shutdown)
    (ha : accepted authority (calls ++ [call]) = accepted authority calls) :
    Reached authority (calls ++ [call]) after := by
  have hm : .shutdown ∈ calls ++ [call] ↔ .shutdown ∈ calls := by simp [hc.symm]
  constructor
  · rw [he]; exact h.authority_eq
  · rw [he, hm]; exact h.isShutDown_iff
  · rw [he, ha]; exact h.nextVersion_eq
  · rw [he, ha, hm]; exact h.snapshot_of_notMem
  · rw [he, hm]; exact h.snapshot_of_mem

-- An accepted update takes the next version.
theorem install (h : Reached authority calls resolver) {after : Resolver} {table : RouteTable}
    (hn : .shutdown ∉ calls) (hc : call ≠ .shutdown) (ht : call.table? authority = some table)
    (he : Resolver.EqButMetrics
      { resolver with
        snapshot := some ⟨resolver.nextVersion, table⟩
        nextVersion := resolver.nextVersion + 1 } after) :
    Reached authority (calls ++ [call]) after := by
  have ha : accepted authority (calls ++ [call]) = accepted authority calls ++ [table] := by
    rw [accepted_concat_of_notMem hn, ht, Option.toList_some]
  have hm : .shutdown ∉ calls ++ [call] := by simp [hn, hc.symm]
  constructor
  · rw [he]; exact h.authority_eq
  · rw [he, ← not_iff_not]; simp [hm, h.isShutDown_eq_false hn]
  · rw [he, ha]; simp [h.nextVersion_eq]
  · rw [he, ha]; simp [newest, h.nextVersion_eq]
  · exact fun hmem => absurd hmem hm

theorem shutdown (h : Reached authority calls resolver) :
    Reached authority (calls ++ [.shutdown]) resolver.shutdown := by
  have ha : accepted authority (calls ++ [.shutdown]) = accepted authority calls :=
    accepted_concat_of_table?_eq_none rfl
  constructor
  · exact h.authority_eq
  · simp [Resolver.shutdown]
  · rw [ha]; exact h.nextVersion_eq
  · simp
  · exact fun _ => rfl

end Reached

namespace Session

variable {σ : Type} (answer : Nat → σ → Nat × σ) {session : Session σ}

theorem run_concat (calls : List Call) (call : Call) :
    session.run answer (calls ++ [call]) =
      let (replies, reached) := session.run answer calls
      let (reply, next) := reached.call answer call
      (replies ++ [reply], next) := by
  induction calls generalizing session with
  | nil => rfl
  | cons first rest ih => simp only [List.cons_append, run, ih]

theorem call_update_of_mem (h : Reached authority calls session.resolver)
    (hm : .shutdown ∈ calls) (update : Wire.RouteConfigurationUpdate) :
    session.call answer (.update update) = (.updated (.error .shutDown), session) := by
  simp only [Session.call, Resolver.update_of_isShutDown (h.isShutDown_iff.mpr hm)]

theorem call_update_of_error (h : Reached authority calls session.resolver)
    (hn : .shutdown ∉ calls) {update : Wire.RouteConfigurationUpdate} {error : UpdateError}
    (hb : RouteTable.build update.upgrade authority = .error error) :
    (session.call answer (.update update)).1 = .updated (.error error) ∧
      session.resolver.EqButMetrics (session.call answer (.update update)).2.resolver ∧
      (session.call answer (.update update)).2.source = session.source := by
  rw [← h.authority_eq] at hb
  obtain ⟨hr, he⟩ := Resolver.update_of_error (h.isShutDown_eq_false hn) hb
  exact ⟨congrArg Reply.updated hr, he, rfl⟩

theorem call_update_of_ok (h : Reached authority calls session.resolver)
    (hn : .shutdown ∉ calls) {update : Wire.RouteConfigurationUpdate} {table : RouteTable}
    {skipped : Nat} (hb : RouteTable.build update.upgrade authority = .ok (table, skipped)) :
    (session.call answer (.update update)).1 =
        .updated (.ok ((accepted authority calls).length + 1)) ∧
      Reached authority (calls ++ [.update update])
        (session.call answer (.update update)).2.resolver ∧
      (session.call answer (.update update)).2.source = session.source := by
  have hb' : RouteTable.build update.upgrade session.resolver.authority = .ok (table, skipped) := by
    rw [h.authority_eq]
    exact hb
  obtain ⟨hr, he⟩ := Resolver.update_of_ok (h.isShutDown_eq_false hn) hb'
  refine ⟨?_, h.install hn (by simp) (Call.table?_of_ok hb) he, rfl⟩
  rw [← h.nextVersion_eq]
  exact congrArg Reply.updated hr

theorem call_resolve_of_mem (h : Reached authority calls session.resolver)
    (hm : .shutdown ∈ calls) (path : String) (headers : Headers) :
    (session.call answer (.resolve path headers)).1 = .resolved (.error .notLoaded) ∧
      (session.call answer (.resolve path headers)).2.source = session.source := by
  simp only [Session.call, Resolver.resolve_of_none (h.snapshot_of_mem hm)]
  exact ⟨rfl, rfl⟩

-- What one call does to the state that earlier calls have left. Versions run on without a gap.
theorem reached_call (h : Reached authority calls session.resolver) (call : Call) :
    Reached authority (calls ++ [call]) (session.call answer call).2.resolver ∧
      List.range' 1 (accepted authority (calls ++ [call])).length =
        List.range' 1 (accepted authority calls).length ++
          (session.call answer call).1.version?.toList := by
  cases call with
  | update update =>
    by_cases hm : .shutdown ∈ calls
    · have ha : accepted authority (calls ++ [.update update]) = accepted authority calls :=
        accepted_concat_of_mem hm
      rw [call_update_of_mem answer h hm]
      exact ⟨h.keep rfl (by simp) ha, by simp [ha, Reply.version?]⟩
    · cases hb : RouteTable.build update.upgrade authority with
      | error error =>
        obtain ⟨hr, he, -⟩ := call_update_of_error answer h hm hb
        have ha : accepted authority (calls ++ [.update update]) = accepted authority calls :=
          accepted_concat_of_table?_eq_none (Call.table?_of_error hb)
        exact ⟨h.keep he (by simp) ha, by simp [ha, hr, Reply.version?]⟩
      | ok built =>
        obtain ⟨table, skipped⟩ := built
        obtain ⟨hr, hreached, -⟩ := call_update_of_ok answer h hm hb
        refine ⟨hreached, ?_⟩
        rw [accepted_concat_of_notMem hm, Call.table?_of_ok hb, hr]
        rw [List.length_append, Option.toList_some, List.length_singleton, List.range'_1_concat,
          Nat.add_comm 1]
        rfl
  | resolve path headers =>
    have ha : accepted authority (calls ++ [.resolve path headers]) = accepted authority calls :=
      accepted_concat_of_table?_eq_none rfl
    exact ⟨h.keep (Resolver.resolve_eqButMetrics answer session.source path headers) (by simp) ha,
      by simp [ha, Session.call, Reply.version?]⟩
  | snapshot =>
    have ha : accepted authority (calls ++ [.snapshot]) = accepted authority calls :=
      accepted_concat_of_table?_eq_none rfl
    exact ⟨h.keep rfl (by simp) ha, by simp [ha, Session.call, Reply.version?]⟩
  | shutdown =>
    have ha : accepted authority (calls ++ [.shutdown]) = accepted authority calls :=
      accepted_concat_of_table?_eq_none rfl
    exact ⟨h.shutdown, by simp [ha, Session.call, Reply.version?]⟩

theorem reached_run (authority : String) (source : σ)
    (calls : List Call) :
    Reached authority calls ((start authority source).run answer calls).2.resolver ∧
      ((start authority source).run answer calls).1.filterMap Reply.version? =
        List.range' 1 (accepted authority calls).length := by
  induction calls using List.reverseRecOn with
  | nil => exact ⟨Reached.start authority, rfl⟩
  | append_singleton calls call ih =>
    obtain ⟨hreached, hversions⟩ := ih
    obtain ⟨hnext, hrange⟩ := reached_call answer hreached call
    rw [run_concat]
    refine ⟨hnext, ?_⟩
    rw [List.filterMap_append, hversions, hrange, List.append_cancel_left_eq, List.filterMap_cons,
      List.filterMap_nil]
    cases (((start authority source).run answer calls).2.call answer call).1.version? <;> rfl

-- Everything a resolver does over a run of calls. `calls` are those made so far. What is said of
-- the next call holds for each call of a longer run in turn. Fewer than 2^64 calls cannot make a
-- counter of 64 bits wrap.
theorem run_calls (authority : String) (source : σ)
    (calls : List Call) :
    let (replies, reached) := (start authority source).run answer calls
    let tables := accepted authority calls
    replies.filterMap Reply.version? = List.range' 1 tables.length ∧
    (calls.length + 1 < UInt64.size →
      (wordVersions tables.length 1).map (·.toNat) = replies.filterMap Reply.version?) ∧
    (.shutdown ∉ calls →
      reached.resolver.snapshot = newest tables ∧
      (∀ update table skipped, RouteTable.build update.upgrade authority = .ok (table, skipped) →
        (reached.call answer (.update update)).1 = .updated (.ok (tables.length + 1)) ∧
        (reached.call answer (.update update)).2.resolver.snapshot =
          some ⟨tables.length + 1, table⟩ ∧
        (reached.call answer (.update update)).2.source = reached.source) ∧
      ∀ update error, RouteTable.build update.upgrade authority = .error error →
        (reached.call answer (.update update)).1 = .updated (.error error) ∧
        reached.resolver.EqButMetrics (reached.call answer (.update update)).2.resolver ∧
        (reached.call answer (.update update)).2.source = reached.source) ∧
    (∀ path headers,
      reached.resolver.EqButMetrics (reached.call answer (.resolve path headers)).2.resolver) ∧
    reached.call answer .snapshot = (.snapshot reached.resolver.snapshot, reached) ∧
    (.shutdown ∈ calls →
      reached.resolver.snapshot = none ∧
      (∀ update,
        reached.call answer (.update update) = (.updated (.error .shutDown), reached)) ∧
      ∀ path headers,
        (reached.call answer (.resolve path headers)).1 = .resolved (.error .notLoaded) ∧
        (reached.call answer (.resolve path headers)).2.source = reached.source) := by
  obtain ⟨h, hversions⟩ := reached_run answer authority source calls
  refine ⟨hversions, ?_, ?_, ?_, rfl, ?_⟩
  · intro hcalls
    have hlength := length_accepted_le authority calls
    rw [hversions]
    exact toNat_wordVersions (by rw [UInt64.toNat_one]; omega)
  · intro hn
    refine ⟨h.snapshot_of_notMem hn, ?_, fun update error hb => call_update_of_error answer h hn hb⟩
    intro update table skipped hb
    obtain ⟨hr, hreached, hs⟩ := call_update_of_ok answer h hn hb
    refine ⟨hr, ?_, hs⟩
    rw [hreached.snapshot_of_notMem (by simp [hn]), accepted_concat_of_notMem hn,
      Call.table?_of_ok hb]
    simp [newest]
  · exact fun path headers => Resolver.resolve_eqButMetrics answer _ path headers
  · intro hm
    exact ⟨h.snapshot_of_mem hm, call_update_of_mem answer h hm, call_resolve_of_mem answer h hm⟩

end Session

end RpcRouting
