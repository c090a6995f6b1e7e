import RpcRouting.Proofs.Compilation
import RpcRouting.Proofs.Session
import Mathlib.Algebra.Ring.Int.Defs

namespace RpcRouting

-- What is counted one by one.
inductive Tally where
  | accepted
  | rejected
  | matched
  | noMatch
  | notLoaded
deriving DecidableEq

def Metrics.get (metrics : Metrics) : Tally → Nat
  | .accepted => metrics.accepted
  | .rejected => metrics.rejected
  | .matched => metrics.matched
  | .noMatch => metrics.noMatch
  | .notLoaded => metrics.notLoaded

-- Where a reply is to be counted. An update that is refused after shutdown counts nowhere.
def Reply.tally? : Reply → Option Tally
  | .updated (.ok _) => some .accepted
  | .updated (.error (.noVirtualHost _ _)) => some .rejected
  | .updated (.error (.rejected _ _)) => some .rejected
  | .updated (.error .shutDown) => none
  | .resolved (.ok _) => some .matched
  | .resolved (.error (.noMatchingRoute _)) => some .noMatch
  | .resolved (.error .notLoaded) => some .notLoaded
  | .snapshot _ => none
  | .shutDown => none

theorem Reply.tally?_eq_accepted (reply : Reply) :
    (reply.tally? == some .accepted) = reply.version?.isSome := by
  cases reply with
  | updated result =>
    cases result with
    | ok version => rfl
    | error error => cases error <;> rfl
  | resolved result =>
    cases result with
    | ok decision => rfl
    | error error => cases error <;> rfl
  | snapshot current => rfl
  | shutDown => rfl

-- The routes of the host that is selected for an authority, as the configuration lists them.
def Wire.RouteConfiguration.servedRoutes (config : RouteConfiguration .v3) (authority : String) :
    List (Route .v3) :=
  match VirtualHost.select? config.virtualHosts authority with
  | some host => host.routes
  | none => []

-- A call with its reply and the snapshot that stands after it.
structure Entry where
  call : Call
  reply : Reply
  snapshot : Option Snapshot

-- How many routes of the selected host are missing from the table that an accepted update has put
-- in place. No other call leaves routes out.
def Entry.leftOut (authority : String) (entry : Entry) : Int :=
  match entry.call, entry.reply, entry.snapshot with
  | .update update, .updated (.ok _), some snapshot =>
    (update.upgrade.servedRoutes authority).length - snapshot.table.virtualHost.routes.length
  | _, _, _ => 0

-- The entries of a run, one for each call.
def Session.journal {σ : Type} (answer : Nat → σ → Nat × σ) :
    Session σ → List Call → List Entry
  | _, [] => []
  | session, first :: rest =>
    let (reply, next) := session.call answer first
    ⟨first, reply, next.resolver.snapshot⟩ :: journal answer next rest

theorem RouteTable.length_add_skipped_of_build {config : Wire.RouteConfiguration .v3}
    {authority : String} {table : RouteTable} {skipped : Nat}
    (h : build config authority = .ok (table, skipped)) :
    table.virtualHost.routes.length + skipped = (config.servedRoutes authority).length := by
  obtain ⟨wire, hs, hv⟩ := build_eq_ok h
  rw [Wire.RouteConfiguration.servedRoutes, hs]
  exact Compile.length_add_skipped_of_virtualHost hv

theorem RouteTable.build_ne_shutDown (config : Wire.RouteConfiguration .v3) (authority : String) :
    build config authority ≠ .error .shutDown := by
  intro h
  rcases build_eq_error h with ⟨-, he⟩ | ⟨wire, cause, -, -, he⟩ <;> cases he

-- The counts after some calls are those before, with what the entries of the calls add to them.
structure Accounts (authority : String) (before after : Metrics) (entries : List Entry) :
    Prop where
  get : ∀ tally, after.get tally =
    before.get tally + (entries.filterMap (·.reply.tally?)).count tally
  skipped : (after.skipped : Int) = before.skipped + (entries.map (Entry.leftOut authority)).sum

namespace Accounts

variable {authority : String} {before middle after : Metrics} {entry : Entry}
  {entries : List Entry}

theorem nil (authority : String) (metrics : Metrics) : Accounts authority metrics metrics [] where
  get := by simp
  skipped := by simp

theorem cons (h : Accounts authority before middle [entry])
    (hrest : Accounts authority middle after entries) :
    Accounts authority before after (entry :: entries) where
  get tally := by
    have hsplit : (entry :: entries).filterMap (·.reply.tally?) =
        [entry].filterMap (·.reply.tally?) ++ entries.filterMap (·.reply.tally?) :=
      List.filterMap_append (l := [entry])
    rw [hrest.get, h.get, hsplit, List.count_append, Nat.add_assoc]
  skipped := by
    rw [hrest.skipped, h.skipped, List.map_singleton, List.sum_singleton, List.map_cons,
      List.sum_cons, Int.add_assoc]

-- A call that is counted under one heading adds one to it, and a call that is not changes nothing.

theorem counted {tally : Tally} (ht : entry.reply.tally? = some tally)
    (hl : entry.leftOut authority = after.skipped - before.skipped)
    (hget : ∀ other, after.get other = before.get other + if tally = other then 1 else 0) :
    Accounts authority before after [entry] where
  get other := by
    have hkind : [entry].filterMap (·.reply.tally?) = [tally] := by simp [ht]
    rw [hget, hkind, List.count_singleton]
    simp only [beq_iff_eq]
  skipped := by
    rw [List.map_singleton, List.sum_singleton, hl]
    omega

theorem uncounted {metrics : Metrics} (ht : entry.reply.tally? = none)
    (hl : entry.leftOut authority = 0) (hget : ∀ other, metrics.get other = before.get other)
    (hs : metrics.skipped = before.skipped) : Accounts authority before metrics [entry] where
  get other := by simp [ht, hget]
  skipped := by simp [hl, hs]

end Accounts

namespace Resolver

-- The three ends of an update: it is refused after shutdown, it is rejected, or its table is put in
-- place. Routes that were skipped count at the last of these alone.
theorem accounts_update (resolver : Resolver) (update : Wire.RouteConfigurationUpdate) :
    Accounts resolver.authority resolver.metrics (resolver.update update).2.metrics
      [⟨.update update, .updated (resolver.update update).1,
        (resolver.update update).2.snapshot⟩] := by
  by_cases hd : resolver.isShutDown = true
  · rw [update_of_isShutDown hd]
    exact .uncounted rfl rfl (fun _ => rfl) rfl
  · cases hb : RouteTable.build update.upgrade resolver.authority with
    | error error =>
      have hupdate : resolver.update update = (.error error, { resolver with
          metrics := { resolver.metrics with rejected := resolver.metrics.rejected + 1 } }) := by
        simp [Resolver.update, hd, hb]
      have ht : Reply.tally? (.updated (.error error)) = some .rejected := by
        rcases RouteTable.build_eq_error hb with ⟨-, rfl⟩ | ⟨wire, cause, -, -, rfl⟩ <;> rfl
      rw [hupdate]
      refine .counted ht ?_ fun other => by cases other <;> rfl
      simp [Entry.leftOut]
    | ok built =>
      obtain ⟨table, skipped⟩ := built
      have hlength := RouteTable.length_add_skipped_of_build hb
      have hupdate : resolver.update update = (.ok resolver.nextVersion, { resolver with
          snapshot := some ⟨resolver.nextVersion, table⟩
          nextVersion := resolver.nextVersion + 1
          metrics := { resolver.metrics with
            accepted := resolver.metrics.accepted + 1
            skipped := resolver.metrics.skipped + skipped
            active := some table.virtualHost.routes.length } }) := by
        simp [Resolver.update, hd, hb]
      rw [hupdate]
      refine .counted rfl ?_ fun other => by cases other <;> rfl
      simp only [Entry.leftOut]
      omega

-- Whatever is drawn, the result of a request is counted and nothing else changes.
theorem exists_result {σ : Type} (resolver : Resolver) (answer : Nat → σ → Nat × σ) (source : σ)
    (path : String) (headers : Headers) :
    ∃ result, ((resolver.resolve path headers).run answer source).value =
      (result, { resolver with metrics := count resolver.metrics result }) := by
  cases h : resolver.snapshot with
  | none =>
    rw [resolve_of_none h]
    exact ⟨_, by rw [h]; rfl⟩
  | some snapshot =>
    rw [resolve_of_some h, Draw.run_bind]
    exact ⟨_, by rw [h]; rfl⟩

theorem authority_update (resolver : Resolver) (update : Wire.RouteConfigurationUpdate) :
    (resolver.update update).2.authority = resolver.authority := by
  unfold Resolver.update
  split
  · rfl
  · split <;> rfl

-- An update that is refused after shutdown changes nothing at all.
theorem update_eq_self_of_refused {resolver : Resolver} {update : Wire.RouteConfigurationUpdate}
    (h : (resolver.update update).1 = .error .shutDown) : (resolver.update update).2 = resolver := by
  by_cases hd : resolver.isShutDown = true
  · rw [update_of_isShutDown hd]
  · rw [Bool.not_eq_true] at hd
    exact absurd ((update_eq_error_iff hd).mp h) (RouteTable.build_ne_shutDown _ _)

theorem accounts_count (metrics : Metrics) (result : Except ResolveError Decision)
    (authority path : String) (headers : Headers) (snapshot : Option Snapshot) :
    Accounts authority metrics (count metrics result)
      [⟨.resolve path headers, .resolved result, snapshot⟩] := by
  have hskipped : (count metrics result).skipped = metrics.skipped := by
    unfold count
    split <;> rfl
  have hl : Entry.leftOut authority ⟨.resolve path headers, .resolved result, snapshot⟩ =
      (count metrics result).skipped - metrics.skipped := by
    rw [hskipped, Int.sub_self]
    rfl
  cases result with
  | ok decision => exact .counted rfl hl fun other => by cases other <;> rfl
  | error error =>
    cases error with
    | notLoaded => exact .counted rfl hl fun other => by cases other <;> rfl
    | noMatchingRoute => exact .counted rfl hl fun other => by cases other <;> rfl

end Resolver

namespace Session

variable {σ : Type} (answer : Nat → σ → Nat × σ) {session : Session σ}

theorem map_reply_journal (calls : List Call) :
    (session.journal answer calls).map (·.reply) = (session.run answer calls).1 := by
  induction calls generalizing session with
  | nil => rfl
  | cons first rest ih => simp only [journal, run, List.map_cons, ih]

theorem authority_call (call : Call) :
    (session.call answer call).2.resolver.authority = session.resolver.authority := by
  cases call with
  | update update => exact session.resolver.authority_update update
  | resolve path headers =>
    obtain ⟨result, hr⟩ := session.resolver.exists_result answer session.source path headers
    simp only [Session.call, hr]
  | snapshot => rfl
  | shutdown => rfl

theorem accounts_call (call : Call) :
    Accounts session.resolver.authority session.resolver.metrics
      (session.call answer call).2.resolver.metrics
      [⟨call, (session.call answer call).1, (session.call answer call).2.resolver.snapshot⟩] := by
  cases call with
  | update update => exact session.resolver.accounts_update update
  | resolve path headers =>
    obtain ⟨result, hr⟩ := session.resolver.exists_result answer session.source path headers
    simp only [Session.call, hr]
    exact Resolver.accounts_count _ _ _ _ _ _
  | snapshot => exact .uncounted rfl rfl (fun _ => rfl) rfl
  | shutdown => exact .uncounted rfl rfl (fun other => by cases other <;> rfl) rfl

theorem accounts_run (calls : List Call) :
    Accounts session.resolver.authority session.resolver.metrics
      (session.run answer calls).2.resolver.metrics (session.journal answer calls) := by
  induction calls generalizing session with
  | nil => exact .nil _ _
  | cons first rest ih =>
    have hrest := @ih (session.call answer first).2
    rw [authority_call] at hrest
    exact .cons (accounts_call answer first) hrest

theorem count_accepted (replies : List Reply) :
    (replies.filterMap Reply.tally?).count .accepted =
      (replies.filterMap Reply.version?).length := by
  rw [List.count_filterMap, List.length_filterMap_eq_countP]
  refine List.countP_congr fun reply _ => ?_
  rw [reply.tally?_eq_accepted]

-- The counts of a resolver are those of the replies that it has given. The number of routes left
-- out is that of the routes of the selected hosts that are in none of the tables put in place,
-- over the accepted updates alone.
theorem counters_reconcile (authority : String) (source : σ) (calls : List Call) :
    let (replies, reached) := (start authority source).run answer calls
    let metrics := reached.resolver.metrics
    (∀ tally, metrics.get tally = (replies.filterMap Reply.tally?).count tally) ∧
    (∀ snapshot, reached.resolver.snapshot = some snapshot →
      snapshot.version = metrics.accepted) ∧
    (∀ update, (reached.call answer (.update update)).1 = .updated (.error .shutDown) →
      (reached.call answer (.update update)).2.resolver.metrics = metrics) ∧
    (metrics.skipped : Int) =
      (((start authority source).journal answer calls).map (Entry.leftOut authority)).sum := by
  have haccounts := @accounts_run σ answer (start authority source) calls
  obtain ⟨hreached, hversions⟩ := reached_run answer authority source calls
  have hget : ∀ tally, ((start authority source).run answer calls).2.resolver.metrics.get tally =
      (((start authority source).run answer calls).1.filterMap Reply.tally?).count tally := by
    intro tally
    rw [haccounts.get, ← map_reply_journal, List.filterMap_map]
    cases tally <;> exact Nat.zero_add _
  have haccepted : ((start authority source).run answer calls).2.resolver.metrics.accepted =
      (accepted authority calls).length := by
    have hcount := hget .accepted
    rw [count_accepted, hversions, List.length_range'] at hcount
    exact hcount
  refine ⟨hget, ?_, ?_, ?_⟩
  · intro snapshot hs
    by_cases hm : .shutdown ∈ calls
    · rw [hreached.snapshot_of_mem hm] at hs
      cases hs
    · rw [hreached.snapshot_of_notMem hm, newest, Option.map_eq_some_iff] at hs
      obtain ⟨table, -, rfl⟩ := hs
      exact haccepted.symm
  · intro update hr
    exact congrArg Resolver.metrics (Resolver.update_eq_self_of_refused (Reply.updated.inj hr))
  · rw [haccounts.skipped]
    exact Int.zero_add _

end Session

end RpcRouting
