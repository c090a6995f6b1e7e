import RpcRouting.Resolver.Shared

namespace RpcRouting

variable {resolver after : Resolver} {stage next : Stage}

-- The steps that calls take, each with what it finds and what it leaves.
inductive Stage.Step (resolver : Resolver) : Stage → Stage → Resolver → Prop where
  | refuse {update : Wire.RouteConfigurationUpdate} (h : resolver.isShutDown = true) :
    Step resolver (.updating update) (.updated (.error .shutDown)) resolver
  | enter {update : Wire.RouteConfigurationUpdate} (h : resolver.isShutDown = false) :
    Step resolver (.updating update) (.building update) resolver
  | reject {update : Wire.RouteConfigurationUpdate} {error : UpdateError} (metrics : Metrics)
    (h : RouteTable.build update.upgrade resolver.authority = .error error) :
    Step resolver (.building update) (.updated (.error error)) { resolver with metrics }
  | compile {update : Wire.RouteConfigurationUpdate} {table : RouteTable} {skipped : Nat}
    (metrics : Metrics)
    (h : RouteTable.build update.upgrade resolver.authority = .ok (table, skipped)) :
    Step resolver (.building update) (.numbering table) { resolver with metrics }
  | number (table : RouteTable) :
    Step resolver (.numbering table) (.storing ⟨resolver.nextVersion, table⟩)
      { resolver with nextVersion := resolver.nextVersion + 1 }
  | store (snapshot : Snapshot) :
    Step resolver (.storing snapshot) (.checking snapshot)
      { resolver with snapshot := some snapshot }
  | notice (snapshot : Snapshot) (h : resolver.isShutDown = true) :
    Step resolver (.checking snapshot) .clearing resolver
  | accept (snapshot : Snapshot) (metrics : Metrics) (h : resolver.isShutDown = false) :
    Step resolver (.checking snapshot) (.updated (.ok snapshot.version)) { resolver with metrics }
  | clear : Step resolver .clearing (.updated (.error .shutDown)) { resolver with snapshot := none }
  | announce : Step resolver .stopping .dropping { resolver with isShutDown := true }
  | drop (metrics : Metrics) :
    Step resolver .dropping .stopped { resolver with snapshot := none, metrics }

def Stage.isReturned : Stage → Bool
  | .updated _ | .stopped => true
  | _ => false

theorem Stage.step_of_isReturned (h : stage.isReturned = true) (resolver : Resolver) :
    stage.step resolver = (stage, resolver) := by
  cases stage <;> first | rfl | cases h

theorem Stage.step_spec (h : stage.isReturned = false) (resolver : Resolver) :
    Step resolver stage (stage.step resolver).1 (stage.step resolver).2 := by
  cases stage with
  | updating update =>
    cases hd : resolver.isShutDown with
    | true => simpa [step, hd] using .refuse hd
    | false => simpa [step, hd] using .enter hd
  | building update =>
    cases hb : RouteTable.build update.upgrade resolver.authority with
    | error error => simpa [step, hb] using .reject _ hb
    | ok built => simpa [step, hb] using @Step.compile resolver update built.1 built.2 _ hb
  | numbering table => exact .number table
  | storing snapshot => exact .store snapshot
  | checking snapshot =>
    cases hd : resolver.isShutDown with
    | true => simpa [step, hd] using .notice snapshot hd
    | false =>
      rw [step, if_neg (by simp [hd])]
      exact .accept snapshot _ hd
  | clearing => exact .clear
  | stopping => exact .announce
  | dropping => exact .drop _
  | updated result => cases h
  | stopped => cases h

namespace SharedResolver

variable {shared : SharedResolver} {caller : Nat}

-- What a move comes to: a call comes in, nothing happens, or one call takes its next step. With it
-- stands the snapshot that it puts in place.
inductive Moved (shared : SharedResolver) : Option Snapshot → SharedResolver → Prop where
  | update (update : Wire.RouteConfigurationUpdate) :
    Moved shared none { shared with calls := shared.calls ++ [.updating update] }
  | shutdown : Moved shared none { shared with calls := shared.calls ++ [.stopping] }
  | idle : Moved shared none shared
  | advance {caller : Nat} {stage next : Stage} {after : Resolver}
    (hstage : shared.calls[caller]? = some stage)
    (hstep : stage.Step shared.resolver next after) :
    Moved shared stage.stored? ⟨after, shared.calls.set caller next⟩

theorem moved (shared : SharedResolver) (move : Move) :
    shared.Moved (shared.stored? move) (shared.move move) := by
  cases move with
  | update update => exact .update update
  | shutdown => exact .shutdown
  | advance caller =>
    unfold SharedResolver.move stored?
    cases hstage : shared.calls[caller]? with
    | none => simpa [hstage] using .idle
    | some stage =>
      cases hr : stage.isReturned with
      | true =>
        have hself : shared.calls.set caller stage = shared.calls := by
          obtain ⟨hlt, rfl⟩ := List.getElem?_eq_some_iff.mp hstage
          exact List.set_getElem_self hlt
        have hstored : stage.stored? = none := by
          cases stage <;> first | rfl | cases hr
        simpa [hstage, Stage.step_of_isReturned hr, hself, hstored] using .idle
      | false => simpa [hstage] using .advance hstage (Stage.step_spec hr _)

-- What every move keeps holds at the end of every run, also where it is about the snapshots that
-- have been put in place so far.

theorem published_of_move {holds : List Snapshot → SharedResolver → Prop}
    (hmove : ∀ {earlier shared stored after}, Moved shared stored after → holds earlier shared →
      holds (earlier ++ stored.toList) after)
    {earlier : List Snapshot} (h : holds earlier shared) (moves : List Move) :
    holds (earlier ++ shared.published moves) (shared.run moves) := by
  induction moves generalizing shared earlier with
  | nil => simpa [published, run] using h
  | cons first rest ih =>
    rw [published, ← List.append_assoc]
    exact ih (hmove (shared.moved first) h)

theorem run_of_move {holds : SharedResolver → Prop}
    (hmove : ∀ {shared stored after}, Moved shared stored after → holds shared → holds after)
    (h : holds shared) (moves : List Move) : holds (shared.run moves) :=
  @published_of_move shared (fun _ => holds) hmove [] h moves

-- Calls that no other call interrupts

theorem move_last (resolver : Resolver) (calls : List Stage) (stage : Stage) :
    (SharedResolver.mk resolver (calls ++ [stage])).move (.advance calls.length) =
      ⟨(stage.step resolver).2, calls ++ [(stage.step resolver).1]⟩ := by
  simp [move, List.set_append_right]

-- The steps of an update come to the update of a resolver that is not shared.
theorem run_update (shared : SharedResolver) (update : Wire.RouteConfigurationUpdate) :
    shared.run (.update update :: List.replicate 6 (.advance shared.calls.length)) =
      ⟨(shared.resolver.update update).2,
        shared.calls ++ [.updated (shared.resolver.update update).1]⟩ := by
  have hcalled : shared.move (.update update) =
      ⟨shared.resolver, shared.calls ++ [.updating update]⟩ := rfl
  rw [run, List.foldl_cons, hcalled]
  cases hd : shared.resolver.isShutDown with
  | true => simp [List.replicate, move_last, Stage.step, Resolver.update, hd]
  | false =>
    cases hb : RouteTable.build update.upgrade shared.resolver.authority with
    | error error => simp [List.replicate, move_last, Stage.step, Resolver.update, hd, hb]
    | ok built => simp [List.replicate, move_last, Stage.step, Resolver.update, hd, hb]

theorem run_shutdown (shared : SharedResolver) :
    shared.run (.shutdown :: List.replicate 2 (.advance shared.calls.length)) =
      ⟨shared.resolver.shutdown, shared.calls ++ [.stopped]⟩ := by
  have hcalled : shared.move .shutdown = ⟨shared.resolver, shared.calls ++ [.stopping]⟩ := rfl
  rw [run, List.foldl_cons, hcalled]
  simp [List.replicate, move_last, Stage.step, Resolver.shutdown]

-- A call other than the one that takes a step stays where it stands.

theorem mem_set_of_ne {other : Stage} (hstage : shared.calls[caller]? = some stage)
    (hmem : other ∈ shared.calls) (hne : other ≠ stage) : other ∈ shared.calls.set caller next := by
  obtain ⟨index, hindex⟩ := List.mem_iff_getElem?.mp hmem
  have hi : caller ≠ index := by
    rintro rfl
    exact hne (Option.some.inj (hindex.symm.trans hstage))
  refine List.mem_iff_getElem?.mpr ⟨index, ?_⟩
  rw [List.getElem?_set_ne hi, hindex]

theorem next_mem_set (hstage : shared.calls[caller]? = some stage) :
    next ∈ shared.calls.set caller next := by
  obtain ⟨hlt, -⟩ := List.getElem?_eq_some_iff.mp hstage
  exact List.mem_set hlt next

end SharedResolver

end RpcRouting
