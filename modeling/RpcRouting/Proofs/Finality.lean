import RpcRouting.Proofs.Shared

namespace RpcRouting

namespace Stage

-- A call that has made a shutdown known or has come to know of one.
def knowsShutdown : Stage → Bool
  | clearing | dropping | stopped => true
  | _ => false

-- An update that has put its table in place and may still take it away.
def isCleaning : Stage → Bool
  | checking _ | clearing => true
  | _ => false

theorem isUpdate_of_isCleaning {stage : Stage} (h : stage.isCleaning = true) :
    stage.isUpdate = true := by
  cases stage with
  | checking snapshot => rfl
  | clearing => rfl
  | _ => cases h

end Stage

namespace SharedResolver

variable {shared after : SharedResolver} {stored : Option Snapshot}

-- After a shutdown has begun, a table that is in place is going to be taken away: by the update
-- that put it there or, as long as no shutdown has returned, by one that has yet to do so.
structure Guarded (shared : SharedResolver) : Prop where
  known : ∀ stage ∈ shared.calls, stage.knowsShutdown = true → shared.resolver.isShutDown = true
  cleaner : shared.resolver.isShutDown = true → shared.resolver.snapshot ≠ none →
    (∃ stage ∈ shared.calls, stage.isCleaning = true) ∨
      .dropping ∈ shared.calls ∧ .stopped ∉ shared.calls

namespace Guarded

theorem start (authority : String) : Guarded (start authority) where
  known := nofun
  cleaner := nofun

-- A call comes in.
theorem called (h : Guarded shared) {stage : Stage} (hs : stage.knowsShutdown = false) :
    Guarded { shared with calls := shared.calls ++ [stage] } where
  known := by
    rintro other hmem hk
    rcases List.mem_append.mp hmem with hmem | hmem
    · exact h.known other hmem hk
    · rw [List.mem_singleton.mp hmem, hs] at hk
      cases hk
  cleaner hd hn := by
    rcases h.cleaner hd hn with ⟨other, hmem, hc⟩ | ⟨hmem, hnot⟩
    · exact .inl ⟨other, List.mem_append_left _ hmem, hc⟩
    · refine .inr ⟨List.mem_append_left _ hmem, fun hstopped => ?_⟩
      rcases List.mem_append.mp hstopped with hstopped | hstopped
      · exact hnot hstopped
      · rw [← List.mem_singleton.mp hstopped] at hs
        cases hs

variable {caller : Nat} {stage next : Stage} {resolver : Resolver}

theorem known_set (h : Guarded shared)
    (hd : shared.resolver.isShutDown = true → resolver.isShutDown = true)
    (hnext : next.knowsShutdown = true → resolver.isShutDown = true) :
    ∀ other ∈ shared.calls.set caller next, other.knowsShutdown = true →
      resolver.isShutDown = true := by
  intro other hmem hk
  rcases List.mem_or_eq_of_mem_set hmem with hmem | rfl
  · exact hd (h.known other hmem hk)
  · exact hnext hk

-- A step of a call that neither guards the table nor comes to do so.
theorem bystander (h : Guarded shared) (hstage : shared.calls[caller]? = some stage)
    (hd : resolver.isShutDown = shared.resolver.isShutDown)
    (hs : resolver.snapshot = shared.resolver.snapshot)
    (hguard : stage.isCleaning = false ∧ stage ≠ .dropping) (hnext : next.knowsShutdown = false) :
    Guarded ⟨resolver, shared.calls.set caller next⟩ where
  known := h.known_set (fun hk => hd.trans hk) fun hk => by
    rw [hnext] at hk
    cases hk
  cleaner hdown hn := by
    rw [hd] at hdown
    rw [hs] at hn
    rcases h.cleaner hdown hn with ⟨other, hmem, hc⟩ | ⟨hmem, hnot⟩
    · refine .inl ⟨other, mem_set_of_ne hstage hmem ?_, hc⟩
      rintro rfl
      rw [hguard.1] at hc
      cases hc
    · refine .inr ⟨mem_set_of_ne hstage hmem hguard.2.symm, fun hstopped => ?_⟩
      rcases List.mem_or_eq_of_mem_set hstopped with hstopped | rfl
      · exact hnot hstopped
      · cases hnext

theorem advance (h : Guarded shared) (hstage : shared.calls[caller]? = some stage)
    (hstep : stage.Step shared.resolver next resolver) :
    Guarded ⟨resolver, shared.calls.set caller next⟩ := by
  cases hstep with
  | refuse hd => exact h.bystander hstage rfl rfl ⟨rfl, nofun⟩ rfl
  | enter hd => exact h.bystander hstage rfl rfl ⟨rfl, nofun⟩ rfl
  | reject metrics hb => exact h.bystander hstage rfl rfl ⟨rfl, nofun⟩ rfl
  | compile metrics hb => exact h.bystander hstage rfl rfl ⟨rfl, nofun⟩ rfl
  | number table => exact h.bystander hstage rfl rfl ⟨rfl, nofun⟩ rfl
  | store snapshot =>
    exact ⟨h.known_set id nofun, fun _ _ => .inl ⟨_, next_mem_set hstage, rfl⟩⟩
  | notice snapshot hd =>
    exact ⟨h.known_set id fun _ => hd, fun _ _ => .inl ⟨_, next_mem_set hstage, rfl⟩⟩
  | accept snapshot metrics hd =>
    refine ⟨h.known_set id nofun, fun hdown _ => ?_⟩
    rw [hd] at hdown
    cases hdown
  | clear => exact ⟨h.known_set id nofun, fun _ hn => absurd rfl hn⟩
  | announce =>
    refine ⟨h.known_set (fun _ => rfl) fun _ => rfl, fun _ hn => ?_⟩
    by_cases hstopped : .stopped ∈ shared.calls
    · -- another shutdown has returned before, so it is an update that guards the table
      rcases h.cleaner (h.known _ hstopped rfl) hn with ⟨other, hmem, hc⟩ | ⟨-, hnot⟩
      · refine .inl ⟨other, mem_set_of_ne hstage hmem ?_, hc⟩
        rintro rfl
        cases hc
      · exact absurd hstopped hnot
    · refine .inr ⟨next_mem_set hstage, fun hmem => ?_⟩
      rcases List.mem_or_eq_of_mem_set hmem with hmem | he
      · exact hstopped hmem
      · cases he
  | drop metrics =>
    have hd := h.known _ (List.mem_of_getElem? hstage) rfl
    exact ⟨h.known_set id fun _ => hd, fun _ hn => absurd rfl hn⟩

theorem moved (h : Guarded shared) (hm : shared.Moved stored after) : Guarded after := by
  cases hm with
  | update update => exact h.called rfl
  | shutdown => exact h.called rfl
  | idle => exact h
  | advance hstage hstep => exact h.advance hstage hstep

theorem run (authority : String) (moves : List Move) :
    Guarded ((SharedResolver.start authority).run moves) :=
  run_of_move (fun hm h => h.moved hm) (.start authority) moves

end Guarded

-- No table is in place, and none of the updates on their way can get past the sight of the
-- shutdown.
structure Closed (shared : SharedResolver) : Prop where
  isShutDown : shared.resolver.isShutDown = true
  snapshot : shared.resolver.snapshot = none
  calls : ∀ stage ∈ shared.calls, stage.isUpdate = true → ∃ update, stage = .updating update

theorem Closed.moved (h : Closed shared) (hm : shared.Moved stored after) : Closed after := by
  cases hm with
  | update update =>
    refine ⟨h.isShutDown, h.snapshot, fun stage hmem hu => ?_⟩
    rcases List.mem_append.mp hmem with hmem | hmem
    · exact h.calls stage hmem hu
    · exact ⟨update, List.mem_singleton.mp hmem⟩
  | shutdown =>
    refine ⟨h.isShutDown, h.snapshot, fun stage hmem hu => ?_⟩
    rcases List.mem_append.mp hmem with hmem | hmem
    · exact h.calls stage hmem hu
    · rw [List.mem_singleton.mp hmem] at hu
      cases hu
  | idle => exact h
  | @advance caller stage next resolver hstage hstep =>
    have hcalls : next.isUpdate = false → ∀ other ∈ shared.calls.set caller next,
        other.isUpdate = true → ∃ update, other = .updating update := by
      intro hnext other hmem hu
      rcases List.mem_or_eq_of_mem_set hmem with hmem | rfl
      · exact h.calls other hmem hu
      · rw [hnext] at hu
        cases hu
    have hmem := List.mem_of_getElem? hstage
    cases hstep with
    | refuse hd => exact ⟨h.isShutDown, h.snapshot, hcalls rfl⟩
    | enter hd =>
      rw [h.isShutDown] at hd
      cases hd
    | announce => exact ⟨rfl, h.snapshot, hcalls rfl⟩
    | drop metrics => exact ⟨h.isShutDown, rfl, hcalls rfl⟩
    | _ =>
      obtain ⟨update, he⟩ := h.calls _ hmem rfl
      cases he

-- The call has not returned a version and can no longer return one.
def Refused (caller : Nat) (shared : SharedResolver) : Prop :=
  shared.resolver.isShutDown = true ∧
    ∀ version, shared.calls[caller]? ≠ some (.updated (.ok version))

theorem Refused.called {caller : Nat} (h : Refused caller shared) {stage : Stage}
    (hs : stage.isReturned = false) :
    Refused caller { shared with calls := shared.calls ++ [stage] } := by
  refine ⟨h.1, fun version hv => ?_⟩
  rw [List.getElem?_append] at hv
  split at hv
  · exact h.2 version hv
  · rw [← List.mem_singleton.mp (List.mem_of_getElem? hv)] at hs
    cases hs

theorem Refused.moved {caller : Nat} (h : Refused caller shared) (hm : shared.Moved stored after) :
    Refused caller after := by
  cases hm with
  | update update => exact h.called rfl
  | shutdown => exact h.called rfl
  | idle => exact h
  | @advance other stage next resolver hstage hstep =>
    have hcalls : (∀ version, next ≠ .updated (.ok version)) → ∀ version,
        (shared.calls.set other next)[caller]? ≠ some (.updated (.ok version)) := by
      intro hnext version hv
      rw [List.getElem?_set] at hv
      split at hv
      · split at hv
        · exact hnext version (Option.some.inj hv)
        · cases hv
      · exact h.2 version hv
    cases hstep with
    | accept snapshot metrics hd =>
      have hdown := h.1
      rw [hd] at hdown
      cases hdown
    | announce => exact ⟨rfl, hcalls nofun⟩
    | _ => exact ⟨h.1, hcalls nofun⟩

-- Once a shutdown has returned and no update is on its way, no table is in place, whatever calls
-- come later. A table that is in place after a shutdown has begun is one that a shutdown or the
-- update itself has yet to take away. An update that has not returned a version by the time a
-- shutdown has begun, and so looks for one afterwards, never returns a version.
theorem shutdown_final (authority : String) (moves : List Move) :
    let shared := (start authority).run moves
    (.stopped ∈ shared.calls → (∀ stage ∈ shared.calls, stage.isUpdate = false) →
      ∀ later, (shared.run later).resolver.snapshot = none) ∧
    (shared.resolver.isShutDown = true → shared.resolver.snapshot ≠ none →
      .dropping ∈ shared.calls ∨ ∃ stage ∈ shared.calls, stage.isCleaning = true) ∧
    (shared.resolver.isShutDown = true →
      ∀ caller : Nat, (∀ version, shared.calls[caller]? ≠ some (.updated (.ok version))) →
        ∀ later version, (shared.run later).calls[caller]? ≠ some (.updated (.ok version))) := by
  intro shared
  have hguarded : Guarded shared := .run authority moves
  refine ⟨?_, ?_, ?_⟩
  · intro hstopped hidle later
    have hdown := hguarded.known _ hstopped rfl
    have hnone : shared.resolver.snapshot = none := by
      refine Classical.byContradiction fun hn => ?_
      rcases hguarded.cleaner hdown hn with ⟨stage, hmem, hc⟩ | ⟨-, hnot⟩
      · have hu := hidle stage hmem
        rw [Stage.isUpdate_of_isCleaning hc] at hu
        cases hu
      · exact hnot hstopped
    have hclosed : Closed shared := by
      refine ⟨hdown, hnone, fun stage hmem hu => ?_⟩
      rw [hidle stage hmem] at hu
      cases hu
    exact (run_of_move (fun hm h => h.moved hm) hclosed later).snapshot
  · intro hdown hn
    rcases hguarded.cleaner hdown hn with hcleaning | ⟨hdropping, -⟩
    · exact .inr hcleaning
    · exact .inl hdropping
  · intro hdown caller hcaller later
    exact (run_of_move (fun hm h => Refused.moved h hm)
      (show Refused caller shared from ⟨hdown, hcaller⟩) later).2

-- A configuration with a host for every authority.
def catchAll (name : String) : Wire.RouteConfigurationUpdate :=
  ⟨.v3, { name, virtualHosts := [{ domains := ["*"] }] }⟩

-- A table that is put in place after a shutdown has returned, and what becomes of it.
example :
    let late := (start "service").run
      (.update (catchAll "late") :: .shutdown :: [0, 0, 0, 1, 1, 0].map .advance)
    late.calls[1]? = some .stopped ∧ late.resolver.snapshot.isSome = true ∧
    (late.run ([0, 0].map .advance)).calls = [.updated (.error .shutDown), .stopped] ∧
    (late.run ([0, 0].map .advance)).resolver.snapshot = none := ⟨rfl, rfl, rfl, rfl⟩

end SharedResolver

end RpcRouting
