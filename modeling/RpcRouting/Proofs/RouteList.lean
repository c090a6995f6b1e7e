import RpcRouting.Proofs.Compilation

namespace RpcRouting.Compile

-- The routes of a list without those that are marked as put in.
def unmarked (edited : List (Wire.Route .v3 × Bool)) : List (Wire.Route .v3) :=
  (edited.filter (!·.2)).map (·.1)

section Edited

variable {edited : List (Wire.Route .v3 × Bool)}

@[simp] theorem unmarked_nil : unmarked [] = [] := rfl

@[simp] theorem unmarked_cons_true (wire : Wire.Route .v3) :
    unmarked ((wire, true) :: edited) = unmarked edited := rfl

@[simp] theorem unmarked_cons_false (wire : Wire.Route .v3) :
    unmarked ((wire, false) :: edited) = wire :: unmarked edited := rfl

theorem length_unmarked (edited : List (Wire.Route .v3 × Bool)) :
    (unmarked edited).length + edited.countP (·.2) = edited.length := by
  induction edited with
  | nil => rfl
  | cons entry rest ih =>
    obtain ⟨wire, mark⟩ := entry
    cases mark with
    | true =>
      simp only [unmarked_cons_true, List.countP_cons, if_true, List.length_cons]
      omega
    | false =>
      simp only [unmarked_cons_false, List.countP_cons, Bool.false_eq_true, if_false,
        List.length_cons]
      omega

theorem exists_split_of_unmarked {wire : Wire.Route .v3}
    {before after : List (Wire.Route .v3)}
    (h : unmarked edited = before ++ wire :: after) :
    ∃ first last, edited = first ++ (wire, false) :: last ∧ unmarked first = before := by
  induction edited generalizing before with
  | nil => simp at h
  | cons entry rest ih =>
    obtain ⟨other, mark⟩ := entry
    cases mark with
    | true =>
      obtain ⟨first, last, rfl, hfirst⟩ := ih h
      exact ⟨(other, true) :: first, last, rfl, hfirst⟩
    | false =>
      cases before with
      | nil =>
        cases h
        exact ⟨[], rest, rfl, rfl⟩
      | cons b before =>
        rw [unmarked_cons_false, List.cons_append, List.cons.injEq] at h
        obtain ⟨rfl, h⟩ := h
        obtain ⟨first, last, rfl, hfirst⟩ := ih h
        exact ⟨(other, false) :: first, last, rfl, congrArg (other :: ·) hfirst⟩

-- What is put in is left out again, so it is not wrong and gives no compiled route.
theorem fine_of_unmarked (hskip : ∀ entry ∈ edited, entry.2 = true → route entry.1 = .skipped)
    (h : ∀ wire ∈ unmarked edited, (route wire).defect? = none) :
    ∀ wire ∈ edited.map (·.1), (route wire).defect? = none := by
  induction edited with
  | nil => exact h
  | cons entry rest ih =>
    obtain ⟨wire, mark⟩ := entry
    rw [List.forall_mem_cons] at hskip
    rw [List.map_cons, List.forall_mem_cons]
    cases mark with
    | true =>
      refine ⟨?_, ih hskip.2 h⟩
      rw [hskip.1 rfl]
      rfl
    | false =>
      rw [unmarked_cons_false, List.forall_mem_cons] at h
      exact ⟨h.1, ih hskip.2 h.2⟩

theorem filterMap_unmarked
    (hskip : ∀ entry ∈ edited, entry.2 = true → route entry.1 = .skipped) :
    (edited.map (·.1)).filterMap (fun wire => (route wire).value?) =
      (unmarked edited).filterMap (fun wire => (route wire).value?) := by
  induction edited with
  | nil => rfl
  | cons entry rest ih =>
    obtain ⟨wire, mark⟩ := entry
    rw [List.forall_mem_cons] at hskip
    rw [List.map_cons, List.filterMap_cons, ih hskip.2]
    cases mark with
    | true =>
      rw [hskip.1 rfl]
      rfl
    | false => rw [unmarked_cons_false, List.filterMap_cons]

theorem countP_unmarked
    (hskip : ∀ entry ∈ edited, entry.2 = true → route entry.1 = .skipped) :
    (edited.map (·.1)).countP (fun wire => (route wire).isSkipped) =
      (unmarked edited).countP (fun wire => (route wire).isSkipped) + edited.countP (·.2) := by
  induction edited with
  | nil => rfl
  | cons entry rest ih =>
    obtain ⟨wire, mark⟩ := entry
    rw [List.forall_mem_cons] at hskip
    rw [List.map_cons, List.countP_cons, ih hskip.2]
    cases mark with
    | true =>
      have hs : (route wire).isSkipped = true := by
        rw [hskip.1 rfl]
        rfl
      simp only [hs, unmarked_cons_true, List.countP_cons, if_true]
      omega
    | false =>
      simp only [unmarked_cons_false, List.countP_cons, Bool.false_eq_true, if_false]
      omega

end Edited

-- Routes that are left out can stand anywhere.
theorem virtualHost_unmarked {wire : Wire.VirtualHost .v3}
    {edited : List (Wire.Route .v3 × Bool)} (he : unmarked edited = wire.routes)
    (hskip : ∀ entry ∈ edited, entry.2 = true → route entry.1 = .skipped) :
    (∀ host skipped, virtualHost wire = .ok (host, skipped) →
      virtualHost { wire with routes := edited.map (·.1) } =
        .ok (host, skipped + edited.countP (·.2))) ∧
    ∀ cause, virtualHost wire = .error cause →
      ∃ before first after, edited = before ++ (first, false) :: after ∧
        (unmarked before).length = cause.index ∧
        virtualHost { wire with routes := edited.map (·.1) } =
          .error { cause with index := cause.index + before.countP (·.2) } := by
  constructor
  · intro host skipped hok
    obtain ⟨hall, rfl, rfl⟩ := virtualHost_eq_ok_iff.mp hok
    rw [← he] at hall ⊢
    rw [virtualHost_of_fine (fine_of_unmarked hskip hall), filterMap_unmarked hskip,
      countP_unmarked hskip]
  · intro cause herror
    obtain ⟨before, first, after, hs, hb, hf, hcause⟩ := virtualHost_eq_error_iff.mp herror
    obtain ⟨marked, last, rfl, hmarked⟩ := exists_split_of_unmarked (he.trans hs)
    have hindex : (unmarked marked).length = cause.index := by
      rw [hcause, hmarked]
    have hbefore : ∀ earlier ∈ marked.map (·.1), (route earlier).defect? = none := by
      apply fine_of_unmarked
      · exact fun entry hm => hskip entry (List.mem_append_left _ hm)
      · rwa [hmarked]
    have hroutes : ((marked ++ (first, false) :: last).map (·.1)) =
        marked.map (·.1) ++ first :: last.map (·.1) := by
      rw [List.map_append, List.map_cons]
    refine ⟨marked, first, last, rfl, hindex, ?_⟩
    rw [virtualHost_of_split hroutes hbefore hf, List.length_map, ← length_unmarked, hindex,
      hcause]

-- A list of routes is compiled as a whole or not at all. It is refused if one of the routes is
-- wrong, with the position of the first of these among all routes, and otherwise exactly the
-- routes that compile are kept, in order. Routes that are left out can stand anywhere: all that
-- they move is the position of the route at fault, by as many as stand before it.
theorem virtualHost_allOrNothing (wire : Wire.VirtualHost .v3) :
    ((∃ cause, virtualHost wire = .error cause) ↔
      ∃ wire' ∈ wire.routes, ∃ defect, route wire' = .invalid defect) ∧
    (∀ cause, virtualHost wire = .error cause ↔
      ∃ before first after, wire.routes = before ++ first :: after ∧
        (∀ earlier ∈ before, (route earlier).defect? = none) ∧
        route first = .invalid cause.defect ∧
        cause = ⟨wire.name, before.length, first.name, cause.defect⟩) ∧
    (∀ host skipped, virtualHost wire = .ok (host, skipped) ↔
      (∀ wire' ∈ wire.routes, (route wire').defect? = none) ∧
        host = ⟨wire.name, wire.domains,
          wire.routes.filterMap fun wire' => (route wire').value?⟩ ∧
        skipped = wire.routes.countP fun wire' => (route wire').isSkipped) ∧
    ∀ edited : List (Wire.Route .v3 × Bool), unmarked edited = wire.routes →
      (∀ entry ∈ edited, entry.2 = true → route entry.1 = .skipped) →
        let other := { wire with routes := edited.map (·.1) }
        (∀ host skipped, virtualHost wire = .ok (host, skipped) →
          virtualHost other = .ok (host, skipped + edited.countP (·.2))) ∧
        ∀ cause, virtualHost wire = .error cause →
          ∃ before first after, edited = before ++ (first, false) :: after ∧
            (unmarked before).length = cause.index ∧
            virtualHost other =
              .error { cause with index := cause.index + before.countP (·.2) } := by
  refine ⟨⟨?_, ?_⟩, fun cause => virtualHost_eq_error_iff,
    fun host skipped => virtualHost_eq_ok_iff, fun edited he hskip => virtualHost_unmarked he hskip⟩
  · rintro ⟨cause, herror⟩
    obtain ⟨before, first, after, hs, -, hf, -⟩ := virtualHost_eq_error_iff.mp herror
    exact ⟨first, by simp [hs], cause.defect, hf⟩
  · rintro ⟨wire', hw, defect, hd⟩
    exact exists_virtualHost_eq_error hw hd

-- The route without an action is second, although the redirect before it is left out.
example :
    virtualHost { name := "host", routes :=
        [{ action := some (.redirect {}), routeMatch := some { path := some (.path "/a") } },
         { name := "bare", routeMatch := some { path := some (.path "/b") } }] } =
      .error ⟨"host", 1, "bare", .noAction⟩ := rfl

end RpcRouting.Compile
