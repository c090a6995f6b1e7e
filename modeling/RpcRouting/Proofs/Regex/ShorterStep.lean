import RpcRouting.Proofs.Regex.Anchoring
import RpcRouting.Proofs.Regex.ShorterBracket

namespace RpcRouting.Regex.Syntax

open Unicode

-- One more open group around what has been read changes nothing for this reader.
def Sheltered (read : Reading → List Char → Option (Reading × List Char)) : Prop :=
  ∀ base reading cs, read (reading.under base) cs =
    (read reading cs).map fun found => (found.1.under base, found.2)

section

variable {base : Flags × Level} {reading next : Reading} {cs rest : List Char}

theorem Reading.closeGroup?_sheltered (h : reading.outer ≠ []) :
    (reading.under base).closeGroup? = reading.closeGroup?.map (Reading.under base) := by
  obtain ⟨first, outer, ho⟩ := List.exists_cons_of_ne_nil h
  simp only [closeGroup?, under, ho, List.cons_append]
  rfl

theorem openNamed?_sheltered : Sheltered openNamed? := by
  intro base reading cs
  simp only [openNamed?, bind, Option.map_bind, Function.comp_def]
  rfl

theorem setFlags?_sheltered : Sheltered setFlags? := by
  intro base reading cs
  unfold setFlags?
  rw [Reading.under_flags]
  split
  · split <;> rfl
  · rfl
  · rfl

theorem special?_sheltered : Sheltered special? := by
  intro base reading cs
  unfold special?
  split
  · exact openNamed?_sheltered base reading _
  · exact openNamed?_sheltered base reading _
  · exact setFlags?_sheltered base reading cs

theorem group?_sheltered : Sheltered group? := by
  intro base reading cs
  unfold group?
  rw [Reading.under_flags]
  split
  · exact special?_sheltered base reading _
  · rfl

theorem counted?_sheltered : Sheltered counted? := by
  intro base reading cs
  simp only [counted?, Reading.under_flags, Reading.repeatLast?_under, bind, Option.map_bind]
  congr 1
  funext counted
  obtain ⟨least, afterLeast⟩ := counted
  simp only [Option.map_bind, Function.comp_apply]
  congr 1
  funext bound
  obtain ⟨most, afterMost⟩ := bound
  dsimp only
  split
  · simp only [Option.map_bind, Option.bind_map, Function.comp_def]
    rfl
  · rfl

-- A step either takes no notice of the group around all that has been read, or closes it.
theorem step?_sheltered {c : Char} (h : c ≠ ')' ∨ reading.outer ≠ []) (cs : List Char) :
    step? (reading.under base) c cs =
      (step? reading c cs).map fun found => (found.1.under base, found.2) := by
  unfold step?
  dsimp only
  split
  · exact group?_sheltered base reading cs
  · rw [reading.closeGroup?_sheltered (h.resolve_left (by simp))]
    simp only [Option.map_map]
    rfl
  · rfl
  · simp only [Option.map_map]
    rfl
  · simp only [Reading.repeatLast?_under, Option.map_map]
    rfl
  · simp only [Reading.repeatLast?_under, Option.map_map]
    rfl
  · simp only [Reading.repeatLast?_under, Option.map_map]
    rfl
  · exact counted?_sheltered base reading cs
  · simp only [bind, Option.map_bind, addAtom?_under, Option.bind_map, Function.comp_def]
    rfl
  · simp only [Option.map_map]
    rfl
  · rfl
  · rfl
  · simp only [addAtom?_under, Option.map_map]
    rfl

end

section

variable {cs rest : List Char}

theorem groupName?_steady : Steady groupName? := by
  intro cs
  unfold groupName?
  cases hd : cs.dropWhile (· != '>') with
  | nil =>
    have hclosing : (cs ++ closing).dropWhile (· != '>') = [] := by
      rw [List.dropWhile_append, hd]
      rfl
    simp [hclosing]
  | cons c left =>
    obtain ⟨htake, hdrop⟩ := Extended.takeWhile_append closing hd
    rw [htake, hdrop]
    cases cs.takeWhile (· != '>') with
    | nil => rfl
    | cons first others =>
      dsimp only [List.cons_append]
      split <;> rfl

theorem groupName?_confined : Confined groupName? := by
  refine groupName?_steady.confined ?_
  intro cs name rest h
  unfold groupName? at h
  dsimp only at h
  split at h
  · rename_i hname hleft
    split at h
    · cases h
      have hdrop := List.dropWhile_suffix (l := cs) (· != '>')
      rw [hleft] at hdrop
      exact (List.suffix_cons _ rest).trans hdrop
    · cases h
  · cases h

theorem openNamed?_confined (reading : Reading) : Confined (openNamed? reading) := by
  have hopen : ∀ name, Confined fun rest => if reading.names.contains name then none else
      some ({ reading.openGroup reading.flags with names := name :: reading.names }, rest) :=
    fun name => .ite (fun _ => .none) fun _ => .some _
  have hread : openNamed? reading = fun cs => (groupName? cs).bind fun found =>
      if reading.names.contains found.1 then none else
        some ({ reading.openGroup reading.flags with names := found.1 :: reading.names },
          found.2) := by
    funext cs
    simp only [openNamed?, bind]
    congr 1
    funext found
    cases hn : reading.names.contains found.1 <;> rfl
  rw [hread]
  exact groupName?_confined.bind hopen

theorem flagItems?_suffix {flags next : Flags} {seen last : List Char}
    (h : flagItems? flags seen cs = some (next, last, rest)) : rest <:+ cs := by
  induction cs generalizing flags seen with
  | nil => cases h
  | cons c cs ih =>
    simp only [flagItems?] at h
    split at h
    · split at h
      · cases h
      · cases h
        exact List.suffix_rfl
    split at h
    · cases h
    split at h
    · exact (ih h).trans (List.suffix_cons c cs)
    split at h
    · cases h
    · exact (ih h).trans (List.suffix_cons c cs)

-- The flags have to be followed by what ends them.
theorem flagItems?_cut {flags next : Flags} {seen last : List Char} (hne : rest ≠ [])
    (h : flagItems? flags seen (cs ++ closing) = some (next, last, rest ++ closing)) :
    flagItems? flags seen cs = some (next, last, rest) := by
  induction cs generalizing flags seen with
  | nil => exact absurd (eq_nil_of_suffix_closing (flagItems?_suffix h)) hne
  | cons c cs ih =>
    simp only [List.cons_append, flagItems?] at h ⊢
    split at h
    · rename_i hend
      rw [if_pos hend]
      split at h
      · cases h
      · rename_i hhyphen
        rw [if_neg hhyphen]
        simp only [Option.some.injEq, Prod.mk.injEq] at h ⊢
        obtain ⟨hnext, hlast, hleft⟩ := h
        exact ⟨hnext, hlast, List.append_cancel_right hleft⟩
    rename_i hend
    rw [if_neg hend]
    split at h
    · cases h
    rename_i hseen
    rw [if_neg hseen]
    split at h
    · rename_i hhyphen
      rw [if_pos hhyphen]
      exact ih h
    rename_i hhyphen
    rw [if_neg hhyphen]
    split at h
    · cases h
    · exact ih h

theorem setFlags?_confined (reading : Reading) : Confined (setFlags? reading) where
  suffix := by
    intro cs next rest h
    unfold setFlags? at h
    split at h
    · rename_i flags seen left hitems
      split at h
      · cases h
      · cases h
        exact (List.suffix_cons _ _).trans (flagItems?_suffix hitems)
    · rename_i flags seen c left hc hitems
      cases h
      exact (List.suffix_cons _ _).trans (flagItems?_suffix hitems)
    · cases h
  cut := by
    intro cs next rest h
    have hne : ∀ c : Char, c :: rest ≠ [] := by simp
    unfold setFlags? at h
    split at h
    · rename_i flags seen left hitems
      split at h
      · cases h
      · rename_i hseen
        obtain ⟨rfl, rfl⟩ := Prod.mk.inj (Option.some.inj h)
        simp only [setFlags?, flagItems?_cut (hne ')') hitems, if_neg hseen]
    · rename_i flags seen c left hc hitems
      obtain ⟨rfl, rfl⟩ := Prod.mk.inj (Option.some.inj h)
      simp only [setFlags?, flagItems?_cut (hne c) hitems]
    · cases h

theorem special?_confined (reading : Reading) : Confined (special? reading) := by
  have hnamed : Confined fun rest =>
      if rest.head? = some '<' then openNamed? reading rest.tail else none :=
    .ite_head (by decide) (openNamed?_confined reading).tail .none
  have hother : Confined fun items => if items.head? = some 'P' then
      (if items.tail.head? = some '<' then openNamed? reading items.tail.tail else none)
      else setFlags? reading items :=
    .ite_head (by decide) hnamed.tail (setFlags?_confined reading)
  refine .of_next (.some ()) (c := '<') (by decide) ?_ ?_ (openNamed?_confined reading) hother
  · rintro cs rest rfl
    rfl
  · intro cs h
    unfold special?
    split
    · rfl
    · exact absurd rfl h
    · rename_i hlong hshort
      split
      · rename_i hp
        obtain ⟨rest, rfl⟩ := List.head?_eq_some_iff.mp hp
        have hnone : setFlags? reading ('P' :: rest) = none := rfl
        rw [hnone, if_neg]
        intro hangle
        obtain ⟨more, rfl⟩ := List.head?_eq_some_iff.mp hangle
        exact hlong more rfl
      · rfl

theorem group?_confined (reading : Reading) : Confined (group? reading) := by
  refine .of_next (skipBlank_confined reading.flags) (c := '?') (by decide) ?_ ?_
    (special?_confined reading) (.some (reading.openGroup reading.flags))
  · intro cs rest h
    simp only [group?, h]
  · intro cs h
    unfold group?
    split
    · rename_i rest hrest
      exact absurd (by rw [hrest, List.head?_cons]) h
    · rfl

theorem upperBound?_confined (flags : Flags) (least : Nat) :
    Confined (upperBound? flags least) := by
  have hcount : Confined fun cs =>
      (count? flags cs).map fun counted => (some counted.1, counted.2) :=
    (count?_confined flags).map fun most => .some (some most)
  have hbound : Confined fun cs => if cs.head? = some '}' then some (none, cs)
      else (count? flags cs).map fun counted => (some counted.1, counted.2) :=
    .ite_head (by decide) (.some none) hcount
  have hafter := Confined.after (skipBlank_confined flags) hbound
  refine .of_next (.some ()) (c := ',') (by decide) ?_ ?_ hafter (.some (some least))
  · rintro cs rest rfl
    simp only [upperBound?]
    split
    · rename_i left hleft
      simp [hleft]
    · rename_i hbrace
      have hhead : (skipBlank flags rest).head? ≠ some '}' := by
        intro hhead
        obtain ⟨left, hleft⟩ := List.head?_eq_some_iff.mp hhead
        exact hbrace left hleft
      rw [if_neg hhead]
  · intro cs h
    unfold upperBound?
    split
    · exact absurd rfl h
    · rfl

theorem skipLazy_confined : Confined fun cs => some ((), skipLazy cs) := by
  refine .of_next (.some ()) (c := '?') (by decide) ?_ ?_ (.some ()) (.some ())
  · rintro cs rest rfl
    rfl
  · intro cs h
    unfold skipLazy
    split
    · exact absurd rfl h
    · rfl

theorem repeat_confined {α : Type} (found : Option α) :
    Confined fun cs => found.map (·, skipLazy cs) :=
  .after skipLazy_confined (.const found)

theorem counted?_confined (reading : Reading) : Confined (counted? reading) := by
  have hlazy := Confined.after (skipBlank_confined reading.flags) skipLazy_confined
  have hcount := Confined.after (skipBlank_confined reading.flags) (count?_confined reading.flags)
  have hupper := upperBound?_confined reading.flags
  refine ⟨?_, ?_⟩
  · intro cs next rest h
    simp only [counted?, bind, Option.bind_eq_some_iff] at h
    obtain ⟨⟨least, left⟩, hleast, ⟨most, last⟩, hmost, h⟩ := h
    split at h
    · rename_i more hmore
      obtain rfl : last = '}' :: more := hmore
      simp only [Option.bind_eq_some_iff] at h
      obtain ⟨u, hu, repeated, hrepeated, he⟩ := h
      cases he
      have htail : skipLazy (skipBlank reading.flags more) <:+ more := hlazy.suffix rfl
      have hlast := (List.suffix_cons _ more).trans ((hupper least).suffix hmost)
      exact (htail.trans hlast).trans (hcount.suffix hleast)
    · cases h
  · intro cs next rest h
    simp only [counted?, bind, Option.bind_eq_some_iff] at h ⊢
    obtain ⟨⟨least, left⟩, hleast, ⟨most, last⟩, hmost, h⟩ := h
    split at h
    · rename_i more hmore
      obtain rfl : last = '}' :: more := hmore
      simp only [Option.bind_eq_some_iff] at h
      obtain ⟨u, hu, repeated, hrepeated, he⟩ := h
      obtain ⟨rfl, hrest⟩ := Prod.mk.inj (Option.some.inj he)
      have htail : skipLazy (skipBlank reading.flags more) <:+ more := hlazy.suffix rfl
      rw [hrest] at htail
      obtain ⟨more, rfl⟩ := exists_eq_append_closing htail
      have hrest' := hlazy.cut (congrArg (fun left => some ((), left)) hrest)
      rw [← List.cons_append] at hmost
      obtain ⟨left, rfl⟩ := exists_eq_append_closing ((hupper least).suffix hmost)
      refine ⟨(least, left), hcount.cut hleast, (most, '}' :: more), (hupper least).cut hmost, ?_⟩
      simp only [Option.bind_eq_some_iff]
      refine ⟨u, hu, repeated, hrepeated, ?_⟩
      rw [(Prod.mk.inj (Option.some.inj hrest')).2]
      rfl
    · cases h

theorem step?_confined (reading : Reading) {c : Char} (hc : c ≠ '\\') :
    Confined (step? reading c) := by
  unfold step?
  dsimp only
  split
  case h_9 => exact absurd rfl hc
  · exact group?_confined reading
  · exact .const _
  · exact .some _
  · exact (bracketed?_confined reading.flags).map fun part => .some (reading.addSet part.set part.height)
  · exact repeat_confined _
  · exact repeat_confined _
  · exact repeat_confined _
  · exact counted?_confined reading
  · exact .const _
  · exact .some _
  · exact .some _
  · exact .const _

theorem step?_backslash (reading : Reading) (cs : List Char) :
    step? reading '\\' cs = (escape? reading.flags cs).bind fun found =>
      (addAtom? reading found.1).map (·, found.2) := by
  simp only [step?, bind, Option.map_eq_bind]
  rfl

theorem step?_suffix {reading next : Reading} {c : Char}
    (h : step? reading c cs = some (next, rest)) : rest <:+ cs := by
  by_cases hc : c = '\\'
  · subst hc
    rw [step?_backslash] at h
    obtain ⟨⟨atom, left⟩, hatom, h⟩ := Option.bind_eq_some_iff.mp h
    obtain ⟨added, -, he⟩ := Option.map_eq_some_iff.mp h
    cases he
    exact escape?_suffix reading.flags hatom
  · exact (step?_confined reading hc).suffix h

-- A step that leaves the closing has not looked at it, but for the braces after a boundary.
theorem step?_cut {reading next : Reading} {c : Char}
    (h : step? reading c (cs ++ closing) = some (next, rest ++ closing)) :
    step? reading c cs = some (next, rest) ∨
      ∃ inner, rest = '{' :: inner ∧ skipBlank next.flags (inner ++ closing) = closing := by
  by_cases hc : c = '\\'
  · subst hc
    rw [step?_backslash] at h ⊢
    have hadd : ∀ atom, Confined fun left => (addAtom? reading atom).map (·, left) :=
      fun atom => .const _
    cases cs with
    | nil =>
      obtain ⟨⟨atom, left⟩, hatom, h⟩ := Option.bind_eq_some_iff.mp h
      have hleft := (hadd atom).suffix h
      have hliteral : escape? reading.flags closing = some (.literal ')' false, ['$']) := rfl
      rw [List.nil_append, hliteral] at hatom
      cases hatom
      exact absurd hleft not_suffix_tail_closing
    | cons d cs =>
      by_cases hd : d = 'b'
      · subst hd
        rw [List.cons_append, escape?_boundary] at h
        obtain ⟨⟨atom, left⟩, hatom, hadded⟩ := Option.bind_eq_some_iff.mp h
        obtain ⟨⟨condition, left⟩, hboundary, he⟩ := Option.map_eq_some_iff.mp hatom
        cases he
        obtain ⟨rfl, rfl⟩ := Prod.mk.inj (Option.some.inj hadded)
        rcases boundary?_cut reading.flags hboundary with hcut | ⟨inner, rfl, hinner⟩
        · left
          rw [escape?_boundary, hcut]
          rfl
        · exact .inr ⟨inner, rfl, hinner⟩
      · exact .inl (((escape?_confined reading.flags hd).bind hadd).cut h)
  · exact .inl ((step?_confined reading hc).cut h)

end

end RpcRouting.Regex.Syntax
