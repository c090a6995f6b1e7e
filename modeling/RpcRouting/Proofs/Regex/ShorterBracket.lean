import RpcRouting.Proofs.Regex.LongerBracket
import RpcRouting.Proofs.Regex.ShorterText

namespace RpcRouting.Regex.Syntax

open Unicode

section

variable {α : Type} {read : List Char → Option (α × List Char)} {cs rest : List Char} {a : α}

-- For a reader to which the closing means nothing, that it leaves an end of the text is enough.
theorem Steady.confined (h : Steady read)
    (hs : ∀ {cs a rest}, read cs = some (a, rest) → rest <:+ cs) : Confined read where
  suffix := hs
  cut := by
    intro cs a rest hr
    rw [h] at hr
    obtain ⟨⟨a', left⟩, hcs, he⟩ := Option.map_eq_some_iff.mp hr
    obtain ⟨rfl, hleft⟩ := Prod.mk.inj he
    rw [hcs, List.append_cancel_right hleft]

end

variable (flags : Flags) {cs rest : List Char}

theorem setAtom?_suffix {c : Char} {atom : Atom}
    (h : setAtom? flags (c :: cs) = some (atom, rest)) : rest <:+ cs := by
  by_cases hc : c = '\\'
  · subst hc
    exact escape?_suffix flags h
  · have hread : setAtom? flags (c :: cs) = some (.literal c false, cs) := by
      simp [setAtom?]
    rw [hread] at h
    cases h
    exact List.suffix_rfl

-- What refuses anchors need not know how far the reader of an anchor has looked.
theorem setAtom?_bind_confined {α : Type} {next : Atom × List Char → Option (α × List Char)}
    (hanchor : ∀ condition rest, next (.anchor condition, rest) = none)
    (hn : ∀ atom, Confined fun rest => next (atom, rest)) :
    Confined fun cs => (setAtom? flags cs).bind next := by
  refine .of_cons rfl fun c => ?_
  by_cases hc : c = '\\'
  · subst hc
    refine .of_cons rfl fun d => ?_
    by_cases hd : d = 'b'
    · subst hd
      have hread : (fun rest => (setAtom? flags ('\\' :: 'b' :: rest)).bind next) =
          fun _ => none := by
        funext rest
        rw [setAtom?, escape?_boundary]
        cases boundary? flags (alphabet flags) rest with
        | none => rfl
        | some found => exact hanchor found.1 found.2
      rw [hread]
      exact .none
    · exact (escape?_confined flags hd).bind hn
  · have hread : (fun rest => (setAtom? flags (c :: rest)).bind next) =
        fun rest => next (.literal c false, rest) := by
      funext rest
      simp [setAtom?]
    rw [hread]
    exact hn (.literal c false)

-- What stands after a character of a set: perhaps the rest of a range.
def itemAfter? (flags : Flags) (first : Atom) : List Char → Option (CharSet × List Char)
  | '-' :: rest => rangeFrom? flags first rest
  | left => (setOfAtom? flags first).map (·, left)

theorem itemAfter?_of_ne (first : Atom) (h : cs.head? ≠ some '-') :
    itemAfter? flags first cs = (setOfAtom? flags first).map (·, cs) := by
  unfold itemAfter?
  split
  · exact absurd rfl h
  · rfl

theorem rangeTo?_confined (first : Atom) : Confined fun cs =>
    (setAtom? flags (skipBlank flags cs)).bind fun last =>
      (range? flags first last.1).map (·, last.2) := by
  have hrange : Confined fun cs => (setAtom? flags cs).bind fun last =>
      (range? flags first last.1).map (·, last.2) := by
    refine setAtom?_bind_confined flags ?_ fun atom => .const (range? flags first atom)
    intro condition rest
    simp [range?, member?]
  exact .after (skipBlank_confined flags) hrange

theorem itemAfter?_confined (first : Atom) : Confined (itemAfter? flags first) := by
  have hbare : Confined fun cs => (setOfAtom? flags first).map (·, cs) := .const _
  refine ⟨?_, ?_⟩
  · intro cs set rest h
    unfold itemAfter? at h
    split at h
    · rename_i more
      unfold rangeFrom? at h
      dsimp only at h
      split at h
      · exact hbare.suffix h
      · exact ((rangeTo?_confined flags first).suffix h).trans (List.suffix_cons _ more)
    · exact hbare.suffix h
  · intro cs set rest h
    by_cases hhead : cs.head? = some '-'
    · obtain ⟨more, rfl⟩ := List.head?_eq_some_iff.mp hhead
      have hl : Extended more (more ++ closing) := .inl rfl
      simp only [List.cons_append, itemAfter?, rangeFrom?, peek_bracket_iff flags hl,
        peek_hyphen_iff flags hl] at h ⊢
      split at h
      · rename_i hend
        rw [if_pos hend]
        exact hbare.cut h
      · rename_i hend
        rw [if_neg hend]
        exact (rangeTo?_confined flags first).cut h
    · have hhead' : (cs ++ closing).head? ≠ some '-' :=
        mt (Extended.head?_eq_iff (by decide) (.inl rfl)).mp hhead
      rw [itemAfter?_of_ne flags first hhead'] at h
      rw [itemAfter?_of_ne flags first hhead]
      exact hbare.cut h

theorem setItem?_eq (cs : List Char) :
    setItem? flags cs = (setAtom? flags cs).bind fun found =>
      if skipBlank flags found.2 = [] then none
      else itemAfter? flags found.1 (skipBlank flags found.2) := by
  unfold setItem?
  congr 1
  funext found
  obtain ⟨first, after⟩ := found
  dsimp only
  cases skipBlank flags after with
  | nil => rfl
  | cons c left =>
    by_cases hc : c = '-'
    · subst hc
      rfl
    · simp [itemAfter?, hc]

theorem setItem?_suffix {set : CharSet} (h : setItem? flags cs = some (set, rest)) :
    ∃ c more, cs = c :: more ∧ rest <:+ more := by
  rw [setItem?_eq] at h
  obtain ⟨⟨first, left⟩, hfirst, hitem⟩ := Option.bind_eq_some_iff.mp h
  cases cs with
  | nil => cases hfirst
  | cons c more =>
    split at hitem
    · cases hitem
    · have hitem := (itemAfter?_confined flags first).suffix hitem
      have hafter := hitem.trans (skipBlank_suffix flags left)
      exact ⟨c, more, rfl, hafter.trans (setAtom?_suffix flags hfirst)⟩

theorem itemAfter?_anchor (condition : Anchor) (cs : List Char) :
    itemAfter? flags (.anchor condition) cs = none := by
  have hrange : ∀ last, range? flags (.anchor condition) last = none := fun _ => rfl
  unfold itemAfter?
  split
  · simp [rangeFrom?, setOfAtom?, member?, hrange]
  · rfl

-- An item has to be followed by something, as the set is still open.
theorem setItem?_cut {set : CharSet} (hne : rest ≠ [])
    (h : setItem? flags (cs ++ closing) = some (set, rest ++ closing)) :
    setItem? flags cs = some (set, rest) := by
  have hafter : ∀ first, Confined fun left => itemAfter? flags first (skipBlank flags left) :=
    fun first => .after (skipBlank_confined flags) (itemAfter?_confined flags first)
  have hitem : Confined fun cs => (setAtom? flags cs).bind fun found =>
      itemAfter? flags found.1 (skipBlank flags found.2) :=
    setAtom?_bind_confined flags (fun condition left => itemAfter?_anchor flags condition _) hafter
  rw [setItem?_eq] at h ⊢
  obtain ⟨⟨first, left⟩, hfirst, h⟩ := Option.bind_eq_some_iff.mp h
  split at h
  · cases h
  have hcut := hitem.cut (Option.bind_eq_some_iff.mpr ⟨(first, left), hfirst, h⟩)
  obtain ⟨⟨first', left'⟩, hfirst', hcut⟩ := Option.bind_eq_some_iff.mp hcut
  refine Option.bind_eq_some_iff.mpr ⟨(first', left'), hfirst', ?_⟩
  split
  · rename_i hnil
    have hsuffix := (itemAfter?_confined flags first').suffix hcut
    rw [hnil] at hsuffix
    exact absurd (List.suffix_nil.mp hsuffix) hne
  · exact hcut

theorem negation_confined : Confined fun cs => some (negation flags cs) := by
  have hnegated : Confined fun cs => some (true, skipBlank flags cs) :=
    blanks_confined flags (some true)
  refine .of_next (skipBlank_confined flags) (c := '^') (by decide) ?_ ?_ hnegated (.some false)
  · intro cs rest h
    simp only [negation, h]
  · intro cs h
    unfold negation
    split
    · rename_i rest hrest
      exact absurd (by rw [hrest, List.head?_cons]) h
    · rfl

theorem firstParts?_suffix {parts : List SetPart}
    (h : firstParts? flags cs = some (parts, rest)) : rest <:+ cs := by
  have hcollect := collect_suffix flags.verbose (· == '-') false cs
  unfold firstParts? at h
  split at h
  · cases h
  · rename_i more hmore
    rw [hmore] at hcollect
    split at h
    · cases h
    · cases h
      exact ((skipBlank_suffix flags more).trans (List.suffix_cons _ more)).trans hcollect
  · rename_i hyphens left hne hbracket hleft
    rw [hleft] at hcollect
    cases h
    exact hcollect

theorem firstParts?_cut {parts : List SetPart} (hne : rest ≠ [])
    (h : firstParts? flags (cs ++ closing) = some (parts, rest ++ closing)) :
    firstParts? flags cs = some (parts, rest) := by
  obtain ⟨c, more, rfl⟩ := List.exists_cons_of_ne_nil hne
  unfold firstParts? at h
  split at h
  · cases h
  · rename_i left hcollect
    split at h
    · cases h
    · obtain ⟨rfl, hleft⟩ := Prod.mk.inj (Option.some.inj h)
      obtain ⟨inner, rfl⟩ :=
        exists_eq_append_closing (hleft ▸ skipBlank_suffix flags left)
      rw [← List.cons_append] at hcollect
      simp only [firstParts?, collect_cut hcollect, skipBlank_cut hleft]
  · rename_i hyphens left hnil hbracket hcollect
    obtain ⟨rfl, rfl⟩ := Prod.mk.inj (Option.some.inj h)
    have hfirst : ∀ more', hyphens = [] → c :: more = ']' :: more' → False := by
      intro more' hnone he
      cases he
      exact hbracket (more ++ closing) hnone rfl
    simp only [firstParts?, collect_cut hcollect]

theorem openSet?_suffix {set : OpenSet} (h : openSet? flags cs = some (set, rest)) :
    rest <:+ cs := by
  obtain ⟨⟨parts, left⟩, hparts, he⟩ := Option.map_eq_some_iff.mp h
  cases he
  have hbody : (negation flags cs).2 <:+ cs := (negation_confined flags).suffix rfl
  exact (firstParts?_suffix flags hparts).trans hbody

theorem openSet?_cut {set : OpenSet} (hne : rest ≠ [])
    (h : openSet? flags (cs ++ closing) = some (set, rest ++ closing)) :
    openSet? flags cs = some (set, rest) := by
  obtain ⟨⟨parts, left⟩, hparts, he⟩ := Option.map_eq_some_iff.mp h
  obtain ⟨rfl, rfl⟩ := Prod.mk.inj he
  obtain ⟨body, hbody⟩ := exists_eq_append_closing (firstParts?_suffix flags hparts)
  have hnegation : negation flags cs = ((negation flags (cs ++ closing)).1, body) :=
    Option.some.inj ((negation_confined flags).cut (congrArg some (Prod.ext rfl hbody)))
  rw [hbody] at hparts
  simp only [openSet?, hnegation, firstParts?_cut flags hne hparts, Option.map_some]
  rfl

theorem namedClass?_suffix {set : CharSet} (h : namedClass? cs = some (set, rest)) :
    rest <:+ cs := by
  unfold namedClass? at h
  split at h
  · rename_i left hleft
    obtain ⟨entry, -, he⟩ := Option.map_eq_some_iff.mp h
    cases he
    have hdrop := List.dropWhile_suffix (l := cs) (· != ':')
    rw [hleft] at hdrop
    exact ((List.suffix_cons _ _).trans (List.suffix_cons _ _)).trans hdrop
  · cases h

theorem asciiClass?_confined : Confined asciiClass? := by
  refine asciiClass?_steady.confined ?_
  intro cs found rest h
  unfold asciiClass? at h
  split at h
  · rename_i named
    obtain ⟨⟨set, left⟩, hnamed, he⟩ := Option.map_eq_some_iff.mp h
    cases he
    exact ((namedClass?_suffix hnamed).trans (List.suffix_cons _ _)).trans (List.suffix_cons _ _)
  · obtain ⟨⟨set, left⟩, hnamed, he⟩ := Option.map_eq_some_iff.mp h
    cases he
    exact (namedClass?_suffix hnamed).trans (List.suffix_cons _ _)
  · cases h

theorem operator?_confined : Confined operator? := by
  refine operator?_steady.confined ?_
  intro cs operator rest h
  obtain ⟨c, d, rfl, -⟩ := exists_of_operator? h
  exact (List.suffix_cons d rest).trans (List.suffix_cons c _)

section

variable {fuel : Nat} {inner inner' : OpenSet} {outer outer' : List OpenSet}
  {text left : List Char} {part : SetPart}

theorem Round.suffix (h : Round flags inner outer text inner' outer' left) :
    ∃ c more, text = c :: more ∧ left <:+ more := by
  cases h with
  | asciiClass hclass hset => exact ⟨'[', _, rfl, asciiClass?_confined.suffix hclass⟩
  | nestedSet hclass hopen => exact ⟨'[', _, rfl, openSet?_suffix flags hopen⟩
  | closedSet hclosed => exact ⟨']', _, rfl, List.suffix_rfl⟩
  | operator hoperator =>
    obtain ⟨c, d, rfl, -⟩ := exists_of_operator? hoperator
    exact ⟨c, _, rfl, List.suffix_cons d left⟩
  | item hopen hclose hoperator hitem => exact setItem?_suffix flags hitem

-- A round that leaves more than the closing has not looked at it.
theorem Round.cut (hne : left ≠ [])
    (h : Round flags inner outer (text ++ closing) inner' outer' (left ++ closing)) :
    Round flags inner outer text inner' outer' left := by
  generalize hlonger : text ++ closing = longer at h
  generalize hleft : left ++ closing = longerLeft at h
  cases h with
  | asciiClass hclass hset =>
    subst hleft
    obtain ⟨more, rfl⟩ := exists_eq_append_closing (asciiClass?_confined.suffix hclass)
    obtain rfl : text = '[' :: more := List.append_cancel_right hlonger
    exact .asciiClass (asciiClass?_confined.cut hclass) hset
  | nestedSet hclass hopen =>
    subst hleft
    obtain ⟨more, rfl⟩ := exists_eq_append_closing (openSet?_suffix flags hopen)
    obtain rfl : text = '[' :: more := List.append_cancel_right hlonger
    rw [asciiClass?_steady, Option.map_eq_none_iff] at hclass
    exact .nestedSet hclass (openSet?_cut flags hne hopen)
  | closedSet hclosed =>
    subst hleft
    obtain rfl : text = ']' :: left := List.append_cancel_right hlonger
    exact .closedSet hclosed
  | operator hoperator =>
    subst hlonger hleft
    exact .operator (operator?_confined.cut hoperator)
  | item hopen hclose hoperator hitem =>
    subst hlonger hleft
    rw [operator?_steady, Option.map_eq_none_iff] at hoperator
    refine .item ?_ ?_ hoperator (setItem?_cut flags hne hitem)
    · rintro more rfl
      exact hopen (more ++ closing) rfl
    · rintro more rfl
      exact hclose (more ++ closing) rfl

-- A set ends with its bracket.
theorem brackets?_suffix (h : brackets? flags fuel inner outer cs = some (part, rest)) :
    ']' :: rest <:+ cs := by
  induction fuel generalizing inner outer cs with
  | zero => cases h
  | succ fuel ih =>
    refine List.IsSuffix.trans ?_ (skipBlank_suffix flags cs)
    rcases closed_or_round h with ⟨-, hcs, -⟩ | ⟨_, _, left, hround, hread⟩
    · exact hcs ▸ List.suffix_rfl
    · obtain ⟨c, more, hcs, hleft⟩ := hround.suffix
      rw [hcs]
      exact ((ih hread).trans hleft).trans (List.suffix_cons c more)

-- Every round takes at least one character, so the length of the shorter text is fuel enough.
theorem brackets?_cut {fuel' : Nat} (hfuel : cs.length < fuel')
    (h : brackets? flags fuel inner outer (cs ++ closing) = some (part, rest ++ closing)) :
    brackets? flags fuel' inner outer cs = some (part, rest) := by
  induction fuel generalizing fuel' inner outer cs with
  | zero => cases h
  | succ fuel ih =>
    obtain ⟨fuel', rfl⟩ : ∃ n, fuel' = n + 1 := ⟨fuel' - 1, by omega⟩
    rcases closed_or_round h with ⟨rfl, hlast, hclosed⟩ | ⟨_, _, left, hround, hread⟩
    · exact brackets?_of_closed (skipBlank_cut hlast) hclosed
    -- what the later rounds read is not just the closing
    obtain ⟨before, hbefore⟩ := brackets?_suffix flags hread
    obtain ⟨left, hne, rfl⟩ : ∃ more, more ≠ [] ∧ left = more ++ closing :=
      ⟨before ++ ']' :: rest, by simp, by simp [← hbefore]⟩
    obtain ⟨_, _, hmore, hleft⟩ := hround.suffix
    obtain ⟨text, htext⟩ := exists_eq_append_closing (hleft.trans (List.suffix_cons _ _))
    rw [← hmore] at htext
    have hcs : skipBlank flags cs = text := skipBlank_cut htext
    rw [htext] at hround
    have hround' := hround.cut flags hne
    obtain ⟨c, more, rfl, hleft'⟩ := hround'.suffix
    have hshorter : left.length < cs.length := by
      have hskipped := (skipBlank_suffix flags cs).length_le
      rw [hcs, List.length_cons] at hskipped
      have htaken := hleft'.length_le
      omega
    rw [← hcs] at hround'
    exact hround'.brackets?_eq.trans (ih (by omega) hread)

end

theorem bracketed?_confined : Confined (bracketed? flags) where
  suffix := by
    intro cs part rest h
    obtain ⟨⟨first, left⟩, hopen, h⟩ := Option.bind_eq_some_iff.mp h
    have hset := brackets?_suffix flags h
    exact ((List.suffix_cons _ rest).trans hset).trans (openSet?_suffix flags hopen)
  cut := by
    intro cs part rest h
    obtain ⟨⟨first, left⟩, hopen, hread⟩ := Option.bind_eq_some_iff.mp h
    obtain ⟨before, hleft⟩ := brackets?_suffix flags hread
    have hmore : left = (before ++ ']' :: rest) ++ closing := by simp [← hleft]
    subst hmore
    have hne : before ++ ']' :: rest ≠ [] := by simp
    exact Option.bind_eq_some_iff.mpr ⟨(first, before ++ ']' :: rest),
      openSet?_cut flags hne hopen, brackets?_cut flags (Nat.lt_succ_self _) hread⟩

end RpcRouting.Regex.Syntax
