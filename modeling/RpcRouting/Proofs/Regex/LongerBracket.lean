import RpcRouting.Regex.Bracket
import RpcRouting.Proofs.Regex.LongerText

namespace RpcRouting.Regex.Syntax

open Unicode

variable {flags : Flags} {cs longer rest : List Char}

theorem setAtom?_extendable (flags : Flags) : Extendable (setAtom? flags) := by
  refine .of_cons rfl fun c => ?_
  by_cases hc : c = '\\'
  · subst hc
    exact escape?_extendable flags
  · have hread : (fun rest => setAtom? flags (c :: rest)) =
        fun rest => some (.literal c false, rest) := by
      funext rest
      simp [setAtom?]
    rw [hread]
    exact extendable_some _

theorem firstSolid_append (inComment : Bool) (rest : List Char) :
    firstSolid inComment (rest ++ closing) = (firstSolid inComment rest).or (some ')') := by
  induction rest generalizing inComment with
  | nil =>
    simp [firstSolid, closing, isBlank_parenthesis]
  | cons c rest ih =>
    simp only [List.cons_append, firstSolid]
    split
    · exact ih inComment
    split
    · exact ih true
    · rfl

theorem firstSolid_cons_of_solid {c : Char} (hb : isBlank c = false) (hc : c ≠ '#') :
    firstSolid false (c :: rest) = some c := by
  simp [firstSolid, hb, hc]

-- The closing is neither the end of a set nor a hyphen.
theorem peek_eq_iff (flags : Flags) (hl : Extended rest longer) {c : Char}
    (hb : isBlank c = false) (hc : c ≠ '#') (hp : c ≠ ')') :
    peek flags longer = some c ↔ peek flags rest = some c := by
  rcases hl with rfl | rfl
  · unfold peek
    split
    · rw [firstSolid_append]
      cases hs : firstSolid false rest with
      | some d => simp
      | none =>
        cases rest with
        | nil => simp [hp.symm]
        | cons d rest =>
          have hd : d ≠ c := by
            rintro rfl
            rw [firstSolid_cons_of_solid hb hc] at hs
            cases hs
          simp [hp.symm, hd]
    · cases rest with
      | nil => simp [closing, hp.symm]
      | cons d rest => simp
  · exact Iff.rfl

theorem peek_bracket_iff (flags : Flags) (hl : Extended rest longer) :
    peek flags longer = some ']' ↔ peek flags rest = some ']' :=
  peek_eq_iff flags hl (by decide) (by decide) (by decide)

theorem peek_hyphen_iff (flags : Flags) (hl : Extended rest longer) :
    peek flags longer = some '-' ↔ peek flags rest = some '-' :=
  peek_eq_iff flags hl (by decide) (by decide) (by decide)

theorem rangeFrom?_extendable (flags : Flags) (first : Atom) :
    Extendable (rangeFrom? flags first) := by
  intro cs longer set rest hl h
  simp only [rangeFrom?, peek_bracket_iff flags hl, peek_hyphen_iff flags hl] at h ⊢
  split at h
  · rename_i hend
    rw [if_pos hend]
    obtain ⟨members, hm, he⟩ := Option.map_eq_some_iff.mp h
    cases he
    exact ⟨'-' :: longer, Option.map_eq_some_iff.mpr ⟨set, hm, rfl⟩, hl.cons_cons '-'⟩
  · rename_i hend
    rw [if_neg hend]
    have hlast : Extendable fun cs =>
        (setAtom? flags (skipBlank flags cs)).bind fun last =>
          (range? flags first last.1).map (·, last.2) :=
      ((setAtom?_extendable flags).afterBlanks flags).bind fun last =>
        extendable_const (range? flags first last)
    exact hlast hl h

theorem setItem?_extendable (flags : Flags) : Extendable (setItem? flags) := by
  refine (setAtom?_extendable flags).bind fun first => ?_
  intro cs longer set rest hl h
  have hs := skipBlank_extended flags hl
  dsimp only at h ⊢
  split at h
  · cases h
  · rename_i left hleft
    obtain ⟨others, hlonger, ho⟩ := hs.cons_of_eq hleft
    rw [hlonger]
    exact rangeFrom?_extendable flags first ho h
  · rename_i hne hhyphen
    cases hcs : skipBlank flags cs with
    | nil => exact absurd hcs hne
    | cons c left =>
      obtain ⟨others, hlonger, ho⟩ := hs.cons_of_eq hcs
      have hc : c ≠ '-' := by
        rintro rfl
        exact hhyphen left hcs
      rw [hcs] at h
      rw [hlonger]
      have hafter := extendable_const (setOfAtom? flags first) (f := id) (ho.cons_cons c) h
      simpa [hc] using hafter

theorem negation_extended (flags : Flags) (hl : Extended cs longer) :
    (negation flags longer).1 = (negation flags cs).1 ∧
      Extended (negation flags cs).2 (negation flags longer).2 := by
  have hs := skipBlank_extended flags hl
  unfold negation
  split
  · rename_i others hlonger
    rw [hlonger] at hs
    obtain ⟨rest, hcs, ho⟩ := hs.of_cons (by decide)
    rw [hcs]
    exact ⟨rfl, skipBlank_extended flags ho⟩
  · rename_i hlonger
    split
    · rename_i rest hcs
      obtain ⟨others, he, -⟩ := hs.cons_of_eq hcs
      exact absurd he (hlonger others)
    · exact ⟨rfl, hs⟩

theorem firstParts?_extendable (flags : Flags) : Extendable (firstParts? flags) := by
  intro cs longer parts rest hl h
  unfold firstParts? at h
  split at h
  · cases h
  · rename_i more hcollect
    obtain ⟨others, hcollect', ho⟩ := collect_of_cons hl hcollect
    simp only [firstParts?, hcollect']
    cases hmore : skipBlank flags more with
    | nil =>
      rw [hmore] at h
      cases h
    | cons c left =>
      rw [hmore] at h
      cases h
      obtain ⟨left', hothers, hleft⟩ := (skipBlank_extended flags ho).cons_of_eq hmore
      rw [hothers]
      exact ⟨c :: left', rfl, hleft.cons_cons c⟩
  · rename_i hyphens left hne hbracket hcollect
    cases h
    obtain ⟨c, more, rfl⟩ := List.exists_cons_of_ne_nil hne
    obtain ⟨others, hcollect', ho⟩ := collect_of_cons hl hcollect
    refine ⟨c :: others, ?_, ho.cons_cons c⟩
    have hfirst : ∀ more', hyphens = [] → c :: others = ']' :: more' → False := by
      intro more' hnil he
      cases he
      exact hbracket more hnil rfl
    simp only [firstParts?, hcollect']

theorem openSet?_extendable (flags : Flags) : Extendable (openSet? flags) := by
  intro cs longer set rest hl h
  obtain ⟨hnegated, hbody⟩ := negation_extended flags hl
  simp only [openSet?, hnegated] at h ⊢
  exact (firstParts?_extendable flags).map
    (fun parts => extendable_some (OpenSet.mk (negation flags cs).1 none parts)) hbody h

-- The closing holds neither the colon nor the bracket that a name ends with.
theorem namedClass?_steady : Steady namedClass? := by
  intro cs
  unfold namedClass?
  cases hd : cs.dropWhile (· != ':') with
  | nil =>
    have hclosing : (cs ++ closing).dropWhile (· != ':') = [] := by
      rw [List.dropWhile_append, hd]
      rfl
    rw [hclosing]
    rfl
  | cons c rest =>
    obtain ⟨htake, hdrop⟩ := Extended.takeWhile_append closing hd
    rw [hdrop, htake]
    cases rest with
    | nil => simp [closing]
    | cons d rest =>
      by_cases h : c = ':' ∧ d = ']'
      · obtain ⟨rfl, rfl⟩ := h
        simp only [List.cons_append, Option.map_map]
        rfl
      · have hend : ∀ more, c :: d :: rest ≠ ':' :: ']' :: more := by
          rintro more he
          cases he
          exact h ⟨rfl, rfl⟩
        split
        · rename_i more he
          cases he
          exact absurd ⟨rfl, rfl⟩ h
        · rfl

theorem asciiClass?_steady : Steady asciiClass? := by
  intro cs
  cases cs with
  | nil => rfl
  | cons c body =>
    by_cases hc : c = ':'
    · subst hc
      cases body with
      | nil => rfl
      | cons d named =>
        by_cases hd : d = '^'
        · subst hd
          simp only [List.cons_append, asciiClass?, namedClass?_steady _, Option.map_map]
          rfl
        · have hplain : ∀ named, asciiClass? (':' :: d :: named) =
              (namedClass? (d :: named)).map fun named => ((false, named.1), named.2) := by
            intro named
            simp [asciiClass?, hd]
          simp only [List.cons_append, hplain]
          rw [← List.cons_append, namedClass?_steady]
          simp only [Option.map_map]
          rfl
    · simp [asciiClass?, hc]

theorem operator?_steady : Steady operator? := by
  intro cs
  match cs with
  | [] => rfl
  | [c] =>
    have hsign : SetOperator.ofSign? ')' = none := rfl
    by_cases hc : c = ')'
    · subst hc
      simp [operator?, closing, hsign]
    · simp [operator?, closing, hc]
  | c :: d :: rest =>
    simp only [List.cons_append, operator?]
    split
    · rw [Option.map_map]
      rfl
    · rfl

-- What one round of `brackets?` makes of the open sets, innermost first, and of the text after its
-- blanks, short of the bracket that closes the last set. One constructor for each thing it reads.
inductive Round (flags : Flags) :
    OpenSet → List OpenSet → List Char → OpenSet → List OpenSet → List Char → Prop
  | asciiClass {inner : OpenSet} {outer : List OpenSet} {text left : List Char} {negated : Bool}
      {members set : CharSet} (hclass : asciiClass? text = some ((negated, members), left))
      (hset : complement? flags negated (closeCase flags members) = some set) :
      Round flags inner outer ('[' :: text) (inner.add ⟨set, 0⟩) outer left
  | nestedSet {inner nested : OpenSet} {outer : List OpenSet} {text left : List Char}
      (hclass : asciiClass? text = none) (hopen : openSet? flags text = some (nested, left)) :
      Round flags inner outer ('[' :: text) nested (inner :: outer) left
  | closedSet {inner parent : OpenSet} {outer : List OpenSet} {left : List Char} {part : SetPart}
      (hclosed : inner.close? flags = some part) :
      Round flags inner (parent :: outer) (']' :: left) (parent.add part) outer left
  | operator {inner : OpenSet} {outer : List OpenSet} {text left : List Char}
      {operator : SetOperator} (hoperator : operator? text = some (operator, left)) :
      Round flags inner outer text (inner.operate flags operator) outer left
  | item {inner : OpenSet} {outer : List OpenSet} {text left : List Char} {set : CharSet}
      (hopen : ∀ more, text ≠ '[' :: more) (hclose : ∀ more, text ≠ ']' :: more)
      (hoperator : operator? text = none) (hitem : setItem? flags text = some (set, left)) :
      Round flags inner outer text (inner.add ⟨set, 0⟩) outer left

theorem exists_of_operator? {operator : SetOperator} (h : operator? cs = some (operator, rest)) :
    ∃ c d, cs = c :: d :: rest ∧ SetOperator.ofSign? c = some operator := by
  unfold operator? at h
  split at h
  · rename_i c d more
    split at h
    · obtain ⟨found, hsign, he⟩ := Option.map_eq_some_iff.mp h
      cases he
      exact ⟨c, d, rfl, hsign⟩
    · cases h
  · cases h

section

variable {fuel : Nat} {inner inner' : OpenSet} {outer outer' : List OpenSet}
  {text left : List Char} {part : SetPart}

theorem brackets?_of_closed (hcs : skipBlank flags cs = ']' :: rest)
    (hclosed : inner.close? flags = some part) :
    brackets? flags (fuel + 1) inner [] cs = some (part, rest) := by
  rw [brackets?, hcs]
  exact Option.bind_eq_some_iff.mpr ⟨part, hclosed, rfl⟩

-- After a round, the next one goes on from there.
theorem Round.brackets?_eq (h : Round flags inner outer (skipBlank flags cs) inner' outer' left) :
    brackets? flags (fuel + 1) inner outer cs = brackets? flags fuel inner' outer' left := by
  rw [brackets?]
  generalize skipBlank flags cs = text at h
  cases h with
  | asciiClass hclass hset =>
    simp only [hclass, hset]
    rfl
  | nestedSet hclass hopened =>
    simp only [hclass, hopened]
    rfl
  | closedSet hclosed =>
    simp only [hclosed]
    rfl
  | operator hoperator =>
    obtain ⟨c, d, rfl, hsign⟩ := exists_of_operator? hoperator
    have hopen : ∀ more, c :: d :: left ≠ '[' :: more := by
      rintro more ⟨⟩
      cases hsign
    have hclose : ∀ more, c :: d :: left ≠ ']' :: more := by
      rintro more ⟨⟩
      cases hsign
    simp only [hoperator]
  | item hopen hclose hoperator hitem =>
    have hnil : text ≠ [] := by
      rintro rfl
      cases hitem
    simp only [hoperator, hitem]
    rfl

-- Where a set is read to its end, either that is the last bracket, or there is a round before.
theorem closed_or_round (h : brackets? flags (fuel + 1) inner outer cs = some (part, rest)) :
    (outer = [] ∧ skipBlank flags cs = ']' :: rest ∧ inner.close? flags = some part) ∨
      ∃ inner' outer' left, Round flags inner outer (skipBlank flags cs) inner' outer' left ∧
        brackets? flags fuel inner' outer' left = some (part, rest) := by
  rw [brackets?] at h
  cases hcs : skipBlank flags cs with
  | nil =>
    rw [hcs] at h
    cases h
  | cons c text =>
    rw [hcs] at h
    by_cases hc : c = '['
    · subst hc
      cases hclass : asciiClass? text with
      | none =>
        simp only [hclass] at h
        obtain ⟨⟨nested, left⟩, hopened, hread⟩ := Option.bind_eq_some_iff.mp h
        exact .inr ⟨_, _, left, .nestedSet hclass hopened, hread⟩
      | some found =>
        simp only [hclass] at h
        obtain ⟨set, hset, hread⟩ := Option.bind_eq_some_iff.mp h
        exact .inr ⟨_, _, found.2, .asciiClass hclass hset, hread⟩
    by_cases hd : c = ']'
    · subst hd
      obtain ⟨closed, hclosed, hread⟩ := Option.bind_eq_some_iff.mp h
      cases outer with
      | nil =>
        cases hread
        exact .inl ⟨rfl, rfl, hclosed⟩
      | cons parent outer => exact .inr ⟨_, _, text, .closedSet hclosed, hread⟩
    have hopen : ∀ more, c :: text ≠ '[' :: more := fun more he => hc (List.cons.inj he).1
    have hclose : ∀ more, c :: text ≠ ']' :: more := fun more he => hd (List.cons.inj he).1
    cases hoperator : operator? (c :: text) with
    | none =>
      simp only [hoperator] at h
      obtain ⟨⟨set, left⟩, hitem, hread⟩ := Option.bind_eq_some_iff.mp h
      exact .inr ⟨_, _, left, .item hopen hclose hoperator hitem, hread⟩
    | some found =>
      simp only [hoperator] at h
      exact .inr ⟨_, _, found.2, .operator hoperator, h⟩

theorem Round.extended {longer : List Char} (hl : Extended text longer)
    (h : Round flags inner outer text inner' outer' left) :
    ∃ others, Round flags inner outer longer inner' outer' others ∧ Extended left others := by
  cases h with
  | asciiClass hclass hset =>
    obtain ⟨more, rfl, hmore⟩ := hl.cons
    obtain ⟨others, hclass', ho⟩ := asciiClass?_steady.extendable hmore hclass
    exact ⟨others, .asciiClass hclass' hset, ho⟩
  | nestedSet hclass hopen =>
    obtain ⟨more, rfl, hmore⟩ := hl.cons
    obtain ⟨others, hopen', ho⟩ := openSet?_extendable flags hmore hopen
    exact ⟨others, .nestedSet (asciiClass?_steady.eq_none hmore hclass) hopen', ho⟩
  | closedSet hclosed =>
    obtain ⟨others, rfl, ho⟩ := hl.cons
    exact ⟨others, .closedSet hclosed, ho⟩
  | operator hoperator =>
    obtain ⟨others, hoperator', ho⟩ := operator?_steady.extendable hl hoperator
    exact ⟨others, .operator hoperator', ho⟩
  | item hopen hclose hoperator hitem =>
    obtain ⟨others, hitem', ho⟩ := setItem?_extendable flags hl hitem
    refine ⟨others, .item ?_ ?_ (operator?_steady.eq_none hl hoperator) hitem', ho⟩
    · rintro more rfl
      obtain ⟨less, rfl, -⟩ := hl.of_cons (by decide)
      exact hopen less rfl
    · rintro more rfl
      obtain ⟨less, rfl, -⟩ := hl.of_cons (by decide)
      exact hclose less rfl

-- The longer text may need more rounds.
theorem brackets?_extended {fuel' : Nat} (hfuel : fuel ≤ fuel') (hl : Extended cs longer)
    (h : brackets? flags fuel inner outer cs = some (part, rest)) :
    ∃ others, brackets? flags fuel' inner outer longer = some (part, others) ∧
      Extended rest others := by
  induction fuel generalizing fuel' inner outer cs longer with
  | zero => cases h
  | succ fuel ih =>
    obtain ⟨fuel', rfl⟩ : ∃ n, fuel' = n + 1 := ⟨fuel' - 1, by omega⟩
    have hs := skipBlank_extended flags hl
    rcases closed_or_round h with ⟨rfl, hcs, hclosed⟩ | ⟨_, _, left, hround, hread⟩
    · obtain ⟨others, hlonger, ho⟩ := hs.cons_of_eq hcs
      exact ⟨others, brackets?_of_closed hlonger hclosed, ho⟩
    · obtain ⟨left', hround', hleft⟩ := hround.extended hs
      obtain ⟨others, hread', ho⟩ := ih (Nat.le_of_succ_le_succ hfuel) hleft hread
      exact ⟨others, hround'.brackets?_eq.trans hread', ho⟩

end

theorem bracketed?_extendable (flags : Flags) : Extendable (bracketed? flags) := by
  intro cs longer part rest hl h
  simp only [bracketed?, bind, Option.bind_eq_some_iff] at h ⊢
  obtain ⟨⟨first, left⟩, hopen, h⟩ := h
  obtain ⟨left', hopen', hleft⟩ := openSet?_extendable flags hl hopen
  obtain ⟨others, hread, ho⟩ := brackets?_extended (Nat.succ_le_succ hleft.length_le) hleft h
  exact ⟨others, ⟨(first, left'), hopen', hread⟩, ho⟩

end RpcRouting.Regex.Syntax
