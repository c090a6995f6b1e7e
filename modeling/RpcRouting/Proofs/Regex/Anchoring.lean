import RpcRouting.Regex.Pattern
import RpcRouting.Proofs.Regex.LongerBracket
import RpcRouting.Proofs.Regex.Occurrence
import Mathlib.Data.Option.Basic

namespace RpcRouting.Regex

namespace Syntax

open Unicode

-- One more open group around all that has been read.
def Reading.under (base : Flags × Level) (reading : Reading) : Reading :=
  { reading with outer := reading.outer ++ [base] }

-- Whatever it reads, it also reads within one more open group and with the closing after the text.
def Nestable (read : Reading → List Char → Option (Reading × List Char)) : Prop :=
  ∀ base reading ⦃cs longer next rest⦄, Extended cs longer → read reading cs = some (next, rest) →
    ∃ others, read (reading.under base) longer = some (next.under base, others) ∧
      Extended rest others

variable {cs longer rest : List Char}

namespace Reading

variable (base : Flags × Level) (reading : Reading)

@[simp] theorem under_flags : (reading.under base).flags = reading.flags := rfl

theorem closeGroup?_under {closed : Reading} (h : reading.closeGroup? = some closed) :
    (reading.under base).closeGroup? = some (closed.under base) := by
  obtain ⟨flags, level, outer, names⟩ := reading
  cases outer with
  | nil => cases h
  | cons first others =>
    cases h
    rfl

theorem repeatLast?_under (least : Nat) (extra : Option Nat) :
    (reading.under base).repeatLast? least extra =
      (reading.repeatLast? least extra).map (under base) := by
  obtain ⟨flags, ⟨alternatives, pieces⟩, outer, names⟩ := reading
  cases pieces with
  | nil => rfl
  | cons last pieces =>
    simp only [repeatLast?, under]
    split <;> rfl

end Reading

theorem addAtom?_under (base : Flags × Level) (reading : Reading) (atom : Atom) :
    addAtom? (reading.under base) atom = (addAtom? reading atom).map (Reading.under base) := by
  cases atom with
  | literal c raw =>
    change (if !reading.flags.unicode && raw && decide (c.toNat ≥ 128) then none else _) =
      Option.map _ (if !reading.flags.unicode && raw && decide (c.toNat ≥ 128) then none else _)
    split <;> rfl
  | set members => rfl
  | anchor condition => rfl

theorem flagItems?_extended {flags next : Flags} {seen last : List Char} (hl : Extended cs longer)
    (h : flagItems? flags seen cs = some (next, last, rest)) :
    ∃ others, flagItems? flags seen longer = some (next, last, others) ∧
      Extended rest others := by
  induction cs generalizing flags seen longer with
  | nil => cases h
  | cons c cs ih =>
    obtain ⟨others, rfl, ho⟩ := hl.cons
    simp only [flagItems?] at h ⊢
    by_cases hend : (decide (c = ':') || decide (c = ')')) = true
    · rw [if_pos hend] at h ⊢
      split at h
      · cases h
      · rename_i hhyphen
        cases h
        exact ⟨c :: others, if_neg hhyphen, hl⟩
    rw [if_neg hend] at h ⊢
    by_cases hseen : seen.contains c = true
    · rw [if_pos hseen] at h
      cases h
    rw [if_neg hseen] at h ⊢
    by_cases hhyphen : c = '-'
    · rw [if_pos hhyphen] at h ⊢
      exact ih ho h
    rw [if_neg hhyphen] at h ⊢
    cases hset : setFlag? flags (!seen.contains '-') c with
    | none =>
      rw [hset] at h
      cases h
    | some changed =>
      rw [hset] at h
      exact ih ho h

theorem groupName?_extendable : Extendable groupName? := by
  intro cs longer name rest hl h
  rcases hl with rfl | rfl
  · unfold groupName? at h ⊢
    dsimp only at h ⊢
    cases hd : cs.dropWhile (· != '>') with
    | nil =>
      rw [hd] at h
      split at h
      · rename_i he
        cases he
      · cases h
    | cons c left =>
      obtain ⟨htake, hdrop⟩ := Extended.takeWhile_append closing hd
      rw [htake, hdrop]
      rw [hd] at h
      cases hname : cs.takeWhile (· != '>') with
      | nil =>
        rw [hname] at h
        cases h
      | cons first others =>
        simp only [hname, List.cons_append] at h ⊢
        split at h
        · rename_i hvalid
          cases h
          exact ⟨rest ++ closing, if_pos hvalid, .inl rfl⟩
        · cases h
  · exact ⟨rest, h, .self rest⟩

theorem openNamed?_nestable : Nestable openNamed? := by
  intro base reading cs longer next rest hl h
  simp only [openNamed?, bind, Option.bind_eq_some_iff] at h ⊢
  obtain ⟨⟨name, left⟩, hname, u, hu, he⟩ := h
  cases he
  obtain ⟨others, hname', ho⟩ := groupName?_extendable hl hname
  exact ⟨others, ⟨(name, others), hname', u, hu, rfl⟩, ho⟩

theorem setFlags?_nestable : Nestable setFlags? := by
  intro base reading cs longer next rest hl h
  unfold setFlags? at h
  split at h
  · rename_i flags seen left hitems
    obtain ⟨others, hitems', ho⟩ := flagItems?_extended hl hitems
    obtain ⟨more, rfl, hmore⟩ := ho.cons
    split at h
    · cases h
    · rename_i hseen
      cases h
      refine ⟨more, ?_, hmore⟩
      simp only [setFlags?, Reading.under_flags, hitems', if_neg hseen]
      rfl
  · rename_i flags seen c left hc hitems
    cases h
    obtain ⟨others, hitems', ho⟩ := flagItems?_extended hl hitems
    obtain ⟨more, rfl, hmore⟩ := ho.cons
    refine ⟨more, ?_, hmore⟩
    simp only [setFlags?, Reading.under_flags, hitems']
    rfl
  · cases h

theorem special?_nestable : Nestable special? := by
  intro base reading cs longer next rest hl h
  unfold special? at h
  split at h
  · obtain ⟨others, rfl, ho⟩ := hl.cons
    obtain ⟨others, rfl, ho'⟩ := ho.cons
    exact openNamed?_nestable base reading ho' h
  · obtain ⟨others, rfl, ho⟩ := hl.cons
    exact openNamed?_nestable base reading ho h
  · rename_i hnamed hname
    obtain ⟨others, hread, ho⟩ := setFlags?_nestable base reading hl h
    refine ⟨others, ?_, ho⟩
    unfold special?
    split
    · rename_i more
      obtain ⟨more', rfl, hmore⟩ := hl.of_cons (by decide)
      obtain ⟨more', rfl, -⟩ := hmore.of_cons (by decide)
      exact absurd rfl (hnamed more')
    · rename_i more
      obtain ⟨more', rfl, -⟩ := hl.of_cons (by decide)
      exact absurd rfl (hname more')
    · exact hread

theorem group?_nestable : Nestable group? := by
  intro base reading cs longer next rest hl h
  have hs := skipBlank_extended reading.flags hl
  unfold group? at h
  split at h
  · rename_i inner hinner
    obtain ⟨others, hlonger, ho⟩ := hs.cons_of_eq hinner
    simp only [group?, Reading.under_flags, hlonger]
    exact special?_nestable base reading ho h
  · rename_i hquestion
    cases h
    refine ⟨_, ?_, hs⟩
    simp only [group?, Reading.under_flags]
    split
    · rename_i others hlonger
      obtain ⟨inner, hinner, -⟩ := (hlonger ▸ hs).of_cons (by decide)
      exact absurd hinner (hquestion inner)
    · rfl

theorem upperBound?_extendable (flags : Flags) (least : Nat) :
    Extendable (upperBound? flags least) := by
  intro cs longer most rest hl h
  unfold upperBound? at h
  split at h
  · rename_i more
    obtain ⟨others, rfl, ho⟩ := hl.cons
    have hs := skipBlank_extended flags ho
    split at h
    · rename_i left hleft
      cases h
      obtain ⟨others', hlonger, ho'⟩ := hs.cons_of_eq hleft
      refine ⟨'}' :: others', ?_, ho'.cons_cons '}'⟩
      simp only [upperBound?, hlonger]
    · rename_i hbrace
      have hcount : Extendable fun cs =>
          (count? flags cs).map fun counted => (some counted.1, counted.2) :=
        (count?_extendable flags).map fun most => extendable_some (some most)
      obtain ⟨last, hread, hlast⟩ := hcount hs h
      refine ⟨last, ?_, hlast⟩
      simp only [upperBound?]
      split
      · rename_i others' hlonger
        obtain ⟨left, hleft, -⟩ := (hlonger ▸ hs).of_cons (by decide)
        exact absurd hleft (hbrace left)
      · exact hread
  · rename_i hcomma
    cases h
    refine ⟨longer, ?_, hl⟩
    unfold upperBound?
    split
    · rename_i others
      obtain ⟨more, rfl, -⟩ := hl.of_cons (by decide)
      exact absurd rfl (hcomma more)
    · rfl

theorem skipLazy_extended (hl : Extended cs longer) :
    Extended (skipLazy cs) (skipLazy longer) := by
  unfold skipLazy
  split
  · rename_i rest
    obtain ⟨others, rfl, ho⟩ := hl.cons
    exact ho
  · rename_i hquestion
    split
    · rename_i others
      obtain ⟨rest, rfl, -⟩ := hl.of_cons (by decide)
      exact absurd rfl (hquestion rest)
    · exact hl

theorem counted?_nestable : Nestable counted? := by
  intro base reading cs longer next rest hl h
  simp only [counted?, bind, Option.bind_eq_some_iff, Reading.under_flags] at h ⊢
  obtain ⟨⟨least, left⟩, hleast, ⟨most, last⟩, hmost, h⟩ := h
  obtain ⟨left', hleast', hleft⟩ :=
    count?_extendable reading.flags (skipBlank_extended reading.flags hl) hleast
  obtain ⟨last', hmost', hlast⟩ := upperBound?_extendable reading.flags least hleft hmost
  split at h
  · rename_i more hmore
    obtain ⟨others, hlonger, ho⟩ := hlast.cons_of_eq hmore
    simp only [Option.bind_eq_some_iff] at h
    obtain ⟨u, hu, repeated, hrepeated, he⟩ := h
    cases he
    refine ⟨_, ⟨(least, left'), hleast', (most, last'), hmost', ?_⟩,
      skipLazy_extended (skipBlank_extended reading.flags ho)⟩
    simp only [hlonger, Option.bind_eq_some_iff, Reading.repeatLast?_under, hrepeated]
    exact ⟨u, hu, _, rfl, rfl⟩
  · cases h

theorem step?_nestable (c : Char) : Nestable fun reading cs => step? reading c cs := by
  intro base reading cs longer next rest hl h
  have hrepeat : ∀ least extra,
      (reading.repeatLast? least extra).map (·, skipLazy cs) = some (next, rest) →
      ∃ others, ((reading.under base).repeatLast? least extra).map (·, skipLazy longer) =
        some (next.under base, others) ∧ Extended rest others := by
    intro least extra h
    obtain ⟨repeated, hrepeated, he⟩ := Option.map_eq_some_iff.mp h
    cases he
    refine ⟨skipLazy longer, ?_, skipLazy_extended hl⟩
    rw [Reading.repeatLast?_under, hrepeated]
    rfl
  unfold step? at h
  dsimp only at h ⊢
  split at h
  · exact group?_nestable base reading hl h
  · obtain ⟨closed, hclosed, he⟩ := Option.map_eq_some_iff.mp h
    cases he
    refine ⟨longer, ?_, hl⟩
    simp only [step?, reading.closeGroup?_under base hclosed, Option.map_some]
  · cases h
    exact ⟨longer, rfl, hl⟩
  · obtain ⟨⟨part, left⟩, hpart, he⟩ := Option.map_eq_some_iff.mp h
    cases he
    obtain ⟨others, hpart', ho⟩ := bracketed?_extendable reading.flags hl hpart
    refine ⟨others, ?_, ho⟩
    simp only [step?, Reading.under_flags, hpart', Option.map_some]
    rfl
  · exact hrepeat 0 (some 1) h
  · exact hrepeat 0 none h
  · exact hrepeat 1 none h
  · exact counted?_nestable base reading hl h
  · simp only [step?, bind, Option.bind_eq_some_iff, Reading.under_flags] at h ⊢
    obtain ⟨⟨atom, left⟩, hatom, added, hadded, he⟩ := h
    cases he
    obtain ⟨others, hatom', ho⟩ := escape?_extendable reading.flags hl hatom
    refine ⟨others, ⟨(atom, others), hatom', next.under base, ?_, rfl⟩, ho⟩
    rw [addAtom?_under, hadded, Option.map_some]
  · obtain ⟨set, hset, he⟩ := Option.map_eq_some_iff.mp h
    cases he
    refine ⟨longer, ?_, hl⟩
    simp only [step?, Reading.under_flags, hset, Option.map_some]
    rfl
  · cases h
    exact ⟨longer, rfl, hl⟩
  · cases h
    exact ⟨longer, rfl, hl⟩
  · obtain ⟨added, hadded, he⟩ := Option.map_eq_some_iff.mp h
    cases he
    refine ⟨longer, ?_, hl⟩
    simp only [step?, addAtom?_under, hadded, Option.map_some]

theorem skipBlank_closing (flags : Flags) : skipBlank flags closing = closing := by
  simp [skipBlank, collect, closing, isBlank_parenthesis]

theorem read?_of_step {reading next : Reading} {c : Char} {left : List Char} {n : Nat}
    (hcs : skipBlank reading.flags cs = c :: rest) (h : step? reading c rest = some (next, left)) :
    read? (n + 1) reading cs = read? n next left := by
  simp only [read?, hcs, h, Option.bind_some]

-- What is read of a pattern is also read of it within one more open group and with the closing
-- after it. Then the closing is next, unless a comment has taken it in.
theorem read?_under (base : Flags × Level) {fuel fuel' : Nat} (hfuel : fuel + 2 ≤ fuel')
    {reading last : Reading} (hl : Extended cs longer) (h : read? fuel reading cs = some last) :
    read? fuel' (reading.under base) longer = some (last.under base) ∨
      ∃ n, read? fuel' (reading.under base) longer =
        read? (n + 3) (last.under base) closing := by
  induction fuel generalizing fuel' reading cs longer with
  | zero => cases h
  | succ fuel ih =>
    obtain ⟨n, rfl⟩ : ∃ n, fuel' = n + 3 := ⟨fuel' - 3, by omega⟩
    have hs := skipBlank_extended reading.flags hl
    unfold read? at h
    split at h
    · rename_i hcs
      cases h
      rw [hcs] at hs
      rcases hs with hlonger | hlonger
      · right
        refine ⟨n, ?_⟩
        rw [read?, read?, Reading.under_flags, hlonger, skipBlank_closing]
        rfl
      · left
        simp only [read?, Reading.under_flags, hlonger]
    · rename_i c left hcs
      obtain ⟨others, hlonger, ho⟩ := hs.cons_of_eq hcs
      obtain ⟨⟨next, rest⟩, hstep, h⟩ := Option.bind_eq_some_iff.mp h
      obtain ⟨rest', hstep', hrest⟩ := step?_nestable c base reading ho hstep
      have hsolid : skipBlank (reading.under base).flags longer = c :: others := hlonger
      rw [read?_of_step hsolid hstep']
      exact ih (by omega) hrest h

-- The text of a pattern between the two ends of the text: before the pattern, a group is opened.
theorem read?_opening (n : Nat) (cs : List Char) :
    read? (n + 2) {} ('^' :: '(' :: '?' :: ':' :: cs) =
      read? n (Reading.under ({}, ⟨[], [⟨.anchor .textStart, 0, true⟩]⟩) {}) cs := rfl

-- After the pattern, the group is closed.
theorem read?_closing (n : Nat) {last : Reading} (houter : last.outer = []) (pieces : List Piece) :
    read? (n + 3) (last.under ({}, ⟨[], pieces⟩)) closing =
      some { last with
        flags := {}
        level := ⟨[], ⟨.anchor .textEnd, 0, true⟩ :: last.level.piece.group :: pieces⟩ } := by
  obtain ⟨flags, level, outer, names⟩ := last
  obtain rfl := houter
  rw [read?_of_step (skipBlank_closing flags) rfl, read?_of_step rfl rfl]
  rfl

-- Where both the pattern by itself and the pattern between the two ends of the text can be read,
-- the second describes what the first does, from the first to the last character.
theorem parse?_anchored {source : String} {e e' : Expr} (h : parse? source.toList = some e)
    (h' : parse? (anchored source) = some e') : e' = e.whole := by
  simp only [parse?, bind, Option.bind_eq_some_iff] at h h'
  obtain ⟨last, hread, u, houter, v, hheight, he⟩ := h
  obtain ⟨last', hread', u', houter', v', hheight', he'⟩ := h'
  have htext : anchored source = '^' :: '(' :: '?' :: ':' :: (source.toList ++ closing) := rfl
  have hfuel : (anchored source).length + 1 = source.toList.length + 5 + 2 := by
    simp [htext, closing]
  rw [hfuel, htext, read?_opening] at hread'
  have houter : last.outer = [] := List.isEmpty_iff.mp ((Option.guard_eq_some' u).mp houter)
  rcases read?_under ({}, ⟨[], [⟨.anchor .textStart, 0, true⟩]⟩)
      (show source.toList.length + 1 + 2 ≤ source.toList.length + 5 by omega) (.inl rfl) hread
    with hunder | ⟨n, hunder⟩
  · rw [hunder] at hread'
    cases hread'
    have hclosed := List.isEmpty_iff.mp ((Option.guard_eq_some' u').mp houter')
    simp [Reading.under] at hclosed
  · rw [hunder, read?_closing n houter] at hread'
    cases hread'
    cases he
    cases he'
    rfl

end Syntax

namespace Pattern

-- A pattern that can be read by itself tests the whole text.
theorem isFullMatch_iff {pattern : Pattern} {e : Expr}
    (h : Syntax.parse? pattern.source.toList = some e) (text : String) :
    pattern.isFullMatch text = true ↔ Covers e text.toList := by
  rw [isFullMatch, Expr.occurs_iff, Syntax.parse?_anchored h pattern.parse?_source.1,
    occurs_whole_iff]

end Pattern

end RpcRouting.Regex
