import RpcRouting.Proofs.Regex.ShorterStep

namespace RpcRouting.Regex

namespace Syntax

-- Whether reading comes to a closing parenthesis while no group is open.
def straysFrom : Nat → Reading → List Char → Bool
  | 0, _, _ => false
  | fuel + 1, reading, cs =>
    match skipBlank reading.flags cs with
    | [] => false
    | c :: rest =>
      if c = ')' && reading.outer.isEmpty then true
      else (step? reading c rest).any fun found => straysFrom fuel found.1 found.2

-- The text closes more than it opens. Within a group it closes that group.
def Strays (cs : List Char) : Prop := straysFrom (cs.length + 1) {} cs = true

instance : DecidablePred Strays := fun cs =>
  inferInstanceAs (Decidable (straysFrom (cs.length + 1) {} cs = true))

section

variable {base : Flags × Level} {reading last : Reading} {cs : List Char} {fuel fuel' : Nat}

theorem straysFrom_of_closing {rest : List Char} (hcs : skipBlank reading.flags cs = ')' :: rest)
    (ho : reading.outer = []) : straysFrom (fuel + 1) reading cs = true := by
  simp [straysFrom, hcs, ho]

theorem straysFrom_of_step {next : Reading} {c : Char} {rest left : List Char}
    (hcs : skipBlank reading.flags cs = c :: rest) (hc : c ≠ ')' ∨ reading.outer ≠ [])
    (h : step? reading c rest = some (next, left)) :
    straysFrom (fuel + 1) reading cs = straysFrom fuel next left := by
  have hstay : (decide (c = ')') && reading.outer.isEmpty) = false := by
    rcases hc with hc | hc
    · simp [hc]
    · simp [hc]
  simp [straysFrom, hcs, hstay, h]

-- Such a text is no pattern.
theorem read?_of_straysFrom (h : straysFrom fuel reading cs = true) :
    read? fuel' reading cs = none := by
  induction fuel generalizing fuel' reading cs with
  | zero => cases h
  | succ fuel ih =>
    cases fuel' with
    | zero => rfl
    | succ fuel' =>
      unfold straysFrom at h
      split at h
      · cases h
      · rename_i c rest hcs
        split at h
        · rename_i hc
          simp only [Bool.and_eq_true, decide_eq_true_eq, List.isEmpty_iff] at hc
          obtain ⟨rfl, ho⟩ := hc
          simp [read?, hcs, step?, Reading.closeGroup?, ho]
        · cases hstep : step? reading c rest with
          | none => simp only [read?, hcs, hstep, Option.bind_none]
          | some found =>
            rw [hstep, Option.any_some] at h
            simp only [read?, hcs, hstep, Option.bind_some]
            exact ih h

-- What begins inside the closing ends no group.
theorem outer_ne_nil_of_tail {left : List Char} (ho : reading.outer ≠ []) (hleft : left <:+ ['$'])
    (h : read? fuel reading left = some last) : last.outer ≠ [] := by
  have hend : ∀ {fuel : Nat} {reading : Reading}, reading.outer ≠ [] →
      read? fuel reading [] = some last → last.outer ≠ [] := by
    intro fuel reading ho h
    cases fuel with
    | zero => cases h
    | succ fuel =>
      cases h
      exact ho
  rcases List.suffix_cons_iff.mp hleft with rfl | hnil
  · cases fuel with
    | zero => cases h
    | succ fuel =>
      have hblank : isBlank '$' = false := by decide
      have hsolid : skipBlank reading.flags ['$'] = ['$'] := by simp [skipBlank, collect, hblank]
      have hstep : step? reading '$' [] =
          some (reading.addAnchor (endAnchor reading.flags), []) := rfl
      rw [read?_of_step hsolid hstep] at h
      have hadded : (reading.addAnchor (endAnchor reading.flags)).outer ≠ [] := ho
      exact hend hadded h
  · rw [List.suffix_nil.mp hnil] at h
    exact hend ho h

theorem count?_closing (flags : Flags) : count? flags closing = none := by
  have hdigit : Char.isDigit ')' = false := by decide
  simp [count?, closing, collect, isBlank_parenthesis, hdigit]

-- Braces with nothing before the closing are no counted repetition.
theorem read?_of_brace {inner : List Char}
    (h : skipBlank reading.flags (inner ++ closing) = closing) :
    read? fuel reading ('{' :: inner ++ closing) = none := by
  cases fuel with
  | zero => rfl
  | succ fuel =>
    have hblank : isBlank '{' = false := by decide
    have hsolid : skipBlank reading.flags ('{' :: inner ++ closing) = '{' :: (inner ++ closing) := by
      simp [skipBlank, collect, hblank]
    have hstep : step? reading '{' (inner ++ closing) = none := by
      simp [step?, counted?, h, count?_closing]
    simp only [read?, hsolid, hstep, Option.bind_none]

theorem eq_append_or_suffix_tail {left : List Char} (h : left <:+ cs ++ closing) :
    (∃ more, left = more ++ closing) ∨ left <:+ ['$'] := by
  rcases List.suffix_or_suffix_of_suffix h (List.suffix_append cs closing) with hl | hc
  · rcases List.suffix_cons_iff.mp hl with rfl | htail
    · exact .inl ⟨[], rfl⟩
    · exact .inr htail
  · obtain ⟨more, rfl⟩ := hc
    exact .inl ⟨more, rfl⟩

-- The next parenthesis is one of the text, or the text is at its end and the closing comes.
theorem skipBlank_parenthesis {rest : List Char}
    (h : skipBlank reading.flags (cs ++ closing) = ')' :: rest) :
    (∃ more, skipBlank reading.flags cs = ')' :: more) ∨
      skipBlank reading.flags cs = [] ∧ skipBlank reading.flags (cs ++ closing) = closing := by
  have hs := skipBlank_extended reading.flags (Or.inl rfl : Extended cs (cs ++ closing))
  cases hcs : skipBlank reading.flags cs with
  | nil =>
    rw [hcs] at hs
    rcases hs with hs | hs
    · exact .inr ⟨rfl, hs⟩
    · rw [h] at hs
      cases hs
  | cons c more =>
    obtain ⟨others, he, -⟩ := hs.cons_of_eq hcs
    rw [h] at he
    cases he
    exact .inl ⟨more, rfl⟩

-- A step after which the group around all that has been read is still closed in the end leaves the
-- closing to do it, and has taken no notice of it.
theorem exists_step_of_closed {next : Reading} {c : Char} {rest left : List Char}
    (htext : skipBlank reading.flags (cs ++ closing) = c :: rest)
    (hstep : step? reading c rest = some (next, left))
    (hread : read? fuel (next.under base) left = some last) (hlast : last.outer = []) :
    ∃ inner more, skipBlank reading.flags cs = c :: inner ∧ left = more ++ closing ∧
      step? reading c inner = some (next, more) := by
  have hskipped := skipBlank_suffix reading.flags (cs ++ closing)
  rw [htext] at hskipped
  have hrest := (List.suffix_cons c rest).trans hskipped
  rcases eq_append_or_suffix_tail ((step?_suffix hstep).trans hrest) with ⟨more, rfl⟩ | htail
  · obtain ⟨inner, rfl⟩ := exists_eq_append_closing (step?_suffix hstep)
    rcases step?_cut hstep with hcut | ⟨braced, rfl, hbraced⟩
    · exact ⟨inner, more, skipBlank_cut htext, rfl, hcut⟩
    · have hnone : read? fuel (next.under base) ('{' :: braced ++ closing) = none :=
        read?_of_brace hbraced
      rw [hnone] at hread
      cases hread
  · have hunder : (next.under base).outer ≠ [] := by simp [Reading.under]
    exact absurd hlast (outer_ne_nil_of_tail hunder htail hread)

-- Where the group around all that has been read is closed in the end, it is closed by a
-- parenthesis of the text, or the text is read to its end and the closing does it.
theorem read?_enclosed (hfuel : cs.length < fuel')
    (h : read? fuel (reading.under base) (cs ++ closing) = some last) (hlast : last.outer = []) :
    straysFrom fuel' reading cs = true ∨
      ∃ inner, read? fuel' reading cs = some inner ∧ inner.outer = [] ∧
        ∃ n, read? n (inner.under base) closing = some last := by
  induction fuel generalizing fuel' reading cs with
  | zero => cases h
  | succ fuel ih =>
    obtain ⟨fuel', rfl⟩ : ∃ n, fuel' = n + 1 := ⟨fuel' - 1, by omega⟩
    cases htext : skipBlank reading.flags (cs ++ closing) with
    | nil =>
      simp only [read?, Reading.under_flags, htext] at h
      cases h
      simp [Reading.under] at hlast
    | cons c rest =>
      by_cases hclose : c = ')' ∧ reading.outer = []
      · obtain ⟨rfl, ho⟩ := hclose
        rcases skipBlank_parenthesis htext with ⟨more, hcs⟩ | ⟨hcs, hclosing⟩
        · exact .inl (straysFrom_of_closing hcs ho)
        · refine .inr ⟨reading, by simp only [read?, hcs], ho, fuel + 1, ?_⟩
          rw [← h]
          simp only [read?, Reading.under_flags, hclosing, skipBlank_closing]
      · have hstay : c ≠ ')' ∨ reading.outer ≠ [] := not_and_or.mp hclose
        simp only [read?, Reading.under_flags, htext, step?_sheltered hstay] at h
        obtain ⟨found, hmap, hread⟩ := Option.bind_eq_some_iff.mp h
        obtain ⟨⟨next, left⟩, hstep, rfl⟩ := Option.map_eq_some_iff.mp hmap
        obtain ⟨inner, more, hcs, rfl, hcut⟩ := exists_step_of_closed htext hstep hread hlast
        have hshort : more.length < fuel' := by
          have hmore := (step?_suffix hcut).length_le
          have hinner := (skipBlank_suffix reading.flags cs).length_le
          rw [hcs, List.length_cons] at hinner
          omega
        rcases ih hshort hread with hstrays | ⟨last', hlast', ho, hend⟩
        · left
          rw [straysFrom_of_step hcs hstay hcut]
          exact hstrays
        · refine .inr ⟨last', ?_, ho, hend⟩
          rw [read?_of_step hcs hcut]
          exact hlast'

theorem read?_mono (h : read? fuel reading cs = some last) (hle : fuel ≤ fuel') :
    read? fuel' reading cs = some last := by
  induction fuel generalizing fuel' reading cs with
  | zero => cases h
  | succ fuel ih =>
    obtain ⟨fuel', rfl⟩ : ∃ n, fuel' = n + 1 := ⟨fuel' - 1, by omega⟩
    unfold read? at h ⊢
    split at h
    · exact h
    · obtain ⟨found, hstep, hread⟩ := Option.bind_eq_some_iff.mp h
      exact Option.bind_eq_some_iff.mpr ⟨found, hstep, ih hread (by omega)⟩

-- Between the ends of the text, a pattern is nested deeper than by itself.
theorem height_lt_enclosed (piece : Piece) :
    piece.height < (Level.piece ⟨[], [⟨.anchor .textEnd, 0, true⟩, piece.group,
      ⟨.anchor .textStart, 0, true⟩]⟩).height := by
  simp only [Level.piece, Piece.choice, Piece.sequence, Piece.heightOf, Piece.group,
    List.reverse_cons, List.reverse_nil, List.nil_append, List.cons_append, List.foldl_cons,
    List.foldl_nil]
  omega

-- A text that can be read between the ends of the text is a pattern by itself, or closes the group
-- around it.
theorem parse?_or_strays {source : String} {e' : Expr} (h : parse? (anchored source) = some e') :
    (∃ e, parse? source.toList = some e) ∨ Strays source.toList := by
  simp only [parse?, bind, Option.bind_eq_some_iff] at h ⊢
  obtain ⟨last', hread, u, houter, v, hheight, -⟩ := h
  have htext : anchored source = '^' :: '(' :: '?' :: ':' :: (source.toList ++ closing) := rfl
  have hfuel : (anchored source).length + 1 = source.toList.length + 5 + 2 := by
    simp [htext, closing]
  rw [hfuel, htext, read?_opening] at hread
  have hclosed := List.isEmpty_iff.mp ((Option.guard_eq_some' u).mp houter)
  rcases read?_enclosed (Nat.lt_succ_self _) hread hclosed with hstrays | ⟨last, hlast, ho, n, hend⟩
  · exact .inr hstrays
  · have hlast' := read?_mono hend (Nat.le_add_right n 3)
    rw [read?_closing n ho] at hlast'
    cases hlast'
    have hle := (Option.guard_eq_some' v).mp hheight
    have hlow := Nat.le_trans (Nat.le_of_lt (height_lt_enclosed last.level.piece)) hle
    refine .inl ⟨_, last, hlast, (), ?_, (), ?_, rfl⟩
    · exact (Option.guard_eq_some' ()).mpr (List.isEmpty_iff.mpr ho)
    · exact (Option.guard_eq_some' ()).mpr hlow

theorem parse?_eq_none_iff {source : String} {e' : Expr} (h : parse? (anchored source) = some e') :
    parse? source.toList = none ↔ Strays source.toList := by
  constructor
  · intro hnone
    rcases parse?_or_strays h with ⟨e, he⟩ | hstrays
    · rw [hnone] at he
      cases he
    · exact hstrays
  · intro hstrays
    simp only [parse?, read?_of_straysFrom hstrays, bind, Option.bind_none]

-- A parenthesis that is escaped, a member of a set or part of a comment closes nothing.
example : ¬ Strays "\\)[)](?x)#)".toList := by decide +kernel

end

end Syntax

namespace Pattern

-- A text that is compiled is a pattern by itself unless it closes the group that it is put into.
-- If it is a pattern, exactly the texts match that it describes from the first to the last
-- character. Otherwise its parts stand at either end of the text, and it is enough that one of them
-- occurs.
theorem compiled_covers_or_strays (source : String) (pattern : Pattern)
    (h : compile? source = some pattern) :
    (Syntax.parse? source.toList = none ↔ Syntax.Strays source.toList) ∧
    (∀ e, Syntax.parse? source.toList = some e →
      Regex.compile? source.toList = some e ∧
        ∀ text, pattern.isFullMatch text = true ↔ Covers e text.toList) ∧
    Syntax.parse? (anchored source) = some pattern.expr ∧
      ∀ text, pattern.isFullMatch text = true ↔ Occurs pattern.expr text.toList := by
  obtain ⟨hparse, hweight⟩ := pattern.parse?_source
  have hsource := source_of_compile? h
  rw [hsource] at hparse
  refine ⟨Syntax.parse?_eq_none_iff hparse, ?_, hparse, ?_⟩
  · intro e he
    have hwhole : pattern.expr = e.whole := Syntax.parse?_anchored he hparse
    have hlight : e.weight ≤ maxWeight := by
      rw [hwhole] at hweight
      simp only [Expr.whole, Expr.weight] at hweight
      omega
    refine ⟨?_, isFullMatch_iff (hsource ▸ he)⟩
    rw [Regex.compile?, he, Option.bind_some, if_pos hlight]
  · intro text
    exact Expr.occurs_iff pattern.expr text.toList

-- The two halves of a choice, each with its own end of the text.
theorem compiled_covers_or_strays_choice :
    (∃ pattern e, compile? "a+b" = some pattern ∧ Syntax.parse? "a+b".toList = some e ∧
      ∀ text, pattern.isFullMatch text = true ↔ Covers e text.toList) ∧
    ∃ pattern, compile? "a)|(?:b" = some pattern ∧
      Syntax.Strays "a)|(?:b".toList ∧ Syntax.parse? "a)|(?:b".toList = none ∧
      pattern.isFullMatch "ax" = true := by
  obtain ⟨plain, hplain⟩ : ∃ pattern, compile? "a+b" = some pattern := ⟨_, rfl⟩
  obtain ⟨e, he⟩ : ∃ e, Syntax.parse? "a+b".toList = some e := ⟨_, rfl⟩
  obtain ⟨pattern, hpattern⟩ : ∃ pattern, compile? "a)|(?:b" = some pattern := ⟨_, rfl⟩
  refine ⟨⟨plain, e, hplain, he, ((compiled_covers_or_strays _ plain hplain).2.1 e he).2⟩, ?_⟩
  refine ⟨pattern, hpattern, rfl, ?_, ?_⟩
  · exact (compiled_covers_or_strays _ pattern hpattern).1.mpr rfl
  · cases hpattern
    rfl

end Pattern

end RpcRouting.Regex
