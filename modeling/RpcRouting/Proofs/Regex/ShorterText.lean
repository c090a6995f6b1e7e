import RpcRouting.Proofs.Regex.LongerText

namespace RpcRouting.Regex.Syntax

open Unicode

-- What the reader leaves is an end of the text. If that still holds the closing that stands after
-- the text, the closing has not been looked at: the reader finds the same in the text by itself.
structure Confined {α : Type} (read : List Char → Option (α × List Char)) : Prop where
  suffix : ∀ {cs a rest}, read cs = some (a, rest) → rest <:+ cs
  cut : ∀ {cs a rest}, read (cs ++ closing) = some (a, rest ++ closing) → read cs = some (a, rest)

section

variable {cs rest left : List Char}

theorem eq_nil_of_suffix_closing (h : rest ++ closing <:+ closing) : rest = [] := by
  have hlength := h.length_le
  rw [List.length_append] at hlength
  exact List.eq_nil_of_length_eq_zero (by omega)

-- Nothing that begins inside the closing holds all of it.
theorem not_suffix_tail_closing : ¬ rest ++ closing <:+ ['$'] := by
  intro h
  have hlength := h.length_le
  simp [closing] at hlength

theorem exists_eq_append_closing (h : rest ++ closing <:+ left) :
    ∃ more, left = more ++ closing := by
  obtain ⟨before, rfl⟩ := h
  exact ⟨before ++ rest, by rw [List.append_assoc]⟩

theorem collect_suffix (verbose : Bool) (keep : Char → Bool) (inComment : Bool)
    (cs : List Char) : (collect verbose keep inComment cs).2 <:+ cs := by
  induction cs generalizing inComment with
  | nil => cases inComment <;> exact List.suffix_rfl
  | cons c cs ih =>
    cases inComment with
    | true => exact (ih _).trans (List.suffix_cons c cs)
    | false =>
      simp only [collect]
      split
      · exact (ih false).trans (List.suffix_cons c cs)
      split
      · exact (ih true).trans (List.suffix_cons c cs)
      split
      · exact (ih false).trans (List.suffix_cons c cs)
      · exact List.suffix_rfl

theorem collect_cut {verbose : Bool} {keep : Char → Bool} {inComment : Bool} {kept : List Char}
    (h : collect verbose keep inComment (cs ++ closing) = (kept, rest ++ closing)) :
    collect verbose keep inComment cs = (kept, rest) := by
  have hswallow : ∀ inside, (collect verbose keep inside ['$']).2 ≠ rest ++ closing := by
    intro inside he
    exact not_suffix_tail_closing (he ▸ collect_suffix verbose keep inside ['$'])
  induction cs generalizing inComment kept with
  | nil =>
    rw [List.nil_append] at h
    have hsuffix := collect_suffix verbose keep inComment closing
    rw [h] at hsuffix
    cases inComment with
    | true =>
      have hinside : collect verbose keep true closing =
          collect verbose keep (decide (')' ≠ '\n')) ['$'] := rfl
      rw [hinside] at h
      exact absurd (congrArg Prod.snd h) (hswallow _)
    | false =>
      have hstart : collect verbose keep false closing =
          if keep ')' then
            (')' :: (collect verbose keep false ['$']).1, (collect verbose keep false ['$']).2)
          else ([], closing) := by
        rw [closing, collect, isBlank_parenthesis]
        simp
      rw [hstart] at h
      split at h
      · exact absurd (Prod.mk.inj h).2 (hswallow _)
      · rw [eq_nil_of_suffix_closing hsuffix, ← (Prod.mk.inj h).1]
        rfl
  | cons c cs ih =>
    cases inComment with
    | true => exact ih h
    | false =>
      simp only [List.cons_append, collect] at h ⊢
      split at h
      · rename_i hblank
        rw [if_pos hblank]
        exact ih h
      rename_i hblank
      rw [if_neg hblank]
      split at h
      · rename_i hcomment
        rw [if_pos hcomment]
        exact ih h
      rename_i hcomment
      rw [if_neg hcomment]
      split at h
      · rename_i hkeep
        obtain ⟨hkept, hleft⟩ := Prod.mk.inj h
        rw [if_pos hkeep, ih (Prod.ext rfl hleft), ← hkept]
      · rename_i hkeep
        obtain ⟨hkept, hleft⟩ := Prod.mk.inj h
        rw [if_neg hkeep, ← hkept]
        exact congrArg (Prod.mk []) (List.append_cancel_right hleft)

end

namespace Confined

variable {α β : Type} {read other : List Char → Option (α × List Char)}

-- What does not depend on the text at all.
theorem const (found : Option α) {f : α → β} : Confined fun cs => found.map fun a => (f a, cs) where
  suffix h := by
    obtain ⟨a, -, he⟩ := Option.map_eq_some_iff.mp h
    cases he
    exact List.suffix_rfl
  cut h := by
    obtain ⟨a, rfl, he⟩ := Option.map_eq_some_iff.mp h
    obtain ⟨hb, hleft⟩ := Prod.mk.inj he
    rw [← hb, ← List.append_cancel_right hleft]
    rfl

theorem some (a : α) : Confined fun cs => Option.some (a, cs) :=
  const (Option.some ()) (f := fun _ => a)

theorem none : Confined fun _ => (Option.none : Option (α × List Char)) :=
  const Option.none (f := id)

theorem bind {next : α × List Char → Option (β × List Char)} (h : Confined read)
    (hn : ∀ a, Confined fun rest => next (a, rest)) : Confined fun cs => (read cs).bind next where
  suffix hb := by
    obtain ⟨⟨a, left⟩, hr, hb⟩ := Option.bind_eq_some_iff.mp hb
    exact ((hn a).suffix hb).trans (h.suffix hr)
  cut hb := by
    obtain ⟨⟨a, left⟩, hr, hb⟩ := Option.bind_eq_some_iff.mp hb
    obtain ⟨more, rfl⟩ := exists_eq_append_closing ((hn a).suffix hb)
    exact Option.bind_eq_some_iff.mpr ⟨(a, more), h.cut hr, (hn a).cut hb⟩

theorem map {f : α × List Char → β × List Char} (h : Confined read)
    (hf : ∀ a, Confined fun rest => Option.some (f (a, rest))) :
    Confined fun cs => (read cs).map f := by
  simp only [Option.map_eq_bind]
  exact h.bind hf

theorem ite {p : Prop} [Decidable p] (h : p → Confined read) (ho : ¬ p → Confined other) :
    Confined fun cs => if p then read cs else other cs := by
  by_cases hp : p
  · simp only [if_pos hp]
    exact h hp
  · simp only [if_neg hp]
    exact ho hp

-- A reader that needs a first character may be looked at one such character at a time. In the
-- closing it would take the parenthesis.
theorem of_cons (hnil : read [] = Option.none) (h : ∀ c, Confined fun rest => read (c :: rest)) :
    Confined read where
  suffix := by
    intro cs a rest hr
    cases cs with
    | nil =>
      rw [hnil] at hr
      cases hr
    | cons c cs => exact ((h c).suffix hr).trans (List.suffix_cons c cs)
  cut := by
    intro cs a rest hr
    cases cs with
    | nil => exact absurd ((h ')').suffix hr) not_suffix_tail_closing
    | cons c cs => exact (h c).cut hr

-- Reading on where something has been passed over.
theorem after {skip : List Char → List Char} (hs : Confined fun cs => Option.some ((), skip cs))
    (h : Confined read) : Confined fun cs => read (skip cs) where
  suffix hr := (h.suffix hr).trans (hs.suffix rfl)
  cut := by
    intro cs a rest hr
    obtain ⟨more, hmore⟩ := exists_eq_append_closing (h.suffix hr)
    have hskip : skip cs = more := by
      have hcut := hs.cut (congrArg (fun left => Option.some ((), left)) hmore)
      exact (Prod.mk.inj (Option.some.inj hcut)).2
    rw [hskip]
    exact h.cut (hmore ▸ hr)

-- Reading on behind the first character, which in the closing is the parenthesis.
theorem tail (h : Confined read) : Confined fun cs => read cs.tail where
  suffix := by
    intro cs a rest hr
    exact (h.suffix hr).trans (List.tail_suffix cs)
  cut := by
    intro cs a rest hr
    cases cs with
    | nil => exact absurd (h.suffix hr) not_suffix_tail_closing
    | cons c cs => exact h.cut hr

-- What is decided by whether the text begins with a certain character.
theorem ite_head {c : Char} (hc : c ≠ ')') (h : Confined read) (ho : Confined other) :
    Confined fun cs => if cs.head? = Option.some c then read cs else other cs where
  suffix hr := by
    split at hr
    · exact h.suffix hr
    · exact ho.suffix hr
  cut := by
    intro cs a rest hr
    have hhead : (cs ++ closing).head? = Option.some c ↔ cs.head? = Option.some c :=
      Extended.head?_eq_iff hc (.inl rfl)
    simp only [hhead] at hr
    split at hr
    · rename_i hcs
      rw [if_pos hcs]
      exact h.cut hr
    · rename_i hcs
      rw [if_neg hcs]
      exact ho.cut hr

-- What is decided by whether the next character is a certain one, which is read then.
theorem of_next {skip : List Char → List Char} {first : List Char → Option (α × List Char)}
    (hs : Confined fun cs => Option.some ((), skip cs)) {c : Char} (hc : c ≠ ')')
    (hfirst : ∀ cs rest, skip cs = c :: rest → read cs = first rest)
    (hother : ∀ cs, (skip cs).head? ≠ Option.some c → read cs = other (skip cs))
    (hf : Confined first) (ho : Confined other) : Confined read := by
  have hread : read = fun cs =>
      if (skip cs).head? = Option.some c then first (skip cs).tail else other (skip cs) := by
    funext cs
    by_cases hhead : (skip cs).head? = Option.some c
    · obtain ⟨rest, hrest⟩ := List.head?_eq_some_iff.mp hhead
      rw [if_pos hhead, hfirst cs rest hrest, hrest, List.tail_cons]
    · rw [if_neg hhead, hother cs hhead]
  rw [hread]
  exact after hs (ite_head hc hf.tail ho)

end Confined

section

variable (flags : Flags)

theorem collect_confined (verbose : Bool) (keep : Char → Bool) (inComment : Bool) :
    Confined fun cs => some (collect verbose keep inComment cs) where
  suffix h := by
    have hsuffix := collect_suffix verbose keep inComment
    exact (Prod.mk.inj (Option.some.inj h)).2 ▸ hsuffix _
  cut h := congrArg some (collect_cut (Option.some.inj h))

theorem skipBlank_confined : Confined fun cs => some ((), skipBlank flags cs) := by
  have hskip : Confined fun cs =>
      (some (collect flags.verbose (fun _ => false) false cs)).map fun found => ((), found.2) :=
    (collect_confined flags.verbose (fun _ => false) false).map fun _ => .some ()
  exact hskip

theorem dropWhile_confined (p : Char → Bool) : Confined fun cs => some ((), cs.dropWhile p) where
  suffix h := by
    cases h
    exact List.dropWhile_suffix p
  cut := by
    intro cs a rest h
    induction cs with
    | nil =>
      have hleft := (Prod.mk.inj (Option.some.inj h)).2
      have hsuffix : rest ++ closing <:+ closing := hleft ▸ List.dropWhile_suffix p
      rw [eq_nil_of_suffix_closing hsuffix]
      rfl
    | cons c cs ih =>
      simp only [List.cons_append, List.dropWhile_cons] at h ⊢
      split at h
      · rename_i hp
        rw [if_pos hp]
        exact ih h
      · rename_i hp
        rw [if_neg hp]
        have hleft := (Prod.mk.inj (Option.some.inj h)).2
        rw [← List.cons_append] at hleft
        rw [List.append_cancel_right hleft]

variable {flags} in
theorem skipBlank_cut {cs rest : List Char}
    (h : skipBlank flags (cs ++ closing) = rest ++ closing) : skipBlank flags cs = rest := by
  have hcut := (skipBlank_confined flags).cut (congrArg (fun left => some ((), left)) h)
  exact (Prod.mk.inj (Option.some.inj hcut)).2

theorem skipBlank_suffix (cs : List Char) : skipBlank flags cs <:+ cs :=
  (skipBlank_confined flags).suffix rfl

theorem blanks_confined {α : Type} (found : Option α) :
    Confined fun cs => found.map fun a => (a, skipBlank flags cs) :=
  .after (skipBlank_confined flags) (.const found (f := id))

theorem count?_confined : Confined (count? flags) := by
  have hnumber : ∀ digits : List Char, Confined fun rest =>
      if digits.isEmpty || decimalNumber digits ≥ UInt32.size then none
      else some (decimalNumber digits, skipBlank flags (rest.dropWhile isBlank)) := by
    intro digits
    have hblanks : Confined fun rest => some (decimalNumber digits, skipBlank flags rest) :=
      blanks_confined flags (some (decimalNumber digits))
    have hafter := Confined.after (dropWhile_confined isBlank) hblanks
    exact .ite (fun _ => .none) fun _ => hafter
  have hdigits : Confined fun cs => (some (collect flags.verbose Char.isDigit false cs)).bind
      fun counted =>
        if counted.1.isEmpty || decimalNumber counted.1 ≥ UInt32.size then none
        else some (decimalNumber counted.1, skipBlank flags (counted.2.dropWhile isBlank)) :=
    (collect_confined flags.verbose Char.isDigit false).bind hnumber
  have hafter := Confined.after (dropWhile_confined isBlank) hdigits
  exact hafter

theorem hexDigits?_confined (n : Nat) : Confined (hexDigits? flags n) := by
  induction n with
  | zero => exact .some []
  | succ n ih =>
    refine .of_cons rfl fun c => ?_
    simp only [hexDigits?]
    exact .ite
      (fun _ => (Confined.after (skipBlank_confined flags) ih).map fun digits =>
        .some (c :: digits))
      fun _ => .none

theorem braced?_confined (keep : Char → Bool) : Confined (braced? flags keep) where
  suffix := by
    intro cs kept rest h
    unfold braced? at h
    split at h
    · rename_i hc
      cases h
      have hsuffix := collect_suffix flags.verbose keep false cs
      rw [hc] at hsuffix
      exact (List.suffix_cons _ _).trans hsuffix
    · cases h
  cut := by
    intro cs kept rest h
    unfold braced? at h
    split at h
    · rename_i hc
      obtain ⟨rfl, rfl⟩ := Prod.mk.inj (Option.some.inj h)
      rw [← List.cons_append] at hc
      simp only [braced?, collect_cut hc]
    · cases h

theorem hexCode?_confined (width : Nat) : Confined (hexCode? flags width) := by
  have hcode : ∀ digits : List Char, Confined fun rest =>
      if digits.isEmpty then none
      else (charOfCode? (hexNumber digits)).map (·, skipBlank flags rest) :=
    fun digits => .ite (fun _ => .none) fun _ => blanks_confined flags _
  have hbraced : Confined fun inner =>
      (braced? flags isHexDigit inner).bind fun coded =>
        if coded.1.isEmpty then none
        else (charOfCode? (hexNumber coded.1)).map (·, skipBlank flags coded.2) :=
    (braced?_confined flags isHexDigit).bind hcode
  have hplain : Confined fun digits =>
      (hexDigits? flags width digits).bind fun coded =>
        (charOfCode? (hexNumber coded.1)).map (·, coded.2) :=
    (hexDigits?_confined flags width).bind fun digits =>
      .const (charOfCode? (hexNumber digits))
  refine .of_next (skipBlank_confined flags) (c := '{') (by decide) ?_ ?_ hbraced hplain
  · intro cs rest h
    simp only [hexCode?, h]
  · intro cs h
    unfold hexCode?
    split
    · rename_i rest hrest
      exact absurd (by rw [hrest, List.head?_cons]) h
    · rfl

theorem propertyName?_confined : Confined (propertyName? flags) := by
  have hletter : Confined fun cs : List Char =>
      cs.head?.bind fun c => if c = '\\' then none else some ([c], skipBlank flags cs.tail) := by
    refine .of_cons rfl fun c => ?_
    simp only [List.head?_cons, Option.bind_some, List.tail_cons]
    exact .ite (fun _ => .none) fun _ => blanks_confined flags (some [c])
  refine .of_next (skipBlank_confined flags) (c := '{') (by decide) ?_ ?_
    (braced?_confined flags (· != '}')) hletter
  · intro cs rest h
    simp only [propertyName?, h]
  · intro cs h
    unfold propertyName?
    split
    · rename_i rest hrest
      exact absurd (by rw [hrest, List.head?_cons]) h
    · rename_i rest hrest
      rw [hrest]
      rfl
    · rename_i c rest hbrace hslash hrest
      have hc : c ≠ '\\' := fun he => hslash (he ▸ rfl)
      simp [hrest, hc]
    · rename_i hrest
      rw [hrest]
      rfl

theorem unicodeClass?_confined (negated : Bool) : Confined (unicodeClass? flags negated) := by
  have hnamed : ∀ name, Confined fun rest =>
      ((propertySet? name).bind fun set =>
        (complement? flags negated (closeCase flags set))).map (·, rest) :=
    fun name => .const _
  have hread : unicodeClass? flags negated = fun cs =>
      if flags.unicode then (propertyName? flags cs).bind fun found =>
        ((propertySet? found.1).bind fun set =>
          (complement? flags negated (closeCase flags set))).map (·, found.2)
      else none := by
    funext cs
    cases hu : flags.unicode with
    | true => simp [unicodeClass?, hu, guard, bind, pure, Option.map_eq_bind, Option.bind_assoc]
    | false => simp [unicodeClass?, hu]
  rw [hread]
  exact .ite (fun _ => (propertyName?_confined flags).bind hnamed) fun _ => .none

theorem boundary?_suffix {alphabet : WordAlphabet} {cs rest : List Char} {condition : Anchor}
    (h : boundary? flags alphabet cs = some (condition, rest)) : rest <:+ cs := by
  unfold boundary? at h
  split at h
  · rename_i inner
    split at h
    · cases h
    · rename_i first more hfirst
      split at h
      · cases h
        exact List.suffix_rfl
      · obtain ⟨⟨name, left⟩, hname, h⟩ := Option.bind_eq_some_iff.mp h
        obtain ⟨found, -, he⟩ := Option.map_eq_some_iff.mp h
        cases he
        have hblanks := skipBlank_suffix flags inner
        rw [hfirst] at hblanks
        have hbraced := (braced?_confined flags isBoundaryNameChar).suffix hname
        exact (hbraced.trans hblanks).trans (List.suffix_cons _ inner)
  · cases h
    exact List.suffix_rfl

-- Of braces this reader has to look at the first character inside. If that is the closing, the
-- braces are left for a counted repetition, and that will not find its number.
theorem boundary?_cut {alphabet : WordAlphabet} {cs rest : List Char} {condition : Anchor}
    (h : boundary? flags alphabet (cs ++ closing) = some (condition, rest ++ closing)) :
    boundary? flags alphabet cs = some (condition, rest) ∨
      ∃ inner, rest = '{' :: inner ∧ skipBlank flags (inner ++ closing) = closing := by
  have hbare : ∀ cs, some (Anchor.wordBoundary alphabet, cs ++ closing) =
      some (condition, rest ++ closing) → some (.wordBoundary alphabet, cs) = some (condition, rest) :=
    fun cs => (Confined.some (Anchor.wordBoundary alphabet)).cut
  have hname : ∀ name : List Char, Confined fun rest =>
      (namedBoundary? alphabet (String.ofList name)).map (·, rest) := fun name => .const _
  have hnamed : Confined fun cs => (braced? flags isBoundaryNameChar cs).bind fun named =>
      (namedBoundary? alphabet (String.ofList named.1)).map (·, named.2) :=
    (braced?_confined flags isBoundaryNameChar).bind hname
  cases cs with
  | nil => exact .inl (hbare [] h)
  | cons c inner =>
    by_cases hc : c = '{'
    · subst hc
      have hs := skipBlank_extended flags (Or.inl rfl : Extended inner (inner ++ closing))
      simp only [List.cons_append, boundary?] at h ⊢
      cases hcs : skipBlank flags (inner ++ closing) with
      | nil =>
        rw [hcs] at h
        cases h
      | cons first more =>
        simp only [hcs] at h
        cases hfirst : skipBlank flags inner with
        | nil =>
          rw [hfirst, hcs] at hs
          rcases hs with hclosing | hnil
          · right
            cases hclosing
            have hrest := hbare ('{' :: inner) h
            cases hrest
            exact ⟨inner, rfl, hcs⟩
          · cases hnil
        | cons first' more' =>
          obtain ⟨more, he, hmore⟩ := hs.cons_of_eq hfirst
          cases hcs.symm.trans he
          left
          simp only
          split at h
          · rename_i hnot
            rw [if_pos hnot]
            exact hbare ('{' :: inner) h
          · rename_i hnot
            rw [if_neg hnot]
            obtain ⟨left, hleft⟩ := exists_eq_append_closing (hnamed.suffix h)
            have hinner : first :: more' = left := hfirst.symm.trans (skipBlank_cut (he.trans hleft))
            rw [hleft] at h
            rw [hinner]
            exact hnamed.cut h
    · have hread : ∀ inner, boundary? flags alphabet (c :: inner) =
          some (.wordBoundary alphabet, c :: inner) := by
        intro inner
        simp [boundary?, hc]
      rw [List.cons_append, hread, ← List.cons_append] at h
      rw [hread]
      exact .inl (hbare (c :: inner) h)

-- Whatever else a backslash begins is confined.
theorem escape?_confined {c : Char} (hc : c ≠ 'b') :
    Confined fun rest => escape? flags (c :: rest) := by
  unfold escape?
  refine .ite (fun _ => .none) fun _ => ?_
  refine .ite (fun _ => ?_) fun _ => ?_
  · refine ⟨fun h => ?_, ?_⟩
    · obtain ⟨⟨d, left⟩, hcode, he⟩ := Option.map_eq_some_iff.mp h
      cases he
      exact (hexCode?_confined flags 2).suffix hcode
    · intro cs atom rest h
      obtain ⟨⟨d, left⟩, hcode, he⟩ := Option.map_eq_some_iff.mp h
      obtain ⟨hatom, rfl⟩ := Prod.mk.inj he
      have hhead : (skipBlank flags (cs ++ closing)).head? = some '{' ↔
          (skipBlank flags cs).head? = some '{' :=
        (skipBlank_extended flags (.inl rfl)).head?_eq_iff (by decide)
      have hraw : ((skipBlank flags (cs ++ closing)).head? != some '{') =
          ((skipBlank flags cs).head? != some '{') := by
        rw [Bool.eq_iff_iff, bne_iff_ne, bne_iff_ne, Ne, Ne, hhead]
      rw [← hatom, hraw]
      exact Option.map_eq_some_iff.mpr ⟨(d, rest), (hexCode?_confined flags 2).cut hcode, rfl⟩
  refine .ite (fun _ => (hexCode?_confined flags 4).map fun d => .some _) fun _ => ?_
  refine .ite (fun _ => (hexCode?_confined flags 8).map fun d => .some _) fun _ => ?_
  refine .ite (fun _ => (unicodeClass?_confined flags _).map fun set => .some _) fun _ => ?_
  refine .ite (fun _ => .const _) fun _ => ?_
  refine .ite (fun _ => .some _) fun _ => ?_
  split
  case h_9 => exact absurd rfl hc
  all_goals first | exact .some _ | exact .none

theorem escape?_boundary (rest : List Char) :
    escape? flags ('b' :: rest) =
      (boundary? flags (alphabet flags) rest).map fun (a, left) => (.anchor a, left) := rfl

theorem escape?_suffix {cs rest : List Char} {atom : Atom}
    (h : escape? flags cs = some (atom, rest)) : rest <:+ cs := by
  cases cs with
  | nil => cases h
  | cons c cs =>
    by_cases hc : c = 'b'
    · subst hc
      rw [escape?_boundary] at h
      obtain ⟨⟨condition, left⟩, hboundary, he⟩ := Option.map_eq_some_iff.mp h
      cases he
      exact (boundary?_suffix flags hboundary).trans (List.suffix_cons _ cs)
    · exact ((escape?_confined flags hc).suffix h).trans (List.suffix_cons c cs)

end

end RpcRouting.Regex.Syntax
