import RpcRouting.Regex.Parser
import Mathlib.Data.Option.Basic

namespace RpcRouting.Regex.Syntax

open Unicode

-- What stands after a pattern when it is put between the two ends of the text.
def closing : List Char := [')', '$']

theorem isBlank_parenthesis : isBlank ')' = false := by decide

-- What is left of a text, and what is left if the closing stands after it. A comment at the end of
-- the text takes the closing in.
def Extended (rest longer : List Char) : Prop := longer = rest ++ closing ∨ longer = rest

-- Whatever it reads of a text, it also reads if the closing stands after the text.
def Extendable {α : Type} (read : List Char → Option (α × List Char)) : Prop :=
  ∀ ⦃cs longer a rest⦄, Extended cs longer → read cs = some (a, rest) →
    ∃ longerRest, read longer = some (a, longerRest) ∧ Extended rest longerRest

-- The closing changes nothing for this reader, not even where it finds nothing.
def Steady {α : Type} (read : List Char → Option (α × List Char)) : Prop :=
  ∀ cs, read (cs ++ closing) = (read cs).map fun (a, rest) => (a, rest ++ closing)

namespace Extended

variable {rest longer : List Char}

theorem self (rest : List Char) : Extended rest rest := .inr rfl

theorem cons {c : Char} (h : Extended (c :: rest) longer) :
    ∃ others, longer = c :: others ∧ Extended rest others := by
  rcases h with rfl | rfl
  · exact ⟨rest ++ closing, rfl, .inl rfl⟩
  · exact ⟨rest, rfl, .inr rfl⟩

theorem cons_cons (c : Char) (h : Extended rest longer) : Extended (c :: rest) (c :: longer) := by
  rcases h with rfl | rfl
  · exact .inl rfl
  · exact .self _

theorem cons_of_eq {c : Char} {cs : List Char} (h : Extended cs longer) (hc : cs = c :: rest) :
    ∃ others, longer = c :: others ∧ Extended rest others := (hc ▸ h).cons

theorem takeWhile_append {p : Char → Bool} {cs : List Char} {c : Char} (suffix : List Char)
    (h : cs.dropWhile p = c :: rest) :
    (cs ++ suffix).takeWhile p = cs.takeWhile p ∧
      (cs ++ suffix).dropWhile p = c :: rest ++ suffix := by
  induction cs with
  | nil => cases h
  | cons d cs ih =>
    simp only [List.cons_append, List.takeWhile_cons, List.dropWhile_cons] at h ⊢
    split at h
    · rename_i hp
      simp only [if_pos hp]
      exact ⟨congrArg (d :: ·) (ih h).1, (ih h).2⟩
    · rename_i hp
      cases h
      exact ⟨by rw [if_neg hp, if_neg hp], by rw [if_neg hp]⟩

-- A text begins with a certain character, other than the parenthesis, whatever stands after it.
theorem head?_eq_iff {c : Char} (hc : c ≠ ')') (h : Extended rest longer) :
    longer.head? = some c ↔ rest.head? = some c := by
  rcases h with rfl | rfl
  · cases rest with
    | nil => simp [closing, hc.symm]
    | cons d rest => simp
  · exact Iff.rfl

theorem of_cons {c : Char} {others : List Char} (hc : c ≠ ')')
    (h : Extended rest (c :: others)) : ∃ more, rest = c :: more ∧ Extended more others := by
  obtain ⟨more, rfl⟩ := List.head?_eq_some_iff.mp ((h.head?_eq_iff hc).mp rfl)
  obtain ⟨others', he, ho⟩ := h.cons
  cases he
  exact ⟨more, rfl, ho⟩

theorem length_le (h : Extended rest longer) : rest.length ≤ longer.length := by
  rcases h with rfl | rfl
  · simp
  · exact Nat.le_refl _

theorem dropWhile {p : Char → Bool} (hp : p ')' = false) (h : Extended rest longer) :
    Extended (rest.dropWhile p) (longer.dropWhile p) := by
  rcases h with rfl | rfl
  · induction rest with
    | nil => exact .inl (by simp [closing, hp])
    | cons c rest ih =>
      simp only [List.cons_append, List.dropWhile_cons]
      split
      · exact ih
      · exact .inl rfl
  · exact .self _

end Extended

namespace Steady

variable {α : Type} {read : List Char → Option (α × List Char)}

theorem extendable (h : Steady read) : Extendable read := by
  intro cs longer a rest hl hr
  rcases hl with rfl | rfl
  · exact ⟨rest ++ closing, by rw [h, hr, Option.map_some], .inl rfl⟩
  · exact ⟨rest, hr, .self rest⟩

theorem eq_none (h : Steady read) {cs longer : List Char} (hl : Extended cs longer)
    (hr : read cs = none) : read longer = none := by
  rcases hl with rfl | rfl
  · rw [h, hr, Option.map_none]
  · exact hr

end Steady

section

variable {flags : Flags} {verbose : Bool} {keep : Char → Bool} {cs longer : List Char}

-- What is collected is complete as soon as something stands after it.
theorem collect_of_cons {inComment : Bool} {kept left : List Char} {c : Char}
    (hl : Extended cs longer) (h : collect verbose keep inComment cs = (kept, c :: left)) :
    ∃ others, collect verbose keep inComment longer = (kept, c :: others) ∧
      Extended left others := by
  rcases hl with rfl | rfl
  · refine ⟨left ++ closing, ?_, .inl rfl⟩
    induction cs generalizing inComment kept with
    | nil => cases inComment <;> cases h
    | cons d rest ih =>
      cases inComment with
      | true => exact ih h
      | false =>
        simp only [List.cons_append, collect] at h ⊢
        split at h
        · rename_i hblank
          rw [if_pos hblank]
          exact ih h
        rename_i hblank
        rw [if_neg hblank]
        split at h
        · rename_i hcomment
          rw [if_pos hcomment]
          exact ih h
        rename_i hcomment
        rw [if_neg hcomment]
        split at h
        · rename_i hkeep
          rw [if_pos hkeep]
          obtain ⟨hk, hleft⟩ := Prod.mk.inj h
          rw [ih (Prod.ext rfl hleft)]
          simp [← hk]
        · rename_i hkeep
          rw [if_neg hkeep]
          cases h
          rfl
  · exact ⟨left, h, .self left⟩

-- The closing adds nothing to what is collected unless its parenthesis may be kept.
theorem collect_extended (verbose inComment : Bool) (hkeep : keep ')' = false)
    (hl : Extended cs longer) :
    (collect verbose keep inComment longer).1 = (collect verbose keep inComment cs).1 ∧
      Extended (collect verbose keep inComment cs).2 (collect verbose keep inComment longer).2 := by
  rcases hl with rfl | rfl
  · induction cs generalizing inComment with
    | nil =>
      cases inComment with
      | true => exact ⟨rfl, .inr rfl⟩
      | false =>
        simp [collect, closing, isBlank_parenthesis, hkeep, Extended]
    | cons c rest ih =>
      cases inComment with
      | true => exact ih _
      | false =>
        simp only [List.cons_append, collect]
        split
        · exact ih false
        split
        · exact ih true
        split
        · exact ⟨congrArg (c :: ·) (ih false).1, (ih false).2⟩
        · exact ⟨rfl, .inl rfl⟩
  · exact ⟨rfl, .self _⟩

theorem skipBlank_extended (flags : Flags) (hl : Extended cs longer) :
    Extended (skipBlank flags cs) (skipBlank flags longer) :=
  (collect_extended flags.verbose false rfl hl).2

theorem Extendable.afterBlanks {α : Type} {read : List Char → Option (α × List Char)}
    (h : Extendable read) (flags : Flags) : Extendable fun cs => read (skipBlank flags cs) :=
  fun _ _ _ _ hl hr => h (skipBlank_extended flags hl) hr

theorem Extendable.bind {α β : Type} {read : List Char → Option (α × List Char)}
    {next : α × List Char → Option (β × List Char)} (h : Extendable read)
    (hn : ∀ a, Extendable fun rest => next (a, rest)) :
    Extendable fun cs => (read cs).bind next := by
  intro cs longer b rest hl hb
  obtain ⟨⟨a, left⟩, hr, hb⟩ := Option.bind_eq_some_iff.mp hb
  obtain ⟨others, hr', ho⟩ := h hl hr
  obtain ⟨last, hb', hlast⟩ := hn a ho hb
  exact ⟨last, Option.bind_eq_some_iff.mpr ⟨_, hr', hb'⟩, hlast⟩

theorem Extendable.map {α β : Type} {read : List Char → Option (α × List Char)}
    {f : α × List Char → β × List Char} (h : Extendable read)
    (hf : ∀ a, Extendable fun rest => some (f (a, rest))) :
    Extendable fun cs => (read cs).map f := by
  simp only [Option.map_eq_bind]
  exact h.bind hf

-- What does not depend on the text at all.
theorem extendable_const {α β : Type} (found : Option α) {f : α → β} :
    Extendable fun cs => found.map fun a => (f a, cs) := by
  intro cs longer b rest hl hb
  obtain ⟨a, rfl, he⟩ := Option.map_eq_some_iff.mp hb
  cases he
  exact ⟨longer, rfl, hl⟩

-- A reader that needs a first character may be looked at one such character at a time.
theorem Extendable.of_cons {α : Type} {read : List Char → Option (α × List Char)}
    (hnil : read [] = none) (h : ∀ c, Extendable fun rest => read (c :: rest)) :
    Extendable read := by
  intro cs longer a rest hl hr
  cases cs with
  | nil =>
    rw [hnil] at hr
    cases hr
  | cons c cs =>
    obtain ⟨others, rfl, ho⟩ := hl.cons
    exact h c ho hr

theorem extendable_some {α : Type} (a : α) : Extendable fun cs => some (a, cs) :=
  extendable_const (some ()) (f := fun _ => a)

theorem extendable_none {α : Type} : Extendable fun _ => (none : Option (α × List Char)) :=
  extendable_const none (f := id)

theorem Extendable.ite {α : Type} {p : Prop} [Decidable p]
    {read other : List Char → Option (α × List Char)} (h : p → Extendable read)
    (ho : ¬ p → Extendable other) : Extendable fun cs => if p then read cs else other cs := by
  by_cases hp : p
  · simp only [if_pos hp]
    exact h hp
  · simp only [if_neg hp]
    exact ho hp

theorem hexDigits?_extendable (flags : Flags) (n : Nat) : Extendable (hexDigits? flags n) := by
  induction n with
  | zero => exact extendable_some []
  | succ n ih =>
    refine .of_cons rfl fun c => ?_
    simp only [hexDigits?]
    exact .ite (fun _ => (ih.afterBlanks flags).map fun digits => extendable_some (c :: digits))
      fun _ => extendable_none

theorem braced?_extendable (flags : Flags) (keep : Char → Bool) :
    Extendable (braced? flags keep) := by
  intro cs longer a rest hl h
  unfold braced? at h
  split at h
  · rename_i kept left hc
    cases h
    obtain ⟨others, hc', ho⟩ := collect_of_cons hl hc
    exact ⟨others, by simp only [braced?, hc'], ho⟩
  · cases h

theorem extendable_blanks {α : Type} (flags : Flags) (found : Option α) :
    Extendable fun cs => found.map fun a => (a, skipBlank flags cs) :=
  (extendable_const found (f := id)).afterBlanks flags

-- What is decided by whether the next character is a certain one.
theorem Extendable.of_solid {α : Type} {read first other : List Char → Option (α × List Char)}
    (flags : Flags) (c : Char) (hc : c ≠ ')')
    (hfirst : ∀ cs rest, skipBlank flags cs = c :: rest → read cs = first rest)
    (hother : ∀ cs, (skipBlank flags cs).head? ≠ some c → read cs = other (skipBlank flags cs))
    (hf : Extendable first) (ho : Extendable other) : Extendable read := by
  intro cs longer a rest hl h
  have hs := skipBlank_extended flags hl
  by_cases hhead : (skipBlank flags cs).head? = some c
  · obtain ⟨left, hleft⟩ := List.head?_eq_some_iff.mp hhead
    obtain ⟨others, hlonger, hothers⟩ := hs.cons_of_eq hleft
    rw [hfirst cs left hleft] at h
    rw [hfirst longer others hlonger]
    exact hf hothers h
  · have hhead' : (skipBlank flags longer).head? ≠ some c := mt (hs.head?_eq_iff hc).mp hhead
    rw [hother cs hhead] at h
    rw [hother longer hhead']
    exact ho hs h

theorem hexCode?_extendable (flags : Flags) (width : Nat) :
    Extendable (hexCode? flags width) := by
  have hbraced : Extendable fun inner =>
      (braced? flags isHexDigit inner).bind fun coded =>
        if coded.1.isEmpty then none
        else (charOfCode? (hexNumber coded.1)).map (·, skipBlank flags coded.2) :=
    (braced?_extendable flags isHexDigit).bind fun digits => by
      change Extendable fun rest => if digits.isEmpty then none
        else (charOfCode? (hexNumber digits)).map (·, skipBlank flags rest)
      exact .ite (fun _ => extendable_none) fun _ => extendable_blanks flags _
  have hplain : Extendable fun digits =>
      (hexDigits? flags width digits).bind fun coded =>
        (charOfCode? (hexNumber coded.1)).map (·, coded.2) :=
    (hexDigits?_extendable flags width).bind fun digits =>
      extendable_const (charOfCode? (hexNumber digits))
  refine .of_solid flags '{' (by decide) ?_ ?_ hbraced hplain
  · intro cs rest h
    simp only [hexCode?, h]
  · intro cs h
    unfold hexCode?
    split
    · rename_i rest hrest
      exact absurd (by rw [hrest, List.head?_cons]) h
    · rfl

theorem count?_extendable (flags : Flags) : Extendable (count? flags) := by
  intro cs longer n rest hl h
  have hdigit : Char.isDigit ')' = false := by decide
  obtain ⟨hdigits, hrest⟩ :=
    collect_extended flags.verbose false hdigit (hl.dropWhile isBlank_parenthesis)
  simp only [count?] at h ⊢
  rw [hdigits]
  split at h
  · cases h
  · rename_i hn
    cases h
    exact ⟨_, if_neg hn, skipBlank_extended flags (hrest.dropWhile isBlank_parenthesis)⟩

theorem propertyName?_extendable (flags : Flags) : Extendable (propertyName? flags) := by
  intro cs longer name rest hl h
  have hs := skipBlank_extended flags hl
  unfold propertyName? at h
  split at h
  · rename_i inner hinner
    obtain ⟨others, hlonger, ho⟩ := hs.cons_of_eq hinner
    simp only [propertyName?, hlonger]
    exact braced?_extendable flags _ ho h
  · cases h
  · rename_i c left hbrace hslash hleft
    cases h
    obtain ⟨others, hlonger, ho⟩ := hs.cons_of_eq hleft
    refine ⟨skipBlank flags others, ?_, skipBlank_extended flags ho⟩
    simp only [propertyName?, hlonger]
  · cases h

theorem unicodeClass?_extendable (flags : Flags) (negated : Bool) :
    Extendable (unicodeClass? flags negated) := by
  intro cs longer set rest hl h
  simp only [unicodeClass?, bind, Option.bind_eq_some_iff] at h ⊢
  obtain ⟨u, hu, ⟨name, left⟩, hname, members, hmembers, result, hresult, he⟩ := h
  cases he
  obtain ⟨others, hname', ho⟩ := propertyName?_extendable flags hl hname
  exact ⟨others, ⟨u, hu, (name, others), hname', members, hmembers, set, hresult, rfl⟩, ho⟩

theorem boundary?_extendable (flags : Flags) (alphabet : WordAlphabet) :
    Extendable (boundary? flags alphabet) := by
  intro cs longer condition rest hl h
  unfold boundary? at h
  split at h
  · rename_i inner
    obtain ⟨others, rfl, ho⟩ := hl.cons
    have hs := skipBlank_extended flags ho
    split at h
    · cases h
    · rename_i first more hfirst
      obtain ⟨left, hleft, hl'⟩ := hs.cons_of_eq hfirst
      simp only [boundary?, hleft]
      split at h
      · rename_i hname
        cases h
        exact ⟨'{' :: others, if_pos hname, hl⟩
      · rename_i hname
        rw [if_neg hname]
        have hnamed : Extendable fun cs =>
            (braced? flags isBoundaryNameChar cs).bind fun named =>
              (namedBoundary? alphabet (String.ofList named.1)).map (·, named.2) :=
          (braced?_extendable flags isBoundaryNameChar).bind fun name =>
            extendable_const (namedBoundary? alphabet (String.ofList name))
        exact hnamed (hleft ▸ hfirst ▸ hs) h
  · rename_i hbrace
    cases h
    refine ⟨longer, ?_, hl⟩
    unfold boundary?
    split
    · rename_i inner
      obtain ⟨more, rfl, -⟩ := hl.of_cons (by decide)
      exact absurd rfl (hbrace more)
    · rfl

theorem escape?_extendable (flags : Flags) : Extendable (escape? flags) := by
  refine .of_cons rfl fun c => ?_
  unfold escape?
  refine .ite (fun _ => extendable_none) fun _ => ?_
  refine .ite (fun _ => ?_) fun _ => ?_
  · intro cs longer atom rest hl h
    obtain ⟨⟨d, left⟩, hcode, he⟩ := Option.map_eq_some_iff.mp h
    cases he
    obtain ⟨others, hcode', ho⟩ := hexCode?_extendable flags 2 hl hcode
    refine ⟨others, Option.map_eq_some_iff.mpr ⟨(d, others), hcode', ?_⟩, ho⟩
    cases hcs : skipBlank flags cs with
    | nil => simp [hexCode?, hcs, hexDigits?] at hcode
    | cons first more =>
      obtain ⟨more', hlonger, -⟩ := (skipBlank_extended flags hl).cons_of_eq hcs
      rw [hlonger, List.head?_cons, List.head?_cons]
  refine .ite (fun _ => (hexCode?_extendable flags 4).map fun d => extendable_some _) fun _ => ?_
  refine .ite (fun _ => (hexCode?_extendable flags 8).map fun d => extendable_some _) fun _ => ?_
  refine .ite (fun _ => (unicodeClass?_extendable flags _).map fun set => extendable_some _)
    fun _ => ?_
  refine .ite (fun _ => extendable_const _) fun _ => ?_
  refine .ite (fun _ => extendable_some _) fun _ => ?_
  split
  case h_9 => exact (boundary?_extendable flags (alphabet flags)).map fun a => extendable_some _
  all_goals first | exact extendable_some _ | exact extendable_none

end

end RpcRouting.Regex.Syntax
