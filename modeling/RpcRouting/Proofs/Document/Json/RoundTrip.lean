import RpcRouting.Proofs.Document.Json.Tokens
import RpcRouting.Proofs.Document.Plain

namespace RpcRouting.Document.Json

variable {layout : Layout} {level outer fuel depth : Nat} {cs rest : List Char}

-- Blanks between parts

theorem skipSpace_append (blanks : List Char) (hblanks : ∀ c ∈ blanks, isSpace c = true) :
    skipSpace (blanks ++ cs) = skipSpace cs :=
  List.dropWhile_append_of_pos hblanks

theorem skipSpace_cons {c : Char} (h : isSpace c = false) : skipSpace (c :: cs) = c :: cs :=
  List.dropWhile_cons_of_neg (by simp [h])

theorem length_skipSpace_le (cs : List Char) : (skipSpace cs).length ≤ cs.length :=
  (List.dropWhile_sublist isSpace).length_le

theorem skipSpace_lineBreak (layout : Layout) (level : Nat) (cs : List Char) :
    skipSpace (layout.lineBreak level ++ cs) = skipSpace cs := by
  refine skipSpace_append _ fun c hc => ?_
  cases layout with
  | compact => cases hc
  | indented =>
    rcases List.mem_cons.mp hc with rfl | hc
    · rfl
    · rw [List.eq_of_mem_replicate hc]
      rfl

theorem skipSpace_colon (layout : Layout) (cs : List Char) :
    ∃ after, layout.colon ++ cs = ':' :: after ∧ skipSpace after = skipSpace cs := by
  cases layout with
  | compact => exact ⟨cs, rfl, rfl⟩
  | indented => exact ⟨' ' :: cs, rfl, rfl⟩

theorem EndsNumber.lineBreak (h : EndsNumber rest) (layout : Layout) (level : Nat) :
    EndsNumber (layout.lineBreak level ++ rest) := by
  cases layout with
  | compact => exact h
  | indented => rintro c ⟨⟩; decide

-- Values

-- The value is read from how it is printed, inside `outer` open arrays and objects, and what
-- follows is left. It can be told from a blank and from the end of an array.
structure ReadsBack (layout : Layout) (outer : Nat) (value : Value) : Prop where
  head : ∀ level, ∃ c text, print layout level value = c :: text ∧ isSpace c = false ∧ c ≠ ']'
  read : ∀ (level fuel : Nat) {cs rest : List Char},
    skipSpace cs = print layout level value ++ rest → EndsNumber rest →
      2 * cs.length + 1 ≤ fuel → value? (fuel + 1) outer cs = some (value, rest)

theorem ReadsBack.skipSpace_print {value : Value} (h : ReadsBack layout outer value) (level : Nat)
    (rest : List Char) :
    skipSpace (print layout level value ++ rest) = print layout level value ++ rest := by
  obtain ⟨c, text, hprint, hspace, -⟩ := h.head level
  rw [hprint]
  exact skipSpace_cons hspace

theorem ReadsBack.head?_print_append_ne {value : Value} (h : ReadsBack layout outer value)
    (level : Nat) (rest : List Char) : (print layout level value ++ rest).head? ≠ some ']' := by
  obtain ⟨c, text, hprint, -, hc⟩ := h.head level
  simp [hprint, hc]

theorem ReadsBack.length_print_pos {value : Value} (h : ReadsBack layout outer value)
    (level : Nat) : 0 < (print layout level value).length := by
  obtain ⟨c, text, hprint, -⟩ := h.head level
  simp [hprint]

-- What stands after one part of an array or an object.
def remaining (layout : Layout) (level : Nat) (closing : Char) (parts : List (List Char))
    (rest : List Char) : List Char :=
  parts.flatMap (fun part => ',' :: layout.lineBreak (level + 1) ++ part) ++
    (layout.lineBreak level ++ closing :: rest)

theorem wrap_cons (layout : Layout) (level : Nat) (opening closing : Char) (first : List Char)
    (parts : List (List Char)) (rest : List Char) :
    layout.wrap level opening closing (first :: parts) ++ rest =
      opening :: layout.lineBreak (level + 1) ++
        (first ++ remaining layout level closing parts rest) := by
  simp [Layout.wrap, remaining]

theorem remaining_cons (layout : Layout) (level : Nat) (closing : Char) (part : List Char)
    (parts : List (List Char)) (rest : List Char) :
    remaining layout level closing (part :: parts) rest =
      ',' :: layout.lineBreak (level + 1) ++
        (part ++ remaining layout level closing parts rest) := by
  simp [remaining]

theorem endsNumber_remaining {closing : Char} (hclosing : EndsNumber (closing :: rest))
    (parts : List (List Char)) : EndsNumber (remaining layout level closing parts rest) := by
  cases parts with
  | nil => exact hclosing.lineBreak layout level
  | cons part parts =>
    rw [remaining_cons]
    rintro c ⟨⟩
    decide

theorem endsNumber_bracket (rest : List Char) : EndsNumber (']' :: rest) := by
  rintro c ⟨⟩
  decide

theorem endsNumber_brace (rest : List Char) : EndsNumber ('}' :: rest) := by
  rintro c ⟨⟩
  decide

theorem skipSpace_remaining_nil (closing : Char) (hclosing : isSpace closing = false) :
    skipSpace (remaining layout level closing [] rest) = closing :: rest := by
  rw [remaining, List.flatMap_nil, List.nil_append, skipSpace_lineBreak, skipSpace_cons hclosing]

theorem skipSpace_remaining_cons (closing : Char) (part : List Char) (parts : List (List Char)) :
    skipSpace (remaining layout level closing (part :: parts) rest) =
      ',' :: (layout.lineBreak (level + 1) ++
        (part ++ remaining layout level closing parts rest)) := by
  rw [remaining_cons]
  exact skipSpace_cons (by decide)

-- One step goes from a part to what stands after it, the induction over the parts that are left.
theorem items?_printItems (fuel : Nat) {item : Value} {items : List Value}
    (hitem : ReadsBack layout outer item) (hitems : ∀ item ∈ items, ReadsBack layout outer item)
    (hcs : skipSpace cs = print layout (level + 1) item ++
      remaining layout level ']' (printItems layout (level + 1) items) rest)
    (hfuel : 2 * cs.length + 3 ≤ fuel) :
    items? fuel outer cs = some (item :: items, rest) := by
  induction items generalizing item cs fuel with
  | nil =>
    obtain ⟨fuel, rfl⟩ : ∃ n, fuel = n + 2 := ⟨fuel - 2, by omega⟩
    have hread := hitem.read (level + 1) fuel hcs
      (endsNumber_remaining (endsNumber_bracket rest) _) (by omega)
    simp [items?, hread, printItems, skipSpace_remaining_nil ']' (by decide)]
  | cons next items ih =>
    obtain ⟨fuel, rfl⟩ : ∃ n, fuel = n + 2 := ⟨fuel - 2, by omega⟩
    have hread := hitem.read (level + 1) fuel hcs
      (endsNumber_remaining (endsNumber_bracket rest) _) (by omega)
    obtain ⟨hnext, hitems⟩ := List.forall_mem_cons.mp hitems
    rw [printItems] at hcs hread
    have hshorter : (skipSpace cs).length ≤ cs.length := length_skipSpace_le cs
    rw [hcs, remaining_cons] at hshorter
    have hpos := hitem.length_print_pos (level + 1)
    have hmore := ih (fuel + 1) hnext hitems
      ((skipSpace_lineBreak layout (level + 1) _).trans (hnext.skipSpace_print _ _))
      (by simp only [List.length_append, List.length_cons] at hshorter ⊢; omega)
    rw [items?, hread]
    simp [skipSpace_remaining_cons, hmore]

def memberText (layout : Layout) (level : Nat) (member : String × Value) : List Char :=
  quoted member.1 ++ layout.colon ++ print layout level member.2

theorem printMembers_cons (member : String × Value) (members : List (String × Value)) :
    printMembers layout level (member :: members) =
      memberText layout level member :: printMembers layout level members := rfl

theorem skipSpace_memberText (layout : Layout) (level : Nat) (member : String × Value)
    (rest : List Char) :
    skipSpace (memberText layout level member ++ rest) = memberText layout level member ++ rest :=
  skipSpace_cons (c := '"') (by decide)

-- A member is read in three steps: its name, the colon and its value.
theorem read_memberText (fuel : Nat) {member : String × Value}
    (hvalue : ReadsBack layout outer member.2)
    (hcs : skipSpace cs = memberText layout level member ++ rest) (hrest : EndsNumber rest)
    (hfuel : 2 * cs.length + 1 ≤ fuel) :
    ∃ text afterName afterColon, skipSpace cs = '"' :: text ∧
      string? text = some (some member.1, afterName) ∧ skipSpace afterName = ':' :: afterColon ∧
      value? (fuel + 1) outer afterColon = some (member.2, rest) := by
  obtain ⟨afterColon, hcolon, hspace⟩ :=
    skipSpace_colon layout (print layout level member.2 ++ rest)
  rw [hvalue.skipSpace_print] at hspace
  have htext : skipSpace cs =
      '"' :: (member.1.toList.flatMap escaped ++ '"' :: ':' :: afterColon) := by
    rw [hcs, ← hcolon]
    simp [memberText, quoted]
  have hshorter := length_skipSpace_le cs
  simp only [htext, List.length_cons, List.length_append] at hshorter
  exact ⟨_, ':' :: afterColon, afterColon, htext, string?_quoted member.1 _,
    skipSpace_cons (by decide), hvalue.read level fuel hspace hrest (by omega)⟩

theorem members?_printMembers (fuel : Nat) {member : String × Value}
    {members : List (String × Value)} (hmember : ReadsBack layout outer member.2)
    (hmembers : ∀ member ∈ members, ReadsBack layout outer member.2)
    (hcs : skipSpace cs = memberText layout (level + 1) member ++
      remaining layout level '}' (printMembers layout (level + 1) members) rest)
    (hfuel : 2 * cs.length + 3 ≤ fuel) :
    members? fuel outer cs =
      some ((member :: members).map fun member => (some member.1, member.2), rest) := by
  induction members generalizing member cs fuel with
  | nil =>
    obtain ⟨fuel, rfl⟩ : ∃ n, fuel = n + 2 := ⟨fuel - 2, by omega⟩
    obtain ⟨text, afterName, afterColon, htext, hname, hcolon, hvalue⟩ :=
      read_memberText fuel hmember hcs (endsNumber_remaining (endsNumber_brace rest) _) (by omega)
    simp [members?, htext, hname, hcolon, hvalue, printMembers,
      skipSpace_remaining_nil '}' (by decide)]
  | cons next members ih =>
    obtain ⟨fuel, rfl⟩ : ∃ n, fuel = n + 2 := ⟨fuel - 2, by omega⟩
    obtain ⟨text, afterName, afterColon, htext, hname, hcolon, hvalue⟩ :=
      read_memberText fuel hmember hcs (endsNumber_remaining (endsNumber_brace rest) _) (by omega)
    obtain ⟨hnext, hmembers⟩ := List.forall_mem_cons.mp hmembers
    rw [printMembers_cons] at hcs hvalue
    have hshorter : (skipSpace cs).length ≤ cs.length := length_skipSpace_le cs
    rw [hcs, remaining_cons] at hshorter
    have hpos : 0 < (memberText layout (level + 1) member).length := Nat.succ_pos _
    have hmore := ih (fuel + 1) hnext hmembers
      ((skipSpace_lineBreak layout (level + 1) _).trans
        (skipSpace_memberText layout (level + 1) next _))
      (by simp only [List.length_append, List.length_cons] at hshorter ⊢; omega)
    rw [members?, htext]
    simp [hname, hcolon, hvalue, skipSpace_remaining_cons, hmore]

theorem object_map_some (members : List (String × Value)) :
    object (members.map fun member => (some member.1, member.2)) = .object members := by
  have hnamed : (members.map fun member => (some member.1, member.2)).mapM
      (fun member : Option String × Value => member.1.map (·, member.2)) = some members := by
    induction members with
    | nil => rfl
    | cons member members ih => simp [ih]
  unfold object
  split
  case h_1 named heq =>
    obtain rfl := Option.some.inj (heq.symm.trans hnamed)
    rfl
  case h_2 heq => cases heq.symm.trans hnamed

theorem head_integer (n : Int) :
    ∃ c text, integer n = c :: text ∧ (c = '-' ∨ c.isDigit = true) := by
  unfold integer
  split
  · exact ⟨_, _, rfl, .inl rfl⟩
  · obtain ⟨d, ds, hds, hdigit⟩ := exists_toDigits_eq_cons n.natAbs
    exact ⟨d, ds, hds, .inr hdigit⟩

theorem ne_of_isNumeric {c d : Char} (hc : c = '-' ∨ c.isDigit = true) (hd : d ≠ '-')
    (hdigit : d.isDigit = false) : c ≠ d := by
  rintro rfl
  rcases hc with rfl | hc
  · exact hd rfl
  · rw [hdigit] at hc
    cases hc

-- How the first character decides what is read.

theorem value?_number {c : Char} {text : List Char} (hcs : skipSpace cs = c :: text)
    (hc : c = '-' ∨ c.isDigit = true) :
    value? (fuel + 1) outer cs =
      (numberText? (c :: text)).map fun read => (read.1.toValue, read.2) := by
  have hne : ∀ d, d ≠ '-' → d.isDigit = false → c ≠ d := fun _ => ne_of_isNumeric hc
  simp [value?, hcs, hne 'n', hne 't', hne 'f', hne '"', hne '[', hne '{']

theorem value?_string {text : List Char} (hcs : skipSpace cs = '"' :: text) :
    value? (fuel + 1) outer cs =
      (string? text).map fun read => ((read.1.map Value.string).getD .unreadable, read.2) := by
  simp [value?, hcs]

theorem value?_items {text first : List Char} (hcs : skipSpace cs = '[' :: text)
    (htext : skipSpace text = first) (hfirst : first.head? ≠ some ']') :
    value? (fuel + 1) outer cs = (items? fuel (outer + 1) first).map
      fun read => (container outer (.array read.1), read.2) := by
  cases first with
  | nil => simp [value?, hcs, htext]
  | cons c more => simp [value?, hcs, htext, show c ≠ ']' from fun hc => hfirst (hc ▸ rfl)]

theorem value?_members {text first : List Char} (hcs : skipSpace cs = '{' :: text)
    (htext : skipSpace text = first) (hfirst : first.head? ≠ some '}') :
    value? (fuel + 1) outer cs = (members? fuel (outer + 1) first).map
      fun read => (container outer (object read.1), read.2) := by
  cases first with
  | nil => simp [value?, hcs, htext]
  | cons c more => simp [value?, hcs, htext, show c ≠ '}' from fun hc => hfirst (hc ▸ rfl)]

theorem word?_append (word : String) (value : Value) (rest : List Char) :
    word? word value (word.toList ++ rest) = some (value, rest) := by
  simp [word?, ← String.length_toList]

theorem readsBack_null : ReadsBack layout outer .null where
  head _ := ⟨'n', _, rfl, by decide, by decide⟩
  read level fuel cs rest hcs _ hfuel := by
    have htext : skipSpace cs = 'n' :: ("ull".toList ++ rest) := hcs
    simp only [value?, htext]
    exact word?_append "null" .null rest

theorem readsBack_bool (b : Bool) : ReadsBack layout outer (.bool b) := by
  constructor
  case head =>
    cases b
    · exact fun _ => ⟨'f', _, rfl, by decide, by decide⟩
    · exact fun _ => ⟨'t', _, rfl, by decide, by decide⟩
  case read =>
    intro level fuel cs rest hcs _ hfuel
    cases b
    · have htext : skipSpace cs = 'f' :: ("alse".toList ++ rest) := hcs
      simp only [value?, htext]
      exact word?_append "false" (.bool false) rest
    · have htext : skipSpace cs = 't' :: ("rue".toList ++ rest) := hcs
      simp only [value?, htext]
      exact word?_append "true" (.bool true) rest

theorem readsBack_int {n : Int} (hlow : Int64.minValue.toInt ≤ n) (hhigh : n < UInt64.size) :
    ReadsBack layout outer (.int n) := by
  obtain ⟨c, text, hn, hc⟩ := head_integer n
  constructor
  case head =>
    refine fun _ => ⟨c, text, hn, ?_, ne_of_isNumeric hc (by decide) (by decide)⟩
    simp [isSpace, ne_of_isNumeric hc (d := ' '), ne_of_isNumeric hc (d := '\n'),
      ne_of_isNumeric hc (d := '\t'), ne_of_isNumeric hc (d := '\r')]
  case read =>
    intro level fuel cs rest hcs hrest hfuel
    have hnumber := numberText?_integer n hrest
    rw [print, hn, List.cons_append] at hcs
    rw [hn, List.cons_append] at hnumber
    rw [value?_number hcs hc, hnumber]
    exact congrArg (fun value => some (value, rest)) (toValue_integer hlow hhigh)

theorem readsBack_string (s : String) : ReadsBack layout outer (.string s) where
  head _ := ⟨'"', _, rfl, by decide, by decide⟩
  read level fuel cs rest hcs _ hfuel := by
    have htext : skipSpace cs = '"' :: (s.toList.flatMap escaped ++ '"' :: rest) := by
      simpa [print, quoted] using hcs
    rw [value?_string htext, string?_quoted]
    rfl

theorem readsBack_array {items : List Value} (hdepth : outer < maxDepth)
    (hitems : ∀ item ∈ items, ReadsBack layout (outer + 1) item) :
    ReadsBack layout outer (.array items) := by
  constructor
  case head =>
    intro level
    cases items <;> exact ⟨'[', _, rfl, by decide, by decide⟩
  case read =>
    intro level fuel cs rest hcs hrest hfuel
    cases items with
    | nil =>
      have hempty : skipSpace cs = '[' :: ']' :: rest := hcs
      simp [value?, hempty, skipSpace_cons (c := ']') (by decide), container, hdepth]
    | cons item items =>
      obtain ⟨hitem, hitems⟩ := List.forall_mem_cons.mp hitems
      rw [print, printItems, wrap_cons] at hcs
      have hshorter := length_skipSpace_le cs
      have hfirst := (skipSpace_lineBreak layout (level + 1) _).trans
        (hitem.skipSpace_print (level + 1)
          (remaining layout level ']' (printItems layout (level + 1) items) rest))
      have hread := items?_printItems fuel hitem hitems
        (hitem.skipSpace_print (level + 1) (remaining layout level ']' _ rest))
        (by simp only [hcs, List.length_append, List.length_cons] at hshorter ⊢; omega)
      rw [value?_items hcs hfirst (hitem.head?_print_append_ne (level + 1) _), hread]
      simp [container, hdepth]

theorem readsBack_object {members : List (String × Value)} (hdepth : outer < maxDepth)
    (hmembers : ∀ member ∈ members, ReadsBack layout (outer + 1) member.2) :
    ReadsBack layout outer (.object members) := by
  constructor
  case head =>
    intro level
    cases members <;> exact ⟨'{', _, rfl, by decide, by decide⟩
  case read =>
    intro level fuel cs rest hcs hrest hfuel
    cases members with
    | nil =>
      have hempty : skipSpace cs = '{' :: '}' :: rest := hcs
      simp [value?, hempty, skipSpace_cons (c := '}') (by decide), container, hdepth]
    | cons member members =>
      obtain ⟨hmember, hmembers⟩ := List.forall_mem_cons.mp hmembers
      rw [print, printMembers_cons, wrap_cons] at hcs
      have hshorter := length_skipSpace_le cs
      have hfirst := (skipSpace_lineBreak layout (level + 1) _).trans
        (skipSpace_memberText layout (level + 1) member
          (remaining layout level '}' (printMembers layout (level + 1) members) rest))
      have hread := members?_printMembers fuel hmember hmembers
        (skipSpace_memberText layout (level + 1) member (remaining layout level '}' _ rest))
        (by simp only [hcs, List.length_append, List.length_cons] at hshorter ⊢; omega)
      have hbrace : '"' ≠ '}' := by decide
      rw [value?_members hcs hfirst fun h => hbrace (Option.some.inj h), hread, Option.map_some,
        object_map_some, container, if_pos hdepth]

-- The induction is on the tree. Each array and each object leaves one less of the depth that a
-- reader bears.
theorem readsBack_of_plain {names : List String → Prop} {value : Value}
    (h : Value.Plain names depth value) (hdepth : outer + depth ≤ maxDepth) :
    ReadsBack layout outer value := by
  induction h generalizing outer with
  | null => exact readsBack_null
  | bool b => exact readsBack_bool b
  | int hlow hhigh => exact readsBack_int hlow hhigh
  | string s => exact readsBack_string s
  | array _ ih =>
    exact readsBack_array (by omega) fun item hitem => ih item hitem (by omega)
  | object _ _ ih =>
    exact readsBack_object (by omega) fun member hmember => ih member hmember (by omega)

-- What is printed is read back as it was, however it is laid out.
theorem parse?_print {names : List String → Prop} {value : Value}
    (h : Value.Plain names maxDepth value) (layout : Layout) :
    parse? (print layout 0 value) = some value := by
  have hback : ReadsBack layout 0 value := readsBack_of_plain h (by omega)
  have hread := hback.read 0 _ (hback.skipSpace_print 0 [])
    (by rintro c ⟨⟩) (Nat.le_refl _)
  rw [List.append_nil] at hread
  rw [parse?, hread]
  rfl

end RpcRouting.Document.Json
