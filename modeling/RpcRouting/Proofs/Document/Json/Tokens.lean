import RpcRouting.Document.Json.Parser
import RpcRouting.Document.Json.Printer

namespace RpcRouting.Document.Json

-- Numbers

-- What follows does not carry a number on.
def EndsNumber (rest : List Char) : Prop :=
  ∀ c ∈ rest.head?, c.isDigit = false ∧ c ≠ '.' ∧ c ≠ 'e' ∧ c ≠ 'E'

theorem naturalNumber_toDigits (n : Nat) : naturalNumber (Nat.toDigits 10 n) = n :=
  Nat.ofDigitChars_toDigits (by decide) (by decide)

theorem isDigit_of_mem_toDigits {n : Nat} {c : Char} (h : c ∈ Nat.toDigits 10 n) :
    c.isDigit = true :=
  Nat.isDigit_of_mem_toDigits (by decide) (by decide) h

theorem exists_toDigits_eq_cons (n : Nat) :
    ∃ d ds, Nat.toDigits 10 n = d :: ds ∧ d.isDigit = true := by
  obtain ⟨d, ds, hds⟩ := List.exists_cons_of_ne_nil (Nat.toDigits_ne_nil (n := n) (b := 10))
  exact ⟨d, ds, hds, isDigit_of_mem_toDigits (hds ▸ List.mem_cons_self)⟩

theorem digitChar_ne_zero : ∀ n < 10, 0 < n → n.digitChar ≠ '0' := by decide

-- Only zero itself is written with a zero in front.
theorem head?_toDigits_ne_zero {n : Nat} (h : 0 < n) : (Nat.toDigits 10 n).head? ≠ some '0' := by
  induction n using Nat.strongRecOn with
  | ind n ih =>
    rcases Nat.lt_or_ge n 10 with hlt | hge
    · rw [Nat.toDigits_of_lt_base hlt]
      exact fun hzero => digitChar_ne_zero n hlt h (Option.some.inj hzero)
    · rw [Nat.toDigits_of_base_le (by decide) hge, List.head?_append,
        Option.or_of_isSome (List.isSome_head?.mpr Nat.toDigits_ne_nil)]
      exact ih (n / 10) (by omega) (by omega)

theorem digits?_append {ds rest : List Char} (hne : ds ≠ []) (hds : ∀ c ∈ ds, c.isDigit = true)
    (hrest : EndsNumber rest) : digits? (ds ++ rest) = some (ds, rest) := by
  have hleft : rest.takeWhile Char.isDigit = [] ∧ rest.dropWhile Char.isDigit = rest := by
    cases rest with
    | nil => exact ⟨rfl, rfl⟩
    | cons c rest => simp [(hrest c rfl).1]
  unfold digits?
  rw [List.takeWhile_append_of_pos hds, List.dropWhile_append_of_pos hds, hleft.1, hleft.2,
    List.append_nil]
  cases ds with
  | nil => exact absurd rfl hne
  | cons d ds => rfl

theorem whole?_toDigits (n : Nat) {rest : List Char} (hrest : EndsNumber rest) :
    whole? (Nat.toDigits 10 n ++ rest) = some (Nat.toDigits 10 n, rest) := by
  unfold whole?
  rw [digits?_append Nat.toDigits_ne_nil (fun _ => isDigit_of_mem_toDigits) hrest]
  split
  case h_1 d ds left heq =>
    obtain ⟨hds, -⟩ := Prod.mk.inj (Option.some.inj heq)
    rcases Nat.eq_zero_or_pos n with rfl | hpos
    · cases hds
    · exact absurd (congrArg List.head? hds) (head?_toDigits_ne_zero hpos)
  case h_2 => rfl

theorem fraction?_eq_none {rest : List Char} (hrest : EndsNumber rest) :
    fraction? rest = some (none, rest) := by
  cases rest with
  | nil => rfl
  | cons c rest =>
    unfold fraction?
    split
    case h_1 heq => exact absurd (List.cons.inj heq).1 (hrest c rfl).2.1
    case h_2 => rfl

theorem power?_eq_none {rest : List Char} (hrest : EndsNumber rest) :
    power? rest = some (none, rest) := by
  cases rest with
  | nil => rfl
  | cons c rest =>
    obtain ⟨-, -, he, hE⟩ := hrest c rfl
    simp [power?, he, hE]

theorem numberText?_integer (n : Int) {rest : List Char} (hrest : EndsNumber rest) :
    numberText? (integer n ++ rest) =
      some (⟨decide (n < 0), Nat.toDigits 10 n.natAbs, none, none⟩, rest) := by
  have hwhole := whole?_toDigits n.natAbs hrest
  unfold integer numberText?
  by_cases hneg : n < 0
  · simp [hwhole, fraction?_eq_none hrest, power?_eq_none hrest, hneg]
  · obtain ⟨d, ds, hds, hdigit⟩ := exists_toDigits_eq_cons n.natAbs
    have hd : d ≠ '-' := by
      rintro rfl
      cases hdigit
    rw [hds, List.cons_append] at hwhole
    simp [hds, hwhole, fraction?_eq_none hrest, power?_eq_none hrest, hneg, hd]

-- An integer of 64 bits, with or without a sign, is read as it was written.
theorem toValue_integer {n : Int} (hlow : Int64.minValue.toInt ≤ n) (hhigh : n < UInt64.size) :
    NumberText.toValue ⟨decide (n < 0), Nat.toDigits 10 n.natAbs, none, none⟩ = .int n := by
  unfold NumberText.toValue
  rw [naturalNumber_toDigits]
  by_cases hneg : n < 0
  · have habs : -(n.natAbs : Int) = n := by omega
    have hpos : 0 < n.natAbs := by omega
    simp only [hneg, habs, hpos, hlow, decide_true, Bool.not_true, Bool.false_and, Bool.true_and,
      Option.isSome_none, Bool.or_self, Bool.false_eq_true, if_false, if_true]
  · have habs : (n.natAbs : Int) = n := by omega
    have hsize : n.natAbs < UInt64.size := by omega
    simp [hneg, hsize, habs]

-- Strings

theorem hexValue?_hexDigit : ∀ n < 16, hexValue? (hexDigit n) = some n := by decide

theorem bind_cons_piece (piece : Piece) (read : Option (List Piece × List Char)) :
    (read.bind fun found => some (piece :: found.1, found.2)) =
      read.map fun found => (piece :: found.1, found.2) := by
  cases read <;> rfl

theorem pieces?_letter {e c : Char} (he : escape? e = some c) (cs : List Char) :
    pieces? ('\\' :: e :: cs) = (pieces? cs).map fun read => (.char c :: read.1, read.2) := by
  have hu : e ≠ 'u' := by
    rintro rfl
    cases he
  rw [pieces?.eq_def]
  simp [hu, he, bind_cons_piece]

-- A control character is below 0x20, so its first two digits are zero.
theorem pieces?_code {c : Char} (hc : c.toNat < 0x20) (cs : List Char) :
    pieces? ('\\' :: 'u' :: '0' :: '0' ::
        hexDigit (c.toNat / 16) :: hexDigit (c.toNat % 16) :: cs) =
      (pieces? cs).map fun read => (.char c :: read.1, read.2) := by
  have hunit : codeUnit? '0' '0' (hexDigit (c.toNat / 16)) (hexDigit (c.toNat % 16)) =
      some c.toNat := by
    rw [codeUnit?, hexValue?_hexDigit (c.toNat / 16) (by omega),
      hexValue?_hexDigit (c.toNat % 16) (by omega)]
    exact congrArg some (by omega)
  have hlow : ¬ 0xD800 ≤ c.toNat := by omega
  rw [pieces?.eq_def]
  simp [hunit, Piece.ofUnit, hlow, bind_cons_piece]

theorem pieces?_unescaped {c : Char} (hquote : c ≠ '"') (hslash : c ≠ '\\')
    (hc : ¬ c.toNat < 0x20) (cs : List Char) :
    pieces? (c :: cs) = (pieces? cs).map fun read => (.char c :: read.1, read.2) := by
  rw [pieces?.eq_def]
  simp [hslash, hc, bind_cons_piece]

-- Each character is read back from how it is escaped, and nothing of what follows with it.
theorem pieces?_escaped (c : Char) (cs : List Char) :
    pieces? (escaped c ++ cs) = (pieces? cs).map fun read => (.char c :: read.1, read.2) := by
  unfold escaped
  split
  case h_8 hquote hslash _ _ _ _ _ =>
    by_cases hc : c.toNat < 0x20
    · rw [if_pos hc]
      exact pieces?_code hc cs
    · rw [if_neg hc]
      exact pieces?_unescaped hquote hslash hc cs
  all_goals exact pieces?_letter rfl cs

theorem pieces?_flatMap_escaped (cs rest : List Char) :
    pieces? (cs.flatMap escaped ++ '"' :: rest) = some (cs.map .char, rest) := by
  induction cs with
  | nil => rfl
  | cons c cs ih =>
    rw [List.flatMap_cons, List.append_assoc, pieces?_escaped, ih]
    rfl

theorem join?_map_char (cs : List Char) : join? (cs.map .char) = some cs := by
  induction cs with
  | nil => rfl
  | cons c cs ih =>
    rw [List.map_cons, join?, ih]
    rfl

theorem string?_quoted (s : String) (rest : List Char) :
    string? (s.toList.flatMap escaped ++ '"' :: rest) = some (some s, rest) := by
  simp [string?, pieces?_flatMap_escaped, join?_map_char]

end RpcRouting.Document.Json
