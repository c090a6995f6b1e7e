import RpcRouting.Proofs.Compilation
import RpcRouting.Proofs.DomainMatch
import RpcRouting.Proofs.HeaderVisibility
import RpcRouting.Proofs.Session

namespace RpcRouting

namespace Headers

-- The name of a binary header, in any case.
def IsBinary (name : String) : Prop := binarySuffix.toList <:+ name.toList.map Char.toLower

instance : DecidablePred IsBinary :=
  fun name => inferInstanceAs (Decidable (_ <:+ name.toList.map Char.toLower))

-- A name that is recognized as one of a binary header.
def HasBinarySuffix (name : String) : Prop := binarySuffix.toList <:+ name.toList

instance : DecidablePred HasBinarySuffix :=
  fun name => inferInstanceAs (Decidable (_ <:+ name.toList))

variable {name other : String} {headers : Headers}

theorem HasBinarySuffix.isBinary (h : HasBinarySuffix name) : IsBinary name := by
  have hlower : binarySuffix.toList.map Char.toLower = binarySuffix.toList := by decide
  rw [IsBinary, ← hlower]
  exact h.map Char.toLower

theorem SameName.isBinary_iff (h : SameName name other) : IsBinary name ↔ IsBinary other := by
  rw [IsBinary, IsBinary, ← String.toList_map, ← String.toList_map, h]

theorem SameName.textValues_eq (h : SameName name other) (headers : Headers) :
    headers.textValues name = headers.textValues other := by
  rw [textValues, textValues, h.storedName?_eq]

theorem HasBinarySuffix.value?_eq_none (h : HasBinarySuffix name) (headers : Headers) :
    headers.value? name = none :=
  if_pos (List.isSuffixOf_iff_suffix.mpr h)

theorem value?_eq_none_iff :
    headers.value? name = none ↔ HasBinarySuffix name ∨ headers.textValues name = [] := by
  by_cases h : HasBinarySuffix name
  · exact iff_of_true (h.value?_eq_none headers) (.inl h)
  · rw [or_iff_right h, value?, if_neg (mt List.isSuffixOf_iff_suffix.mp h)]
    split
    · rename_i hempty
      exact iff_of_true rfl hempty
    · rename_i hne
      exact iff_of_false (fun h => by cases h) hne

-- Nothing but the texts under a name is seen, and whether the name is recognized.
theorem value?_congr {others : Headers} (hs : HasBinarySuffix name ↔ HasBinarySuffix other)
    (h : headers.textValues name = others.textValues other) :
    headers.value? name = others.value? other := by
  by_cases hsuffix : HasBinarySuffix name
  · rw [hsuffix.value?_eq_none, (hs.mp hsuffix).value?_eq_none]
  · have hsuffix' : ¬ HasBinarySuffix other := mt hs.mpr hsuffix
    rw [value?, value?, if_neg (mt List.isSuffixOf_iff_suffix.mp hsuffix),
      if_neg (mt List.isSuffixOf_iff_suffix.mp hsuffix'), h]

theorem SameName.value?_eq_iff (h : SameName name other) :
    headers.value? name = headers.value? other ↔
      (HasBinarySuffix name ↔ HasBinarySuffix other) ∨ headers.textValues name = [] := by
  constructor
  · intro heq
    by_contra hcon
    rw [not_or] at hcon
    apply hcon.1
    have hname : headers.value? name = none ↔ HasBinarySuffix name := by
      rw [value?_eq_none_iff, or_iff_left hcon.2]
    have hother : headers.value? other = none ↔ HasBinarySuffix other := by
      rw [value?_eq_none_iff, ← h.textValues_eq, or_iff_left hcon.2]
    rw [← hname, ← hother, heq]
  · rintro (hs | hempty)
    · exact value?_congr hs (h.textValues_eq headers)
    · rw [value?_eq_none_iff.mpr (.inr hempty),
        value?_eq_none_iff.mpr (.inr (h.textValues_eq headers ▸ hempty))]

-- A name under which nothing is seen: it is recognized, or nothing can be stored under it.
def IsBlind (name : String) : Prop := HasBinarySuffix name ∨ storedName? name = none

-- Under any other name there is a header to be seen, even without anything in its value.
theorem exists_value?_ne_none (h : ¬ IsBlind name) :
    ∃ headers, append {} name [] = .ok headers ∧ headers.value? name ≠ none := by
  rw [IsBlind, not_or] at h
  obtain ⟨stored, hstored⟩ := Option.ne_none_iff_exists'.mp h.2
  refine ⟨⟨[(stored, [])]⟩, ?_, ?_⟩
  · rw [append, hstored]
    rfl
  · rw [ne_eq, value?_eq_none_iff, or_iff_right h.1, textValues, hstored]
    simp [textOf?]

theorem forall_value?_eq_none_iff :
    (∀ headers : Headers, headers.value? name = none) ↔ IsBlind name := by
  constructor
  · intro hnone
    by_contra hseen
    obtain ⟨headers, -, hne⟩ := exists_value?_ne_none hseen
    exact hne (hnone headers)
  · rintro (hs | hn) headers
    · exact hs.value?_eq_none headers
    · rw [value?_eq_none_iff, textValues, hn]
      exact .inr rfl

-- Headers that are the same but for binary ones.
def SameButBinary (headers others : Headers) : Prop :=
  headers.entries.filter (¬ IsBinary ·.1) = others.entries.filter (¬ IsBinary ·.1)

theorem sameName_toLower (name : String) : SameName (name.map Char.toLower) name := by
  apply String.toList_inj.mp
  rw [String.toList_map, String.toList_map, List.map_map]
  exact List.map_congr_left fun c _ => DomainMatch.toLower_toLower c

-- What is stored under a name is not binary where the name is not.
theorem SameButBinary.textValues_eq {others : Headers} (h : SameButBinary headers others)
    (hn : ¬ IsBinary name) : headers.textValues name = others.textValues name := by
  unfold textValues
  cases hs : storedName? name with
  | none => rfl
  | some stored =>
    obtain rfl := storedName?_eq_some hs
    have hfilter : ∀ entries : List (String × List UInt8),
        entries.filter (·.1 == name.map Char.toLower) =
          (entries.filter (¬ IsBinary ·.1)).filter (·.1 == name.map Char.toLower) := by
      intro entries
      rw [List.filter_filter]
      apply List.filter_congr
      intro entry _
      by_cases he : entry.1 = name.map Char.toLower
      · simp [he, (sameName_toLower name).isBinary_iff, hn]
      · simp [he]
    dsimp only
    rw [hfilter, h, ← hfilter]

theorem SameButBinary.value?_eq {others : Headers} (h : SameButBinary headers others)
    (hb : IsBinary name → IsBlind name) : headers.value? name = others.value? name := by
  by_cases hn : IsBinary name
  · have hnone := forall_value?_eq_none_iff.mpr (hb hn)
    rw [hnone, hnone]
  · exact value?_congr Iff.rfl (h.textValues_eq hn)

end Headers

-- Where a host asks for headers under a name.
def Wire.VirtualHost.Names (host : Wire.VirtualHost .v3) (name : String) : Prop :=
  ∃ route ∈ host.routes, ∃ matcher ∈ (route.routeMatch.getD {}).headers, matcher.name = name

-- The matchers of a table look under the names that its host was given, as they are spelled there.
theorem RouteTable.exists_names_of_build {config : Wire.RouteConfiguration .v3}
    {authority : String} {table : RouteTable} {skipped : Nat}
    (h : build config authority = .ok (table, skipped)) {name : String}
    (hn : name ∈ table.matcherNames) :
    ∃ host, Wire.VirtualHost.select? config.virtualHosts authority = some host ∧
      host.Names name := by
  obtain ⟨route, hr, hn⟩ := List.mem_flatMap.mp hn
  obtain ⟨matcher, hm, rfl⟩ := List.mem_map.mp hn
  obtain ⟨host, hs, wire, hw, hroute⟩ := exists_wire_of_build h hr
  have hmatch := (Compile.route_eq_compiled_iff.mp hroute).1
  obtain ⟨-, -, -, hheaders, -⟩ := Compile.routeMatch_eq_compiled_iff.mp hmatch
  obtain ⟨wireMatcher, hwm, hmatcher⟩ := Outcome.exists_of_mem_compiled hheaders hm
  exact ⟨host, hs, wire, hw, wireMatcher, hwm,
    (Compile.headerMatcher_eq_compiled_iff.mp hmatcher).1.symm⟩

open Headers (IsBinary IsBlind HasBinarySuffix SameName SameButBinary)

-- The suffix is looked for in a name as it is spelled, and the header in any case. So a binary
-- header is hidden under the spellings that end in the suffix itself, and seen under all others.
-- A matcher looks under the spelling that its host was given. Where all those of binary headers
-- are hidden, no binary header plays a part in a decision.
theorem Session.binary_hidden_as_spelled {σ : Type} (answer : Nat → σ → Nat × σ)
    (authority : String) (source : σ) (calls : List Call) :
    (∀ (headers : Headers) name other, SameName name other →
      (headers.value? name = headers.value? other ↔
        (HasBinarySuffix name ↔ HasBinarySuffix other) ∨ headers.textValues name = []) ∧
      (¬ IsBinary name → headers.value? name = headers.value? other)) ∧
    (∀ name, IsBinary name →
      (∀ headers : Headers, headers.value? name = none ↔
        HasBinarySuffix name ∨ headers.textValues name = []) ∧
      ((∀ headers : Headers, headers.value? name = none) ↔ IsBlind name)) ∧
    let reached := ((start authority source).run answer calls).2
    (∀ name ∈ reached.resolver.matcherNames, ∃ update host, .update update ∈ calls ∧
      Wire.VirtualHost.select? update.upgrade.virtualHosts authority = some host ∧
      host.Names name) ∧
    ((∀ name ∈ reached.resolver.matcherNames, IsBinary name → IsBlind name) →
      ∀ path headers others, SameButBinary headers others →
        reached.call answer (.resolve path headers) =
          reached.call answer (.resolve path others)) := by
  refine ⟨?_, ?_, ?_, ?_⟩
  · intro headers name other h
    refine ⟨h.value?_eq_iff, ?_⟩
    intro hn
    have hs : ¬ HasBinarySuffix name := fun hs => hn hs.isBinary
    have hs' : ¬ HasBinarySuffix other := fun hs => hn (h.isBinary_iff.mpr hs.isBinary)
    exact h.value?_eq_iff.mpr (.inl (iff_of_false hs hs'))
  · intro name hn
    exact ⟨fun headers => Headers.value?_eq_none_iff, Headers.forall_value?_eq_none_iff⟩
  · intro name hn
    obtain ⟨snapshot, hs, hn⟩ := List.mem_flatMap.mp hn
    obtain ⟨update, skipped, hmem, hbuild⟩ :=
      (reached_run answer authority source calls).1.exists_update (Option.mem_toList.mp hs)
    obtain ⟨host, hselected, hnames⟩ := RouteTable.exists_names_of_build hbuild hn
    exact ⟨update, host, hmem, hselected, hnames⟩
  · intro hblind path headers others h
    rw [call, call, Resolver.resolve_congr fun name hn => h.value?_eq (hblind name hn)]

-- The same header under two spellings of its name.
example :
    let headers : Headers := ⟨[("x-bin", [65, 65, 69, 67])]⟩
    headers.value? "x-bin" = none ∧ headers.value? "X-BIN" = some "AAEC" := by decide +kernel

end RpcRouting
