import RpcRouting.Settings.Validation
import Mathlib.Data.List.Sort

namespace RpcRouting

-- What settings are held to. Each address has two rules of its own.
inductive Rule where
  | authority
  | pollInterval
  | routeFile
  | logLevel
  | metricsAddress
  | host (index : Nat)
  | port (index : Nat)
deriving DecidableEq

namespace Rule

-- Section by section, address by address, and the host before the port.
def place : Rule → Nat
  | .authority => 0
  | .pollInterval => 1
  | .routeFile => 2
  | .logLevel => 3
  | .metricsAddress => 4
  | .host index => 5 + 2 * index
  | .port index => 5 + 2 * index + 1

-- Which settings break a rule.
def IsBroken (settings : Settings) : Rule → Prop
  | .authority =>
    ∀ c ∈ settings.resolver.authority.toList, Unicode.Property.whiteSpace.contains c = true
  | .pollInterval => settings.source.pollIntervalSecs = 0
  | .routeFile => settings.source.watch = true ∧ settings.source.routeConfigPath = none
  | .logLevel =>
    settings.observability.logLevel.map Char.toLower ∉ ["trace", "debug", "info", "warn", "error"]
  | .metricsAddress =>
    settings.observability.metricsEnabled = true ∧
      SocketAddress.parse? settings.observability.metricsAddress = none
  | .host index =>
    ∃ address, settings.node.listeningAddresses[index]? = some address ∧ address.host = ""
  | .port index =>
    ∃ address, settings.node.listeningAddresses[index]? = some address ∧
      UInt16.size ≤ address.port.toNat

-- What is reported of settings that break a rule.
def violation (settings : Settings) : Rule → Violation
  | .authority => .emptyAuthority
  | .pollInterval => .zeroPollInterval
  | .routeFile => .watchWithoutRouteConfig
  | .logLevel => .invalidLogLevel settings.observability.logLevel
  | .metricsAddress => .invalidMetricsAddress settings.observability.metricsAddress
  | .host index => .invalidListeningAddress index .emptyHost
  | .port index =>
    .invalidListeningAddress index
      (.portOutOfRange ((settings.node.listeningAddresses[index]?.map (·.port)).getD 0))

-- Two settings that a rule cannot tell apart, since all that it looks at is the same.
def SeesSame (settings other : Settings) : Rule → Prop
  | .authority => other.resolver.authority = settings.resolver.authority
  | .pollInterval => other.source.pollIntervalSecs = settings.source.pollIntervalSecs
  | .routeFile =>
    other.source.watch = settings.source.watch ∧
      other.source.routeConfigPath = settings.source.routeConfigPath
  | .logLevel => other.observability.logLevel = settings.observability.logLevel
  | .metricsAddress =>
    other.observability.metricsEnabled = settings.observability.metricsEnabled ∧
      other.observability.metricsAddress = settings.observability.metricsAddress
  | .host index =>
    other.node.listeningAddresses[index]?.map (·.host) =
      settings.node.listeningAddresses[index]?.map (·.host)
  | .port index =>
    other.node.listeningAddresses[index]?.map (·.port) =
      settings.node.listeningAddresses[index]?.map (·.port)

-- What a rule looks at is set back to a default that keeps it.
def mend (settings : Settings) : Rule → Settings
  | .authority => { settings with resolver.authority := "localhost" }
  | .pollInterval => { settings with source.pollIntervalSecs := 2 }
  | .routeFile => { settings with source.watch := false }
  | .logLevel => { settings with observability.logLevel := "info" }
  | .metricsAddress => { settings with observability.metricsEnabled := false }
  | .host index =>
    { settings with
      node.listeningAddresses :=
        settings.node.listeningAddresses.modify index ({ · with host := "localhost" }) }
  | .port index =>
    { settings with
      node.listeningAddresses :=
        settings.node.listeningAddresses.modify index ({ · with port := 0 }) }

variable {settings other : Settings} {rule mended : Rule}

theorem isBroken_host_iff {index : Nat} :
    IsBroken settings (.host index) ↔
      settings.node.listeningAddresses[index]?.map (·.host) = some "" := by
  simp [IsBroken]

theorem isBroken_port_iff {index : Nat} :
    IsBroken settings (.port index) ↔
      ∃ port, settings.node.listeningAddresses[index]?.map (·.port) = some port ∧
        UInt16.size ≤ port.toNat := by
  simp [IsBroken]

theorem SeesSame.isBroken_iff (h : rule.SeesSame settings other) :
    rule.IsBroken other ↔ rule.IsBroken settings := by
  cases rule with
  | authority | pollInterval | logLevel =>
    simp only [SeesSame] at h
    simp only [IsBroken, h]
  | routeFile | metricsAddress =>
    obtain ⟨hflag, hvalue⟩ := h
    simp only [IsBroken, hflag, hvalue]
  | host index => rw [isBroken_host_iff, isBroken_host_iff, h]
  | port index => rw [isBroken_port_iff, isBroken_port_iff, h]

theorem SeesSame.violation_eq (h : rule.SeesSame settings other) :
    rule.violation other = rule.violation settings := by
  cases rule with
  | authority | pollInterval | routeFile | host index => rfl
  | logLevel => exact congrArg Violation.invalidLogLevel h
  | metricsAddress => exact congrArg Violation.invalidMetricsAddress h.2
  | port index => rw [violation, violation, h]

theorem not_isBroken_mend (settings : Settings) (rule : Rule) :
    ¬ rule.IsBroken (rule.mend settings) := by
  cases rule with
  | authority =>
    intro h
    have hletter : 'l' ∈ "localhost".toList := by decide
    exact absurd (h 'l' hletter) (by decide)
  | logLevel =>
    have hlower : "info".map Char.toLower = "info" := by
      rw [← String.toList_inj, String.toList_map]
      decide
    simp [IsBroken, mend, hlower]
  | pollInterval | routeFile | metricsAddress | host index | port index => simp [IsBroken, mend]

-- What a change keeps of every member stays the same at every position.
theorem map_getElem?_modify {α β : Type} {change : α → α} {part : α → β}
    (h : ∀ a, part (change a) = part a) (items : List α) (changed index : Nat) :
    (items.modify changed change)[index]?.map part = items[index]?.map part := by
  rw [List.getElem?_modify]
  cases items[index]? with
  | none => rfl
  | some a => by_cases hindex : changed = index <;> simp [hindex, h]

theorem seesSame_mend (h : rule ≠ mended) : rule.SeesSame settings (mended.mend settings) := by
  cases rule with
  | authority =>
    cases mended with
    | authority => exact absurd rfl h
    | _ => rfl
  | pollInterval =>
    cases mended with
    | pollInterval => exact absurd rfl h
    | _ => rfl
  | routeFile =>
    cases mended with
    | routeFile => exact absurd rfl h
    | _ => exact ⟨rfl, rfl⟩
  | logLevel =>
    cases mended with
    | logLevel => exact absurd rfl h
    | _ => rfl
  | metricsAddress =>
    cases mended with
    | metricsAddress => exact absurd rfl h
    | _ => exact ⟨rfl, rfl⟩
  | host index =>
    cases mended with
    | host changed =>
      have hindex : changed ≠ index := fun heq => h (congrArg Rule.host heq.symm)
      simp [SeesSame, mend, hindex]
    | port changed =>
      have hkept : ∀ address : Address, { address with port := 0 }.host = address.host :=
        fun _ => rfl
      exact map_getElem?_modify hkept _ changed index
    | _ => rfl
  | port index =>
    cases mended with
    | host changed =>
      have hkept : ∀ address : Address, { address with host := "localhost" }.port = address.port :=
        fun _ => rfl
      exact map_getElem?_modify hkept _ changed index
    | port changed =>
      have hindex : changed ≠ index := fun heq => h (congrArg Rule.port heq.symm)
      simp [SeesSame, mend, hindex]
    | _ => rfl

end Rule

namespace Violation

-- The rule that a violation is about.
def rule : Violation → Rule
  | .emptyAuthority => .authority
  | .zeroPollInterval => .pollInterval
  | .watchWithoutRouteConfig => .routeFile
  | .invalidLogLevel _ => .logLevel
  | .invalidMetricsAddress _ => .metricsAddress
  | .invalidListeningAddress index .emptyHost => .host index
  | .invalidListeningAddress index (.portOutOfRange _) => .port index

def Precedes (violation other : Violation) : Prop := violation.rule.place < other.rule.place

instance : Std.Asymm Precedes := ⟨fun _ _ h => Nat.lt_asymm h⟩

-- Violations in the order of their places, all of which lie between two bounds.
structure Ascending (low high : Nat) (violations : List Violation) : Prop where
  pairwise : violations.Pairwise Precedes
  between : ∀ violation ∈ violations,
    low ≤ violation.rule.place ∧ violation.rule.place < high

theorem Ascending.append {low middle high : Nat} {before after : List Violation}
    (hb : Ascending low middle before) (ha : Ascending middle high after)
    (hlow : low ≤ middle) (hhigh : middle ≤ high) :
    Ascending low high (before ++ after) := by
  constructor
  · rw [List.pairwise_append]
    refine ⟨hb.pairwise, ha.pairwise, ?_⟩
    intro violation hviolation other hother
    exact Nat.lt_of_lt_of_le (hb.between violation hviolation).2 (ha.between other hother).1
  · intro violation hviolation
    rcases List.mem_append.mp hviolation with hviolation | hviolation
    · have hplace := hb.between violation hviolation
      omega
    · have hplace := ha.between violation hviolation
      omega

end Violation

@[simp] theorem Rule.rule_violation (settings : Settings) (rule : Rule) :
    (rule.violation settings).rule = rule := by
  cases rule <;> rfl

theorem mem_violatedIf_iff {broken : Bool} {violation other : Violation} :
    other ∈ violatedIf broken violation ↔ broken = true ∧ other = violation := by
  cases broken <;> simp [violatedIf]

theorem ascending_violatedIf (broken : Bool) (violation : Violation) :
    Violation.Ascending violation.rule.place (violation.rule.place + 1)
      (violatedIf broken violation) := by
  constructor
  · cases broken <;> simp [violatedIf]
  · intro other hother
    obtain ⟨-, rfl⟩ := mem_violatedIf_iff.mp hother
    omega

namespace Address

variable {first : Nat} {addresses : List Address} {address : Address} {violation : Violation}

theorem map_faults (index : Nat) (address : Address) :
    address.faults.map (.invalidListeningAddress index) =
      violatedIf address.host.isEmpty (.invalidListeningAddress index .emptyHost) ++
        violatedIf (maxPort < address.port.toNat)
          (.invalidListeningAddress index (.portOutOfRange address.port)) := by
  by_cases hhost : address.host.isEmpty <;> by_cases hport : maxPort < address.port.toNat <;>
    simp [faults, violatedIf, hhost, hport]

-- A violation of an address is of the one at its position, counted from the first.
theorem mem_violationsFrom_iff :
    violation ∈ violationsFrom first addresses ↔
      ∃ offset address, addresses[offset]? = some address ∧
        (violation = .invalidListeningAddress (first + offset) .emptyHost ∧ address.host = "" ∨
          violation = .invalidListeningAddress (first + offset) (.portOutOfRange address.port) ∧
            UInt16.size ≤ address.port.toNat) := by
  induction addresses generalizing first with
  | nil => simp [violationsFrom]
  | cons head rest ih =>
    have hport : maxPort < head.port.toNat ↔ UInt16.size ≤ head.port.toNat := Iff.rfl
    have hnext : ∀ offset, first + 1 + offset = first + (offset + 1) := by omega
    rw [violationsFrom, map_faults, List.mem_append, List.mem_append, mem_violatedIf_iff,
      mem_violatedIf_iff, ih]
    simp only [hnext]
    constructor
    · rintro ((⟨hhost, rfl⟩ | ⟨hrange, rfl⟩) | ⟨offset, haddress⟩)
      · exact ⟨0, head, rfl, .inl ⟨rfl, String.isEmpty_iff.mp hhost⟩⟩
      · exact ⟨0, head, rfl, .inr ⟨rfl, hport.mp (of_decide_eq_true hrange)⟩⟩
      · exact ⟨offset + 1, haddress⟩
    · rintro ⟨offset, address, haddress, hfault⟩
      cases offset with
      | zero =>
        cases haddress
        rcases hfault with ⟨rfl, hhost⟩ | ⟨rfl, hrange⟩
        · exact .inl (.inl ⟨String.isEmpty_iff.mpr hhost, rfl⟩)
        · exact .inl (.inr ⟨decide_eq_true (hport.mpr hrange), rfl⟩)
      | succ offset => exact .inr ⟨offset, address, haddress, hfault⟩

-- The first address has no host, and the second is wrong in both respects.
example :
    violationsFrom 0 [⟨"", 80⟩, ⟨"", 70000⟩] =
      [.invalidListeningAddress 0 .emptyHost, .invalidListeningAddress 1 .emptyHost,
        .invalidListeningAddress 1 (.portOutOfRange 70000)] := by
  decide

theorem ascending_violationsFrom (first : Nat) (addresses : List Address) :
    Violation.Ascending (5 + 2 * first) (5 + 2 * (first + addresses.length))
      (violationsFrom first addresses) := by
  induction addresses generalizing first with
  | nil => exact ⟨List.Pairwise.nil, fun _ h => absurd h List.not_mem_nil⟩
  | cons head rest ih =>
    have hhost := ascending_violatedIf head.host.isEmpty (.invalidListeningAddress first .emptyHost)
    have hport := ascending_violatedIf (maxPort < head.port.toNat)
      (.invalidListeningAddress first (.portOutOfRange head.port))
    have hhead : Violation.Ascending (5 + 2 * first) (5 + 2 * (first + 1))
        (head.faults.map (.invalidListeningAddress first)) := by
      rw [map_faults]
      exact hhost.append hport (Nat.le_succ _) (Nat.le_succ _)
    rw [violationsFrom, List.length_cons, Nat.add_comm rest.length, ← Nat.add_assoc]
    exact hhead.append (ih (first + 1)) (by omega) (by omega)

end Address

namespace Settings

variable {settings edited : Settings} {rule : Rule}

-- What is reported is that a rule is broken, with what the settings say where they break it.
theorem mem_violations_iff {violation : Violation} :
    violation ∈ settings.violations ↔
      violation.rule.IsBroken settings ∧ violation = violation.rule.violation settings := by
  simp only [violations, ResolverSettings.violations, SourceSettings.violations,
    ObservabilitySettings.violations, List.mem_append, mem_violatedIf_iff,
    Address.mem_violationsFrom_iff, Nat.zero_add]
  cases violation with
  | emptyAuthority => simp [Violation.rule, Rule.IsBroken, Rule.violation, isBlankText]
  | zeroPollInterval => simp [Violation.rule, Rule.IsBroken, Rule.violation]
  | watchWithoutRouteConfig => simp [Violation.rule, Rule.IsBroken, Rule.violation]
  | invalidLogLevel level =>
    simp [Violation.rule, Rule.IsBroken, Rule.violation, ObservabilitySettings.logLevels]
  | invalidMetricsAddress address => simp [Violation.rule, Rule.IsBroken, Rule.violation]
  | invalidListeningAddress index fault =>
    cases fault with
    | emptyHost => simp [Violation.rule, Rule.IsBroken, Rule.violation]
    | portOutOfRange port =>
      cases haddress : settings.node.listeningAddresses[index]? with
      | none => simp [Violation.rule, Rule.IsBroken, haddress]
      | some address =>
        simp [Violation.rule, Rule.IsBroken, Rule.violation, haddress, and_comm]

theorem violation_mem_iff :
    rule.violation settings ∈ settings.violations ↔ rule.IsBroken settings := by
  simp [mem_violations_iff]

theorem pairwise_violations (settings : Settings) :
    settings.violations.Pairwise Violation.Precedes := by
  have hresolver : Violation.Ascending 0 1 settings.resolver.violations :=
    ascending_violatedIf _ .emptyAuthority
  have hsource : Violation.Ascending 1 3 settings.source.violations :=
    (ascending_violatedIf _ .zeroPollInterval).append
      (ascending_violatedIf _ .watchWithoutRouteConfig) (Nat.le_succ _) (Nat.le_succ _)
  have hobservability : Violation.Ascending 3 5 settings.observability.violations :=
    (ascending_violatedIf _ (.invalidLogLevel _)).append
      (ascending_violatedIf _ (.invalidMetricsAddress _)) (Nat.le_succ _) (Nat.le_succ _)
  have haddresses := Address.ascending_violationsFrom 0 settings.node.listeningAddresses
  have hsections := (hresolver.append hsource (by omega) (by omega)).append hobservability
    (by omega) (by omega)
  exact (hsections.append haddresses (by omega) (by omega)).pairwise

-- The violations are one for each broken rule, in the order of the rules.
theorem exists_rules (settings : Settings) :
    ∃ rules : List Rule, rules.Pairwise (·.place < ·.place) ∧
      (∀ rule, rule ∈ rules ↔ rule.IsBroken settings) ∧
      settings.violations = rules.map (·.violation settings) := by
  refine ⟨settings.violations.map (·.rule), ?_, ?_, ?_⟩
  · exact List.pairwise_map.mpr settings.pairwise_violations
  · intro rule
    rw [List.mem_map]
    constructor
    · rintro ⟨violation, hviolation, rfl⟩
      exact (mem_violations_iff.mp hviolation).1
    · intro hbroken
      exact ⟨rule.violation settings, violation_mem_iff.mpr hbroken, rule.rule_violation settings⟩
  · rw [List.map_map]
    refine (List.map_id' _).symm.trans (List.map_congr_left ?_)
    intro violation hviolation
    exact (mem_violations_iff.mp hviolation).2

theorem violations_eq_nil_iff :
    settings.violations = [] ↔ ∀ rule : Rule, ¬ rule.IsBroken settings := by
  rw [List.eq_nil_iff_forall_not_mem]
  constructor
  · intro hnone rule hbroken
    exact hnone _ (violation_mem_iff.mpr hbroken)
  · intro hkept violation hviolation
    exact hkept _ (mem_violations_iff.mp hviolation).1

theorem validate_eq_ok_iff : settings.validate = .ok () ↔ settings.violations = [] := by
  rw [validate]
  cases settings.violations with
  | nil => simp
  | cons first rest => simp

section Edit

variable (h : ∀ other, other ≠ rule → other.SeesSame settings edited)

include h

theorem mem_violations_of_edit {violation : Violation} (hne : violation.rule ≠ rule) :
    violation ∈ edited.violations ↔ violation ∈ settings.violations := by
  have hsame := h violation.rule hne
  rw [mem_violations_iff, mem_violations_iff, hsame.isBroken_iff, hsame.violation_eq]

-- A change to what one rule looks at leaves the violations of all others, and their order.
theorem filter_violations_of_edit :
    edited.violations.filter (·.rule ≠ rule) = settings.violations.filter (·.rule ≠ rule) := by
  refine (edited.pairwise_violations.filter _).eq_of_mem_iff
    (settings.pairwise_violations.filter _) ?_
  intro violation
  simp only [List.mem_filter, decide_eq_true_iff]
  exact and_congr_left fun hne => mem_violations_of_edit h hne

theorem violations_of_repair (hkept : ¬ rule.IsBroken edited) :
    edited.violations = settings.violations.erase (rule.violation settings) := by
  have hnodup : settings.violations.Nodup := settings.pairwise_violations.nodup
  refine edited.pairwise_violations.eq_of_mem_iff
    (settings.pairwise_violations.sublist List.erase_sublist) ?_
  intro violation
  rw [hnodup.mem_erase_iff]
  by_cases hrule : violation.rule = rule
  · subst hrule
    rw [mem_violations_iff, mem_violations_iff]
    exact iff_of_false (fun hbroken => hkept hbroken.1) fun hother => hother.1 hother.2.2
  · have hother : violation ≠ rule.violation settings := by
      rintro rfl
      exact hrule (rule.rule_violation settings)
    rw [mem_violations_of_edit h hrule]
    exact (and_iff_right hother).symm

end Edit

end Settings

end RpcRouting
