import RpcRouting.Command.Run
import RpcRouting.Proofs.Validation
import Mathlib.Data.List.Forall2

namespace RpcRouting

theorem Node.foldl_addAddress (addresses : List Address) (node : Node) :
    addresses.foldl (fun node address => node.addAddress address) node =
      { node with listeningAddresses := node.listeningAddresses ++ addresses } := by
  induction addresses generalizing node with
  | nil => simp
  | cons head rest ih =>
    rw [List.foldl_cons, ih]
    simp [addAddress]

theorem Node.foldl_addFeature (features : List String) (node : Node) :
    features.foldl (fun node feature => node.addFeature feature) node =
      { node with clientFeatures := node.clientFeatures ++ features } := by
  induction features generalizing node with
  | nil => simp
  | cons head rest ih =>
    rw [List.foldl_cons, ih]
    simp [addFeature]

theorem Settings.toNode_eq (settings : Settings) : settings.toNode = settings.node := by
  simp [toNode, Node.foldl_addAddress, Node.foldl_addFeature]

-- What is sent of an address that can be listened on.
def Address.IsSentAs (address : Address) (wire : Wire.Address) : Prop :=
  wire.socketAddress = some ⟨address.host, address.port⟩ ∧
    address.host ≠ "" ∧ address.port.toNat < UInt16.size

-- What those who are given settings rely on. Both versions of the wire form have all addresses, in
-- their order.
structure Settings.Usable (settings : Settings) : Prop where
  authority : ∃ c ∈ settings.resolver.authority.toList,
    Unicode.Property.whiteSpace.contains c = false
  pollInterval : settings.source.pollIntervalSecs ≠ 0
  routeFile : settings.source.watch = true → ∃ path, settings.source.routeConfigPath = some path
  logFilter : ∃ level ∈ ["trace", "debug", "info", "warn", "error"],
    settings.logFilter = "xds_router=" ++ level
  metricsAddress : settings.observability.metricsEnabled = true →
    ∃ address, SocketAddress.parse? settings.observability.metricsAddress = some address
  listening : List.Forall₂ Address.IsSentAs settings.node.listeningAddresses
    settings.toNode.toWire.listeningAddresses
  legacyListening : List.Forall₂ Address.IsSentAs settings.node.listeningAddresses
    settings.toNode.toLegacyWire.listeningAddresses

theorem Address.forall₂_isSentAs_iff (addresses : List Address) :
    List.Forall₂ IsSentAs addresses (addresses.map (·.toWire)) ↔
      ∀ address ∈ addresses, address.host ≠ "" ∧ address.port.toNat < UInt16.size := by
  rw [List.forall₂_map_right_iff, List.forall₂_same]
  simp [IsSentAs, toWire]

namespace Settings

variable {settings : Settings}

theorem forall_addresses_iff :
    (∀ address ∈ settings.node.listeningAddresses,
        address.host ≠ "" ∧ address.port.toNat < UInt16.size) ↔
      ∀ index, ¬ (Rule.host index).IsBroken settings ∧ ¬ (Rule.port index).IsBroken settings := by
  simp only [Rule.IsBroken, List.mem_iff_getElem?]
  constructor
  · intro hall index
    constructor
    · rintro ⟨address, haddress, hhost⟩
      exact (hall address ⟨index, haddress⟩).1 hhost
    · rintro ⟨address, haddress, hport⟩
      exact absurd hport (Nat.not_le.mpr (hall address ⟨index, haddress⟩).2)
  · rintro hkept address ⟨index, haddress⟩
    obtain ⟨hhost, hport⟩ := hkept index
    exact ⟨fun hempty => hhost ⟨address, haddress, hempty⟩,
      Nat.not_le.mp fun hrange => hport ⟨address, haddress, hrange⟩⟩

theorem listeningAddresses_toWire (settings : Settings) :
    settings.toNode.toWire.listeningAddresses =
      settings.node.listeningAddresses.map (·.toWire) := by
  rw [toNode_eq]
  rfl

theorem Usable.not_isBroken (h : settings.Usable) (rule : Rule) : ¬ rule.IsBroken settings := by
  have hsent := h.listening
  rw [listeningAddresses_toWire, Address.forall₂_isSentAs_iff, forall_addresses_iff] at hsent
  cases rule with
  | authority =>
    intro hblank
    obtain ⟨c, hc, hletter⟩ := h.authority
    rw [hblank c hc] at hletter
    cases hletter
  | pollInterval => exact h.pollInterval
  | routeFile =>
    rintro ⟨hwatch, hnone⟩
    obtain ⟨path, hpath⟩ := h.routeFile hwatch
    rw [hnone] at hpath
    cases hpath
  | logLevel =>
    intro hother
    obtain ⟨level, hlevel, hfilter⟩ := h.logFilter
    rw [Settings.logFilter, String.append_right_inj] at hfilter
    exact hother (hfilter ▸ hlevel)
  | metricsAddress =>
    rintro ⟨henabled, hnone⟩
    obtain ⟨address, haddress⟩ := h.metricsAddress henabled
    rw [hnone] at haddress
    cases haddress
  | host index => exact (hsent index).1
  | port index => exact (hsent index).2

theorem usable_of_not_isBroken (h : ∀ rule : Rule, ¬ rule.IsBroken settings) :
    settings.Usable := by
  have hsent : List.Forall₂ Address.IsSentAs settings.node.listeningAddresses
      settings.toNode.toWire.listeningAddresses := by
    rw [listeningAddresses_toWire, Address.forall₂_isSentAs_iff, forall_addresses_iff]
    exact fun index => ⟨h (.host index), h (.port index)⟩
  constructor
  case authority =>
    have hletter := h .authority
    simpa only [Rule.IsBroken, not_forall, exists_prop, Bool.not_eq_true] using hletter
  case pollInterval => exact h .pollInterval
  case routeFile =>
    intro hwatch
    exact Option.ne_none_iff_exists'.mp fun hnone => h .routeFile ⟨hwatch, hnone⟩
  case logFilter => exact ⟨_, not_not.mp (h .logLevel), rfl⟩
  case metricsAddress =>
    intro henabled
    exact Option.ne_none_iff_exists'.mp fun hnone => h .metricsAddress ⟨henabled, hnone⟩
  case listening => exact hsent
  -- both versions send the same addresses
  case legacyListening => exact hsent

theorem usable_iff : settings.Usable ↔ ∀ rule : Rule, ¬ rule.IsBroken settings :=
  ⟨fun h rule => h.not_isBroken rule, usable_of_not_isBroken⟩

theorem validate_eq_ok_iff_usable : settings.validate = .ok () ↔ settings.Usable := by
  rw [validate_eq_ok_iff, violations_eq_nil_iff, usable_iff]

end Settings

theorem exists_of_bind_eq_ok {ε α β : Type} {first : Except ε α} {next : α → Except ε β} {b : β}
    (h : first >>= next = .ok b) : ∃ a, first = .ok a ∧ next a = .ok b := by
  cases first with
  | error error => cases h
  | ok a => exact ⟨a, rfl, h⟩

namespace Settings

variable {settings : Settings}

theorem usable_of_loadSettings {files : Files} {path : String}
    (h : files.loadSettings path = .ok settings) : settings.Usable := by
  obtain ⟨text, -, hread⟩ := exists_of_bind_eq_ok h
  obtain ⟨read, -, hvalid⟩ := exists_of_bind_eq_ok hread
  obtain ⟨_, haccepted, hsame⟩ := exists_of_bind_eq_ok hvalid
  cases hsame
  rw [← validate_eq_ok_iff_usable]
  cases hvalidate : settings.validate with
  | error violations =>
    rw [hvalidate] at haccepted
    cases haccepted
  | ok _ => rfl

-- Settings are refused exactly if a rule is broken, and then with one violation for each broken
-- rule, in the order of the rules. A change to what one rule looks at does not touch the others:
-- once the rule is kept, its violation is gone and all others stand as they stood, and every rule
-- can be mended so. What is accepted is what those who are given settings rely on.
theorem violations_exact (settings : Settings) :
    settings.validate =
        (if settings.violations = [] then .ok () else .error settings.violations) ∧
    (∃ rules : List Rule, rules.Pairwise (·.place < ·.place) ∧
      (∀ rule, rule ∈ rules ↔ rule.IsBroken settings) ∧
      settings.violations = rules.map (·.violation settings)) ∧
    (∀ rule edited, (∀ other, other ≠ rule → other.SeesSame settings edited) →
      edited.violations.filter (·.rule ≠ rule) = settings.violations.filter (·.rule ≠ rule) ∧
      (¬ rule.IsBroken edited →
        edited.violations = settings.violations.erase (rule.violation settings))) ∧
    (∀ rule : Rule, ¬ rule.IsBroken (rule.mend settings) ∧
      ∀ other, other ≠ rule → other.SeesSame settings (rule.mend settings)) ∧
    (settings.validate = .ok () ↔ settings.Usable) ∧
    ∀ (files : Files) (path : String), files.loadSettings path = .ok settings → settings.Usable := by
  refine ⟨?_, settings.exists_rules, ?_, ?_, validate_eq_ok_iff_usable, ?_⟩
  · rw [validate]
    cases settings.violations <;> rfl
  · intro rule edited h
    exact ⟨filter_violations_of_edit h, violations_of_repair h⟩
  · intro rule
    exact ⟨rule.not_isBroken_mend settings, fun other hne => Rule.seesSame_mend hne⟩
  · intro files path h
    exact usable_of_loadSettings h

theorem usable_default : ({} : Settings).Usable := by
  apply usable_of_not_isBroken
  intro rule
  have hmended : rule.mend {} = {} := by cases rule <;> simp [Rule.mend]
  have hkept := rule.not_isBroken_mend {}
  rwa [hmended] at hkept

end Settings

-- No command is run with settings that are not usable.
theorem Invocation.run_eq_failure_or_usable (files : Files) (chance : Random.Source)
    (explain : String → String) (invocation : Invocation) :
    invocation.run files chance explain = .failure ∨
      ∃ settings : Settings, settings.Usable ∧
        invocation.run files chance explain =
          invocation.command.run settings files chance explain := by
  unfold run
  cases invocation.settingsPath with
  | none => exact .inr ⟨{}, Settings.usable_default, rfl⟩
  | some path =>
    dsimp only
    cases hload : files.loadSettings path with
    | error error => exact .inl rfl
    | ok settings => exact .inr ⟨settings, Settings.usable_of_loadSettings hload, rfl⟩

end RpcRouting
