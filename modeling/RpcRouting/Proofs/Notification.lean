import RpcRouting.Lifecycle.Shutdown
import RpcRouting.Proofs.Broadcast

namespace RpcRouting

-- Where a listener stands.
inductive Listener where
  | gone
  | waiting
  | signalled
deriving DecidableEq

namespace Listener

-- What becomes of a listener when the signal is given, and when it takes the signal.

def signal : Listener → Listener
  | .waiting => .signalled
  | listener => listener

def settle : Listener → Listener
  | .signalled => .waiting
  | listener => listener

theorem settle_of_ne_signalled {listener : Listener} (h : listener ≠ .signalled) :
    listener.settle = listener := by
  cases listener with
  | signalled => exact absurd rfl h
  | gone => rfl
  | waiting => rfl

end Listener

namespace Shutdown

variable {shutdown : Shutdown} {index : Nat} {operation : Operation} {operations : List Operation}

def listener (shutdown : Shutdown) (index : Nat) : Listener :=
  match shutdown.channel.next? index with
  | none => .gone
  | some next => if next < shutdown.channel.sent then .signalled else .waiting

theorem listener_congr {after : Shutdown}
    (hnext : after.channel.next? index = shutdown.channel.next? index)
    (hsent : after.channel.sent = shutdown.channel.sent) :
    after.listener index = shutdown.listener index := by
  unfold listener
  rw [hnext, hsent]

-- What holds of every shutdown that has come from operations: there is one message at most, and
-- none before the trigger.
structure Sound (shutdown : Shutdown) : Prop where
  capacity_eq : shutdown.channel.capacity = 1
  sent_le : shutdown.channel.sent ≤ 1
  sent_eq_zero : shutdown.isTriggered = false → shutdown.channel.sent = 0
  next_le : ∀ index next, shutdown.channel.next? index = some next → next ≤ shutdown.channel.sent

theorem Sound.start : Sound {} where
  capacity_eq := rfl
  sent_le := Nat.zero_le 1
  sent_eq_zero := fun _ => rfl
  next_le := by
    intro index next h
    simp [Broadcast.next?] at h

theorem listener_eq_signalled_iff :
    shutdown.listener index = .signalled ↔
      ∃ next, shutdown.channel.next? index = some next ∧ next < shutdown.channel.sent := by
  unfold listener
  cases h : shutdown.channel.next? index with
  | none => simp
  | some next => by_cases hlt : next < shutdown.channel.sent <;> simp [hlt]

theorem Sound.isTriggered_of_signalled (h : shutdown.Sound)
    (hl : shutdown.listener index = .signalled) : shutdown.isTriggered = true := by
  obtain ⟨next, -, hlt⟩ := listener_eq_signalled_iff.mp hl
  by_contra hn
  have hzero := h.sent_eq_zero (Bool.not_eq_true _ ▸ hn)
  omega

theorem lt_length_of_listener (h : shutdown.listener index ≠ .gone) :
    index < shutdown.channel.receivers.length := by
  cases hn : shutdown.channel.next? index with
  | none => exact absurd (by simp [listener, hn]) h
  | some next => exact Broadcast.lt_length_of_next? hn

theorem receive_of_gone (hl : shutdown.listener index = .gone) :
    shutdown.receive index = (.noListener, shutdown) := by
  have hn : shutdown.channel.next? index = none := by
    unfold listener at hl
    cases hn : shutdown.channel.next? index with
    | none => rfl
    | some next => by_cases hlt : next < shutdown.channel.sent <;> simp [hn, hlt] at hl
  simp [receive, Broadcast.receive, hn, Reception.ofDelivery]

theorem Sound.receive_of_waiting (h : shutdown.Sound) (hl : shutdown.listener index = .waiting) :
    shutdown.receive index = (.nothing, shutdown) := by
  unfold listener at hl
  cases hn : shutdown.channel.next? index with
  | none => simp [hn] at hl
  | some next =>
    have hge : ¬ next < shutdown.channel.sent := by
      intro hlt
      simp [hn, hlt] at hl
    have hle := h.next_le index next hn
    have he : next = shutdown.channel.sent := by omega
    simp [receive, Broadcast.receive, hn, he, Reception.ofDelivery]

-- Nobody is ever behind by more than the one message for which the channel has room.
theorem Sound.receive_of_signalled (h : shutdown.Sound)
    (hl : shutdown.listener index = .signalled) :
    shutdown.receive index =
      (.signal, { shutdown with
        channel := shutdown.channel.place index (some shutdown.channel.sent) }) := by
  obtain ⟨next, hn, hlt⟩ := listener_eq_signalled_iff.mp hl
  have hle := h.sent_le
  have hsent : shutdown.channel.sent = 1 := by omega
  have hzero : next = 0 := by omega
  simp [receive, Broadcast.receive, hn, h.capacity_eq, hsent, hzero, Reception.ofDelivery]

-- Looking without finding the signal leaves everything as it is.
theorem Sound.snd_receive_of_ne_signalled (h : shutdown.Sound)
    (hl : shutdown.listener index ≠ .signalled) : (shutdown.receive index).2 = shutdown := by
  cases hc : shutdown.listener index with
  | gone => rw [receive_of_gone hc]
  | waiting => rw [h.receive_of_waiting hc]
  | signalled => exact absurd hc hl

theorem Sound.not_lagged (h : shutdown.Sound) (index missed : Nat) :
    (shutdown.channel.receive index).1 ≠ .lagged missed := by
  have hle := h.sent_le
  unfold Broadcast.receive
  cases hn : shutdown.channel.next? index with
  | none => simp
  | some next =>
    have hkept : ¬ next < shutdown.channel.sent - shutdown.channel.capacity := by
      rw [h.capacity_eq]
      omega
    by_cases he : next = shutdown.channel.sent <;> simp [he, hkept]

-- A second message would be one too many for a listener that has not looked in between.
example : ((⟨1, 0, [some 0]⟩ : Broadcast).send.send.receive 0).1 = .lagged 1 := by decide

-- What each operation makes of a listener.

theorem listener_subscribe (shutdown : Shutdown) (index : Nat) :
    shutdown.subscribe.2.listener index =
      if index = shutdown.channel.receivers.length then .waiting else shutdown.listener index := by
  have hsent : shutdown.channel.subscribe.2.sent = shutdown.channel.sent := rfl
  simp only [listener, subscribe, Broadcast.next?_subscribe, hsent]
  by_cases he : index = shutdown.channel.receivers.length <;> simp [he]

theorem Sound.listener_trigger (h : shutdown.Sound) (hn : shutdown.isTriggered = false)
    (index : Nat) : shutdown.trigger.listener index = (shutdown.listener index).signal := by
  have hzero := h.sent_eq_zero hn
  simp only [trigger, hn, Bool.false_eq_true, if_false, listener, Broadcast.send]
  by_cases hcount : shutdown.channel.receiverCount = 0
  · have hnone : shutdown.channel.next? index = none := by
      cases hnext : shutdown.channel.next? index with
      | none => rfl
      | some next =>
        have hpos := Broadcast.receiverCount_pos hnext
        omega
    simp [hcount, hnone, Listener.signal]
  · have hnext : ∀ channel : Broadcast, { channel with sent := channel.sent + 1 }.next? index =
        channel.next? index := fun _ => rfl
    simp only [hcount, if_false, hnext]
    cases hi : shutdown.channel.next? index with
    | none => rfl
    | some next =>
      have hle := h.next_le index next hi
      have hnew : next < shutdown.channel.sent + 1 := by omega
      have hold : ¬ next < shutdown.channel.sent := by omega
      simp [hnew, hold, Listener.signal]

theorem trigger_of_isTriggered (h : shutdown.isTriggered = true) : shutdown.trigger = shutdown :=
  if_pos h

theorem Sound.listener_receive (h : shutdown.Sound) (index other : Nat) :
    (shutdown.receive index).2.listener other =
      if index = other then (shutdown.listener other).settle else shutdown.listener other := by
  by_cases hl : shutdown.listener index = .signalled
  · rw [h.receive_of_signalled hl]
    obtain ⟨next, hn, -⟩ := listener_eq_signalled_iff.mp hl
    by_cases he : index = other
    · subst he
      rw [if_pos rfl, hl]
      simp [listener, Broadcast.next?_place_self hn, Listener.settle]
    · rw [if_neg he]
      exact listener_congr (Broadcast.next?_place_of_ne he _) rfl
  · rw [h.snd_receive_of_ne_signalled hl]
    by_cases he : index = other
    · subst he
      rw [if_pos rfl, Listener.settle_of_ne_signalled hl]
    · rw [if_neg he]

theorem listener_drop (shutdown : Shutdown) (index other : Nat) :
    (shutdown.drop index).2.listener other =
      if index = other then .gone else shutdown.listener other := by
  have hsent : (shutdown.channel.drop index).2.sent = shutdown.channel.sent := rfl
  simp only [listener, drop, Broadcast.next?_drop, hsent]
  by_cases he : index = other <;> simp [he]

-- The same channel with the same messages, whose receivers have moved on as far as there are any.
theorem Sound.withChannel (h : shutdown.Sound) (channel : Broadcast)
    (hcapacity : channel.capacity = shutdown.channel.capacity)
    (hsent : channel.sent = shutdown.channel.sent)
    (hnext : ∀ index next, channel.next? index = some next → next ≤ channel.sent) :
    Sound { shutdown with channel } where
  capacity_eq := hcapacity.trans h.capacity_eq
  sent_le := hsent ▸ h.sent_le
  sent_eq_zero := fun hn => hsent.trans (h.sent_eq_zero hn)
  next_le := hnext

theorem Sound.subscribe (h : shutdown.Sound) : shutdown.subscribe.2.Sound := by
  refine h.withChannel shutdown.channel.subscribe.2 rfl rfl ?_
  intro index next hn
  rw [Broadcast.next?_subscribe] at hn
  by_cases he : index = shutdown.channel.receivers.length
  · rw [if_pos he] at hn
    exact Nat.le_of_eq (Option.some.inj hn).symm
  · rw [if_neg he] at hn
    exact h.next_le index next hn

theorem Sound.trigger (h : shutdown.Sound) : shutdown.trigger.Sound := by
  cases ht : shutdown.isTriggered with
  | true => rwa [trigger_of_isTriggered ht]
  | false =>
    have hzero := h.sent_eq_zero ht
    simp only [Shutdown.trigger, ht, Bool.false_eq_true, if_false]
    by_cases hcount : shutdown.channel.receiverCount = 0
    · simp only [Broadcast.send, hcount, if_true]
      exact ⟨h.capacity_eq, h.sent_le, fun _ => hzero, h.next_le⟩
    · simp only [Broadcast.send, hcount, if_false]
      refine ⟨h.capacity_eq, by simp [hzero], fun hn => Bool.noConfusion hn, ?_⟩
      exact fun index next hn => Nat.le_succ_of_le (h.next_le index next hn)

theorem Sound.receive (h : shutdown.Sound) (index : Nat) : (shutdown.receive index).2.Sound := by
  by_cases hl : shutdown.listener index = .signalled
  · rw [h.receive_of_signalled hl]
    obtain ⟨latest, hlatest, -⟩ := listener_eq_signalled_iff.mp hl
    refine h.withChannel _ rfl rfl ?_
    intro other next hn
    by_cases he : index = other
    · subst he
      rw [Broadcast.next?_place_self hlatest] at hn
      exact Nat.le_of_eq (Option.some.inj hn).symm
    · rw [Broadcast.next?_place_of_ne he] at hn
      exact h.next_le other next hn
  · rwa [h.snd_receive_of_ne_signalled hl]

theorem Sound.drop (h : shutdown.Sound) (index : Nat) : (shutdown.drop index).2.Sound := by
  refine h.withChannel (shutdown.channel.drop index).2 rfl rfl ?_
  intro other next hn
  rw [Broadcast.next?_drop] at hn
  by_cases he : index = other
  · rw [if_pos he] at hn
    cases hn
  · rw [if_neg he] at hn
    exact h.next_le other next hn

theorem Sound.perform (h : shutdown.Sound) (operation : Operation) :
    (shutdown.perform operation).2.Sound := by
  cases operation with
  | subscribe => exact h.subscribe
  | trigger => exact h.trigger
  | receive index => exact h.receive index
  | drop index => exact h.drop index

theorem Sound.run (h : shutdown.Sound) (operations : List Operation) :
    (shutdown.run operations).2.Sound := by
  induction operations generalizing shutdown with
  | nil => exact h
  | cons first rest ih => exact ih (h.perform first)

theorem run_append (shutdown : Shutdown) (earlier later : List Operation) :
    shutdown.run (earlier ++ later) =
      ((shutdown.run earlier).1 ++ ((shutdown.run earlier).2.run later).1,
        ((shutdown.run earlier).2.run later).2) := by
  induction earlier generalizing shutdown with
  | nil => rfl
  | cons first rest ih => simp only [List.cons_append, Shutdown.run, ih]

theorem length_run (shutdown : Shutdown) (operations : List Operation) :
    (shutdown.run operations).1.length = operations.length := by
  induction operations generalizing shutdown with
  | nil => rfl
  | cons first rest ih => simp only [Shutdown.run, List.length_cons, ih]

theorem isTriggered_perform (shutdown : Shutdown) (operation : Operation) :
    (shutdown.perform operation).2.isTriggered = true ↔
      shutdown.isTriggered = true ∨ operation = .trigger := by
  cases operation with
  | trigger => cases ht : shutdown.isTriggered <;> simp [Shutdown.perform, Shutdown.trigger, ht]
  | _ => simp [Shutdown.perform, Shutdown.subscribe, Shutdown.receive, Shutdown.drop]

theorem isTriggered_run (shutdown : Shutdown) (operations : List Operation) :
    (shutdown.run operations).2.isTriggered = true ↔
      shutdown.isTriggered = true ∨ .trigger ∈ operations := by
  induction operations generalizing shutdown with
  | nil => simp [Shutdown.run]
  | cons first rest ih =>
    change ((shutdown.perform first).2.run rest).2.isTriggered = true ↔ _
    rw [ih, isTriggered_perform, List.mem_cons, or_assoc, @eq_comm _ first]

-- Whether a listener has gone with this.
def Reply.hasDropped : Reply → Bool
  | .dropped _ wasThere => wasThere
  | _ => false

theorem listenerCount_perform (shutdown : Shutdown) (operation : Operation) :
    (shutdown.perform operation).2.listenerCount +
        (if (shutdown.perform operation).1.hasDropped then 1 else 0) =
      shutdown.listenerCount + if operation = .subscribe then 1 else 0 := by
  cases operation with
  | subscribe => exact Broadcast.receiverCount_subscribe shutdown.channel
  | trigger =>
    have htrigger : shutdown.trigger.listenerCount = shutdown.listenerCount := by
      unfold Shutdown.trigger Broadcast.send
      split
      · rfl
      · split <;> rfl
    exact htrigger
  | receive index => exact Broadcast.receiverCount_receive shutdown.channel index
  | drop index => exact Broadcast.receiverCount_drop shutdown.channel index

theorem listenerCount_run (shutdown : Shutdown) (operations : List Operation) :
    (shutdown.run operations).2.listenerCount +
        (shutdown.run operations).1.countP (·.hasDropped) =
      shutdown.listenerCount + operations.count .subscribe := by
  induction operations generalizing shutdown with
  | nil => rfl
  | cons first rest ih =>
    have hfirst := listenerCount_perform shutdown first
    have hrest := ih (shutdown.perform first).2
    simp only [Shutdown.run, List.countP_cons, List.count_cons, beq_iff_eq]
    omega

-- What a listener finds, one time after another.

def Reply.reception? (index : Nat) : Reply → Option Reception
  | .received listener found => if listener = index then some found else none
  | _ => none

def receptions (shutdown : Shutdown) (index : Nat) (operations : List Operation) :
    List Reception :=
  (shutdown.run operations).1.filterMap (·.reception? index)

theorem receptions_cons (shutdown : Shutdown) (index : Nat) (first : Operation)
    (rest : List Operation) :
    shutdown.receptions index (first :: rest) =
      ((shutdown.perform first).1.reception? index).toList ++
        (shutdown.perform first).2.receptions index rest := by
  simp only [receptions, Shutdown.run, List.filterMap_cons]
  cases (shutdown.perform first).1.reception? index <;> rfl

theorem receptions_append (shutdown : Shutdown) (index : Nat) (earlier later : List Operation) :
    shutdown.receptions index (earlier ++ later) =
      shutdown.receptions index earlier ++
        (shutdown.run earlier).2.receptions index later := by
  simp only [receptions, run_append, List.filterMap_append]

-- Operations on others, and a trigger that comes again, do not concern a listener.
theorem Sound.bystander (h : shutdown.Sound) (hl : shutdown.listener index ≠ .gone)
    (ht : shutdown.isTriggered = true ∨ operation ≠ .trigger)
    (hr : operation ≠ .receive index) (hd : operation ≠ .drop index) :
    (shutdown.perform operation).1.reception? index = none ∧
      (shutdown.perform operation).2.listener index = shutdown.listener index := by
  cases operation with
  | subscribe =>
    have hlt := lt_length_of_listener hl
    refine ⟨rfl, ?_⟩
    change shutdown.subscribe.2.listener index = _
    rw [listener_subscribe, if_neg (Nat.ne_of_lt hlt)]
  | trigger =>
    have htriggered : shutdown.isTriggered = true := by simpa using ht
    refine ⟨rfl, ?_⟩
    change shutdown.trigger.listener index = _
    rw [trigger_of_isTriggered htriggered]
  | receive other =>
    have hne : other ≠ index := fun he => hr (he ▸ rfl)
    refine ⟨if_neg hne, ?_⟩
    change (shutdown.receive other).2.listener index = _
    rw [h.listener_receive, if_neg hne]
  | drop other =>
    have hne : other ≠ index := fun he => hd (he ▸ rfl)
    refine ⟨rfl, ?_⟩
    change (shutdown.drop other).2.listener index = _
    rw [listener_drop, if_neg hne]

-- Where no signal comes, nothing is found, however often.
theorem Sound.receptions_of_waiting (h : shutdown.Sound)
    (hl : shutdown.listener index = .waiting)
    (ht : shutdown.isTriggered = true ∨ .trigger ∉ operations)
    (hd : .drop index ∉ operations) :
    shutdown.receptions index operations =
        List.replicate (operations.count (.receive index)) .nothing ∧
      (shutdown.run operations).2.listener index = .waiting := by
  induction operations generalizing shutdown with
  | nil => exact ⟨rfl, hl⟩
  | cons first rest ih =>
    simp only [List.mem_cons, not_or] at ht hd
    have hnext : (shutdown.perform first).2.isTriggered = true ∨ .trigger ∉ rest := by
      rw [isTriggered_perform]
      rcases ht with ht | ⟨-, ht⟩
      · exact .inl (.inl ht)
      · exact .inr ht
    have hother := ih (h.perform first)
    rw [receptions_cons, List.count_cons]
    by_cases hr : first = .receive index
    · subst hr
      have hreceive := h.receive_of_waiting hl
      have hreply : (shutdown.perform (.receive index)) =
          (.received index .nothing, shutdown) := by
        simp only [Shutdown.perform, hreceive]
      rw [hreply] at hother hnext
      obtain ⟨hrest, hlast⟩ := hother hl hnext hd.2
      refine ⟨?_, by simpa only [Shutdown.run, hreply] using hlast⟩
      rw [hreply, hrest]
      simp [Reply.reception?, List.replicate_succ]
    · have hsame : shutdown.isTriggered = true ∨ first ≠ .trigger := by
        rcases ht with ht | ⟨ht, -⟩
        · exact .inl ht
        · exact .inr fun he => ht he.symm
      obtain ⟨hnone, hlistener⟩ := h.bystander (by rw [hl]; simp) hsame hr fun he => hd.1 he.symm
      obtain ⟨hrest, hlast⟩ := hother (hlistener.trans hl) hnext hd.2
      refine ⟨?_, hlast⟩
      simp [hnone, hrest, hr]

-- What is found by looking so many times for a signal that is there.
def signalOnce : Nat → List Reception
  | 0 => []
  | looks + 1 => .signal :: List.replicate looks .nothing

theorem Sound.receptions_of_signalled (h : shutdown.Sound)
    (hl : shutdown.listener index = .signalled) (hd : .drop index ∉ operations) :
    shutdown.receptions index operations = signalOnce (operations.count (.receive index)) := by
  have ht := h.isTriggered_of_signalled hl
  induction operations generalizing shutdown with
  | nil => rfl
  | cons first rest ih =>
    simp only [List.mem_cons, not_or] at hd
    have hnext : (shutdown.perform first).2.isTriggered = true := by
      rw [isTriggered_perform]
      exact .inl ht
    rw [receptions_cons, List.count_cons]
    by_cases hr : first = .receive index
    · subst hr
      -- from here on, the listener waits for a signal that does not come again
      have hlistener : (shutdown.perform (.receive index)).2.listener index = .waiting := by
        change (shutdown.receive index).2.listener index = _
        rw [h.listener_receive, if_pos rfl, hl]
        rfl
      have hreply : (shutdown.perform (.receive index)).1 = .received index .signal := by
        simp only [Shutdown.perform, h.receive_of_signalled hl]
      obtain ⟨hrest, -⟩ :=
        (h.perform (.receive index)).receptions_of_waiting hlistener (.inl hnext) hd.2
      rw [hreply, hrest]
      simp [Reply.reception?, signalOnce]
    · obtain ⟨hnone, hlistener⟩ :=
        h.bystander (by rw [hl]; simp) (.inl ht) hr fun he => hd.1 he.symm
      have hrest := ih (h.perform first) (hlistener.trans hl) hd.2 hnext
      simp [hnone, hrest, hr]

-- How many signals a listener may still get, whether it is there or not.
def signalsLeft (shutdown : Shutdown) (index : Nat) : Nat :=
  if shutdown.listener index = .signalled then 1 else if shutdown.isTriggered then 0 else 1

-- One that has yet to come can hear a trigger that has yet to be pulled.
theorem signalsLeft_of_new_le (shutdown : Shutdown) (index : Nat) :
    (if shutdown.isTriggered then 0 else 1) ≤ shutdown.signalsLeft index := by
  unfold signalsLeft
  cases shutdown.isTriggered <;> split <;> simp

theorem Sound.signalsLeft_perform (h : shutdown.Sound) (index : Nat) (operation : Operation) :
    (shutdown.perform operation).2.signalsLeft index +
        (if (shutdown.perform operation).1 = .received index .signal then 1 else 0) ≤
      shutdown.signalsLeft index := by
  have hnew := shutdown.signalsLeft_of_new_le index
  unfold signalsLeft at hnew ⊢
  cases operation with
  | subscribe =>
    have hlistener := listener_subscribe shutdown index
    have htriggered : shutdown.subscribe.2.isTriggered = shutdown.isTriggered := rfl
    simp only [Shutdown.perform, hlistener, htriggered]
    by_cases he : index = shutdown.channel.receivers.length
    · simpa [he] using hnew
    · simp [he]
  | trigger =>
    cases ht : shutdown.isTriggered with
    | true => simp [Shutdown.perform, trigger_of_isTriggered ht, ht]
    | false =>
      have htriggered : shutdown.trigger.isTriggered = true := by
        simp [Shutdown.trigger, ht]
      simp only [Shutdown.perform, htriggered]
      split <;> simp
  | receive other =>
    have hlistener := h.listener_receive other index
    have htriggered : (shutdown.receive other).2.isTriggered = shutdown.isTriggered := rfl
    simp only [Shutdown.perform, hlistener, htriggered]
    by_cases he : other = index
    · subst he
      cases hl : shutdown.listener other with
      | gone => simp [receive_of_gone hl, Listener.settle]
      | waiting => simp [h.receive_of_waiting hl, Listener.settle]
      | signalled =>
        simp [h.receive_of_signalled hl, Listener.settle, h.isTriggered_of_signalled hl]
    · simp [he]
  | drop other =>
    have hlistener := listener_drop shutdown other index
    have htriggered : (shutdown.drop other).2.isTriggered = shutdown.isTriggered := rfl
    simp only [Shutdown.perform, hlistener, htriggered]
    by_cases he : other = index
    · simpa [he] using hnew
    · simp [he]

theorem Sound.count_signal_run (h : shutdown.Sound) (index : Nat) (operations : List Operation) :
    (shutdown.run operations).1.count (.received index .signal) ≤ shutdown.signalsLeft index := by
  induction operations generalizing shutdown with
  | nil => exact Nat.zero_le _
  | cons first rest ih =>
    have hfirst := h.signalsLeft_perform index first
    have hrest := ih (h.perform first)
    simp only [Shutdown.run, List.count_cons, beq_iff_eq]
    omega

-- What a listener finds from its subscription on.
theorem receptions_from_subscribe (before after : List Operation) :
    let index := (run {} before).2.subscribe.1
    let joined := (run {} before).2.subscribe.2
    .drop index ∉ after →
      (∀ early late, .trigger ∉ before → .trigger ∉ early → after = early ++ .trigger :: late →
        joined.receptions index after =
          List.replicate (early.count (.receive index)) .nothing ++
            signalOnce (late.count (.receive index))) ∧
      (.trigger ∈ before ∨ .trigger ∉ after →
        joined.receptions index after =
          List.replicate (after.count (.receive index)) .nothing) := by
  intro index joined hdrop
  have hjoined : joined.Sound := (Sound.start.run before).subscribe
  have hlistener : joined.listener index = .waiting :=
    (listener_subscribe _ _).trans (if_pos rfl)
  have htriggered : joined.isTriggered = true ↔ .trigger ∈ before := by
    change (run {} before).2.isTriggered = true ↔ _
    simpa using isTriggered_run {} before
  constructor
  · rintro early late hb he rfl
    simp only [List.mem_append, List.mem_cons, not_or] at hdrop
    obtain ⟨hearly, hwaiting⟩ := hjoined.receptions_of_waiting hlistener (.inr he) hdrop.1
    have hearlier := hjoined.run early
    have hnot : (joined.run early).2.isTriggered = false := by
      rw [← Bool.not_eq_true, isTriggered_run, htriggered]
      exact fun h => h.elim hb he
    have hsignalled := hearlier.listener_trigger hnot index
    rw [hwaiting] at hsignalled
    rw [receptions_append, hearly, receptions_cons]
    congr 1
    exact hearlier.trigger.receptions_of_signalled hsignalled hdrop.2.2
  · intro ht
    exact (hjoined.receptions_of_waiting hlistener (ht.imp htriggered.mpr id) hdrop).1

-- The replies of a run from one subscription on.
theorem run_from_subscribe (before after : List Operation) :
    let index := (run {} before).2.subscribe.1
    let joined := (run {} before).2.subscribe.2
    (run {} (before ++ .subscribe :: after)).1 =
      (run {} before).1 ++ .subscribed index :: (joined.run after).1 := by
  rw [run_append]
  rfl

-- Over any operations, listeners are told once. One that came before the first trigger finds
-- nothing until then, the signal the next time it looks, and nothing after that. One that came
-- later finds nothing. However often the trigger is pulled, nobody falls behind, and the listeners
-- counted are those that came and have not gone.
theorem notified_once (operations : List Operation) :
    let replies := (run {} operations).1
    let reached := (run {} operations).2
    ((reached.isTriggered = true ↔ .trigger ∈ operations) ∧
      ∀ more, reached.isTriggered = true → (reached.run more).2.isTriggered = true) ∧
    (∀ before after, operations = before ++ .subscribe :: after →
      ∃ index, replies[before.length]? = some (.subscribed index) ∧
        let receptions := (replies.drop (before.length + 1)).filterMap (·.reception? index)
        (.drop index ∉ after →
          (∀ early late, .trigger ∉ before → .trigger ∉ early → after = early ++ .trigger :: late →
            receptions = List.replicate (early.count (.receive index)) .nothing ++
              signalOnce (late.count (.receive index))) ∧
          (.trigger ∈ before ∨ .trigger ∉ after →
            receptions = List.replicate (after.count (.receive index)) .nothing))) ∧
    (∀ index, replies.count (.received index .signal) ≤ 1) ∧
    (∀ index missed, (reached.channel.receive index).1 ≠ .lagged missed) ∧
    reached.listenerCount + replies.countP (·.hasDropped) = operations.count .subscribe := by
  have hsound := Sound.start.run operations
  refine ⟨⟨?_, ?_⟩, ?_, ?_, ?_, ?_⟩
  · simpa using isTriggered_run {} operations
  · exact fun more ht => (isTriggered_run _ more).mpr (.inl ht)
  · rintro before after rfl
    refine ⟨(run {} before).2.subscribe.1, ?_, ?_⟩
    · rw [run_from_subscribe, ← length_run {} before]
      simp
    · rw [run_from_subscribe, ← length_run {} before, List.drop_length_add_append]
      exact receptions_from_subscribe before after
  · exact fun index => Sound.start.count_signal_run index operations
  · exact fun index missed => hsound.not_lagged index missed
  · have hcount := listenerCount_run {} operations
    have hnone : ({} : Shutdown).listenerCount = 0 := rfl
    rwa [hnone, Nat.zero_add] at hcount

end Shutdown

end RpcRouting
