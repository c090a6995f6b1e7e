import RpcRouting.Lifecycle.Broadcast
import Mathlib.Data.List.Basic

namespace RpcRouting.Broadcast

variable {channel : Broadcast} {receiver other next : Nat}

theorem next?_eq_some_iff :
    channel.next? receiver = some next ↔ channel.receivers[receiver]? = some (some next) := by
  rw [next?, Option.join_eq_some_iff]

theorem lt_length_of_next? (h : channel.next? receiver = some next) :
    receiver < channel.receivers.length := by
  obtain ⟨hlt, -⟩ := List.getElem?_eq_some_iff.mp (next?_eq_some_iff.mp h)
  exact hlt

theorem next?_subscribe (channel : Broadcast) (receiver : Nat) :
    channel.subscribe.2.next? receiver =
      if receiver = channel.receivers.length then some channel.sent
      else channel.next? receiver := by
  simp only [subscribe, next?, List.getElem?_append]
  by_cases hlt : receiver < channel.receivers.length
  · rw [if_pos hlt, if_neg (Nat.ne_of_lt hlt)]
  · rw [if_neg hlt]
    by_cases he : receiver = channel.receivers.length
    · simp [he]
    · have hgt : channel.receivers.length < receiver := by omega
      have hpos : receiver - channel.receivers.length ≠ 0 := by omega
      simp [he, hpos, Nat.le_of_lt hgt]

@[simp] theorem sent_place (channel : Broadcast) (receiver : Nat) (after : Option Nat) :
    (channel.place receiver after).sent = channel.sent := rfl

theorem next?_place_self (h : channel.next? receiver = some next) (after : Option Nat) :
    (channel.place receiver after).next? receiver = after := by
  simp [place, next?, lt_length_of_next? h]

theorem next?_place_of_ne (h : receiver ≠ other) (after : Option Nat) :
    (channel.place receiver after).next? other = channel.next? other := by
  simp [place, next?, List.getElem?_set_ne h]

theorem next?_drop (channel : Broadcast) (receiver other : Nat) :
    (channel.drop receiver).2.next? other =
      if receiver = other then none else channel.next? other := by
  by_cases h : receiver = other
  · subst h
    rw [if_pos rfl, drop, place, next?, List.getElem?_set_self']
    cases channel.receivers[receiver]? <;> rfl
  · rw [if_neg h]
    exact next?_place_of_ne h none

theorem receiverCount_pos (h : channel.next? receiver = some next) : 0 < channel.receiverCount := by
  have hmem := List.mem_of_getElem? (next?_eq_some_iff.mp h)
  exact List.countP_pos_iff.mpr ⟨_, hmem, rfl⟩

theorem receiverCount_subscribe (channel : Broadcast) :
    channel.subscribe.2.receiverCount = channel.receiverCount + 1 := by
  simp [subscribe, receiverCount]

-- One receiver less, or one that stands elsewhere.
theorem receiverCount_place (h : channel.next? receiver = some next) (after : Option Nat) :
    (channel.place receiver after).receiverCount + 1 =
      channel.receiverCount + if after.isSome then 1 else 0 := by
  have hpos := receiverCount_pos h
  obtain ⟨hlt, hget⟩ := List.getElem?_eq_some_iff.mp (next?_eq_some_iff.mp h)
  simp only [receiverCount, place] at hpos ⊢
  rw [List.countP_set hlt, hget, if_pos (Option.isSome_some)]
  omega

theorem receiverCount_receive (channel : Broadcast) (receiver : Nat) :
    (channel.receive receiver).2.receiverCount = channel.receiverCount := by
  unfold receive
  cases h : channel.next? receiver with
  | none => rfl
  | some next =>
    have hplace (later : Nat) : (channel.place receiver (some later)).receiverCount =
        channel.receiverCount := by
      have hcount := receiverCount_place h (some later)
      simpa using hcount
    dsimp only
    split
    · rfl
    · split
      · exact hplace _
      · exact hplace _

theorem receiverCount_drop (channel : Broadcast) (receiver : Nat) :
    (channel.drop receiver).2.receiverCount + (if (channel.drop receiver).1 then 1 else 0) =
      channel.receiverCount := by
  cases h : channel.next? receiver with
  | some next =>
    have hcount := receiverCount_place h none
    simpa [drop, h] using hcount
  | none =>
    have hset : channel.receivers.set receiver none = channel.receivers := by
      by_cases hlt : receiver < channel.receivers.length
      · have hget : channel.receivers[receiver] = none := by
          simpa [next?, hlt] using h
        conv_lhs => rw [← hget]
        exact List.set_getElem_self hlt
      · exact List.set_eq_of_length_le (Nat.not_lt.mp hlt)
    simp [drop, place, h, hset]

end RpcRouting.Broadcast
