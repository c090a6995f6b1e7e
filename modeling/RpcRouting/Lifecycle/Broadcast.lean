namespace RpcRouting

-- What a receiver finds when it looks for a message. Messages are numbered from zero.
inductive Delivery where
  | message (number : Nat)
  | empty
  -- so many messages were overwritten before the receiver came to them
  | lagged (missed : Nat)
  | noReceiver
deriving Repr, DecidableEq

-- A channel on which every message goes to all receivers. It keeps the latest messages, as many as
-- its capacity. Messages carry nothing but their number.
structure Broadcast where
  capacity : Nat
  -- how many messages have been sent
  sent : Nat := 0
  -- the number of the message that each receiver takes next, or none once it is gone
  receivers : List (Option Nat) := []
deriving Repr, DecidableEq

namespace Broadcast

def receiverCount (channel : Broadcast) : Nat := channel.receivers.countP (·.isSome)

-- The next message for a receiver, if there is such a receiver.
def next? (channel : Broadcast) (receiver : Nat) : Option Nat := channel.receivers[receiver]?.join

def place (channel : Broadcast) (receiver : Nat) (next : Option Nat) : Broadcast :=
  { channel with receivers := channel.receivers.set receiver next }

-- A new receiver. It gets only what is sent after it.
def subscribe (channel : Broadcast) : Nat × Broadcast :=
  (channel.receivers.length,
    { channel with receivers := channel.receivers ++ [some channel.sent] })

-- Without a receiver nothing is sent.
def send (channel : Broadcast) : Broadcast :=
  if channel.receiverCount = 0 then channel else { channel with sent := channel.sent + 1 }

-- Takes the next message. A receiver whose next message is no longer kept goes on with the oldest
-- that is.
def receive (channel : Broadcast) (receiver : Nat) : Delivery × Broadcast :=
  match channel.next? receiver with
  | none => (.noReceiver, channel)
  | some next =>
    let oldest := channel.sent - channel.capacity
    if next = channel.sent then (.empty, channel)
    else if next < oldest then (.lagged (oldest - next), channel.place receiver (some oldest))
    else (.message next, channel.place receiver (some (next + 1)))

-- Removes a receiver. Says whether it was still there.
def drop (channel : Broadcast) (receiver : Nat) : Bool × Broadcast :=
  ((channel.next? receiver).isSome, channel.place receiver none)

end Broadcast

end RpcRouting
