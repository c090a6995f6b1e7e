import RpcRouting.Lifecycle.Broadcast

namespace RpcRouting

-- What a listener finds when it looks for the signal.
inductive Reception where
  | signal
  | nothing
  | noListener
deriving Repr, DecidableEq

-- A listener that has fallen behind gets an error in the place of a signal.
def Reception.ofDelivery : Delivery → Reception
  | .message _ => .signal
  | .empty | .lagged _ => .nothing
  | .noReceiver => .noListener

-- Tells all listeners, once, that it is time to shut down. The channel has room for one message.
structure Shutdown where
  isTriggered : Bool := false
  channel : Broadcast := { capacity := 1 }
deriving Repr, DecidableEq

namespace Shutdown

-- A new listener. It hears only what comes after it.
def subscribe (shutdown : Shutdown) : Nat × Shutdown :=
  let (listener, channel) := shutdown.channel.subscribe
  (listener, { shutdown with channel })

-- Signals the listeners that are there. A second time does nothing.
def trigger (shutdown : Shutdown) : Shutdown :=
  if shutdown.isTriggered then shutdown else ⟨true, shutdown.channel.send⟩

-- Takes the signal, if it is there.
def receive (shutdown : Shutdown) (listener : Nat) : Reception × Shutdown :=
  let (found, channel) := shutdown.channel.receive listener
  (.ofDelivery found, { shutdown with channel })

-- Removes a listener. Says whether it was still there.
def drop (shutdown : Shutdown) (listener : Nat) : Bool × Shutdown :=
  let (wasThere, channel) := shutdown.channel.drop listener
  (wasThere, { shutdown with channel })

def listenerCount (shutdown : Shutdown) : Nat := shutdown.channel.receiverCount

-- What can be done with a shutdown and with the listeners it has given out.
inductive Operation where
  | subscribe
  | trigger
  | receive (listener : Nat)
  | drop (listener : Nat)
deriving Repr, DecidableEq

inductive Reply where
  | subscribed (listener : Nat)
  | triggered
  | received (listener : Nat) (found : Reception)
  | dropped (listener : Nat) (wasThere : Bool)
deriving Repr, DecidableEq

def perform (shutdown : Shutdown) : Operation → Reply × Shutdown
  | .subscribe =>
    let (listener, next) := shutdown.subscribe
    (.subscribed listener, next)
  | .trigger => (.triggered, shutdown.trigger)
  | .receive listener =>
    let (found, next) := shutdown.receive listener
    (.received listener found, next)
  | .drop listener =>
    let (wasThere, next) := shutdown.drop listener
    (.dropped listener wasThere, next)

-- Operations one after another, with their replies in order.
def run : Shutdown → List Operation → List Reply × Shutdown
  | shutdown, [] => ([], shutdown)
  | shutdown, first :: rest =>
    let (reply, next) := shutdown.perform first
    let (replies, last) := run next rest
    (reply :: replies, last)

end Shutdown

end RpcRouting
