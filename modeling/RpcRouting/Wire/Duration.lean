namespace RpcRouting.Wire

-- A length of time as it is sent. The two parts need not agree in sign, and `nanos` may be more
-- than a second.
structure Duration where
  seconds : Int64 := 0
  nanos : Int32 := 0
deriving Repr, DecidableEq

namespace Duration

def nanosPerSecond : Int := 1000000000

-- The 64-bit integer nearest to `n`.
def saturate (n : Int) : Int64 :=
  .ofInt (max Int64.minValue.toInt (min Int64.maxValue.toInt n))

def ofSeconds (seconds : Int64) : Duration := ⟨seconds, 0⟩

-- Both parts take the sign of the whole.
def ofNanos (nanos : Int64) : Duration :=
  ⟨.ofInt (nanos.toInt.tdiv nanosPerSecond), .ofInt (nanos.toInt.tmod nanosPerSecond)⟩

def ofMicros (micros : Int64) : Duration := ofNanos (saturate (micros.toInt * 1000))

def isZero (d : Duration) : Bool := d.seconds = 0 && d.nanos = 0

-- The length in nanoseconds. The seconds are brought into range before the nanoseconds are added,
-- and the sum again.
def asNanos (d : Duration) : Int64 :=
  saturate ((saturate (d.seconds.toInt * nanosPerSecond)).toInt + d.nanos.toInt)

end Duration

end RpcRouting.Wire
