import StoreGate.Bits
/-!
# Lengths of time
-/

namespace StoreGate

def nanosecondsPerSecond : Nat := 1000000000

def nanosecondsPerMillisecond : Nat := 1000000

/-- A length of time, in nanoseconds. -/
structure Duration where
  nanoseconds : Nat
  deriving DecidableEq, Repr, Inhabited

namespace Duration

def zero : Duration := ⟨0⟩

def ofMilliseconds (count : Nat) : Duration := ⟨count * nanosecondsPerMillisecond⟩

def ofSeconds (count : Nat) : Duration := ⟨count * nanosecondsPerSecond⟩

/-- The longest time there is: 2 ^ 64 seconds less a nanosecond. -/
def longest : Duration := ⟨bitLimit 64 * nanosecondsPerSecond - 1⟩

def isZero (time : Duration) : Bool :=
  time.nanoseconds = 0

/-- The whole seconds of a time. -/
def seconds (time : Duration) : Nat :=
  time.nanoseconds / nanosecondsPerSecond

def milliseconds (time : Duration) : Nat :=
  time.nanoseconds / nanosecondsPerMillisecond

end Duration

end StoreGate
