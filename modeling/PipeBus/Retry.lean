/-!
When a frame that asks for an acknowledgement is sent again.

The first wait is followed by waits twice as long each, for as long as they stay
below a limit. `Retry.delays` lists the waits, one per send.
-/
namespace PipeBus

/-- A length of time in nanoseconds. -/
abbrev Duration := Nat

namespace Duration

def ofMicros (micros : Nat) : Duration := micros * 1000

def ofMillis (millis : Nat) : Duration := millis * 1000000

/-- The longest length of time: 64 bits of seconds, less a nanosecond short of another one. -/
def longest : Duration := UInt64.size * 1000000000 - 1

/-- The sum of lengths of time, unless it is longer than the longest. -/
def sum? (delays : List Duration) : Option Duration :=
  delays.foldlM (fun total delay =>
    if total + delay ≤ longest then some (total + delay) else none) 0

end Duration

/-- The waits for an acknowledgement. -/
structure RetryPolicy where
  /-- Wait after the first send, at least a millisecond. -/
  initialBackoff : Duration := Duration.ofMillis 10
  /-- Waits at or above this end the retries. -/
  backoffLimit : Duration := Duration.ofMillis 1500

namespace RetryPolicy

/-- A wait and its doublings, as long as they are below the limit and representable. -/
def doublings (limit delay : Duration) : List Duration :=
  if _bounds : 0 < delay ∧ delay < limit then
    delay :: if 2 * delay ≤ Duration.longest then doublings limit (2 * delay) else []
  else []
termination_by limit - delay
decreasing_by
  have := _bounds.1
  have := _bounds.2
  simp only [Duration] at *
  omega

def first (policy : RetryPolicy) : Duration := max policy.initialBackoff (Duration.ofMillis 1)

/-- The waits, one per send. -/
def delays (policy : RetryPolicy) : List Duration := doublings policy.backoffLimit policy.first

/-- Sends before giving up. -/
def attempts (policy : RetryPolicy) : Nat := policy.delays.length

/-- The longest time that all sends together wait, if it is a length of time. -/
def budget? (policy : RetryPolicy) : Option Duration := Duration.sum? policy.delays

/-- The longest time that all sends together wait; zero where that is no length of time. -/
def budget (policy : RetryPolicy) : Duration := policy.budget?.getD 0

end RetryPolicy

end PipeBus
