import PipeBus.Frame.Error

/-!
A byte stream to read from, as the list of what it has in store. A read takes
from the first entry; after the last one the stream has ended for good.
-/
namespace PipeBus

/-- What a stream has in store for its reader. -/
inductive Supply where
  /-- Bytes, handed out in order; no bytes at all are an end of the stream. -/
  | bytes (content : Bytes)
  | fault (fault : Fault)
  deriving DecidableEq

/-- The rest of a stream. -/
abbrev Source := List Supply

namespace Source

/-- Read at most `limit` bytes. Bytes that do not fit stay in front. -/
def read (limit : Nat) : Source → Except Fault Bytes × Source
  | [] => (.ok [], [])
  | .fault fault :: rest => (.error fault, rest)
  | .bytes content :: rest =>
    if content.length ≤ limit then (.ok content, rest)
    else (.ok (content.take limit), .bytes (content.drop limit) :: rest)

/-- An upper bound on the work left in a stream: every byte counts twice, every entry once. -/
def weight : Source → Nat
  | [] => 0
  | .fault _ :: rest => 1 + weight rest
  | .bytes content :: rest => 2 * content.length + 1 + weight rest

theorem weight_read_bytes {limit : Nat} {source rest : Source} {content : Bytes}
    (found : source.read limit = (.ok content, rest)) (some_ : content ≠ []) :
    weight rest + 2 * content.length ≤ weight source := by
  unfold read at found
  split at found
  · cases found; exact absurd rfl some_
  · cases found
  · rename_i front later
    split at found
    · cases found; simp only [weight]; omega
    · cases found
      simp only [weight, List.length_take, List.length_drop]
      omega

theorem weight_read_fault {limit : Nat} {source rest : Source} {fault : Fault}
    (found : source.read limit = (.error fault, rest)) : weight rest < weight source := by
  unfold read at found
  split at found
  · cases found
  · cases found; simp only [weight]; omega
  · split at found <;> cases found

end Source

end PipeBus
