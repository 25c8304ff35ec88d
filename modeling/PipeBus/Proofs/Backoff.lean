import Mathlib.Algebra.Order.Ring.Nat
import Mathlib.Order.Nat
import PipeBus.Retry

/-! The waits of a retry policy in closed form. They are the doublings of the first wait that are
below the limit: since no limit is longer than the longest length of time, doubling cannot run over
it before the limit is reached. Main statement: there are as many waits as doublings take to reach
the limit, and together they take less than twice the limit (`RetryPolicy.waits_double`). -/

namespace PipeBus

namespace Duration

/-- Adding up stops at the first sum that is too long, and sums only grow. -/
theorem foldlM_sum (delays : List Duration) (start : Duration) (representable : start ≤ longest) :
    delays.foldlM (fun total delay =>
        if total + delay ≤ longest then some (total + delay) else none) start =
      if start + delays.sum ≤ longest then some (start + delays.sum) else none := by
  induction delays generalizing start with
  | nil => simp [representable]
  | cons delay rest ih =>
    rw [List.foldlM_cons, List.sum_cons, ← Nat.add_assoc]
    by_cases fits : start + delay ≤ longest
    · rw [if_pos fits]
      exact ih (start + delay) fits
    · have long : ¬ start + delay + rest.sum ≤ longest := fun all =>
        fits (Nat.le_trans (Nat.le_add_right _ _) all)
      rw [if_neg fits, if_neg long]
      rfl

theorem sum?_eq (delays : List Duration) :
    sum? delays = if delays.sum ≤ longest then some delays.sum else none := by
  have folded := foldlM_sum delays 0 (Nat.zero_le _)
  rwa [Nat.zero_add] at folded

end Duration

namespace RetryPolicy

variable {limit delay : Duration} {rounds : Nat}

/-- A length of time and its doublings. -/
def doubled (delay : Duration) (rounds : Nat) : List Duration :=
  (List.range rounds).map fun round => delay * 2 ^ round

theorem two_mul_mul_two_pow (delay : Duration) (round : Nat) :
    2 * delay * 2 ^ round = delay * 2 ^ (round + 1) := by
  rw [Nat.pow_succ', Nat.mul_left_comm, Nat.mul_assoc]

theorem doubled_succ (delay : Duration) (rounds : Nat) :
    doubled delay (rounds + 1) = delay :: doubled (2 * delay) rounds := by
  rw [doubled, List.range_succ_eq_map, List.map_cons, List.map_map, Nat.pow_zero, Nat.mul_one]
  congr 1
  exact List.map_congr_left fun round _ => (two_mul_mul_two_pow delay round).symm

/-- Doubling a wait gives just the doublings that are below the limit. If one of them is too long to
be represented, so that doubling ends, it is not below the limit either. -/
theorem doublings_eq (positive : 0 < delay) (representable : limit ≤ Duration.longest)
    (reached : limit ≤ delay * 2 ^ rounds) (below : ∀ round < rounds, delay * 2 ^ round < limit) :
    doublings limit delay = doubled delay rounds := by
  induction rounds generalizing delay with
  | zero =>
    rw [Nat.pow_zero, Nat.mul_one] at reached
    rw [doublings, dif_neg fun bounds => Nat.not_lt.mpr reached bounds.2]
    rfl
  | succ rounds ih =>
    have front := below 0 (Nat.succ_pos _)
    rw [Nat.pow_zero, Nat.mul_one] at front
    rw [doublings, dif_pos ⟨positive, front⟩, doubled_succ]
    congr 1
    by_cases fits : 2 * delay ≤ Duration.longest
    · rw [if_pos fits]
      apply ih (Nat.mul_pos (by decide) positive)
      · rwa [two_mul_mul_two_pow]
      · intro round earlier
        rw [two_mul_mul_two_pow]
        exact below (round + 1) (Nat.succ_lt_succ earlier)
    · rw [if_neg fits]
      cases rounds with
      | zero => rfl
      | succ rounds =>
        -- The second wait would be below the limit, and so be representable.
        have second := below 1 (by omega)
        rw [Nat.pow_one, Nat.mul_comm] at second
        exact absurd (Nat.le_trans (Nat.le_of_lt second) representable) fits

/-- One more wait as long as the first would make up the next doubling. -/
theorem sum_doubled_add (delay : Duration) (rounds : Nat) :
    (doubled delay rounds).sum + delay = delay * 2 ^ rounds := by
  induction rounds generalizing delay with
  | zero => simp [doubled]
  | succ rounds ih =>
    calc (doubled delay (rounds + 1)).sum + delay
        = delay + (doubled (2 * delay) rounds).sum + delay := by rw [doubled_succ, List.sum_cons]
      _ = (doubled (2 * delay) rounds).sum + 2 * delay := by
        rw [Nat.add_comm delay, Nat.add_assoc, Nat.two_mul]
      _ = 2 * delay * 2 ^ rounds := ih (2 * delay)
      _ = delay * 2 ^ (rounds + 1) := two_mul_mul_two_pow delay rounds

theorem sum_doubled (delay : Duration) (rounds : Nat) :
    (doubled delay rounds).sum = delay * (2 ^ rounds - 1) := by
  rw [Nat.mul_sub_one]
  exact Nat.eq_sub_of_add_eq (sum_doubled_add delay rounds)

/-- A schedule of so many waits, of which the first one is given. -/
structure Schedule (policy : RetryPolicy) (first : Duration) (rounds : Nat) : Prop where
  /-- The waits are as many as doublings that leave the first one below the limit. -/
  least : IsLeast {count | policy.backoffLimit ≤ first * 2 ^ count} rounds
  delays : policy.delays = (List.range rounds).map fun round => first * 2 ^ round
  attempts : policy.attempts = rounds
  /-- Every wait is a length of time, so that doubling never ends early. -/
  representable : ∀ round < rounds, first * 2 ^ round ≤ Duration.longest
  budget? : policy.budget? =
    if first * (2 ^ rounds - 1) ≤ Duration.longest then some (first * (2 ^ rounds - 1)) else none
  budget : first * (2 ^ rounds - 1) ≤ Duration.longest → policy.budget = first * (2 ^ rounds - 1)
  bound : 0 < rounds → first * (2 ^ rounds - 1) < 2 * policy.backoffLimit

theorem schedule_of_isLeast (policy : RetryPolicy)
    (representable : policy.backoffLimit ≤ Duration.longest)
    (least : IsLeast {count | policy.backoffLimit ≤ policy.first * 2 ^ count} rounds) :
    policy.Schedule policy.first rounds := by
  have positive : 0 < policy.first := Nat.lt_of_lt_of_le (by decide) (Nat.le_max_right _ _)
  have below : ∀ round < rounds, policy.first * 2 ^ round < policy.backoffLimit := by
    intro round earlier
    exact Nat.lt_of_not_le fun reached => Nat.not_le.mpr earlier (least.2 reached)
  have delays : policy.delays = doubled policy.first rounds :=
    doublings_eq positive representable least.1 below
  have budget? : policy.budget? = if policy.first * (2 ^ rounds - 1) ≤ Duration.longest then
      some (policy.first * (2 ^ rounds - 1)) else none := by
    rw [RetryPolicy.budget?, Duration.sum?_eq, delays, sum_doubled]
  refine ⟨least, delays, ?_, ?_, budget?, ?_, ?_⟩
  · rw [RetryPolicy.attempts, delays, doubled, List.length_map, List.length_range]
  · intro round earlier
    exact Nat.le_trans (Nat.le_of_lt (below round earlier)) representable
  · intro fits
    rw [RetryPolicy.budget, budget?, if_pos fits]
    rfl
  · intro waits
    -- All waits together are shorter than one more doubling of the last one.
    obtain ⟨last, rfl⟩ := Nat.exists_eq_add_one_of_ne_zero (Nat.ne_of_gt waits)
    calc policy.first * (2 ^ (last + 1) - 1)
        < policy.first * 2 ^ (last + 1) :=
          Nat.mul_lt_mul_of_pos_left (Nat.sub_one_lt (Nat.ne_of_gt (Nat.two_pow_pos _))) positive
      _ = 2 * (policy.first * 2 ^ last) := by rw [Nat.pow_succ', Nat.mul_left_comm]
      _ < 2 * policy.backoffLimit :=
          Nat.mul_lt_mul_of_pos_left (below last (Nat.lt_succ_self last)) (by decide)

theorem exists_isLeast (policy : RetryPolicy) :
    ∃ rounds, IsLeast {count | policy.backoffLimit ≤ policy.first * 2 ^ count} rounds := by
  have positive : 0 < policy.first := Nat.lt_of_lt_of_le (by decide) (Nat.le_max_right _ _)
  have reached : ∃ count, policy.backoffLimit ≤ policy.first * 2 ^ count :=
    ⟨policy.backoffLimit, Nat.le_trans (Nat.le_of_lt Nat.lt_two_pow_self)
      (Nat.le_mul_of_pos_left _ positive)⟩
  exact ⟨Nat.find reached, Nat.isLeast_find reached⟩

/-- The waits of a policy are the first one, which takes a millisecond at least, and those of its
doublings that are below the limit. -/
theorem waits_double (policy : RetryPolicy)
    (representable : policy.backoffLimit ≤ Duration.longest) :
    ∃ rounds, policy.Schedule (max policy.initialBackoff (Duration.ofMillis 1)) rounds := by
  obtain ⟨rounds, least⟩ := policy.exists_isLeast
  exact ⟨rounds, schedule_of_isLeast policy representable least⟩

/-- No wait is as long as the longest length of time, where the limit stands as well: doubling
reaches the limit and runs over the longest length of time at once. -/
theorem waits_double_longest :
    let policy : RetryPolicy := { initialBackoff := 0, backoffLimit := Duration.longest }
    policy.backoffLimit ≤ Duration.longest ∧
      ∃ rounds, policy.Schedule (max policy.initialBackoff (Duration.ofMillis 1)) rounds :=
  ⟨Nat.le_refl _, waits_double _ (Nat.le_refl _)⟩

end RetryPolicy

end PipeBus
