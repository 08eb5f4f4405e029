/-!
Polling a condition until it holds or time runs out.

The condition is called at once and then every `interval` milliseconds, so call `k` (counting
from 1) is made `interval * (k - 1)` milliseconds after the start. After a call that fails,
polling stops if the timeout has been reached. Only the number of calls is a function of this
rule; how long each call and each pause really take is not, so the clock here is the ideal one.

* `poll` gives the number of the first call at which the condition held, if one did.
* `poll_some_holds`: the call it reports is one at which the condition holds.
-/

namespace Affinity.Testing

/-- Calls from `k` on, with `fuel` calls left. -/
def pollFrom (interval timeout : Nat) (holds : Nat → Bool) : Nat → Nat → Option Nat
  | 0, _ => none
  | fuel + 1, k =>
    if holds k then some k
    else if interval * (k - 1) ≥ timeout then none
    else pollFrom interval timeout holds fuel (k + 1)

/-- The first call at which `holds` is true, polling every `interval` milliseconds until
    `timeout`. -/
def poll (interval timeout : Nat) (holds : Nat → Bool) : Option Nat :=
  pollFrom interval timeout holds (timeout / max interval 1 + 2) 1

/-- A reported call is one at which the condition holds. -/
theorem pollFrom_some_holds (interval timeout : Nat) (holds : Nat → Bool) :
    ∀ fuel k n, pollFrom interval timeout holds fuel k = some n → holds n = true
  | 0, _, _, h => by simp [pollFrom] at h
  | fuel + 1, k, n, h => by
    simp only [pollFrom] at h
    split at h
    · cases h; assumption
    · split at h
      · cases h
      · exact pollFrom_some_holds interval timeout holds fuel (k + 1) n h

/-- The call `poll` reports is one at which the condition holds. -/
theorem poll_some_holds (interval timeout : Nat) (holds : Nat → Bool) (n : Nat)
    (h : poll interval timeout holds = some n) : holds n = true :=
  pollFrom_some_holds interval timeout holds _ 1 n h

end Affinity.Testing
