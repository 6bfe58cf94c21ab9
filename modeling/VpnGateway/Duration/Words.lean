import VpnGateway.Duration

/-!
# Durations in words

The largest units first, each as often as it fits, as in `1day 2h 3ms`. A year has 365.25 days and a
month a twelfth of it; years, months and days take a plural.

* `Duration.Measure`, `Duration.measures`: the units and their names;
* `Duration.counts`: how often each unit fits;
* `Duration.describe`: the text.
-/

namespace VpnGateway.Duration

/-- A unit with its name, how the name forms a plural, and its length in nanoseconds. -/
structure Measure where
  name : String
  plural : String
  size : Nat

/-- The units, the largest first. -/
def measures : List Measure :=
  [⟨"year", "years", 31557600 * 1000000000⟩, ⟨"month", "months", 2630016 * 1000000000⟩,
   ⟨"day", "days", 86400 * 1000000000⟩, ⟨"h", "h", 3600 * 1000000000⟩,
   ⟨"m", "m", 60 * 1000000000⟩, ⟨"s", "s", 1000000000⟩, ⟨"ms", "ms", 1000000⟩,
   ⟨"us", "us", 1000⟩, ⟨"ns", "ns", 1⟩]

/-- How often each unit fits into what the larger ones leave of `n`. -/
def counts : List Measure → Nat → List (Nat × Measure)
  | [], _ => []
  | m :: ms, n => (n / m.size, m) :: counts ms (n % m.size)

/-- A unit with its count. -/
def countText (c : Nat × Measure) : String :=
  toString c.1 ++ if 1 < c.1 then c.2.plural else c.2.name

/-- A duration in words. -/
def describe (d : Duration) : String :=
  if d.nanoseconds = 0 then "0s"
  else " ".intercalate (((counts measures d.nanoseconds).filter fun c => c.1 ≠ 0).map countText)

end VpnGateway.Duration
