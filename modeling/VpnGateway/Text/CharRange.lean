/-!
# Ranges of characters

A property of characters is given by a sorted list of ranges of code points.

* `CharRanges`, `CharRanges.contains`: membership;
* `CharRanges.contains_of_mem`: a character inside a listed range is contained.
-/

namespace VpnGateway.Text

/-- Ranges of code points, first and last included. -/
abbrev CharRanges : Type := List (Nat × Nat)

namespace CharRanges

/-- The code point of `c` lies in one of the ranges. -/
def contains (ranges : CharRanges) (c : Char) : Bool :=
  ranges.any fun r => r.1 ≤ c.toNat && c.toNat ≤ r.2

theorem contains_of_mem {ranges : CharRanges} {c : Char} {first last : Nat}
    (h : (first, last) ∈ ranges) (h₁ : first ≤ c.toNat) (h₂ : c.toNat ≤ last) :
    ranges.contains c = true :=
  List.any_eq_true.2 ⟨_, h, by simp [h₁, h₂]⟩

end CharRanges

end VpnGateway.Text
