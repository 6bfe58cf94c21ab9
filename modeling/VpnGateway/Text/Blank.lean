import VpnGateway.Text.CharRange

/-!
# Blanks

* `blanks`: the characters that are white space;
* `trim`: a text without white space at its ends.
-/

namespace VpnGateway.Text

/-- The characters that are white space. -/
def blanks : CharRanges :=
  [(0x09, 0x0d), (0x20, 0x20), (0x85, 0x85), (0xa0, 0xa0), (0x1680, 0x1680), (0x2000, 0x200a),
   (0x2028, 0x2029), (0x202f, 0x202f), (0x205f, 0x205f), (0x3000, 0x3000)]

theorem contains_blanks_of_isWhitespace {c : Char} (h : c.isWhitespace = true) :
    blanks.contains c = true := by
  simp only [Char.isWhitespace, Bool.or_eq_true, decide_eq_true_eq] at h
  rcases h with ((rfl | rfl) | rfl) | rfl <;> decide

/-- A text without white space at its ends. -/
def trim (s : List Char) : List Char :=
  ((s.dropWhile blanks.contains).reverse.dropWhile blanks.contains).reverse

end VpnGateway.Text
