/-!
# Host names

A host name is a row of labels with points between them: letters, digits and hyphens, a letter or
digit at both ends of each label, at most 63 characters a label and 253 in all. It is recognised in
one pass.

* `isAlphanumeric`: the ASCII letters and digits;
* `Hostname.scan`: the pass over the characters;
* `isHostname`.
-/

namespace VpnGateway

/-- `c` is an ASCII letter or digit. -/
def isAlphanumeric (c : Char) : Bool :=
  c.isAlpha || c.isDigit

namespace Hostname

/-- Most characters of a label. -/
def maxLabel : Nat := 63

/-- Most characters of a name. -/
def maxLength : Nat := 253

/-- Scan the rest of a name, `length` characters into a label whose last one is a hyphen or not. -/
def scan (length : Nat) (hyphen : Bool) : List Char → Bool
  | [] => 0 < length && !hyphen
  | c :: cs =>
    if c = '.' then 0 < length && !hyphen && scan 0 false cs
    else if length = maxLabel then false
    else if c = '-' then 0 < length && scan (length + 1) true cs
    else isAlphanumeric c && scan (length + 1) false cs

end Hostname

/-- `s` is a host name. -/
def isHostname (s : String) : Bool :=
  s.utf8ByteSize ≤ Hostname.maxLength && Hostname.scan 0 false s.toList

end VpnGateway
