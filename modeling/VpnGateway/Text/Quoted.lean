import VpnGateway.Text.Printable

/-!
# Quoted text

Text as it appears in messages: between double quotes, on one line, with every character that does
not stand alone written by its number.

* `escape`: one character;
* `quoted`: the whole text with its quotes.
-/

namespace VpnGateway.Text

/-- A character as it appears between double quotes. -/
def escape (c : Char) : List Char :=
  match c with
  | '"' => ['\\', '"']
  | '\\' => ['\\', '\\']
  | '\t' => ['\\', 't']
  | '\r' => ['\\', 'r']
  | '\n' => ['\\', 'n']
  | '\x00' => ['\\', '0']
  | c =>
    if standsAlone c then [c]
    else ['\\', 'u', '\x7b'] ++ Nat.toDigits 16 c.toNat ++ ['\x7d']

/-- `s` between double quotes. -/
def quoted (s : String) : String :=
  String.ofList ('"' :: s.toList.flatMap escape ++ ['"'])

end VpnGateway.Text
