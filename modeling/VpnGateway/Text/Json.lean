/-!
# JSON

Documents of truth values, natural numbers, texts, lists and records, in compact and in indented
form. The fields of a record keep their order.

* `Json`;
* `Json.stringChars`: a text between quotes, with controls escaped;
* `Json.compact`, `Json.pretty`.
-/

namespace VpnGateway

/-- A JSON document. -/
inductive Json
  | bool (b : Bool)
  | number (n : Nat)
  | text (s : String)
  | list (items : List Json)
  | record (fields : List (String × Json))
  deriving Repr

namespace Json

/-- A character of a text. -/
def escape (c : Char) : List Char :=
  match c with
  | '"' => ['\\', '"']
  | '\\' => ['\\', '\\']
  | '\n' => ['\\', 'n']
  | '\r' => ['\\', 'r']
  | '\t' => ['\\', 't']
  | '\x08' => ['\\', 'b']
  | '\x0c' => ['\\', 'f']
  | c =>
    if c.toNat < 32 then
      ['\\', 'u', '0', '0', Nat.digitChar (c.toNat / 16), Nat.digitChar (c.toNat % 16)]
    else [c]

/-- A text between quotes. -/
def stringChars (s : String) : List Char :=
  '"' :: s.toList.flatMap escape ++ ['"']

/-- A truth value. -/
def boolChars (b : Bool) : List Char :=
  if b then ['t', 'r', 'u', 'e'] else ['f', 'a', 'l', 's', 'e']

/-! ## Compact form -/

mutual

/-- A document without blanks. -/
def compactChars : Json → List Char
  | bool b => boolChars b
  | number n => Nat.toDigits 10 n
  | text s => stringChars s
  | list items => '[' :: itemChars items ++ [']']
  | record fields => '\x7b' :: fieldChars fields ++ ['\x7d']

/-- The items of a list. -/
def itemChars : List Json → List Char
  | [] => []
  | [item] => compactChars item
  | item :: items => compactChars item ++ ',' :: itemChars items

/-- The fields of a record. -/
def fieldChars : List (String × Json) → List Char
  | [] => []
  | [(name, value)] => stringChars name ++ ':' :: compactChars value
  | (name, value) :: fields =>
    stringChars name ++ ':' :: compactChars value ++ ',' :: fieldChars fields

end

/-- A document without blanks. -/
def compact (d : Json) : String :=
  String.ofList d.compactChars

/-! ## Indented form -/

/-- A line end, and the indent of a level. -/
def newline (level : Nat) : List Char :=
  '\n' :: List.replicate (2 * level) ' '

mutual

/-- A document with an item or field on each line, at a level of indent. -/
def prettyChars (level : Nat) : Json → List Char
  | bool b => boolChars b
  | number n => Nat.toDigits 10 n
  | text s => stringChars s
  | list [] => ['[', ']']
  | list (item :: items) =>
    '[' :: prettyItems (level + 1) (item :: items) ++ newline level ++ [']']
  | record [] => ['\x7b', '\x7d']
  | record (field :: fields) =>
    '\x7b' :: prettyFields (level + 1) (field :: fields) ++ newline level ++ ['\x7d']

/-- The items of a list, each on its line. -/
def prettyItems (level : Nat) : List Json → List Char
  | [] => []
  | [item] => newline level ++ prettyChars level item
  | item :: items => newline level ++ prettyChars level item ++ ',' :: prettyItems level items

/-- The fields of a record, each on its line. -/
def prettyFields (level : Nat) : List (String × Json) → List Char
  | [] => []
  | [(name, value)] => newline level ++ stringChars name ++ ':' :: ' ' :: prettyChars level value
  | (name, value) :: fields =>
    newline level ++ stringChars name ++ ':' :: ' ' :: prettyChars level value ++
      ',' :: prettyFields level fields

end

/-- A document with an item or field on each line. -/
def pretty (d : Json) : String :=
  String.ofList (d.prettyChars 0)

end Json

end VpnGateway
