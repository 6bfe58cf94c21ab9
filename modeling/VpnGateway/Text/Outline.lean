/-!
# Outlines

Values as developers see them: words, lists, and names with fields, on one line or over several.

* `Outline`;
* `Outline.line`: the outline on one line;
* `Outline.block`: every field and every item on a line of its own.
-/

namespace VpnGateway

/-- A value as developers see it. -/
inductive Outline
  /-- A name, a number, or a text between its quotes. -/
  | word (s : String)
  | list (items : List Outline)
  /-- A name with one value. -/
  | wrapped (name : String) (value : Outline)
  /-- A name with fields. -/
  | record (name : String) (fields : List (String × Outline))
  deriving Repr

namespace Outline

/-! ## One line -/

mutual

/-- An outline on one line. -/
def lineChars : Outline → List Char
  | word s => s.toList
  | list items => '[' :: lineItems items ++ [']']
  | wrapped name value => name.toList ++ '(' :: lineChars value ++ [')']
  | record name [] => name.toList
  | record name (field :: fields) =>
    name.toList ++ [' ', '\x7b', ' '] ++ lineFields (field :: fields) ++ [' ', '\x7d']

/-- The items of a list. -/
def lineItems : List Outline → List Char
  | [] => []
  | [item] => lineChars item
  | item :: items => lineChars item ++ ',' :: ' ' :: lineItems items

/-- The fields of a record. -/
def lineFields : List (String × Outline) → List Char
  | [] => []
  | [(name, value)] => name.toList ++ ':' :: ' ' :: lineChars value
  | (name, value) :: fields =>
    name.toList ++ ':' :: ' ' :: lineChars value ++ ',' :: ' ' :: lineFields fields

end

/-- An outline on one line. -/
def line (o : Outline) : String :=
  String.ofList o.lineChars

/-! ## Several lines -/

/-- A line end, and the indent of a level. -/
def newline (level : Nat) : List Char :=
  '\n' :: List.replicate (4 * level) ' '

mutual

/-- An outline with an item or field on each line, at a level of indent. -/
def blockChars (level : Nat) : Outline → List Char
  | word s => s.toList
  | list [] => ['[', ']']
  | list (item :: items) => '[' :: blockItems (level + 1) (item :: items) ++ newline level ++ [']']
  | wrapped name value =>
    name.toList ++ '(' :: newline (level + 1) ++ blockChars (level + 1) value ++ ',' ::
      newline level ++ [')']
  | record name [] => name.toList
  | record name (field :: fields) =>
    name.toList ++ [' ', '\x7b'] ++ blockFields (level + 1) (field :: fields) ++ newline level ++
      ['\x7d']

/-- The items of a list, each on its line. -/
def blockItems (level : Nat) : List Outline → List Char
  | [] => []
  | item :: items => newline level ++ blockChars level item ++ ',' :: blockItems level items

/-- The fields of a record, each on its line. -/
def blockFields (level : Nat) : List (String × Outline) → List Char
  | [] => []
  | (name, value) :: fields =>
    newline level ++ name.toList ++ ':' :: ' ' :: blockChars level value ++
      ',' :: blockFields level fields

end

/-- An outline with an item or field on each line. -/
def block (o : Outline) : String :=
  String.ofList (o.blockChars 0)

end Outline

end VpnGateway
