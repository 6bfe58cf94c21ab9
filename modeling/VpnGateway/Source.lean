import VpnGateway.Text.Utf8

/-!
# Sources

Where raw values come from. A source answers lookups of keys one after the other, and an answer may
depend on the lookups before it: an environment gives each key the same answer always, a script gives
its answers in turn.

* `Answer`, `Source`;
* `Source.ofMap`: a map from keys to texts;
* `Environment`, `Source.ofEnvironment`: the variables of a process, with values of any bytes;
* `Source.ofScript`: a list of answers for each key.
-/

namespace VpnGateway

/-- What a source says about a key. -/
inductive Answer
  /-- The key is not set. -/
  | unset
  /-- The key is set to a text. -/
  | text (value : String)
  /-- The key is set to bytes that are no text; `lossy` is what can be read of them. -/
  | notUtf8 (lossy : String)
  deriving DecidableEq, Repr

/-- A source of raw values: what it says about a key, after the keys looked up before. -/
abbrev Source : Type := List String → String → Answer

/-- The answer that bytes give. -/
def Answer.ofBytes (bytes : List UInt8) : Answer :=
  match Text.utf8Text? bytes with
  | some value => .text value
  | none => .notUtf8 (Text.utf8Lossy bytes)

/-- The variables of a process: names and values. -/
abbrev Environment : Type := List (String × List UInt8)

namespace Environment

/-- The value of a variable. Names and values are kept in one text with an equals sign between them,
so a key with an equals sign in it may match a shorter name. -/
def value? (env : Environment) (key : String) : Option (List UInt8) :=
  if key = "" ∨ '\x00' ∈ key.toList then none
  else env.findSome? fun entry =>
    let line := Text.utf8Bytes entry.1 ++ 61 :: entry.2
    let start := Text.utf8Bytes key ++ [61]
    if start.isPrefixOf line then some (line.drop start.length) else none

/-- The environment without a variable. -/
def unset (env : Environment) (name : String) : Environment :=
  env.filter fun entry => entry.1 ≠ name

/-- The environment with a variable set. -/
def set (env : Environment) (name : String) (value : List UInt8) : Environment :=
  env.unset name ++ [(name, value)]

end Environment

namespace Source

/-- A map from keys to texts. -/
def ofMap (map : String → Option String) : Source := fun _ key =>
  match map key with
  | some value => .text value
  | none => .unset

/-- The variables of a process. -/
def ofEnvironment (env : Environment) : Source := fun _ key =>
  match env.value? key with
  | some bytes => .ofBytes bytes
  | none => .unset

/-- The answers of a list in turn, the last one again and again. -/
def inTurn (answers : List Answer) (n : Nat) : Answer :=
  (answers[n]?).getD (answers.getLast?.getD .unset)

/-- A list of answers for each key, given in turn. -/
def ofScript (script : String → List Answer) : Source := fun earlier key =>
  inTurn (script key) (earlier.count key)

end Source

end VpnGateway
