import VpnGateway.Text.Numeral
import VpnGateway.Text.Digit

/-!
# Durations

A duration is a whole number of nanoseconds. Its text is a row of tokens, each a decimal number and
a unit, as in `1h30m` or `1.5h`; `0` alone is the duration zero.

* `Duration`, `Duration.toText`: the text of one token in nanoseconds;
* `Duration.Token`, `Duration.tokens?`: the tokens of a text;
* `Duration.Token.value`: whole nanoseconds, a fraction cut after 18 bytes and rounded down;
* `Duration.ofText`: the value of a text, or why it has none.
-/

namespace VpnGateway

/-- A span of time. -/
structure Duration where
  nanoseconds : Nat
  deriving DecidableEq, Repr, Inhabited

namespace Duration

/-- The text of a duration, in nanoseconds. -/
def toText (d : Duration) : String :=
  String.ofList (Nat.toDigits 10 d.nanoseconds ++ ['n', 's'])

/-! ## Tokens -/

/-- A unit of time. -/
inductive TimeUnit
  | nanosecond | microsecond | millisecond | second | minute | hour
  deriving DecidableEq, Repr

/-- The length of a unit in nanoseconds. -/
def TimeUnit.size : TimeUnit → Nat
  | nanosecond => 1
  | microsecond => 1000
  | millisecond => 1000000
  | second => 1000000000
  | minute => 60 * 1000000000
  | hour => 3600 * 1000000000

/-- A number with its unit: the digits before and after the point. -/
structure Token where
  whole : List Char
  fraction : List Char
  unit : TimeUnit
  deriving DecidableEq, Repr

/-- The unit in front, and what follows it. -/
def unit? : List Char → Option (TimeUnit × List Char)
  | 'n' :: 's' :: cs => some (.nanosecond, cs)
  | 'u' :: 's' :: cs => some (.microsecond, cs)
  | 'µ' :: 's' :: cs => some (.microsecond, cs)
  | 'm' :: 's' :: cs => some (.millisecond, cs)
  | 's' :: cs => some (.second, cs)
  | 'm' :: cs => some (.minute, cs)
  | 'h' :: cs => some (.hour, cs)
  | _ => none

/-- The token in front, and what follows it. A number has digits of any script on one side of its
point at least. -/
def token? (cs : List Char) : Option (Token × List Char) :=
  let whole := cs.takeWhile Text.isDecimalDigit
  match cs.dropWhile Text.isDecimalDigit with
  | '.' :: after =>
    let fraction := after.takeWhile Text.isDecimalDigit
    if whole = [] ∧ fraction = [] then none
    else (unit? (after.dropWhile Text.isDecimalDigit)).map fun r => (⟨whole, fraction, r.1⟩, r.2)
  | rest =>
    if whole = [] then none else (unit? rest).map fun r => (⟨whole, [], r.1⟩, r.2)

theorem length_unit?_lt {cs : List Char} {r : TimeUnit × List Char} (h : unit? cs = some r) :
    r.2.length < cs.length := by
  unfold unit? at h
  split at h <;> simp only [Option.some.injEq, reduceCtorEq] at h <;> subst h <;>
    simp only [List.length_cons] <;> omega

theorem length_dropWhile_le (p : Char → Bool) (cs : List Char) :
    (cs.dropWhile p).length ≤ cs.length :=
  (List.dropWhile_sublist p).length_le

theorem length_token?_lt {cs : List Char} {r : Token × List Char} (h : token? cs = some r) :
    r.2.length < cs.length := by
  unfold token? at h
  simp only at h
  split at h
  · rename_i after heq
    split at h
    · simp at h
    · obtain ⟨u, hu, rfl⟩ := Option.map_eq_some_iff.1 h
      have h₁ := length_unit?_lt hu
      have h₂ := length_dropWhile_le Text.isDecimalDigit after
      have h₃ := length_dropWhile_le Text.isDecimalDigit cs
      simp only [heq, List.length_cons] at h₃
      simp only
      omega
  · split at h
    · simp at h
    · obtain ⟨u, hu, rfl⟩ := Option.map_eq_some_iff.1 h
      have h₁ := length_unit?_lt hu
      have h₃ := length_dropWhile_le Text.isDecimalDigit cs
      simp only
      omega

/-- The tokens that make up a text. -/
def tokens? (cs : List Char) : Option (List Token) :=
  if cs = [] then some []
  else match _h : token? cs with
    | none => none
    | some r => (tokens? r.2).map (r.1 :: ·)
termination_by cs.length
decreasing_by exact length_token?_lt _h

/-! ## Values -/

/-- Why a text has no value as a duration. -/
inductive Fault
  /-- The text is not a row of tokens. -/
  | malformed
  /-- A number, a product or the sum is too large, or a number has digits of another script. -/
  | outOfRange
  /-- The fraction of a number cannot be cut, since a digit lies across the cut. -/
  | cutInsideDigit
  deriving DecidableEq, Repr

/-- Intermediate results stay below this bound. -/
def bound : Nat := Nat.pow 2 128

/-- A duration has fewer nanoseconds than this. -/
def limit : Nat := Nat.pow 2 64

/-- How many bytes of a fraction count. -/
def fractionBytes : Nat := 18

/-- `n`, if it is in bounds. -/
def bounded (n : Nat) : Except Fault Nat :=
  if n < bound then .ok n else .error .outOfRange

/-- The number that digits denote, zero if there are none. -/
def number (cs : List Char) : Except Fault Nat :=
  if cs = [] then .ok 0
  else match Text.natural? cs with
    | some n => bounded n
    | none => .error .outOfRange

/-- The characters that fill the first `room` bytes, unless one lies across their end. -/
def cut? : Nat → List Char → Option (List Char)
  | 0, _ => some []
  | _, [] => some []
  | room + 1, c :: cs =>
    if c.utf8Size ≤ room + 1 then (cut? (room + 1 - c.utf8Size) cs).map (c :: ·) else none

/-- The nanoseconds of a token. -/
def Token.value (t : Token) : Except Fault Nat := do
  let whole ← number t.whole
  match cut? fractionBytes t.fraction with
  | none => .error .cutInsideDigit
  | some digits =>
    let fraction ← number digits
    let high ← bounded (whole * t.unit.size)
    bounded (high + fraction * t.unit.size / Nat.pow 10 digits.length)

/-- The nanoseconds of a row of tokens, added to `sum` from left to right. -/
def total (sum : Nat) : List Token → Except Fault Nat
  | [] => .ok sum
  | t :: ts => do
    let n ← t.value
    let sum ← bounded (sum + n)
    total sum ts

/-- The duration that characters denote. -/
def ofChars (cs : List Char) : Except Fault Duration :=
  if cs = ['0'] then .ok ⟨0⟩
  else match tokens? cs with
    | none => .error .malformed
    | some [] => .error .malformed
    | some ts => do
      let n ← total 0 ts
      if n < limit then .ok ⟨n⟩ else .error .outOfRange

/-- The duration that a text denotes. -/
def ofText (s : String) : Except Fault Duration :=
  ofChars s.toList

end Duration

end VpnGateway
