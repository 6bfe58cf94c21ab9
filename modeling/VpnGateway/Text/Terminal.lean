/-!
# Control sequences

What of a text is shown when the sequences that control a terminal, and other control characters,
are left out. Line ends and tabulators stay.

* `TerminalState`, `TerminalState.next`: what a character means after others;
* `withoutControls`.
-/

namespace VpnGateway.Text

/-- What the characters of a control sequence so far ask for. -/
inductive TerminalState
  /-- No sequence has begun. -/
  | ground
  /-- A sequence has begun. -/
  | escape
  /-- Some character that is no letter has followed. -/
  | intermediate
  /-- A sequence with parameters has begun. -/
  | parameters
  /-- A text for the terminal, up to a line bell. -/
  | bellText
  /-- A device command, up to its first letter. -/
  | command
  /-- A text for a device, up to the mark that ends texts. -/
  | markedText
  deriving DecidableEq, Repr

/-- A control character that moves the place of writing. -/
def isSpacing (c : Char) : Bool :=
  c = ' ' || c = '\t' || c = '\n' || c = '\x0c' || c = '\r'

/-- A character that is shown outside of sequences. -/
def isShown (c : Char) : Bool :=
  isSpacing c || (' ' < c && c ≠ '\x7f')

/-- One of the bytes of a character is the mark that ends texts. -/
def holdsMark (c : Char) : Bool :=
  (String.utf8EncodeChar c).contains 0x9c

namespace TerminalState

/-- The state after a character that begins a sequence. -/
def afterEscape (c : Char) : TerminalState :=
  if c = '[' then parameters
  else if c = ']' then bellText
  else if c = 'P' then command
  else if c = 'X' ∨ c = '^' ∨ c = '_' then markedText
  else if ' ' ≤ c ∧ c ≤ '/' then intermediate
  else if '0' ≤ c ∧ c ≤ '~' then ground
  else escape

/-- The state after a character, and whether the character is shown. -/
def next (s : TerminalState) (c : Char) : TerminalState × Bool :=
  if c = '\x18' ∨ c = '\x1a' then (ground, false)
  else if c = '\x1b' then (escape, false)
  else match s with
    | ground => (ground, isShown c)
    | escape => (afterEscape c, isSpacing c && c ≠ ' ')
    | intermediate => (if '0' ≤ c ∧ c ≤ '~' then ground else s, isSpacing c && c ≠ ' ')
    | parameters => (if '@' ≤ c ∧ c ≤ '~' then ground else s, isSpacing c && c ≠ ' ')
    | bellText => (if c = '\x07' then ground else s, false)
    | command => (if '@' ≤ c ∧ c ≤ '~' then markedText else s, false)
    | markedText => (if holdsMark c then ground else s, false)

end TerminalState

/-- What is shown of a text. After a character that is shown, others are taken as they are up to the
next one that is not shown outside of sequences. -/
def shown (copying : Bool) (s : TerminalState) : List Char → List Char
  | [] => []
  | c :: cs =>
    if copying ∧ isShown c then
      c :: shown true (if c ≤ '~' then s else .ground) cs
    else
      let (s', visible) := s.next c
      if visible then c :: shown true s' cs else shown false s' cs

/-- A text without control sequences and other control characters. -/
def withoutControls (s : String) : String :=
  String.ofList (shown false .ground s.toList)

end VpnGateway.Text
