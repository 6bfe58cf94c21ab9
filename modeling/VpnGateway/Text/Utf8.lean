/-!
# UTF-8

Text as bytes, and bytes as text. Ill-formed bytes are taken apart into maximal pieces: a lead byte
with the continuation bytes that could follow it, or a single byte that leads nothing.

* `utf8Bytes`: the bytes of a text;
* `utf8Pieces`: the characters of a row of bytes, with `none` for an ill-formed piece;
* `utf8Text?`: the text, if all is well-formed;
* `utf8Lossy`: the text with a replacement character for each ill-formed piece.
-/

namespace VpnGateway.Text

/-- The UTF-8 bytes of a text. -/
def utf8Bytes (s : String) : List UInt8 :=
  s.toList.flatMap String.utf8EncodeChar

/-- What a lead byte asks for: the bits it gives, how many bytes must follow, and the bounds of the
first of them, which keep out long forms, surrogates and what lies beyond the last character. -/
structure Lead where
  bits : Nat
  more : Nat
  low : UInt8
  high : UInt8

/-- The lead byte `b`, if it is one. -/
def Lead.ofByte? (b : UInt8) : Option Lead :=
  if b < 0x80 then some ⟨b.toNat, 0, 0x80, 0xBF⟩
  else if b < 0xC2 then none
  else if b < 0xE0 then some ⟨b.toNat - 0xC0, 1, 0x80, 0xBF⟩
  else if b < 0xF0 then
    some ⟨b.toNat - 0xE0, 2, if b = 0xE0 then 0xA0 else 0x80, if b = 0xED then 0x9F else 0xBF⟩
  else if b < 0xF5 then
    some ⟨b.toNat - 0xF0, 3, if b = 0xF0 then 0x90 else 0x80, if b = 0xF4 then 0x8F else 0xBF⟩
  else none

/-- Read `more` continuation bytes after `bits`, the first of them within bounds. The result is the
code point, or `none` at the first byte that does not fit, and the bytes not read. -/
def continuation (low high : UInt8) : Nat → Nat → List UInt8 → Option Nat × List UInt8
  | 0, bits, bytes => (some bits, bytes)
  | _ + 1, _, [] => (none, [])
  | more + 1, bits, b :: bytes =>
    if low ≤ b ∧ b ≤ high then
      continuation 0x80 0xBF more (bits * 64 + (b.toNat - 0x80)) bytes
    else (none, b :: bytes)

theorem length_continuation_le (low high : UInt8) (more bits : Nat) (bytes : List UInt8) :
    (continuation low high more bits bytes).2.length ≤ bytes.length := by
  induction more generalizing low high bits bytes with
  | zero => simp [continuation]
  | succ more ih =>
    cases bytes with
    | nil => simp [continuation]
    | cons b bytes =>
      simp only [continuation]
      split
      · exact Nat.le_trans (ih ..) (by simp)
      · simp

/-- The characters of a row of bytes, with `none` for each ill-formed piece. -/
def utf8Pieces : List UInt8 → List (Option Char)
  | [] => []
  | b :: bytes =>
    match Lead.ofByte? b with
    | none => none :: utf8Pieces bytes
    | some lead =>
      let piece := continuation lead.low lead.high lead.more lead.bits bytes
      piece.1.map Char.ofNat :: utf8Pieces piece.2
termination_by bytes => bytes.length
decreasing_by
  · simp
  · exact Nat.lt_succ_of_le (length_continuation_le ..)

/-- The text of well-formed bytes. -/
def utf8Text? (bytes : List UInt8) : Option String :=
  (utf8Pieces bytes).mapM id |>.map String.ofList

/-- The text of any bytes, with U+FFFD for each ill-formed piece. -/
def utf8Lossy (bytes : List UInt8) : String :=
  String.ofList ((utf8Pieces bytes).map fun c => c.getD '\uFFFD')

end VpnGateway.Text
