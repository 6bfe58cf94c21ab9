import VpnGateway.Proofs.Base64Bits
import VpnGateway.Proofs.Blocks

/-!
# How a section is laid out does not matter

A section stands among other bytes: text before it, blanks after the line that begins it, line ends
of one kind or another, a body on any lines, and anything behind it. Of all that, the characters of
the body alone decide what is read.

* `LineEnd`, `Layout`, `Layout.bytes`: a section among other bytes;
* `Layout.exists_block`: the block that it is;
* `Layout.firstSection_bytes`: what is read of it is its body in Base64;
* **`readCredential_layout`**: which credential it holds, and when it holds one.
-/

namespace VpnGateway

namespace Pem

/-- How a line can end. -/
inductive LineEnd
  | lineFeed | carriageReturn | both
  deriving DecidableEq, Repr

namespace LineEnd

/-- The byte that ends the line. -/
def first : LineEnd → UInt8
  | lineFeed => 10
  | carriageReturn | both => 13

/-- The lines that follow up to the next text: after a carriage return, a line feed is one. -/
def more : LineEnd → List (List UInt8)
  | lineFeed | carriageReturn => []
  | both => [[10]]

theorem eq_of_mem_more {e : LineEnd} {line : List UInt8} (h : line ∈ e.more) : line = [10] := by
  cases e with
  | lineFeed | carriageReturn => cases h
  | both => exact List.mem_singleton.1 h

/-- The bytes of a line end. -/
def bytes : LineEnd → List UInt8
  | lineFeed => [10]
  | carriageReturn => [13]
  | both => [13, 10]

end LineEnd

/-- A section of a kind among other bytes. -/
structure Layout (kind : CredentialKind) where
  preamble : List UInt8
  blanks : Nat
  lineEnd : LineEnd
  body : List UInt8
  suffix : List UInt8
  preamble_endsLine : EndsLine preamble
  preamble_not_begins : ∀ l ∈ lines preamble, ¬ Begins l
  body_endsLine : EndsLine body
  body_isBody : ∀ l ∈ lines body, IsBody (bytesOf kind.text) l

/-- The line that begins a section of a kind, with blanks behind it. -/
def beginLine (kind : CredentialKind) (blanks : Nat) : List UInt8 :=
  bytesOf ("-----BEGIN " ++ kind.text ++ "-----") ++ List.replicate blanks 32

/-- The bytes of a layout. -/
def Layout.bytes {kind : CredentialKind} (l : Layout kind) : List UInt8 :=
  l.preamble ++ (beginLine kind l.blanks ++ l.lineEnd.bytes ++
    (l.body ++ (bytesOf ("-----END " ++ kind.text ++ "-----") ++ l.suffix)))

/-! ## The line that begins it -/

theorem begins_beginLine (kind : CredentialKind) (blanks : Nat) (tail : List UInt8) :
    Begins (beginLine kind blanks ++ tail) := by
  have h : beginMark <+: bytesOf ("-----BEGIN " ++ kind.text ++ "-----") := by
    cases kind <;> decide
  rw [beginLine, List.append_assoc]
  exact h.trans (List.prefix_append _ _)

theorem trailer_blank {b : UInt8} (h : b = 10 ∨ b = 13 ∨ b = 32) (bs : List UInt8) :
    trailer (b :: bs) = trailer bs := by
  have hdash : b ≠ 45 := by rcases h with rfl | rfl | rfl <;> decide
  rw [trailer, if_neg hdash, if_pos h]

theorem trailer_blanks (n : Nat) (bs : List UInt8) :
    trailer (List.replicate n 32 ++ bs) = trailer bs := by
  induction n with
  | zero => rfl
  | succ n ih =>
    rw [List.replicate_succ, List.cons_append, trailer_blank (.inr (.inr rfl)), ih]

/-- The blanks and the line end behind it do not count. -/
theorem beginLabel_beginLine (kind : CredentialKind) (blanks : Nat) (e : LineEnd) :
    beginLabel (beginLine kind blanks ++ [e.first]) = .ok (bytesOf kind.text) := by
  have he : e.first = 10 ∨ e.first = 13 ∨ e.first = 32 := by cases e <;> decide
  have htrailer : trailer (bytesOf ("-----BEGIN " ++ kind.text ++ "-----")).reverse =
      (5, (beginMark ++ bytesOf kind.text).reverse) := by
    cases kind <;> rfl
  rw [beginLabel, beginLine, List.append_assoc, List.reverse_append, List.reverse_append,
    List.reverse_replicate, List.reverse_singleton, List.append_assoc, List.singleton_append,
    trailer_blank he, trailer_blanks, htrailer]
  dsimp only
  rw [if_pos rfl, List.reverse_reverse, List.drop_left]

theorem isLineEnd_of_mem_beginLine {kind : CredentialKind} {blanks : Nat} {b : UInt8}
    (h : b ∈ beginLine kind blanks) : isLineEnd b = false := by
  have hmark : ∀ kind : CredentialKind,
      ∀ b ∈ bytesOf ("-----BEGIN " ++ kind.text ++ "-----"), isLineEnd b = false := by
    intro kind
    cases kind <;> decide +kernel
  rcases List.mem_append.1 h with h | h
  · exact hmark kind b h
  · rw [(List.mem_replicate.1 h).2]
    rfl

theorem lines_beginLine (kind : CredentialKind) (blanks : Nat) (e : LineEnd) (rest : List UInt8) :
    lines (beginLine kind blanks ++ e.bytes ++ rest) =
      (beginLine kind blanks ++ [e.first]) :: (e.more ++ lines rest) := by
  have h : ∀ b ∈ beginLine kind blanks, isLineEnd b = false :=
    fun b hb => isLineEnd_of_mem_beginLine hb
  rw [List.append_assoc]
  cases e with
  | lineFeed | carriageReturn => exact lines_append h rfl rest
  | both => exact lines_append h rfl (10 :: rest)

/-! ## The section -/

theorem exists_lines_endMark (kind : CredentialKind) (suffix : List UInt8) :
    ∃ tail after, lines (endMark (bytesOf kind.text) ++ suffix) =
      (endMark (bytesOf kind.text) ++ tail) :: after := by
  have hend : lines (endMark (bytesOf kind.text)) = [endMark (bytesOf kind.text)] := by
    refine lines_of_noLineEnd ?_ (by cases kind <;> decide)
    cases kind <;> decide +kernel
  exact exists_lines_append suffix (hend.trans (List.nil_append _).symm)

namespace Layout

variable {kind : CredentialKind} (l : Layout kind)

/-- The lines that follow the one that begins the section. -/
def bodyLines : List (List UInt8) :=
  l.lineEnd.more ++ lines l.body

theorem isBody_bodyLines : ∀ m ∈ l.bodyLines, IsBody (bytesOf kind.text) m := by
  intro m hm
  rcases List.mem_append.1 hm with hm | hm
  · rw [LineEnd.eq_of_mem_more hm]
    exact isBody_of_head? (by decide) _
  · exact l.body_isBody m hm

/-- The opening of the section. -/
def opening : Opening where
  head := beginLine kind l.blanks ++ [l.lineEnd.first]
  label := bytesOf kind.text
  body := l.bodyLines
  begins := begins_beginLine kind l.blanks _
  label_eq := beginLabel_beginLine kind l.blanks l.lineEnd
  isBody := l.isBody_bodyLines

theorem exists_lines_bytes : ∃ tail after, lines l.bytes =
    lines l.preamble ++ (([] ++ [l.opening]).flatMap Opening.lines ++
      (endMark (bytesOf kind.text) ++ tail) :: after) := by
  obtain ⟨tail, after, hend⟩ := exists_lines_endMark kind l.suffix
  have hmark : bytesOf ("-----END " ++ kind.text ++ "-----") = endMark (bytesOf kind.text) := by
    cases kind <;> rfl
  refine ⟨tail, after, ?_⟩
  rw [bytes, lines_append_of_endsLine l.preamble_endsLine, lines_beginLine,
    lines_append_of_endsLine l.body_endsLine, hmark, hend]
  simp [Opening.lines, opening, bodyLines]

/-- A layout is a block with nothing unclosed before it. -/
theorem exists_block : ∃ b : Block (lines l.bytes),
    b.unclosed = [] ∧ b.opening = l.opening ∧ b.label = kind.label := by
  obtain ⟨tail, after, h⟩ := l.exists_lines_bytes
  have hknown : Label.ofBytes? (bytesOf kind.text) = some kind.label ∧
      kind.label ≠ .echConfig := by
    cases kind <;> decide
  exact ⟨⟨lines l.preamble, [], l.opening, endMark (bytesOf kind.text) ++ tail, after, kind.label,
    passed_of_not_begins l.preamble_not_begins, List.prefix_append _ _, hknown.1, hknown.2, h⟩,
    rfl, rfl, rfl⟩

/-- The characters of the body. -/
def characters : List UInt8 :=
  Base64.strip l.body

theorem strip_opening : Base64.strip l.opening.body.flatten = l.characters := by
  have hmore : Base64.strip l.lineEnd.more.flatten = [] := by
    cases l.lineEnd <;> rfl
  change Base64.strip (l.lineEnd.more ++ lines l.body).flatten = _
  rw [List.flatten_append, flatten_lines, Base64.strip_append, hmore, List.nil_append]
  rfl

/-- What is read of a layout is its body in Base64. -/
theorem firstSection_bytes : firstSection l.bytes = match Base64.decodeLoose l.characters with
    | .error fault => .error (.body fault)
    | .ok bytes => .ok (some (kind.label, bytes)) := by
  obtain ⟨b, hunclosed, hopening, hlabel⟩ := l.exists_block
  have hbody : b.unclosedBody ++ b.body = l.opening.body.flatten := by
    rw [Block.unclosedBody, Block.body, hunclosed, hopening]
    rfl
  rw [← l.strip_opening, Base64.decodeLoose_strip, ← hbody, ← hlabel]
  exact b.scan_eq

end Layout

end Pem

open Base64 (Grouped denoted)

/-- What is read under a key, of the section that was found. -/
theorem readCredential_bytes (key : String) {kind : CredentialKind} (l : Pem.Layout kind) :
    readCredential key kind l.bytes = match Base64.decodeLoose l.characters with
      | .error fault => .error (.noCredential key (.unreadable (.body fault)))
      | .ok bytes => .ok ⟨kind, bytes⟩ := by
  rw [readCredential, Credential.extract, l.firstSection_bytes]
  cases Base64.decodeLoose l.characters with
  | error f => rfl
  | ok bytes => simp

theorem decodeLoose_characters_iff {kind : CredentialKind} (l : Pem.Layout kind)
    {bytes : List UInt8} : Base64.decodeLoose l.characters = .ok bytes ↔
      Grouped l.characters ∧ denoted l.characters = bytes := by
  rw [Pem.Layout.characters, Base64.decodeLoose_strip, Base64.decodeLoose_eq_ok_iff]

/-- **What a section holds does not depend on its layout**, and it holds a credential if and only if
its characters are Base64: groups of four, the last one perhaps short. -/
theorem readCredential_layout (key : String) {kind : CredentialKind} (l : Pem.Layout kind) :
    ((∃ c, readCredential key kind l.bytes = .ok c) ↔ Grouped l.characters) ∧
    (∀ c, readCredential key kind l.bytes = .ok c →
      c.kind = kind ∧ c.payload = Credential.asciiText (Base64.encode (denoted l.characters))) ∧
    (¬ Grouped l.characters →
      ∃ fault, readCredential key kind l.bytes = .error (.noCredential key fault)) ∧
    ∀ l' : Pem.Layout kind, l'.characters = l.characters →
      readCredential key kind l'.bytes = readCredential key kind l.bytes := by
  have hiff : ∀ bytes, Base64.decodeLoose l.characters = .ok bytes ↔
      Grouped l.characters ∧ denoted l.characters = bytes := fun _ => decodeLoose_characters_iff l
  have hsame : ∀ l' : Pem.Layout kind, l'.characters = l.characters →
      readCredential key kind l'.bytes = readCredential key kind l.bytes := by
    intro l' h
    rw [readCredential_bytes, readCredential_bytes, h]
  cases hd : Base64.decodeLoose l.characters with
  | error f =>
    have hread : readCredential key kind l.bytes =
        .error (.noCredential key (.unreadable (.body f))) := by
      rw [readCredential_bytes, hd]
    have hnot : ¬ Grouped l.characters := fun hg => by
      have hok := (hiff _).2 ⟨hg, rfl⟩
      rw [hd] at hok
      cases hok
    rw [hread]
    exact ⟨iff_of_false nofun hnot, nofun, fun _ => ⟨_, rfl⟩, hread ▸ hsame⟩
  | ok bytes =>
    obtain ⟨hg, rfl⟩ := (hiff bytes).1 hd
    have hread : readCredential key kind l.bytes = .ok ⟨kind, denoted l.characters⟩ := by
      rw [readCredential_bytes, hd]
    rw [hread]
    refine ⟨iff_of_true ⟨_, rfl⟩ hg, ?_, fun hnot => absurd hg hnot, hread ▸ hsame⟩
    rintro c hc
    cases hc
    exact ⟨rfl, rfl⟩

/-! ## A certificate in three layouts -/

namespace Pem.Layout

/-- Four bytes without padding, among blanks and other text. -/
def wrapped : Layout .certificate where
  preamble := bytesOf "subject: gateway\r\n"
  blanks := 2
  lineEnd := .both
  body := bytesOf "QU\tJD\r\nR A\n"
  suffix := bytesOf " and so on"
  preamble_endsLine := by decide +kernel
  preamble_not_begins := by decide +kernel
  body_endsLine := by decide +kernel
  body_isBody := by decide +kernel

/-- The same four bytes on one line. -/
def bare : Layout .certificate where
  preamble := []
  blanks := 0
  lineEnd := .lineFeed
  body := bytesOf "QUJDRA\n"
  suffix := []
  preamble_endsLine := by decide +kernel
  preamble_not_begins := by decide +kernel
  body_endsLine := by decide +kernel
  body_isBody := by decide +kernel

/-- A last group of one character. -/
def cutShort : Layout .certificate :=
  { bare with
    body := bytesOf "QUJDR\n"
    body_endsLine := by decide +kernel
    body_isBody := by decide +kernel }

end Pem.Layout

theorem readCredential_layout_wrapped :
    (∃ c, readCredential "crt" .certificate Pem.Layout.wrapped.bytes = .ok c ∧
      c.payload = "QUJDRA==") ∧
    (∃ fault, readCredential "crt" .certificate Pem.Layout.cutShort.bytes =
      .error (.noCredential "crt" fault)) ∧
    readCredential "crt" .certificate Pem.Layout.bare.bytes =
      readCredential "crt" .certificate Pem.Layout.wrapped.bytes := by
  have hg : Grouped Pem.Layout.wrapped.characters :=
    .four (by decide) (by decide) (by decide) (by decide) (.two (by decide) (by decide))
  have hcut : ¬ Grouped Pem.Layout.cutShort.characters := fun h =>
    h.countP_mod_ne (by decide)
  obtain ⟨hiff, hpayload, -, hsame⟩ := readCredential_layout "crt" Pem.Layout.wrapped
  obtain ⟨c, hc⟩ := hiff.2 hg
  exact ⟨⟨c, hc, (hpayload c hc).2.trans (by decide)⟩,
    (readCredential_layout "crt" Pem.Layout.cutShort).2.2.1 hcut, hsame _ (by decide)⟩

end VpnGateway
