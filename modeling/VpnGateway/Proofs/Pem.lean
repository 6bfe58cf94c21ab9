import VpnGateway.Proofs.Ascii
import VpnGateway.Proofs.Base64
import VpnGateway.Proofs.Lines
import VpnGateway.Rule.Apply

/-!
# The section that holds a credential

A credential is written as a section with lines of 64 columns, and the section is read back.

* `Pem.Begins`, `Pem.Ends`, `Pem.IsBody`: what a line is to a section that is open;
* `Pem.scan_body`: lines that neither begin nor end a section are its body;
* **`Credential.extract_pemBytes`**, `Credential.extract_toPem`: the credential is read back;
* `Credential.decode?_payload`, `Credential.toDer_eq`: its payload denotes its bytes;
* **`Credential.firstSection_oneLine`**: without its line ends, the section is not read.
-/

namespace VpnGateway

open Text (IsAscii utf8Bytes)

namespace Pem

/-! ## The body of a section -/

/-- The line begins a section. -/
def Begins (line : List UInt8) : Prop :=
  beginMark <+: line

/-- The line ends a section with this label. -/
def Ends (label line : List UInt8) : Prop :=
  endMark label <+: line

/-- The line neither begins a section nor ends one with this label. -/
def IsBody (label line : List UInt8) : Prop :=
  ¬ Begins line ∧ ¬ Ends label line

instance (line : List UInt8) : Decidable (Begins line) :=
  inferInstanceAs (Decidable (_ <+: _))

instance (label line : List UInt8) : Decidable (Ends label line) :=
  inferInstanceAs (Decidable (_ <+: _))

instance (label line : List UInt8) : Decidable (IsBody label line) :=
  inferInstanceAs (Decidable (_ ∧ _))

/-- A line that does not start with a dash is part of any body. -/
theorem isBody_of_head? {line : List UInt8} (h : line.head? ≠ some 45) (label : List UInt8) :
    IsBody label line := by
  have hmark : ∀ {mark : List UInt8}, mark.head? = some 45 → ¬ mark <+: line := by
    rintro mark hm ⟨tail, rfl⟩
    apply h
    rw [List.head?_append, hm]
    rfl
  exact ⟨hmark rfl, hmark rfl⟩

theorem scan_outside {line : List UInt8} (h : ¬ Begins line) (body : List UInt8)
    (rest : List (List UInt8)) : scan none body (line :: rest) = scan none body rest := by
  rw [scan, if_neg (mt List.isPrefixOf_iff_prefix.1 h)]

theorem scan_inside {label line : List UInt8} (h : IsBody label line) (body : List UInt8)
    (rest : List (List UInt8)) :
    scan (some label) body (line :: rest) = scan (some label) (body ++ line) rest := by
  rw [scan, if_neg (mt List.isPrefixOf_iff_prefix.1 h.1),
    if_neg (mt List.isPrefixOf_iff_prefix.1 h.2)]

/-- Lines that neither begin nor end a section are its body. -/
theorem scan_body {ls : List (List UInt8)} {label : List UInt8} (h : ∀ l ∈ ls, IsBody label l)
    (body : List UInt8) (rest : List (List UInt8)) :
    scan (some label) body (ls ++ rest) = scan (some label) (body ++ ls.flatten) rest := by
  induction ls generalizing body with
  | nil => rw [List.nil_append, List.flatten_nil, List.append_nil]
  | cons l ls ih =>
    rw [List.cons_append, scan_inside (h l List.mem_cons_self),
      ih fun m hm => h m (List.mem_cons_of_mem l hm), List.flatten_cons, List.append_assoc]

end Pem

namespace Credential

/-! ## Rows -/

theorem flatten_rows (bytes : List UInt8) : (rows bytes).flatten = bytes := by
  induction bytes using rows.induct with
  | case1 => rw [rows, List.flatten_nil]
  | case2 b bs ih => rw [rows, List.flatten_cons, ih, List.take_append_drop]

theorem ne_nil_of_mem_rows {bytes row : List UInt8} (h : row ∈ rows bytes) : row ≠ [] := by
  induction bytes using rows.induct with
  | case1 =>
    rw [rows] at h
    exact absurd h List.not_mem_nil
  | case2 b bs ih =>
    rw [rows, List.mem_cons] at h
    rcases h with rfl | h
    · simp [columns]
    · exact ih h

theorem mem_of_mem_rows {bytes row : List UInt8} (h : row ∈ rows bytes) {b : UInt8} (hb : b ∈ row) :
    b ∈ bytes := by
  rw [← flatten_rows bytes]
  exact List.mem_flatten_of_mem h hb

theorem kind_of_extract {raw : List UInt8} {kind : CredentialKind} {c : Credential}
    (h : extract raw kind = .ok c) : c.kind = kind := by
  unfold extract at h
  split at h
  · cases h
  · cases h
  · split at h <;> cases h
    rfl

/-! ## The section -/

/-- A byte of a payload: ASCII, no line end and no dash. -/
theorem of_isSymbol (b : UInt8) :
    Base64.isSymbol b = true → b < 128 ∧ Pem.isLineEnd b = false ∧ b ≠ 45 :=
  Base64.forall_byte
    (p := fun b => Base64.isSymbol b = true → b < 128 ∧ Pem.isLineEnd b = false ∧ b ≠ 45)
    (by decide +kernel) b

variable (c : Credential)

theorem isSymbol_of_mem_bodyLines {row : List UInt8} (h : row ∈ c.bodyLines) {b : UInt8}
    (hb : b ∈ row) : Base64.isSymbol b = true :=
  Base64.isSymbol_of_mem_encode (mem_of_mem_rows h hb)

/-- How the section begins and ends. -/
def frame (kind : CredentialKind) : List UInt8 × List UInt8 :=
  (Pem.bytesOf ("-----BEGIN " ++ kind.text ++ "-----\n"),
    Pem.bytesOf ("-----END " ++ kind.text ++ "-----\n"))

theorem pemBytes_eq :
    c.pemBytes = (frame c.kind).1 ++ (c.bodyLines.flatMap (· ++ [10]) ++ (frame c.kind).2) := by
  rw [pemBytes, frame, List.append_assoc]

theorem lines_pemBytes :
    Pem.lines c.pemBytes =
      (frame c.kind).1 :: (c.bodyLines.map (· ++ [10]) ++ [(frame c.kind).2]) := by
  have hrows : ∀ l ∈ c.bodyLines, ∀ b ∈ l, Pem.isLineEnd b = false := fun l hl b hb =>
    (of_isSymbol b (c.isSymbol_of_mem_bodyLines hl hb)).2.1
  have hend : Pem.lines (frame c.kind).2 = [(frame c.kind).2] := by
    cases c.kind <;> decide +kernel
  obtain ⟨l, hl, hbegin⟩ : ∃ l, (∀ b ∈ l, Pem.isLineEnd b = false) ∧ (frame c.kind).1 = l ++ [10] :=
    ⟨(frame c.kind).1.dropLast, by cases c.kind <;> decide +kernel⟩
  rw [pemBytes_eq, hbegin, List.append_assoc, List.singleton_append, Pem.lines_append hl rfl,
    Pem.lines_flatMap hrows rfl, hend]

theorem isBody_bodyLine {line : List UInt8} (h : line ∈ c.bodyLines.map (· ++ [10]))
    (label : List UInt8) : Pem.IsBody label line := by
  obtain ⟨row, hrow, rfl⟩ := List.mem_map.1 h
  obtain ⟨b, bs, rfl⟩ := List.exists_cons_of_ne_nil (ne_nil_of_mem_rows hrow)
  have hb := of_isSymbol b (c.isSymbol_of_mem_bodyLines hrow List.mem_cons_self)
  refine Pem.isBody_of_head? (fun hd => ?_) label
  exact hb.2.2 (Option.some.inj hd)

theorem filter_body :
    ((c.bodyLines.map (· ++ [10])).flatten.filter fun b => !Base64.isBlank b) =
      Base64.encode c.der := by
  have h : ∀ rs : List (List UInt8), (∀ r ∈ rs, ∀ b ∈ r, Base64.isSymbol b = true) →
      ((rs.map (· ++ [10])).flatten.filter fun b => !Base64.isBlank b) = rs.flatten := by
    intro rs hrs
    induction rs with
    | nil => rfl
    | cons r rs ih =>
      have hr : (r.filter fun b => !Base64.isBlank b) = r := List.filter_eq_self.2 fun b hb => by
        rw [Base64.isBlank_of_isSymbol b (hrs r List.mem_cons_self b hb)]
        rfl
      rw [List.map_cons, List.flatten_cons, List.filter_append, List.filter_append, hr,
        ih fun s hs => hrs s (List.mem_cons_of_mem r hs), List.flatten_cons]
      simp [Base64.isBlank]
  rw [h c.bodyLines fun r hr b hb => c.isSymbol_of_mem_bodyLines hr hb]
  exact flatten_rows _

/-- **What is written of a credential is read back.** -/
theorem extract_pemBytes : extract c.pemBytes c.kind = .ok c := by
  have hbegin : Pem.beginMark.isPrefixOf (frame c.kind).1 = true ∧
      Pem.beginLabel (frame c.kind).1 = .ok (Pem.bytesOf c.kind.text) := by
    cases c.kind <;> exact ⟨rfl, rfl⟩
  have hend : ¬ Pem.beginMark.isPrefixOf (frame c.kind).2 = true ∧
      (Pem.endMark (Pem.bytesOf c.kind.text)).isPrefixOf (frame c.kind).2 = true ∧
      Pem.Label.ofBytes? (Pem.bytesOf c.kind.text) = some c.kind.label ∧
      c.kind.label ≠ .echConfig := by
    cases c.kind <;> decide
  have hsection : Pem.firstSection c.pemBytes = .ok (some (c.kind.label, c.der)) := by
    rw [Pem.firstSection, lines_pemBytes, Pem.scan, if_pos hbegin.1, hbegin.2]
    change Pem.scan (some _) _ _ = _
    rw [Pem.scan_body fun l hl => c.isBody_bodyLine hl _, List.nil_append, Pem.scan, if_neg hend.1,
      if_pos hend.2.1, hend.2.2.1, Base64.decodeLoose_of_filter c.filter_body]
    exact if_neg hend.2.2.2
  rw [extract, hsection]
  exact if_pos rfl

theorem isAscii_pemBytes : IsAscii c.pemBytes := by
  intro b hb
  rw [pemBytes_eq, List.mem_append, List.mem_append, List.mem_flatMap] at hb
  have hframe : IsAscii (frame c.kind).1 ∧ IsAscii (frame c.kind).2 := by
    rw [IsAscii, IsAscii]
    cases c.kind <;> decide +kernel
  rcases hb with hb | ⟨row, hrow, hb⟩ | hb
  · exact hframe.1 b hb
  · rw [List.mem_append, List.mem_singleton] at hb
    rcases hb with hb | rfl
    · exact (of_isSymbol b (c.isSymbol_of_mem_bodyLines hrow hb)).1
    · decide
  · exact hframe.2 b hb

theorem extract_toPem : extract (utf8Bytes c.toPem) c.kind = .ok c := by
  rw [toPem, Text.utf8Bytes_asciiText c.isAscii_pemBytes, extract_pemBytes]

theorem utf8Bytes_payload : utf8Bytes c.payload = Base64.encode c.der :=
  Text.utf8Bytes_asciiText fun b hb => (of_isSymbol b (Base64.isSymbol_of_mem_encode hb)).1

theorem decode?_payload : Base64.decode? (utf8Bytes c.payload) = some c.der := by
  rw [utf8Bytes_payload, Base64.decode?_encode]

/-- The payload always denotes something. -/
@[simp] theorem toDer_eq : c.toDer = c.der := by
  rw [toDer, decode?_payload]
  rfl

theorem toPem_ne_empty : c.toPem ≠ "" := by
  intro h
  have he := c.extract_toPem
  rw [h] at he
  -- the empty text has no section
  change Except.error (Fault.noSection c.kind) = Except.ok c at he
  cases he

/-! ## A section on one line -/

/-- A section that has lost its line ends. -/
def oneLine : List UInt8 :=
  Pem.bytesOf ("-----BEGIN " ++ c.kind.text ++ "-----") ++ Base64.encode c.der ++
    Pem.bytesOf ("-----END " ++ c.kind.text ++ "-----")

/-- What is taken for its label: all that stands between the first dashes and the last. -/
def oneLineLabel : List UInt8 :=
  Pem.bytesOf (c.kind.text ++ "-----") ++ Base64.encode c.der ++
    Pem.bytesOf ("-----END " ++ c.kind.text)

theorem encode_infix_oneLine : Base64.encode c.der <:+: c.oneLine := ⟨_, _, rfl⟩

theorem encode_infix_oneLineLabel : Base64.encode c.der <:+: c.oneLineLabel := ⟨_, _, rfl⟩

theorem mem_oneLine {b : UInt8} (h : b ∈ c.oneLine) : b < 128 ∧ Pem.isLineEnd b = false := by
  have hframe : ∀ kind : CredentialKind,
      (∀ b ∈ Pem.bytesOf ("-----BEGIN " ++ kind.text ++ "-----"),
        b < 128 ∧ Pem.isLineEnd b = false) ∧
      ∀ b ∈ Pem.bytesOf ("-----END " ++ kind.text ++ "-----"),
        b < 128 ∧ Pem.isLineEnd b = false := by
    intro kind
    cases kind <;> decide +kernel
  rw [oneLine, List.mem_append, List.mem_append] at h
  rcases h with (h | h) | h
  · exact (hframe c.kind).1 b h
  · have hb := of_isSymbol b (Base64.isSymbol_of_mem_encode h)
    exact ⟨hb.1, hb.2.1⟩
  · exact (hframe c.kind).2 b h

theorem isAscii_oneLine : IsAscii c.oneLine := fun _ hb => (c.mem_oneLine hb).1

theorem oneLine_ne_nil : c.oneLine ≠ [] := by
  rw [oneLine, List.append_assoc]
  cases c.kind <;> exact List.cons_ne_nil _ _

/-- A line that begins a section ends with five dashes, and so does this one. -/
theorem beginLabel_oneLine : Pem.beginLabel c.oneLine = .ok c.oneLineLabel := by
  have htrailer : Pem.trailer c.oneLine.reverse =
      (5, (Pem.beginMark ++ c.oneLineLabel).reverse) := by
    rw [oneLine, oneLineLabel, List.reverse_append, List.reverse_append, List.reverse_append,
      List.reverse_append, List.reverse_append, List.append_assoc, List.append_assoc]
    cases c.kind <;> rfl
  rw [Pem.beginLabel, htrailer]
  dsimp only
  rw [if_pos rfl, List.reverse_reverse, List.drop_left]

/-- **A section on one line has no end**, whatever its body is. -/
theorem firstSection_oneLine :
    Pem.firstSection c.oneLine = .error (.missingEnd c.oneLineLabel) := by
  have hbegin : Pem.beginMark.isPrefixOf c.oneLine = true := by
    rw [oneLine, List.append_assoc]
    cases c.kind <;> rfl
  rw [Pem.firstSection, Pem.lines_of_noLineEnd (fun b hb => (c.mem_oneLine hb).2) c.oneLine_ne_nil,
    Pem.scan, if_pos hbegin, beginLabel_oneLine]
  rfl

end Credential

/-! ## Under a key -/

theorem readCredential_eq_ok {key : String} {kind : CredentialKind} {raw : List UInt8}
    {c : Credential} :
    readCredential key kind raw = .ok c ↔ Credential.extract raw kind = .ok c := by
  unfold readCredential
  cases Credential.extract raw kind <;> simp

end VpnGateway
