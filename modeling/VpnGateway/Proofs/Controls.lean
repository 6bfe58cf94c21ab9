import Mathlib.Tactic.SplitIfs
import VpnGateway.Proofs.ListRules
import VpnGateway.Reading

/-!
# Texts without control characters

What is quoted in a message stands there without its control characters, and so do the texts that
have passed a rule about host names, addresses or networks. Everything else in a message is fixed.

* `Text.isControl`, `Text.NoControls`: a text in which no line ends and no escape sequence begins;
* `NoControls.append`, `NoControls.intercalate`: texts that are put together;
* **`Text.noControls_quoted`**: quoting leaves no control character, whatever is quoted;
* `noControls_extract`, **`Rule.noControls_of_apply`**: the messages about values;
* `noControls_of_isHostname`, `noControls_of_network`: the texts that are shown as they are.
-/

namespace VpnGateway

namespace Text

/-! ## Characters -/

/-- A control character. -/
def isControl (c : Char) : Bool :=
  c.toNat < 0x20 || 0x7f ≤ c.toNat && c.toNat < 0xa0

/-- No character of the text is a control character. -/
def NoControls (s : String) : Prop :=
  ∀ c ∈ s.toList, isControl c = false

instance (s : String) : Decidable (NoControls s) :=
  List.decidableBAll _ s.toList

theorem isControl_of_ascii {c : Char} (hlow : 0x20 ≤ c.toNat) (hhigh : c.toNat ≤ 0x7e) :
    isControl c = false := by
  simp only [isControl, Bool.or_eq_false_iff, Bool.and_eq_false_iff, decide_eq_false_iff_not]
  omega

/-- No control character stands alone in quoted text. -/
theorem isControl_of_standsAlone {c : Char} (h : standsAlone c = true) : isControl c = false := by
  have hout : unprintable.contains c = false := by
    rw [standsAlone, Bool.and_eq_true, Bool.not_eq_true'] at h
    exact h.1
  have hlow : ¬ c.toNat ≤ 0x1f := fun hc => Bool.eq_false_iff.1 hout
    (CharRanges.contains_of_mem (List.mem_cons_self) (Nat.zero_le _) hc)
  have hhigh : ¬ (0x7f ≤ c.toNat ∧ c.toNat ≤ 0xa0) := fun hc => Bool.eq_false_iff.1 hout
    (CharRanges.contains_of_mem (List.mem_cons_of_mem _ List.mem_cons_self) hc.1 hc.2)
  simp only [isControl, Bool.or_eq_false_iff, Bool.and_eq_false_iff, decide_eq_false_iff_not]
  omega

theorem isControl_of_isHexDigit {c : Char} (h : IsHexDigit c) : isControl c = false := by
  have hval : c.val.toNat = c.toNat := rfl
  unfold IsHexDigit hexDigit? at h
  simp only [Char.le_def, UInt32.le_iff_toNat_le, hval] at h
  split_ifs at h with hd hl hu
  · exact isControl_of_ascii (Nat.le_trans (by decide) hd.1) (Nat.le_trans hd.2 (by decide))
  · exact isControl_of_ascii (Nat.le_trans (by decide) hl.1) (Nat.le_trans hl.2 (by decide))
  · exact isControl_of_ascii (Nat.le_trans (by decide) hu.1) (Nat.le_trans hu.2 (by decide))
  · cases h

theorem isControl_of_isDigit {c : Char} (h : c.isDigit = true) : isControl c = false :=
  isControl_of_isHexDigit (isHexDigit_of_isDigit h)

/-! ## Texts that are put together -/

theorem NoControls.append {s t : String} (hs : NoControls s) (ht : NoControls t) :
    NoControls (s ++ t) := by
  intro c hc
  rw [String.toList_append] at hc
  exact (List.mem_append.1 hc).elim (hs c) (ht c)

theorem NoControls.intercalate {sep : String} {texts : List String} (hsep : NoControls sep)
    (h : ∀ s ∈ texts, NoControls s) : NoControls (sep.intercalate texts) := by
  intro c hc
  rw [String.toList_intercalate] at hc
  rcases mem_intercalate hc with hc | ⟨cs, hcs, hc⟩
  · exact hsep c hc
  · obtain ⟨s, hs, rfl⟩ := List.mem_map.1 hcs
    exact h s hs c hc

theorem noControls_nat (n : Nat) : NoControls (toString n) := by
  intro c hc
  rw [Nat.toString_eq_repr, Nat.toList_repr] at hc
  exact isControl_of_isDigit (isDigit_of_mem_toDigits hc)

theorem noControls_int (n : Int) : NoControls (toString n) := by
  rw [Int.toString_eq_repr, Int.repr_eq_if]
  split
  · exact noControls_nat _
  · exact .append (by decide) (noControls_nat _)

theorem noControls_bool (b : Bool) : NoControls (toString b) := by
  cases b <;> decide

/-! ## Quoted texts -/

theorem isControl_of_mem_escape {c d : Char} (h : d ∈ escape c) : isControl d = false := by
  unfold escape at h
  split at h
  iterate 6
    · simp only [List.mem_cons, List.not_mem_nil, or_false] at h
      rcases h with rfl | rfl <;> decide
  · split at h
    · next halone =>
      rw [List.mem_singleton.1 h]
      exact isControl_of_standsAlone halone
    · obtain ⟨ds, hds, -⟩ := hexDigits?_toDigits c.toNat
      simp only [List.mem_append, List.mem_cons, List.not_mem_nil, or_false] at h
      rcases h with ((rfl | rfl | rfl) | h) | rfl
      · decide
      · decide
      · decide
      · exact isControl_of_isHexDigit (isHexDigit_of_mapM hds d h)
      · decide

/-- **A quoted text holds no control character**, whatever is quoted. -/
theorem noControls_quoted (s : String) : NoControls (quoted s) := by
  intro c hc
  rw [quoted, String.toList_ofList, List.mem_append, List.mem_cons, List.mem_singleton] at hc
  rcases hc with (rfl | hc) | rfl
  · decide
  · obtain ⟨d, -, hd⟩ := List.mem_flatMap.1 hc
    exact isControl_of_mem_escape hd
  · decide

end Text

open Text

variable {key raw : String} {e : SettingError}

/-! ## Messages -/

section Messages

variable (hkey : NoControls key)
include hkey

theorem noControls_missing : NoControls (SettingError.missing key).message :=
  .append (.append (by decide) hkey) (by decide)

theorem noControls_notAChoice {choices : List String} (h : ∀ c ∈ choices, NoControls c) :
    NoControls (SettingError.notAChoice key raw choices).message :=
  .append (.append (.append (.append (.append (by decide) (noControls_quoted raw)) (by decide))
    hkey) (by decide)) (.intercalate (by decide) h)

theorem noControls_outOfRange (min max : Int64) :
    NoControls (SettingError.outOfRange key raw min max).message :=
  .append (.append (.append (.append (.append (.append (.append (by decide) (noControls_quoted raw))
    (by decide)) hkey) (by decide)) (noControls_int _)) (by decide)) (noControls_int _)

theorem noControls_malformed {fault : FormatFault} (h : NoControls fault.message) :
    NoControls (SettingError.malformed key raw fault).message :=
  .append (.append (.append (.append (.append (by decide) (noControls_quoted raw)) (by decide))
    hkey) (by decide)) h

theorem noControls_noCredential {fault : Credential.Fault} (h : NoControls fault.message) :
    NoControls (SettingError.noCredential key fault).message :=
  .append (.append (.append (by decide) hkey) (by decide)) h

theorem noControls_conflict {deprecated : String} (h : NoControls deprecated) :
    NoControls (SettingError.conflict deprecated key).message :=
  .append (.append (.append (.append h (by decide)) hkey) (by decide)) hkey

end Messages

theorem noControls_deprecation {d : Deprecation} (h : NoControls d.deprecated)
    (h' : NoControls d.replacement) : NoControls d.message :=
  .append (.append (.append (by decide) h) (by decide)) h'

/-! ## Faults of credentials -/

theorem noControls_label (l : Pem.Label) : NoControls l.text := by
  cases l <;> decide

theorem noControls_base64Fault (fault : Base64.Fault) : NoControls fault.message := by
  cases fault with
  | invalidCharacter b => exact .append (.append (by decide) (noControls_nat _)) (by decide)
  | prematurePadding | invalidTrailingPadding => decide

/-- What a PEM fault shows of the bytes is quoted. -/
theorem noControls_pemFault (fault : Pem.Fault) : NoControls fault.message := by
  cases fault with
  | missingEnd label => exact .append (.append (by decide) (noControls_quoted _)) (by decide)
  | illegalStart line => exact .append (by decide) (noControls_quoted _)
  | body fault => exact noControls_base64Fault fault

/-- Whatever the bytes are, the message about them has no control character. -/
theorem noControls_extract {bytes : List UInt8} {kind : CredentialKind} {fault : Credential.Fault}
    (h : Credential.extract bytes kind = .error fault) : NoControls fault.message := by
  unfold Credential.extract at h
  split at h
  · cases h
    exact noControls_pemFault _
  · cases h
    exact .append (.append (by decide) (noControls_label _)) (by decide)
  · next label der _ =>
    split_ifs at h
    cases h
    have hfound : NoControls (Credential.foundName label) := by cases label <;> decide
    exact .append (.append (.append (by decide) hfound) (by decide)) (noControls_label _)

/-! ## Errors of rules -/

section Rules

variable (hkey : NoControls key)
include hkey

theorem noControls_readOnOff (h : readOnOff key raw = .error e) : NoControls e.message := by
  obtain ⟨-, rfl⟩ := readOnOff_eq_error.1 h
  exact noControls_malformed hkey (by decide)

theorem noControls_readRange {min max : Int64} (h : readRange key min max raw = .error e) :
    NoControls e.message := by
  obtain ⟨-, rfl⟩ := readRange_eq_error.1 h
  exact noControls_outOfRange hkey min max

theorem noControls_readChoice {choices : List String} (hchoices : ∀ c ∈ choices, NoControls c)
    (h : readChoice key choices raw = .error e) : NoControls e.message := by
  obtain ⟨-, rfl⟩ := readChoice_eq_error.1 h
  exact noControls_notAChoice hkey hchoices

theorem noControls_readDuration (h : readDuration key raw = .error (.error e)) :
    NoControls e.message := by
  rcases readDuration_eq_error.1 h with ⟨-, rfl⟩ | ⟨-, rfl⟩
  · exact noControls_malformed hkey (by decide)
  · exact noControls_malformed hkey (by decide)

theorem noControls_readAddress (h : readAddress key raw = .error e) : NoControls e.message := by
  obtain ⟨-, rfl⟩ := readAddress_eq_error.1 h
  exact noControls_malformed hkey (by decide)

theorem noControls_readCredential {kind : CredentialKind} {bytes : List UInt8}
    (h : readCredential key kind bytes = .error e) : NoControls e.message := by
  obtain ⟨fault, hfault, rfl⟩ := readCredential_eq_error.1 h
  exact noControls_noCredential hkey (noControls_extract hfault)

end Rules

namespace Rule

/-- The choices that the messages of a rule list. -/
def choices : Rule → List String
  | choice choices | choiceList choices => choices
  | _ => []

theorem noControls_quotedList (choices : List String) : NoControls (quotedList choices) := by
  refine .append (.append (by decide) (.intercalate (by decide) fun s hs => ?_)) (by decide)
  obtain ⟨c, -, rfl⟩ := List.mem_map.1 hs
  exact noControls_quoted c

theorem noControls_outline (rule : Rule) : NoControls rule.outline := by
  cases rule with
  | range min max =>
    exact .append (.append (.append (.append (by decide) (noControls_int _)) (by decide))
      (noControls_int _)) (by decide)
  | choice choices | choiceList choices =>
    exact .append (.append (by decide) (noControls_quotedList choices)) (by decide)
  | credential kind => cases kind <;> decide
  | onOff | duration | address | networks | hostnames => decide

/-- The error of a token that is not accepted quotes the token. -/
theorem noControls_of_listRule {R : ListRule} (hkey : NoControls key)
    (hchoices : ∀ c ∈ R.rule.choices, NoControls c)
    (h : R.rule.apply key raw = .error (.error e)) : NoControls e.message := by
  obtain ⟨_, t, _, -, -, -, he⟩ := ListRule.apply_eq_error_iff.1 h
  cases he
  cases R with
  | choices cs => exact noControls_notAChoice hkey hchoices
  | networks => exact noControls_malformed hkey (by decide)
  | hostnames => exact noControls_malformed hkey (by decide)

/-- **No error of a rule shows a control character**, whatever text it is applied to. -/
theorem noControls_of_apply {rule : Rule} (hkey : NoControls key)
    (hchoices : ∀ c ∈ rule.choices, NoControls c) (h : rule.apply key raw = .error (.error e)) :
    NoControls e.message := by
  cases rule with
  | range min max => exact noControls_readRange hkey (eq_error_of_verdict (eq_error_of_map h))
  | choice choices =>
    exact noControls_readChoice hkey hchoices (eq_error_of_verdict (eq_error_of_map h))
  | choiceList choices => exact noControls_of_listRule (R := .choices choices) hkey hchoices h
  | onOff => exact noControls_readOnOff hkey (eq_error_of_verdict (eq_error_of_map h))
  | duration => exact noControls_readDuration hkey (eq_error_of_map h)
  | address => exact noControls_readAddress hkey (eq_error_of_verdict (eq_error_of_map h))
  | networks => exact noControls_of_listRule (R := .networks) hkey hchoices h
  | hostnames => exact noControls_of_listRule (R := .hostnames) hkey hchoices h
  | credential kind =>
    exact noControls_readCredential hkey (eq_error_of_verdict (eq_error_of_map h))

end Rule

/-! ## Texts that have passed a rule -/

theorem isControl_of_isLetter_address {c : Char} (h : Address.IsLetter c) : isControl c = false := by
  rcases h with rfl | rfl | h
  · decide
  · decide
  · exact isControl_of_isHexDigit h

theorem noControls_of_network {t : String} (h : (Network.ofText? t).isSome = true) :
    NoControls t := by
  obtain ⟨n, hn⟩ := Option.isSome_iff_exists.1 h
  intro c hc
  rcases Network.isLetter_of_ofChars? hn c hc with rfl | rfl | hc
  · decide
  · decide
  · exact isControl_of_isLetter_address hc

theorem isControl_of_isAlphanumeric {c : Char} (h : isAlphanumeric c = true) :
    isControl c = false := by
  rcases Bool.or_eq_true_iff.1 h with h | h
  · rcases Bool.or_eq_true_iff.1 h with h | h
    · have hupper : 'A'.val ≤ c.val ∧ c.val ≤ 'Z'.val := of_decide_eq_true h
      exact isControl_of_ascii (Nat.le_trans (by decide) (UInt32.le_iff_toNat_le.1 hupper.1))
        (Nat.le_trans (UInt32.le_iff_toNat_le.1 hupper.2) (by decide))
    · have hlower : 'a'.val ≤ c.val ∧ c.val ≤ 'z'.val := by
        simpa only [Bool.and_eq_true, decide_eq_true_eq] using show (_ && _) = true from h
      exact isControl_of_ascii (Nat.le_trans (by decide) (UInt32.le_iff_toNat_le.1 hlower.1))
        (Nat.le_trans (UInt32.le_iff_toNat_le.1 hlower.2) (by decide))
  · exact isControl_of_isDigit h

theorem noControls_of_isHostname {t : String} (h : isHostname t = true) : NoControls t := by
  intro c hc
  rcases Hostname.isLetter_of_scan (Bool.and_eq_true_iff.1 h).2 c hc with rfl | rfl | hc
  · decide
  · decide
  · exact isControl_of_isAlphanumeric hc

theorem noControls_toText (a : Address) : NoControls a.toText :=
  fun c hc => isControl_of_isLetter_address (Address.isLetter_of_ofChars? a.ofText?_toText c hc)

end VpnGateway
