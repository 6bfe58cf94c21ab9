import Mathlib.Tactic.SplitIfs
import VpnGateway.Proofs.Result
import VpnGateway.Rule.Apply

/-!
# The errors of rules

* `readOnOff_eq_error` to `readCredential_eq_error`: when a rule gives an error, and which one;
* `NamesKey`: the errors of a result name a key;
* `readRange_eq_ok`, `map_verdict_eq_ok`: when a rule gives a value;
* **`Rule.key_of_apply`**: the errors of a rule name the key it is given.
-/

namespace VpnGateway

variable {key : String}

theorem verdict_eq_ok_iff {α : Type} {x : Except SettingError α} {a : α} :
    verdict x = .ok a ↔ x = .ok a := by
  cases x <;> simp [verdict]

theorem verdict_eq_error_iff {α : Type} {x : Except SettingError α} {f : Failure} :
    verdict x = .error f ↔ ∃ e, x = .error e ∧ f = .error e := by
  cases x <;> simp [verdict, eq_comm]

theorem eq_error_of_verdict {α : Type} {x : Except SettingError α} {e : SettingError}
    (h : verdict x = .error (.error e)) : x = .error e := by
  cases x with
  | ok a => cases h
  | error d =>
    cases h
    rfl

/-! ## Which error a rule gives -/

section

variable {raw : String} {e : SettingError}

theorem readOnOff_eq_error : readOnOff key raw = .error e ↔
    (raw ≠ "on" ∧ raw ≠ "off") ∧ e = .malformed key raw .notOnOff := by
  unfold readOnOff
  split_ifs with hon hoff
  · exact ⟨fun h => (by cases h), fun h => absurd hon h.1.1⟩
  · exact ⟨fun h => (by cases h), fun h => absurd hoff h.1.2⟩
  · exact ⟨fun h => ⟨⟨hon, hoff⟩, (Except.error.inj h).symm⟩, fun h => (by rw [h.2])⟩

theorem readRange_eq_ok {min max n : Int64} : readRange key min max raw = .ok n ↔
    Text.int64? raw = some n ∧ min ≤ n ∧ n ≤ max := by
  unfold readRange
  split
  · next m hm =>
    rw [hm, Option.some.injEq]
    split_ifs with hbounds
    · rw [Except.ok.injEq]
      exact ⟨fun he => ⟨he, he ▸ hbounds⟩, And.left⟩
    · exact ⟨nofun, fun ⟨he, hn⟩ => absurd (he ▸ hn) hbounds⟩
  · next hnone =>
    rw [hnone]
    exact ⟨nofun, fun h => nomatch h.1⟩

theorem readRange_eq_error {min max : Int64} : readRange key min max raw = .error e ↔
    (∀ n, Text.int64? raw = some n → ¬(min ≤ n ∧ n ≤ max)) ∧ e = .outOfRange key raw min max := by
  unfold readRange
  split
  · next n hn =>
    rw [hn]
    split_ifs with hbounds
    · exact ⟨fun h => (by cases h), fun h => absurd hbounds (h.1 n rfl)⟩
    · refine ⟨fun h => ⟨fun m hm => ?_, (Except.error.inj h).symm⟩, fun h => (by rw [h.2])⟩
      rwa [← Option.some.inj hm]
  · next hnone =>
    rw [hnone]
    exact ⟨fun h => ⟨nofun, (Except.error.inj h).symm⟩, fun h => (by rw [h.2])⟩

theorem readChoice_eq_error {choices : List String} : readChoice key choices raw = .error e ↔
    raw ∉ choices ∧ e = .notAChoice key raw choices := by
  unfold readChoice
  split_ifs with hmem
  · exact ⟨fun h => (by cases h), fun h => absurd hmem h.1⟩
  · exact ⟨fun h => ⟨hmem, (Except.error.inj h).symm⟩, fun h => (by rw [h.2])⟩

theorem readDuration_eq_error : readDuration key raw = .error (.error e) ↔
    Duration.ofText raw = .error .malformed ∧ e = .malformed key raw .notDuration ∨
      Duration.ofText raw = .error .outOfRange ∧ e = .malformed key raw .durationOutOfRange := by
  unfold readDuration
  cases Duration.ofText raw with
  | ok d => simp
  | error fault => cases fault <;> simp [eq_comm]

theorem readAddress_eq_error : readAddress key raw = .error e ↔
    Address.ofText? raw = none ∧ e = .malformed key raw .notAddress := by
  unfold readAddress
  cases Address.ofText? raw with
  | some a => simp
  | none => simp [eq_comm]

theorem readNetwork_eq_error : readNetwork key raw = .error e ↔
    Network.ofText? raw = none ∧ e = .malformed key raw .notNetwork := by
  unfold readNetwork
  cases Network.ofText? raw with
  | some n => simp
  | none => simp [eq_comm]

theorem readHostname_eq_error : readHostname key raw = .error e ↔
    isHostname raw = false ∧ e = .malformed key raw .notHostname := by
  unfold readHostname
  cases isHostname raw with
  | true => simp
  | false => simp [eq_comm]

theorem readCredential_eq_error {kind : CredentialKind} {bytes : List UInt8} :
    readCredential key kind bytes = .error e ↔
      ∃ fault, Credential.extract bytes kind = .error fault ∧ e = .noCredential key fault := by
  unfold readCredential
  cases Credential.extract bytes kind with
  | ok c => simp
  | error fault => simp [eq_comm]

end

/-! ## The key of an error -/

/-- The errors of `x` name the key. -/
def NamesKey {α : Type} (key : String) (x : Except SettingError α) : Prop :=
  ∀ e, x = .error e → e.key = key

theorem NamesKey.map {α β : Type} {f : α → β} {x : Except SettingError α} (h : NamesKey key x) :
    NamesKey key (f <$> x) :=
  fun e he => h e (eq_error_of_map he)

theorem NamesKey.mapM {f : String → Except SettingError String} (h : ∀ t, NamesKey key (f t))
    (tokens : List String) : NamesKey key (tokens.mapM f) := by
  intro e he
  obtain ⟨t, -, ht⟩ := mapM_eq_error he
  exact h t e ht

theorem namesKey_readNetwork (t : String) : NamesKey key (readNetwork key t) :=
  fun _ h => (readNetwork_eq_error.1 h).2 ▸ rfl

theorem namesKey_readAddress (t : String) : NamesKey key (readAddress key t) :=
  fun _ h => (readAddress_eq_error.1 h).2 ▸ rfl

theorem namesKey_readRange (min max : Int64) (t : String) :
    NamesKey key (readRange key min max t) :=
  fun _ h => (readRange_eq_error.1 h).2 ▸ rfl

theorem namesKey_readChoice (choices : List String) (t : String) :
    NamesKey key (readChoice key choices t) :=
  fun _ h => (readChoice_eq_error.1 h).2 ▸ rfl

theorem namesKey_readHostname (t : String) : NamesKey key (readHostname key t) :=
  fun _ h => (readHostname_eq_error.1 h).2 ▸ rfl

theorem namesKey_readOnOff (t : String) : NamesKey key (readOnOff key t) :=
  fun _ h => (readOnOff_eq_error.1 h).2 ▸ rfl

theorem namesKey_readCredential (kind : CredentialKind) (bytes : List UInt8) :
    NamesKey key (readCredential key kind bytes) := by
  intro e h
  obtain ⟨fault, -, rfl⟩ := readCredential_eq_error.1 h
  rfl

theorem key_of_verdict {α β : Type} {x : Except SettingError α} (h : NamesKey key x) {g : α → β}
    {e : SettingError} (he : g <$> verdict x = .error (.error e)) : e.key = key :=
  h e (eq_error_of_verdict (eq_error_of_map he))

theorem map_verdict_eq_ok {α β : Type} {x : Except SettingError α} {g : α → β} {b : β} :
    g <$> verdict x = .ok b ↔ ∃ a, x = .ok a ∧ g a = b := by
  simp only [except_map_eq_ok, verdict_eq_ok_iff]

/-- The errors of a rule name the key it is given. -/
theorem Rule.key_of_apply {rule : Rule} {raw : String} {e : SettingError}
    (h : rule.apply key raw = .error (.error e)) : e.key = key := by
  cases rule with
  | range min max => exact key_of_verdict (namesKey_readRange min max raw) h
  | choice choices => exact key_of_verdict (namesKey_readChoice choices raw) h
  | choiceList choices => exact key_of_verdict (.mapM (namesKey_readChoice choices) _) h
  | onOff => exact key_of_verdict (namesKey_readOnOff raw) h
  | duration =>
    rcases readDuration_eq_error.1 (eq_error_of_map h) with ⟨-, rfl⟩ | ⟨-, rfl⟩
    · rfl
    · rfl
  | address => exact key_of_verdict (namesKey_readAddress raw) h
  | networks => exact key_of_verdict (.mapM (fun t => .map (namesKey_readNetwork t)) _) h
  | hostnames => exact key_of_verdict (.mapM namesKey_readHostname _) h
  | credential kind => exact key_of_verdict (namesKey_readCredential kind _) h

end VpnGateway
