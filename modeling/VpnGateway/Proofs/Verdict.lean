import VpnGateway.Proofs.Duration
import VpnGateway.Rule.Apply
import VpnGateway.Setting.Key

/-!
# Rules give a verdict

A rule accepts a text or says what is wrong with it. The rule for durations has one kind of text on
which it does neither.

* `Duration.InRange`: what is computed of the fractions of a text stays in bounds;
* `Rule.Answers`: the text has a value under the rule, or an error;
* **`Rule.answers_iff`**: which texts get a verdict;
* `Rule.answers_of_ascii`: those in ASCII do.
-/

namespace VpnGateway

/-- What is computed of the fractions of a text without a check is in bounds: the power of ten for
the digits, and the product of their number and the unit. -/
def Duration.InRange (cs : List Char) : Prop :=
  ∀ ts, tokens? cs = some ts → ∀ t ∈ ts, ∀ digits, cut? fractionBytes t.fraction = some digits →
    Nat.pow 10 (byteCount digits) < bound ∧ ∀ n, number digits = .ok n → n * t.unit.size < bound

theorem Duration.inRange (cs : List Char) : InRange cs :=
  fun _ _ t _ _ h => ⟨scale_lt_bound h, fun _ hn => part_lt_bound h hn t.unit⟩

theorem readDuration_eq_brokenOff_iff (key raw : String) :
    readDuration key raw = .error .brokenOff ↔ Duration.BreaksOff raw.toList := by
  rw [← Duration.ofText_eq_cut_iff]
  unfold readDuration
  split <;> simp_all

namespace Rule

/-- The rule gives a verdict on a text: a value or an error. -/
def Answers (rule : Rule) (key raw : String) : Prop :=
  (∃ v, rule.apply key raw = .ok v) ∨ ∃ e, rule.apply key raw = .error (.error e)

theorem answers_iff_ne {rule : Rule} {key raw : String} :
    rule.Answers key raw ↔ rule.apply key raw ≠ .error .brokenOff := by
  unfold Answers
  cases rule.apply key raw with
  | ok v => simp
  | error f => cases f <;> simp

theorem map_eq_brokenOff_iff {α β : Type} {f : α → β} {x : Except Failure α} :
    f <$> x = .error .brokenOff ↔ x = .error .brokenOff := by
  cases x <;> simp [Functor.map, Except.map]

theorem verdict_ne_brokenOff {α : Type} (x : Except SettingError α) :
    verdict x ≠ .error .brokenOff := by
  cases x <;> simp [verdict]

theorem apply_eq_brokenOff_iff (rule : Rule) (key raw : String) :
    rule.apply key raw = .error .brokenOff ↔ rule = .duration ∧ Duration.BreaksOff raw.toList := by
  cases rule with
  | duration =>
    rw [apply, map_eq_brokenOff_iff, readDuration_eq_brokenOff_iff]
    exact (and_iff_right rfl).symm
  | _ => simp [apply, map_eq_brokenOff_iff, verdict_ne_brokenOff]

/-- **A rule gives a verdict on every text, except that of durations on a text that breaks off.** No
number it forms on the way is out of bounds. -/
theorem answers_iff (rule : Rule) (key raw : String) :
    (rule.Answers key raw ↔ ¬ (rule = .duration ∧ Duration.BreaksOff raw.toList)) ∧
      Duration.InRange raw.toList := by
  rw [answers_iff_ne, Ne, apply_eq_brokenOff_iff]
  exact ⟨Iff.rfl, Duration.inRange _⟩

/-- Sixteen digits of one byte and a Devanagari digit of three, of which the cut leaves two. -/
theorem not_answers_devanagari :
    ¬ ∀ (rule : Rule) (key raw : String), rule.Answers key raw := by
  intro h
  have ht : Duration.token? "1.0000000000000000१s".toList =
      some (⟨['1'], "0000000000000000१".toList, .second⟩, []) := by decide +kernel
  have hb : Duration.BreaksOff "1.0000000000000000१s".toList := by
    refine ⟨[], ⟨['1'], "0000000000000000१".toList, .second⟩, [], 0, 1, ?_, rfl, rfl, ?_⟩
    · rw [Duration.tokens?_of_token? ht, Duration.tokens?_nil]
      rfl
    · exact ⟨List.replicate 16 '0', '१', [], by decide, by decide, by decide⟩
  have hn := (apply_eq_brokenOff_iff .duration Key.dnsUpdatePeriod _).2 ⟨rfl, hb⟩
  exact answers_iff_ne.1 (h .duration Key.dnsUpdatePeriod _) hn

theorem answers_of_ascii (rule : Rule) (key : String) {raw : String}
    (h : ∀ c ∈ raw.toList, c.utf8Size = 1) : rule.Answers key raw := by
  rw [answers_iff_ne, Ne, apply_eq_brokenOff_iff]
  exact fun hb => Duration.not_breaksOff_of_ascii h hb.2

end Rule

end VpnGateway
