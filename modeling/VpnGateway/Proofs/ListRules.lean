import VpnGateway.Proofs.CommaLists
import VpnGateway.Proofs.Reading
import VpnGateway.Proofs.RuleErrors

/-!
# Comma lists under a rule

Three rules are about comma lists. They read the tokens of a text from left to right, each as it is
written, and stop at the first one that they do not accept.

* `Text.eq_commaTokens_iff`: there is one way to cut a text at every comma;
* `ListRule`, `ListRule.Accepts`, `ListRule.refusal`: the rules, and what they make of a token;
* `ListRule.apply_eq_ok_iff`, `ListRule.apply_eq_error_iff`: what they make of a text;
* `ListRule.fst_list_of_empty`, `ListRule.fst_list_of_ne`: what the getter of lists makes of it;
* **`ListRule.apply_exact`**: nothing is lost, the first bad token is to blame, and the getter of lists
  adds nothing but the empty list.
-/

namespace VpnGateway

/-- There is one way to cut a text at every comma. -/
theorem Text.eq_commaTokens_iff {l : List String} {s : String} : l = commaTokens s ↔
    l ≠ [] ∧ (∀ t ∈ l, ',' ∉ t.toList) ∧ commaJoin l = s := by
  constructor
  · rintro rfl
    refine ⟨?_, fun t ht => ?_, commaJoin_commaTokens s⟩
    · exact fun h => List.splitOn_ne_nil _ _ (List.map_eq_nil_iff.1 h)
    · obtain ⟨cs, hcs, rfl⟩ := List.mem_map.1 ht
      rw [String.toList_ofList]
      exact not_mem_of_mem_splitOn hcs
  · rintro ⟨hne, hcomma, rfl⟩
    exact (commaTokens_commaJoin hne hcomma).symm

/-- The rules about comma lists. -/
inductive ListRule
  | choices (choices : List String)
  | networks
  | hostnames
  deriving DecidableEq, Repr

namespace ListRule

open Reading (raw list bind_of_ok)

/-- The rule itself. -/
def rule : ListRule → Rule
  | choices cs => .choiceList cs
  | networks => .networks
  | hostnames => .hostnames

/-- What the rule accepts as a token. -/
def Accepts : ListRule → String → Prop
  | choices cs, t => t ∈ cs
  | networks, t => (Network.ofText? t).isSome = true
  | hostnames, t => isHostname t = true

/-- The error of a token that the rule does not accept. -/
def refusal : ListRule → String → String → SettingError
  | choices cs, key, t => .notAChoice key t cs
  | networks, key, t => .malformed key t .notNetwork
  | hostnames, key, t => .malformed key t .notHostname

/-- How the rule reads a token. -/
def token : ListRule → String → String → Except SettingError String
  | choices cs, key, t => readChoice key cs t
  | networks, key, t => (fun _ => t) <$> readNetwork key t
  | hostnames, key, t => readHostname key t

variable {R : ListRule} {key text t u : String} {l : List String} {e : SettingError} {f : Failure}

theorem apply_eq (R : ListRule) (key text : String) : R.rule.apply key text =
    Value.list <$> verdict ((Text.commaTokens text).mapM (R.token key)) := by
  cases R <;> rfl

/-- A token that is accepted is read as it is written. -/
theorem token_eq_ok : R.token key t = .ok u ↔ u = t ∧ R.Accepts t := by
  cases R with
  | choices cs => exact readChoice_eq_ok
  | networks =>
    rw [token, except_map_eq_ok]
    simp only [readNetwork_eq_ok, exists_and_right, ← Option.isSome_iff_exists]
    exact ⟨fun ⟨h, he⟩ => ⟨he.symm, h⟩, fun ⟨he, h⟩ => ⟨h, he.symm⟩⟩
  | hostnames => exact readHostname_eq_ok

/-- A token that is not accepted is refused. -/
theorem token_eq_error : R.token key t = .error e ↔ ¬ R.Accepts t ∧ e = R.refusal key t := by
  cases R with
  | choices cs => exact readChoice_eq_error
  | networks =>
    rw [token, except_map_eq_error, readNetwork_eq_error]
    simp [Accepts, refusal]
  | hostnames =>
    rw [token, readHostname_eq_error]
    simp [Accepts, refusal]

theorem apply_eq_ok_iff {v : Value} : R.rule.apply key text = .ok v ↔
    (∀ t ∈ Text.commaTokens text, R.Accepts t) ∧ v = .list (Text.commaTokens text) := by
  rw [apply_eq, map_verdict_eq_ok]
  simp only [mapM_eq_ok fun _ _ => token_eq_ok]
  constructor
  · rintro ⟨_, ⟨rfl, h⟩, rfl⟩
    exact ⟨h, rfl⟩
  · rintro ⟨h, rfl⟩
    exact ⟨_, ⟨rfl, h⟩, rfl⟩

/-- The first token that is not accepted decides the error. -/
theorem apply_eq_error_iff : R.rule.apply key text = .error f ↔
    ∃ front t back, Text.commaTokens text = front ++ t :: back ∧ (∀ u ∈ front, R.Accepts u) ∧
      ¬ R.Accepts t ∧ f = .error (R.refusal key t) := by
  rw [apply_eq, except_map_eq_error, verdict_eq_error_iff]
  constructor
  · rintro ⟨e, he, rfl⟩
    obtain ⟨front, t, back, hsplit, hfront, ht⟩ := mapM_eq_error_iff.1 he
    obtain ⟨hnot, rfl⟩ := token_eq_error.1 ht
    refine ⟨front, t, back, hsplit, fun u hu => ?_, hnot, rfl⟩
    obtain ⟨w, hw⟩ := hfront u hu
    exact (token_eq_ok.1 hw).2
  · rintro ⟨front, t, back, hsplit, hfront, hnot, rfl⟩
    refine ⟨_, mapM_eq_error_iff.2 ⟨front, t, back, hsplit, fun u hu => ?_, ?_⟩, rfl⟩
    · exact ⟨u, token_eq_ok.2 ⟨rfl, hfront u hu⟩⟩
    · exact token_eq_error.2 ⟨hnot, rfl⟩

/-- The lists that are read are those of accepted tokens that make the text when they are joined. -/
theorem apply_eq_list_iff : R.rule.apply key text = .ok (.list l) ↔
    l ≠ [] ∧ (∀ t ∈ l, ',' ∉ t.toList ∧ R.Accepts t) ∧ Text.commaJoin l = text := by
  rw [apply_eq_ok_iff, Value.list.injEq]
  constructor
  · rintro ⟨haccepts, hl⟩
    obtain ⟨hne, hcomma, hjoin⟩ := Text.eq_commaTokens_iff.1 hl
    rw [← hl] at haccepts
    exact ⟨hne, fun t ht => ⟨hcomma t ht, haccepts t ht⟩, hjoin⟩
  · rintro ⟨hne, htokens, hjoin⟩
    obtain rfl := Text.eq_commaTokens_iff.2 ⟨hne, fun t ht => (htokens t ht).1, hjoin⟩
    exact ⟨fun t ht => (htokens t ht).2, rfl⟩

/-! ## The getter -/

section Getter

variable {policy : Policy} {s : Surroundings} {j : Journal}

theorem fst_list_of_empty (h : (raw key policy s j).1 = .ok "") :
    (list key R.rule policy s j).1 = .ok [] := by
  have hraw : raw key policy s j = (.ok "", (raw key policy s j).2) := Prod.ext h rfl
  rw [list, bind_of_ok hraw, if_pos rfl]
  rfl

theorem fst_list_of_ne (h : (raw key policy s j).1 = .ok text) (hne : text ≠ "") :
    Value.list <$> (list key R.rule policy s j).1 = R.rule.apply key text := by
  have hraw : raw key policy s j = (.ok text, (raw key policy s j).2) := Prod.ext h rfl
  rw [list, bind_of_ok hraw, if_neg hne, apply_eq]
  cases (Text.commaTokens text).mapM (R.token key) <;> rfl

end Getter

/-- **Comma lists are read without loss, up to the first token that is not accepted**, which the error
names. -/
theorem apply_exact (R : ListRule) (key text : String) :
    (∀ v, R.rule.apply key text = .ok v ↔
      ∃ l, v = .list l ∧ l = Text.commaTokens text ∧ ∀ t ∈ l, R.Accepts t) ∧
    (∀ l, R.rule.apply key text = .ok (.list l) ↔
      l ≠ [] ∧ (∀ t ∈ l, ',' ∉ t.toList ∧ R.Accepts t) ∧ Text.commaJoin l = text) ∧
    (∀ f, R.rule.apply key text = .error f ↔
      ∃ front t back, Text.commaTokens text = front ++ t :: back ∧ (∀ u ∈ front, R.Accepts u) ∧
        ¬ R.Accepts t ∧ f = .error (R.refusal key t)) ∧
    ∀ policy s j, (raw key policy s j).1 = .ok text →
      (text = "" → (list key R.rule policy s j).1 = .ok []) ∧
      (text ≠ "" → Value.list <$> (list key R.rule policy s j).1 = R.rule.apply key text) := by
  refine ⟨fun v => ?_, fun l => apply_eq_list_iff, fun f => apply_eq_error_iff,
    fun policy s j hraw => ⟨fun hempty => fst_list_of_empty (hempty ▸ hraw), fst_list_of_ne hraw⟩⟩
  rw [apply_eq_ok_iff]
  constructor
  · rintro ⟨h, rfl⟩
    exact ⟨_, rfl, rfl, h⟩
  · rintro ⟨_, rfl, rfl, h⟩
    exact ⟨h, rfl⟩

example : (choices ["", "a"]).rule.apply "K" "a,,a" = .ok (.list ["a", "", "a"]) ∧
    hostnames.rule.apply "K" "a.org,-b,b-" = .error (.error (.malformed "K" "-b" .notHostname)) :=
  ⟨rfl, rfl⟩

end ListRule

end VpnGateway
