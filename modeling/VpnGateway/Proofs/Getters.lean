import VpnGateway.Proofs.CommaLists
import VpnGateway.Proofs.Duration
import VpnGateway.Proofs.Reading
import VpnGateway.Proofs.RuleErrors

/-!
# What the readings of values do

* `Reading.blames_raw`, `Reading.logs_raw`, `Reading.yields_raw`: the text of a setting;
* `Reading.blames_typed`, `Reading.logs_typed`, `Reading.yields_typed`: values under any rule;
* `Reading.ensures_choice` and its neighbours: what holds of a value under a rule;
* `Reading.ensures_list`, `Reading.ensures_byte` and their neighbours: comma lists and bytes;
* `Reading.byte_eq`: a byte is read as the integer that it is;
* `Reading.blames_renamed` and its neighbours: renamed settings.
-/

namespace VpnGateway

namespace Reading

variable {key : String} {policy : Policy} {s : Surroundings} {p : Log.Line → Prop}

/-! ## Texts -/

theorem blames_lookup : Blames (lookup key) [key] := by
  refine .bind (.ask key) fun answer => ?_
  cases answer with
  | unset => exact .pure _
  | text value => exact .pure _
  | notUtf8 lossy => exact .fail List.mem_cons_self

theorem logs_lookup : Logs (lookup key) p := by
  refine .bind (.ask key) fun answer => ?_
  cases answer with
  | unset => exact .pure _
  | text value => exact .pure _
  | notUtf8 lossy => exact .fail _

theorem key_of_resolve {found : Option String} {e : SettingError}
    (h : resolve key policy found = .error e) : e.key = key := by
  unfold resolve at h
  split at h <;> cases h
  rfl

theorem blames_rawWithOrigin : Blames (rawWithOrigin key policy) [key] := by
  refine .bind blames_lookup fun found => ?_
  split
  · rename_i e h
    exact .fail (by rw [key_of_resolve h]; exact List.mem_cons_self)
  · exact .bind (.note _ _ _) fun _ => .pure _

/-- The line that says where a value comes from. -/
def originLine (key : String) (origin : Origin) : Log.Line :=
  ⟨.debug, .source, key ++ " resolved from " ++ origin.text⟩

theorem logs_rawWithOrigin (h : ∀ origin, p (originLine key origin)) :
    Logs (rawWithOrigin key policy) p := by
  refine .bind logs_lookup fun found => ?_
  split
  · exact .fail _
  · exact .bind (.note (h _)) fun _ => .pure _

theorem blames_raw : Blames (raw key policy) [key] :=
  .bind blames_rawWithOrigin fun _ => .pure _

theorem logs_raw (h : ∀ origin, p (originLine key origin)) : Logs (raw key policy) p :=
  .bind (logs_rawWithOrigin h) fun _ => .pure _

/-- Where a text stands for what is not set, the text of a setting is not empty. -/
theorem ensures_raw {value : String} (h : value ≠ "") :
    Ensures (raw key (.withDefault value)) (· ≠ "") := by
  refine .bind (p := fun v => v.1 ≠ "") (.after fun found => ?_) fun v hv => .pure hv
  split
  · exact .fail _
  · rename_i v origin hr
    refine .after fun _ => .pure ?_
    unfold resolve at hr
    split at hr
    · rename_i value hf
      cases hr
      have hne := (Option.filter_eq_some_iff.1 hf).2
      simpa using hne
    all_goals rename_i hpolicy
    all_goals cases hpolicy
    all_goals cases hr
    exact h

variable {map : String → Option String}

theorem yields_lookup (hs : s.source = .ofMap map) : Yields (lookup key) s (map key) := by
  intro j
  refine ⟨{ j with lookups := j.lookups ++ [key] }, ?_, rfl⟩
  have ha : ask key s j = (.ok (Source.ofMap map j.lookups key),
      { j with lookups := j.lookups ++ [key] }) := by
    rw [← hs]
    rfl
  rw [lookup, bind_of_ok ha, Source.ofMap]
  cases map key <;> rfl

theorem yields_rawWithOrigin (hs : s.source = .ofMap map) {value : String} {origin : Origin}
    (hr : resolve key policy (map key) = .ok (value, origin)) :
    Yields (rawWithOrigin key policy) s (value, origin) := by
  refine .bind (yields_lookup hs) ?_
  rw [hr]
  exact .bind (.note _ _ _) (.pure _)

theorem yields_raw (hs : s.source = .ofMap map) {value : String} {origin : Origin}
    (hr : resolve key policy (map key) = .ok (value, origin)) :
    Yields (raw key policy) s value :=
  .bind (yields_rawWithOrigin hs hr) (.pure _)

theorem resolve_set {value : String} (h : value ≠ "") :
    resolve key policy (some value) = .ok (value, .environment) := by
  simp [resolve, Option.filter, h]

/-! ## Values -/

section Values

variable {α : Type} {rule : Rule} {project : Value → Option α}

theorem blames_validated : Blames (validated key rule policy) [key] := by
  refine .bind blames_raw fun value => .liftExcept fun e he => ?_
  rw [Rule.key_of_apply he]
  exact List.mem_cons_self

theorem blames_typed : Blames (typed key rule policy project) [key] := by
  refine .bind blames_validated fun value => ?_
  split
  · exact .pure _
  · exact .fail List.mem_cons_self

theorem logs_typed (h : ∀ origin, p (originLine key origin)) :
    Logs (typed key rule policy project) p := by
  refine .bind (.bind (logs_raw h) fun _ => .liftExcept _) fun value => ?_
  split
  · exact .pure _
  · exact .fail _

theorem ensures_typed {q : α → Prop}
    (h : ∀ raw v a, rule.apply key raw = .ok v → project v = some a → q a) :
    Ensures (typed key rule policy project) q := by
  refine .bind (p := fun v => ∃ raw, rule.apply key raw = .ok v)
    (.after fun raw => .liftExcept fun v hv => ⟨raw, hv⟩) fun v ⟨raw, hv⟩ => ?_
  split
  · rename_i a ha
    exact .pure (h raw v a hv ha)
  · exact .fail _

theorem yields_typed {raw : String} {v : Value} {a : α} (hraw : Yields (Reading.raw key policy) s raw)
    (hv : rule.apply key raw = .ok v) (ha : project v = some a) :
    Yields (typed key rule policy project) s a := by
  refine .bind (.bind hraw (.liftExcept hv)) ?_
  rw [ha]
  exact .pure a

theorem ensures_choice {choices : List String} :
    Ensures (choice key choices policy) (· ∈ choices) := by
  refine ensures_typed fun raw v a hv ha => ?_
  obtain ⟨t, ht, rfl⟩ := map_verdict_eq_ok.1 hv
  obtain ⟨rfl, hmem⟩ := readChoice_eq_ok.1 ht
  cases ha
  exact hmem

theorem ensures_integer {min max : Int64} :
    Ensures (integer key min max policy) fun n => min ≤ n ∧ n ≤ max := by
  refine ensures_typed fun raw v a hv ha => ?_
  obtain ⟨n, hn, rfl⟩ := map_verdict_eq_ok.1 hv
  cases ha
  exact (readRange_eq_ok.1 hn).2

theorem ensures_duration :
    Ensures (duration key policy) fun d => d.nanoseconds < Duration.limit := by
  refine ensures_typed fun raw v a hv ha => ?_
  unfold Rule.apply readDuration at hv
  cases hd : Duration.ofText raw with
  | error fault =>
    rw [hd] at hv
    -- a fault gives an error or no verdict, and no value
    cases fault <;> cases hv
  | ok d =>
    rw [hd] at hv
    cases hv
    cases ha
    exact Duration.lt_limit_of_ofText hd

end Values

/-! ## Lists -/

section Lists

variable {rule : Rule}

theorem blames_list : Blames (list key rule policy) [key] := by
  refine .bind blames_raw fun value => ?_
  split
  · exact .pure _
  · refine .bind (.liftExcept fun e he => ?_) fun v => ?_
    · rw [Rule.key_of_apply he]
      exact List.mem_cons_self
    · split
      · exact .pure _
      · exact .fail List.mem_cons_self

theorem logs_list (h : ∀ origin, p (originLine key origin)) : Logs (list key rule policy) p := by
  refine .bind (logs_raw h) fun value => ?_
  split
  · exact .pure _
  · refine .bind (.liftExcept _) fun v => ?_
    split
    · exact .pure _
    · exact .fail _

/-- A list is that of a text under the rule, or it is empty and its text may be. -/
theorem ensures_list {r : String → Prop} (hr : Ensures (raw key policy) r) {q : List String → Prop}
    (hnil : r "" → q []) (h : ∀ raw l, rule.apply key raw = .ok (.list l) → q l) :
    Ensures (list key rule policy) q := by
  refine .bind hr fun value hvalue => ?_
  split
  · rename_i hempty
    rw [hempty] at hvalue
    exact .pure (hnil hvalue)
  · refine .bind (p := fun v => rule.apply key value = .ok v) (.liftExcept fun _ hv => hv)
      fun v hv => ?_
    split
    · rename_i l hl
      cases v <;> cases hl
      exact .pure (h value l hv)
    · exact .fail _

theorem yields_list_nil (hraw : Yields (raw key policy) s "") : Yields (list key rule policy) s [] :=
  .bind hraw (.pure _)

theorem yields_list {text : String} (hraw : Yields (raw key policy) s text) (hne : text ≠ "")
    {l : List String} (hl : rule.apply key text = .ok (.list l)) :
    Yields (list key rule policy) s l := by
  refine .bind hraw ?_
  rw [if_neg hne]
  exact .bind (.liftExcept hl) (.pure l)

end Lists

/-! ## Bytes -/

theorem toInt_wide (b : UInt8) : (wide b).toInt = b.toNat := by
  have hb : b.toNat < 256 := b.toNat_lt
  exact Int64.toInt_ofNat_of_lt (by omega)

theorem int64?_toString (b : UInt8) : Text.int64? (toString b.toNat) = some (wide b) := by
  rw [Text.int64?_eq_some_iff, Nat.toString_eq_ofList_toDigits, String.toList_ofList, toInt_wide]
  exact .unsigned (.bare (Text.isNatural_toDigits b.toNat))

theorem blames_byte {min max : UInt8} : Blames (byte key min max policy) [key] := by
  refine .bind blames_typed fun n => ?_
  split
  · exact .pure _
  · exact .fail List.mem_cons_self

theorem logs_byte {min max : UInt8} (h : ∀ origin, p (originLine key origin)) :
    Logs (byte key min max policy) p := by
  refine .bind (logs_typed h) fun n => ?_
  split
  · exact .pure _
  · exact .fail _

/-- The eight bits of an integer. -/
def lowByte (n : Int64) : UInt8 :=
  UInt8.ofNat n.toInt.toNat

/-- Narrowing an integer within the bounds never fails. -/
theorem byte_eq {min max : UInt8} (s : Surroundings) (j : Journal) :
    byte key min max policy s j =
      (lowByte <$> (integer key (wide min) (wide max) policy s j).1,
        (integer key (wide min) (wide max) policy s j).2) := by
  cases h : integer key (wide min) (wide max) policy s j with
  | mk r j₁ =>
    cases r with
    | error f => exact bind_of_error h
    | ok n =>
      obtain ⟨hmin, hmax⟩ := ensures_integer s j n j₁ h
      have hbyte := max.toNat_lt
      rw [Int64.le_iff_toInt_le, toInt_wide] at hmin hmax
      rw [byte, bind_of_ok h, if_pos (by omega)]
      rfl

theorem ensures_byte {min max : UInt8} :
    Ensures (byte key min max policy) fun b => min ≤ b ∧ b ≤ max := by
  refine .bind ensures_integer fun n ⟨hmin, hmax⟩ => ?_
  split
  · rename_i hn
    refine .pure ?_
    rw [Int64.le_iff_toInt_le, toInt_wide] at hmin hmax
    rw [UInt8.le_iff_toNat_le, UInt8.le_iff_toNat_le, UInt8.toNat_ofNat']
    omega
  · exact .fail _

theorem yields_byte {min max b : UInt8} (h : min ≤ b ∧ b ≤ max)
    (hraw : Yields (raw key policy) s (toString b.toNat)) :
    Yields (byte key min max policy) s b := by
  have hread : readRange key (wide min) (wide max) (toString b.toNat) = .ok (wide b) := by
    rw [UInt8.le_iff_toNat_le, UInt8.le_iff_toNat_le] at h
    have hle : wide min ≤ wide b ∧ wide b ≤ wide max := by
      rw [Int64.le_iff_toInt_le, Int64.le_iff_toInt_le, toInt_wide, toInt_wide, toInt_wide]
      omega
    exact readRange_eq_ok.2 ⟨int64?_toString b, hle⟩
  have hb : b.toNat < 256 := b.toNat_lt
  have hv : Rule.apply key (.range (wide min) (wide max)) (toString b.toNat) =
      .ok (.integer (wide b)) := map_verdict_eq_ok.2 ⟨_, hread, rfl⟩
  refine .bind (yields_typed hraw hv rfl) ?_
  rw [toInt_wide, if_pos (by omega), Int.toNat_natCast, UInt8.ofNat_toNat]
  exact .pure b

/-! ## Renamed settings -/

section Renamed

variable {α : Type} {a : Alias} {read : String → Policy → Reading α}

theorem blames_detect : Blames a.detect [a.deprecated, a.replacement] := by
  refine .bind (blames_raw.mono (by simp)) fun former => ?_
  split
  · exact .pure _
  · refine .bind (blames_raw.mono (by simp)) fun current => ?_
    split
    · exact .fail (List.mem_cons_of_mem _ List.mem_cons_self)
    · exact .pure _

theorem blames_resolve (h : ∀ key policy, Blames (read key policy) [key]) :
    Blames (a.resolve read) [a.deprecated, a.replacement] := by
  refine .bind blames_detect fun state => .bind (.note _ _ _) fun _ => ?_
  cases state with
  | deprecatedPresent => exact .bind ((h _ _).mono (by simp)) fun _ => .pure _
  | canonicalOnly => exact .bind ((h _ _).mono (by simp)) fun _ => .pure _

theorem blames_renamed (h : ∀ key policy, Blames (read key policy) [key]) :
    Blames (renamed a read) [a.deprecated, a.replacement] := by
  refine .bind (blames_resolve h) fun resolved => ?_
  split
  · exact .bind (.warn _) fun _ => .pure _
  · exact .pure _

/-- The line that says which key of a renamed setting counts. -/
def stateLine (a : Alias) (state : Alias.State) : Log.Line :=
  ⟨.debug, .renames, a.replacement ++ " alias state: " ++ state.name⟩

theorem logs_detect (hd : ∀ origin, p (originLine a.deprecated origin))
    (hr : ∀ origin, p (originLine a.replacement origin)) : Logs a.detect p := by
  refine .bind (logs_raw hd) fun former => ?_
  split
  · exact .pure _
  · refine .bind (logs_raw hr) fun current => ?_
    split
    · exact .fail _
    · exact .pure _

theorem logs_renamed (hd : ∀ origin, p (originLine a.deprecated origin))
    (hr : ∀ origin, p (originLine a.replacement origin)) (hs : ∀ state, p (stateLine a state))
    (h : ∀ key policy, (∀ origin, p (originLine key origin)) → Logs (read key policy) p) :
    Logs (renamed a read) p := by
  refine .bind ?_ fun resolved => ?_
  · refine .bind (logs_detect hd hr) fun state => .bind (.note (hs state)) fun _ => ?_
    cases state with
    | deprecatedPresent => exact .bind (h _ _ hd) fun _ => .pure _
    | canonicalOnly => exact .bind (h _ _ hr) fun _ => .pure _
  · split
    · exact .bind (.warn _) fun _ => .pure _
    · exact .pure _

/-- If the former key is not set, the setting is read under the new one. -/
theorem yields_renamed {v : α} (hd : Yields (raw a.deprecated .optional) s "")
    (h : Yields (read a.replacement a.policy) s v) : Yields (renamed a read) s v :=
  .bind (.bind (.bind hd (.pure _)) (.bind (.note _ _ _) (.bind h (.pure _)))) (.pure v)

end Renamed

end Reading

end VpnGateway
