import Mathlib.Data.List.DropRight
import VpnGateway.Proofs.EmptyValues

/-!
# Readers in use

A reader is asked again and again, while variables and files change. All that it keeps from one
request to the next are its warnings, and each of them is owed to one renamed setting.

* `Resolution`, `Operation.resolutions`: the renamed settings that an operation resolves;
* `Operation.fst_run`: an operation answers as if it were the first;
* `Operation.warnings_run`: it gives a warning for each setting that it found under the former key;
* `Session`, `Session.Step`, `Session.run`: a reader, and what happens to it;
* `Session.warnings_next`, `Session.warnings_run`: its warnings after one step, and after all;
* **`Session.run_exact`**: and they are all that it keeps.
-/

namespace VpnGateway

open Reading Setting

variable {s : Surroundings} {map : String → Option String} {α : Type}

/-! ## Resolutions of renamed settings -/

/-- A renamed setting that was resolved: which of its keys counted, or why it has no value. -/
structure Resolution where
  renamed : Alias
  outcome : Except Failure Alias.State

/-- The warning that a resolution is owed: one if it succeeded through the former key. -/
def Resolution.warning? : Resolution → Option Deprecation
  | ⟨a, .ok .deprecatedPresent⟩ => some ⟨a.deprecated, a.replacement⟩
  | _ => none

/-- How a renamed setting is resolved by a reader that did nothing before. -/
def Alias.resolution (a : Alias) (q : Query α) (s : Surroundings) : Resolution :=
  ⟨a, Resolved.state <$> (a.resolve q.read s {}).1⟩

namespace Setting.Item

/-- The renamed settings that are resolved for a setting. -/
def resolutions (s : Surroundings) : Item → List Resolution
  | blockSurveillance => [surveillanceAlias.resolution (.getter .onOff) s]
  | _ => []

/-- The renamed settings that are resolved for settings in turn, up to the first that fails. -/
def resolutionsInTurn (s : Surroundings) (items : List Item) : List Resolution :=
  (attempted s items {}).flatMap (resolutions s)

end Setting.Item

/-- The renamed settings that an operation resolves, in order. -/
def Operation.resolutions (s : Surroundings) : Operation α → List Resolution
  | renamed a q => [a.resolution q s]
  | setting item => item.resolutions s
  | overTls => Item.resolutionsInTurn s DnsOverTlsSettings.items
  | dns => Item.resolutionsInTurn s (DnsSettings.items s [])
  | cyberghost => Item.resolutionsInTurn s CyberghostSettings.items
  | all => Item.resolutionsInTurn s (Settings.items s [])
  | get _ _ _ | secretFilePath _ | credentialBytes _ _ | detect _ | resolve _ _ => []

/-! ## What an operation does to the journal -/

/-- **An operation answers as if it were the first**, if the source is a map. -/
theorem Operation.fst_run (hs : s.source = .ofMap map) (op : Operation α) (j : Journal) :
    (op.run s j).1 = (op.run s {}).1 := by
  obtain ⟨keys, new, r, hop⟩ := op.runsAlike (.refl hs)
  rw [(hop j).1.result, (hop {}).1.result]

/-- So are the warnings that it gives. -/
theorem Operation.warnings_run_append (hs : s.source = .ofMap map) (op : Operation α)
    (j : Journal) : (op.run s j).2.warnings = j.warnings ++ (op.run s {}).2.warnings := by
  obtain ⟨keys, new, r, hop⟩ := op.runsAlike (.refl hs)
  rw [(hop j).1.warnings, (hop {}).1.warnings]
  rfl

section Resolve

variable {a : Alias} {read : String → Policy → Reading α}

/-- The warning that comes with a value is the one that is owed. -/
theorem Alias.ensures_resolve :
    Ensures (a.resolve read) fun r => r.warning = Resolution.warning? ⟨a, .ok r.state⟩ := by
  refine .after fun state => .after fun _ => ?_
  cases state with
  | deprecatedPresent => exact .after fun _ => .pure rfl
  | canonicalOnly => exact .after fun _ => .pure rfl

theorem Reading.warnings_renamed (hread : ∀ key policy, OfText key (read key policy))
    (j : Journal) : (renamed a read s j).2.warnings = j.warnings ++
      (Resolution.warning? ⟨a, Resolved.state <$> (a.resolve read s j).1⟩).toList := by
  have hquiet : Quiet s (a.resolve read) := (built_quiet s).resolve trivial trivial hread
  have hsame := hquiet j
  cases h : a.resolve read s j with
  | mk r j₁ =>
    rw [h] at hsame
    cases r with
    | error e =>
      rw [renamed, bind_of_error h, hsame]
      exact (List.append_nil _).symm
    | ok resolved =>
      have howed := Alias.ensures_resolve s j resolved j₁ h
      change _ = j.warnings ++ (Resolution.warning? ⟨a, .ok resolved.state⟩).toList
      rw [renamed, bind_of_ok h, ← howed, ← hsame]
      cases resolved.warning with
      | none => exact (List.append_nil _).symm
      | some d => rfl

end Resolve

/-- A renamed setting gives the warning that it is owed. -/
theorem Alias.warnings_renamed (hs : s.source = .ofMap map) (a : Alias) (q : Query α)
    (j : Journal) : (renamed a q.read s j).2.warnings =
      j.warnings ++ [a.resolution q s].filterMap Resolution.warning? := by
  have hfresh : (a.resolve q.read s j).1 = (a.resolve q.read s {}).1 :=
    (Operation.resolve a q).fst_run hs j
  rw [Reading.warnings_renamed q.ofText_read, hfresh]
  rw [List.filterMap_cons, List.filterMap_nil, resolution]
  split <;> rename_i h
  · rw [h]
    rfl
  · rw [h]
    rfl

/-- The former key of a renamed setting is set, and the new one is not set to another text. -/
def Alias.FormerCounts (a : Alias) (map : String → Option String) : Prop :=
  ∃ former, map a.deprecated = some former ∧ former ≠ "" ∧
    ∀ current, map a.replacement = some current → current = "" ∨ current = former

theorem Alias.detect_eq_present_iff (hs : s.source = .ofMap map) (a : Alias) (j : Journal) :
    (a.detect s j).1 = .ok .deprecatedPresent ↔ a.FormerCounts map := by
  have hsource (key : String) (earlier : List String) :
      s.source earlier key = Source.ofMap map [] key := by
    rw [hs]
    rfl
  rcases (s.source j.lookups a.deprecated).cases with
    ⟨lossy, hlossy⟩ | hvacant | ⟨former, htext, hformer⟩
  · rw [hsource] at hlossy
    exact absurd hlossy Source.ofMap_ne_notUtf8
  · rw [(runs_detect_vacant hvacant).result]
    rw [hsource, Source.isVacant_ofMap_iff] at hvacant
    refine ⟨fun h => (by cases h), ?_⟩
    rintro ⟨former, hmap, hne, -⟩
    exact absurd (hvacant former hmap) hne
  have hmap : map a.deprecated = some former := by
    rwa [hsource, Source.ofMap_eq_text_iff] at htext
  rcases (s.answer j.lookups [a.deprecated] a.replacement).cases with
    ⟨lossy, hlossy⟩ | hvacant | ⟨current, htext', hcurrent⟩
  · rw [Surroundings.answer, hsource] at hlossy
    exact absurd hlossy Source.ofMap_ne_notUtf8
  · rw [(runs_detect_present htext hformer (.inl hvacant)).result]
    rw [Surroundings.answer, hsource, Source.isVacant_ofMap_iff] at hvacant
    exact iff_of_true rfl ⟨former, hmap, hformer, fun current h => .inl (hvacant current h)⟩
  have hmap' : map a.replacement = some current := by
    rwa [Surroundings.answer, hsource, Source.ofMap_eq_text_iff] at htext'
  by_cases hsame : current = former
  · subst hsame
    rw [(runs_detect_present htext hformer (.inr htext')).result]
    refine iff_of_true rfl ⟨current, hmap, hformer, fun text h => .inr ?_⟩
    rw [hmap', Option.some.injEq] at h
    exact h.symm
  · have hconflict : Runs a.detect s j [a.deprecated, a.replacement] []
        (.error (.error (.conflict a.deprecated a.replacement))) :=
      runs_detect_given htext hformer (fun j₁ hj₁ => runs_raw_given (hj₁ ▸ htext') hcurrent)
        (if_pos ⟨hcurrent, hsame⟩)
    rw [hconflict.result]
    refine iff_of_false (fun h => by cases h) ?_
    rintro ⟨text, h, -, hall⟩
    rw [hmap, Option.some.injEq] at h
    subst h
    rcases hall current hmap' with hempty | heq
    · exact hcurrent hempty
    · exact hsame heq

/-- A warning is owed if the former key counts and its text can be read. -/
theorem Alias.warning?_resolution_iff (hs : s.source = .ofMap map) (a : Alias) (q : Query α)
    (d : Deprecation) : (a.resolution q s).warning? = some d ↔
      d = ⟨a.deprecated, a.replacement⟩ ∧ a.FormerCounts map ∧
        ∃ value, (q.read a.deprecated .compulsory s {}).1 = .ok value := by
  have hcounts := a.detect_eq_present_iff hs {}
  cases h : a.detect s {} with
  | mk r j₁ =>
    rw [h] at hcounts
    cases r with
    | error e =>
      have hnone : a.resolution q s = ⟨a, .error e⟩ := by
        rw [resolution, resolve, bind_of_error h]
        rfl
      rw [hnone]
      exact iff_of_false nofun fun ⟨_, hcounts', _⟩ => nomatch hcounts.2 hcounts'
    | ok state =>
      cases state with
      | canonicalOnly =>
        have hresult : (a.resolve q.read s {}).1 = (fun v => ⟨v, .canonicalOnly, none⟩) <$>
            (q.read a.replacement a.policy s (j₁.add (stateLine a .canonicalOnly))).1 := by
          rw [resolve, bind_of_ok h, ← fst_bind_pure]
          rfl
        rw [resolution, hresult]
        refine iff_of_false ?_ fun ⟨_, hcounts', _⟩ => nomatch hcounts.2 hcounts'
        cases (q.read a.replacement a.policy s (j₁.add (stateLine a .canonicalOnly))).1 <;> nofun
      | deprecatedPresent =>
        have hread := (Operation.get q a.deprecated .compulsory).fst_run hs
          (j₁.add (stateLine a .deprecatedPresent))
        have hresult : (a.resolve q.read s {}).1 = (fun v =>
            ⟨v, .deprecatedPresent, some ⟨a.deprecated, a.replacement⟩⟩) <$>
              (q.read a.deprecated .compulsory s {}).1 := by
          rw [resolve, bind_of_ok h]
          refine Eq.trans ?_ (congrArg _ hread)
          rw [← fst_bind_pure]
          rfl
        rw [resolution, hresult]
        cases (q.read a.deprecated .compulsory s {}).1 with
        | error e => exact iff_of_false nofun fun ⟨_, _, _, hvalue⟩ => nomatch hvalue
        | ok value =>
          refine ⟨fun hd => ⟨(Option.some.inj hd).symm, hcounts.1 rfl, value, rfl⟩, fun hd => ?_⟩
          rw [hd.1]
          rfl

namespace Setting.Item

theorem warnings_attempt (hs : s.source = .ofMap map) (item : Item) (j : Journal) :
    (item.attempt s j).2.warnings =
      j.warnings ++ (item.resolutions s).filterMap Resolution.warning? := by
  by_cases h : item = blockSurveillance
  · subst h
    have hrenamed := surveillanceAlias.warnings_renamed hs (.getter .onOff) j
    rw [attempt_eq, attempt_snd]
    exact hrenamed
  · have hnone : item.resolutions s = [] := by
      cases item <;> first | rfl | exact absurd rfl h
    rw [quiet_attempt h, hnone, List.filterMap_nil, List.append_nil]

/-- Settings in turn give the warnings that are owed to those that are attempted. -/
theorem warnings_attemptAll (hs : s.source = .ofMap map) (items : List Item) (j : Journal) :
    (attemptAll items s j).2.warnings = j.warnings ++
      ((attempted s items j).flatMap (resolutions s)).filterMap Resolution.warning? := by
  induction items generalizing j with
  | nil => exact (List.append_nil _).symm
  | cons item items ih =>
    have hitem := warnings_attempt hs item j
    rw [attempted]
    cases h : item.attempt s j with
    | mk r j₁ =>
      rw [h] at hitem
      cases r with
      | error e => rw [attemptAll, bind_of_error h, hitem, List.flatMap_singleton]
      | ok u =>
        rw [attemptAll, bind_of_ok h, ih j₁, hitem, List.flatMap_cons, List.filterMap_append,
          List.append_assoc]

end Setting.Item

/-- A group of settings gives the warnings that are owed to those that are attempted. -/
theorem Reading.Follows.warnings_eq {m : Reading α} {items : List Item} (hs : s.source = .ofMap map)
    (h : Follows m s {} items) : (m s {}).2.warnings =
      (Item.resolutionsInTurn s items).filterMap Resolution.warning? := by
  rw [← attempt_snd, h.attempt_eq, Item.warnings_attemptAll hs]
  rfl

/-- **An operation gives a warning for each renamed setting that it found under the former key**, in
order, and no other. -/
theorem Operation.warnings_run (hs : s.source = .ofMap map) (op : Operation α) (j : Journal) :
    (op.run s j).2.warnings =
      j.warnings ++ (op.resolutions s).filterMap Resolution.warning? := by
  have hnone {β : Type} {m : Reading β} (hm : Quiet s m) : (m s {}).2.warnings = [] := hm {}
  rw [op.warnings_run_append hs j]
  congr 1
  cases op with
  | get q key policy => exact hnone (q.ofText_read key policy).oneKey.quiet
  | secretFilePath key => exact hnone quiet_secretFilePath
  | credentialBytes key fallback => exact hnone ((built_quiet s).credentialBytes trivial fallback)
  | detect a => exact hnone ((built_quiet s).detect trivial trivial)
  | resolve a q => exact hnone ((built_quiet s).resolve trivial trivial q.ofText_read)
  | renamed a q => exact a.warnings_renamed hs q {}
  | setting item =>
    have hitem := item.warnings_attempt hs {}
    rw [Item.attempt_eq, attempt_snd] at hitem
    exact hitem
  | overTls => exact DnsOverTlsSettings.follows_read.warnings_eq hs
  | dns => exact DnsSettings.follows_read.warnings_eq hs
  | cyberghost => exact CyberghostSettings.follows_read.warnings_eq hs
  | all => exact Settings.follows_read.warnings_eq hs

/-! ## Readers in use -/

/-- A reader in use: where it looks for credentials, what it can see now, and its journal. -/
structure Session where
  base : Surroundings
  map : String → Option String
  journal : Journal := {}

namespace Session

/-- What happens to a reader: it is asked for something, or variables and files change. -/
inductive Step : Type 1
  | request {α : Type} (r : Request α)
  | change (map : String → Option String) (files : Files)

/-- The warnings are taken. -/
def Step.isTake : Step → Bool
  | request .takeWarnings => true
  | _ => false

/-- The renamed settings that are resolved in a step. -/
def Step.resolutions (s : Surroundings) : Step → List Resolution
  | request (.ask op) => op.resolutions s
  | _ => []

/-- What the reader can see. -/
def seen (σ : Session) : Surroundings :=
  σ.base.withMap σ.map

/-- The reader after a step. -/
def next (σ : Session) : Step → Session
  | .request r => { σ with journal := (r.run σ.seen σ.journal).2 }
  | .change map files => { σ with map := map, base := { σ.base with files := files } }

/-- The reader after steps in turn. -/
def run (σ : Session) (steps : List Step) : Session :=
  steps.foldl next σ

/-- The renamed settings that are resolved in steps in turn. -/
def resolutions (σ : Session) : List Step → List Resolution
  | [] => []
  | step :: steps => step.resolutions σ.seen ++ resolutions (σ.next step) steps

/-- The steps up to the last one in which the warnings are taken. -/
def untilTake (steps : List Step) : List Step :=
  steps.rdropWhile fun step => !step.isTake

/-- The steps since the warnings were taken. -/
def sinceTake (steps : List Step) : List Step :=
  steps.rtakeWhile fun step => !step.isTake

variable (σ : Session)

theorem run_append (before after : List Step) :
    σ.run (before ++ after) = (σ.run before).run after :=
  List.foldl_append

theorem resolutions_append (before after : List Step) :
    σ.resolutions (before ++ after) = σ.resolutions before ++ (σ.run before).resolutions after := by
  induction before generalizing σ with
  | nil => rfl
  | cons step before ih =>
    rw [List.cons_append, resolutions, resolutions, ih, List.append_assoc]
    rfl

theorem untilTake_append_sinceTake (steps : List Step) :
    untilTake steps ++ sinceTake steps = steps :=
  List.rdropWhile_append_rtakeWhile

/-- One step adds the warnings that are owed in it, or takes them all. -/
theorem warnings_next (step : Step) : (σ.next step).journal.warnings =
    if step.isTake then []
    else σ.journal.warnings ++ (step.resolutions σ.seen).filterMap Resolution.warning? := by
  cases step with
  | change map files => exact (List.append_nil _).symm
  | request r =>
    cases r with
    | ask op => exact op.warnings_run rfl σ.journal
    | warnings => exact (List.append_nil _).symm
    | takeWarnings => rfl

/-- The warnings are those that are owed since they were taken. -/
theorem warnings_run (h : σ.journal.warnings = []) (steps : List Step) :
    (σ.run steps).journal.warnings =
      ((σ.run (untilTake steps)).resolutions (sinceTake steps)).filterMap Resolution.warning? := by
  induction steps using List.reverseRecOn with
  | nil => exact h
  | append_singleton steps step ih =>
    rw [run_append]
    refine ((σ.run steps).warnings_next step).trans ?_
    cases htake : step.isTake with
    | true =>
      have hsince : sinceTake (steps ++ [step]) = [] :=
        List.rtakeWhile_concat_neg _ _ _ (by simp [htake])
      rw [hsince]
      rfl
    | false =>
      have huntil : untilTake (steps ++ [step]) = untilTake steps :=
        List.rdropWhile_concat_pos _ _ _ (by simp [htake])
      have hsince : sinceTake (steps ++ [step]) = sinceTake steps ++ [step] :=
        List.rtakeWhile_concat_pos _ _ _ (by simp [htake])
      rw [huntil, hsince, resolutions_append, ← run_append, untilTake_append_sinceTake,
        List.filterMap_append, ← ih, resolutions, resolutions, List.append_nil]
      rfl

/-- A reader that was not asked for anything. -/
def start (base : Surroundings) (map : String → Option String) : Session where
  base := base
  map := map

/-- **The warnings are all that a reader keeps**, and they are those that it owes since they were
taken. -/
theorem run_exact (base : Surroundings) (map : String → Option String) (steps : List Step) :
    let σ := (start base map).run steps
    let owed := ((start base map).run (untilTake steps)).resolutions (sinceTake steps)
    let due := owed.filterMap Resolution.warning?
    (Request.warnings.run σ.seen σ.journal).1 = .ok due ∧
    (Request.takeWarnings.run σ.seen σ.journal).1 = .ok due ∧
    (Request.takeWarnings.run σ.seen σ.journal).2 = { σ.journal with warnings := [] } ∧
    let fresh := start σ.base σ.map
    ∀ {α : Type} (op : Operation α),
      (op.run σ.seen σ.journal).1 = (op.run fresh.seen fresh.journal).1 := by
  intro σ owed due
  have hwarnings : σ.journal.warnings = due := (start base map).warnings_run rfl steps
  refine ⟨congrArg Except.ok hwarnings, congrArg Except.ok hwarnings, rfl, fun op => ?_⟩
  exact op.fst_run rfl σ.journal

/-- A group of settings that fails keeps the warning of the renamed setting that it found before. -/
example :
    let σ := start { source := .ofMap fun _ => none, files := fun _ => .absent } fun key =>
      [(Key.blockNsa, "on"), (Key.dnsUpdatePeriod, "soon")].lookup key
    (DnsSettings.read σ.seen {}).1.isOk = false ∧
      (σ.run [.request (.ask .dns)]).journal.warnings = [⟨Key.blockNsa, Key.blockSurveillance⟩] := by
  decide +kernel

end Session

end VpnGateway
