import VpnGateway.Proofs.Pem

/-!
# Where the first known section stands

The lines of a text, divided up: lines that are passed over, openings that are never closed, the
opening whose section is closed, the line that closes it, and all the rest.

* `Opening`: a line that begins a section, and its body;
* `Passed`: lines that leave no section open and hold none that counts;
* `Block`: the first known section, with the openings before it that were never closed;
* `scan_openings`, `scan_passed`: how a run goes over each of these parts;
* **`Block.scan_eq`**: what is read is the Base64 of all these openings together;
* **`exists_block`**: what is read stands in a block.
-/

namespace VpnGateway.Pem

/-! ## Openings -/

/-- A line that begins a section, with the lines up to the next one that begins or ends one. -/
structure Opening where
  head : List UInt8
  label : List UInt8
  body : List (List UInt8)
  begins : Begins head
  label_eq : beginLabel head = .ok label
  isBody : ∀ l ∈ body, IsBody label l

/-- The lines of an opening. -/
def Opening.lines (o : Opening) : List (List UInt8) :=
  o.head :: o.body

/-- The lines of openings, without those that begin them. -/
def bodyOf (os : List Opening) : List UInt8 :=
  (os.flatMap (·.body)).flatten

theorem bodyOf_append (os os' : List Opening) : bodyOf (os ++ os') = bodyOf os ++ bodyOf os' := by
  rw [bodyOf, List.flatMap_append, List.flatten_append]
  rfl

theorem bodyOf_cons (o : Opening) (os : List Opening) :
    bodyOf (o :: os) = o.body.flatten ++ bodyOf os := by
  rw [bodyOf, List.flatMap_cons, List.flatten_append]
  rfl

theorem bodyOf_singleton (o : Opening) : bodyOf [o] = o.body.flatten := by
  rw [bodyOf, List.flatMap_singleton]

/-- An opening with one more line. -/
def Opening.add (o : Opening) (line : List UInt8) (h : IsBody o.label line) : Opening where
  head := o.head
  label := o.label
  body := o.body ++ [line]
  begins := o.begins
  label_eq := o.label_eq
  isBody := fun l hl => (List.mem_append.1 hl).elim (o.isBody l) fun hm => by
    rw [List.mem_singleton.1 hm]
    exact h

theorem Opening.bodyOf_add (os : List Opening) (o : Opening) {line : List UInt8}
    (h : IsBody o.label line) : bodyOf (os ++ [o.add line h]) = bodyOf (os ++ [o]) ++ line := by
  simp [bodyOf, add]

theorem Opening.flatMap_lines_add (os : List Opening) (o : Opening) {line : List UInt8}
    (h : IsBody o.label line) :
    (os ++ [o.add line h]).flatMap lines = (os ++ [o]).flatMap lines ++ [line] := by
  simp [lines, add]

/-- A line cannot both begin a section and end one. -/
theorem not_begins_of_ends {label line : List UInt8} (h : Ends label line) : ¬ Begins line := by
  intro hb
  have hp : beginMark <+: endMark label ∨ endMark label <+: beginMark :=
    List.prefix_or_prefix_of_prefix hb h
  rcases hp with ⟨t, ht⟩ | ⟨t, ht⟩
  all_goals cases ht

/-! ## Reading lines -/

/-- A line that begins a section does so whatever is open. -/
theorem scan_begins {line : List UInt8} (h : Begins line) (opened : Option (List UInt8))
    (body : List UInt8) (rest : List (List UInt8)) :
    scan opened body (line :: rest) =
      (beginLabel line).bind fun label => scan (some label) body rest := by
  have hp := List.isPrefixOf_iff_prefix.2 h
  cases opened <;> exact if_pos hp

/-- What a line that ends a section makes of it. -/
def close (label body : List UInt8) (rest : List (List UInt8)) :
    Except Fault (Option (Label × List UInt8)) :=
  match Label.ofBytes? label with
  | none => scan none [] rest
  | some known =>
    match Base64.decodeLoose body with
    | .error fault => .error (.body fault)
    | .ok bytes => if known = .echConfig then scan none [] rest else .ok (some (known, bytes))

theorem scan_ends {label line : List UInt8} (h : Ends label line) (body : List UInt8)
    (rest : List (List UInt8)) :
    scan (some label) body (line :: rest) = close label body rest := by
  rw [scan, if_neg (mt List.isPrefixOf_iff_prefix.1 (not_begins_of_ends h)),
    if_pos (List.isPrefixOf_iff_prefix.2 h)]
  rfl

theorem scan_opening (o : Opening) (opened : Option (List UInt8)) (body : List UInt8)
    (rest : List (List UInt8)) :
    scan opened body (o.lines ++ rest) = scan (some o.label) (body ++ o.body.flatten) rest := by
  rw [Opening.lines, List.cons_append, scan_begins o.begins, o.label_eq, Except.bind,
    scan_body o.isBody]

/-- A line that begins a section keeps the body read so far. -/
theorem scan_openings (os : List Opening) (o : Opening) (opened : Option (List UInt8))
    (body : List UInt8) (rest : List (List UInt8)) :
    scan opened body ((os ++ [o]).flatMap Opening.lines ++ rest) =
      scan (some o.label) (body ++ bodyOf (os ++ [o])) rest := by
  induction os generalizing opened body with
  | nil => rw [List.nil_append, List.flatMap_singleton, scan_opening, bodyOf_singleton]
  | cons p os ih =>
    rw [List.cons_append, List.flatMap_cons, List.append_assoc, scan_opening, ih, bodyOf_cons,
      List.append_assoc]

/-! ## Lines that are passed over -/

/-- A section that does not count: its label is not known, or it is one that is read and left. -/
inductive Skipped (label body : List UInt8) : Prop
  | unknown (h : Label.ofBytes? label = none)
  | echConfig {bytes : List UInt8} (h : Label.ofBytes? label = some .echConfig)
      (hbody : Base64.decodeLoose body = .ok bytes)

/-- Lines that leave no section open and hold none that counts. -/
inductive Passed : List (List UInt8) → Prop
  | nil : Passed []
  | line {line : List UInt8} {rest : List (List UInt8)} (h : ¬ Begins line) (hr : Passed rest) :
      Passed (line :: rest)
  | skipped {os : List Opening} {o : Opening} {last : List UInt8} {rest : List (List UInt8)}
      (hlast : Ends o.label last) (h : Skipped o.label (bodyOf (os ++ [o]))) (hr : Passed rest) :
      Passed ((os ++ [o]).flatMap Opening.lines ++ last :: rest)

theorem close_of_skipped {label body : List UInt8} (h : Skipped label body)
    (rest : List (List UInt8)) : close label body rest = scan none [] rest := by
  unfold close
  cases h with
  | unknown h => rw [h]
  | echConfig h hbody => simp only [h, hbody, if_true]

theorem scan_passed {before : List (List UInt8)} (h : Passed before) (rest : List (List UInt8)) :
    scan none [] (before ++ rest) = scan none [] rest := by
  induction h with
  | nil => rfl
  | line h hr ih => rw [List.cons_append, scan_outside h, ih]
  | skipped hlast h hr ih =>
    rw [List.append_assoc, List.cons_append, scan_openings, scan_ends hlast, List.nil_append,
      close_of_skipped h, ih]

theorem passed_of_not_begins {ls : List (List UInt8)} (h : ∀ l ∈ ls, ¬ Begins l) : Passed ls := by
  induction ls with
  | nil => exact .nil
  | cons l ls ih =>
    exact .line (h l List.mem_cons_self) (ih fun m hm => h m (List.mem_cons_of_mem l hm))

/-! ## Blocks -/

/-- The first known section among lines. The opening that is closed may follow others that never
are: a line that begins a section inside another one does not start the body anew. -/
structure Block (ls : List (List UInt8)) where
  before : List (List UInt8)
  unclosed : List Opening
  opening : Opening
  last : List UInt8
  after : List (List UInt8)
  label : Label
  passed : Passed before
  ends : Ends opening.label last
  known : Label.ofBytes? opening.label = some label
  ne_echConfig : label ≠ .echConfig
  lines_eq : ls = before ++ ((unclosed ++ [opening]).flatMap Opening.lines ++ last :: after)

namespace Block

variable {ls : List (List UInt8)} (b : Block ls)

/-- What stands between the last line of a block and the nearest one before it that begins a
section. -/
def body : List UInt8 :=
  b.opening.body.flatten

/-- What follows the lines that begin a section before and are never closed. -/
def unclosedBody : List UInt8 :=
  bodyOf b.unclosed

/-- The whole text that is read as Base64. -/
theorem scan_eq : scan none [] ls = match Base64.decodeLoose (b.unclosedBody ++ b.body) with
    | .error fault => .error (.body fault)
    | .ok bytes => .ok (some (b.label, bytes)) := by
  have hbody : bodyOf (b.unclosed ++ [b.opening]) = b.unclosedBody ++ b.body := by
    rw [bodyOf_append, bodyOf_singleton]
    rfl
  refine (congrArg (scan none []) b.lines_eq).trans ?_
  rw [scan_passed b.passed, scan_openings, scan_ends b.ends, List.nil_append, hbody, close, b.known]
  simp only [if_neg b.ne_echConfig]

theorem scan_eq_ok {bytes : List UInt8}
    (h : Base64.decodeLoose (b.unclosedBody ++ b.body) = .ok bytes) :
    scan none [] ls = .ok (some (b.label, bytes)) := by
  rw [b.scan_eq, h]

theorem eq_of_scan {r : Label × List UInt8} (h : scan none [] ls = .ok (some r)) :
    b.label = r.1 ∧ Base64.decodeLoose (b.unclosedBody ++ b.body) = .ok r.2 := by
  rw [b.scan_eq] at h
  split at h
  · cases h
  · rename_i bytes hall
    cases h
    exact ⟨rfl, hall⟩

end Block

/-! ## Every section that is read stands in a block -/

/-- The lines hold a block, of which this is read. -/
def Holds (ls : List (List UInt8)) (r : Label × List UInt8) : Prop :=
  ∃ b : Block ls, b.label = r.1 ∧ Base64.decodeLoose (b.unclosedBody ++ b.body) = .ok r.2

variable {r : Label × List UInt8} {rest : List (List UInt8)}

/-- What is passed over may stand in front of a block. -/
theorem Holds.after_line {line : List UInt8} (hline : ¬ Begins line) (h : Holds rest r) :
    Holds (line :: rest) r := by
  obtain ⟨b, hr⟩ := h
  refine ⟨{ b with before := line :: b.before, passed := .line hline b.passed, lines_eq := ?_ }, hr⟩
  exact congrArg (line :: ·) b.lines_eq

theorem Holds.after_skipped {os : List Opening} {o : Opening} {last : List UInt8}
    (hlast : Ends o.label last) (ho : Skipped o.label (bodyOf (os ++ [o]))) (h : Holds rest r) :
    Holds ((os ++ [o]).flatMap Opening.lines ++ last :: rest) r := by
  obtain ⟨b, hr⟩ := h
  refine ⟨{ b with before := _, passed := .skipped hlast ho b.passed, lines_eq := ?_ }, hr⟩
  rw [List.append_assoc, List.cons_append]
  exact congrArg (fun ls => _ ++ last :: ls) b.lines_eq

/-- A line that ends a section is passed over with it, or closes a block. -/
theorem holds_of_close {os : List Opening} {o : Opening} {last : List UInt8}
    (hlast : Ends o.label last) (h : close o.label (bodyOf (os ++ [o])) rest = .ok (some r))
    (ih : scan none [] rest = .ok (some r) → Holds rest r) :
    Holds ((os ++ [o]).flatMap Opening.lines ++ last :: rest) r := by
  unfold close at h
  split at h
  · rename_i hlabel
    exact (ih h).after_skipped hlast (.unknown hlabel)
  · rename_i known hlabel
    split at h
    · cases h
    · rename_i bytes hbody
      split at h
      · rename_i hech
        rw [hech] at hlabel
        exact (ih h).after_skipped hlast (.echConfig hlabel hbody)
      · rename_i hech
        cases h
        refine ⟨⟨[], os, o, last, rest, known, .nil, hlast, hlabel, hech, rfl⟩, rfl, ?_⟩
        rw [bodyOf_append, bodyOf_singleton] at hbody
        exact hbody

/-- The label of the section that is open after openings. -/
def openLabel (os : List Opening) : Option (List UInt8) :=
  os.getLast?.map (·.label)

theorem openLabel_concat (os : List Opening) (o : Opening) :
    openLabel (os ++ [o]) = some o.label := by
  rw [openLabel, List.getLast?_concat]
  rfl

/-- What is read after openings stands in a block of their lines and the rest. -/
theorem holds_of_scan {ls : List (List UInt8)} (os : List Opening)
    (h : scan (openLabel os) (bodyOf os) ls = .ok (some r)) :
    Holds (os.flatMap Opening.lines ++ ls) r := by
  -- `os` are the openings since the last section was closed; the state of the run is theirs
  induction ls generalizing os with
  | nil => cases hl : openLabel os <;> rw [hl] at h <;> cases h
  | cons line rest ih =>
    by_cases hb : Begins line
    · rw [scan_begins hb] at h
      cases hl : beginLabel line with
      | error f =>
        rw [hl] at h
        cases h
      | ok label =>
        rw [hl] at h
        have hnew := ih (os ++ [⟨line, label, [], hb, hl, nofun⟩])
        rw [openLabel_concat, bodyOf_append, bodyOf_singleton, List.flatten_nil, List.append_nil,
          List.flatMap_append, List.flatMap_singleton, List.append_assoc] at hnew
        exact hnew h
    · rcases List.eq_nil_or_concat os with rfl | ⟨os, o, rfl⟩
      · rw [openLabel, List.getLast?_nil, Option.map_none, scan_outside hb] at h
        exact (ih [] h).after_line hb
      · rw [List.concat_eq_append, openLabel_concat] at h
        rw [List.concat_eq_append]
        by_cases hlast : Ends o.label line
        · rw [scan_ends hlast] at h
          exact holds_of_close hlast h (ih [])
        · have hline : IsBody o.label line := ⟨hb, hlast⟩
          rw [scan_inside hline] at h
          have hmore := ih (os ++ [o.add line hline])
          rw [openLabel_concat, Opening.bodyOf_add, Opening.flatMap_lines_add,
            List.append_assoc] at hmore
          exact hmore h

/-- **A known section that is read stands in a block.** -/
theorem exists_block {raw : List UInt8} (h : firstSection raw = .ok (some r)) :
    Holds (lines raw) r :=
  holds_of_scan [] h

end VpnGateway.Pem
