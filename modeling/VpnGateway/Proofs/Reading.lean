import VpnGateway.Reading.Alias

/-!
# What readings do

A reading is a sequence of steps, so what holds of all its results follows from what holds of the
results of each step. The same goes for the lines that it logs and for the keys that its errors name.

* `Reading.Ends`: where one reading ends, step by step;
* `Reading.Ensures`: what holds of every value that a reading gives;
* `Reading.Logs`: what holds of every line that it logs;
* `Reading.Refuses`: what holds of every error;
* `Reading.Blames`: the keys that its errors name;
* `Reading.Yields`: the value that it gives, without a warning;
* `Ensures.bind`, `Logs.bind`, `Refuses.bind`, `Yields.bind`: **each is kept by sequences**.
-/

namespace VpnGateway.Reading

variable {α β : Type} {m : Reading α} {f : α → Reading β} {s : Surroundings} {j j' : Journal}

/-! ## Sequences -/

theorem bind_of_ok {a : α} (h : m s j = (.ok a, j')) : (m >>= f) s j = f a s j' := by
  simp only [Bind.bind, h]

theorem bind_of_error {e : Failure} (h : m s j = (.error e, j')) :
    (m >>= f) s j = (.error e, j') := by
  simp only [Bind.bind, h]

theorem bind_eq_ok {b : β} : (m >>= f) s j = (.ok b, j') ↔
    ∃ a j₁, m s j = (.ok a, j₁) ∧ f a s j₁ = (.ok b, j') := by
  cases h : m s j with
  | mk r j₁ =>
    cases r with
    | error e =>
      rw [bind_of_error h]
      exact ⟨fun h => (by cases h), fun ⟨_, _, h, _⟩ => (by cases h)⟩
    | ok a =>
      rw [bind_of_ok h]
      exact ⟨fun hf => ⟨a, j₁, rfl, hf⟩, fun ⟨_, _, h, hf⟩ => (by cases h; exact hf)⟩

theorem bind_eq_error {e : Failure} : (m >>= f) s j = (.error e, j') ↔
    m s j = (.error e, j') ∨ ∃ a j₁, m s j = (.ok a, j₁) ∧ f a s j₁ = (.error e, j') := by
  cases h : m s j with
  | mk r j₁ =>
    cases r with
    | error d =>
      rw [bind_of_error h]
      refine ⟨fun h => .inl (by cases h; rfl), fun h => ?_⟩
      rcases h with h | ⟨_, _, h, _⟩
      all_goals cases h
      rfl
    | ok a =>
      rw [bind_of_ok h]
      refine ⟨fun hf => .inr ⟨a, j₁, rfl, hf⟩, fun h => ?_⟩
      rcases h with h | ⟨_, _, h, hf⟩
      all_goals cases h
      exact hf

theorem fst_bind_pure (m : Reading α) (f : α → β) (s : Surroundings) (j : Journal) :
    ((m >>= fun a => pure (f a)) s j).1 = f <$> (m s j).1 := by
  cases h : m s j with
  | mk r j₁ =>
    cases r with
    | ok a => rw [bind_of_ok h]; rfl
    | error e => rw [bind_of_error h]; rfl

theorem fst_bind_liftExcept (m : Reading α) (f : α → Except Failure β) (s : Surroundings)
    (j : Journal) : ((m >>= fun a => liftExcept (f a)) s j).1 = (m s j).1 >>= f := by
  cases h : m s j with
  | mk r j₁ =>
    cases r with
    | ok a => rw [bind_of_ok h]; rfl
    | error e => rw [bind_of_error h]; rfl

theorem surroundings_bind (f : Surroundings → Reading β) (s : Surroundings) (j : Journal) :
    (surroundings >>= f) s j = f s s j := rfl

/-- The reading, from where the journal stands, ends with a result and a journal that satisfy `q`. -/
def Ends (m : Reading α) (s : Surroundings) (j : Journal)
    (q : Except Failure α → Journal → Prop) : Prop :=
  q (m s j).1 (m s j).2

theorem Ends.elim {q : Except Failure α → Journal → Prop} (h : Ends m s j q)
    {r : Except Failure α} (hr : m s j = (r, j')) : q r j' := by
  rw [Ends, hr] at h
  exact h

/-- A sequence ends where its first step fails, or where what follows that step ends. -/
theorem Ends.bind {q : Except Failure β → Journal → Prop}
    (hm : ∀ e j', m s j = (.error e, j') → q (.error e) j')
    (hf : ∀ a j', m s j = (.ok a, j') → Ends (f a) s j' q) : Ends (m >>= f) s j q := by
  cases h : m s j with
  | mk r j₁ =>
    cases r with
    | error e =>
      rw [Ends, bind_of_error h]
      exact hm e j₁ h
    | ok a =>
      rw [Ends, bind_of_ok h]
      exact hf a j₁ h

/-! ## Values -/

/-- Every value that the reading gives satisfies `p`. -/
def Ensures (m : Reading α) (p : α → Prop) : Prop :=
  ∀ s j a j', m s j = (.ok a, j') → p a

namespace Ensures

variable {p : α → Prop} {q : β → Prop}

theorem trivial : Ensures m fun _ => True := fun _ _ _ _ _ => True.intro

theorem pure {a : α} (h : p a) : Ensures (pure a) p := by
  intro s j b j' hr
  cases hr
  exact h

theorem fail (e : SettingError) : Ensures (fail e) p := by
  intro s j b j' hr
  cases hr

theorem liftExcept {x : Except Failure α} (h : ∀ a, x = .ok a → p a) :
    Ensures (liftExcept x) p := by
  intro s j a j' hr
  cases hr
  exact h a rfl

theorem bind (hm : Ensures m p) (hf : ∀ a, p a → Ensures (f a) q) : Ensures (m >>= f) q := by
  intro s j b j' hr
  obtain ⟨a, j₁, ha, hb⟩ := bind_eq_ok.1 hr
  exact hf a (hm s j a j₁ ha) s j₁ b j' hb

/-- What follows ensures it, whatever comes before. -/
theorem after (hf : ∀ a, Ensures (f a) q) : Ensures (m >>= f) q :=
  bind trivial fun a _ => hf a

end Ensures

/-! ## Lines -/

/-- Every line that the reading logs satisfies `p`. -/
def Logs (m : Reading α) (p : Log.Line → Prop) : Prop :=
  ∀ s j, ∃ new, (m s j).2.log = j.log ++ new ∧ ∀ l ∈ new, p l

namespace Logs

variable {p : Log.Line → Prop}

theorem of_log_eq (h : ∀ s j, (m s j).2.log = j.log) : Logs m p :=
  fun s j => ⟨[], by rw [h, List.append_nil], fun _ hl => absurd hl List.not_mem_nil⟩

theorem pure (a : α) : Logs (Pure.pure a) p := of_log_eq fun _ _ => rfl

theorem fail (e : SettingError) : Logs (Reading.fail e : Reading α) p := of_log_eq fun _ _ => rfl

theorem liftExcept (x : Except Failure α) : Logs (Reading.liftExcept x) p :=
  of_log_eq fun _ _ => rfl

theorem surroundings : Logs Reading.surroundings p := of_log_eq fun _ _ => rfl

theorem warn (d : Deprecation) : Logs (Reading.warn d) p := of_log_eq fun _ _ => rfl

theorem ask (key : String) : Logs (Reading.ask key) p := of_log_eq fun _ _ => rfl

theorem note {level : Log.Level} {component : Log.Component} {text : String}
    (h : p ⟨level, component, text⟩) : Logs (Reading.note level component text) p :=
  fun _ _ => ⟨[_], rfl, fun _ hl => List.mem_singleton.1 hl ▸ h⟩

/-- What follows logs no other lines, after a value that the first step can give. -/
theorem bind_of {q : α → Prop} (hm : Logs m p) (he : Ensures m q)
    (hf : ∀ a, q a → Logs (f a) p) : Logs (m >>= f) p := by
  intro s j
  obtain ⟨new, hlog, hnew⟩ := hm s j
  cases h : m s j with
  | mk r j₁ =>
    rw [h] at hlog
    cases r with
    | error e =>
      rw [bind_of_error h]
      exact ⟨new, hlog, hnew⟩
    | ok a =>
      rw [bind_of_ok h]
      obtain ⟨more, hmore, hp⟩ := hf a (he s j a j₁ h) s j₁
      refine ⟨new ++ more, by rw [hmore, hlog, List.append_assoc], fun l hl => ?_⟩
      rcases List.mem_append.1 hl with hl | hl
      · exact hnew l hl
      · exact hp l hl

theorem bind (hm : Logs m p) (hf : ∀ a, Logs (f a) p) : Logs (m >>= f) p :=
  hm.bind_of .trivial fun a _ => hf a

end Logs

/-! ## Errors -/

/-- Every error of the reading satisfies `p`. -/
def Refuses (m : Reading α) (p : SettingError → Prop) : Prop :=
  ∀ s j e j', m s j = (.error (.error e), j') → p e

namespace Refuses

variable {p : SettingError → Prop}

theorem of_ok (h : ∀ s j, ∃ a, (m s j).1 = .ok a) : Refuses m p := by
  intro s j e j' hr
  obtain ⟨a, ha⟩ := h s j
  rw [hr] at ha
  cases ha

theorem pure (a : α) : Refuses (Pure.pure a) p := of_ok fun _ _ => ⟨a, rfl⟩

theorem surroundings : Refuses Reading.surroundings p := of_ok fun s _ => ⟨s, rfl⟩

theorem note (level : Log.Level) (component : Log.Component) (text : String) :
    Refuses (Reading.note level component text) p := of_ok fun _ _ => ⟨(), rfl⟩

theorem warn (d : Deprecation) : Refuses (Reading.warn d) p := of_ok fun _ _ => ⟨(), rfl⟩

theorem ask (key : String) : Refuses (Reading.ask key) p := of_ok fun _ _ => ⟨_, rfl⟩

theorem fail {e : SettingError} (h : p e) : Refuses (Reading.fail e : Reading α) p := by
  intro s j d j' hr
  cases hr
  exact h

theorem liftExcept {x : Except Failure α} (h : ∀ e, x = .error (.error e) → p e) :
    Refuses (Reading.liftExcept x) p := by
  intro s j e j' hr
  cases hr
  exact h e rfl

theorem bind (hm : Refuses m p) (hf : ∀ a, Refuses (f a) p) : Refuses (m >>= f) p := by
  intro s j e j' hr
  rcases bind_eq_error.1 hr with hr | ⟨a, j₁, -, hr⟩
  · exact hm s j e j' hr
  · exact hf a s j₁ e j' hr

end Refuses

/-- Every error of the reading names one of the keys. -/
def Blames (m : Reading α) (keys : List String) : Prop :=
  ∀ s j e j', m s j = (.error (.error e), j') → e.key ∈ keys

namespace Blames

variable {keys : List String}

theorem of_ok (h : ∀ s j, ∃ a, (m s j).1 = .ok a) : Blames m keys := Refuses.of_ok h

theorem pure (a : α) : Blames (Pure.pure a) keys := Refuses.pure a

theorem surroundings : Blames Reading.surroundings keys := Refuses.surroundings

theorem note (level : Log.Level) (component : Log.Component) (text : String) :
    Blames (Reading.note level component text) keys := Refuses.note level component text

theorem warn (d : Deprecation) : Blames (Reading.warn d) keys := Refuses.warn d

theorem ask (key : String) : Blames (Reading.ask key) keys := Refuses.ask key

theorem fail {e : SettingError} (h : e.key ∈ keys) : Blames (Reading.fail e : Reading α) keys :=
  Refuses.fail h

theorem liftExcept {x : Except Failure α} (h : ∀ e, x = .error (.error e) → e.key ∈ keys) :
    Blames (Reading.liftExcept x) keys :=
  Refuses.liftExcept h

theorem mono (hm : Blames m keys) {keys' : List String} (h : keys ⊆ keys') : Blames m keys' :=
  fun s j e j' hr => h (hm s j e j' hr)

/-- A reading of one setting blames that setting among others. -/
theorem of_mem {key : String} (hm : Blames m [key]) (h : key ∈ keys) : Blames m keys :=
  fun s j e j' hr => List.mem_singleton.1 (hm s j e j' hr) ▸ h

theorem bind (hm : Blames m keys) (hf : ∀ a, Blames (f a) keys) : Blames (m >>= f) keys :=
  Refuses.bind hm hf

end Blames

/-! ## Success -/

/-- From anywhere in these surroundings the reading gives `a` and no warning. -/
def Yields (m : Reading α) (s : Surroundings) (a : α) : Prop :=
  ∀ j, ∃ j', m s j = (.ok a, j') ∧ j'.warnings = j.warnings

namespace Yields

theorem pure (a : α) : Yields (Pure.pure a) s a := fun j => ⟨j, rfl, rfl⟩

theorem note (level : Log.Level) (component : Log.Component) (text : String) :
    Yields (Reading.note level component text) s () := fun _ => ⟨_, rfl, rfl⟩

theorem surroundings : Yields Reading.surroundings s s := fun j => ⟨j, rfl, rfl⟩

theorem liftExcept {x : Except Failure α} {a : α} (h : x = .ok a) :
    Yields (Reading.liftExcept x) s a := fun j => ⟨j, by rw [h]; rfl, rfl⟩

theorem bind {a : α} {b : β} (hm : Yields m s a) (hf : Yields (f a) s b) :
    Yields (m >>= f) s b := by
  intro j
  obtain ⟨j₁, h₁, hw₁⟩ := hm j
  obtain ⟨j₂, h₂, hw₂⟩ := hf j₁
  exact ⟨j₂, by rw [bind_of_ok h₁, h₂], by rw [hw₂, hw₁]⟩

end Yields

end VpnGateway.Reading
