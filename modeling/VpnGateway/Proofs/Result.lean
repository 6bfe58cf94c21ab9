/-!
# Results of steps that may fail

* `except_bind_eq_ok`, `except_bind_eq_error`: when a sequence of two steps gives a value or fails;
* `except_map_eq_ok`, `except_map_eq_error`, `eq_error_of_map`: a change of values makes no error;
* `mapM_eq_ok`: a row of which each member is kept as it is;
* `mapM_eq_error_iff`, `mapM_eq_error`: a row fails as the first of its members does that fails.
-/

namespace VpnGateway

variable {ε α β : Type} {x : Except ε α} {e : ε}

theorem except_bind_eq_ok {f : α → Except ε β} {b : β} :
    (x >>= f) = .ok b ↔ ∃ a, x = .ok a ∧ f a = .ok b := by
  cases x <;> simp [bind, Except.bind]

theorem except_bind_eq_error {f : α → Except ε β} :
    (x >>= f) = .error e ↔ x = .error e ∨ ∃ a, x = .ok a ∧ f a = .error e := by
  cases x <;> simp [bind, Except.bind]

theorem except_map_eq_ok {g : α → β} {b : β} : g <$> x = .ok b ↔ ∃ a, x = .ok a ∧ g a = b := by
  cases x <;> simp [Functor.map, Except.map]

theorem except_map_eq_error {g : α → β} : g <$> x = .error e ↔ x = .error e := by
  cases x <;> simp [Functor.map, Except.map]

theorem eq_error_of_map {g : α → β} (h : g <$> x = .error e) : x = .error e :=
  except_map_eq_error.1 h

/-- If each member is given as it is or not at all, the same goes for a row. -/
theorem mapM_eq_ok {f : α → Except ε α} {p : α → Prop} (hf : ∀ a b, f a = .ok b ↔ b = a ∧ p a)
    {l r : List α} : l.mapM f = .ok r ↔ r = l ∧ ∀ a ∈ l, p a := by
  induction l generalizing r with
  | nil =>
    refine ⟨fun h => ?_, fun h => ?_⟩
    · cases h
      exact ⟨rfl, fun _ ha => absurd ha List.not_mem_nil⟩
    · rw [h.1]
      rfl
  | cons a l ih =>
    rw [List.mapM_cons, except_bind_eq_ok]
    constructor
    · rintro ⟨b, hb, hrest⟩
      obtain ⟨bs, hbs, h⟩ := except_bind_eq_ok.1 hrest
      obtain ⟨rfl, hp⟩ := (hf _ _).1 hb
      obtain ⟨rfl, hps⟩ := ih.1 hbs
      cases h
      exact ⟨rfl, List.forall_mem_cons.2 ⟨hp, hps⟩⟩
    · rintro ⟨rfl, hp⟩
      obtain ⟨hp, hps⟩ := List.forall_mem_cons.1 hp
      exact ⟨a, (hf a a).2 ⟨rfl, hp⟩, except_bind_eq_ok.2 ⟨l, ih.2 ⟨rfl, hps⟩, rfl⟩⟩

/-- A row fails as the first of its members does that fails. -/
theorem mapM_eq_error_iff {f : α → Except ε β} {l : List α} : l.mapM f = .error e ↔
    ∃ front a back, l = front ++ a :: back ∧ (∀ b ∈ front, ∃ c, f b = .ok c) ∧ f a = .error e := by
  induction l with
  | nil =>
    refine ⟨nofun, fun ⟨front, a, back, h, _⟩ => ?_⟩
    exact absurd h.symm (List.append_ne_nil_of_right_ne_nil front (List.cons_ne_nil a back))
  | cons b l ih =>
    rw [List.mapM_cons, except_bind_eq_error]
    constructor
    · rintro (hb | ⟨c, hc, h⟩)
      · exact ⟨[], b, l, rfl, fun _ h => absurd h List.not_mem_nil, hb⟩
      · rcases except_bind_eq_error.1 h with hl | ⟨cs, -, h⟩
        · obtain ⟨front, a, back, rfl, hfront, ha⟩ := ih.1 hl
          exact ⟨b :: front, a, back, rfl, List.forall_mem_cons.2 ⟨⟨c, hc⟩, hfront⟩, ha⟩
        · cases h
    · rintro ⟨front, a, back, hsplit, hfront, ha⟩
      cases front with
      | nil =>
        cases hsplit
        exact .inl ha
      | cons b' front =>
        cases hsplit
        obtain ⟨⟨c, hc⟩, hfront⟩ := List.forall_mem_cons.1 hfront
        have hl := ih.2 ⟨front, a, back, rfl, hfront, ha⟩
        exact .inr ⟨c, hc, except_bind_eq_error.2 (.inl hl)⟩

/-- A row fails as one of its members does. -/
theorem mapM_eq_error {f : α → Except ε β} {l : List α} (h : l.mapM f = .error e) :
    ∃ a ∈ l, f a = .error e := by
  obtain ⟨front, a, back, rfl, -, ha⟩ := mapM_eq_error_iff.1 h
  exact ⟨a, List.mem_append_right front List.mem_cons_self, ha⟩

end VpnGateway
