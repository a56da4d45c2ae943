/-
When a chain of readers succeeds and when it fails.

Everything that is read from outside is read by small readers, one after the other, and
the first fault is the answer.  These lemmas take a whole chain apart in one rewriting:
what comes out is the list of what its links have read, or the link that failed.
-/

namespace FallingBlocks

section Readers

variable {ε ε' α β : Type}

/-- A chain of readers succeeded exactly when the first did, and then the rest. -/
theorem except_bind_eq_ok {x : Except ε α} {f : α → Except ε β} {b : β} :
    x >>= f = .ok b ↔ ∃ a, x = .ok a ∧ f a = .ok b := by
  cases x with
  | error e => simp [bind, Except.bind]
  | ok a => simp [bind, Except.bind]

/-- A chain of readers failed exactly when the first did, or else the rest. -/
theorem except_bind_eq_error {x : Except ε α} {f : α → Except ε β} {e : ε} :
    x >>= f = .error e ↔ x = .error e ∨ ∃ a, x = .ok a ∧ f a = .error e := by
  cases x with
  | error e' => simp [bind, Except.bind]
  | ok a => simp [bind, Except.bind]

theorem except_ok_of_isOk {x : Except ε α} (h : x.isOk = true) : ∃ a, x = .ok a := by
  cases x with
  | ok a => exact ⟨a, rfl⟩
  | error e => exact nomatch h

theorem except_map_eq_ok {x : Except ε α} {f : α → β} {b : β} :
    x.map f = .ok b ↔ ∃ a, x = .ok a ∧ f a = b := by
  cases x <;> simp [Except.map]

theorem except_map_eq_error {x : Except ε α} {f : α → β} {e : ε} :
    x.map f = .error e ↔ x = .error e := by
  cases x <;> simp [Except.map]

theorem except_mapError_eq_ok {x : Except ε α} {f : ε → ε'} {a : α} :
    x.mapError f = .ok a ↔ x = .ok a := by
  cases x with
  | error e =>
      show (Except.error (f e) : Except ε' α) = .ok a ↔ _
      simp
  | ok a' =>
      show (Except.ok a' : Except ε' α) = .ok a ↔ _
      simp

theorem except_mapError_eq_error {x : Except ε α} {f : ε → ε'} {e : ε'} :
    x.mapError f = .error e ↔ ∃ e', x = .error e' ∧ f e' = e := by
  cases x with
  | error e' =>
      show (Except.error (f e') : Except ε' α) = .error e ↔ _
      simp
  | ok a =>
      show (Except.ok a : Except ε' α) = .error e ↔ _
      simp

/-- A list of readers fails only where one of them does. -/
theorem except_mapM_error {f : α → Except ε β} {xs : List α} {e : ε}
    (h : xs.mapM f = .error e) : ∃ x ∈ xs, f x = .error e := by
  induction xs with
  | nil => exact nomatch h
  | cons x rest ih =>
      rw [List.mapM_cons, except_bind_eq_error] at h
      rcases h with h | ⟨_, -, h⟩
      · exact ⟨x, List.mem_cons_self, h⟩
      · rw [except_bind_eq_error] at h
        rcases h with h | ⟨_, -, h⟩
        · obtain ⟨x', hmem, hx'⟩ := ih h
          exact ⟨x', List.mem_cons_of_mem x hmem, hx'⟩
        · exact nomatch h

/-- A list of readers reads as many things as there are readers. -/
theorem except_mapM_length {f : α → Except ε β} {xs : List α} {ys : List β}
    (h : xs.mapM f = .ok ys) : ys.length = xs.length := by
  induction xs generalizing ys with
  | nil =>
      cases h
      rfl
  | cons x rest ih =>
      simp only [List.mapM_cons, except_bind_eq_ok] at h
      obtain ⟨y, -, ys', hrest, h⟩ := h
      cases h
      rw [List.length_cons, List.length_cons, ih hrest]

/-- A list of readers that say when they succeed and with what. -/
theorem except_mapM_eq_ok {f : α → Except ε β} {P : α → Prop} {g : α → β}
    (hf : ∀ x y, f x = .ok y ↔ P x ∧ y = g x) {xs : List α} {ys : List β} :
    xs.mapM f = .ok ys ↔ (∀ x ∈ xs, P x) ∧ ys = xs.map g := by
  induction xs generalizing ys with
  | nil => simp [pure, Except.pure, eq_comm]
  | cons x rest ih =>
      simp only [List.mapM_cons, except_bind_eq_ok, hf, ih, pure, Except.pure, Except.ok.injEq,
        List.forall_mem_cons, List.map_cons]
      constructor
      · rintro ⟨_, ⟨hx, rfl⟩, _, ⟨hrest, rfl⟩, rfl⟩
        exact ⟨⟨hx, hrest⟩, rfl⟩
      · rintro ⟨⟨hx, hrest⟩, rfl⟩
        exact ⟨_, ⟨hx, rfl⟩, _, ⟨hrest, rfl⟩, rfl⟩

end Readers

end FallingBlocks
