import FluentSql.Fault

/-!
# Work that may fail

Work on a state that gives a result or stops with a fault, and either way leaves the state that it
had reached. Statements are rendered, stores built, drivers called and sessions run in this form.

`bind_apply` says what a sequence does to a state; the other lemmas are the cases of it.
-/

namespace FluentSql

/-- Work on a state that may fail. -/
abbrev Fallible (σ : Type) : Type → Type :=
  ExceptT Fault (StateM σ)

namespace Fallible

variable {σ α β : Type}

/-- Stops with a fault. -/
def fail (f : Fault) : Fallible σ α := fun s => (.error f, s)

/-- A part of the state. -/
def view (f : σ → α) : Fallible σ α := fun s => (.ok (f s), s)

/-- Changes the state. -/
def update (f : σ → σ) : Fallible σ Unit := fun s => (.ok (), f s)

/-- What is given, or the fault in its place. -/
def ofExcept (r : Except Fault α) : Fallible σ α := fun s => (r, s)

@[simp]
theorem fail_apply (f : Fault) (s : σ) : (fail f : Fallible σ α) s = (.error f, s) :=
  rfl

@[simp]
theorem view_apply (f : σ → α) (s : σ) : view f s = (.ok (f s), s) :=
  rfl

@[simp]
theorem update_apply (f : σ → σ) (s : σ) : update f s = (.ok (), f s) :=
  rfl

@[simp]
theorem ofExcept_apply (r : Except Fault α) (s : σ) : ofExcept r s = (r, s) :=
  rfl

@[simp]
theorem pure_apply (a : α) (s : σ) : (pure a : Fallible σ α) s = (.ok a, s) :=
  rfl

/-- The work after a fault is not done. -/
theorem bind_apply (x : Fallible σ α) (f : α → Fallible σ β) (s : σ) :
    (x >>= f) s =
      match x s with
      | (.ok a, s') => f a s'
      | (.error e, s') => (.error e, s') := by
  simp only [bind, ExceptT.bind, ExceptT.mk, StateT.bind]
  rcases x s with ⟨_ | _, s'⟩ <;> rfl

theorem bind_apply_of_ok {x : Fallible σ α} {f : α → Fallible σ β} {s s' : σ} {a : α}
    (h : x s = (.ok a, s')) : (x >>= f) s = f a s' := by
  rw [bind_apply, h]

theorem bind_apply_of_error {x : Fallible σ α} {f : α → Fallible σ β} {s s' : σ} {e : Fault}
    (h : x s = (.error e, s')) : (x >>= f) s = (.error e, s') := by
  rw [bind_apply, h]

/-- A sequence gives a result if both of its steps do. -/
theorem bind_apply_eq_ok_iff {x : Fallible σ α} {f : α → Fallible σ β} {s s' : σ} {b : β} :
    (x >>= f) s = (.ok b, s') ↔ ∃ a t, x s = (.ok a, t) ∧ f a t = (.ok b, s') := by
  constructor
  · intro h
    rcases hx : x s with ⟨e | a, t⟩
    · rw [bind_apply_of_error hx] at h
      cases h
    · rw [bind_apply_of_ok hx] at h
      exact ⟨a, t, rfl, h⟩
  · rintro ⟨a, t, hx, hf⟩
    rw [bind_apply_of_ok hx, hf]

/-- What holds where the first step fails, and after the second step where it does not, holds after
both. -/
theorem bind_snd {x : Fallible σ α} {f : α → Fallible σ β} {s : σ} {P : σ → Prop}
    (hok : ∀ a s', x s = (.ok a, s') → P (f a s').2)
    (herror : ∀ e s', x s = (.error e, s') → P s') : P ((x >>= f) s).2 := by
  rcases hx : x s with ⟨r, s'⟩
  cases r with
  | ok a =>
    rw [bind_apply_of_ok hx]
    exact hok a s' hx
  | error e =>
    rw [bind_apply_of_error hx]
    exact herror e s' hx

end Fallible

end FluentSql
