import FluentSql.Fault

/-!
# Results of work that may fail

`Gives m P` says that a result, if there is one, has a property; it says nothing about faults.
`EndsIn m P Q` says what the fault is, too. `FailsOnly` says when there is a result, and what the
faults are, of work that may be refused.
-/

namespace FluentSql

variable {α β : Type}

/-- What is given has a property, unless there is a fault. -/
def Gives (m : Except Fault α) (P : α → Prop) : Prop :=
  ∀ a, m = .ok a → P a

namespace Gives

variable {m : Except Fault α} {P : α → Prop} {Q : β → Prop}

theorem ok {a : α} (h : P a) : Gives (.ok a) P := by
  rintro _ ⟨⟩
  exact h

theorem error (f : Fault) : Gives (.error f) P :=
  nofun

theorem bind {k : α → Except Fault β} (h : Gives m P) (hk : ∀ a, P a → Gives (k a) Q) :
    Gives (m >>= k) Q := by
  cases m with
  | ok a => exact hk a (h a rfl)
  | error f => exact error f

theorem map {f : α → β} (h : Gives m P) (hf : ∀ a, P a → Q (f a)) : Gives (m.map f) Q := by
  cases m with
  | ok a => exact ok (hf a (h a rfl))
  | error f => exact error f

theorem trivial (m : Except Fault α) : Gives m fun _ => True :=
  fun _ _ => ⟨⟩

end Gives

/-- A fallible map gives as many results as it was given, each with the property of its argument. -/
theorem Gives.mapM {f : α → Except Fault β} {P : β → Prop} {l : List α}
    (h : ∀ a ∈ l, Gives (f a) P) :
    Gives (l.mapM f) fun l' => l'.length = l.length ∧ ∀ b ∈ l', P b := by
  induction l with
  | nil => exact .ok ⟨rfl, nofun⟩
  | cons a l ih =>
    rw [List.mapM_cons]
    refine .bind (h a List.mem_cons_self) fun b hb => ?_
    refine .bind (ih fun c hc => h c (List.mem_cons_of_mem a hc)) fun l' hl' => .ok ⟨?_, ?_⟩
    · rw [List.length_cons, List.length_cons, hl'.1]
    · intro c hc
      rcases List.mem_cons.mp hc with rfl | hc
      · exact hb
      · exact hl'.2 c hc

/-- A map gives results if it gives one for each argument. -/
theorem exists_mapM_ok {f : α → Except Fault β} {l : List α} (h : ∀ a ∈ l, ∃ b, f a = .ok b) :
    ∃ bs, l.mapM f = .ok bs := by
  induction l with
  | nil => exact ⟨[], rfl⟩
  | cons a l ih =>
    obtain ⟨b, hb⟩ := h a List.mem_cons_self
    obtain ⟨bs, hbs⟩ := ih fun c hc => h c (List.mem_cons_of_mem a hc)
    rw [List.mapM_cons, hb, hbs]
    exact ⟨_, rfl⟩

/-- A map whose every step gives what a function does. -/
theorem mapM_eq_ok_map {f : α → Except Fault β} {g : α → β} {l : List α}
    (h : ∀ a ∈ l, f a = .ok (g a)) : l.mapM f = .ok (l.map g) := by
  induction l with
  | nil => rfl
  | cons a l ih =>
    rw [List.mapM_cons, h a List.mem_cons_self, ih fun b hb => h b (List.mem_cons_of_mem a hb)]
    rfl

/-- A map fails where it fails for an argument. -/
theorem exists_of_mapM_error {f : α → Except Fault β} {l : List α} {e : Fault}
    (h : l.mapM f = .error e) : ∃ a ∈ l, f a = .error e := by
  induction l with
  | nil => cases h
  | cons a l ih =>
    rw [List.mapM_cons] at h
    rcases ha : f a with e' | b
    · rw [ha] at h
      cases h
      exact ⟨a, List.mem_cons_self, ha⟩
    · rw [ha] at h
      rcases hl : l.mapM f with e' | bs
      · rw [hl] at h
        cases h
        obtain ⟨a', ha', he⟩ := ih hl
        exact ⟨a', List.mem_cons_of_mem a ha', he⟩
      · rw [hl] at h
        cases h

/-- A map that gives results gives one for each argument. -/
theorem exists_of_mapM_ok {f : α → Except Fault β} {l : List α} {bs : List β} {a : α}
    (h : l.mapM f = .ok bs) (ha : a ∈ l) : ∃ b, f a = .ok b := by
  induction l generalizing bs with
  | nil => cases ha
  | cons a' l ih =>
    rw [List.mapM_cons] at h
    rcases ha' : f a' with e | b
    · rw [ha'] at h
      cases h
    · rw [ha'] at h
      rcases hl : l.mapM f with e | bs'
      · rw [hl] at h
        cases h
      · rcases List.mem_cons.mp ha with rfl | hmem
        · exact ⟨b, ha'⟩
        · exact ih hl hmem

/-- Work ends in a result with a property, or in a fault with another. -/
structure EndsIn (m : Except Fault α) (P : α → Prop) (Q : Fault → Prop) : Prop where
  of_ok : ∀ {a}, m = .ok a → P a
  of_error : ∀ {f}, m = .error f → Q f

namespace EndsIn

variable {m : Except Fault α} {k : α → Except Fault β} {P : α → Prop} {P' : β → Prop}
  {Q : Fault → Prop}

theorem done {a : α} (h : P a) : EndsIn (.ok a) P Q :=
  ⟨fun ha => Except.ok.inj ha ▸ h, nofun⟩

theorem fails {f : Fault} (h : Q f) : EndsIn (.error f) P Q :=
  ⟨nofun, fun hf => Except.error.inj hf ▸ h⟩

theorem bind (h : EndsIn m P Q) (hk : ∀ a, P a → EndsIn (k a) P' Q) : EndsIn (m >>= k) P' Q := by
  cases m with
  | ok a => exact hk a (h.of_ok rfl)
  | error f => exact fails (h.of_error rfl)

theorem map {f : α → β} (h : EndsIn m P Q) (hf : ∀ a, P a → P' (f a)) :
    EndsIn (m.map f) P' Q :=
  h.bind fun a ha => done (hf a ha)

/-- More faults may be allowed for. -/
theorem weaken {Q' : Fault → Prop} (h : EndsIn m P Q) (hQ : ∀ f, Q f → Q' f) : EndsIn m P Q' :=
  ⟨h.of_ok, fun hf => hQ _ (h.of_error hf)⟩

end EndsIn

/-! ### How work fails -/

/-- Work that fails if something is malformed, and is refused then, or if an integer is too long to
be written; and in no other case, and with no other fault. -/
structure FailsOnly {α : Type} (m : Except Fault α) (malformed overlong : Prop) : Prop where
  ok_iff : (∃ a, m = .ok a) ↔ ¬ malformed ∧ ¬ overlong
  of_error : ∀ {f}, m = .error f → (∃ refusal, f = .refused refusal) ∧ malformed ∨
    f = .display .tooManyDigits ∧ overlong

namespace FailsOnly

variable {α β : Type} {m : Except Fault α} {k : α → Except Fault β}
  {malformed overlong malformed' overlong' : Prop}

theorem of_ok (h : ∃ a, m = .ok a) : FailsOnly m False False := by
  obtain ⟨a, rfl⟩ := h
  exact ⟨iff_of_true ⟨a, rfl⟩ ⟨not_false, not_false⟩, nofun⟩

theorem ok (a : α) : FailsOnly (.ok a) False False :=
  of_ok ⟨a, rfl⟩

theorem refused (refusal : Refusal) :
    FailsOnly (.error (.refused refusal) : Except Fault α) True overlong where
  ok_iff := iff_of_false nofun fun h => h.1 trivial
  of_error := by
    rintro _ ⟨⟩
    exact .inl ⟨⟨refusal, rfl⟩, trivial⟩

theorem congr (h : FailsOnly m malformed overlong) (hm : malformed ↔ malformed')
    (ho : overlong ↔ overlong') : FailsOnly m malformed' overlong' := by
  rwa [← propext hm, ← propext ho]

/-- Either part of a sequence may fail. -/
theorem bind (h : FailsOnly m malformed overlong)
    (hk : ∀ a, m = .ok a → FailsOnly (k a) malformed' overlong') :
    FailsOnly (m >>= k) (malformed ∨ malformed') (overlong ∨ overlong') := by
  cases m with
  | ok a =>
    obtain ⟨hm, ho⟩ := h.ok_iff.mp ⟨a, rfl⟩
    exact (hk a rfl).congr (or_iff_right hm).symm (or_iff_right ho).symm
  | error f =>
    refine ⟨iff_of_false nofun fun hnot => ?_, ?_⟩
    · obtain ⟨a, ha⟩ := h.ok_iff.mpr ⟨fun hm => hnot.1 (.inl hm), fun ho => hnot.2 (.inl ho)⟩
      cases ha
    · rintro _ ⟨⟩
      exact (h.of_error rfl).imp (And.imp_right .inl) (And.imp_right .inl)

/-- The first part of a sequence does not fail. -/
theorem ok_bind (h : ∃ a, m = .ok a) (hk : ∀ a, m = .ok a → FailsOnly (k a) malformed overlong) :
    FailsOnly (m >>= k) malformed overlong := by
  obtain ⟨a, rfl⟩ := h
  exact hk a rfl

/-- The second part of a sequence does not fail. -/
theorem bind_ok (h : FailsOnly m malformed overlong) (hk : ∀ a, ∃ b, k a = .ok b) :
    FailsOnly (m >>= k) malformed overlong :=
  (h.bind fun a _ => of_ok (hk a)).congr (by rw [or_false]) (by rw [or_false])

theorem map (h : FailsOnly m malformed overlong) (f : α → β) :
    FailsOnly (m.map f) malformed overlong :=
  h.bind_ok fun a => ⟨f a, rfl⟩

end FailsOnly

end FluentSql
