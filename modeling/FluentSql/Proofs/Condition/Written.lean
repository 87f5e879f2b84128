import FluentSql.Proofs.Marked.Text
import FluentSql.Select

/-!
# Comparisons as statements

The scope of a comparison may hold any statements for the queries that are embedded, so marked text
does not apply here. `Rendering.States` says that a rendering comes to the same as a statement that
is made by itself: what is bound already stays as it is, and does not matter.

`Scope.written` is what is written for an operand by itself. Each kind of comparison is put together
from what is written for its operands.
-/

namespace FluentSql

namespace Rendering

/-- A rendering of text comes to the same as a statement that is made by itself. -/
abbrev States (r : Rendering String) (m : Except Fault Statement) : Prop :=
  Writes [] r m Statement.sql Statement.params

variable {r : Rendering String} {m : Except Fault Statement}

theorem States.statement_eq (h : States r m) : r.statement = m := by
  rw [Writes.statement_eq h]
  cases m <;> rfl

/-- A rendering that comes to the same as any statement does so to the one that it makes. -/
theorem States.self (h : States r m) : States r r.statement := by
  rwa [h.statement_eq]

/-- The text and the values that a rendering ends with. -/
theorem States.apply_eq_ok_iff (h : States r m) {sql : String} {before after : List Value} :
    r before = (.ok sql, after) ↔
      ∃ st, m = .ok st ∧ sql = st.sql ∧ after = before ++ st.params := by
  constructor
  · intro hr
    cases m with
    | ok st =>
      have hst := h.of_ok st rfl before
      rw [List.append_nil, hr] at hst
      obtain ⟨hsql, hafter⟩ := Prod.mk.inj hst
      exact ⟨st, rfl, Except.ok.inj hsql, hafter⟩
    | error f =>
      have hf := h.of_error f rfl before
      rw [List.append_nil, hr] at hf
      cases hf
  · rintro ⟨st, rfl, rfl, rfl⟩
    have hst := h.of_ok st rfl before
    rwa [List.append_nil] at hst

/-- Text that binds nothing. -/
theorem states_ofExcept (e : Except Fault String) :
    States (Fallible.ofExcept e) (e.map fun sql => ⟨sql, []⟩) := by
  cases e with
  | ok sql => exact .pure rfl rfl
  | error f => exact .fail f

theorem states_bindValue (v : Value) : States (bindValue v) (.ok ⟨Dialect.placeholder, [v]⟩) where
  of_ok := by
    rintro _ ⟨⟩ params
    rw [List.append_nil]
    rfl
  of_error := nofun

theorem states_embed (nested : Except Fault Statement) :
    States (embed nested) (nested.map fun st => ⟨"(" ++ st.sql ++ ")", st.params⟩) := by
  cases nested with
  | ok st =>
    constructor
    · rintro _ ⟨⟩ params
      rw [List.append_nil]
      rfl
    · nofun
  | error f =>
    constructor
    · nofun
    · rintro _ ⟨⟩ params
      rfl

/-- What is given already comes before the work that it is given to. -/
theorem ofExcept_ok_bind {α β : Type} (a : α) (k : α → Rendering β) :
    Fallible.ofExcept (.ok a) >>= k = k a :=
  rfl

end Rendering

open Rendering

/-- An operand by itself. -/
def Scope.written (s : Scope) (v : Value) : Except Fault Statement :=
  (s.operand v).statement

theorem Scope.states_operand (s : Scope) (v : Value) : States (s.operand v) (s.written v) := by
  cases v with
  | column table name => exact (states_ofExcept _).self
  | query handle label => exact (states_embed _).self
  | _ => exact (states_bindValue _).self

/-- A query is written in parentheses. -/
theorem Scope.written_query (s : Scope) (handle : Handle) (label : Labels) :
    s.written (.query handle label) =
      (s.nested handle).map fun st => ⟨"(" ++ st.sql ++ ")", st.params⟩ :=
  (states_embed _).statement_eq

namespace Condition

variable (s : Scope) (left right : Value)

theorem writes_all (vs : List Value) :
    Writes [] (renderAll s vs) (vs.mapM s.written) (·.map Statement.sql)
      (·.flatMap Statement.params) := by
  induction vs with
  | nil => exact .pure rfl rfl
  | cons v vs ih =>
    rw [List.mapM_cons]
    exact (s.states_operand v).bind fun st => (ih.behind _).bind fun sts => .pure rfl rfl

theorem states_plain (operator : Value) :
    States (renderPlain s left right operator) (do
      let l ← s.written left
      let shown ← operator.display
      let r ← s.written right
      .ok ⟨l.sql ++ " " ++ shown ++ " " ++ r.sql, l.params ++ r.params⟩) := by
  have hright := s.states_operand right
  exact (s.states_operand left).bind fun l => .ofExcept fun shown =>
    (hright.behind _).bind fun r => .pure rfl rfl

theorem states_pattern (keyword : String) (leading trailing : Bool) :
    States (renderPattern s left right keyword leading trailing) (do
      let l ← s.written left
      .ok ⟨l.sql ++ " " ++ keyword ++ " " ++ s.dialect.pattern leading trailing,
        l.params ++ [right]⟩) := by
  -- the placeholder stands in the pattern already, and only the value is left to be bound
  refine (s.states_operand left).bind fun l => ⟨?_, nofun⟩
  rintro _ ⟨⟩ params
  rw [← List.append_assoc]
  rfl

theorem states_membership (keyword : String) (negated : Bool) :
    States (renderMembership s left right keyword negated)
      (match right.members? with
      | none => .error (.refused (.membershipNeedsList keyword right.typeName))
      | some [] => .ok ⟨if negated then "1 = 1" else "1 = 0", []⟩
      | some items => do
        let l ← s.written left
        let parts ← items.mapM s.written
        .ok ⟨l.sql ++ " " ++ keyword ++ " (" ++
          String.intercalate ", " (parts.map Statement.sql) ++ ")",
          l.params ++ parts.flatMap Statement.params⟩) := by
  rw [renderMembership]
  rcases right.members? with _ | _ | ⟨v, vs⟩
  · exact .fail _
  · exact .pure rfl rfl
  · have hitems := writes_all s (v :: vs)
    exact (s.states_operand left).bind fun l => (hitems.behind _).bind fun parts => .pure rfl rfl

theorem states_range :
    States (renderRange s left right) (do
      let l ← s.written left
      match right.pair? with
      | none => .error (.refused .rangeNeedsPair)
      | some (low, high) => do
        let lo ← s.written low
        let hi ← s.written high
        .ok ⟨l.sql ++ " BETWEEN " ++ lo.sql ++ " AND " ++ hi.sql,
          l.params ++ lo.params ++ hi.params⟩) := by
  refine (s.states_operand left).bind fun l => ?_
  rcases right.pair? with _ | ⟨low, high⟩
  · exact .fail _
  · have hlow := s.states_operand low
    have hhigh := s.states_operand high
    exact (hlow.behind _).bind fun lo => (hhigh.behind _).bind fun hi => .pure rfl rfl

/-- What a comparison comes to does not depend on what is bound already. -/
theorem states_comparison (operator : Value) :
    States (renderComparison s left right operator)
      (renderComparison s left right operator).statement := by
  suffices h : ∃ m, States (renderComparison s left right operator) m from h.elim fun _ => .self
  cases hname : operatorName operator with
  | error f =>
    rw [renderComparison, hname]
    exact ⟨_, .fail f⟩
  | ok name =>
    rw [renderComparison, hname, ofExcept_ok_bind]
    cases OperatorKind.ofName name with
    | nullTest =>
      refine ⟨do
        let l ← s.written left
        .ok ⟨l.sql ++ " " ++ name, l.params⟩, ?_⟩
      exact (s.states_operand left).bind fun l => .pure rfl rfl
    | pattern keyword leading trailing =>
      simp only
      split
      · exact ⟨_, states_plain s left right operator⟩
      · exact ⟨_, states_pattern s left right keyword leading trailing⟩
    | membership negated =>
      simp only
      split
      · exact ⟨_, states_plain s left right operator⟩
      · exact ⟨_, states_membership s left right name negated⟩
    | range =>
      simp only
      split
      · exact ⟨_, states_plain s left right operator⟩
      · exact ⟨_, states_range s left right⟩
    | plain => exact ⟨_, states_plain s left right operator⟩

end Condition

end FluentSql
