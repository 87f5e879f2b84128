import FluentSql.Proofs.Condition.Written
import FluentSql.Proofs.Results

/-!
# The shapes of special operators

Tests for a pattern, for a range and for membership have a syntax of their own, and are named by an
operator that need not be what is written: `LIKE%` is written as `LIKE`. `HasShape` lists the
statements that such an operator may come to. If the right side is no query, a comparison comes to
one of these, or it is refused (`Condition.comparison_has_shape`).

A query on the right side is written behind the operator as the caller spelled it. That is right for
membership tests, but a pattern test or a range test of a query is no SQL
(`Condition.query_breaks_shape`).
-/

namespace FluentSql

open Rendering

/-! ### Shapes -/

/-- The tests for a pattern by name: what is written for each, and whether there are wildcards
before and behind the value. -/
def patternTests : List (String × String × Bool × Bool) :=
  [("LIKE", "LIKE", true, true), ("NOT LIKE", "NOT LIKE", true, true),
    ("LIKE%", "LIKE", false, true), ("%LIKE", "LIKE", true, false)]

/-- The tests for membership by name, and what a test in an empty collection comes to. -/
def membershipTests : List (String × String) :=
  [("IN", "1 = 0"), ("NOT IN", "1 = 1")]

/-- The names of the operators that have a syntax of their own. -/
def specialOperators : List String :=
  patternTests.map Prod.fst ++ membershipTests.map Prod.fst ++ ["BETWEEN"]

section Shape

variable (s : Scope) (left right : Value)

/-- The statements that a special operator, given by its name, may come to. Whatever is written for
an operand by itself is written for it here, with its values in their places. -/
inductive HasShape : String → Statement → Prop where
  | pattern {name keyword : String} {leading trailing : Bool} {l : Statement}
      (hname : (name, keyword, leading, trailing) ∈ patternTests) (hl : s.written left = .ok l) :
      HasShape name
        ⟨l.sql ++ " " ++ keyword ++ " " ++ s.dialect.pattern leading trailing, l.params ++ [right]⟩
  | membership {name constant : String} {items : List Value} {l : Statement}
      {parts : List Statement} (hname : (name, constant) ∈ membershipTests)
      (hitems : right.members? = some items) (hne : items ≠ []) (hl : s.written left = .ok l)
      (hparts : items.mapM s.written = .ok parts) :
      HasShape name
        ⟨l.sql ++ " " ++ name ++ " (" ++ String.intercalate ", " (parts.map Statement.sql) ++ ")",
          l.params ++ parts.flatMap Statement.params⟩
  | constant {name constant : String} (hname : (name, constant) ∈ membershipTests)
      (hitems : right.members? = some []) : HasShape name ⟨constant, []⟩
  | range {low high : Value} {l lo hi : Statement} (hpair : right.pair? = some (low, high))
      (hl : s.written left = .ok l) (hlow : s.written low = .ok lo)
      (hhigh : s.written high = .ok hi) :
      HasShape "BETWEEN"
        ⟨l.sql ++ " BETWEEN " ++ lo.sql ++ " AND " ++ hi.sql, l.params ++ lo.params ++ hi.params⟩

/-- The operands of a comparison: its left side, and its right side or the items of it. -/
def IsOperand (v : Value) : Prop :=
  v = left ∨ v ∈ right.members?.getD [right]

/-- Why a special operator, given by its name, may be refused: an operand cannot be written, or the
right side is none that the operator takes. -/
inductive IsRefused : String → Fault → Prop where
  | operand {name : String} {v : Value} {f : Fault} (hv : IsOperand left right v)
      (hf : s.written v = .error f) : IsRefused name f
  | noCollection {name constant : String} (hname : (name, constant) ∈ membershipTests)
      (hitems : right.members? = none) :
      IsRefused name (.refused (.membershipNeedsList name right.typeName))
  | noPair (hpair : right.pair? = none) : IsRefused "BETWEEN" (.refused .rangeNeedsPair)

end Shape

theorem specialOperators_cases {name : String} (h : name ∈ specialOperators) :
    (∃ keyword leading trailing, (name, keyword, leading, trailing) ∈ patternTests) ∨
      (∃ constant, (name, constant) ∈ membershipTests) ∨ name = "BETWEEN" := by
  rw [specialOperators, List.mem_append, List.mem_append, List.mem_singleton, or_assoc] at h
  simpa only [List.mem_map, Prod.exists, exists_and_right, exists_eq_right] using h

theorem OperatorKind.ofName_pattern {name keyword : String} {leading trailing : Bool}
    (h : (name, keyword, leading, trailing) ∈ patternTests) :
    ofName name = .pattern keyword leading trailing := by
  simp only [patternTests, List.mem_cons, Prod.mk.injEq, List.not_mem_nil, or_false] at h
  rcases h with ⟨rfl, rfl, rfl, rfl⟩ | ⟨rfl, rfl, rfl, rfl⟩ | ⟨rfl, rfl, rfl, rfl⟩ |
    ⟨rfl, rfl, rfl, rfl⟩ <;> rfl

theorem OperatorKind.ofName_membership {name constant : String}
    (h : (name, constant) ∈ membershipTests) : ∃ negated : Bool,
      ofName name = .membership negated ∧ constant = if negated then "1 = 1" else "1 = 0" := by
  simp only [membershipTests, List.mem_cons, Prod.mk.injEq, List.not_mem_nil, or_false] at h
  rcases h with ⟨rfl, rfl⟩ | ⟨rfl, rfl⟩
  · exact ⟨false, rfl, rfl⟩
  · exact ⟨true, rfl, rfl⟩

namespace Condition

variable {s : Scope} {left right : Value}

/-- An operand is written, or it is the reason for a refusal. -/
theorem written_endsIn {name : String} {v : Value} (hv : IsOperand left right v) :
    EndsIn (s.written v) (s.written v = .ok ·) (IsRefused s left right name) :=
  ⟨id, .operand hv⟩

theorem pattern_endsIn {name keyword : String} {leading trailing : Bool}
    (hname : (name, keyword, leading, trailing) ∈ patternTests) :
    EndsIn (renderPattern s left right keyword leading trailing).statement
      (HasShape s left right name) (IsRefused s left right name) := by
  rw [(states_pattern s left right keyword leading trailing).statement_eq]
  exact (written_endsIn (.inl rfl)).bind fun l hl => .done (.pattern hname hl)

theorem membership_endsIn {name : String} {negated : Bool}
    (hname : (name, if negated then "1 = 1" else "1 = 0") ∈ membershipTests) :
    EndsIn (renderMembership s left right name negated).statement
      (HasShape s left right name) (IsRefused s left right name) := by
  rw [(states_membership s left right name negated).statement_eq]
  rcases hitems : right.members? with _ | _ | ⟨v, vs⟩
  · exact .fails (.noCollection hname hitems)
  · exact .done (.constant hname hitems)
  · have hparts : EndsIn ((v :: vs).mapM s.written) ((v :: vs).mapM s.written = .ok ·)
        (IsRefused s left right name) := by
      refine ⟨id, fun h => ?_⟩
      obtain ⟨w, hw, hf⟩ := exists_of_mapM_error h
      exact .operand (.inr (by rwa [hitems])) hf
    exact (written_endsIn (.inl rfl)).bind fun l hl => hparts.bind fun parts hparts =>
      .done (.membership hname hitems (List.cons_ne_nil v vs) hl hparts)

theorem range_endsIn :
    EndsIn (renderRange s left right).statement (HasShape s left right "BETWEEN")
      (IsRefused s left right "BETWEEN") := by
  rw [(states_range s left right).statement_eq]
  refine (written_endsIn (.inl rfl)).bind fun l hl => ?_
  rcases hpair : right.pair? with _ | ⟨low, high⟩
  · exact .fails (.noPair hpair)
  · have hends : ∀ v ∈ [low, high], IsOperand left right v := fun v hv =>
      .inr (by rwa [Value.members?_of_pair? hpair])
    refine (written_endsIn (hends low (by simp))).bind fun lo hlow => ?_
    exact (written_endsIn (hends high (by simp))).bind fun hi hhigh =>
      .done (.range hpair hl hlow hhigh)

/-! ### Comparisons -/

section Comparison

variable (s left) {operator name : String} (hname : normalizeOperator operator = name)
include hname

theorem renderComparison_pattern {keyword : String} {leading trailing : Bool}
    (h : (name, keyword, leading, trailing) ∈ patternTests) (hright : right.isQuery = false) :
    renderComparison s left right (.text operator) =
      renderPattern s left right keyword leading trailing := by
  have hkind := OperatorKind.ofName_pattern h
  rw [renderComparison, operatorName, hname, ofExcept_ok_bind, hkind, hright]
  rfl

theorem renderComparison_membership {constant : String} (h : (name, constant) ∈ membershipTests)
    (hright : right.isQuery = false) : ∃ negated : Bool,
      constant = (if negated then "1 = 1" else "1 = 0") ∧
        renderComparison s left right (.text operator) =
          renderMembership s left right name negated := by
  obtain ⟨negated, hkind, hconstant⟩ := OperatorKind.ofName_membership h
  refine ⟨negated, hconstant, ?_⟩
  rw [renderComparison, operatorName, hname, ofExcept_ok_bind, hkind, hright]
  rfl

theorem renderComparison_range (h : name = "BETWEEN") (hright : right.isQuery = false) :
    renderComparison s left right (.text operator) = renderRange s left right := by
  have hkind : OperatorKind.ofName "BETWEEN" = .range := rfl
  rw [renderComparison, operatorName, hname, h, ofExcept_ok_bind, hkind, hright]
  rfl

theorem renderComparison_query (h : name ∈ specialOperators) (hright : right.isQuery = true) :
    renderComparison s left right (.text operator) = renderPlain s left right (.text operator) := by
  rw [renderComparison, operatorName, hname, ofExcept_ok_bind, hright]
  simp only [specialOperators, patternTests, membershipTests, List.map_cons, List.map_nil,
    List.cons_append, List.nil_append, List.mem_cons, List.not_mem_nil, or_false] at h
  rcases h with rfl | rfl | rfl | rfl | rfl | rfl | rfl <;> rfl

/-- A comparison by a special operator has one of its shapes, or it is refused. -/
theorem comparison_endsIn (h : name ∈ specialOperators) (hright : right.isQuery = false) :
    EndsIn (renderComparison s left right (.text operator)).statement
      (HasShape s left right name) (IsRefused s left right name) := by
  rcases specialOperators_cases h with ⟨keyword, leading, trailing, hpattern⟩ |
    ⟨constant, hmember⟩ | rfl
  · rw [renderComparison_pattern s left hname hpattern hright]
    exact pattern_endsIn hpattern
  · obtain ⟨negated, rfl, heq⟩ := renderComparison_membership s left hname hmember hright
    rw [heq]
    exact membership_endsIn hmember
  · rw [renderComparison_range s left hname rfl hright]
    exact range_endsIn

/-- Each shape is what a comparison comes to. -/
theorem statement_of_shape {st : Statement} (h : HasShape s left right name st)
    (hright : right.isQuery = false) :
    (renderComparison s left right (.text operator)).statement = .ok st := by
  cases h with
  | pattern hpattern hl =>
    rw [renderComparison_pattern s left hname hpattern hright, (states_pattern ..).statement_eq, hl]
    rfl
  | membership hmember hitems hne hl hparts =>
    obtain ⟨negated, -, heq⟩ := renderComparison_membership s left hname hmember hright
    obtain ⟨v, vs, rfl⟩ := List.exists_cons_of_ne_nil hne
    rw [heq, (states_membership ..).statement_eq]
    simp only [hitems, hl, hparts, bind, Except.bind]
  | constant hmember hitems =>
    obtain ⟨negated, hconstant, heq⟩ := renderComparison_membership s left hname hmember hright
    rw [heq, (states_membership ..).statement_eq, hitems, hconstant]
  | range hpair hl hlow hhigh =>
    rw [renderComparison_range s left hname rfl hright, (states_range ..).statement_eq]
    simp only [hl, hpair, hlow, hhigh, bind, Except.bind]

end Comparison

/-- **Special operators keep their shape.** If the right side is no query, a comparison by a special
operator comes to a statement exactly if it is one of the shapes of the operator, and else it is
refused for an operand or for the kind of its right side. A query on the right side stands in
parentheses behind the operator as it is spelled. -/
theorem comparison_has_shape (s : Scope) (left right : Value) (operator : String)
    (hspecial : normalizeOperator operator ∈ specialOperators) :
    (right.isQuery = false →
      (∀ st, (renderComparison s left right (.text operator)).statement = .ok st ↔
        HasShape s left right (normalizeOperator operator) st) ∧
      ∀ f, (renderComparison s left right (.text operator)).statement = .error f →
        IsRefused s left right (normalizeOperator operator) f) ∧
    ∀ handle label, right = .query handle label →
      (renderComparison s left right (.text operator)).statement = (do
        let l ← s.written left
        let st ← s.nested handle
        .ok ⟨l.sql ++ " " ++ operator ++ " (" ++ st.sql ++ ")", l.params ++ st.params⟩) := by
  refine ⟨fun hright => ?_, ?_⟩
  · have hends := comparison_endsIn s left rfl hspecial hright
    refine ⟨fun st => ⟨hends.of_ok, fun h => ?_⟩, fun f => hends.of_error⟩
    exact statement_of_shape s left rfl h hright
  · rintro handle label rfl
    rw [renderComparison_query _ _ rfl hspecial rfl, (states_plain ..).statement_eq,
      s.written_query]
    have hshown : (Value.text operator).display = .ok operator := rfl
    have hopen : " (" = " " ++ "(" := rfl
    cases s.nested handle with
    | ok st => simp only [Except.map, bind, Except.bind, hshown, hopen, String.append_assoc]
    | error f => rfl

/-- A test of a column against a text, whose operator has two blanks and is in lower case. -/
theorem comparison_has_shape_spelled :
    (renderComparison ⟨.mysql, fun _ => .error (.display .endless)⟩
      (.column (.text "c") (.text "name")) (.text "x") (.text "not  like")).statement =
        .ok ⟨"`c`.`name` NOT LIKE CONCAT('%', ?, '%')", [.text "x"]⟩ := by
  have hspecial : normalizeOperator "not  like" ∈ specialOperators := by decide +kernel
  have hshape := (comparison_has_shape ⟨.mysql, fun _ => .error (.display .endless)⟩
    (.column (.text "c") (.text "name")) (.text "x") "not  like" hspecial).1 rfl
  refine (hshape.1 _).mpr ?_
  have hname : normalizeOperator "not  like" = "NOT LIKE" := by decide +kernel
  rw [hname]
  have hpattern : ("NOT LIKE", "NOT LIKE", true, true) ∈ patternTests := by decide
  exact .pattern (l := ⟨"`c`.`name`", []⟩) hpattern rfl

/-! ### Tests of a query -/

/-- A test for a pattern, as SQL has it. -/
def IsPatternTest (left text : String) : Prop :=
  ∃ right, text = left ++ " LIKE " ++ right ∨ text = left ++ " NOT LIKE " ++ right

/-- A test for a range, as SQL has it. -/
def IsRangeTest (left text : String) : Prop :=
  ∃ low high, text = left ++ " BETWEEN " ++ low ++ " AND " ++ high

/-- The rules of all filters. -/
def ruleQuery : Select where
  fields := [.column (.text "filters") (.text "rule") .null]
  tables := [{ schema := .null, table := .text "filters" }]
  conditions := .list []
  order := []
  page := none
  limit := none

/-- The scope of comparisons with `ruleQuery`. -/
def ruleScope : Scope :=
  ⟨.mysql, fun _ => ruleQuery.compile ⟨.mysql, fun _ => .error (.display .endless)⟩⟩

/-- A pattern test of a query shows the name of the operator instead of what it stands for, and a
range test of a query has no range. -/
theorem query_breaks_shape :
    (∃ st, (renderComparison ruleScope (.column (.text "c") (.text "name")) (.ofQuery 0)
        (.text "LIKE%")).statement = .ok st ∧ ¬ IsPatternTest "`c`.`name`" st.sql) ∧
      ∃ st, (renderComparison ruleScope (.column (.text "c") (.text "name")) (.ofQuery 0)
        (.text "BETWEEN")).statement = .ok st ∧ ¬ IsRangeTest "`c`.`name`" st.sql := by
  have hlike : normalizeOperator "LIKE%" ∈ specialOperators := by decide +kernel
  have hbetween : normalizeOperator "BETWEEN" ∈ specialOperators := by decide +kernel
  refine ⟨⟨⟨"`c`.`name` LIKE% (SELECT `filters`.`rule` FROM `filters`)", []⟩, ?_, ?_⟩,
    ⟨"`c`.`name` BETWEEN (SELECT `filters`.`rule` FROM `filters`)", []⟩, ?_, ?_⟩
  · rw [renderComparison_query _ _ rfl hlike rfl, (states_plain ..).statement_eq]
    rfl
  · rintro ⟨right, h | h⟩ <;> simpa [String.toList_append] using congrArg String.toList h
  · rw [renderComparison_query _ _ rfl hbetween rfl, (states_plain ..).statement_eq]
    rfl
  · rintro ⟨low, high, h⟩
    -- there is no `AND` in the whole text
    have hmem : 'A' ∈ ("`c`.`name` BETWEEN " ++ low ++ " AND " ++ high).toList := by
      simp [String.toList_append]
    have htext : "`c`.`name` BETWEEN " = "`c`.`name`" ++ " BETWEEN " := rfl
    rw [htext, ← h] at hmem
    exact absurd hmem (by decide)

end Condition

end FluentSql
