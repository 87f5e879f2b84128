import FluentSql.Proofs.Marked.Query

/-!
# Compiled queries are read off marked text

Every part of a query shows what its reference says, whatever has been bound before it. The lemmas
follow the parts of a query, and `Store.compileWithin_eq_marked` puts them together, by induction on
the depth of nesting.
-/

namespace FluentSql

open Rendering

variable (s : MarkedScope)

/-! ### Operands -/

namespace MarkedScope

theorem shows_column (table name : Value) :
    Shows (s.scope.column table name) (s.column table name) :=
  shows_ofExcept _

theorem sql_aliased (text : Marked Value) (a : Option String) :
    (s.aliased text a).sql = s.dialect.aliased text.sql a := by
  cases a with
  | none => rfl
  | some a => simp [aliased, Dialect.aliased, String.append_assoc]

theorem values_aliased (text : Marked Value) (a : Option String) :
    (s.aliased text a).values = text.values := by
  cases a with
  | none => rfl
  | some a => simp [aliased]

/-- An alias behind text whose values are bound already. -/
theorem writes_underAlias {before : List Value} {sql : String} {text : Marked Value}
    (hsql : sql = text.sql) (hvalues : before = text.values) (aliasName : Value) :
    Writes before (s.scope.underAlias sql aliasName) (s.underAlias text aliasName)
      Marked.sql Marked.values := by
  rw [Scope.underAlias, underAlias, Dialect.underAlias]
  cases aliasName.name? with
  | ok a =>
    refine .pure ?_ ?_
    · rw [sql_aliased, hsql]
      rfl
    · rw [values_aliased, hvalues]
  | error f => exact .fail f

theorem shows_operand (v : Value) : Shows (s.scope.operand v) (s.operand v) := by
  cases v with
  | column table name => exact s.shows_column table name
  | query handle labels => exact shows_embed (s.nested handle)
  | _ => exact shows_bindValue _

theorem sql_concat (parts : List (Marked Value)) :
    (s.concat parts).sql = s.dialect.concat (parts.map Marked.sql) := by
  unfold concat Dialect.concat
  cases s.dialect <;> simp [String.append_assoc]

theorem values_concat (parts : List (Marked Value)) :
    (s.concat parts).values = parts.flatMap Marked.values := by
  unfold concat
  cases s.dialect <;> simp

theorem sql_pattern (v : Value) (leading trailing : Bool) :
    (s.pattern v leading trailing).sql = s.dialect.pattern leading trailing := by
  rw [pattern, sql_concat, Dialect.pattern]
  cases leading <;> cases trailing <;> simp

theorem values_pattern (v : Value) (leading trailing : Bool) :
    (s.pattern v leading trailing).values = [v] := by
  rw [pattern, values_concat]
  cases leading <;> cases trailing <;> simp

end MarkedScope

/-! ### Fields -/

namespace Field

theorem shows_source (name distinct source : Value) :
    Shows (renderSource s.scope name distinct source) (markedSource s name distinct source) := by
  cases source with
  | null =>
    rw [renderSource, markedSource]
    split
    · exact .ofExcept fun shown => .fail _
    · exact .pure (by simp) (by simp)
  | query handle labels => exact s.shows_operand (.query handle labels)
  | column table c => exact s.shows_column table c
  | _ => exact .fail _

theorem shows_argument (argument : Option Value) :
    Shows (renderArgument s.scope argument) (markedArgument s argument) := by
  cases argument with
  | none => exact .pure rfl rfl
  | some v => exact (s.shows_operand v).bind fun second => .pure (by simp) (by simp)

theorem shows_column (v : Value) : Shows (renderColumn s.scope v) (markedColumn s v) := by
  cases v with
  | column table name => exact s.shows_column table name
  | _ => exact .fail _

theorem showsAll_separator (v : Value) :
    ShowsAll (List.singleton <$> bindValue v) (.ok [.bound v]) where
  of_ok := by
    rintro _ ⟨⟩ params
    rw [List.append_nil]
    rfl
  of_error := nofun

theorem showsAll_nil : ShowsAll (pure []) (.ok []) :=
  .pure rfl rfl

theorem showsAll_tail (separator : Value) (columns : List Value) :
    ShowsAll (renderTail s.scope separator columns) (markedTail s separator columns) := by
  induction columns with
  | nil => exact .pure rfl rfl
  | cons c rest ih =>
    -- the separator takes part in the reference as a part that cannot fail
    have hmarked : markedTail s separator (c :: rest) =
        (Except.ok (if separator.truthy then [Marked.bound separator] else []) >>= fun gap => do
          let part ← markedColumn s c
          let parts ← markedTail s separator rest
          .ok (gap ++ part :: parts)) := rfl
    have hcolumn := shows_column s c
    rw [renderTail, hmarked]
    split
    · refine (showsAll_separator separator).bind fun gap => ?_
      exact (hcolumn.behind _).bind fun part => (ih.behind _).bind fun parts =>
        .pure (by simp) (by simp)
    · refine showsAll_nil.bind fun gap => ?_
      exact (hcolumn.behind _).bind fun part => (ih.behind _).bind fun parts =>
        .pure (by simp) (by simp)

theorem showsAll_parts (separator : Value) (columns : List Value) :
    ShowsAll (renderParts s.scope separator columns) (markedParts s separator columns) := by
  cases columns with
  | nil => exact .pure rfl rfl
  | cons c rest =>
    have hcolumn := shows_column s c
    have htail := showsAll_tail s separator rest
    exact hcolumn.bind fun part => (htail.behind _).bind fun parts => .pure (by simp) (by simp)

theorem shows_render (f : Field) : Shows (f.render s.scope) (f.marked s) := by
  cases f with
  | column table name aliasName =>
    exact (s.shows_column table name).bind fun text => s.writes_underAlias rfl rfl aliasName
  | wildcard table => exact s.shows_column table (.text "*")
  | function name source distinct aliasName argument =>
    have hsource := shows_source s name distinct source
    have hargument := shows_argument s argument
    refine hsource.bind fun inner => (hargument.behind _).bind fun second => ?_
    refine .ofExcept fun called => s.writes_underAlias ?_ ?_ aliasName
    · split <;> simp [String.append_assoc]
    · simp
  | concat columns aliasName separator =>
    refine .ofExcept fun items => ?_
    have hparts := showsAll_parts s separator items
    refine hparts.bind fun parts => s.writes_underAlias ?_ ?_ aliasName
    · rw [s.sql_concat]
      rfl
    · rw [s.values_concat]
  | subquery query aliasName =>
    cases query with
    | query handle label =>
      have hquery := s.shows_operand (.query handle label)
      exact hquery.bind fun text => s.writes_underAlias rfl rfl aliasName
    | _ => exact .fail _

end Field

/-! ### Tables -/

namespace Table

variable (t : Table)

theorem shows_equality (column target : Value) :
    Shows (t.renderEquality s.scope column target) (t.markedEquality s column target) := by
  refine (s.shows_column t.label column).bind fun left => ?_
  cases target with
  -- the left side was rendered already, so its fault comes before that of a query as a target
  | query handle labels => exact .ofExcept fun shown => .fail _
  | _ =>
    exact ((s.shows_operand _).behind _).bind fun right =>
      .pure (by simp [String.append_assoc]) (by simp)

theorem showsAll_equalities (entries : List (Value × Value)) :
    ShowsAll (t.renderEqualities s.scope entries) (t.markedEqualities s entries) := by
  induction entries with
  | nil => exact .pure rfl rfl
  | cons e rest ih =>
    have hequality := shows_equality s t e.1 e.2
    exact hequality.bind fun equality => (ih.behind _).bind fun equalities =>
      .pure (by simp) (by simp)

theorem shows_on : Shows (t.renderOn s.scope) (t.markedOn s) := by
  rw [renderOn, markedOn]
  split
  · exact .pure rfl rfl
  · cases t.joins with
    | record entries =>
      have hequalities := showsAll_equalities s t entries
      exact hequalities.bind fun equalities => .pure (by simp [String.append_assoc]) (by simp)
    | _ => exact .fail _

theorem shows_render (first : Bool) : Shows (t.render s.scope first) (t.marked s first) := by
  refine .ofExcept fun sql => ?_
  cases first with
  | true => exact .pure (by simp) (by simp)
  | false =>
    have hon := shows_on s t
    exact .ofExcept fun keyword => hon.bind fun condition =>
      .pure (by simp [String.append_assoc]) (by simp)

end Table

/-! ### Conditions -/

namespace Condition

theorem showsAll_all (vs : List Value) : ShowsAll (renderAll s.scope vs) (markedAll s vs) := by
  induction vs with
  | nil => exact .pure rfl rfl
  | cons v vs ih =>
    have hoperand := s.shows_operand v
    exact hoperand.bind fun text => (ih.behind _).bind fun texts => .pure (by simp) (by simp)

theorem shows_plain (left right operator : Value) :
    Shows (renderPlain s.scope left right operator) (markedPlain s left right operator) := by
  have hleft := s.shows_operand left
  have hright := s.shows_operand right
  exact hleft.bind fun l => .ofExcept fun shown => (hright.behind _).bind fun r =>
    .pure (by simp [String.append_assoc]) (by simp)

theorem shows_membership (left right : Value) (keyword : String) (negated : Bool) :
    Shows (renderMembership s.scope left right keyword negated)
      (markedMembership s left right keyword negated) := by
  rw [renderMembership, markedMembership]
  rcases right.members? with _ | _ | ⟨v, vs⟩
  · exact .fail _
  · -- a test in an empty collection is a constant, and the left side is not rendered
    exact .pure (by simp) (by simp)
  · have hleft := s.shows_operand left
    have hitems := showsAll_all s (v :: vs)
    exact hleft.bind fun l => (hitems.behind _).bind fun texts =>
      .pure (by simp [String.append_assoc]) (by simp)

theorem shows_range (left right : Value) :
    Shows (renderRange s.scope left right) (markedRange s left right) := by
  refine (s.shows_operand left).bind fun l => ?_
  rcases right.pair? with _ | ⟨low, high⟩
  · exact .fail _
  · have hlow := s.shows_operand low
    have hhigh := s.shows_operand high
    exact (hlow.behind _).bind fun lo => (hhigh.behind _).bind fun hi =>
      .pure (by simp [String.append_assoc]) (by simp)

theorem shows_pattern (left right : Value) (keyword : String) (leading trailing : Bool) :
    Shows (renderPattern s.scope left right keyword leading trailing)
      (markedPattern s left right keyword leading trailing) := by
  -- the pattern binds its value outside the monad, so the two runs are compared as they are
  refine (s.shows_operand left).bind fun l => ⟨?_, nofun⟩
  rintro _ ⟨⟩ params
  have hsql : l.sql ++ " " ++ keyword ++ " " ++ s.dialect.pattern leading trailing =
      Marked.sql (l ++ (.plain (" " ++ keyword ++ " ") ++
        s.pattern right leading trailing)) := by
    simp [s.sql_pattern, String.append_assoc]
  have hvalues : l.values ++ [right] =
      Marked.values (l ++ (.plain (" " ++ keyword ++ " ") ++
        s.pattern right leading trailing)) := by
    simp [s.values_pattern]
  rw [← hsql, ← hvalues, ← List.append_assoc]
  rfl

theorem shows_comparison (left right operator : Value) :
    Shows (renderComparison s.scope left right operator)
      (markedComparison s left right operator) := by
  refine .ofExcept fun keyword => ?_
  cases OperatorKind.ofName keyword with
  | nullTest =>
    exact (s.shows_operand left).bind fun l => .pure (by simp [String.append_assoc]) (by simp)
  | pattern name leading trailing =>
    simp only
    split
    · exact shows_plain s left right operator
    · exact shows_pattern s left right name leading trailing
  | membership negated =>
    simp only
    split
    · exact shows_plain s left right operator
    · exact shows_membership s left right keyword negated
  | range =>
    simp only
    split
    · exact shows_plain s left right operator
    · exact shows_range s left right
  | plain => exact shows_plain s left right operator

theorem shows_joiner (bare : Bool) (combinator : Value) :
    Shows (joiner bare combinator) (markedJoiner bare combinator) := by
  cases bare with
  | true => exact .pure rfl rfl
  | false => exact .ofExcept fun shown => .pure (by simp [String.append_assoc]) (by simp)

theorem shows_list (bare : Bool) (nodes : List Condition) :
    Shows (renderList s.scope bare nodes) (markedList s bare nodes) := by
  induction nodes generalizing bare with
  | nil => exact .pure rfl rfl
  | cons node rest ih =>
    cases node with
    | groupStart combinator =>
      -- the first node of a group stands bare, whatever the node before the group is
      have hjoiner := shows_joiner bare combinator
      exact hjoiner.bind fun link => ((ih true).behind _).bind fun text =>
        .pure (by simp [String.append_assoc]) (by simp)
    | groupEnd combinator =>
      exact (ih false).bind fun text => .pure (by simp) (by simp)
    | comparison left right operator combinator =>
      have hjoiner := shows_joiner bare combinator
      have hcomparison := shows_comparison s left right operator
      refine hjoiner.bind fun link => (hcomparison.behind _).bind fun first => ?_
      exact ((ih false).behind _).bind fun text => .pure (by simp [String.append_assoc]) (by simp)
    | unknown v => exact .ofExcept fun shown => .fail _

theorem shows_nodes (nodes : Value) : Shows (renderNodes s.scope nodes) (markedNodes s nodes) :=
  .ofExcept fun items => shows_list s true (items.map ofValue)

end Condition

/-! ### Queries -/

namespace Select

theorem showsAll_fields (fields : List Field) :
    ShowsAll (renderFields s.scope fields) (markedFields s fields) := by
  induction fields with
  | nil => exact .pure rfl rfl
  | cons f fs ih =>
    have hfield := f.shows_render s
    exact hfield.bind fun text => (ih.behind _).bind fun texts => .pure (by simp) (by simp)

theorem showsAll_tables (first : Bool) (tables : List Table) :
    ShowsAll (renderTables s.scope first tables) (markedTables s first tables) := by
  induction tables generalizing first with
  | nil => exact .pure rfl rfl
  | cons t ts ih =>
    have htable := t.shows_render s first
    exact htable.bind fun text => ((ih false).behind _).bind fun texts => .pure (by simp) (by simp)

theorem shows_conditions (conditions : Value) :
    Shows (renderConditions s.scope conditions) (markedConditions s conditions) := by
  rw [renderConditions, markedConditions]
  split
  · exact .pure rfl rfl
  · have hnodes := Condition.shows_nodes s conditions
    exact hnodes.bind fun text => .pure (by simp) (by simp)

theorem shows_render (q : Select) : Shows (q.render s.scope) (q.marked s) := by
  have hfields := showsAll_fields s q.fields
  have htables := showsAll_tables s true q.tables
  have hconditions := shows_conditions s q.conditions
  refine hfields.bind fun fields => (htables.behind _).bind fun tables => ?_
  refine (hconditions.behind _).bind fun conditions => ?_
  -- order and page bind nothing: they stand behind everything as plain text
  exact .ofExcept fun order => .ofExcept fun page =>
    .pure (by simp [String.append_assoc]) (by simp)

end Select

namespace Condition

/-- A membership test in an empty collection is decided without its left side, and binds nothing. -/
theorem renderComparison_of_empty (s : Scope) (left : Value) {right : Value} {operator : String}
    {negated : Bool}
    (hkind : OperatorKind.ofName (normalizeOperator operator) = .membership negated)
    (hempty : right.members? = some []) (params : List Value) :
    renderComparison s left right (.text operator) params =
      (.ok (if negated then "1 = 1" else "1 = 0"), params) := by
  have hquery : right.isQuery = false := by
    cases right <;> first | rfl | cases hempty
  have hname : Fallible.ofExcept (operatorName (.text operator)) params =
      (.ok (normalizeOperator operator), params) := rfl
  rw [renderComparison, Fallible.bind_apply_of_ok hname]
  simp only [hkind, hquery, renderMembership, hempty, Bool.false_eq_true, if_false]
  rfl

end Condition

namespace Store

/-- The scope in which a store compiles its queries is the one that is read off its marked text. -/
theorem compileWithin_eq_marked (store : Store) (d : Dialect) (depth : Nat) (h : Handle) :
    store.compileWithin d depth h = (store.markedWithin d depth h).map Marked.statement := by
  induction depth generalizing h with
  | zero => rfl
  | succ depth ih =>
    -- embedded queries are compiled one level down, where the induction speaks of all of them
    have hscope : (⟨d, store.compileWithin d depth⟩ : Scope) =
        (⟨d, store.markedWithin d depth⟩ : MarkedScope).scope :=
      congrArg (Scope.mk d) (funext ih)
    rw [compileWithin, hscope, Select.compile, ((store.select h).shows_render _).statement_eq]
    rfl

theorem compile_eq_marked (store : Store) (h : Handle) (d : Dialect) :
    store.compile h d = (store.marked h d).map Marked.statement :=
  compileWithin_eq_marked store d store.queries.size h

/-- A query that compiles has a marked text. -/
theorem exists_marked_of_compile {store : Store} {h : Handle} {d : Dialect} {statement : Statement}
    (hcompile : store.compile h d = .ok statement) :
    ∃ t, store.marked h d = .ok t ∧ t.statement = statement := by
  rw [compile_eq_marked] at hcompile
  cases hmarked : store.marked h d with
  | ok t =>
    rw [hmarked] at hcompile
    exact ⟨t, rfl, Except.ok.inj hcompile⟩
  | error f =>
    rw [hmarked] at hcompile
    cases hcompile

/-- **Placeholder `i` binds value `i`.** A compiled query is read off its marked text: its text is
the marked text with every marker replaced by a placeholder, and its values are those of the
markers, in the order of the text. So there are as many values as placeholders. A membership test in
an empty collection writes a constant and binds nothing, whatever its left side is. -/
theorem compile_binds_marked_values (store : Store) (h : Handle) (d : Dialect) :
    store.compile h d = (store.marked h d).map (fun t => ⟨t.sql, t.values⟩) ∧
      (store.compile h d).map (·.params.length) =
        (store.marked h d).map (·.countP (·.value?.isSome)) ∧
      ∀ (s : Scope) (left right : Value) (operator : String) (negated : Bool),
        OperatorKind.ofName (normalizeOperator operator) = .membership negated →
        right.members? = some [] → ∀ params,
        Condition.renderComparison s left right (.text operator) params =
          (.ok (if negated then "1 = 1" else "1 = 0"), params) := by
  have hcompile := compileWithin_eq_marked store d store.queries.size h
  refine ⟨hcompile, ?_, ?_⟩
  · rw [compile, hcompile, marked]
    cases store.markedWithin d store.queries.size h with
    | ok t => exact congrArg Except.ok t.length_values
    | error f => rfl
  · intro s left right operator negated hkind hempty params
    exact Condition.renderComparison_of_empty s left hkind hempty params

/-- A query on the left side of a test in an empty collection. -/
theorem compile_binds_marked_values_not_in :
    OperatorKind.ofName (normalizeOperator "not  in") = .membership true ∧
      Condition.renderComparison (scope {} .ansi) (.ofQuery 0) (.list []) (.text "not  in")
        [.int 1] = (.ok "1 = 1", [.int 1]) :=
  ⟨rfl, (compile_binds_marked_values {} 0 .ansi).2.2 _ (.ofQuery 0) (.list []) "not  in" true rfl
    rfl [.int 1]⟩

end Store

end FluentSql
