import FluentSql.Proofs.Condition.Written

/-!
# Condition trees

The nodes of a condition list are the flat form of a forest: comparisons and groups, where a group
is a forest between two marks. `Forest.print` is the text of a forest by itself. The rendering of a
condition list does not know how deep it is in groups, only whether the next node has something
before it. That is enough for all forests (`Condition.nodes_print_forest`).
-/

namespace FluentSql

/-- A forest of conditions with `α` at its leaves: a tree, by its combinator, and its siblings
behind it. -/
inductive Forest (α : Type) where
  | nil
  | leaf (combinator : String) (a : α) (rest : Forest α)
  /-- A group, with what its closing mark has for a combinator. -/
  | group (combinator : String) (closing : Value) (members rest : Forest α)

namespace Forest

variable {α : Type}

/-- Whether there are no trees. -/
def isEmpty : Forest α → Bool
  | nil => true
  | leaf .. | group .. => false

/-- The leaves from left to right. -/
def leaves : Forest α → List α
  | nil => []
  | leaf _ a rest => a :: leaves rest
  | group _ _ members rest => leaves members ++ leaves rest

/-- The texts of further siblings, each behind its combinator. -/
def linked : List (String × String) → String
  | [] => ""
  | (combinator, text) :: rest => " " ++ combinator ++ " " ++ text ++ linked rest

/-- The texts of siblings. The combinator of the first one is dropped. -/
def joined : List (String × String) → String
  | [] => ""
  | (_, text) :: rest => text ++ linked rest

/-- The trees of a forest, each by its combinator and its text. -/
def trees (text : α → String) : Forest α → List (String × String)
  | nil => []
  | leaf combinator a rest => (combinator, text a) :: trees text rest
  | group combinator _ members rest =>
    (combinator, "(" ++ joined (trees text members) ++ ")") :: trees text rest

/-- The text of a forest. -/
def print (text : α → String) (F : Forest α) : String :=
  joined (F.trees text)

end Forest

/-- A comparison of a condition list, apart from its combinator. -/
structure Comparison where
  left : Value
  right : Value
  operator : Value

namespace Comparison

/-- The rendering of a comparison. -/
def render (c : Comparison) (s : Scope) : Rendering String :=
  Condition.renderComparison s c.left c.right c.operator

end Comparison

/-- The flat form of a forest. -/
def Forest.nodes : Forest Comparison → List Value
  | nil => []
  | leaf combinator c rest =>
    .comparison c.left c.right c.operator (.text combinator) :: nodes rest
  | group combinator closing members rest =>
    .groupStart (.text combinator) :: (nodes members ++ .groupEnd closing :: nodes rest)

namespace Condition

open Forest Rendering

/-! ### One node -/

/-- A combinator between blanks, unless it is dropped. -/
def link (bare : Bool) (combinator : String) : String :=
  if bare then "" else " " ++ combinator ++ " "

theorem joiner_text (bare : Bool) (combinator : String) :
    joiner bare (.text combinator) = pure (link bare combinator) := by
  cases bare <;> rfl

section Nodes

variable {s : Scope} {bare : Bool} {combinator text : String} {rest : List Condition}
  {before after : List Value}

/-- Text before a rendering, which binds nothing. -/
theorem behind_text_iff {r : Rendering String} {start : String} :
    (r >>= fun more => pure (start ++ more)) before = (.ok text, after) ↔
      ∃ more, r before = (.ok more, after) ∧ text = start ++ more := by
  rw [Fallible.bind_apply_eq_ok_iff]
  constructor
  · rintro ⟨more, params, hmore, ⟨⟩⟩
    exact ⟨more, hmore, rfl⟩
  · rintro ⟨more, hmore, rfl⟩
    exact ⟨more, after, hmore, rfl⟩

theorem renderList_comparison_iff {c : Comparison} :
    renderList s bare (.comparison c.left c.right c.operator (.text combinator) :: rest) before =
        (.ok text, after) ↔
      ∃ st more, (c.render s).statement = .ok st ∧
        renderList s false rest (before ++ st.params) = (.ok more, after) ∧
        text = link bare combinator ++ st.sql ++ more := by
  have hcomparison := states_comparison s c.left c.right c.operator
  rw [renderList, joiner_text, pure_bind, Fallible.bind_apply_eq_ok_iff]
  constructor
  · rintro ⟨first, params, hfirst, hrest⟩
    obtain ⟨st, hst, rfl, rfl⟩ := hcomparison.apply_eq_ok_iff.mp hfirst
    obtain ⟨more, hmore, htext⟩ := behind_text_iff.mp hrest
    exact ⟨st, more, hst, hmore, htext⟩
  · rintro ⟨st, more, hst, hmore, htext⟩
    refine ⟨st.sql, before ++ st.params, ?_, behind_text_iff.mpr ⟨more, hmore, htext⟩⟩
    exact hcomparison.apply_eq_ok_iff.mpr ⟨st, hst, rfl, rfl⟩

theorem renderList_groupStart_iff :
    renderList s bare (.groupStart (.text combinator) :: rest) before = (.ok text, after) ↔
      ∃ more, renderList s true rest before = (.ok more, after) ∧
        text = link bare combinator ++ "(" ++ more := by
  rw [renderList, joiner_text, pure_bind]
  exact behind_text_iff

theorem renderList_groupEnd_iff {closing : Value} :
    renderList s bare (.groupEnd closing :: rest) before = (.ok text, after) ↔
      ∃ more, renderList s false rest before = (.ok more, after) ∧ text = ")" ++ more := by
  rw [renderList]
  exact behind_text_iff

end Nodes

/-! ### A whole forest -/

/-- The text of siblings where they stand. -/
def placed (bare : Bool) (siblings : List (String × String)) : String :=
  if bare then joined siblings else linked siblings

theorem placed_true (siblings : List (String × String)) : placed true siblings = joined siblings :=
  rfl

theorem placed_cons (bare : Bool) (combinator text : String)
    (siblings : List (String × String)) :
    placed bare ((combinator, text) :: siblings) =
      link bare combinator ++ text ++ placed false siblings := by
  cases bare with
  | false => rfl
  | true =>
    rw [link, if_pos rfl, String.empty_append]
    rfl

variable {s : Scope}

/-- The nodes of a forest are rendered as its text, with the values of its leaves. Behind them the
rendering goes on as if the forest were a single node; if there are no nodes at all, nothing has
changed. -/
theorem renderList_nodes {shown : Comparison → Statement} {F : Forest Comparison}
    (hF : ∀ c ∈ F.leaves, (c.render s).statement = .ok (shown c)) (bare : Bool)
    {rest : List Condition} {text : String} {before after : List Value}
    (hrest : renderList s (bare && F.isEmpty) rest
      (before ++ F.leaves.flatMap fun c => (shown c).params) = (.ok text, after)) :
    renderList s bare (F.nodes.map ofValue ++ rest) before =
      (.ok (placed bare (F.trees fun c => (shown c).sql) ++ text), after) := by
  induction F generalizing bare rest text before after with
  | nil =>
    rw [leaves, List.flatMap_nil, List.append_nil, isEmpty, Bool.and_true] at hrest
    have hplaced : placed bare [] = "" := by cases bare <;> rfl
    rw [trees, hplaced, String.empty_append]
    exact hrest
  | leaf combinator c siblings ih =>
    rw [isEmpty, Bool.and_false, leaves, List.flatMap_cons, ← List.append_assoc] at hrest
    have hsiblings := ih (fun c hc => hF c (List.mem_cons_of_mem _ hc)) false hrest
    rw [trees, placed_cons, String.append_assoc]
    exact renderList_comparison_iff.mpr ⟨shown c, _, hF c List.mem_cons_self, hsiblings, rfl⟩
  | group combinator closing members siblings ihm ihs =>
    rw [isEmpty, Bool.and_false, leaves, List.flatMap_append, ← List.append_assoc] at hrest
    have hsiblings := ihs (fun c hc => hF c (List.mem_append_right _ hc)) false hrest
    -- the closing mark stands behind the members, and whatever follows it has something before it
    have hclosing : renderList s (true && members.isEmpty)
        (.groupEnd closing :: (siblings.nodes.map ofValue ++ rest)) _ = _ :=
      renderList_groupEnd_iff.mpr ⟨_, hsiblings, rfl⟩
    have hmembers := ihm (fun c hc => hF c (List.mem_append_left _ hc)) true hclosing
    rw [nodes, List.map_cons, List.map_append, List.map_cons, List.cons_append, List.append_assoc,
      trees, placed_cons]
    refine renderList_groupStart_iff.mpr ⟨_, hmembers, ?_⟩
    simp only [placed_true, String.append_assoc]

/-- Where the nodes of a forest are rendered with what is behind them, its leaves are rendered, and
so is what is behind them. -/
theorem leaves_of_renderList {F : Forest Comparison} {bare : Bool} {rest : List Condition}
    {text : String} {before after : List Value}
    (h : renderList s bare (F.nodes.map ofValue ++ rest) before = (.ok text, after)) :
    (∀ c ∈ F.leaves, ∃ st, (c.render s).statement = .ok st) ∧
      ∃ bare' more before', renderList s bare' rest before' = (.ok more, after) := by
  induction F generalizing bare rest text before after with
  | nil => exact ⟨nofun, bare, text, before, h⟩
  | leaf combinator c siblings ih =>
    obtain ⟨st, more, hst, hmore, -⟩ := renderList_comparison_iff.mp h
    obtain ⟨hsiblings, hrest⟩ := ih hmore
    exact ⟨List.forall_mem_cons.mpr ⟨⟨st, hst⟩, hsiblings⟩, hrest⟩
  | group combinator closing members siblings ihm ihs =>
    rw [nodes, List.map_cons, List.map_append, List.map_cons, List.cons_append,
      List.append_assoc] at h
    obtain ⟨more, hmore, -⟩ := renderList_groupStart_iff.mp h
    obtain ⟨hmembers, bare', more', before', hclosing⟩ := ihm hmore
    obtain ⟨last, hlast, -⟩ := renderList_groupEnd_iff.mp hclosing
    obtain ⟨hsiblings, hrest⟩ := ihs hlast
    exact ⟨List.forall_mem_append.mpr ⟨hmembers, hsiblings⟩, hrest⟩

/-- **A condition list is rendered as the text of its forest.** The nodes of a forest are rendered
if and only if all of its leaves are, and then as the text of the forest, with the values of the
leaves from left to right behind those that are bound already. -/
theorem nodes_print_forest (s : Scope) (F : Forest Comparison) (before : List Value) :
    ((∃ text after, renderNodes s (.list F.nodes) before = (.ok text, after)) ↔
      ∀ c ∈ F.leaves, ∃ st, (c.render s).statement = .ok st) ∧
    ∀ shown : Comparison → Statement,
      (∀ c ∈ F.leaves, (c.render s).statement = .ok (shown c)) →
      renderNodes s (.list F.nodes) before =
        (.ok (F.print fun c => (shown c).sql),
          before ++ F.leaves.flatMap fun c => (shown c).params) := by
  have hnodes : renderNodes s (.list F.nodes) = renderList s true (F.nodes.map ofValue ++ []) := by
    rw [List.append_nil]
    rfl
  have hprints : ∀ shown : Comparison → Statement,
      (∀ c ∈ F.leaves, (c.render s).statement = .ok (shown c)) →
      renderNodes s (.list F.nodes) before =
        (.ok (F.print fun c => (shown c).sql),
          before ++ F.leaves.flatMap fun c => (shown c).params) := fun shown hF => by
    have hend : renderList s (true && F.isEmpty) []
        (before ++ F.leaves.flatMap fun c => (shown c).params) = (.ok "", _) := rfl
    rw [hnodes, renderList_nodes hF true hend, String.append_empty]
    rfl
  refine ⟨⟨?_, fun hF => ?_⟩, hprints⟩
  · rintro ⟨text, after, h⟩
    rw [hnodes] at h
    exact (leaves_of_renderList h).1
  · let shown (c : Comparison) : Statement := (c.render s).statement.toOption.getD ⟨"", []⟩
    have hshown : ∀ c ∈ F.leaves, (c.render s).statement = .ok (shown c) := by
      intro c hc
      obtain ⟨st, hst⟩ := hF c hc
      simp [shown, hst, Except.toOption]
    exact ⟨_, _, hprints shown hshown⟩

/-- A group at the beginning, with an empty group at its end, and a comparison behind it. -/
theorem nodes_print_forest_nested :
    renderNodes ⟨.mysql, fun _ => .error (.display .endless)⟩
        (.list (Forest.nodes (.group "AND" .null
          (.leaf "AND" ⟨.column (.text "t") (.text "a"), .int 1, .text "="⟩
            (.group "OR" (.text "AND") .nil .nil))
          (.leaf "AND" ⟨.column (.text "t") (.text "a"), .int 2, .text "="⟩ .nil)))) [.int 0] =
      (.ok "(`t`.`a` = ? OR ()) AND `t`.`a` = ?", [.int 0, .int 1, .int 2]) := by
  let shown (c : Comparison) : Statement := ⟨"`t`.`a` = ?", [c.right]⟩
  refine (nodes_print_forest _ _ [.int 0]).2 shown fun c hc => ?_
  rcases List.mem_cons.mp hc with rfl | hc
  · rfl
  · obtain rfl := List.mem_singleton.mp hc
    rfl

end Condition

end FluentSql
