import FluentSql.Proofs.Sharing.Calls

/-!
# What calls do to conditions

A query builder has its conditions in a list that other builders may have, too. A call adds at most
one node (`QueryCall.node?`), to the list that the builder has at that time; the other calls leave
all lists as they are. A builder comes to have another list only where it is given one
(`QueryCall.Gives`), by `set_params` or as the target of a copy. `QueryCall.affects` says this of
every call by name.
-/

namespace FluentSql

variable {σ α β : Type}

/-! ### Nodes -/

namespace QueryCall

/-- The combinator of a call, if it has one that can be read. -/
def combinator? (s : Store) (a : Arguments) : Option Value :=
  (normalizeCombinator (s.settle (a.getOr "combo" (.text "AND")))).toOption.map .text

/-- The comparison of the column that a call names. -/
def comparison? (s : Store) (a : Arguments) (side operator : Value) : Option Value :=
  (combinator? s a).map
    (.comparison (Condition.leftSide (a.get "table") (a.get "column")) side operator)

/-- The test of membership of the column that a call names. -/
def membership? (s : Store) (a : Arguments) (operator : String) : Option Value := do
  let side ← (Condition.membershipSide (s.opened (a.get "values"))).toOption
  comparison? s a side (.text operator)

/-- The node that a call adds to the conditions of a builder, if it adds one. -/
def node? (s : Store) (name : String) (a : Arguments) : Option Value :=
  let compared (operator : String) := comparison? s a (a.get "value") (.text operator)
  match name with
  | "add_param" =>
    comparison? s a (a.get "value")
      (if s.given (a.get "operator") then a.get "operator" else .text "=")
  | "not_equal" => compared "<>"
  | "like" => compared "LIKE"
  | "not_like" => compared "NOT LIKE"
  | "like_prefix" => compared "LIKE%"
  | "like_suffix" => compared "%LIKE"
  | "greater_equal" => compared ">="
  | "less_equal" => compared "<="
  | "greater_than" => compared ">"
  | "less_than" => compared "<"
  | "is_null" => comparison? s a .null (.text "IS NULL")
  | "is_not_null" => comparison? s a .null (.text "IS NOT NULL")
  | "is_in" => membership? s a "IN"
  | "not_in" => membership? s a "NOT IN"
  | "between" => comparison? s a (.list [a.get "low", a.get "high"]) (.text "BETWEEN")
  | "start_group" => (combinator? s a).map .groupStart
  | "end_group" => (combinator? s a).map .groupEnd
  | _ => none

end QueryCall

/-- A node that was added to a list of conditions, through a builder that had the list then. -/
structure Addition where
  builder : Handle
  list : Handle
  node : Value

/-- The nodes of several additions that were added to a list. -/
def nodesOn (l : Handle) (additions : List Addition) : List Value :=
  (additions.filter (·.list = l)).map (·.node)

namespace Store

variable (s : Store) (h : Handle)

/-- The list that a builder has its conditions in, if it has them in one that can be added to. -/
def listOf? : Option Handle :=
  match (s.query h).conditions with
  | .sharedList l => some l
  | _ => none

/-- The addition of a node to the conditions of a builder, if there is one. -/
def addition? (node? : Option Value) : Option Addition := do
  let l ← s.listOf? h
  let node ← node?
  some ⟨h, l, node⟩

theorem addition?_none : s.addition? h none = none := by
  rw [addition?]
  cases s.listOf? h <;> rfl

variable {s h} in
/-- An addition is to the list that the builder has. -/
theorem eq_of_addition? {node? : Option Value} {x : Addition} (hx : s.addition? h node? = some x) :
    x.builder = h ∧ (s.query h).conditions = .sharedList x.list ∧ node? = some x.node := by
  rw [addition?, listOf?] at hx
  cases hc : (s.query h).conditions with
  | sharedList l =>
    rw [hc] at hx
    cases node? with
    | none => cases hx
    | some node =>
      cases hx
      exact ⟨rfl, rfl, rfl⟩
  | _ =>
    rw [hc] at hx
    cases hx

/-- A store with an addition, if there is one. -/
def extend : Option Addition → Store
  | some x => { s with lists := s.lists.setIfInBounds x.list (s.list x.list ++ [x.node]) }
  | none => s

end Store

/-! ### Work that adds a node -/

namespace Building

open Store

variable {s : Store} (h : Handle)

/-- Work that adds a node to the conditions of a builder, if there is one, and does nothing else. -/
def Adds (s : Store) (h : Handle) (node? : Option Value) (b : Building Unit) : Prop :=
  (b s).2 = s.extend (s.addition? h node?)

theorem conditionList_apply : conditionList h s =
    match s.listOf? h with
    | some l => (.ok l, s)
    | none => (.error .missingMember, s) := by
  rw [conditionList, Fallible.bind_apply_of_ok (Fallible.view_apply ..), listOf?]
  simp only [id]
  cases (s.query h).conditions <;> rfl

theorem conditionList_bind_adds {node? : Option Value} {k : Handle → Building Unit}
    (hk : ∀ l, (k l s).2 = s.extend (node?.map (Addition.mk h l))) :
    Adds s h node? (conditionList h >>= k) := by
  have hlist := conditionList_apply (s := s) h
  cases hl : s.listOf? h with
  | none =>
    rw [hl] at hlist
    rw [Adds, Fallible.bind_apply_of_error hlist, addition?, hl]
    rfl
  | some l =>
    rw [hl] at hlist
    rw [Adds, Fallible.bind_apply_of_ok hlist, hk l, addition?, hl]
    cases node? <;> rfl

/-- A node with a combinator is added to a list, if the combinator can be read. -/
theorem combinatorOf_bind_append (l : Handle) (a : Arguments) (node : Value → Value) :
    ((combinatorOf (a.getOr "combo" (.text "AND")) >>= fun text => append l (node text)) s).2 =
      s.extend (((QueryCall.combinator? s a).map node).map (Addition.mk h l)) := by
  rw [combinatorOf, bind_assoc, Fallible.bind_apply_of_ok (Fallible.view_apply ..),
    QueryCall.combinator?]
  simp only [id]
  cases normalizeCombinator (s.settle (a.getOr "combo" (.text "AND"))) <;> rfl

theorem addMark_adds (mark : Value → Value) (a : Arguments) :
    Adds s h ((QueryCall.combinator? s a).map mark)
      (addMark mark h (a.getOr "combo" (.text "AND"))) :=
  conditionList_bind_adds h fun l => combinatorOf_bind_append h l a mark

/-- The operator of a comparison is `=` unless another is given. -/
theorem compare_adds (a : Arguments) (side operator : Value) :
    Adds s h (QueryCall.comparison? s a side (if s.given operator then operator else .text "="))
      (compare h (a.get "table") (a.get "column") side operator
        (a.getOr "combo" (.text "AND"))) := by
  refine conditionList_bind_adds h fun l => ?_
  rw [Fallible.bind_apply_of_ok (Fallible.view_apply ..)]
  exact combinatorOf_bind_append h l a (.comparison _ _ _)

theorem compareBy_adds (a : Arguments) (side : Value) {operator : String} (hne : operator ≠ "") :
    Adds s h (QueryCall.comparison? s a side (.text operator))
      (compareBy operator h (a.get "table") (a.get "column") side
        (a.getOr "combo" (.text "AND"))) := by
  have hadds := compare_adds h (s := s) a side (.text operator)
  have hgiven : s.given (.text operator) = true := by
    simp [given, opened, Value.truthy, hne]
  rwa [hgiven, if_pos rfl] at hadds

theorem member_adds (a : Arguments) {operator : String} (hne : operator ≠ "") :
    Adds s h (QueryCall.membership? s a operator)
      (member operator h (a.get "table") (a.get "column") (a.get "values")
        (a.getOr "combo" (.text "AND"))) := by
  rw [Adds, member, Fallible.bind_apply_of_ok (Fallible.view_apply ..), QueryCall.membership?]
  simp only [id]
  cases Condition.membershipSide (s.opened (a.get "values")) with
  | ok side => exact compareBy_adds h a side hne
  | error f =>
    -- nothing is added where the values cannot be listed
    exact (congrArg s.extend (s.addition?_none h)).symm

end Building

/-! ### Work that leaves conditions alone -/

/-- Two stores with the same lists, whose query builders have the same conditions. -/
structure Store.SameConditions (s t : Store) : Prop where
  size_eq : t.queries.size = s.queries.size
  lists_eq : t.lists = s.lists
  conditions_eq : ∀ j, (t.query j).conditions = (s.query j).conditions

namespace Store.SameConditions

theorem refl (s : Store) : s.SameConditions s :=
  ⟨rfl, rfl, fun _ => rfl⟩

theorem trans {s t u : Store} (h : s.SameConditions t) (h' : t.SameConditions u) :
    s.SameConditions u where
  size_eq := h'.size_eq.trans h.size_eq
  lists_eq := h'.lists_eq.trans h.lists_eq
  conditions_eq j := (h'.conditions_eq j).trans (h.conditions_eq j)

end Store.SameConditions

namespace Fallible

variable {τ : Type} {look : τ → Store}

/-- Work that leaves the conditions of a store alone, which is a part of the state. -/
def KeepsConditions (look : τ → Store) (work : Fallible τ α) : Prop :=
  ∀ x, (look x).SameConditions (look (work x).2)

namespace KeepsConditions

theorem of_same {work : Fallible τ α} (h : ∀ x, look (work x).2 = look x) :
    KeepsConditions look work := by
  intro x
  rw [h x]
  exact .refl _

theorem bind {work : Fallible τ α} {k : α → Fallible τ β} (h : KeepsConditions look work)
    (hk : ∀ a, KeepsConditions look (k a)) : KeepsConditions look (work >>= k) := by
  intro x
  have hfirst := h x
  refine bind_snd (P := fun y => (look x).SameConditions (look y)) (fun a y hy => ?_)
    fun f y hy => ?_
  · rw [hy] at hfirst
    exact hfirst.trans (hk a y)
  · rwa [hy] at hfirst

theorem view_bind {f : τ → α} {k : α → Fallible τ β} (hk : ∀ a, KeepsConditions look (k a)) :
    KeepsConditions look (view f >>= k) :=
  (of_same fun _ => rfl).bind hk

theorem ofExcept_bind {m : Except Fault α} {k : α → Fallible τ β}
    (hk : ∀ a, KeepsConditions look (k a)) : KeepsConditions look (ofExcept m >>= k) :=
  (of_same fun _ => rfl).bind hk

end KeepsConditions

end Fallible

namespace Building

open Fallible

variable (h : Handle)

/-- Work on a store that leaves its conditions alone. -/
abbrev Keeps (b : Building α) : Prop :=
  KeepsConditions id b

theorem editQuery_keeps {f : QueryBuilder → Except Fault QueryBuilder}
    (hf : ∀ q, Gives (f q) fun r => r.conditions = q.conditions) : Keeps (editQuery h f) := by
  intro s
  rw [editQuery]
  cases hq : f (s.query h) with
  | error e => exact .refl s
  | ok r =>
    refine ⟨by simp, rfl, fun j => ?_⟩
    change ((s.queries.setIfInBounds h r).getD j {}).conditions = _
    by_cases hj : h = j
    · subst hj
      rcases Nat.lt_or_ge h s.queries.size with hlt | hge
      · rw [getD_setIfInBounds_self hlt]
        exact hf _ r hq
      · rw [Array.setIfInBounds_eq_of_size_le hge]
        rfl
    · rw [getD_setIfInBounds_of_ne hj]
      rfl

theorem addTable_keeps (schema table aliasName joins join : Value) :
    Keeps (addTable h schema table aliasName joins join) :=
  .view_bind fun _ => .ofExcept_bind fun _ => .ofExcept_bind fun _ =>
    editQuery_keeps h fun _ => .ok rfl

theorem addField_keeps (f : Field) : Keeps (addField h f) :=
  editQuery_keeps h fun _ => .ok rfl

theorem addConcat_keeps (columns aliasName separator : Value) :
    Keeps (addConcat h columns aliasName separator) :=
  .view_bind fun s => editQuery_keeps h fun _ =>
    .bind (.trivial (s.openedTwice columns).items) fun _ _ => .bind (.trivial _) fun _ _ => .ok rfl

theorem namedColumn_bind_keeps (table column : Value) {k : Value → Building α}
    (hk : ∀ v, Keeps (k v)) : Keeps (namedColumn table column >>= k) :=
  .bind (.of_same fun _ => rfl) hk

theorem count_keeps (table column aliasName distinct : Value) :
    Keeps (count h table column aliasName distinct) :=
  namedColumn_bind_keeps table column fun _ => addField_keeps h _

theorem addFunction_keeps (name table column aliasName distinct : Value)
    (argument : Option Value) :
    Keeps (addFunction h name table column aliasName distinct argument) := by
  rw [addFunction]
  split
  · exact .bind (.of_same fun _ => rfl) fun _ => addField_keeps h _
  · exact namedColumn_bind_keeps table column fun _ => addField_keeps h _

theorem addOrder_keeps (table column direction : Value) :
    Keeps (addOrder h table column direction) :=
  .view_bind fun _ => editQuery_keeps h fun _ => .bind (.trivial _) fun _ _ => .ok rfl

theorem setPage_keeps (page : Value) : Keeps (editQuery h (·.setPage page)) :=
  editQuery_keeps h fun _ => .bind (.trivial _) fun _ _ => .ok rfl

theorem setLimit_keeps (limit : Value) : Keeps (editQuery h (·.setLimit limit)) :=
  editQuery_keeps h fun _ => .bind (.trivial _) fun _ _ => .ok rfl

theorem setPaging_keeps (page limit : Value) : Keeps (setPaging h page limit) :=
  (setPage_keeps h page).bind fun _ => setLimit_keeps h limit

end Building

namespace Task

open Fallible

/-- A task that leaves the conditions of its store alone. -/
abbrev Keeps (t : Task σ α) : Prop :=
  KeepsConditions Workspace.store t

variable (drivers : Adapter → Driver σ) (h : Handle)

theorem withSession_keeps (k : Handle) (work : Driver σ → Work σ α) :
    Keeps (withSession drivers k work) :=
  fun _ => ⟨rfl, rfl, fun _ => rfl⟩

theorem fetch_keeps : Keeps (fetch drivers h) := by
  refine .view_bind fun s => ?_
  split
  · exact .of_same fun _ => rfl
  · refine .bind (.of_same fun w => by rw [accepted_same]) fun r => ?_
    split
    · exact .of_same fun _ => rfl
    · exact .bind (.of_same fun w => by rw [sessionHandle_same]) fun k =>
        withSession_keeps drivers k _

theorem executeQuery_keeps (callback : Option (Callback σ)) :
    Keeps (executeQuery drivers h callback) := by
  have hnotified : ∀ outcome : Except Fault Yield,
      Keeps (notify callback ⟨outcome.isOk, outcome⟩ >>= fun _ => pure outcome) :=
    fun outcome => .bind (.of_same (store_notify callback _)) fun _ => .of_same fun _ => rfl
  refine (fetch_keeps drivers h).bind fun fetched => ?_
  cases fetched with
  | ok rows =>
    have hkept : Building.Keeps
        (Building.editQuery h fun q => .ok { q with records := some rows }) :=
      Building.editQuery_keeps h fun _ => .ok rfl
    exact .bind (fun w => hkept w.store) fun _ => hnotified _
  | error f => exact .bind (.of_same fun _ => rfl) fun _ => hnotified _

end Task

/-! ### Lists that are given -/

namespace Building

variable {s : Store}

/-- Items that are given by themselves get a list of their own. -/
theorem setConditions_items (h : Handle) (items : List Value) :
    (setConditions h (.list items) s).2 = { s with
      lists := s.lists.push items
      queries := s.queries.setIfInBounds h
        { s.query h with conditions := .sharedList s.lists.size } } :=
  rfl

theorem setConditions_other (h : Handle) {c : Value} (hc : ∀ items, c ≠ .list items) :
    (setConditions h c s).2 =
      { s with queries := s.queries.setIfInBounds h { s.query h with conditions := c } } := by
  cases c with
  | list items => exact absurd rfl (hc items)
  | _ => rfl

/-- A copy has what the builder has, in a list of its own. -/
theorem copyConditions_apply {h k : Handle} {labels : Labels} {nodes : List Value}
    (hnodes : (s.conditions h).items = .ok nodes) :
    (copyConditions h (.query k labels) s).2 = { s with
      lists := s.lists.push nodes
      queries := s.queries.setIfInBounds k
        { s.query k with conditions := .sharedList s.lists.size } } := by
  change ((Fallible.ofExcept (s.conditions h).items >>= fun nodes =>
    setConditions k (.list nodes)) s).2 = _
  rw [hnodes]
  rfl

end Building

namespace QueryCall

variable {h : Handle} {name : String} {a : Arguments}

/-- A call that gives a builder something to have its conditions in. -/
def Gives (h : Handle) (name : String) (a : Arguments) (j : Handle) : Prop :=
  name = "set_params" ∧ j = h ∨
    name ∈ ["copy_params", "copy_conditions"] ∧ (a.get "target").Refers j

/-- A call that gives a builder a list that is there. -/
def GivesList (h : Handle) (name : String) (a : Arguments) (j l : Handle) : Prop :=
  name = "set_params" ∧ j = h ∧ a.get "conditions" = .sharedList l

/-- What a call on a builder does to the conditions of a store. -/
structure Affects (s : Store) (h : Handle) (name : String) (a : Arguments) (t : Store) :
    Prop where
  size_eq : t.queries.size = s.queries.size
  size_le : s.lists.size ≤ t.lists.size
  /-- The node is added to the list that the builder has, and nothing else to any list. -/
  list_eq : ∀ l, l < s.lists.size →
    t.list l = s.list l ++ nodesOn l (s.addition? h (node? s name a)).toList
  conditions_eq : ∀ j, ¬Gives h name a j → (t.query j).conditions = (s.query j).conditions
  given : ∀ j l, GivesList h name a j l → j < s.queries.size →
    (t.query j).conditions = .sharedList l
  /-- A builder has a list that was there only if it had it before, or is given it. -/
  held : ∀ j l, l < s.lists.size → (t.query j).conditions = .sharedList l →
    (s.query j).conditions = .sharedList l ∨ GivesList h name a j l

namespace Affects

variable {s t : Store}

theorem of_keeps (h' : s.SameConditions t) (hnode : node? s name a = none)
    (hname : name ≠ "set_params") : Affects s h name a t := by
  have hlist : ∀ l, t.list l = s.list l := fun l => by rw [Store.list, Store.list, h'.lists_eq]
  have hnone : s.addition? h (node? s name a) = none := by rw [hnode, Store.addition?_none]
  refine ⟨h'.size_eq, by rw [h'.lists_eq], fun l _ => ?_, fun j _ => h'.conditions_eq j, ?_, ?_⟩
  · simp [hnone, hlist, nodesOn]
  · rintro j l ⟨hset, -⟩
    exact absurd hset hname
  · intro j l _ hj
    rw [h'.conditions_eq] at hj
    exact .inl hj

theorem of_adds (ht : t = s.extend (s.addition? h (node? s name a))) (hname : name ≠ "set_params") :
    Affects s h name a t := by
  have hsame : t.queries = s.queries ∧ t.lists.size = s.lists.size := by
    rw [ht]
    cases s.addition? h (node? s name a) <;> simp [Store.extend]
  have hquery : ∀ j, t.query j = s.query j := fun j => by rw [Store.query, Store.query, hsame.1]
  refine ⟨by rw [hsame.1], hsame.2.ge, fun l hl => ?_, fun j _ => by rw [hquery], ?_, ?_⟩
  · rw [ht]
    cases s.addition? h (node? s name a) with
    | none => simp [Store.extend, nodesOn]
    | some x =>
      change (s.lists.setIfInBounds x.list _).getD l [] = _
      by_cases hx : x.list = l
      · subst hx
        rw [getD_setIfInBounds_self hl]
        simp [nodesOn]
      · rw [getD_setIfInBounds_of_ne hx]
        simp [hx, nodesOn, Store.list]
  · rintro j l ⟨hset, -⟩
    exact absurd hset hname
  · intro j l _ hj
    rw [hquery] at hj
    exact .inl hj

/-- What a builder is given is a list that was there only if the call says so. -/
theorem of_given {k : Handle} {c : Value}
    (hqueries : t.queries = s.queries.setIfInBounds k { s.query k with conditions := c })
    (hsize : s.lists.size ≤ t.lists.size) (hlists : ∀ l, l < s.lists.size → t.list l = s.list l)
    (hgives : Gives h name a k)
    (hc : ∀ l, l < s.lists.size → c = .sharedList l → GivesList h name a k l)
    (hgiven : ∀ j l, GivesList h name a j l → j = k ∧ c = .sharedList l)
    (hnode : node? s name a = none) : Affects s h name a t := by
  have hself : k < s.queries.size → (t.query k).conditions = c := by
    intro hk
    rw [Store.query, hqueries, getD_setIfInBounds_self hk]
  have hother : ∀ j, j ≠ k → (t.query j).conditions = (s.query j).conditions := by
    intro j hj
    rw [Store.query, hqueries, getD_setIfInBounds_of_ne (Ne.symm hj)]
    rfl
  have hnone : s.addition? h (node? s name a) = none := by rw [hnode, Store.addition?_none]
  refine ⟨by rw [hqueries, Array.size_setIfInBounds], hsize, fun l hl => ?_, fun j hj => ?_,
    fun j l hl hj => ?_, fun j l hl hj => ?_⟩
  · simp [hnone, nodesOn, hlists l hl]
  · refine hother j ?_
    rintro rfl
    exact hj hgives
  · obtain ⟨rfl, hcl⟩ := hgiven j l hl
    rw [hself hj, hcl]
  · by_cases hjk : j = k
    · subst hjk
      rcases Nat.lt_or_ge j s.queries.size with hlt | hge
      · rw [hself hlt] at hj
        exact .inr (hc l hl hj)
      · rw [Store.query, hqueries, Array.setIfInBounds_eq_of_size_le hge] at hj
        exact .inl hj
    · rw [hother j hjk] at hj
      exact .inl hj

end Affects

theorem shape_store (b : Building Unit) (w : Workspace σ) :
    (shape h b w).2.store = (b w.store).2 := by
  refine Fallible.bind_snd (P := fun w' : Workspace σ => w'.store = (b w.store).2)
    (fun _ w' hb => ?_) fun f w' hb => ?_
  · have hanswered := Task.answered_eq (fun s => s.describeQuery h)
      (fun text => Reply.value (.text text)) w'
    rw [hanswered]
    exact (congrArg (fun r => r.2.store) hb).symm
  · exact (congrArg (fun r => r.2.store) hb).symm

/-! ### Calls by name -/

theorem affects_of_setConditions {s : Store} :
    Affects s h "set_params" a (Building.setConditions h (a.get "conditions") s).2 := by
  by_cases hc : ∃ items, a.get "conditions" = .list items
  · obtain ⟨items, hitems⟩ := hc
    rw [hitems, Building.setConditions_items]
    refine .of_given rfl (by simp) (fun l hl => getD_push_of_lt hl) (.inl ⟨rfl, rfl⟩) ?_ ?_ rfl
    · rintro l hl ⟨⟩
      exact absurd hl (Nat.lt_irrefl _)
    · rintro j l ⟨-, -, hl⟩
      cases hitems.symm.trans hl
  · rw [Building.setConditions_other h (not_exists.mp hc)]
    refine .of_given rfl le_rfl (fun _ _ => rfl) (.inl ⟨rfl, rfl⟩) ?_ ?_ rfl
    · exact fun l _ hl => ⟨rfl, rfl, hl⟩
    · rintro j l ⟨-, rfl, hl⟩
      exact ⟨rfl, hl⟩

theorem affects_of_copyConditions {s : Store} (hname : name ∈ ["copy_params", "copy_conditions"]) :
    Affects s h name a (Building.copyConditions h (a.get "target") s).2 := by
  have hset : name ≠ "set_params" := by
    rintro rfl
    simp at hname
  have hnode : node? s name a = none := by
    rcases List.mem_pair.mp hname with rfl | rfl <;> rfl
  by_cases htarget : ∃ k labels, a.get "target" = .query k labels
  · obtain ⟨k, labels, hk⟩ := htarget
    cases hnodes : (s.conditions h).items with
    | error f =>
      have hfailed : (Building.copyConditions h (.query k labels) s).2 = s := by
        change ((Fallible.ofExcept (s.conditions h).items >>= fun nodes =>
          Building.setConditions k (.list nodes)) s).2 = s
        rw [hnodes]
        rfl
      rw [hk, hfailed]
      exact .of_keeps (.refl s) hnode hset
    | ok nodes =>
      rw [hk, Building.copyConditions_apply hnodes]
      refine .of_given rfl (by simp) (fun l hl => getD_push_of_lt hl)
        (.inr ⟨hname, labels, hk⟩) ?_ ?_ hnode
      · rintro l hl ⟨⟩
        exact absurd hl (Nat.lt_irrefl _)
      · rintro j l ⟨hl, -⟩
        exact absurd hl hset
  · have hfailed : (Building.copyConditions h (a.get "target") s).2 = s := by
      cases hv : a.get "target" with
      | query k labels => exact absurd ⟨k, labels, hv⟩ htarget
      | _ => rfl
    rw [hfailed]
    exact .of_keeps (.refl s) hnode hset

/-- **Every call on a query builder** adds at most one node to conditions, to the list that the
builder has, and gives no builder another list, unless it says so. -/
theorem affects (w : Workspace σ) {b : Backend σ} {callback : Option (Callback σ)}
    {signature : Signature} {t : Task σ Reply}
    (hcall : ofName? b h a callback name = some (signature, t)) :
    Affects w.store h name a (t w).2.store := by
  have hkeeps : ∀ {build : Building Unit}, Building.Keeps build → node? w.store name a = none →
      name ≠ "set_params" → Affects w.store h name a (shape h build w).2.store := by
    intro build hb hnode hname
    rw [shape_store]
    exact .of_keeps (hb w.store) hnode hname
  have hadds : ∀ {build : Building Unit},
      Building.Adds w.store h (node? w.store name a) build → name ≠ "set_params" →
      Affects w.store h name a (shape h build w).2.store := by
    intro build hb hname
    rw [shape_store]
    exact .of_adds hb hname
  have hreads : (t w).2.store = w.store → node? w.store name a = none → name ≠ "set_params" →
      Affects w.store h name a (t w).2.store := by
    intro hsame hnode hname
    rw [hsame]
    exact .of_keeps (.refl _) hnode hname
  unfold ofName? at hcall
  split at hcall
  all_goals
    cases hcall
  -- tables and fields
  · exact hkeeps (Building.addTable_keeps h _ _ _ _ _) rfl (by decide)
  · exact hreads rfl rfl (by decide)
  · exact hkeeps (Building.addField_keeps h _) rfl (by decide)
  · exact hkeeps (Building.addField_keeps h _) rfl (by decide)
  · exact hkeeps (Building.addConcat_keeps h _ _ _) rfl (by decide)
  · exact hkeeps (Building.count_keeps h _ _ _ _) rfl (by decide)
  · exact hkeeps (Building.addFunction_keeps h _ _ _ _ _ _) rfl (by decide)
  · exact hkeeps (Building.addFunction_keeps h _ _ _ _ _ _) rfl (by decide)
  · exact hkeeps (Building.addField_keeps h _) rfl (by decide)
  -- order and pages
  · exact hkeeps (Building.addOrder_keeps h _ _ _) rfl (by decide)
  · exact hkeeps (Building.setPage_keeps h _) rfl (by decide)
  · exact hkeeps (Building.setLimit_keeps h _) rfl (by decide)
  · exact hkeeps (Building.setPaging_keeps h _ _) rfl (by decide)
  -- conditions
  · exact hadds (Building.compare_adds h a _ _) (by decide)
  · exact hadds (Building.compareBy_adds h a _ (by decide)) (by decide)
  · exact hadds (Building.compareBy_adds h a _ (by decide)) (by decide)
  · exact hadds (Building.compareBy_adds h a _ (by decide)) (by decide)
  · exact hadds (Building.compareBy_adds h a _ (by decide)) (by decide)
  · exact hadds (Building.compareBy_adds h a _ (by decide)) (by decide)
  · exact hadds (Building.compareBy_adds h a _ (by decide)) (by decide)
  · exact hadds (Building.compareBy_adds h a _ (by decide)) (by decide)
  · exact hadds (Building.compareBy_adds h a _ (by decide)) (by decide)
  · exact hadds (Building.compareBy_adds h a _ (by decide)) (by decide)
  · exact hadds (Building.compareBy_adds h a .null (by decide)) (by decide)
  · exact hadds (Building.compareBy_adds h a .null (by decide)) (by decide)
  · exact hadds (Building.member_adds h a (by decide)) (by decide)
  · exact hadds (Building.member_adds h a (by decide)) (by decide)
  · exact hadds (Building.compareBy_adds h a _ (by decide)) (by decide)
  · exact hadds (Building.addMark_adds h .groupStart a) (by decide)
  · exact hadds (Building.addMark_adds h .groupEnd a) (by decide)
  · rw [shape_store]
    exact affects_of_setConditions
  · rw [shape_store]
    exact affects_of_copyConditions (by simp)
  · rw [shape_store]
    exact affects_of_copyConditions (by simp)
  -- what is read off, and runs
  · exact hreads rfl rfl (by decide)
  · exact hreads (by rw [compiled_eq]) rfl (by decide)
  · exact hreads (by rw [compiled_eq]) rfl (by decide)
  · exact hreads (by rw [compiled_eq]) rfl (by decide)
  · have hran := (Task.executeQuery_keeps (Adapter.driver · b) h callback).bind
      (k := fun r => (pure (Reply.outcome r) : Task σ Reply)) fun _ => .of_same fun _ => rfl
    exact .of_keeps (hran w) rfl (by decide)
  · exact hreads (congrArg Workspace.store (results_same _ _ w)) rfl (by decide)
  · exact hreads rfl rfl (by decide)

end QueryCall

end FluentSql
