import FluentSql.Proofs.Sharing.Additions
import FluentSql.Proofs.Sharing.Snapshot

/-!
# Copied and shared conditions

The conditions of a query builder can be copied to another one, and one list of conditions can be
given to several builders. A course of calls is an `Undergoes`: it keeps a log of the nodes that
were added, with the builder that was called and the list that it had at that time. From the log it
can be read off what every list holds in the end (`Undergoes.list_eq`), so
`copies_part_and_shares_stay` is about which builders have which lists.
-/

namespace FluentSql.Store

open QueryCall

variable {σ : Type}

/-! ### Lists of conditions -/

/-- A query builder has its conditions in a list. -/
def HasList (s : Store) (j l : Handle) : Prop :=
  (s.query j).conditions = .sharedList l

/-- What else may happen to a store between calls: builders may come, with lists of their own, and
everything may change but the conditions that are there. -/
structure LeavesConditions (s t : Store) : Prop where
  queries_le : s.queries.size ≤ t.queries.size
  lists_le : s.lists.size ≤ t.lists.size
  list_eq : ∀ l, l < s.lists.size → t.list l = s.list l
  conditions_eq : ∀ j, j < s.queries.size → (t.query j).conditions = (s.query j).conditions
  held : ∀ j l, l < s.lists.size → t.HasList j l → s.HasList j l

variable {s t : Store} {j l : Handle}

namespace HasList

/-- The conditions of a builder are what its list holds at present. -/
theorem conditions_eq (hj : s.HasList j l) : s.conditions j = .list (s.list l) := by
  rw [conditions, hj]
  rfl

theorem lt_size (hj : s.HasList j l) : j < s.queries.size := by
  by_contra hge
  have hempty : s.query j = {} := by simp [query, Array.getD, hge]
  rw [HasList, hempty] at hj
  cases hj

/-- Where no reference dangles, a builder has a list that is there. -/
theorem list_lt_size (hj : s.HasList j l) (hs : s.IsSound) : l < s.lists.size := by
  have hwithin := (query_within_holds hs j).conditions
  rw [hj] at hwithin
  exact hwithin.object (o := .list l) rfl

end HasList

/-- A new builder has a list of its own. -/
theorem leavesConditions_newQuery (s : Store) (session dialect : Value) :
    s.LeavesConditions (Building.newQuery session dialect s).2 := by
  rw [Building.newQuery]
  split
  · exact ⟨le_rfl, le_rfl, fun _ _ => rfl, fun _ _ => rfl, fun _ _ _ h => h⟩
  · refine ⟨by simp, by simp, fun l hl => getD_push_of_lt hl, fun j hj => ?_, fun j l hl hj => ?_⟩
    · exact congrArg QueryBuilder.conditions (getD_push_of_lt hj)
    · rcases Nat.lt_or_eq_of_le (Nat.le_of_lt_succ (Array.size_push .. ▸ hj.lt_size)) with hlt | rfl
      · rwa [HasList, query, getD_push_of_lt hlt] at hj
      · rw [HasList, query, getD_push_size] at hj
        cases hj
        exact absurd hl (Nat.lt_irrefl _)

/-! ### Courses of calls -/

/-- A workspace undergoes calls on query builders by name, and anything between them that leaves the
conditions alone. The nodes that the calls add are kept in a log. -/
inductive Undergoes : Workspace σ → List (Handle × String × Arguments) → List Addition →
    Workspace σ → Prop where
  | done (w : Workspace σ) : Undergoes w [] [] w
  | call (w : Workspace σ) {w' : Workspace σ} {calls : List (Handle × String × Arguments)}
      {log : List Addition} {b : Backend σ} {callback : Option (Callback σ)} {h : Handle}
      {name : String} {a : Arguments} {signature : Signature} {t : Task σ Reply}
      (hcall : ofName? b h a callback name = some (signature, t))
      (hrest : Undergoes (t w).2 calls log w') :
      Undergoes w ((h, name, a) :: calls)
        ((w.store.addition? h (node? w.store name a)).toList ++ log) w'
  | meanwhile {w w₁ w' : Workspace σ} {calls : List (Handle × String × Arguments)}
      {log : List Addition} (hleaves : w.store.LeavesConditions w₁.store)
      (hrest : Undergoes w₁ calls log w') : Undergoes w calls log w'

/-- Some of the calls gives a builder a list. -/
def Given (calls : List (Handle × String × Arguments)) (j l : Handle) : Prop :=
  ∃ c ∈ calls, GivesList c.1 c.2.1 c.2.2 j l

/-- No call gives a builder anything but a certain list. -/
def KeepsList (calls : List (Handle × String × Arguments)) (j l : Handle) : Prop :=
  ∀ c ∈ calls, QueryCall.Gives c.1 c.2.1 c.2.2 j → GivesList c.1 c.2.1 c.2.2 j l

/-- A builder is given a list by one of the calls, and no other list by those behind it. -/
def Adopts (calls : List (Handle × String × Arguments)) (j l : Handle) : Prop :=
  ∃ c rest, c :: rest <:+ calls ∧ GivesList c.1 c.2.1 c.2.2 j l ∧ KeepsList rest j l

theorem nodesOn_append (l : Handle) (log more : List Addition) :
    nodesOn l (log ++ more) = nodesOn l log ++ nodesOn l more := by
  simp only [nodesOn, List.filter_append, List.map_append]

variable {w w₁ w' : Workspace σ} {calls rest : List (Handle × String × Arguments)}
  {c : Handle × String × Arguments} {log : List Addition}

theorem KeepsList.of_cons (h : KeepsList (c :: rest) j l) : KeepsList rest j l :=
  fun c hc => h c (List.mem_cons_of_mem _ hc)

/-- A builder that has a list still has it after a call that gives it no other. -/
theorem HasList.affected {h : Handle} {name : String} {a : Arguments}
    (haffects : Affects s h name a t) (hj : s.HasList j l)
    (hkept : QueryCall.Gives h name a j → GivesList h name a j l) : t.HasList j l := by
  by_cases hgives : QueryCall.Gives h name a j
  · exact haffects.given j l (hkept hgives) hj.lt_size
  · exact (haffects.conditions_eq j hgives).trans hj

theorem HasList.left (hleaves : s.LeavesConditions t) (hj : s.HasList j l) : t.HasList j l :=
  (hleaves.conditions_eq j hj.lt_size).trans hj

namespace Undergoes

theorem lists_le (h : Undergoes w calls log w') : w.store.lists.size ≤ w'.store.lists.size := by
  induction h with
  | done => exact le_rfl
  | call w hcall _ ih => exact (affects w hcall).size_le.trans ih
  | meanwhile hleaves _ ih => exact hleaves.lists_le.trans ih

/-- **A list holds what it held, and behind it what was added to it**, in the order of the calls. -/
theorem list_eq (h : Undergoes w calls log w') (hl : l < w.store.lists.size) :
    w'.store.list l = w.store.list l ++ nodesOn l log := by
  induction h with
  | done => exact (List.append_nil _).symm
  | call w hcall _ ih =>
    have haffects := affects w hcall
    rw [ih (Nat.lt_of_lt_of_le hl haffects.size_le), haffects.list_eq l hl, nodesOn_append,
      List.append_assoc]
  | meanwhile hleaves _ ih =>
    rw [ih (Nat.lt_of_lt_of_le hl hleaves.lists_le), hleaves.list_eq l hl]

/-- A builder has its list until it is given another one. -/
theorem hasList (h : Undergoes w calls log w') (hj : w.store.HasList j l)
    (hkept : KeepsList calls j l) : w'.store.HasList j l := by
  induction h with
  | done => exact hj
  | call w hcall _ ih =>
    exact ih (hj.affected (affects w hcall) (hkept _ List.mem_cons_self)) hkept.of_cons
  | meanwhile hleaves _ ih => exact ih (hj.left hleaves) hkept

/-- A builder that keeps its list has what was added to the list besides. -/
theorem conditions_eq (h : Undergoes w calls log w') (hl : l < w.store.lists.size)
    (hj : w.store.HasList j l) (hkept : KeepsList calls j l) :
    w'.store.conditions j = .list (w.store.list l ++ nodesOn l log) := by
  rw [(h.hasList hj hkept).conditions_eq, h.list_eq hl]

/-- A builder has the list that it is given last. -/
theorem hasList_of_adopts (h : Undergoes w calls log w') (hj : j < w.store.queries.size)
    (hadopts : Adopts calls j l) : w'.store.HasList j l := by
  induction h with
  | done =>
    obtain ⟨c, rest, hsuffix, -⟩ := hadopts
    simp at hsuffix
  | call w hcall hrest ih =>
    have haffects := affects w hcall
    obtain ⟨c, rest, hsuffix, hgives, hkept⟩ := hadopts
    rcases List.suffix_cons_iff.mp hsuffix with heq | hsuffix
    · obtain ⟨rfl, rfl⟩ := List.cons.inj heq
      exact hrest.hasList (haffects.given j l hgives hj) hkept
    · exact ih (haffects.size_eq ▸ hj) ⟨c, rest, hsuffix, hgives, hkept⟩
  | meanwhile hleaves _ ih => exact ih (Nat.lt_of_lt_of_le hj hleaves.queries_le) hadopts

/-- What is added through a builder goes to its list, until it is given another one. -/
theorem list_of_mem_log (h : Undergoes w calls log w') (hj : w.store.HasList j l)
    (hkept : KeepsList calls j l) : ∀ x ∈ log, x.builder = j → x.list = l := by
  induction h with
  | done => exact fun _ hx => absurd hx List.not_mem_nil
  | call w hcall _ ih =>
    intro x hx hbuilder
    rcases List.mem_append.mp hx with hx | hx
    · obtain ⟨hx, hlist, -⟩ := eq_of_addition? (Option.mem_toList.mp hx)
      rw [← hx, hbuilder, hj] at hlist
      cases hlist
      rfl
    · have hj' := hj.affected (affects w hcall) (hkept _ List.mem_cons_self)
      exact ih hj' hkept.of_cons x hx hbuilder
  | meanwhile hleaves _ ih => exact ih (hj.left hleaves) hkept

/-- What is added to a list comes through a builder that had it, or was given it. -/
theorem holder_of_mem_log (h : Undergoes w calls log w') (hl : l < w.store.lists.size) :
    ∀ x ∈ log, x.list = l → w.store.HasList x.builder l ∨ Given calls x.builder l := by
  induction h with
  | done => exact fun _ hx => absurd hx List.not_mem_nil
  | call w hcall _ ih =>
    have haffects := affects w hcall
    intro x hx hlist
    rcases List.mem_append.mp hx with hx | hx
    · obtain ⟨hx, hheld, -⟩ := eq_of_addition? (Option.mem_toList.mp hx)
      rw [← hx, hlist] at hheld
      exact .inl hheld
    · rcases ih (Nat.lt_of_lt_of_le hl haffects.size_le) x hx hlist with hheld | ⟨c, hc, hgives⟩
      · exact (haffects.held _ l hl hheld).imp_right fun hgives => ⟨_, List.mem_cons_self, hgives⟩
      · exact .inr ⟨c, List.mem_cons_of_mem _ hc, hgives⟩
  | meanwhile hleaves _ ih =>
    intro x hx hlist
    exact (ih (Nat.lt_of_lt_of_le hl hleaves.lists_le) x hx hlist).imp_left (hleaves.held _ l hl)

end Undergoes

/-- A builder has some nodes in its list, and behind them what was added to the list. Whatever was
added through the builder is in there. -/
structure Extended (t : Store) (j l : Handle) (nodes : List Value) (log : List Addition) :
    Prop where
  conditions : t.conditions j = .list (nodes ++ nodesOn l log)
  added : ∀ x ∈ log, x.builder = j → x.list = l

theorem Undergoes.extended (h : Undergoes w calls log w') (hl : l < w.store.lists.size)
    (hj : w.store.HasList j l) (hkept : KeepsList calls j l) :
    w'.store.Extended j l (w.store.list l) log :=
  ⟨h.conditions_eq hl hj hkept, h.list_of_mem_log hj hkept⟩

/-- The nodes that a sequence of calls adds. -/
def logAll (b : Backend σ) : List (Handle × String × Arguments) → Workspace σ → List Addition
  | [], _ => []
  | (h, name, a) :: rest, w =>
    match ofName? b h a none name with
    | some (_, t) =>
      (w.store.addition? h (node? w.store name a)).toList ++ logAll b rest (t w).2
    | none => logAll b rest w

/-- Every sequence of calls is a course. -/
theorem undergoes_callAll (b : Backend σ) (calls : List (Handle × String × Arguments))
    (hcalls : ∀ c ∈ calls, (ofName? b c.1 c.2.2 none c.2.1).isSome) (w : Workspace σ) :
    Undergoes w calls (logAll b calls w) (callAll b calls w) := by
  induction calls generalizing w with
  | nil => exact .done w
  | cons c rest ih =>
    obtain ⟨h, name, a⟩ := c
    obtain ⟨⟨signature, t⟩, hcall⟩ := Option.isSome_iff_exists.mp (hcalls _ List.mem_cons_self)
    have hrest := ih (fun c hc => hcalls c (List.mem_cons_of_mem _ hc)) (t w).2
    simp only at hcall
    simp only [logAll, callAll, hcall]
    exact .call w hcall hrest

/-! ### Copies -/

/-- A store in which a builder was given nodes in a new list, and nothing else was done to
conditions. -/
structure Copied (s : Store) (k n : Handle) (nodes : List Value) (t : Store) : Prop where
  target : t.HasList k n
  list_lt : n < t.lists.size
  list_eq : t.list n = nodes
  lists_eq : ∀ l, l < s.lists.size → t.list l = s.list l
  others : ∀ j, j ≠ k → (t.query j).conditions = (s.query j).conditions

/-- A call that copies the conditions of a builder, which are some nodes, to another one. -/
structure CopyCall (w : Workspace σ) (h k : Handle) (nodes : List Value) (task : Task σ Reply) :
    Prop where
  target_lt : k < w.store.queries.size
  items_eq : (w.store.conditions h).items = .ok nodes
  exists_call : ∃ (b : Backend σ) (callback : Option (Callback σ)) (name : String)
    (a : Arguments) (labels : Labels) (signature : Signature),
    name ∈ ["copy_params", "copy_conditions"] ∧ a.get "target" = .query k labels ∧
      ofName? b h a callback name = some (signature, task)

/-- Where a course of calls leads after a copy that was made in the store `s`: the target has the
copied nodes in a new list, and the other builders have the lists that they had. -/
structure Separated (s : Store) (k n : Handle) (nodes : List Value)
    (calls : List (Handle × String × Arguments)) (log : List Addition) (t : Store) : Prop where
  target : t.Extended k n nodes log
  /-- To the new list nothing is added but through builders that have it. -/
  added : ∀ x ∈ log, x.list = n → x.builder = k ∨ Given calls x.builder n
  others : ∀ j l, j ≠ k → s.HasList j l → KeepsList calls j l → t.Extended j l (s.list l) log
  /-- To the list of another builder nothing is added through the target. -/
  apart : ∀ j l, j ≠ k → s.HasList j l → KeepsList calls j l → ∀ x ∈ log, x.list = l →
    x.builder ≠ k ∧ (s.HasList x.builder l ∨ Given calls x.builder l)

/-- Where courses of calls lead if the first one, from `s` to `u`, gives some builders one list, and
the second one goes on from there to `t`. -/
structure Shared (s u t : Store) (l : Handle) (builders : List Handle) (log : List Addition)
    (more : List (Handle × String × Arguments)) (added : List Addition) : Prop where
  list_eq : u.list l = s.list l ++ nodesOn l log
  conditions : ∀ j ∈ builders, u.conditions j = .list (u.list l)
  /-- From then on a builder has what is added to the list, until it is given another one. -/
  extended : ∀ j ∈ builders, KeepsList more j l → t.Extended j l (u.list l) added
  holder : ∀ x ∈ added, x.list = l → u.HasList x.builder l ∨ Given more x.builder l

variable {h k n : Handle} {task : Task σ Reply} {nodes : List Value}

/-- A copy is a new list with the nodes of the builder. -/
theorem CopyCall.copied (hcopy : CopyCall w h k nodes task) :
    Copied w.store k w.store.lists.size nodes (task w).2.store := by
  obtain ⟨hk, hnodes, b, callback, name, a, labels, signature, hname, htarget, hcall⟩ := hcopy
  have htask : task = shape h (Building.copyConditions h (a.get "target")) := by
    rcases List.mem_pair.mp hname with rfl | rfl <;> cases hcall <;> rfl
  have hstore := (shape_store (h := h) (Building.copyConditions h (.query k labels)) w).trans
    (Building.copyConditions_apply hnodes)
  rw [htask, htarget, hstore]
  refine ⟨?_, by simp, getD_push_size, fun l hl => getD_push_of_lt hl, fun j hj => ?_⟩
  · exact congrArg QueryBuilder.conditions (getD_setIfInBounds_self hk)
  · exact congrArg QueryBuilder.conditions (getD_setIfInBounds_of_ne (Ne.symm hj))

/-- After a copy, builders go on with lists of their own. -/
theorem Copied.separated (hcopied : Copied w.store k w.store.lists.size nodes w₁.store)
    (hs : w.store.IsSound) (hcourse : Undergoes w₁ calls log w')
    (hkept : KeepsList calls k w.store.lists.size) :
    Separated w.store k w.store.lists.size nodes calls log w'.store where
  target := by
    have htarget := hcourse.extended hcopied.list_lt hcopied.target hkept
    rwa [hcopied.list_eq] at htarget
  added := by
    intro x hx hlist
    refine or_iff_not_imp_left.mpr fun hne => ?_
    refine (hcourse.holder_of_mem_log hcopied.list_lt x hx hlist).resolve_left fun hheld => ?_
    -- a builder that was not copied to has a list that was there before
    have hbefore : w.store.HasList x.builder w.store.lists.size :=
      (hcopied.others _ hne).symm.trans hheld
    exact absurd (hbefore.list_lt_size hs) (Nat.lt_irrefl _)
  others := by
    intro j l hne hj hkeptj
    have hl := hj.list_lt_size hs
    have hextended := hcourse.extended (hl.trans hcopied.list_lt) ((hcopied.others j hne).trans hj)
      hkeptj
    rwa [hcopied.lists_eq l hl] at hextended
  apart := by
    intro j l hne hj hkeptj x hx hlist
    have hl := hj.list_lt_size hs
    have hbuilder : x.builder ≠ k := fun hbuilder => by
      have hlist' := hcourse.list_of_mem_log hcopied.target hkept x hx hbuilder
      exact absurd (hlist.symm.trans hlist') (Nat.ne_of_lt hl)
    have hholder := hcourse.holder_of_mem_log (hl.trans hcopied.list_lt) x hx hlist
    exact ⟨hbuilder, hholder.imp_left fun hheld => (hcopied.others _ hbuilder).symm.trans hheld⟩

/-- Builders that were given one list go on with it. -/
theorem Undergoes.shared {builders : List Handle}
    {more : List (Handle × String × Arguments)} {added : List Addition} {u v : Workspace σ}
    (hfirst : Undergoes w calls log u) (hmore : Undergoes u more added v)
    (hl : l < w.store.lists.size) (hbuilders : ∀ j ∈ builders, j < w.store.queries.size)
    (hadopts : ∀ j ∈ builders, Adopts calls j l) :
    Shared w.store u.store v.store l builders log more added := by
  have hl' : l < u.store.lists.size := Nat.lt_of_lt_of_le hl hfirst.lists_le
  have hheld : ∀ j ∈ builders, u.store.HasList j l := fun j hj =>
    hfirst.hasList_of_adopts (hbuilders j hj) (hadopts j hj)
  exact ⟨hfirst.list_eq hl, fun j hj => (hheld j hj).conditions_eq,
    fun j hj => hmore.extended hl' (hheld j hj), hmore.holder_of_mem_log hl'⟩

/-- **Copies part, and shares stay.** A copy gives the target the nodes of the builder in a list
that no builder had, and changes the conditions of no other builder. Whatever is called from then
on, the target has these nodes and what was added through it, or through a builder that was given
its new list; and each other builder has what its list held, and what was added to that, none of it
through the target.

Builders that were given one list have the same conditions from then on: what the list held, and
what was added through any of them in the order of the calls, until they are given another list. -/
theorem copies_part_and_shares_stay (hw : w.store.Built) :
    (∀ (h k n : Handle) (nodes : List Value) (task : Task σ Reply),
      CopyCall w h k nodes task → n = w.store.lists.size →
      Copied w.store k n nodes (task w).2.store ∧
        ∀ (calls : List (Handle × String × Arguments)) (log : List Addition) (v : Workspace σ),
          Undergoes (task w).2 calls log v → KeepsList calls k n →
          Separated w.store k n nodes calls log v.store) ∧
    ∀ (l : Handle) (builders : List Handle) (calls more : List (Handle × String × Arguments))
      (log added : List Addition) (u v : Workspace σ), l < w.store.lists.size →
      (∀ j ∈ builders, j < w.store.queries.size) → (∀ j ∈ builders, Adopts calls j l) →
      Undergoes w calls log u → Undergoes u more added v →
      Shared w.store u.store v.store l builders log more added := by
  refine ⟨?_, fun l builders calls more log added u v hl hbuilders hadopts hfirst hmore =>
    hfirst.shared hmore hl hbuilders hadopts⟩
  rintro h k n nodes task hcall rfl
  exact ⟨hcall.copied, fun calls log v hcourse hkept =>
    hcall.copied.separated hw.sound hcourse hkept⟩

/-! ### A condition that is copied or shared -/

/-- The column that holds when an order was paid. -/
def paid : Arguments :=
  ⟨[("table", .text "o"), ("column", .text "paid")]⟩

/-- A test of that column. -/
def paidNode (operator : String) : Value :=
  .comparison (.column (.text "o") (.text "paid")) .null (.text operator) (.text "AND")

/-- Three queries, of which the first asks for orders that are not paid. -/
def unpaid : Workspace Rehearsal :=
  callAll Rehearsal.backend [(0, "is_null", paid)] threeQueries

theorem built_unpaid : unpaid.store.Built :=
  .callAll _ (((Built.empty.newQuery _ _).newQuery _ _).newQuery _ _)
    (by simp [paid, or_imp, forall_and])

/-- The third query has a copy of the condition. -/
def copied : Workspace Rehearsal :=
  callAll Rehearsal.backend [(0, "copy_params", ⟨[("target", .ofQuery 2)]⟩)] unpaid

/-- A fourth query has come since. -/
def laterCopied : Workspace Rehearsal :=
  { copied with store := (Building.newQuery .null .null copied.store).2 }

/-- The other queries are given the list with the condition. -/
def giveToOthers : List (Handle × String × Arguments) :=
  [(1, "set_params", ⟨[("conditions", .sharedList 0)]⟩),
    (2, "set_params", ⟨[("conditions", .sharedList 0)]⟩)]

/-- More conditions, for a query and for the third one. -/
def addMore (h : Handle) : List (Handle × String × Arguments) :=
  [(h, "start_group", ⟨[]⟩), (2, "is_not_null", paid)]

theorem keepsList_addMore (h j l : Handle) : KeepsList (addMore h) j l := by
  simp [addMore, KeepsList, QueryCall.Gives]

theorem undergoes_addMore (h : Handle) (w : Workspace Rehearsal) :
    Undergoes w (addMore h) (logAll Rehearsal.backend (addMore h) w)
      (callAll Rehearsal.backend (addMore h) w) :=
  undergoes_callAll _ _ (fun c hc => by rcases List.mem_pair.mp hc with rfl | rfl <;> rfl) w

theorem adopts_giveToOthers : ∀ j ∈ [1, 2], Adopts giveToOthers j 0 := by
  intro j hj
  rcases List.mem_pair.mp hj with rfl | rfl
  · exact ⟨_, _, List.suffix_rfl, ⟨rfl, rfl, rfl⟩, by simp [KeepsList, QueryCall.Gives]⟩
  · exact ⟨_, _, List.suffix_cons .., ⟨rfl, rfl, rfl⟩, by simp [KeepsList]⟩

/-- A copied condition is added to apart, and a shared one together. -/
theorem copies_part_and_shares_stay_unpaid :
    unpaid.store.Built ∧
      (let v := callAll Rehearsal.backend (addMore 0) laterCopied
       v.store.conditions 0 = .list [paidNode "IS NULL", .groupStart (.text "AND")] ∧
       v.store.conditions 2 = .list [paidNode "IS NULL", paidNode "IS NOT NULL"]) ∧
      let u := callAll Rehearsal.backend giveToOthers unpaid
      let v := callAll Rehearsal.backend (addMore 1) u
      ∀ j ∈ [1, 2], v.store.conditions j =
        .list [paidNode "IS NULL", .groupStart (.text "AND"), paidNode "IS NOT NULL"] := by
  obtain ⟨hcopies, hshares⟩ := copies_part_and_shares_stay built_unpaid
  refine ⟨built_unpaid, ?_, ?_⟩
  · have hcall : CopyCall unpaid 0 2 [paidNode "IS NULL"] _ :=
      ⟨Nat.lt_succ_self 2, rfl, Rehearsal.backend, none, "copy_params",
        ⟨[("target", .ofQuery 2)]⟩, _, _, by simp, rfl, rfl⟩
    have hcopy := hcopies 0 2 3 _ _ hcall rfl
    have hcourse : Undergoes copied (addMore 0) _ _ :=
      .meanwhile (leavesConditions_newQuery _ _ _) (undergoes_addMore 0 laterCopied)
    have hseparated := hcopy.2 _ _ _ hcourse (keepsList_addMore 0 2 3)
    exact ⟨(hseparated.others 0 0 (by decide) rfl (keepsList_addMore 0 0 0)).conditions,
      hseparated.target.conditions⟩
  · have hfirst := undergoes_callAll Rehearsal.backend giveToOthers
      (fun c hc => by rcases List.mem_pair.mp hc with rfl | rfl <;> rfl) unpaid
    have hshare := hshares 0 [1, 2] giveToOthers (addMore 1) _ _ _ _ (Nat.succ_pos 2) (by decide)
      adopts_giveToOthers hfirst (undergoes_addMore 1 _)
    exact fun j hj => (hshare.extended j hj (keepsList_addMore 1 j 0)).conditions

end FluentSql.Store
