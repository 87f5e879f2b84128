import FluentSql.Store

/-!
# What objects refer to

Values refer to objects of a store, and these hold values in turn. What a value reads as depends on
the objects that can be reached from it, and on nothing else in its store: two stores that agree on
them fill the value in alike (`Store.settleWithin_congr`), and what is filled in leads nowhere else
(`Store.settleWithin_within`).

`P` is a set of objects throughout. It is closed in a store if whatever an object of it holds is in
it as well.
-/

namespace FluentSql

/-- An object of a store. -/
inductive Object where
  | query (h : Handle)
  | list (h : Handle)
  | record (h : Handle)
  | write (h : Handle)
  | session (h : Handle)

/-! ### Objects that a value mentions -/

namespace Value

/-- The object that a value stands for. -/
def object? : Value → Option Object
  | query h _ => some (.query h)
  | write h _ => some (.write h)
  | session h _ => some (.session h)
  | sharedList h => some (.list h)
  | sharedRecord h => some (.record h)
  | _ => none

/-- The values that a value is made of. -/
def parts : Value → List Value
  | list items | tuple items | set _ items => items
  | record entries => entries.flatMap fun e => [e.1, e.2]
  | column table name => [table, name]
  | comparison left right operator combinator => [left, right, operator, combinator]
  | groupStart combinator | groupEnd combinator => [combinator]
  | _ => []

/-- The objects that a value stands for, by itself or by a part of it. -/
inductive Mentions : Value → Object → Prop where
  | object {v : Value} {o : Object} (h : v.object? = some o) : Mentions v o
  | part {v w : Value} {o : Object} (hw : w ∈ v.parts) (h : Mentions w o) : Mentions v o

/-- A value that mentions objects of `P` only. -/
def Within (P : Object → Prop) (v : Value) : Prop :=
  ∀ o, v.Mentions o → P o

variable {P : Object → Prop} {v w : Value}

theorem Within.object {o : Object} (hv : v.Within P) (h : v.object? = some o) : P o :=
  hv o (.object h)

theorem Within.part (hv : v.Within P) (hw : w ∈ v.parts) : w.Within P :=
  fun o ho => hv o (.part hw ho)

theorem within_iff :
    v.Within P ↔ (∀ o, v.object? = some o → P o) ∧ ∀ w ∈ v.parts, w.Within P := by
  constructor
  · intro hv
    exact ⟨fun o ho => hv.object ho, fun w hw => hv.part hw⟩
  · rintro ⟨hobject, hparts⟩ o (ho | ⟨hw, ho⟩)
    · exact hobject o ho
    · exact hparts _ hw o ho

/-- A value that mentions nothing by itself. -/
theorem within_of_parts (hv : v.object? = none) (hparts : ∀ w ∈ v.parts, w.Within P) :
    v.Within P :=
  within_iff.mpr ⟨by rw [hv]; nofun, hparts⟩

/-- A value that has no parts. -/
theorem within_of_object (hv : v.parts = []) (hobject : ∀ o, v.object? = some o → P o) :
    v.Within P :=
  within_iff.mpr ⟨hobject, by rw [hv]; nofun⟩

theorem Within.mono {Q : Object → Prop} (hv : v.Within P) (h : ∀ o, P o → Q o) : v.Within Q :=
  fun o ho => h o (hv o ho)

end Value

/-! ### Filling in -/

/-- What stands for an object when it is filled in. -/
def Contents.value (c : Contents) : Object → Value
  | .query h => .query h (c.query h)
  | .list h => c.list h
  | .record h => c.record h
  | .write h => .write h (c.write h)
  | .session h => .session h (c.session h)

namespace Value

theorem sizeOf_lt_of_mem_parts {v w : Value} (hw : w ∈ v.parts) : sizeOf w < sizeOf v := by
  cases v with
  | list items | tuple items | set frozen items =>
    have hlt : sizeOf w < sizeOf items := List.sizeOf_lt_of_mem hw
    simp
    omega
  | record entries =>
    obtain ⟨e, he, hw⟩ := List.mem_flatMap.mp hw
    have hlt : sizeOf e < sizeOf entries := List.sizeOf_lt_of_mem he
    obtain ⟨key, value⟩ := e
    simp only [List.mem_cons, List.not_mem_nil, or_false, Prod.mk.sizeOf_spec] at hw hlt
    simp only [record.sizeOf_spec]
    rcases hw with rfl | rfl <;> omega
  | column table name =>
    simp only [parts, List.mem_cons, List.not_mem_nil, or_false] at hw
    simp only [column.sizeOf_spec]
    rcases hw with rfl | rfl <;> omega
  | comparison left right operator combinator =>
    simp only [parts, List.mem_cons, List.not_mem_nil, or_false] at hw
    simp only [comparison.sizeOf_spec]
    rcases hw with rfl | rfl | rfl | rfl <;> omega
  | groupStart combinator | groupEnd combinator =>
    obtain rfl := List.mem_singleton.mp hw
    simp
  | _ => cases hw

/-- What holds of a value if it holds of its parts, holds of every value. -/
theorem induction_parts {motive : Value → Prop}
    (h : ∀ v, (∀ w ∈ v.parts, motive w) → motive v) (v : Value) : motive v :=
  h v fun w _ => induction_parts h w
termination_by sizeOf v
decreasing_by exact sizeOf_lt_of_mem_parts ‹_›

variable {c c' : Contents} {v : Value}

theorem fillAll_eq_map (c : Contents) (vs : List Value) : fillAll c vs = vs.map (fill c) := by
  induction vs with
  | nil => rfl
  | cons v vs ih => rw [fillAll, ih, List.map_cons]

theorem fillEntries_eq_map (c : Contents) (entries : List (Value × Value)) :
    fillEntries c entries = entries.map fun e => (fill c e.1, fill c e.2) := by
  induction entries with
  | nil => rfl
  | cons e rest ih =>
    obtain ⟨key, value⟩ := e
    rw [fillEntries, ih, List.map_cons]

theorem fill_of_object {o : Object} (hv : v.object? = some o) : v.fill c = c.value o := by
  cases v with
  | query | write | session | sharedList | sharedRecord =>
    obtain rfl := Option.some.inj hv
    rfl
  | _ => cases hv

theorem object?_fill (hv : v.object? = none) : (v.fill c).object? = none := by
  cases v with
  | query | write | session | sharedList | sharedRecord => cases hv
  | _ => rfl

theorem parts_fill (hv : v.object? = none) : (v.fill c).parts = v.parts.map (fill c) := by
  cases v with
  | query | write | session | sharedList | sharedRecord => cases hv
  | list items | tuple items | set frozen items => exact fillAll_eq_map c items
  | record entries =>
    rw [fill, parts, fillEntries_eq_map, parts, List.flatMap_map, List.map_flatMap]
    rfl
  | _ => rfl

/-- Only the objects that a value mentions are filled in. -/
theorem fill_congr (h : ∀ o, v.Mentions o → c.value o = c'.value o) : v.fill c = v.fill c' := by
  induction v using induction_parts with | _ v ih => ?_
  have hparts : ∀ w ∈ v.parts, w.fill c = w.fill c' := fun w hw =>
    ih w hw fun o ho => h o (.part hw ho)
  cases hobject : v.object? with
  | some o => rw [fill_of_object hobject, fill_of_object hobject, h o (.object hobject)]
  | none =>
    cases v with
    | query | write | session | sharedList | sharedRecord => cases hobject
    | list items | tuple items | set frozen items =>
      have hitems : items.map (fill c) = items.map (fill c') := List.map_congr_left hparts
      rw [fill, fill, fillAll_eq_map, fillAll_eq_map, hitems]
    | record entries =>
      have hentries : ∀ e ∈ entries, (e.1.fill c, e.2.fill c) = (e.1.fill c', e.2.fill c') := by
        intro e he
        rw [hparts e.1 (List.mem_flatMap.mpr ⟨e, he, by simp⟩),
          hparts e.2 (List.mem_flatMap.mpr ⟨e, he, by simp⟩)]
      rw [fill, fill, fillEntries_eq_map, fillEntries_eq_map, List.map_congr_left hentries]
    | column table name =>
      rw [fill, fill, hparts table (by simp [parts]), hparts name (by simp [parts])]
    | comparison left right operator combinator =>
      rw [fill, fill, hparts left (by simp [parts]), hparts right (by simp [parts]),
        hparts operator (by simp [parts]), hparts combinator (by simp [parts])]
    | groupStart combinator | groupEnd combinator =>
      rw [fill, fill, hparts combinator (by simp [parts])]
    | _ => rfl

/-- What is filled in mentions what its objects are filled in with. -/
theorem fill_within {P : Object → Prop} (h : ∀ o, v.Mentions o → (c.value o).Within P) :
    (v.fill c).Within P := by
  induction v using induction_parts with | _ v ih => ?_
  cases hobject : v.object? with
  | some o =>
    rw [fill_of_object hobject]
    exact h o (.object hobject)
  | none =>
    refine within_of_parts (object?_fill hobject) ?_
    rw [parts_fill hobject]
    intro u hu
    obtain ⟨w, hw, rfl⟩ := List.mem_map.mp hu
    exact ih w hw fun o ho => h o (.part hw ho)

end Value

/-! ### Values that objects hold -/

/-- The values of a field. -/
def Field.values : Field → List Value
  | .column table name aliasName => [table, name, aliasName]
  | .wildcard table => [table]
  | .function name source distinct aliasName argument =>
    [name, source, distinct, aliasName] ++ argument.toList
  | .concat columns aliasName separator => [columns, aliasName, separator]
  | .subquery query aliasName => [query, aliasName]

/-- The values of a table. -/
def Table.values (t : Table) : List Value :=
  [t.schema, t.table, t.aliasName, t.joins, t.join]

/-- The values of a sort key. -/
def SortKey.values (k : SortKey) : List Value :=
  [k.table, k.column, k.direction]

/-- The values of the model of a query builder. -/
def QueryBuilder.values (q : QueryBuilder) : List Value :=
  q.fields.flatMap Field.values ++ q.tables.flatMap Table.values ++ [q.conditions]
    ++ q.order.flatMap SortKey.values

/-- Two query builders with the same model. Their sessions, dialects and rows may differ. -/
structure QueryBuilder.SameModel (q r : QueryBuilder) : Prop where
  fields : q.fields = r.fields
  tables : q.tables = r.tables
  conditions : q.conditions = r.conditions
  order : q.order = r.order
  page : q.page = r.page
  limit : q.limit = r.limit

namespace Store

/-- The values that show of an object. A description shows only the names of a write builder, and
only the driver of a session. -/
def values (s : Store) : Object → List Value
  | .query h => (s.query h).values
  | .list h => s.list h
  | .record h => (s.record h).flatMap fun e => [e.1, e.2]
  | .write h => [(s.write h).write.schema, (s.write h).write.table]
  | .session h => [(s.session h).session.settings.driver]

/-- A set of objects that hold nothing outside of it. -/
def IsClosed (s : Store) (P : Object → Prop) : Prop :=
  ∀ o, P o → ∀ v ∈ s.values o, v.Within P

/-- An object that is the same in two stores, as far as it shows. -/
def SameAt (s t : Store) : Object → Prop
  | .query h => (s.query h).SameModel (t.query h)
  | .list h => s.list h = t.list h
  | .record h => s.record h = t.record h
  | .write h => (s.write h).write = (t.write h).write
  | .session h => (s.session h).session = (t.session h).session

end Store

/-! ### Models -/

section Models

variable {f g : Value → Value}

theorem Field.map_congr {a : Field} (h : ∀ v ∈ a.values, f v = g v) : a.map f = a.map g := by
  cases a with
  | function name source distinct aliasName argument =>
    have hargument : argument.map f = argument.map g := by
      refine Option.map_congr fun v hv => h v ?_
      exact List.mem_append_right _ (Option.mem_toList.mpr hv)
    rw [map, map, hargument, h name (by simp [values]), h source (by simp [values]),
      h distinct (by simp [values]), h aliasName (by simp [values])]
  | column table name aliasName =>
    rw [map, map, h table (by simp [values]), h name (by simp [values]),
      h aliasName (by simp [values])]
  | wildcard table => rw [map, map, h table (by simp [values])]
  | concat columns aliasName separator =>
    rw [map, map, h columns (by simp [values]), h aliasName (by simp [values]),
      h separator (by simp [values])]
  | subquery query aliasName =>
    rw [map, map, h query (by simp [values]), h aliasName (by simp [values])]

theorem Table.map_congr {a : Table} (h : ∀ v ∈ a.values, f v = g v) : a.map f = a.map g := by
  rw [map, map, h a.schema (by simp [values]), h a.table (by simp [values]),
    h a.aliasName (by simp [values]), h a.joins (by simp [values]), h a.join (by simp [values])]

theorem SortKey.map_congr {a : SortKey} (h : ∀ v ∈ a.values, f v = g v) : a.map f = a.map g := by
  rw [map, map, h a.table (by simp [values]), h a.column (by simp [values]),
    h a.direction (by simp [values])]

/-- The description of a write shows no other values of it. -/
theorem Write.description_congr {w : Write} (hschema : f w.schema = g w.schema)
    (htable : f w.table = g w.table) :
    ({ w with schema := f w.schema, table := f w.table } : Write).description =
      ({ w with schema := g w.schema, table := g w.table } : Write).description := by
  rw [hschema, htable]

/-- The description of a session shows no other values of it. -/
theorem Session.description_map_congr {a : Session} (h : f a.settings.driver = g a.settings.driver) :
    (a.map f).description = (a.map g).description :=
  congrArg (fun driver : Value => driver.display.map fun name =>
    "<Session " ++ name ++ (if a.held.isSome then " connected>" else " disconnected>")) h

end Models

/-! ### What values read as -/

namespace Store

variable {s t : Store} {P : Object → Prop}

section Congruence

variable (hclosed : s.IsClosed P) (hsame : ∀ o, P o → s.SameAt t o)

include hsame in
theorem opened_congr {v : Value} (hv : v.Within P) : s.opened v = t.opened v := by
  cases v with
  | sharedList h =>
    have hlist : s.list h = t.list h := hsame _ (hv.object rfl)
    rw [opened, opened, hlist]
  | sharedRecord h =>
    have hrecord : s.record h = t.record h := hsame _ (hv.object rfl)
    rw [opened, opened, hrecord]
  | _ => rfl

include hsame in
theorem tableNames_congr {tables : List Table} (h : ∀ a ∈ tables, a.aliasName.Within P)
    (position : Nat) : s.tableNames position tables = t.tableNames position tables := by
  induction tables generalizing position with
  | nil => rfl
  | cons a rest ih =>
    have hopened := opened_congr hsame (h a List.mem_cons_self)
    have hrest := ih (fun b hb => h b (List.mem_cons_of_mem a hb)) (position + 1)
    rw [tableNames, tableNames, hopened, hrest]

include hclosed hsame

theorem describeQuery_congr {h : Handle} (hh : P (.query h)) :
    s.describeQuery h = t.describeQuery h := by
  have hmodel : (s.query h).SameModel (t.query h) := hsame _ hh
  have hvalues : ∀ v ∈ (s.query h).values, v.Within P := hclosed _ hh
  have hnames : s.tableNames 0 (s.query h).tables = t.tableNames 0 (t.query h).tables := by
    rw [← hmodel.tables]
    refine tableNames_congr hsame (fun a ha => hvalues _ ?_) 0
    have hmem : a.aliasName ∈ (s.query h).tables.flatMap Table.values :=
      List.mem_flatMap.mpr ⟨a, ha, by simp [Table.values]⟩
    simp [QueryBuilder.values, hmem]
  have hconditions : s.conditions h = t.conditions h := by
    rw [conditions, conditions, ← hmodel.conditions]
    exact opened_congr hsame (hvalues _ (by simp [QueryBuilder.values]))
  rw [describeQuery, describeQuery, hnames, hconditions, hmodel.fields]

/-- What stands for an object, if the values behind it are read alike. -/
theorem contents_congr {f g : Bool → Trail → Value → Value}
    (hfg : ∀ nested trail v, v.Within P → f nested trail v = g nested trail v) (nested : Bool)
    (trail : Trail) {o : Object} (ho : P o) :
    (s.contents nested trail f).value o = (t.contents nested trail g).value o := by
  have hvalues : ∀ v ∈ s.values o, ∀ nested trail, f nested trail v = g nested trail v :=
    fun v hv nested trail => hfg nested trail v (hclosed o ho v hv)
  cases o with
  | query h => simp only [Contents.value, contents, describeQuery_congr hclosed hsame ho]
  | list h =>
    have hlist : s.list h = t.list h := hsame _ ho
    have hitems : ∀ trail, (s.list h).map (f nested trail) = (s.list h).map (g nested trail) :=
      fun trail => List.map_congr_left fun v hv => hvalues v hv nested trail
    simp only [Contents.value, contents]
    rw [hitems, hlist]
  | record h =>
    have hrecord : s.record h = t.record h := hsame _ ho
    have hentries : ∀ trail,
        (s.record h).map (fun e => (f nested trail e.1, f nested trail e.2)) =
          (s.record h).map fun e => (g nested trail e.1, g nested trail e.2) := by
      intro trail
      refine List.map_congr_left fun e he => ?_
      rw [hvalues e.1 (List.mem_flatMap.mpr ⟨e, he, by simp⟩),
        hvalues e.2 (List.mem_flatMap.mpr ⟨e, he, by simp⟩)]
    simp only [Contents.value, contents]
    rw [hentries, hrecord]
  | write h =>
    have hwrite : (s.write h).write = (t.write h).write := hsame _ ho
    have hdescribe : ∀ trail, s.describeWriteBy (f true trail) h =
        t.describeWriteBy (g true trail) h := by
      intro trail
      have hschema := hvalues (s.write h).write.schema (by simp [values]) true trail
      have htable := hvalues (s.write h).write.table (by simp [values]) true trail
      rw [describeWriteBy, describeWriteBy, ← hwrite]
      exact Write.description_congr hschema htable
    simp only [Contents.value, contents, hdescribe]
  | session h =>
    have hsession : (s.session h).session = (t.session h).session := hsame _ ho
    have hdescribe : ∀ trail, ((s.session h).session.map (f true trail)).description =
        ((t.session h).session.map (g true trail)).description := by
      intro trail
      rw [← hsession]
      exact Session.description_map_congr (hvalues _ (by simp [values]) true trail)
    simp only [Contents.value, contents, hdescribe]

/-- **A value reads the same** in two stores that agree on what it leads to. -/
theorem settleWithin_congr (depth : Nat) (nested : Bool) (trail : Trail) {v : Value}
    (hv : v.Within P) :
    s.settleWithin depth nested trail v = t.settleWithin depth nested trail v := by
  induction depth generalizing nested trail v with
  | zero => rfl
  | succ depth ih =>
    rw [settleWithin, settleWithin]
    refine Value.fill_congr fun o ho => contents_congr hclosed hsame ?_ nested trail (hv o ho)
    exact fun nested trail v hv => ih nested trail hv

end Congruence

/-- **A value leads nowhere else** when it is filled in. -/
theorem settleWithin_within (hclosed : s.IsClosed P) (depth : Nat) (nested : Bool) (trail : Trail)
    {v : Value} (hv : v.Within P) : (s.settleWithin depth nested trail v).Within P := by
  induction depth generalizing nested trail v with
  | zero => exact hv
  | succ depth ih =>
    rw [settleWithin]
    refine Value.fill_within fun o ho => ?_
    have hvalues := hclosed o (hv o ho)
    have hself : ∀ w : Value, w.object? = some o → w.parts = [] → w.Within P := by
      intro w hw hparts
      refine Value.within_of_object hparts fun o' ho' => ?_
      obtain rfl := Option.some.inj (hw.symm.trans ho')
      exact hv o ho
    cases o with
    | query h | write h | session h => exact hself _ rfl rfl
    | list h =>
      simp only [Contents.value, contents]
      split
      · exact hself _ rfl rfl
      · refine Value.within_of_parts rfl fun w hw => ?_
        obtain ⟨v, hv, rfl⟩ := List.mem_map.mp hw
        exact ih nested _ (hvalues v hv)
    | record h =>
      simp only [Contents.value, contents]
      split
      · exact hself _ rfl rfl
      · refine Value.within_of_parts rfl fun w hw => ?_
        obtain ⟨e', he', hw⟩ := List.mem_flatMap.mp hw
        obtain ⟨e, he, rfl⟩ := List.mem_map.mp he'
        have hkey := hvalues e.1 (List.mem_flatMap.mpr ⟨e, he, by simp⟩)
        have hvalue := hvalues e.2 (List.mem_flatMap.mpr ⟨e, he, by simp⟩)
        simp only [List.mem_cons, List.not_mem_nil, or_false] at hw
        rcases hw with rfl | rfl
        · exact ih nested _ hkey
        · exact ih nested _ hvalue

end Store

end FluentSql
