import FluentSql.Proofs.Entries
import FluentSql.Proofs.Sharing.Calls
import FluentSql.Proofs.Write.Draft
import FluentSql.Rehearsal
import FluentSql.Script.WriteCall

/-!
# Edited writes

A write builder comes to hold what it does through calls by name, which may stand in any order and
lie apart: between them, anything may happen that leaves the builder as it is. What it holds is read
off the list of the calls (`Draft.ofEdits`), so its statement is one of these calls and of what the
store holds when it is compiled (`Store.Edited.compileWrite_eq`).
-/

namespace FluentSql

/-! ### The last of several values -/

section Latest

variable {α : Type} {key : String} {v : α}

/-- Among repeated texts, the first of each counts. -/
theorem eraseDups_concat (names : List String) (name : String) :
    (names ++ [name]).eraseDups =
      if name ∈ names then names.eraseDups else names.eraseDups ++ [name] := by
  rw [List.eraseDups_append]
  split
  · rename_i h
    simp [List.removeAll, h]
  · rename_i h
    simp [List.removeAll, h, List.eraseDups_cons]

theorem nodup_eraseDups (names : List String) : names.eraseDups.Nodup := by
  induction names using List.reverseRecOn with
  | nil => exact List.nodup_nil
  | append_singleton names name ih =>
    rw [eraseDups_concat]
    split
    · exact ih
    · rename_i hnew
      refine List.nodup_append.mpr ⟨ih, List.nodup_singleton name, ?_⟩
      rintro other hother _ hname rfl
      rw [List.mem_singleton.mp hname] at hother
      exact hnew (List.mem_eraseDups.mp hother)

theorem eraseDups_eq_nil_iff (names : List String) : names.eraseDups = [] ↔ names = [] := by
  cases names <;> simp [List.eraseDups_cons]

/-- A value for one of several keys: the other keys keep theirs. -/
theorem putEntry_map {keys : List String} (h : keys.Nodup) (f : String → α) :
    putEntry key v (keys.map fun k => (k, f k)) =
      (if key ∈ keys then keys else keys ++ [key]).map fun k =>
        (k, if k = key then v else f k) := by
  induction keys with
  | nil => simp [putEntry]
  | cons k keys ih =>
    obtain ⟨hk, hkeys⟩ := List.nodup_cons.mp h
    rw [List.map_cons, putEntry]
    by_cases hkey : k = key
    · subst hkey
      have hsame : ∀ k' ∈ keys, (k', f k') = (k', if k' = k then v else f k') := by
        intro k' hk'
        rw [if_neg (ne_of_mem_of_not_mem hk' hk)]
      simp [List.map_congr_left hsame]
    · have hne : (k == key) = false := by simpa using hkey
      rw [hne, ih hkeys]
      by_cases hmem : key ∈ keys
      · simp [hmem, hkey]
      · simp [hmem, hkey, Ne.symm hkey]

/-- The columns for which values are given, each with the last of them. -/
def latest (given : List (String × Value)) : List (String × Value) :=
  (given.map (·.1)).eraseDups.map fun column => (column, lastFor given column)

/-- One more value changes the last one for its column only. -/
theorem latest_concat (given : List (String × Value)) (column : String) (value : Value) :
    latest (given ++ [(column, value)]) = putEntry column value (latest given) := by
  have hlast : ∀ c, lastFor (given ++ [(column, value)]) c =
      if c = column then value else lastFor given c := by
    intro c
    rw [lastFor, List.reverse_append, List.reverse_singleton, List.singleton_append,
      List.lookup_cons]
    by_cases hc : c = column
    · simp [hc]
    · have hne : (c == column) = false := by simpa using hc
      rw [hne, if_neg hc, lastFor]
  simp only [latest, putEntry_map (nodup_eraseDups _), hlast, List.map_append, List.map_singleton,
    eraseDups_concat, List.mem_eraseDups]

end Latest

/-! ### Edits -/

/-- A call that edits a write builder, whose names are text. -/
inductive WriteEdit where
  | setTable (schema : Option String) (table : String)
  | addColumn (name : String) (updated : Bool)
  | addUpdated (name : String)
  | setTarget (names : List String)
  | addRecord (record : Value)
  | addCondition (column : String) (value : Value)

namespace WriteEdit

/-- The name of the call. -/
def name : WriteEdit → String
  | setTable .. => "set_table"
  | addColumn .. => "add_column"
  | addUpdated _ => "add_update_column"
  | setTarget _ => "set_conflict_target"
  | addRecord _ => "add_record"
  | addCondition .. => "add_condition"

/-- The arguments of the call. -/
def arguments : WriteEdit → Arguments
  | setTable schema table => ⟨[("schema", .ofName schema), ("table", .text table)]⟩
  | addColumn name updated => ⟨[("name", .text name), ("update", .bool updated)]⟩
  | addUpdated name => ⟨[("name", .text name)]⟩
  | setTarget names => ⟨[("columns", .list (names.map .text))]⟩
  | addRecord record => ⟨[("record", record)]⟩
  | addCondition column value => ⟨[("column", .text column), ("value", value)]⟩

/-- The schema and the table that an edit names. -/
def place? : WriteEdit → Option (Option String × String)
  | setTable schema table => some (schema, table)
  | _ => none

/-- The columns that an edit names as those that identify a row. -/
def target? : WriteEdit → Option (List String)
  | setTarget names => some names
  | _ => none

/-- The columns that an edit declares. -/
def declares : WriteEdit → List String
  | addColumn name _ => [name]
  | _ => []

/-- The columns that an edit flags to be updated. -/
def flags : WriteEdit → List String
  | addColumn name true => [name]
  | addUpdated name => [name]
  | _ => []

/-- The records that an edit adds. -/
def adds : WriteEdit → List Value
  | addRecord record => [record]
  | _ => []

/-- The columns that an edit demands values of, with these. -/
def demands : WriteEdit → List (String × Value)
  | addCondition column value => [(column, value)]
  | _ => []

/-- The last table that several edits name, with its schema. -/
def placed (schema : Option String) (edits : List WriteEdit) : Option String × String :=
  (edits.filterMap place?).getLast?.getD (schema, "")

/-- The last columns that several edits name as those that identify a row. -/
def targeted (edits : List WriteEdit) : List String :=
  (edits.filterMap target?).getLast?.getD []

/-- The columns that several edits declare, as often as they do. -/
def declared (edits : List WriteEdit) : List String :=
  edits.flatMap declares

/-- The columns that several edits flag to be updated, as often as they do. -/
def flagged (edits : List WriteEdit) : List String :=
  edits.flatMap flags

/-- The records that several edits add. -/
def added (edits : List WriteEdit) : List Value :=
  edits.flatMap adds

/-- The columns that several edits demand values of, with these, as often as they do. -/
def demanded (edits : List WriteEdit) : List (String × Value) :=
  edits.flatMap demands

end WriteEdit

open WriteEdit

namespace Draft

/-- What a write holds after edits, if it was made for a schema. -/
def ofEdits (schema : Option String) (edits : List WriteEdit) : Draft where
  schema := (placed schema edits).1
  table := (placed schema edits).2
  columns := declared edits
  updated := (flagged edits).eraseDups
  target := targeted edits
  records := added edits
  conditions := latest (demanded edits)

/-- A draft with one more column to be updated, unless it is one of them already. -/
def flag (p : Draft) (name : String) : Draft :=
  { p with updated := if name ∈ p.updated then p.updated else p.updated ++ [name] }

/-- A draft after an edit. -/
def edit (p : Draft) : WriteEdit → Draft
  | setTable schema table => { p with schema, table }
  | addColumn name false => { p with columns := p.columns ++ [name] }
  | addColumn name true => { p with columns := p.columns ++ [name] }.flag name
  | addUpdated name => p.flag name
  | setTarget names => { p with target := names }
  | addRecord record => { p with records := p.records ++ [record] }
  | addCondition column value => { p with conditions := putEntry column value p.conditions }

/-- One more edit changes what the write holds accordingly. -/
theorem ofEdits_concat (schema : Option String) (edits : List WriteEdit) (e : WriteEdit) :
    ofEdits schema (edits ++ [e]) = (ofEdits schema edits).edit e := by
  cases e with
  | addColumn name updated =>
    cases updated <;>
      simp [ofEdits, edit, flag, placed, targeted, declared, flagged, added, demanded, place?,
        target?, declares, flags, adds, demands, eraseDups_concat]
  | _ =>
    simp [ofEdits, edit, flag, placed, targeted, declared, flagged, added, demanded, place?,
      target?, declares, flags, adds, demands, eraseDups_concat, latest_concat]

end Draft

/-! ### Editing by name -/

namespace Draft

variable (p : Draft)

theorem addUpdated_write (name : String) :
    p.write.addUpdated (.text name) = .ok (p.flag name).write := by
  have hknown : p.write.updated.any (·.same (.text name)) = decide (name ∈ p.updated) := by
    have hsame : ∀ other : String, (Value.text other).same (.text name) = (other == name) :=
      fun _ => rfl
    rw [Bool.eq_iff_iff]
    simp [write, List.any_map, Function.comp_def, hsame]
  have hkey : (Value.text name).checkKey = .ok () := rfl
  rw [Write.addUpdated, hkey]
  change (if _ then _ else _) = _
  rw [hknown, flag]
  by_cases hmem : name ∈ p.updated <;> simp [hmem, write]

theorem addCondition_write (column : String) (value : Value) :
    p.write.addCondition (.text column) value =
      .ok { p with conditions := putEntry column value p.conditions }.write := by
  have hkey : (Value.text column).checkKey = .ok () := rfl
  rw [Write.addCondition, hkey]
  change Except.ok _ = _
  simp [write, putEntry_map_text]

end Draft

/-- A builder that holds a draft. -/
def Store.HoldsDraft (s : Store) (h : Handle) (p : Draft) : Prop :=
  ∃ held, s.writes[h]? = some held ∧ held.write = p.write

namespace Building

variable {s : Store} {h : Handle} {p q : Draft}

/-- A building that succeeds, after which a builder holds a draft. -/
def Leaves (s : Store) (b : Building Unit) (h : Handle) (q : Draft) : Prop :=
  ∃ t, b s = (.ok (), t) ∧ t.HoldsDraft h q

theorem editWrite_leaves (hs : s.HoldsDraft h p) {f : Write → Except Fault Write}
    (hf : f p.write = .ok q.write) : Leaves s (editWrite h f) h q := by
  obtain ⟨held, hheld, hp⟩ := hs
  have hwrite : s.write h = held := by
    rw [Store.write, Array.getD_eq_getD_getElem?, hheld, Option.getD_some]
  have hlt : h < s.writes.size := (Array.getElem?_eq_some_iff.mp hheld).1
  refine ⟨{ s with writes := s.writes.setIfInBounds h { held with write := q.write } }, ?_, ?_⟩
  · rw [editWrite, hwrite, hp, hf]
  · exact ⟨{ held with write := q.write }, by simp [hlt], rfl⟩

theorem addColumn_leaves (hs : s.HoldsDraft h p) (name : String) (updated : Bool) :
    Leaves s (addColumn h (.text name) (.bool updated)) h (p.edit (.addColumn name updated)) := by
  have hadded : Leaves s (editWrite h fun w => .ok (w.addColumn (.text name))) h
      { p with columns := p.columns ++ [name] } :=
    editWrite_leaves hs (by simp [Draft.write, Write.addColumn])
  obtain ⟨t, hbuilt, ht⟩ := hadded
  cases updated with
  | false => exact ⟨t, Fallible.bind_apply_of_ok hbuilt, ht⟩
  | true =>
    obtain ⟨u, hflagged, hu⟩ :=
      editWrite_leaves (f := (·.addUpdated (.text name))) ht (Draft.addUpdated_write _ name)
    exact ⟨u, (Fallible.bind_apply_of_ok hbuilt).trans hflagged, hu⟩

theorem setTarget_leaves (hs : s.HoldsDraft h p) (names : List String) :
    Leaves s (setTarget h (.list (names.map .text))) h { p with target := names } :=
  editWrite_leaves (f := fun w => .ok (w.setTarget (names.map .text))) hs rfl

end Building

namespace WriteCall

variable {σ : Type} {h : Handle} {w : Workspace σ} {p q : Draft}

/-- To describe a builder changes nothing. -/
theorem shape_holdsDraft {build : Building Unit} (hbuild : Building.Leaves w.store build h q) :
    (shape h build w).2.store.HoldsDraft h q := by
  obtain ⟨t, hbuilt, ht⟩ := hbuild
  have hstep : (Task.build build : Task σ Unit) w = (.ok (), { w with store := t }) := by
    rw [Task.build, hbuilt]
  have hanswered := Task.answered_eq (fun s => s.describeWrite h)
    (fun text => Reply.value (.text text)) { w with store := t }
  rw [shape, Fallible.bind_apply_of_ok hstep, hanswered]
  exact ht

/-- **A call by name edits what the builder holds.** -/
theorem edits_apply {b : Backend σ} {callback : Option (Callback σ)} {e : WriteEdit}
    {signature : Signature} {t : Task σ Reply}
    (hcall : ofName? b h e.arguments callback e.name = some (signature, t))
    (hw : w.store.HoldsDraft h p) : (t w).2.store.HoldsDraft h (p.edit e) := by
  have hedit : ∀ (f : Write → Except Fault Write) (q : Draft), f p.write = .ok q.write →
      (edit h f w).2.store.HoldsDraft h q :=
    fun f q hf => shape_holdsDraft (Building.editWrite_leaves hw hf)
  cases e with
  | setTable schema table =>
    cases hcall
    exact hedit _ { p with schema, table } rfl
  | addColumn name updated =>
    cases hcall
    exact shape_holdsDraft (Building.addColumn_leaves hw name updated)
  | addUpdated name =>
    cases hcall
    exact hedit _ _ (p.addUpdated_write name)
  | setTarget names =>
    cases hcall
    exact shape_holdsDraft (Building.setTarget_leaves hw names)
  | addRecord record =>
    cases hcall
    exact hedit _ { p with records := p.records ++ [record] } rfl
  | addCondition column value =>
    cases hcall
    exact hedit _ _ (p.addCondition_write column value)

end WriteCall

namespace Store

/-- A store with a write builder that was made for a schema and then edited by name. In between,
anything may happen to the store that leaves the builder as it is. -/
inductive Edited (h : Handle) (schema : Option String) : List WriteEdit → Store → Prop where
  | made {s t : Store} {session dialect : Value}
      (hschema : Building.usualSchema s session = .ok (.ofName schema))
      (hmade : Building.newWrite session dialect s = (.ok h, t)) : Edited h schema [] t
  | call {σ : Type} {edits : List WriteEdit} {w : Workspace σ}
      (hw : Edited h schema edits w.store) {e : WriteEdit} {b : Backend σ}
      {callback : Option (Callback σ)} {signature : Signature} {t : Task σ Reply}
      (hcall : WriteCall.ofName? b h e.arguments callback e.name = some (signature, t)) :
      Edited h schema (edits ++ [e]) (t w).2.store
  | elsewhere {edits : List WriteEdit} {s t : Store} (hs : Edited h schema edits s)
      (hsame : t.writes[h]? = s.writes[h]?) : Edited h schema edits t

variable {h : Handle} {schema : Option String} {edits : List WriteEdit} {s : Store}

theorem newWrite_holdsDraft {t : Store} {session dialect : Value}
    (hschema : Building.usualSchema s session = .ok (.ofName schema))
    (hmade : Building.newWrite session dialect s = (.ok h, t)) :
    t.HoldsDraft h (Draft.ofEdits schema []) := by
  cases hrequested : requestedDialect dialect with
  | error f =>
    have hrefused : Building.newWrite session dialect s = (.error f, s) := by
      simp [Building.newWrite, Fallible.bind_apply, hrequested]
    cases hrefused.symm.trans hmade
  | ok asked =>
    let made : WriteBuilder := { session, dialect := asked, write := { schema := .ofName schema } }
    have hnew : Building.newWrite session dialect s =
        (.ok s.writes.size, { s with writes := s.writes.push made }) := by
      simp only [Building.newWrite, Fallible.bind_apply, Fallible.ofExcept_apply,
        Fallible.view_apply, hrequested, hschema, id]
      rfl
    cases hnew.symm.trans hmade
    exact ⟨made, Array.getElem?_push_size, rfl⟩

/-- **What a builder holds is what the edits say.** -/
theorem Edited.holdsDraft (hs : s.Edited h schema edits) :
    s.HoldsDraft h (Draft.ofEdits schema edits) := by
  induction hs with
  | made hschema hmade => exact newWrite_holdsDraft hschema hmade
  | call _ hcall ih =>
    rw [Draft.ofEdits_concat]
    exact WriteCall.edits_apply hcall ih
  | elsewhere _ hsame ih => rwa [HoldsDraft, hsame]

/-- Edits by name, one after another. -/
def editAll {σ : Type} (b : Backend σ) (h : Handle) : List WriteEdit → Workspace σ → Workspace σ
  | [], w => w
  | e :: rest, w =>
    match WriteCall.ofName? b h e.arguments none e.name with
    | some (_, t) => editAll b h rest (t w).2
    | none => editAll b h rest w

/-- Every edit is a call, so any sequence of them can be made. -/
theorem Edited.editAll {σ : Type} (b : Backend σ) {w : Workspace σ}
    (hw : w.store.Edited h schema edits) (more : List WriteEdit) :
    (editAll b h more w).store.Edited h schema (edits ++ more) := by
  induction more generalizing w edits with
  | nil => rwa [List.append_nil]
  | cons e rest ih =>
    rw [List.append_cons edits e rest, Store.editAll]
    split
    · rename_i hcall
      exact ih (hw.call hcall)
    · rename_i hnone
      cases e <;> cases hnone

/-- A statement shows what the edits say, with the present contents of the values that they gave. -/
theorem Edited.compileWrite_eq (hs : s.Edited h schema edits) (kind : WriteKind) (d : Dialect) :
    s.compileWrite h kind d = ((Draft.ofEdits schema edits).map s.settle).write.compile kind d := by
  obtain ⟨held, hheld, hp⟩ := hs.holdsDraft
  have hwrite : (s.write h).write = (Draft.ofEdits schema edits).write := by
    rw [Store.write, Array.getD_eq_getD_getElem?, hheld, Option.getD_some, hp]
  rw [compileWrite, hwrite, Draft.write_map]
  · exact settleWithin_null _ _ _
  · exact settleWithin_text _ _ _

/-! ### A builder on its own -/

/-- The workspace after edits of its only write builder. -/
def afterEdits (edits : List WriteEdit) : Workspace Rehearsal :=
  editAll Rehearsal.backend 0 edits ⟨(Building.newWrite .null .null {}).2, {}, []⟩

theorem edited_afterEdits (edits : List WriteEdit) : (afterEdits edits).store.Edited 0 none edits :=
  Edited.editAll Rehearsal.backend (w := ⟨_, {}, []⟩)
    (.made rfl (rfl : Building.newWrite .null .null {} = (.ok 0, _))) edits

end Store

end FluentSql
