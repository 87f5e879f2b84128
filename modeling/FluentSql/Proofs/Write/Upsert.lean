import FluentSql.Proofs.Write.Edits

/-!
# The columns of an upsert

An insert may update the rows that it meets. The columns that it then assigns are those that were
flagged, each once, in the order in which they came (`Store.upserts_assign_what_is_flagged`). A
column that is flagged as it is declared is one that the insert has a value for. A column may also
be flagged by a call of its own, and nothing makes sure that it is declared
(`Store.upsert_assigns_undeclared_column`).
-/

namespace FluentSql

/-- Without repetitions, texts stand in the order in which each came first. -/
theorem pairwise_idxOf_eraseDups (names : List String) :
    names.eraseDups.Pairwise fun a b => names.idxOf a < names.idxOf b := by
  induction names using List.reverseRecOn with
  | nil => exact .nil
  | append_singleton names name ih =>
    have hold : ∀ a ∈ names.eraseDups, (names ++ [name]).idxOf a = names.idxOf a :=
      fun a ha => List.idxOf_append_of_mem (List.mem_eraseDups.mp ha)
    have hfirst : names.eraseDups.Pairwise fun a b =>
        (names ++ [name]).idxOf a < (names ++ [name]).idxOf b :=
      ih.imp_of_mem fun ha hb hlt => by rwa [hold _ ha, hold _ hb]
    rw [eraseDups_concat]
    split
    · exact hfirst
    · rename_i hnew
      refine List.pairwise_append.mpr ⟨hfirst, List.pairwise_singleton _ _, ?_⟩
      rintro a ha _ hname
      rw [List.mem_singleton.mp hname, hold a ha, List.idxOf_append_of_notMem hnew]
      have hlt : names.idxOf a < names.length :=
        List.idxOf_lt_length_iff.mpr (List.mem_eraseDups.mp ha)
      omega

open WriteEdit

namespace WriteEdit

/-- The columns that an insert assigns in rows that it meets: those that several edits flag, each
once. -/
def assigned (edits : List WriteEdit) : List String :=
  (flagged edits).eraseDups

theorem mem_assigned {edits : List WriteEdit} {column : String} :
    column ∈ assigned edits ↔ .addColumn column true ∈ edits ∨ .addUpdated column ∈ edits := by
  rw [assigned, List.mem_eraseDups, flagged, List.mem_flatMap]
  constructor
  · rintro ⟨e, he, hcolumn⟩
    cases e with
    | addColumn name updated =>
      cases updated with
      | false => cases hcolumn
      | true =>
        obtain rfl := List.mem_singleton.mp hcolumn
        exact .inl he
    | addUpdated name =>
      obtain rfl := List.mem_singleton.mp hcolumn
      exact .inr he
    | _ => cases hcolumn
  · rintro (he | he)
    · exact ⟨_, he, List.mem_singleton_self _⟩
    · exact ⟨_, he, List.mem_singleton_self _⟩

/-- What is assigned is declared, if it is where it was flagged by a call of its own. -/
theorem assigned_subset_iff (edits : List WriteEdit) :
    (∀ column ∈ assigned edits, column ∈ declared edits) ↔
      ∀ column, .addUpdated column ∈ edits → column ∈ declared edits := by
  constructor
  · exact fun h column hmem => h column (mem_assigned.mpr (.inr hmem))
  · intro h column hmem
    rcases mem_assigned.mp hmem with hadded | hflagged
    · exact List.mem_flatMap.mpr ⟨_, hadded, List.mem_singleton_self column⟩
    · exact h column hflagged

end WriteEdit

namespace Store

variable {s : Store} {h : Handle} {schema : Option String} {edits : List WriteEdit}

/-- **An upsert assigns what is flagged.** Take a write builder after any edits, and any dialect in
which its insert is given. Its update clause assigns the columns that were flagged, each once, in
the order in which they were flagged first. All of them are declared exactly if those are that were
flagged by a call of their own. -/
theorem upserts_assign_what_is_flagged (hs : s.Edited h schema edits) {d : Dialect}
    {statement : Statement} (hinsert : s.compileWrite h .insert d = .ok statement) :
    statement.sql = (Draft.ofEdits schema edits).front d ++ String.intercalate ", "
        ((added edits).map fun _ => (Draft.ofEdits schema edits).group) ++
        (if flagged edits = [] then ""
          else " " ++ (d.upsertLead (targeted edits) ++
            d.assignments d.inserted (assigned edits))) ∧
      (assigned edits).Nodup ∧ (∀ column, column ∈ assigned edits ↔ column ∈ flagged edits) ∧
      (assigned edits).Pairwise (fun a b => (flagged edits).idxOf a < (flagged edits).idxOf b) ∧
      ((∀ column ∈ assigned edits, column ∈ declared edits) ↔
        ∀ column, .addUpdated column ∈ edits → column ∈ declared edits) := by
  refine ⟨?_, nodup_eraseDups _, fun column => List.mem_eraseDups, pairwise_idxOf_eraseDups _,
    assigned_subset_iff edits⟩
  rw [hs.compileWrite_eq] at hinsert
  have hsql := Draft.sql_of_compileInsert _ d hinsert
  have hclause : (Draft.ofEdits schema edits).clause d = if flagged edits = [] then ""
      else " " ++ (d.upsertLead (targeted edits) ++ d.assignments d.inserted (assigned edits)) :=
    if_congr (eraseDups_eq_nil_iff _) rfl rfl
  rw [hsql, ← hclause, Draft.map, List.map_map]
  rfl

/-- A customer whose name is flagged twice. -/
def customer : List WriteEdit :=
  [.addColumn "email" false, .addUpdated "name", .addColumn "total" true, .addColumn "name" true,
    .addRecord (.record [(.text "name", .text "John")])]

/-- The name is assigned once, before the total, and both are declared. -/
theorem upserts_assign_what_is_flagged_customer :
    ∃ statement, (afterEdits customer).store.compileWrite 0 .insert .mysql = .ok statement ∧
      assigned customer = ["name", "total"] ∧ ∀ column ∈ assigned customer,
        column ∈ declared customer := by
  obtain ⟨statement, hinsert⟩ : ∃ statement,
      (afterEdits customer).store.compileWrite 0 .insert .mysql = .ok statement := ⟨_, rfl⟩
  obtain ⟨-, -, -, -, hsubset⟩ :=
    upserts_assign_what_is_flagged (edited_afterEdits customer) hinsert
  refine ⟨statement, hinsert, by decide, hsubset.mpr fun column hmem => ?_⟩
  have hname : column = "name" := by simpa [customer] using hmem
  rw [hname]
  decide

/-- A column that is declared, and another one that is not, both flagged. -/
def halfDeclared : List WriteEdit :=
  [.setTable none "t", .addColumn "a" true, .addUpdated "b",
    .addRecord (.record [(.text "a", .int 1)])]

/-- **An upsert may assign a column that is not declared**, for which the insert has no value. -/
theorem upsert_assigns_undeclared_column :
    (afterEdits halfDeclared).store.Edited 0 none halfDeclared ∧
      (afterEdits halfDeclared).store.compileWrite 0 .insert .mysql =
        .ok ⟨"INSERT INTO `t` (`a`) VALUES (?) "
          ++ "ON DUPLICATE KEY UPDATE `a` = VALUES(`a`), `b` = VALUES(`b`)", [.int 1]⟩ ∧
      ¬∀ column ∈ assigned halfDeclared, column ∈ declared halfDeclared :=
  ⟨edited_afterEdits halfDeclared, rfl, by decide⟩

end Store

end FluentSql
