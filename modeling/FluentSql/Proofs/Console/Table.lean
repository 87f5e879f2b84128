import FluentSql.Proofs.Console.Printing
import FluentSql.Proofs.Console.Terminal
import FluentSql.Proofs.Entries
import FluentSql.Proofs.Text.Numeral
import FluentSql.Rehearsal
import Mathlib.Data.List.Forall2

/-!
# From a cursor to a table

The rows of a cursor become records under the names of their columns, and are laid out in columns
again when they are printed. In between, a name has room for one value: of several columns with the
same name, each shows the value of the last one, and if the names differ, nothing gets lost. The
cells are escaped, so a terminal that takes the names of the columns as marked-up text takes the
whole table. `Adapter.Sqlite.query_keeps_last` is the main result.
-/

namespace FluentSql

namespace Rows

/-- What is shown of a row has in each column the value of the last column of the same name. -/
structure KeepsLast (names : List String) (row shown : List Value) : Prop where
  length : shown.length = names.length
  value : ∀ {j l : ℕ}, names[l]? = names[j]? → (∀ m, l < m → names[m]? ≠ names[j]?) →
    shown[j]? = row[l]?

/-- What is left of a row under names. -/
def kept (names : List String) (row : List Value) : List Value :=
  names.map (lastFor (names.zip row))

/-- The record of a row under names. -/
def named (names : List String) (row : List Value) : Value :=
  .record ((putEntries [] (names.zip row)).map fun e => (.text e.1, e.2))

variable {names : List String} {row shown : List Value}

/-- The last place of a name is one of the places. -/
theorem lt_length_of_last {j l : ℕ} (h : names[l]? = names[j]?)
    (hlast : ∀ m, l < m → names[m]? ≠ names[j]?) : l < names.length := by
  by_contra hl
  rw [List.getElem?_eq_none (Nat.le_of_not_lt hl)] at h
  rw [← h] at hlast
  exact hlast (l + 1) (by omega) (List.getElem?_eq_none (by omega))

/-- A name has a last place. -/
theorem exists_last {name : String} (h : name ∈ names) :
    ∃ l : ℕ, names[l]? = some name ∧ ∀ m, l < m → names[m]? ≠ some name := by
  obtain ⟨behind, before, hreverse, hnot⟩ := List.eq_append_cons_of_mem (List.mem_reverse.mpr h)
  have hnames : names = before.reverse ++ name :: behind.reverse := by
    rw [← List.reverse_reverse names, hreverse]
    simp
  refine ⟨before.length, by rw [hnames]; simp, fun m hm hsame => hnot ?_⟩
  rw [hnames, List.getElem?_append_right (by simp; omega), List.length_reverse,
    List.getElem?_cons, if_neg (by omega)] at hsame
  exact List.mem_reverse.mp (List.mem_of_getElem? hsame)

namespace KeepsLast

/-- So there is one line only. -/
theorem unique {other : List Value} (h : KeepsLast names row shown)
    (hother : KeepsLast names row other) : shown = other := by
  refine List.ext_getElem? fun j => ?_
  rcases hj : names[j]? with _ | name
  · have hlength : names.length ≤ j := List.getElem?_eq_none_iff.mp hj
    rw [List.getElem?_eq_none (h.length ▸ hlength), List.getElem?_eq_none (hother.length ▸ hlength)]
  · obtain ⟨l, hl, hlast⟩ := exists_last (List.mem_of_getElem? hj)
    rw [← hj] at hl hlast
    rw [h.value hl hlast, hother.value hl hlast]

/-- With different names, it is the row itself. -/
theorem refl_of_nodup (hnames : names.Nodup) (hwidth : row.length = names.length) :
    KeepsLast names row row := by
  refine ⟨hwidth, fun {j l} hsame hlast => ?_⟩
  rw [(List.getElem?_inj (lt_length_of_last hsame hlast) hnames).mp hsame]

end KeepsLast

theorem keepsLast_kept (hwidth : row.length = names.length) :
    KeepsLast names row (kept names row) := by
  have hnames : (names.zip row).map Prod.fst = names := List.map_fst_zip (Nat.le_of_eq hwidth.symm)
  refine ⟨List.length_map _, fun {j l} hsame hlast => ?_⟩
  have hl := lt_length_of_last hsame hlast
  have hname : names[l]? = some names[l] := List.getElem?_eq_getElem hl
  rw [← hsame, hname] at hlast
  have hvalue : row[l]? = some row[l] := List.getElem?_eq_getElem (hwidth ▸ hl)
  have hplace : (names.zip row)[l]? = some (names[l], row[l]) :=
    List.getElem?_zip_eq_some.mpr ⟨hname, hvalue⟩
  rw [kept, List.getElem?_map, ← hsame, hname, Option.map_some, hvalue,
    lastFor_eq hplace fun m hm => hnames.symm ▸ hlast m hm]

/-! ### Records -/

theorem recordOf_texts (names : List String) (row : List Value) :
    recordOf (names.map .text) row = .ok (named names row) := by
  rw [recordOf, List.zip_map_left, mapM_eq_ok_map (g := id) fun e he => ?_]
  · rw [List.map_id, named, ← putEntries_map_text]
    rfl
  · obtain ⟨e, -, rfl⟩ := List.mem_map.mp he
    simp only [Prod.map, checkKey_text]
    rfl

theorem get?_named (names : List String) (row : List Value) (name : String) :
    (named names row).get? (.text name) = .ok ((names.zip row).reverse.lookup name) := by
  rw [named, Value.get?, checkKey_text, lookup_map_text, lookup_putEntries, List.lookup_nil,
    Option.or_none]
  rfl

/-- Under each name there is the value that is kept in its column. -/
theorem mapM_get?_named (hwidth : row.length = names.length) :
    names.mapM (fun name => (named names row).get? (.text name)) =
      .ok ((kept names row).map some) := by
  have hnames : (names.zip row).map Prod.fst = names :=
    List.map_fst_zip (Nat.le_of_eq hwidth.symm)
  rw [kept, List.map_map]
  refine mapM_eq_ok_map fun name hname => ?_
  rw [get?_named]
  rcases hlookup : (names.zip row).reverse.lookup name with _ | value
  · obtain ⟨e, he, rfl⟩ := List.mem_map.mp (hnames.symm ▸ hname : name ∈ (names.zip row).map _)
    have hne := List.lookup_eq_none_iff.mp hlookup e (List.mem_reverse.mpr he)
    simp at hne
  · rw [Function.comp_apply, lastFor, hlookup]
    rfl

end Rows

/-! ### Printing -/

namespace Console

variable (names : List String)

theorem cells_named (row : List Value) :
    cells (names.map .text) (Rows.named names row) = (Rows.kept names row).mapM cell := by
  rw [cells, Rows.kept, List.mapM_map, List.mapM_map]
  congr 1
  funext name
  rw [Function.comp_apply, Rows.get?_named]
  rfl

/-- The heads of columns are their names. -/
theorem exists_heads :
    ∃ columns, heads (names.map .text) = .ok columns ∧ columns.map Column.header = names := by
  let style (name : String) : Option String :=
    if (names.map Value.text).head?.any ((Value.text name).same ·) then some "cyan" else none
  refine ⟨names.map fun name => ⟨name, style name⟩, ?_, ?_⟩
  · rw [heads, List.mapM_map]
    exact mapM_eq_ok_map fun _ _ => rfl
  · rw [List.map_map]
    exact List.map_id names

theorem exists_printRows_named (hnames : names ≠ []) (rows : List (List Value))
    (rowcount lastrowid : Value) :
    ∃ columns : List Column, columns.map Column.header = names ∧
      printRows ⟨rows.map (Rows.named names), names.map .text, rowcount, lastrowid⟩ =
        ((rows.map (Rows.kept names)).mapM (List.mapM cell)).map fun lines =>
          [.table true columns lines,
            .line ("[dim]" ++ toString rows.length ++ " row(s)[/dim]")] := by
  obtain ⟨columns, hcolumns, hheaders⟩ := exists_heads names
  have hlines : (rows.map (Rows.named names)).mapM (cells (names.map .text)) =
      (rows.map (Rows.kept names)).mapM (List.mapM cell) := by
    rw [List.mapM_map, List.mapM_map]
    congr 1
    funext row
    exact cells_named names row
  obtain ⟨first, others, rfl⟩ := List.exists_cons_of_ne_nil hnames
  refine ⟨columns, hheaders, ?_⟩
  rw [← hlines]
  simp only [printRows, columnsOf, List.map_cons, List.isEmpty_cons, Bool.false_eq_true, if_false]
  rw [List.map_cons] at hcolumns
  rw [hcolumns, List.length_map]
  rcases (rows.map (Rows.named (first :: others))).mapM
      (cells (.text first :: others.map .text)) with _ | lines
  · rfl
  · rfl

/-- A terminal takes every cell. -/
theorem Terminal.Renders.gives_cell {t : Terminal} (ht : t.Renders) (v : Value) :
    Gives (cell v) fun text => t.take (.line text) = .ok () := by
  rw [cell]
  split
  · exact .ok (ht.dimmed (s := "NULL") (by decide))
  · exact .map (.trivial _) fun shown _ => ht.escaped shown

/-- A terminal that takes the names of columns prints the table, and the count of rows below it. -/
theorem Terminal.Renders.print_table {t : Terminal} (ht : t.Renders) {columns : List Column}
    (hcolumns : ∀ c ∈ columns, t.take (.line c.header) = .ok ()) {lines : List (List Value)}
    {texts : List (List String)} (htexts : lines.mapM (List.mapM cell) = .ok texts) (n : Nat) :
    t.print [.table true columns texts, .line ("[dim]" ++ toString n ++ " row(s)[/dim]")] =
      ([.table true columns texts, .line ("[dim]" ++ toString n ++ " row(s)[/dim]")], none) := by
  have hrows : ∀ row ∈ texts, ∀ text ∈ row, t.take (.line text) = .ok () :=
    (Gives.mapM (fun line _ row hrow => (Gives.mapM (fun v _ => ht.gives_cell v) row hrow).2)
      texts htexts).2
  have hcount : "[dim]" ++ toString n ++ " row(s)[/dim]" =
      "[dim]" ++ (toString n ++ " row(s)") ++ "[/dim]" := by
    rw [String.append_assoc, String.append_assoc, String.append_assoc]
    rfl
  have hplain : '[' ∉ (toString n ++ " row(s)").toList := by
    rw [String.toList_append, Nat.toString_eq_ofList_toDigits, String.toList_ofList]
    exact List.not_mem_append (Text.notMem_toDigits rfl) (by decide)
  refine print_of_takes fun p hp => ?_
  rcases List.mem_pair.mp hp with rfl | rfl
  · exact ht.table (fun _ => hcolumns) hrows
  · rw [hcount]
    exact ht.dimmed hplain

end Console

/-! ### The rows of a cursor -/

namespace Adapter.Sqlite

theorem rowRecord_texts (names : List String) (row : List Value) :
    rowRecord (names.map .text) row = if row.length = names.length then .ok (Rows.named names row)
      else .error (.rowWidth (row.length < names.length)) := by
  rw [rowRecord, Rows.recordOf_texts, List.length_map]
  rfl

/-- Rows as wide as there are names become their records. -/
theorem records_texts {names : List String} {rows : List (List Value)}
    (h : ∀ row ∈ rows, row.length = names.length) :
    records (names.map .text) rows = .ok (rows.map (Rows.named names)) := by
  refine mapM_eq_ok_map fun row hrow => ?_
  rw [rowRecord_texts, if_pos (h row hrow)]

/-- A row of another width is not cut to size. -/
theorem exists_records_eq_error {names : List String} {rows : List (List Value)}
    (h : ∃ row ∈ rows, row.length ≠ names.length) :
    ∃ row ∈ rows, row.length ≠ names.length ∧
      records (names.map .text) rows = .error (.rowWidth (row.length < names.length)) := by
  obtain ⟨wide, hmem, hwide⟩ := h
  rcases hrecords : records (names.map .text) rows with e | values
  · obtain ⟨row, hrow, hfault⟩ := exists_of_mapM_error hrecords
    rw [rowRecord_texts] at hfault
    split at hfault
    · cases hfault
    · next hwidth =>
      obtain rfl := Except.error.inj hfault
      exact ⟨row, hrow, hwidth, rfl⟩
  · obtain ⟨value, hvalue⟩ := exists_of_mapM_ok hrecords hmem
    rw [rowRecord_texts, if_neg hwide] at hvalue
    cases hvalue

variable {σ : Type} {k : Client σ} {c : Connection} {sql params : Value} {arguments : List Value}
  {cursor : Cursor} {rows : List (List Value)} {w w' w'' : σ}

/-- A statement whose rows are fetched gives the records that they make. -/
theorem query_eq_records (harguments : params.itemsIfGiven = .ok arguments)
    (hexecute : k.execute c sql (some (.list arguments)) w = (.ok cursor, w'))
    (hfetch : k.fetchAll c cursor w' = (.ok rows, w'')) :
    query k c sql params w = ((records (cursor.columns.getD []) rows).map fun records =>
      ⟨records, cursor.columns.getD [], cursor.rowcount, cursor.lastrowid⟩, w'') := by
  rw [query, harguments, Fallible.bind_apply_of_ok (Fallible.ofExcept_apply _ w),
    Fallible.bind_apply_of_ok hexecute, Fallible.bind_apply_of_ok hfetch, Fallible.bind_apply,
    Fallible.ofExcept_apply]
  rcases records (cursor.columns.getD []) rows with e | values
  · rfl
  · rfl

/-- Rows are given under names as lines: each line keeps the last value of each name, the records
have the values of the lines under the names, and these are what is printed in the columns. Names
may hold tags, and the terminal prints the table if it takes the names for headers. -/
structure Tabulates (t : Console.Terminal) (names : List String) (rows lines : List (List Value))
    (given : Rows) : Prop where
  fields : given.fields = names.map .text
  keepsLast : List.Forall₂ (Rows.KeepsLast names) rows lines
  keepsAll : names.Nodup → lines = rows
  records : List.Forall₂ (fun record line =>
    names.mapM (fun name => record.get? (.text name)) = .ok (line.map some)) given.rows lines
  printed : names ≠ [] → ∃ columns : List Console.Column,
    columns.map Console.Column.header = names ∧
      Console.printRows given = (lines.mapM (List.mapM Console.cell)).map fun cells =>
        [.table true columns cells, .line ("[dim]" ++ toString rows.length ++ " row(s)[/dim]")]
  shown : names ≠ [] → (∀ name ∈ names, t.take (.line name) = .ok ()) → ∀ items,
    Console.printRows given = .ok items → t.print items = (items, none)

theorem tabulates_kept {t : Console.Terminal} (ht : t.Renders) {names : List String}
    (h : ∀ row ∈ rows, row.length = names.length) (rowcount lastrowid : Value) :
    Tabulates t names rows (rows.map (Rows.kept names))
      ⟨rows.map (Rows.named names), names.map .text, rowcount, lastrowid⟩ where
  fields := rfl
  keepsLast := List.forall₂_map_right_iff.mpr
    (List.forall₂_same.mpr fun row hrow => Rows.keepsLast_kept (h row hrow))
  keepsAll hnames := by
    have hkept : ∀ row ∈ rows, Rows.kept names row = row := fun row hrow =>
      (Rows.keepsLast_kept (h row hrow)).unique (.refl_of_nodup hnames (h row hrow))
    rw [List.map_congr_left hkept, List.map_id']
  records := List.forall₂_map_left_iff.mpr (List.forall₂_map_right_iff.mpr
    (List.forall₂_same.mpr fun row hrow => Rows.mapM_get?_named (h row hrow)))
  printed hnames := Console.exists_printRows_named names hnames rows rowcount lastrowid
  shown hnames htakes items hitems := by
    obtain ⟨columns, rfl, hprinted⟩ :=
      Console.exists_printRows_named names hnames rows rowcount lastrowid
    rw [hprinted] at hitems
    rcases htexts : (rows.map (Rows.kept (columns.map Console.Column.header))).mapM
        (List.mapM Console.cell) with f | texts
    · rw [htexts] at hitems
      cases hitems
    · rw [htexts] at hitems
      obtain rfl := Except.ok.inj hitems
      exact ht.print_table (fun c hc => htakes _ (List.mem_map_of_mem hc)) htexts rows.length

/-- **From a cursor to a table.** Rows as wide as there are columns are given under their names,
with the value of the last column of each name, and with all values if the names differ; and a
terminal prints them in a table, if it takes the names. With a row of another width the statement
fails. -/
theorem query_keeps_last {t : Console.Terminal} (ht : t.Renders) {names : List String}
    (harguments : params.itemsIfGiven = .ok arguments)
    (hexecute : k.execute c sql (some (.list arguments)) w = (.ok cursor, w'))
    (hfetch : k.fetchAll c cursor w' = (.ok rows, w''))
    (hcolumns : cursor.columns.getD [] = names.map .text) :
    ((∀ row ∈ rows, row.length = names.length) → ∃ given lines,
      query k c sql params w = (.ok given, w'') ∧ Tabulates t names rows lines given) ∧
    ((∃ row ∈ rows, row.length ≠ names.length) → ∃ row ∈ rows, row.length ≠ names.length ∧
      query k c sql params w = (.error (.rowWidth (row.length < names.length)), w'')) := by
  have hquery := query_eq_records harguments hexecute hfetch
  rw [hcolumns] at hquery
  refine ⟨fun hwidth => ?_, fun hwidth => ?_⟩
  · rw [records_texts hwidth] at hquery
    exact ⟨_, _, hquery, tabulates_kept ht hwidth _ _⟩
  · obtain ⟨row, hrow, hne, hrecords⟩ := exists_records_eq_error hwidth
    rw [hrecords] at hquery
    exact ⟨row, hrow, hne, hquery⟩

/-- What a statement leaves behind that gives rows under names. -/
def cursorOf (names : List String) (rows : List (List Value)) : Cursor where
  columns := some (names.map .text)
  rows := rows

/-- A rehearsal in which a statement gives rows. -/
def rehearsed (names : List String) (rows : List (List Value)) : Rehearsal where
  outcomes := [("execute", [.answer (cursorOf names rows)])]

theorem exists_rehearsed (names : List String) (rows : List (List Value)) (c : Connection)
    (sql : Value) (arguments : Option Value) :
    ∃ w w', Rehearsal.client.execute c sql arguments (rehearsed names rows) =
        (.ok (cursorOf names rows), w) ∧
      Rehearsal.client.fetchAll c (cursorOf names rows) w = (.ok rows, w') :=
  ⟨_, _, rfl, rfl⟩

/-- Of two columns that are named alike, both show the value of the second one; and a row that is
too short is reported. The terminal is one that would refuse tags. -/
theorem query_keeps_last_totals :
    let t := Console.Terminal.strict (.raised .runtime "markup")
    let names := ["id", "total", "id"]
    let rows : List (List Value) := [[.int 1, .int 20, .int 3], [.int 2, .null, .text "[/x]"]]
    let query (rows : List (List Value)) :=
      (query Rehearsal.client 1 (.text "SELECT *") .null (rehearsed names rows)).1
    t.Renders ∧
    (∃ given, query rows = .ok given ∧ given.fields = names.map .text ∧
      ∃ columns : List Console.Column, columns.map Console.Column.header = names ∧
        let items : List Console.Printed :=
          [.table true columns [["3", "20", "3"], ["\\[/x]", "[dim]NULL[/dim]", "\\[/x]"]],
            .line "[dim]2 row(s)[/dim]"]
        Console.printRows given = .ok items ∧ t.print items = (items, none)) ∧
    query (rows ++ [[.int 3]]) = .error (.rowWidth true) := by
  intro t names rows query
  have ht : t.Renders := Console.Terminal.renders_strict _
  have hwidth : ∀ row ∈ rows, row.length = names.length := by decide
  have hnone : Value.null.itemsIfGiven = .ok [] := rfl
  refine ⟨ht, ?_, ?_⟩
  · obtain ⟨w, w', hexecute, hfetch⟩ :=
      exists_rehearsed names rows 1 (.text "SELECT *") (some (.list []))
    obtain ⟨hwide, -⟩ := query_keeps_last ht hnone hexecute hfetch rfl
    obtain ⟨given, lines, hgiven, htable⟩ := hwide hwidth
    obtain rfl : lines = rows.map (Rows.kept names) :=
      List.right_unique_forall₂' (fun _ _ _ h => h.unique) htable.keepsLast
        (tabulates_kept ht hwidth .null .null).keepsLast
    obtain ⟨columns, hheaders, hprinted⟩ := htable.printed (by decide)
    have hcount : "[dim]" ++ toString rows.length ++ " row(s)[/dim]" = "[dim]2 row(s)[/dim]" := by
      decide
    rw [hcount] at hprinted
    have hreadable : ∀ name ∈ names, Console.isReadable name = true := by decide
    have htakes : ∀ name ∈ names, t.take (.line name) = .ok () := fun name hname =>
      Console.Terminal.strict_takes_line.mpr (hreadable name hname)
    exact ⟨given, congrArg Prod.fst hgiven, htable.fields, columns, hheaders, hprinted,
      htable.shown (by decide) htakes _ hprinted⟩
  · obtain ⟨w, w', hexecute, hfetch⟩ :=
      exists_rehearsed names (rows ++ [[.int 3]]) 1 (.text "SELECT *") (some (.list []))
    obtain ⟨-, hnarrow⟩ := query_keeps_last ht hnone hexecute hfetch rfl
    obtain ⟨row, hrow, hne, hfails⟩ := hnarrow (by decide)
    obtain rfl : row = [.int 3] := by
      rcases List.mem_append.mp hrow with hrow | hrow
      · exact absurd (hwidth row hrow) hne
      · exact List.mem_singleton.mp hrow
    exact congrArg Prod.fst hfails

/-- So a value can get lost between the cursor and the rows. -/
theorem query_loses_values :
    ¬ ∀ (k : Client Rehearsal) (c : Connection) (sql params : Value) (arguments : List Value)
      (cursor : Cursor) (rows : List (List Value)) (names : List String) (w w' w'' : Rehearsal),
      params.itemsIfGiven = .ok arguments →
      k.execute c sql (some (.list arguments)) w = (.ok cursor, w') →
      k.fetchAll c cursor w' = (.ok rows, w'') → cursor.columns.getD [] = names.map .text →
      (∀ row ∈ rows, row.length = names.length) →
      ∃ given, query k c sql params w = (.ok given, w'') ∧
        List.Forall₂ (fun record row =>
          names.mapM (fun name => record.get? (.text name)) = .ok (row.map some))
          given.rows rows := by
  intro h
  obtain ⟨w, w', hexecute, hfetch⟩ :=
    exists_rehearsed ["id", "id"] [[.int 1, .int 2]] 1 (.text "SELECT *") (some (.list []))
  obtain ⟨given, -, hrows⟩ := h _ _ _ .null _ _ _ _ _ _ _ rfl hexecute hfetch rfl (by decide)
  obtain ⟨record, _, hfields, -, -⟩ := List.forall₂_cons_right_iff.mp hrows
  -- a record has one value under a name
  rcases hid : record.get? (.text "id") with f | value
  · rw [List.mapM_cons, hid] at hfields
    cases hfields
  · rw [List.mapM_cons, List.mapM_cons, hid] at hfields
    cases hfields

end Adapter.Sqlite

end FluentSql
