import FluentSql.Console
import FluentSql.Proofs.Results
import FluentSql.Proofs.Session.Parallel

/-!
# What can be printed

The rows of a statement can be printed, whole or narrowed, if everything in them can be displayed
and the names of their columns can be looked up: they are `Presentable`. `exists_printYield` is the
main result. Rows that come of a database are records of the columns, so they can always be
narrowed (`Adapter.query_records`).
-/

namespace FluentSql

/-- A value that can be displayed. -/
def Value.Shows (v : Value) : Prop :=
  ∃ shown, v.display = .ok shown

/-- A value that can name a column: it can be displayed, and looked up in a row. -/
structure Value.NamesColumn (v : Value) : Prop where
  shows : v.Shows
  isKey : v.checkKey = .ok ()

/-- A row that is a record with names that can name columns, and values that can be displayed. -/
structure Value.IsRow (v : Value) (entries : List (Value × Value)) : Prop where
  eq_record : v = .record entries
  names : ∀ e ∈ entries, e.1.NamesColumn
  values : ∀ e ∈ entries, e.2.Shows

/-- Rows whose parts can all be displayed. -/
structure Rows.Presentable (r : Rows) : Prop where
  rowcount : r.rowcount.Shows
  fields : ∀ c ∈ r.fields, c.NamesColumn
  rows : ∀ row ∈ r.rows, ∃ entries, row.IsRow entries

/-- A record. -/
def Value.IsRecord (v : Value) : Prop :=
  ∃ entries, v = .record entries

theorem Value.Shows.null : Value.null.Shows :=
  ⟨_, rfl⟩

theorem Value.shows_of_quoted {v : Value} {shown : String} (h : v.quoted = .ok shown) :
    v.Shows := by
  cases v with
  | text s => exact ⟨s, rfl⟩
  | join j => exact ⟨_, rfl⟩
  | _ => exact ⟨shown, h⟩

/-- If a record can be displayed, then so can its keys and values. -/
theorem Value.shows_of_record {entries : List (Value × Value)} (h : (record entries).Shows) :
    ∀ e ∈ entries, e.1.Shows ∧ e.2.Shows := by
  obtain ⟨shown, hshown⟩ := h
  have hentries : ∃ parts, quotedEntries entries = .ok parts := by
    rcases hparts : quotedEntries entries with f | parts
    · rw [display, quoted, hparts] at hshown
      · cases hshown
      all_goals nofun
    · exact ⟨parts, rfl⟩
  clear hshown
  obtain ⟨parts, hparts⟩ := hentries
  induction entries generalizing parts with
  | nil => exact nofun
  | cons e entries ih =>
    obtain ⟨k, v⟩ := e
    rw [quotedEntries] at hparts
    rcases hk : k.quoted with f | key
    · rw [hk] at hparts
      cases hparts
    rcases hv : v.quoted with f | item
    · rw [hk, hv] at hparts
      cases hparts
    rcases hrest : quotedEntries entries with f | others
    · rw [hk, hv, hrest] at hparts
      cases hparts
    · exact List.forall_mem_cons.mpr ⟨⟨shows_of_quoted hk, shows_of_quoted hv⟩, ih others hrest⟩

theorem exists_mem_of_lookup {entries : List (Value × Value)} {key v : Value}
    (h : entries.lookup key = some v) : ∃ k, (k, v) ∈ entries := by
  induction entries with
  | nil => cases h
  | cons e entries ih =>
    rw [List.lookup_cons] at h
    split at h
    · obtain rfl := Option.some.inj h
      exact ⟨e.1, List.mem_cons_self⟩
    · obtain ⟨k, hk⟩ := ih h
      exact ⟨k, List.mem_cons_of_mem e hk⟩

/-! ### Narrowing -/

/-- What rows are narrowed to by a position and a column's name: nothing, one of the rows, or a
value of one of them. -/
inductive Narrows (rows : List Value) : Option Value → Prop where
  | all : Narrows rows none
  | row {row : Value} (h : row ∈ rows) : Narrows rows (some row)
  | value {entries : List (Value × Value)} {key v : Value} (h : .record entries ∈ rows)
      (hv : (key, v) ∈ entries) : Narrows rows (some v)

theorem checkKey_text (name : String) : (Value.text name).checkKey = .ok () := by
  simp [Value.checkKey, Value.changeable?]

/-- A record has a value under a text, or has not. -/
theorem field?_record (entries : List (Value × Value)) (name : String) :
    (Value.record entries).field? (.text name) = .ok (entries.lookup (.text name)) := by
  rcases hlookup : entries.lookup (Value.text name) with _ | v <;>
    simp [Value.field?, Value.holds, Value.item, checkKey_text, hlookup, bind, Except.bind,
      Except.map]

/-- An integer position has a row, or lies outside of the rows. -/
theorem position_cases (rows : List Value) (n : Int) :
    reaches (.int n) (.list rows) = .ok false ∨
      ∃ row ∈ rows, reaches (.int n) (.list rows) = .ok true ∧
        (Value.list rows).item (.int n) = .ok row := by
  by_cases hnegative : n < 0
  · exact .inl (by simp [reaches, hnegative])
  by_cases hlength : n < rows.length
  · have hplace : n.toNat < rows.length := by omega
    refine .inr ⟨rows[n.toNat], List.getElem_mem hplace, ?_, ?_⟩
    · simp [reaches, Value.size?, Value.items, hnegative, hlength]
    · simp [Value.item, Value.asInt?, Value.items, Value.itemAt, hnegative, hplace, bind,
        Except.bind]
  · exact .inl (by simp [reaches, Value.size?, Value.items, hnegative, hlength])

/-- Records can be narrowed by a position and by a column's name. -/
theorem exists_narrow {rows : List Value} (hrows : ∀ row ∈ rows, row.IsRecord)
    (index : Option Int) (column : Option String) :
    ∃ found, narrow (.list rows) (index.elim .null .int) (column.elim .null .text) = .ok found ∧
      Narrows rows found := by
  rcases index with _ | n
  · exact ⟨none, rfl, .all⟩
  rcases position_cases rows n with hreached | ⟨row, hrow, hreached, hitem⟩
  · refine ⟨none, ?_, .all⟩
    simp only [Option.elim, narrow, hreached]
    rfl
  obtain ⟨entries, rfl⟩ := hrows row hrow
  rcases column with _ | name
  · refine ⟨some (.record entries), ?_, .row hrow⟩
    simp only [Option.elim, narrow, hreached, hitem]
    rfl
  · have hnarrow : narrow (.list rows) (.int n) (.text name) =
        .ok ((entries.lookup (.text name)).or (some (.record entries))) := by
      simp [narrow, hreached, hitem, field?_record, Value.isNull, Value.isOwnItem, bind,
        Except.bind]
    refine ⟨_, hnarrow, ?_⟩
    rcases hlookup : entries.lookup (Value.text name) with _ | v
    · exact .row hrow
    · obtain ⟨key, hv⟩ := exists_mem_of_lookup hlookup
      exact .value hrow hv

/-! ### Rows of a database -/

/-- Whatever work on a state gives has a property. -/
def Fallible.Returns {σ α : Type} (x : Fallible σ α) (P : α → Prop) : Prop :=
  ∀ s, Gives (x s).1 P

namespace Fallible.Returns

variable {σ α β : Type} {x : Fallible σ α} {f : α → Fallible σ β} {P : α → Prop} {Q : β → Prop}

theorem bind (h : Returns x P) (hf : ∀ a, P a → Returns (f a) Q) : Returns (x >>= f) Q := by
  intro s
  have hx := h s
  rcases hs : x s with ⟨e | a, s'⟩
  · rw [Fallible.bind_apply_of_error hs]
    exact .error e
  · rw [hs] at hx
    rw [Fallible.bind_apply_of_ok hs]
    exact hf a (hx a rfl) s'

theorem any (x : Fallible σ α) : Returns x fun _ => True :=
  fun s => .trivial (x s).1

theorem pure {a : α} (h : P a) : Returns (pure a : Fallible σ α) P :=
  fun _ => .ok h

theorem ofExcept {r : Except Fault α} (h : Gives r P) :
    Returns (Fallible.ofExcept r : Fallible σ α) P :=
  fun _ => h

end Fallible.Returns

theorem Rows.recordOf_isRecord (names values : List Value) :
    Gives (Rows.recordOf names values) Value.IsRecord :=
  .bind (.trivial _) fun _ _ => .ok ⟨_, rfl⟩

namespace Adapter

/-- An adapter of a database, and not one that the caller brings along. -/
def IsDatabase (a : Adapter) : Prop :=
  a = .sqlite ∨ a = .mysql ∨ a = .postgresql

/-- The adapter of a database that a text names, unless there is none. -/
theorem ofName_text (name : String) :
    EndsIn (ofName (.text name)) IsDatabase (Console.isAdapterFault · = true) := by
  rw [ofName, find]
  split
  · exact .done (.inl rfl)
  · exact .done (.inr (.inl rfl))
  · exact .done (.inr (.inl rfl))
  · exact .done (.inr (.inr rfl))
  · exact .done (.inr (.inr rfl))
  · exact .fails rfl

theorem Sqlite.rowRecord_isRecord (columns row : List Value) :
    Gives (Sqlite.rowRecord columns row) Value.IsRecord := by
  refine (Rows.recordOf_isRecord columns row).bind fun record hrecord => ?_
  split
  · exact .ok hrecord
  · exact .error _

/-- The rows that come of a database are records. -/
theorem query_records {σ : Type} (b : Backend σ) {a : Adapter} (ha : a.IsDatabase)
    (c : Connection) (sql params : Value) :
    Fallible.Returns ((a.driver b).query c sql params) fun rows =>
      ∀ row ∈ rows.rows, row.IsRecord := by
  have hrecords : ∀ {f : List Value → Except Fault Value} (rows : List (List Value)),
      (∀ row, Gives (f row) Value.IsRecord) →
      Gives (rows.mapM f) fun records => ∀ record ∈ records, record.IsRecord :=
    fun rows hf records h => (Gives.mapM (fun row _ => hf row) records h).2
  rcases ha with rfl | rfl | rfl
  · exact .bind (.any _) fun _ _ => .bind (.any _) fun cursor _ => .bind (.any _) fun rows _ =>
      .bind (.ofExcept (hrecords rows (Sqlite.rowRecord_isRecord _))) fun _ h => .pure h
  · refine .bind (.any _) fun _ _ => .bind (.any _) fun _ _ => .bind (.any _) fun cursor _ => ?_
    rw [Mysql.fetch]
    split
    · exact .pure nofun
    · exact .pure nofun
    · exact .bind (.any _) fun rows _ =>
        .bind (.ofExcept (hrecords rows (Rows.recordOf_isRecord _))) fun _ h => .pure h
  · refine .bind (.any _) fun _ _ => .bind (.any _) fun _ _ => .bind (.any _) fun cursor _ => ?_
    rw [Postgresql.fetch]
    split
    · exact .pure nofun
    · exact .bind (.any _) fun rows _ =>
        .bind (.ofExcept (hrecords rows (Rows.recordOf_isRecord _))) fun _ h => .pure h

end Adapter

/-! ### Printing -/

namespace Console

theorem exists_cell {v : Value} (h : v.Shows) : ∃ text, cell v = .ok text := by
  obtain ⟨shown, hshown⟩ := h
  rw [cell]
  split
  · exact ⟨_, rfl⟩
  · exact ⟨escape shown, by rw [hshown]; rfl⟩

theorem exists_printRecord {entries : List (Value × Value)}
    (h : ∀ e ∈ entries, e.1.Shows ∧ e.2.Shows) : ∃ printed, printRecord entries = .ok printed := by
  obtain ⟨rows, hrows⟩ := exists_mapM_ok (l := entries)
    (f := fun e => do
      let name ← e.1.display
      let item ← cell e.2
      Except.ok [escape name, item]) fun e he => by
    obtain ⟨name, hname⟩ := (h e he).1
    obtain ⟨item, hitem⟩ := exists_cell (h e he).2
    exact ⟨[escape name, item], by rw [hname, hitem]; rfl⟩
  rw [printRecord, hrows]
  exact ⟨_, rfl⟩

variable {r : Rows}

theorem columnsOf_namesColumn (h : r.Presentable) : ∀ c ∈ columnsOf r, c.NamesColumn := by
  intro c hc
  rw [columnsOf] at hc
  split at hc
  · split at hc
    · next entries rest hrows =>
      obtain ⟨entries', hrow⟩ := h.rows (.record entries) (by simp [hrows])
      obtain rfl : entries = entries' := Value.record.inj hrow.eq_record
      obtain ⟨e, he, rfl⟩ := List.mem_map.mp hc
      exact hrow.names e he
    · cases hc
  · exact h.fields c hc

theorem exists_cells {columns : List Value} {row : Value} {entries : List (Value × Value)}
    (hcolumns : ∀ c ∈ columns, c.NamesColumn) (hrow : row.IsRow entries) :
    ∃ texts, cells columns row = .ok texts := by
  refine exists_mapM_ok fun c hc => ?_
  have hget : row.get? c = .ok (entries.lookup c) := by
    rw [hrow.eq_record, Value.get?, (hcolumns c hc).isKey]
    rfl
  have hshows : ((entries.lookup c).getD .null).Shows := by
    rcases hlookup : entries.lookup c with _ | v
    · exact .null
    · obtain ⟨key, hv⟩ := exists_mem_of_lookup hlookup
      exact hrow.values _ hv
  obtain ⟨text, htext⟩ := exists_cell hshows
  exact ⟨text, by rw [hget]; exact htext⟩

theorem exists_printRows (h : r.Presentable) : ∃ printed, printRows r = .ok printed := by
  have hcolumns := columnsOf_namesColumn h
  rw [printRows]
  split
  · obtain ⟨count, hcount⟩ := h.rowcount
    exact ⟨_, by rw [hcount]; rfl⟩
  · obtain ⟨hs, hhs⟩ := exists_mapM_ok (l := columnsOf r)
      (f := fun c => do
        let header ← c.display
        Except.ok (Column.mk header
          (if (columnsOf r).head?.any (c.same ·) then some "cyan" else none))) fun c hc => by
      obtain ⟨header, hheader⟩ := (hcolumns c hc).shows
      exact ⟨_, by rw [hheader]; rfl⟩
    obtain ⟨texts, htexts⟩ := exists_mapM_ok (l := r.rows) (f := cells (columnsOf r))
      fun row hrow => by
        obtain ⟨entries, hentries⟩ := h.rows row hrow
        exact exists_cells hcolumns hentries
    rw [heads, hhs, htexts]
    exact ⟨_, rfl⟩

/-- **Rows whose parts can all be displayed are printed**, as they are or narrowed. -/
theorem exists_printYield (h : r.Presentable) {found : Option Value}
    (hfound : Narrows r.rows found) :
    ∃ printed, printYield (found.elim (.rows r) .item) = .ok printed := by
  have hitem : ∀ v : Value, v.Shows → ∃ printed, printYield (.item v) = .ok printed := by
    intro v ⟨shown, hshown⟩
    unfold printYield
    split
    · next hyield => cases hyield
    · next entries hyield =>
      obtain rfl := Yield.item.inj hyield
      obtain ⟨printed, hprinted⟩ := exists_printRecord (Value.shows_of_record ⟨shown, hshown⟩)
      exact ⟨[printed], by rw [hprinted]; rfl⟩
    · exact ⟨_, rfl⟩
    · next hyield =>
      obtain rfl := Yield.item.inj hyield
      exact ⟨_, by rw [hshown]; rfl⟩
  cases hfound with
  | all => exact exists_printRows h
  | row hrow =>
    obtain ⟨entries, hentries⟩ := h.rows _ hrow
    obtain ⟨printed, hprinted⟩ := exists_printRecord fun e he =>
      ⟨(hentries.names e he).shows, hentries.values e he⟩
    rw [hentries.eq_record]
    exact ⟨[printed], by rw [Option.elim, printYield, hprinted]; rfl⟩
  | value hrow hv =>
    obtain ⟨entries', hentries⟩ := h.rows _ hrow
    obtain rfl := Value.record.inj hentries.eq_record
    exact hitem _ (hentries.values _ hv)

end Console

end FluentSql
