import FluentSql.Proofs.Independence.Alike
import FluentSql.Proofs.Marked.Write

/-!
# Writes that are alike are written alike

An update and a delete bind the values of entries, one by one. An insert looks the values up by the
declared columns, and where a record has none under a column, both inserts bind null.
-/

namespace FluentSql

variable {V : Value → Value → Prop}

/-- Two values that correspond, or are null in both models. -/
def Value.OrNull (V : Value → Value → Prop) (v w : Value) : Prop :=
  V v w ∨ v = .null ∧ w = .null

/-- Entries that are alike have values that correspond under each key. -/
theorem Entry.lookup_alike {entries entries' : List (Value × Value)}
    (h : List.Forall₂ (Entry.Alike V) entries entries') (key : Value) :
    Option.Rel V (entries.lookup key) (entries'.lookup key) := by
  induction h with
  | nil => exact .none
  | @cons e e' _ _ he _ ih =>
    obtain ⟨k, v⟩ := e
    obtain ⟨k', w⟩ := e'
    obtain ⟨hk, hv⟩ := he
    obtain rfl : k = k' := hk
    rw [List.lookup_cons, List.lookup_cons]
    cases key == k with
    | true => exact .some hv
    | false => exact ih

namespace Write

/-! ### Parts of writes -/

theorem isEmpty_eq {α β : Type} {P : α → β → Prop} {as : List α} {bs : List β}
    (h : List.Forall₂ P as bs) : as.isEmpty = bs.isEmpty := by
  cases h <;> rfl

theorem cell_agree {record record' : Value} (h : Value.RecordsAlike V record record')
    (column : Value) : Agree (Value.OrNull V) (cell record column) (cell record' column) := by
  cases h with
  | @record entries entries' hentries =>
    have hfound : Agree (Option.Rel V) (Value.get? (.record entries) column)
        (Value.get? (.record entries') column) :=
      .map_same _ fun _ => Entry.lookup_alike hentries column
    refine hfound.bind fun _ _ hvalue => .ok ?_
    -- a record that lacks the column lacks it in both models, and null is bound for it
    cases hvalue with
    | none => exact .inr ⟨rfl, rfl⟩
    | some hv => exact .inl hv
  | other hv =>
    cases record with
    | record entries => exact absurd rfl (hv entries)
    | _ => exact .error _

variable {w w' : Write} (h : Write.Alike V w w') (d : Dialect)

theorem markedEqualities_agree {entries entries' : List (Value × Value)}
    (h : List.Forall₂ (Entry.Alike V) entries entries') :
    Agree (List.Forall₂ (Marked.Alike V)) (markedEqualities d entries)
      (markedEqualities d entries') := by
  refine .mapM h fun e e' he => ?_
  rw [markedEquality, markedEquality, he.1]
  exact .bind_same _ fun _ => .ok ((Marked.Alike.plain _).append (.bound he.2))

theorem markedRow_alike {values values' : List Value} (h : List.Forall₂ V values values') :
    Marked.Alike V (markedRow values) (markedRow values') := by
  have hbound : List.Forall₂ (Marked.Alike V) (values.map Marked.bound)
      (values'.map Marked.bound) :=
    List.forall₂_map_left_iff.mpr (List.forall₂_map_right_iff.mpr (h.imp fun _ _ => .bound))
  exact (Marked.Alike.plain _).append ((Marked.Alike.intercalate _ hbound).append (.plain _))

include h

theorem row_agree {record record' : Value} (hrecord : Value.RecordsAlike V record record') :
    Agree (List.Forall₂ (Value.OrNull V)) (w.row record) (w'.row record') := by
  rw [row, row, h.columns]
  refine .mapM (P := (· = ·)) (List.forall₂_eq_eq_eq ▸ rfl) ?_
  rintro column _ rfl
  exact cell_agree hrecord column

theorem reference_eq : w.reference d = w'.reference d := by
  rw [reference, reference, h.schema, h.table]

theorem renderUpsert_eq : w.renderUpsert d = w'.renderUpsert d := by
  rw [renderUpsert, renderUpsert, h.updated, h.target]

theorem markedConditions_agree :
    Agree (Marked.Alike V) (w.markedConditions d) (w'.markedConditions d) :=
  (markedEqualities_agree d h.conditions).bind fun _ _ htests => .ok (.intercalate _ htests)

/-! ### Writes -/

theorem markedInsert_agree :
    Agree (Marked.Alike (Value.OrNull V)) (w.markedInsert d) (w'.markedInsert d) := by
  have hrows : Agree (List.Forall₂ (List.Forall₂ (Value.OrNull V))) (w.records.mapM w.row)
      (w'.records.mapM w'.row) := .mapM h.records fun _ _ => row_agree h
  rw [markedInsert, markedInsert, ← h.columns, isEmpty_eq h.records]
  split
  · exact .error _
  · split
    · exact .error _
    · rw [reference_eq h, renderUpsert_eq h]
      refine hrows.bind fun rows rows' hvalues => ?_
      refine .bind_same _ fun columns => .bind_same _ fun table => .bind_same _ fun upsert => .ok ?_
      have htexts : List.Forall₂ (Marked.Alike (Value.OrNull V)) (rows.map markedRow)
          (rows'.map markedRow) :=
        List.forall₂_map_left_iff.mpr (List.forall₂_map_right_iff.mpr
          (hvalues.imp fun _ _ => markedRow_alike))
      exact (Marked.Alike.plain _).append ((Marked.Alike.intercalate _ htexts).append (.plain _))

/-- An update behind its checks. -/
theorem markedAssigned_agree {entries entries' : List (Value × Value)}
    (hentries : List.Forall₂ (Entry.Alike V) entries entries') :
    Agree (Marked.Alike V)
      (do
        let assignments ← markedEqualities d entries
        let table ← w.reference d
        let conditions ← w.markedConditions d
        .ok (.plain ("UPDATE " ++ table ++ " SET ") ++ (.intercalate ", " assignments ++
          (.plain " WHERE " ++ conditions))))
      (do
        let assignments ← markedEqualities d entries'
        let table ← w'.reference d
        let conditions ← w'.markedConditions d
        .ok (.plain ("UPDATE " ++ table ++ " SET ") ++ (.intercalate ", " assignments ++
          (.plain " WHERE " ++ conditions)))) := by
  rw [reference_eq h]
  refine (markedEqualities_agree d hentries).bind fun _ _ hassignments => ?_
  refine .bind_same _ fun _ => (markedConditions_agree h d).bind fun _ _ hconditions => .ok ?_
  exact (Marked.Alike.plain _).append ((Marked.Alike.intercalate _ hassignments).append
    ((Marked.Alike.plain _).append hconditions))

theorem markedUpdate_agree : Agree (Marked.Alike V) (w.markedUpdate d) (w'.markedUpdate d) := by
  have hrecords := h.records
  rw [markedUpdate, markedUpdate, isEmpty_eq h.conditions]
  split
  · exact .error _
  · generalize w.records = records at hrecords
    generalize w'.records = records' at hrecords
    -- any number of records but one is refused alike
    cases hrecords with
    | nil => exact .error _
    | @cons record _ _ _ hrecord hrest =>
      cases hrest with
      | cons => exact .error _
      | nil =>
        cases hrecord with
        | record hentries =>
          have hassigned := markedAssigned_agree h d hentries
          cases hentries with
          | nil => exact .error _
          | cons => exact hassigned
        | other hv =>
          by_cases hgiven : (!record.truthy) = true
          · simp only [hgiven, if_true]
            exact .error _
          · simp only [hgiven]
            cases record with
            | record entries => exact absurd rfl (hv entries)
            | _ => exact .error _

theorem markedDelete_agree : Agree (Marked.Alike V) (w.markedDelete d) (w'.markedDelete d) := by
  rw [markedDelete, markedDelete, isEmpty_eq h.conditions, reference_eq h]
  split
  · exact .error _
  · exact .bind_same _ fun _ => (markedConditions_agree h d).bind fun _ _ hconditions =>
      .ok ((Marked.Alike.plain _).append hconditions)

end Write

/-- Which values of two writes of a kind correspond: those of the models, and behind an insert also
the nulls that stand in for what a record does not have. -/
def WriteKind.Binds (V : Value → Value → Prop) : WriteKind → Value → Value → Prop
  | .insert => Value.OrNull V
  | .update => V
  | .delete => V

/-- Writes that are alike agree. -/
theorem Write.marked_agree {w w' : Write} (h : Write.Alike V w w') (kind : WriteKind)
    (d : Dialect) : Agree (Marked.Alike (kind.Binds V)) (w.marked kind d) (w'.marked kind d) := by
  cases kind with
  | insert => exact markedInsert_agree h d
  | update => exact markedUpdate_agree h d
  | delete => exact markedDelete_agree h d

end FluentSql
