import FluentSql.Proofs.Independence.Depth
import FluentSql.Proofs.Independence.Write

/-!
# Values do not reach the text

No bound value has an influence on the text of a statement: models that are alike but for their
bound values are refused alike, or make the same text with values that correspond, place by place.
-/

namespace FluentSql

/-- Two statements with the same text, and with values that correspond one by one. -/
structure Statement.Alike (V : Value → Value → Prop) (a b : Statement) : Prop where
  sql : a.sql = b.sql
  params : List.Forall₂ V a.params b.params

variable {V : Value → Value → Prop}

/-- Marked texts that agree make statements that agree. -/
theorem Agree.statement {m m' : Except Fault (Marked Value)} (h : Agree (Marked.Alike V) m m') :
    Agree (Statement.Alike V) (m.map Marked.statement) (m'.map Marked.statement) :=
  AgreeUpTo.map h fun _ _ ht => ⟨ht.sql_eq, ht.values⟩

/-- **Compiled texts ignore bound values.** Let `V` relate the values of two models. If the queries
of two stores correspond, or two writes are alike, then they are refused with the same fault, or
have the same text and as many values, which are related one by one. -/
theorem compiled_texts_ignore_values (V : Value → Value → Prop) :
    (∀ (R : Handle → Handle → Prop) (s t : Store), Store.Correspond R V s t →
      ∀ (g h : Handle) (d : Dialect), R g h →
        Agree (Statement.Alike V) (s.compile g d) (t.compile h d)) ∧
    ∀ (w w' : Write), Write.Alike V w w' → ∀ (kind : WriteKind) (d : Dialect),
      Agree (Statement.Alike (kind.Binds V)) (w.compile kind d) (w'.compile kind d) := by
  constructor
  · intro R s t hst g h d hgh
    rw [Store.compile, Store.compile, s.compileWithin_eq_marked, t.compileWithin_eq_marked]
    exact (Store.marked_agree hst d hgh).statement
  · intro w w' h kind d
    rw [w.compile_eq_marked, w'.compile_eq_marked]
    exact (Write.marked_agree h kind d).statement

/-! ### A lookup -/

/-- A query that compares a column with a value, and looks another one up in a second query. -/
def Select.lookup (v second : Value) : Select where
  fields := [.column .null (.text "a") .null]
  tables := [{ schema := .null, table := .text "t" }]
  conditions := .list [.comparison (.column .null (.text "b")) v (.text "=") (.text "AND"),
    .comparison (.column .null (.text "c")) second (.text "IN") (.text "AND")]
  order := []
  page := none
  limit := none

/-- A query that is filtered by a pattern. -/
def Select.filtered (pattern : Value) : Select where
  fields := [.column .null (.text "d") .null]
  tables := [{ schema := .null, table := .text "u" }]
  conditions := .list [.comparison (.column .null (.text "e")) pattern (.text "LIKE")
    (.text "AND")]
  order := []
  page := none
  limit := none

/-- The builder of a query. -/
def QueryBuilder.ofSelect (q : Select) : QueryBuilder where
  fields := q.fields
  tables := q.tables
  conditions := q.conditions

/-- A store with a lookup in a filtered query. -/
def Store.ofLookup (v pattern : Value) : Store where
  queries := #[.ofSelect (.lookup v (.ofQuery 1)), .ofSelect (.filtered pattern)]

variable {R : Handle → Handle → Prop} {v w : Value}

theorem Select.lookup_alike (hv : v.isBound = true) (hw : w.isBound = true) (h : V v w)
    {g g' : Handle} (hgg' : R g g') (labels labels' : Labels) :
    Select.Alike R V (.lookup v (.query g labels)) (.lookup w (.query g' labels')) := by
  have hequal : operatorName (.text "=") = .ok "=" := rfl
  have hin : operatorName (.text "IN") = .ok "IN" := rfl
  refine ⟨.cons (.column _ _ _) .nil, .cons ⟨rfl, rfl, rfl, .record .nil, rfl⟩ .nil, ⟨rfl, ?_⟩, rfl,
    rfl, rfl⟩
  refine .ok (.cons (.comparison (.column _ _) fun keyword hkeyword => ?_)
    (.cons (.comparison (.column _ _) fun keyword hkeyword => ?_) .nil))
  · obtain rfl := Except.ok.inj (hequal.symm.trans hkeyword)
    exact .bound hv hw h
  · obtain rfl := Except.ok.inj (hin.symm.trans hkeyword)
    exact .query hgg'

theorem Select.filtered_alike (hv : v.isQuery = false) (hw : w.isQuery = false) (h : V v w) :
    Select.Alike R V (.filtered v) (.filtered w) := by
  have hlike : operatorName (.text "LIKE") = .ok "LIKE" := rfl
  refine ⟨.cons (.column _ _ _) .nil, .cons ⟨rfl, rfl, rfl, .record .nil, rfl⟩ .nil, ⟨rfl, ?_⟩, rfl,
    rfl, rfl⟩
  refine .ok (.cons (.comparison (.column _ _) fun keyword hkeyword => ?_) .nil)
  obtain rfl := Except.ok.inj (hlike.symm.trans hkeyword)
  exact .bound hv hw h

/-- The values of a lookup and of another one, which would be an injection if they reached the
text. -/
def Value.Injected (v w : Value) : Prop :=
  (v, w) ∈ [(.int 7, .text "' OR ''='"), (.text "x", Value.null)]

theorem Store.ofLookup_correspond :
    Correspond (fun g h => g = h ∧ h < 2) Value.Injected (ofLookup (.int 7) (.text "x"))
      (ofLookup (.text "' OR ''='") .null) where
  left_lt := fun ⟨hgh, hlt⟩ => hgh ▸ hlt
  right_lt := fun ⟨_, hlt⟩ => hlt
  alike := by
    rintro g _ ⟨rfl, hlt⟩
    obtain rfl | rfl := Nat.le_one_iff_eq_zero_or_eq_one.mp (Nat.lt_succ_iff.mp hlt)
    · exact Select.lookup_alike rfl rfl (.head _) ⟨rfl, Nat.one_lt_two⟩ _ _
    · exact Select.filtered_alike rfl rfl (.tail _ (.head _))

/-- A delete by the value of one column. -/
def Write.deletion (v : Value) : Write where
  table := .text "t"
  conditions := [(.text "a", v)]

theorem Write.deletion_alike (h : V v w) : Write.Alike V (.deletion v) (.deletion w) :=
  ⟨rfl, rfl, rfl, rfl, rfl, .nil, .cons ⟨rfl, h⟩ .nil⟩

theorem compiled_texts_ignore_values_injected :
    Store.Correspond (fun g h => g = h ∧ h < 2) Value.Injected
        (.ofLookup (.int 7) (.text "x")) (.ofLookup (.text "' OR ''='") .null) ∧
      (∃ a b, Store.compile (.ofLookup (.int 7) (.text "x")) 0 .ansi = .ok a ∧
        Store.compile (.ofLookup (.text "' OR ''='") .null) 0 .ansi = .ok b ∧
        Statement.Alike Value.Injected a b) ∧
      ∃ a b, Write.compile (.deletion (.int 7)) .delete .ansi = .ok a ∧
        Write.compile (.deletion (.text "' OR ''='")) .delete .ansi = .ok b ∧
        Statement.Alike Value.Injected a b := by
  obtain ⟨hqueries, hwrites⟩ := compiled_texts_ignore_values Value.Injected
  have hquery := hqueries _ _ _ Store.ofLookup_correspond 0 0 .ansi ⟨rfl, Nat.two_pos⟩
  have hwrite := hwrites _ _ (Write.deletion_alike (.head _)) .delete .ansi
  obtain ⟨a, ha⟩ : ∃ a, Store.compile (.ofLookup (.int 7) (.text "x")) 0 .ansi = .ok a := ⟨_, rfl⟩
  obtain ⟨b, hb, hab⟩ := hquery.exists_ok ha
  obtain ⟨c, hc, hwritten⟩ := hwrite.exists_ok rfl
  exact ⟨Store.ofLookup_correspond, ⟨a, b, ha, hb, hab⟩, ⟨_, c, rfl, hc, hwritten⟩⟩

end FluentSql
