import Mathlib.Data.List.Forall2
import FluentSql.Builder.Write
import FluentSql.Proofs.Marked.Query

/-!
# Models that are alike but for their bound values

Two models are alike if they differ only in values that are bound. `V` says which bound values of
the two correspond to each other, and may be any relation: what is proved for all of them tracks
each value from its place in a model to its place among the parameters. `R` does the same for the
queries that are embedded.

What may differ is read off the renderings: a value is bound by itself, as an item of a collection
behind a membership test, or as an end of a range. Its type may differ too, and so may what it
shows; the kind of a collection may not be empty on one side only.
-/

namespace FluentSql

variable (R : Handle → Handle → Prop) (V : Value → Value → Prop)

/-! ### Results and text -/

/-- Two results agree: both are the same fault, or what is given is related. A first result that is
a fault of `E`, and a second one that is a fault of `E'`, agree with anything. -/
inductive AgreeUpTo {α β : Type} (E E' : Fault → Prop) (Q : α → β → Prop) :
    Except Fault α → Except Fault β → Prop where
  | ok {a : α} {b : β} (h : Q a b) : AgreeUpTo E E' Q (.ok a) (.ok b)
  | error (f : Fault) : AgreeUpTo E E' Q (.error f) (.error f)
  | leftGivenUp {f : Fault} (hf : E f) (m : Except Fault β) : AgreeUpTo E E' Q (.error f) m
  | rightGivenUp {f : Fault} (hf : E' f) (m : Except Fault α) : AgreeUpTo E E' Q m (.error f)

/-- Two results agree, whatever they are. -/
abbrev Agree {α β : Type} (Q : α → β → Prop) : Except Fault α → Except Fault β → Prop :=
  AgreeUpTo (fun _ => False) (fun _ => False) Q

/-- Two glyphs are the same character, or hold values that correspond. -/
inductive Glyph.Alike : Glyph Value → Glyph Value → Prop where
  | letter (c : Char) : Alike (.letter c) (.letter c)
  | marker {v w : Value} (h : V v w) : Alike (.marker v) (.marker w)

/-- Two marked texts that differ only in the values of their markers. -/
abbrev Marked.Alike : Marked Value → Marked Value → Prop :=
  List.Forall₂ (Glyph.Alike V)

/-! ### Operands -/

/-- Whether a value is bound where an operand is expected. -/
def Value.isBound : Value → Bool
  | .column .. => false
  | .query .. => false
  | _ => true

/-- Two operands: the same column, queries that are alike, or bound values that correspond. -/
inductive Value.Alike : Value → Value → Prop where
  | column (table name : Value) : Alike (.column table name) (.column table name)
  | query {g h : Handle} {labels labels' : Labels} (hR : R g h) :
      Alike (.query g labels) (.query h labels')
  | bound {v w : Value} (hv : v.isBound = true) (hw : w.isBound = true) (h : V v w) : Alike v w

/-- Two values in a place where none is bound: the same value, or queries that are alike. -/
inductive Value.Nested : Value → Value → Prop where
  | same {v : Value} (hv : v.isQuery = false) : Nested v v
  | query {g h : Handle} {labels labels' : Labels} (hR : R g h) :
      Nested (.query g labels) (.query h labels')

/-- Two entries with the same key, whose values are related. -/
def Entry.Alike (Q : Value → Value → Prop) (e f : Value × Value) : Prop :=
  e.1 = f.1 ∧ Q e.2 f.2

/-! ### Parts of a query -/

/-- Two separators: both are not given, or both are given and correspond. -/
def Value.SeparatesAlike (v w : Value) : Prop :=
  v.truthy = false ∧ w.truthy = false ∨ v.truthy = true ∧ w.truthy = true ∧ V v w

/-- Two fields. -/
inductive Field.Alike : Field → Field → Prop where
  | column (table name aliasName : Value) :
      Alike (.column table name aliasName) (.column table name aliasName)
  | wildcard (table : Value) : Alike (.wildcard table) (.wildcard table)
  | function {name source source' distinct aliasName : Value} {argument argument' : Option Value}
      (hs : Value.Nested R source source')
      (ha : Option.Rel (Value.Alike R V) argument argument') :
      Alike (.function name source distinct aliasName argument)
        (.function name source' distinct aliasName argument')
  | concat {columns aliasName separator separator' : Value}
      (hs : Value.SeparatesAlike V separator separator') :
      Alike (.concat columns aliasName separator) (.concat columns aliasName separator')
  | subquery {query query' aliasName : Value} (hq : Value.Nested R query query') :
      Alike (.subquery query aliasName) (.subquery query' aliasName)

/-- The equalities of two joins: the same columns, set equal to operands that are alike. -/
inductive Value.JoinsAlike : Value → Value → Prop where
  | record {entries entries' : List (Value × Value)}
      (h : List.Forall₂ (Entry.Alike (Value.Alike R V)) entries entries') :
      JoinsAlike (.record entries) (.record entries')
  | other {v : Value} (hv : ∀ entries, v ≠ .record entries) : JoinsAlike v v

/-- Two tables. -/
structure Table.Alike (t t' : Table) : Prop where
  schema : t.schema = t'.schema
  table : t.table = t'.table
  aliasName : t.aliasName = t'.aliasName
  joins : Value.JoinsAlike R V t.joins t'.joins
  join : t.join = t'.join

/-- Two values behind a membership test: queries that are alike, collections of as many operands
that are alike, or other values of the same type. -/
inductive Value.MembersAlike : Value → Value → Prop where
  | query {g h : Handle} {labels labels' : Labels} (hR : R g h) :
      MembersAlike (.query g labels) (.query h labels')
  | members {v w : Value} {vs ws : List Value} (hv : v.members? = some vs)
      (hw : w.members? = some ws) (h : List.Forall₂ (Value.Alike R V) vs ws) : MembersAlike v w
  | other {v w : Value} (hv : v.members? = none) (hw : w.members? = none)
      (hqv : v.isQuery = false) (hqw : w.isQuery = false) (ht : v.typeName = w.typeName) :
      MembersAlike v w

/-- Two values behind a range test: queries that are alike, pairs of operands that are alike, or
values that are no pairs. -/
inductive Value.RangesAlike : Value → Value → Prop where
  | query {g h : Handle} {labels labels' : Labels} (hR : R g h) :
      RangesAlike (.query g labels) (.query h labels')
  | pair {v w low low' high high' : Value} (hv : v.pair? = some (low, high))
      (hw : w.pair? = some (low', high')) (hl : Value.Alike R V low low')
      (hh : Value.Alike R V high high') : RangesAlike v w
  | other {v w : Value} (hv : v.pair? = none) (hw : w.pair? = none) (hqv : v.isQuery = false)
      (hqw : w.isQuery = false) : RangesAlike v w

/-- Two values behind a pattern test: queries that are alike, or values of which each is bound
whatever it is. -/
inductive Value.PatternsAlike : Value → Value → Prop where
  | query {g h : Handle} {labels labels' : Labels} (hR : R g h) :
      PatternsAlike (.query g labels) (.query h labels')
  | bound {v w : Value} (hv : v.isQuery = false) (hw : w.isQuery = false) (h : V v w) :
      PatternsAlike v w

/-- Two right sides of a comparison with an operator of a kind. Behind a test for null there may be
anything. -/
def OperatorKind.RightAlike : OperatorKind → Value → Value → Prop
  | nullTest => fun _ _ => True
  | pattern .. => Value.PatternsAlike R V
  | membership _ => Value.MembersAlike R V
  | range => Value.RangesAlike R V
  | plain => Value.Alike R V

/-- Two nodes of condition lists. -/
inductive Condition.Alike : Condition → Condition → Prop where
  | comparison {left left' right right' operator combinator : Value}
      (hl : Value.Alike R V left left')
      (hr : ∀ keyword, operatorName operator = .ok keyword →
        (OperatorKind.ofName keyword).RightAlike R V right right') :
      Alike (.comparison left right operator combinator)
        (.comparison left' right' operator combinator)
  | groupStart (combinator : Value) : Alike (.groupStart combinator) (.groupStart combinator)
  | groupEnd (combinator combinator' : Value) :
      Alike (.groupEnd combinator) (.groupEnd combinator')
  | unknown (v : Value) : Alike (.unknown v) (.unknown v)

/-- Two values that hold the nodes of conditions. -/
structure Value.ConditionsAlike (v w : Value) : Prop where
  truthy : v.truthy = w.truthy
  items : Agree (List.Forall₂ fun a b => Condition.Alike R V (.ofValue a) (.ofValue b))
    v.items w.items

/-- Two queries. -/
structure Select.Alike (q q' : Select) : Prop where
  fields : List.Forall₂ (Field.Alike R V) q.fields q'.fields
  tables : List.Forall₂ (Table.Alike R V) q.tables q'.tables
  conditions : Value.ConditionsAlike R V q.conditions q'.conditions
  order : q.order = q'.order
  page : q.page = q'.page
  limit : q.limit = q'.limit

/-- The queries of two stores correspond: those that do are there, and are alike. -/
structure Store.Correspond (s t : Store) : Prop where
  left_lt {g h : Handle} (hgh : R g h) : g < s.queries.size
  right_lt {g h : Handle} (hgh : R g h) : h < t.queries.size
  alike {g h : Handle} (hgh : R g h) : Select.Alike R V (s.select g) (t.select h)

/-! ### Writes -/

/-- Two records with the same keys. -/
inductive Value.RecordsAlike : Value → Value → Prop where
  | record {entries entries' : List (Value × Value)}
      (h : List.Forall₂ (Entry.Alike V) entries entries') :
      RecordsAlike (.record entries) (.record entries')
  | other {v : Value} (hv : ∀ entries, v ≠ .record entries) : RecordsAlike v v

/-- Two writes. -/
structure Write.Alike (w w' : Write) : Prop where
  schema : w.schema = w'.schema
  table : w.table = w'.table
  columns : w.columns = w'.columns
  updated : w.updated = w'.updated
  target : w.target = w'.target
  records : List.Forall₂ (Value.RecordsAlike V) w.records w'.records
  conditions : List.Forall₂ (Entry.Alike V) w.conditions w'.conditions

/-! ### Results that agree -/

namespace AgreeUpTo

variable {α β γ δ : Type} {E E' : Fault → Prop} {P : α → β → Prop} {Q : γ → δ → Prop}
  {m : Except Fault α} {m' : Except Fault β}

theorem of_agree (h : Agree P m m') : AgreeUpTo E E' P m m' := by
  cases h with
  | ok h => exact .ok h
  | error f => exact .error f
  | leftGivenUp hf => exact hf.elim
  | rightGivenUp hf => exact hf.elim

theorem imp {P' : α → β → Prop} (h : AgreeUpTo E E' P m m') (hP : ∀ a b, P a b → P' a b) :
    AgreeUpTo E E' P' m m' := by
  cases h with
  | ok h => exact .ok (hP _ _ h)
  | error f => exact .error f
  | leftGivenUp hf => exact .leftGivenUp hf _
  | rightGivenUp hf => exact .rightGivenUp hf _

theorem agree_of_left (h : AgreeUpTo E (fun _ => False) P m m') (hm : ∀ f, m = .error f → ¬E f) :
    Agree P m m' := by
  cases h with
  | ok h => exact .ok h
  | error f => exact .error f
  | leftGivenUp hf => exact absurd hf (hm _ rfl)
  | rightGivenUp hf => exact hf.elim

theorem agree_of_right (h : AgreeUpTo (fun _ => False) E P m m')
    (hm : ∀ f, m' = .error f → ¬E f) : Agree P m m' := by
  cases h with
  | ok h => exact .ok h
  | error f => exact .error f
  | leftGivenUp hf => exact hf.elim
  | rightGivenUp hf => exact absurd hf (hm _ rfl)

/-- What agrees with a result that is no fault is none either. -/
theorem exists_ok (h : Agree P m m') {a : α} (ha : m = .ok a) : ∃ b, m' = .ok b ∧ P a b := by
  cases h with
  | ok h =>
    obtain rfl := Except.ok.inj ha
    exact ⟨_, rfl, h⟩
  | error f => cases ha
  | leftGivenUp hf => exact hf.elim
  | rightGivenUp hf => exact hf.elim

/-- Results that agree are the same faults. -/
theorem error_iff (h : Agree P m m') (f : Fault) : m = .error f ↔ m' = .error f := by
  cases h with
  | ok h => exact ⟨nofun, nofun⟩
  | error f' => rw [Except.error.injEq, Except.error.injEq]
  | leftGivenUp hf => exact hf.elim
  | rightGivenUp hf => exact hf.elim

theorem bind {k : α → Except Fault γ} {k' : β → Except Fault δ} (h : AgreeUpTo E E' P m m')
    (hk : ∀ a b, P a b → AgreeUpTo E E' Q (k a) (k' b)) :
    AgreeUpTo E E' Q (m >>= k) (m' >>= k') := by
  cases h with
  | ok h => exact hk _ _ h
  | error f => exact .error f
  | leftGivenUp hf m => exact .leftGivenUp hf _
  | rightGivenUp hf m => exact .rightGivenUp hf _

/-- A first part that is the same on both sides. -/
theorem bind_given {k : α → Except Fault γ} {k' : α → Except Fault δ} (m : Except Fault α)
    (hk : ∀ a, m = .ok a → AgreeUpTo E E' Q (k a) (k' a)) :
    AgreeUpTo E E' Q (m >>= k) (m >>= k') := by
  cases m with
  | ok a => exact hk a rfl
  | error f => exact .error f

theorem bind_same {k : α → Except Fault γ} {k' : α → Except Fault δ} (m : Except Fault α)
    (hk : ∀ a, AgreeUpTo E E' Q (k a) (k' a)) : AgreeUpTo E E' Q (m >>= k) (m >>= k') :=
  bind_given m fun a _ => hk a

theorem map {f : α → γ} {g : β → δ} (h : AgreeUpTo E E' P m m')
    (hf : ∀ a b, P a b → Q (f a) (g b)) : AgreeUpTo E E' Q (m.map f) (m'.map g) := by
  cases h with
  | ok h => exact .ok (hf _ _ h)
  | error f => exact .error f
  | leftGivenUp hf m => exact .leftGivenUp hf _
  | rightGivenUp hf m => exact .rightGivenUp hf _

/-- What is done with each item of two lists whose items are related. -/
theorem mapM {as : List α} {bs : List β} {f : α → Except Fault γ} {g : β → Except Fault δ}
    (h : List.Forall₂ P as bs) (hfg : ∀ a b, P a b → AgreeUpTo E E' Q (f a) (g b)) :
    AgreeUpTo E E' (List.Forall₂ Q) (as.mapM f) (bs.mapM g) := by
  induction h with
  | nil => exact .ok .nil
  | cons hab _ ih =>
    rw [List.mapM_cons, List.mapM_cons]
    exact (hfg _ _ hab).bind fun _ _ hc => ih.bind fun _ _ hcs => .ok (.cons hc hcs)

theorem map_same {f : α → γ} {g : α → δ} (m : Except Fault α) (hf : ∀ a, Q (f a) (g a)) :
    AgreeUpTo E E' Q (m.map f) (m.map g) := by
  cases m with
  | ok a => exact .ok (hf a)
  | error f => exact .error f

end AgreeUpTo

/-! ### Texts that are alike -/

namespace Marked.Alike

variable {V} {t t' u u' : Marked Value}

theorem append (ht : Marked.Alike V t t') (hu : Marked.Alike V u u') :
    Marked.Alike V (t ++ u) (t' ++ u') :=
  List.rel_append ht hu

theorem plain (s : String) : Marked.Alike V (.plain s) (.plain s) := by
  rw [Marked.plain]
  induction s.toList with
  | nil => exact .nil
  | cons c cs ih => exact .cons (.letter c) ih

theorem bound {v w : Value} (h : V v w) : Marked.Alike V (.bound v) (.bound w) :=
  .cons (.marker h) .nil

theorem intercalate (separator : String) {ts us : List (Marked Value)}
    (h : List.Forall₂ (Marked.Alike V) ts us) :
    Marked.Alike V (.intercalate separator ts) (.intercalate separator us) := by
  induction h with
  | nil => exact .nil
  | cons ht hrest ih =>
    cases hrest with
    | nil => simpa using ht
    | cons =>
      rw [Marked.intercalate_cons_cons, Marked.intercalate_cons_cons]
      exact ht.append ((plain separator).append ih)

/-- Texts that are alike are written alike. -/
theorem sql_eq (h : Marked.Alike V t u) : t.sql = u.sql := by
  rw [sql, sql]
  congr 1
  induction h with
  | nil => rfl
  | cons hg _ ih =>
    rw [List.map_cons, List.map_cons, ih]
    cases hg <;> rfl

/-- Texts that are alike have values that correspond, one by one. -/
theorem values (h : Marked.Alike V t u) : List.Forall₂ V t.values u.values := by
  induction h with
  | nil => exact .nil
  | cons hg _ ih =>
    cases hg with
    | letter c => exact ih
    | marker hv => exact .cons hv ih

end Marked.Alike

end FluentSql
