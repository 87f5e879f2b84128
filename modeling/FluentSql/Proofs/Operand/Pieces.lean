import FluentSql.Proofs.Independence.Alike
import FluentSql.Proofs.Results

/-!
# Operands in the text of a query

The pieces of a query are the values that its text shows, in the order of the text, apart from
names: the operands of its fields, joins and conditions, the values of its pattern tests, and what
separates the parts of its concatenations. The text of a query is woven from them
(`Select.marked_woven`): between two pieces there is only text that binds nothing. An operand is
shown as what it is, a column, a query or a bound value. The value of a pattern test and a separator
are bound, whatever they are.

What a query does not show is no piece: the right side of a test for null, and the left side of a
membership test in an empty collection.
-/

namespace FluentSql

open Marked

/-- A value that the text of a query shows. -/
inductive Piece where
  /-- An operand: a column, a query or a bound value. -/
  | operand (v : Value)
  /-- The value of a pattern test. -/
  | matched (v : Value)
  /-- What stands between two parts of a concatenation. -/
  | separator (v : Value)

/-! ### Text that is woven from pieces -/

/-- Text that shows pieces in order, with text around them that binds nothing. -/
inductive Woven (shown : Piece → Marked Value → Prop) : List Piece → Marked Value → Prop where
  | plain (s : String) : Woven shown [] (Marked.plain s)
  | cons {p : Piece} {ps : List Piece} {t u : Marked Value} (s : String) (ht : shown p t)
      (hu : Woven shown ps u) : Woven shown (p :: ps) (Marked.plain s ++ (t ++ u))

/-- Several texts that are woven from their shares of pieces. -/
inductive AllWoven (shown : Piece → Marked Value → Prop) :
    List Piece → List (Marked Value) → Prop where
  | nil : AllWoven shown [] []
  | cons {ps qs : List Piece} {t : Marked Value} {ts : List (Marked Value)} (ht : Woven shown ps t)
      (hts : AllWoven shown qs ts) : AllWoven shown (ps ++ qs) (t :: ts)

section Woven

variable {shown shown' : Piece → Marked Value → Prop} {p : Piece} {ps qs : List Piece}
  {t u : Marked Value} {ts us : List (Marked Value)}

namespace Woven

theorem single (ht : shown p t) : Woven shown [p] t := by
  have h := cons "" ht (.plain "")
  rwa [Marked.plain, String.toList_empty, List.map_nil, List.nil_append, List.append_nil] at h

theorem plain_append (s : String) (ht : Woven shown ps t) :
    Woven shown ps (Marked.plain s ++ t) := by
  cases ht with
  | plain s' =>
    rw [← Marked.plain_append]
    exact .plain (s ++ s')
  | cons s' ht hu =>
    rw [← List.append_assoc, ← Marked.plain_append]
    exact .cons (s ++ s') ht hu

theorem append (ht : Woven shown ps t) (hu : Woven shown qs u) :
    Woven shown (ps ++ qs) (t ++ u) := by
  induction ht with
  | plain s => exact hu.plain_append s
  | cons s ht _ ih =>
    rw [List.append_assoc, List.append_assoc, List.cons_append]
    exact .cons s ht ih

theorem append_plain (ht : Woven shown ps t) (s : String) :
    Woven shown ps (t ++ Marked.plain s) := by
  have h := ht.append (plain s)
  rwa [List.append_nil] at h

theorem intercalate (s : String) (hts : AllWoven shown ps ts) :
    Woven shown ps (intercalate s ts) := by
  induction hts with
  | nil => exact .plain ""
  | cons ht hts ih =>
    cases hts with
    | nil => rwa [intercalate_singleton, List.append_nil]
    | cons =>
      rw [intercalate_cons_cons]
      exact ht.append (ih.plain_append s)

theorem mono (h : ∀ p t, shown p t → shown' p t) (ht : Woven shown ps t) :
    Woven shown' ps t := by
  induction ht with
  | plain s => exact .plain s
  | cons s ht _ ih => exact .cons s (h _ _ ht) ih

/-- Every piece is shown. -/
theorem exists_of_mem (ht : Woven shown ps t) (hp : p ∈ ps) : ∃ u, shown p u := by
  induction ht with
  | plain s => cases hp
  | cons s ht _ ih =>
    rcases List.mem_cons.mp hp with rfl | hp
    · exact ⟨_, ht⟩
    · exact ih hp

/-- Nothing is bound but by a piece. -/
theorem exists_of_mem_values (ht : Woven shown ps t) {v : Value} (hv : v ∈ t.values) :
    ∃ p ∈ ps, ∃ u, shown p u ∧ v ∈ u.values := by
  induction ht with
  | plain s =>
    rw [values_plain] at hv
    cases hv
  | cons s ht _ ih =>
    rw [values_append, values_plain, List.nil_append, values_append] at hv
    rcases List.mem_append.mp hv with hv | hv
    · exact ⟨_, List.mem_cons_self, _, ht, hv⟩
    · obtain ⟨p, hp, hu⟩ := ih hv
      exact ⟨p, List.mem_cons_of_mem _ hp, hu⟩

end Woven

theorem AllWoven.append (hts : AllWoven shown ps ts) (hus : AllWoven shown qs us) :
    AllWoven shown (ps ++ qs) (ts ++ us) := by
  induction hts with
  | nil => exact hus
  | cons ht _ ih =>
    rw [List.append_assoc]
    exact .cons ht ih

end Woven

/-! ### The pieces of a query -/

namespace Field

/-- The pieces of a concatenation behind the first column. -/
def tailPieces (separator : Value) : List Value → List Piece
  | [] => []
  | c :: rest =>
    (if separator.truthy then [.separator separator] else []) ++
      ([.operand c] ++ tailPieces separator rest)

/-- The pieces of a concatenation. -/
def concatPieces (separator : Value) : List Value → List Piece
  | [] => []
  | c :: rest => [.operand c] ++ tailPieces separator rest

/-- The source of a function, if it is not whole rows. -/
def sourcePieces : Value → List Piece
  | .null => []
  | v => [.operand v]

/-- The pieces of a field. -/
def pieces : Field → List Piece
  | .column .. | .wildcard _ => []
  | .function _ source _ _ argument => sourcePieces source ++ (argument.map .operand).toList
  | .concat columns _ separator =>
    match columns.items with
    | .ok items => concatPieces separator items
    | .error _ => []
  | .subquery query _ => [.operand query]

end Field

/-- The pieces of a table that is joined: the two sides of each equality. -/
def Table.pieces (t : Table) : List Piece :=
  match t.joins with
  | .record entries => entries.flatMap fun e => [.operand (.column t.label e.1), .operand e.2]
  | _ => []

namespace Condition

/-- The pieces of a comparison with an operator of a kind. -/
def comparisonPieces (left right : Value) (kind : OperatorKind) : List Piece :=
  match kind with
  | .nullTest => [.operand left]
  | .pattern .. =>
    if right.isQuery then [.operand left, .operand right] else [.operand left, .matched right]
  | .membership _ =>
    if right.isQuery then [.operand left, .operand right]
    else
      match right.members? with
      | none | some [] => []
      | some items => .operand left :: items.map .operand
  | .range =>
    if right.isQuery then [.operand left, .operand right]
    else
      match right.pair? with
      | none => []
      | some (low, high) => [.operand left, .operand low, .operand high]
  | .plain => [.operand left, .operand right]

/-- The pieces of a node. -/
def pieces : Condition → List Piece
  | .comparison left right operator _ =>
    match operatorName operator with
    | .ok keyword => comparisonPieces left right (OperatorKind.ofName keyword)
    | .error _ => []
  | _ => []

end Condition

/-- The pieces of a query: those of its fields, of its joined tables and of its conditions. -/
def Select.pieces (q : Select) : List Piece :=
  q.fields.flatMap Field.pieces ++ (q.tables.tail.flatMap Table.pieces ++
    (if q.conditions.truthy then
      match q.conditions.items with
      | .ok items => items.flatMap fun v => (Condition.ofValue v).pieces
      | .error _ => []
    else []))

/-! ### Values of pattern tests -/

theorem Field.matched_not_mem (f : Field) (v : Value) : .matched v ∉ f.pieces := by
  have htail : ∀ separator columns, .matched v ∉ tailPieces separator columns := by
    intro separator columns
    induction columns with
    | nil => exact List.not_mem_nil
    | cons c rest ih =>
      cases hgiven : separator.truthy <;> simp [tailPieces, hgiven, ih]
  cases f with
  | column | wildcard | subquery => simp [pieces]
  | function name source distinct aliasName argument =>
    have hsource : .matched v ∉ sourcePieces source := by cases source <;> simp [sourcePieces]
    cases argument <;> simp [pieces, hsource]
  | concat columns aliasName separator =>
    rw [pieces]
    rcases columns.items with f | _ | ⟨c, rest⟩
    · exact List.not_mem_nil
    · exact List.not_mem_nil
    · simp [concatPieces, htail]

theorem Table.matched_not_mem (t : Table) (v : Value) : .matched v ∉ t.pieces := by
  rw [pieces]
  cases t.joins <;> simp

theorem Condition.isQuery_of_matched {left right v : Value} {kind : OperatorKind}
    (hv : .matched v ∈ comparisonPieces left right kind) : v.isQuery = false := by
  cases kind with
  | nullTest | plain => simp [comparisonPieces] at hv
  | pattern =>
    simp only [comparisonPieces] at hv
    split at hv
    · simp at hv
    · rename_i hquery
      obtain rfl : v = right := by simpa using hv
      simpa using hquery
  | membership =>
    simp only [comparisonPieces] at hv
    split at hv
    · simp at hv
    · split at hv <;> simp at hv
  | range =>
    simp only [comparisonPieces] at hv
    split at hv
    · simp at hv
    · split at hv <;> simp at hv

/-- A query is never the value of a pattern test: there it is an operand. -/
theorem Select.isQuery_of_matched {q : Select} {v : Value} (hv : .matched v ∈ q.pieces) :
    v.isQuery = false := by
  rw [pieces, List.mem_append, List.mem_append] at hv
  rcases hv with hv | hv | hv
  · obtain ⟨f, -, hv⟩ := List.mem_flatMap.mp hv
    exact absurd hv (f.matched_not_mem v)
  · obtain ⟨t, -, hv⟩ := List.mem_flatMap.mp hv
    exact absurd hv (t.matched_not_mem v)
  · split at hv
    · split at hv
      · obtain ⟨node, -, hv⟩ := List.mem_flatMap.mp hv
        unfold Condition.pieces at hv
        split at hv
        · split at hv
          · exact Condition.isQuery_of_matched hv
          · cases hv
        · cases hv
      · cases hv
    · cases hv

/-! ### Operands -/

namespace MarkedScope

/-- What a scope shows for a piece. -/
inductive Shows (s : MarkedScope) : Piece → Marked Value → Prop where
  /-- A column is a reference by its quoted names. -/
  | column {table name : Value} {t c : Option String} (ht : table.name? = .ok t)
      (hc : name.name? = .ok c) :
      Shows s (.operand (.column table name)) (plain (s.dialect.column t c))
  /-- A query is its own text in parentheses. -/
  | query {g : Handle} {labels : Labels} {t : Marked Value} (ht : s.nested g = .ok t) :
      Shows s (.operand (.query g labels)) (plain "(" ++ t ++ plain ")")
  | value {v : Value} (hv : v.isBound = true) : Shows s (.operand v) (bound v)
  | matched (v : Value) : Shows s (.matched v) (bound v)
  | separator (v : Value) : Shows s (.separator v) (bound v)

/-- A scope that has every text of another one shows all that the other shows. -/
theorem Shows.mono {d : Dialect} {n n' : Handle → Except Fault (Marked Value)}
    (h : ∀ g t, n g = .ok t → n' g = .ok t) {p : Piece} {t : Marked Value}
    (hp : Shows ⟨d, n⟩ p t) : Shows ⟨d, n'⟩ p t := by
  cases hp with
  | column ht hc => exact .column ht hc
  | query ht => exact .query (h _ _ ht)
  | value hv => exact .value hv
  | matched v => exact .matched v
  | separator v => exact .separator v

variable (s : MarkedScope)

theorem column_woven (table name : Value) : Gives (s.column table name) (Woven s.Shows []) :=
  .map (.trivial _) fun text _ => .plain text

theorem operand_woven (v : Value) : Gives (s.operand v) (Woven s.Shows [.operand v]) := by
  cases v with
  | column table name =>
    rw [operand, column, Dialect.columnName]
    cases ht : table.name? with
    | error f => exact .error f
    | ok t =>
      cases hc : name.name? with
      | error f => exact .error f
      | ok c => exact .ok (.single (.column ht hc))
  | query g labels =>
    rw [operand]
    cases ht : s.nested g with
    | error f => exact .error f
    | ok t => exact .ok (.single (.query ht))
  | _ => exact .ok (.single (.value rfl))

theorem underAlias_woven {ps : List Piece} {t : Marked Value} (ht : Woven s.Shows ps t)
    (aliasName : Value) : Gives (s.underAlias t aliasName) (Woven s.Shows ps) := by
  refine .map (.trivial _) fun a _ => ?_
  cases a with
  | none => exact ht
  | some a => exact ht.append_plain _

theorem concat_woven {ps : List Piece} {parts : List (Marked Value)}
    (h : AllWoven s.Shows ps parts) : Woven s.Shows ps (s.concat parts) := by
  rw [concat]
  split
  all_goals exact ((Woven.intercalate _ h).append_plain _).plain_append _

theorem pattern_woven (v : Value) (leading trailing : Bool) :
    Woven s.Shows [.matched v] (s.pattern v leading trailing) := by
  have hwildcard : ∀ b : Bool, AllWoven s.Shows [] (if b then [plain "'%'"] else []) := by
    intro b
    cases b with
    | true => exact .cons (.plain "'%'") .nil
    | false => exact .nil
  have hvalue : AllWoven s.Shows [.matched v] [bound v] := .cons (.single (.matched v)) .nil
  exact s.concat_woven (((hwildcard leading).append hvalue).append (hwildcard trailing))

end MarkedScope

variable (s : MarkedScope)

/-! ### Fields -/

namespace Field

/-- A column that is written in its place is an operand. -/
theorem markedColumn_woven (v : Value) : Gives (markedColumn s v) (Woven s.Shows [.operand v]) := by
  cases v with
  | column table name => exact s.operand_woven (.column table name)
  | _ => exact .error _

theorem markedTail_woven (separator : Value) (columns : List Value) :
    Gives (markedTail s separator columns) (AllWoven s.Shows (tailPieces separator columns)) := by
  induction columns with
  | nil => exact .ok .nil
  | cons c rest ih =>
    refine (markedColumn_woven s c).bind fun part hpart => ih.bind fun parts hparts => .ok ?_
    refine AllWoven.append ?_ (.cons hpart hparts)
    split
    · exact .cons (.single (.separator separator)) .nil
    · exact .nil

theorem markedParts_woven (separator : Value) (columns : List Value) :
    Gives (markedParts s separator columns) (AllWoven s.Shows (concatPieces separator columns)) := by
  cases columns with
  | nil => exact .ok .nil
  | cons c rest =>
    refine (markedColumn_woven s c).bind fun part hpart => ?_
    exact (markedTail_woven s separator rest).bind fun parts hparts => .ok (.cons hpart hparts)

theorem markedSource_woven (name distinct source : Value) :
    Gives (markedSource s name distinct source) (Woven s.Shows (sourcePieces source)) := by
  cases source with
  | null =>
    rw [markedSource]
    split
    · exact .bind (.trivial _) fun _ _ => .error _
    · exact .ok (.plain "*")
  | column table c => exact s.operand_woven (.column table c)
  | query h labels => exact s.operand_woven (.query h labels)
  | _ => exact .error _

theorem markedArgument_woven (argument : Option Value) : Gives (markedArgument s argument)
    (Woven s.Shows (argument.map Piece.operand).toList) := by
  cases argument with
  | none => exact .ok (.plain "")
  | some v => exact (s.operand_woven v).bind fun t ht => .ok (ht.plain_append ", ")

theorem marked_woven (f : Field) : Gives (f.marked s) (Woven s.Shows f.pieces) := by
  cases f with
  | column table name aliasName =>
    exact (s.column_woven table name).bind fun t ht => s.underAlias_woven ht aliasName
  | wildcard table => exact s.column_woven table (.text "*")
  | function name source distinct aliasName argument =>
    refine (markedSource_woven s name distinct source).bind fun inner hinner => ?_
    refine (markedArgument_woven s argument).bind fun second hsecond => ?_
    refine .bind (.trivial _) fun called _ => s.underAlias_woven ?_ aliasName
    exact ((hinner.append (hsecond.append_plain ")")).plain_append _).plain_append _
  | concat columns aliasName separator =>
    simp only [marked, pieces]
    cases columns.items with
    | error f => exact .error f
    | ok items =>
      refine (markedParts_woven s separator items).bind fun parts hparts => ?_
      exact s.underAlias_woven (s.concat_woven hparts) aliasName
  | subquery query aliasName =>
    cases query with
    | query h labels =>
      exact (s.operand_woven (.query h labels)).bind fun t ht => s.underAlias_woven ht aliasName
    | _ => exact .error _

end Field

/-! ### Tables -/

namespace Table

variable (t : Table)

theorem markedEquality_woven (column target : Value) : Gives (t.markedEquality s column target)
    (Woven s.Shows [.operand (.column t.label column), .operand target]) := by
  have hleft := s.operand_woven (.column t.label column)
  refine hleft.bind fun left hleft => ?_
  have hright : Gives (s.operand target >>= fun right => .ok (left ++ (plain " = " ++ right)))
      (Woven s.Shows ([.operand (.column t.label column)] ++ [.operand target])) :=
    (s.operand_woven target).bind fun right hright => .ok (hleft.append (hright.plain_append " = "))
  cases target with
  | query h labels => exact .bind (.trivial _) fun _ _ => .error _
  | _ => exact hright

theorem markedEqualities_woven (entries : List (Value × Value)) :
    Gives (t.markedEqualities s entries) (AllWoven s.Shows
      (entries.flatMap fun e => [.operand (.column t.label e.1), .operand e.2])) := by
  induction entries with
  | nil => exact .ok .nil
  | cons e rest ih =>
    refine (markedEquality_woven s t e.1 e.2).bind fun first hfirst => ?_
    exact ih.bind fun texts htexts => .ok (.cons hfirst htexts)

theorem markedOn_woven : Gives (t.markedOn s) (Woven s.Shows t.pieces) := by
  rw [markedOn, pieces]
  cases hjoins : t.joins with
  | record entries =>
    cases entries with
    | nil => exact .ok (.plain "")
    | cons e rest =>
      refine (markedEqualities_woven s t (e :: rest)).bind fun texts htexts => .ok ?_
      exact ((Woven.intercalate " AND " htexts).append_plain ")").plain_append " ON ("
  | _ =>
    split
    · exact .ok (.plain "")
    · exact .error _

/-- The first table has no join. -/
theorem marked_woven_first : Gives (t.marked s true) (Woven s.Shows []) :=
  .bind (.trivial _) fun sql _ => .ok (.plain sql)

theorem marked_woven : Gives (t.marked s false) (Woven s.Shows t.pieces) := by
  refine .bind (.trivial _) fun sql _ => .bind (.trivial _) fun keyword _ => ?_
  exact (markedOn_woven s t).bind fun condition hcondition => .ok (hcondition.plain_append _)

end Table

/-! ### Conditions -/

namespace Condition

theorem markedAll_woven (vs : List Value) :
    Gives (markedAll s vs) (AllWoven s.Shows (vs.map Piece.operand)) := by
  induction vs with
  | nil => exact .ok .nil
  | cons v vs ih =>
    refine (s.operand_woven v).bind fun t ht => ?_
    exact ih.bind fun texts htexts => .ok (.cons ht htexts)

variable (left right : Value)

theorem markedPlain_woven (operator : Value) : Gives (markedPlain s left right operator)
    (Woven s.Shows [.operand left, .operand right]) := by
  refine (s.operand_woven left).bind fun l hl => .bind (.trivial _) fun shown _ => ?_
  exact (s.operand_woven right).bind fun r hr => .ok (hl.append (hr.plain_append _))

theorem markedComparison_woven (operator combinator : Value) :
    Gives (markedComparison s left right operator)
      (Woven s.Shows (comparison left right operator combinator).pieces) := by
  have hplain := markedPlain_woven s left right operator
  have hleft := s.operand_woven left
  refine Gives.bind (P := fun keyword => operatorName operator = .ok keyword) (fun _ h => h) ?_
  intro keyword hkeyword
  rw [pieces, hkeyword]
  change Gives _ (Woven s.Shows (comparisonPieces left right (OperatorKind.ofName keyword)))
  cases OperatorKind.ofName keyword with
  | nullTest => exact hleft.bind fun l hl => .ok (hl.append_plain _)
  | pattern name leading trailing =>
    simp only [comparisonPieces]
    split
    · exact hplain
    · refine hleft.bind fun l hl => .ok ?_
      exact hl.append ((s.pattern_woven right leading trailing).plain_append _)
  | membership negated =>
    simp only [comparisonPieces]
    split
    · exact hplain
    · rw [markedMembership]
      rcases right.members? with _ | _ | ⟨v, vs⟩
      · exact .error _
      · exact .ok (.plain _)
      · refine hleft.bind fun l hl => (markedAll_woven s (v :: vs)).bind fun texts htexts => .ok ?_
        exact hl.append (((Woven.intercalate ", " htexts).append_plain ")").plain_append _)
  | range =>
    simp only [comparisonPieces]
    split
    · exact hplain
    · refine hleft.bind fun l hl => ?_
      rcases right.pair? with _ | ⟨low, high⟩
      · exact .error _
      · refine (s.operand_woven low).bind fun lo hlo => ?_
        refine (s.operand_woven high).bind fun hi hhi => .ok ?_
        exact hl.append ((hlo.append (hhi.plain_append " AND ")).plain_append " BETWEEN ")
  | plain => exact hplain

theorem markedJoiner_woven (bare : Bool) (combinator : Value) :
    Gives (markedJoiner bare combinator) (Woven s.Shows []) := by
  cases bare with
  | true => exact .ok (.plain "")
  | false => exact .bind (.trivial _) fun shown _ => .ok (.plain _)

theorem markedList_woven (nodes : List Condition) (bare : Bool) :
    Gives (markedList s bare nodes) (Woven s.Shows (nodes.flatMap pieces)) := by
  induction nodes generalizing bare with
  | nil => exact .ok (.plain "")
  | cons node rest ih =>
    cases node with
    | groupStart combinator =>
      refine (markedJoiner_woven s bare combinator).bind fun link hlink => ?_
      exact (ih true).bind fun text htext => .ok (hlink.append (htext.plain_append "("))
    | groupEnd combinator =>
      exact (ih false).bind fun text htext => .ok (htext.plain_append ")")
    | comparison left right operator combinator =>
      refine (markedJoiner_woven s bare combinator).bind fun link hlink => ?_
      refine (markedComparison_woven s left right operator combinator).bind fun first hfirst => ?_
      exact (ih false).bind fun text htext => .ok (hlink.append (hfirst.append htext))
    | unknown v => exact .bind (.trivial _) fun _ _ => .error _

end Condition

/-! ### Queries -/

namespace Select

theorem markedFields_woven (fields : List Field) :
    Gives (markedFields s fields) (AllWoven s.Shows (fields.flatMap Field.pieces)) := by
  induction fields with
  | nil => exact .ok .nil
  | cons f fs ih =>
    refine (f.marked_woven s).bind fun text htext => ?_
    exact ih.bind fun texts htexts => .ok (.cons htext htexts)

theorem markedTables_woven_joined (tables : List Table) :
    Gives (markedTables s false tables) (AllWoven s.Shows (tables.flatMap Table.pieces)) := by
  induction tables with
  | nil => exact .ok .nil
  | cons t ts ih =>
    refine (t.marked_woven s).bind fun text htext => ?_
    exact ih.bind fun texts htexts => .ok (.cons htext htexts)

theorem markedTables_woven (tables : List Table) :
    Gives (markedTables s true tables) (AllWoven s.Shows (tables.tail.flatMap Table.pieces)) := by
  cases tables with
  | nil => exact .ok .nil
  | cons t ts =>
    refine (t.marked_woven_first s).bind fun text htext => ?_
    exact (markedTables_woven_joined s ts).bind fun texts htexts => .ok (.cons htext htexts)

theorem markedConditions_woven (conditions : Value) :
    Gives (markedConditions s conditions) (Woven s.Shows
      (if conditions.truthy then
        match conditions.items with
        | .ok items => items.flatMap fun v => (Condition.ofValue v).pieces
        | .error _ => []
      else [])) := by
  rw [markedConditions]
  cases conditions.truthy with
  | false => exact .ok (.plain "")
  | true =>
    rw [Condition.markedNodes]
    cases conditions.items with
    | error f => exact .error f
    | ok items =>
      have hlist := Condition.markedList_woven s (items.map Condition.ofValue) true
      rw [List.flatMap_map] at hlist
      exact hlist.bind fun text htext => .ok (htext.plain_append " WHERE ")

/-- **The text of a query is woven from its pieces.** -/
theorem marked_woven (q : Select) : Gives (q.marked s) (Woven s.Shows q.pieces) := by
  refine (markedFields_woven s q.fields).bind fun fields hfields => ?_
  refine (markedTables_woven s q.tables).bind fun tables htables => ?_
  refine (markedConditions_woven s q.conditions).bind fun conditions hconditions => ?_
  refine .bind (.trivial _) fun order _ => .bind (.trivial _) fun page _ => .ok ?_
  have hbehind := (Woven.intercalate " " htables).append (hconditions.append_plain (order ++ page))
  exact ((Woven.intercalate ", " hfields).append (hbehind.plain_append " FROM ")).plain_append
    "SELECT "

end Select

end FluentSql
