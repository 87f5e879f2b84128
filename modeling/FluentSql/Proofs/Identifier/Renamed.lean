import FluentSql.Proofs.Identifier.Scan
import FluentSql.Proofs.Independence.Alike
import FluentSql.Proofs.Outline.Query
import FluentSql.Proofs.Placeholder.Verbatim

/-!
# Queries that differ in their identifiers

Two models are renamings of one another if they differ only in names. `N` says which names of the
two correspond to each other, and may be any relation: what is proved for all of them tracks each
name from its place in a model to its place in the text. `R` does the same for the queries that are
embedded. What is written as the caller gave it has to be free of the quotes of the dialect.

The outlines of two such queries differ in their names only. No name in them touches another one, so
each is read back by itself, and the texts have the same lexemes (`Outline.Renamed.lexemes`).
-/

namespace FluentSql

open Marked

variable (d : Dialect) (R : Handle → Handle → Prop) (N : String → String → Prop)

/-! ### Text without quotes -/

/-- Text without a quote of a dialect. -/
def Dialect.Unquoted (s : String) : Prop :=
  d.quoteChar ∉ s.toList

/-- A value that shows no quote of a dialect, if it shows any text. -/
def Value.IsUnquoted (v : Value) : Prop :=
  Gives v.display d.Unquoted

variable {d} in
theorem Dialect.Unquoted.append {s t : String} (hs : d.Unquoted s) (ht : d.Unquoted t) :
    d.Unquoted (s ++ t) := by
  rw [Unquoted, String.toList_append, List.mem_append]
  exact not_or.mpr ⟨hs, ht⟩

/-- Clean text has no quotes at all. -/
theorem Clean.unquoted {s : String} (hs : Clean s) : d.Unquoted s := by
  intro hmem
  have hbare := hs d.quoteChar hmem
  rw [isBare, d.isQuote_quoteChar] at hbare
  cases hbare

/-! ### Parts of a query -/

/-- Two values in the place of a name: the same value, or texts of which each is a name. -/
inductive Value.Renamed : Value → Value → Prop where
  | same {v : Value} (h : Gives v.name? fun name => ∀ a ∈ name, N a a) : Renamed v v
  | text {a b : String} (ha : a ≠ "") (hb : b ≠ "") (hastar : a ≠ "*") (hbstar : b ≠ "*")
      (hN : N a b) : Renamed (.text a) (.text b)

/-- Two operands: columns by names that correspond, queries that do, or the same bound value. -/
inductive Value.OperandRenamed : Value → Value → Prop where
  | column {table table' name name' : Value} (ht : Value.Renamed N table table')
      (hc : Value.Renamed N name name') :
      OperandRenamed (.column table name) (.column table' name')
  | query {g h : Handle} {labels labels' : Labels} (hR : R g h) :
      OperandRenamed (.query g labels) (.query h labels')
  | same {v : Value} (hv : v.isBound = true) : OperandRenamed v v

/-- Two right sides of comparisons: operands that are no collections, or collections of a kind with
as many operands. -/
inductive Value.RightRenamed : Value → Value → Prop where
  | operand {v w : Value} (hv : v.members? = none) (h : Value.OperandRenamed R N v w) :
      RightRenamed v w
  | list {vs ws : List Value} (h : List.Forall₂ (Value.OperandRenamed R N) vs ws) :
      RightRenamed (.list vs) (.list ws)
  | tuple {vs ws : List Value} (h : List.Forall₂ (Value.OperandRenamed R N) vs ws) :
      RightRenamed (.tuple vs) (.tuple ws)
  | set {frozen : Bool} {vs ws : List Value}
      (h : List.Forall₂ (Value.OperandRenamed R N) vs ws) :
      RightRenamed (.set frozen vs) (.set frozen ws)

/-- Two fields. -/
inductive Field.Renamed : Field → Field → Prop where
  | column {table table' name name' aliasName aliasName' : Value}
      (ht : Value.Renamed N table table') (hc : Value.Renamed N name name')
      (ha : Value.Renamed N aliasName aliasName') :
      Renamed (.column table name aliasName) (.column table' name' aliasName')
  | wildcard {table table' : Value} (ht : Value.Renamed N table table') :
      Renamed (.wildcard table) (.wildcard table')
  | function {name source source' distinct aliasName aliasName' : Value}
      {argument argument' : Option Value} (hname : name.IsUnquoted d)
      (hs : Value.OperandRenamed R N source source') (ha : Value.Renamed N aliasName aliasName')
      (harg : Option.Rel (Value.OperandRenamed R N) argument argument') :
      Renamed (.function name source distinct aliasName argument)
        (.function name source' distinct aliasName' argument')
  | concat {columns columns' aliasName aliasName' separator : Value}
      (hcolumns : Agree (List.Forall₂ (Value.OperandRenamed R N)) columns.items columns'.items)
      (ha : Value.Renamed N aliasName aliasName') :
      Renamed (.concat columns aliasName separator) (.concat columns' aliasName' separator)
  | subquery {query query' aliasName aliasName' : Value}
      (hq : Value.OperandRenamed R N query query') (ha : Value.Renamed N aliasName aliasName') :
      Renamed (.subquery query aliasName) (.subquery query' aliasName')

/-- Two joins: as many equalities, whose columns are names that correspond. -/
inductive Value.JoinsRenamed : Value → Value → Prop where
  | record {entries entries' : List (Value × Value)}
      (h : List.Forall₂ (fun e f => Value.Renamed N e.1 f.1 ∧ Value.OperandRenamed R N e.2 f.2)
        entries entries') : JoinsRenamed (.record entries) (.record entries')
  | other {v : Value} (hv : ∀ entries, v ≠ .record entries) : JoinsRenamed v v

/-- Two tables. -/
structure Table.Renamed (t t' : Table) : Prop where
  schema : Value.Renamed N t.schema t'.schema
  table : Value.Renamed N t.table t'.table
  aliasName : Value.Renamed N t.aliasName t'.aliasName
  joins : Value.JoinsRenamed R N t.joins t'.joins
  join : t.join = t'.join
  keyword : ∀ left right operator combinator,
    t.join = .comparison left right operator combinator → right.IsUnquoted d

/-- Two nodes of condition lists. -/
inductive Condition.Renamed : Condition → Condition → Prop where
  | comparison {left left' right right' operator combinator : Value}
      (hl : Value.OperandRenamed R N left left') (hr : Value.RightRenamed R N right right')
      (ho : operator.IsUnquoted d) (hc : combinator.IsUnquoted d) :
      Renamed (.comparison left right operator combinator)
        (.comparison left' right' operator combinator)
  | groupStart {combinator : Value} (hc : combinator.IsUnquoted d) :
      Renamed (.groupStart combinator) (.groupStart combinator)
  | groupEnd (combinator : Value) : Renamed (.groupEnd combinator) (.groupEnd combinator)
  | unknown (v : Value) : Renamed (.unknown v) (.unknown v)

/-- Two sort keys. -/
structure SortKey.Renamed (k k' : SortKey) : Prop where
  table : Value.Renamed N k.table k'.table
  column : Value.Renamed N k.column k'.column
  direction : k.direction = k'.direction
  shown : k.direction.IsUnquoted d

/-- Two queries. -/
structure Select.Renamed (q q' : Select) : Prop where
  fields : List.Forall₂ (Field.Renamed d R N) q.fields q'.fields
  tables : List.Forall₂ (Table.Renamed d R N) q.tables q'.tables
  truthy : q.conditions.truthy = q'.conditions.truthy
  conditions : Agree
    (List.Forall₂ fun v w => Condition.Renamed d R N (.ofValue v) (.ofValue w))
    q.conditions.items q'.conditions.items
  order : List.Forall₂ (SortKey.Renamed d N) q.order q'.order
  page : q.page = q'.page
  limit : q.limit = q'.limit

/-- The queries of two stores that correspond are renamings of one another, and those of the second
store are there. -/
structure Store.Renames (s t : Store) : Prop where
  lt {g h : Handle} (hgh : R g h) : h < t.queries.size
  renamed {g h : Handle} (hgh : R g h) : Select.Renamed d R N (s.select g) (t.select h)

/-! ### Outlines -/

/-- An outline that does not begin with a name. -/
def Outline.Apart (o : Outline) : Prop :=
  ∀ s rest, o ≠ .marker (.name s) :: rest

/-- Two outlines that differ in their names only, and bind anything. No name touches another one,
and there are no other quotes. -/
inductive Outline.Renamed : Outline → Outline → Prop where
  | nil : Renamed [] []
  | letter {c : Char} {o o' : Outline} (hc : c ≠ d.quoteChar) (h : Renamed o o') :
      Renamed (.letter c :: o) (.letter c :: o')
  | value (v w : Value) {o o' : Outline} (h : Renamed o o') :
      Renamed (.marker (.value v) :: o) (.marker (.value w) :: o')
  | name {a b : String} {o o' : Outline} (hN : N a b) (ho : Outline.Apart o) (h : Renamed o o') :
      Renamed (.marker (.name a) :: o) (.marker (.name b) :: o')
  | opening {o o' : Outline} (h : Renamed o o') :
      Renamed (.marker .opening :: o) (.marker .opening :: o')
  | gap {o o' : Outline} (h : Renamed o o') : Renamed (.marker .gap :: o) (.marker .gap :: o')
  | page {offset size : String} {o o' : Outline} (hoffset : d.Unquoted offset)
      (hsize : d.Unquoted size) (h : Renamed o o') :
      Renamed (.marker (.page offset size) :: o) (.marker (.page offset size) :: o')

/-- Two renamings that may stand behind any others, since they do not begin with a name. -/
structure Outline.RenamedApart (o o' : Outline) : Prop where
  renamed : Outline.Renamed d N o o'
  apart : Outline.Apart o

/-- Two lexemes: the same character, or names that correspond. -/
inductive Lexeme.Renamed : Lexeme → Lexeme → Prop where
  | char (c : Char) : Renamed (.char c) (.char c)
  | name {a b : String} (hN : N a b) : Renamed (.name a) (.name b)

variable {d R N}

namespace Outline

theorem apart_nil : Apart [] :=
  nofun

theorem apart_plain_append {s : String} (hne : s ≠ "") (o : Outline) : Apart (plain s ++ o) := by
  intro a rest h
  rcases hcs : s.toList with _ | ⟨c, cs⟩
  · exact hne (String.toList_eq_nil_iff.mp hcs)
  · rw [plain, hcs] at h
    cases h

theorem apart_plain {s : String} (hne : s ≠ "") : Apart (plain s) := by
  rw [← List.append_nil (plain s)]
  exact apart_plain_append hne []

theorem Apart.append {o p : Outline} (ho : Apart o) (hp : Apart p) : Apart (o ++ p) := by
  cases o with
  | nil => exact hp
  | cons g o =>
    intro a rest h
    obtain ⟨rfl, -⟩ := List.cons.inj h
    exact ho a o rfl

variable {o o' p p' : Outline} {s : String}

namespace Renamed

theorem append (h : Renamed d N o o') (hp : RenamedApart d N p p') :
    Renamed d N (o ++ p) (o' ++ p') := by
  -- only a name at the end of the first outline meets what follows
  induction h with
  | nil => exact hp.renamed
  | letter hc _ ih => exact .letter hc ih
  | value v w _ ih => exact .value v w ih
  | name hN ho _ ih => exact .name hN (ho.append hp.apart) ih
  | opening _ ih => exact .opening ih
  | gap _ ih => exact .gap ih
  | page hoffset hsize _ ih => exact .page hoffset hsize ih

theorem plain_append (hs : d.Unquoted s) (hp : Renamed d N p p') :
    Renamed d N (plain s ++ p) (plain s ++ p') := by
  have hletters : ∀ cs : List Char, d.quoteChar ∉ cs →
      Renamed d N (cs.map Glyph.letter ++ p) (cs.map Glyph.letter ++ p') := by
    intro cs hcs
    induction cs with
    | nil => exact hp
    | cons c cs ih =>
      rw [List.mem_cons, not_or] at hcs
      exact .letter (Ne.symm hcs.1) (ih hcs.2)
  exact hletters s.toList hs

theorem plain (hs : d.Unquoted s) : Renamed d N (plain s) (plain s) := by
  rw [← List.append_nil (Marked.plain s)]
  exact plain_append hs .nil

end Renamed

namespace RenamedApart

theorem nil : RenamedApart d N [] [] :=
  ⟨.nil, apart_nil⟩

theorem plain_append (hs : d.Unquoted s) (hne : s ≠ "") (hp : Renamed d N p p') :
    RenamedApart d N (Marked.plain s ++ p) (Marked.plain s ++ p') :=
  ⟨.plain_append hs hp, apart_plain_append hne p⟩

theorem plain (hs : d.Unquoted s) (hne : s ≠ "") :
    RenamedApart d N (Marked.plain s) (Marked.plain s) :=
  ⟨.plain hs, apart_plain hne⟩

theorem append (h : RenamedApart d N o o') (hp : RenamedApart d N p p') :
    RenamedApart d N (o ++ p) (o' ++ p') :=
  ⟨h.renamed.append hp, h.apart.append hp.apart⟩

end RenamedApart

namespace Renamed

theorem append_plain_append (h : Renamed d N o o') (hs : d.Unquoted s) (hne : s ≠ "")
    (hp : Renamed d N p p') :
    Renamed d N (o ++ (Marked.plain s ++ p)) (o' ++ (Marked.plain s ++ p')) :=
  h.append (.plain_append hs hne hp)

theorem append_plain (h : Renamed d N o o') (hs : d.Unquoted s) (hne : s ≠ "") :
    Renamed d N (o ++ Marked.plain s) (o' ++ Marked.plain s) :=
  h.append (.plain hs hne)

theorem bound_name {a b : String} (hN : N a b) : Renamed d N (bound (.name a)) (bound (.name b)) :=
  .name hN apart_nil .nil

theorem bound_value (v w : Value) : Renamed d N (bound (.value v)) (bound (.value w)) :=
  .value v w .nil

theorem intercalate {os os' : List Outline} (hs : d.Unquoted s) (hne : s ≠ "")
    (h : List.Forall₂ (Renamed d N) os os') :
    Renamed d N (intercalate s os) (intercalate s os') := by
  induction h with
  | nil => exact .nil
  | cons ho hrest ih =>
    cases hrest with
    | nil => simpa using ho
    | cons =>
      rw [intercalate_cons_cons, intercalate_cons_cons]
      exact ho.append_plain_append hs hne ih

/-- The parts of a concatenation, with gaps between them. -/
theorem gaps {os os' : List Outline} (h : List.Forall₂ (Renamed d N) os os') :
    Renamed d N (List.intercalate (bound .gap) os) (List.intercalate (bound .gap) os') := by
  induction h with
  | nil => exact .nil
  | cons ho hrest ih =>
    cases hrest with
    | nil => simpa [List.intercalate] using ho
    | @cons p p' ps ps' =>
      have hgap : Renamed d N (bound .gap ++ List.intercalate (bound .gap) (p :: ps))
          (bound .gap ++ List.intercalate (bound .gap) (p' :: ps')) := .gap ih
      simpa [List.intercalate] using ho.append ⟨hgap, nofun⟩

end Renamed

/-! ### Lexemes -/

/-- The characters that a dialect writes for an outline. -/
def chars (d : Dialect) (o : Outline) : List Char :=
  (write d o).map Glyph.char

theorem chars_letter (d : Dialect) (c : Char) (o : Outline) :
    chars d (.letter c :: o) = c :: chars d o :=
  rfl

theorem chars_marker (d : Dialect) (a : Token) (o : Outline) :
    chars d (.marker a :: o) = (a.write d).map Glyph.char ++ chars d o := by
  rw [chars, write, List.flatMap_cons, List.map_append]
  rfl

end Outline

theorem Marked.map_char_plain {α : Type} (s : String) :
    (plain s : Marked α).map Glyph.char = s.toList := by
  have hchar : Glyph.char ∘ (Glyph.letter : Char → Glyph α) = id := rfl
  rw [plain, List.map_map, hchar, List.map_id]

/-- What a dialect writes for a token has no quotes, and is not empty. -/
structure Token.IsUnquoted (d : Dialect) (a : Token) : Prop where
  unquoted : d.quoteChar ∉ (a.write d).map Glyph.char
  nonempty : (a.write d).map Glyph.char ≠ []

namespace Token

theorem isUnquoted_value (d : Dialect) (v : Value) : (value v).IsUnquoted d := by
  refine ⟨?_, nofun⟩
  cases d <;> simp [write, bound, Glyph.char, Dialect.quoteChar]

theorem isUnquoted_opening (d : Dialect) : opening.IsUnquoted d := by
  cases d
  all_goals
    refine ⟨?_, ?_⟩
    all_goals
      rw [write, map_char_plain]
      decide

theorem isUnquoted_gap (d : Dialect) : gap.IsUnquoted d := by
  cases d
  all_goals
    refine ⟨?_, ?_⟩
    all_goals
      rw [write, map_char_plain]
      decide

theorem isUnquoted_page {offset size : String} (ho : d.Unquoted offset) (hs : d.Unquoted size) :
    (page offset size).IsUnquoted d := by
  have hlimit : d.Unquoted (d.limit offset size) := by
    have hpostgresql := (((Clean.unquoted d (s := "LIMIT ") (by decide)).append hs).append
      (Clean.unquoted d (s := " OFFSET ") (by decide))).append ho
    have hothers := (((Clean.unquoted d (s := "LIMIT ") (by decide)).append ho).append
      (Clean.unquoted d (s := ", ") (by decide))).append hs
    cases d with
    | postgresql => exact hpostgresql
    | ansi | mysql | sqlite => exact hothers
  refine ⟨?_, ?_⟩
  · rw [write, map_char_plain]
    exact hlimit
  · rw [write, map_char_plain]
    cases d <;> simp [Dialect.limit]

end Token

theorem lexemes_unquoted {q : Char} {cs : List Char} (hcs : q ∉ cs) (rest : List Char) :
    lexemes q (cs ++ rest) = cs.map .char ++ lexemes q rest := by
  induction cs with
  | nil => rfl
  | cons c cs ih =>
    rw [List.mem_cons, not_or] at hcs
    rw [List.cons_append, lexemes_cons_of_ne (Ne.symm hcs.1), ih hcs.2, List.map_cons,
      List.cons_append]

namespace Outline.Renamed

variable {o o' : Outline}

/-- What does not begin with a name does not begin with a quote. -/
theorem head?_chars (h : Renamed d N o o') (ho : Apart o) :
    (chars d o).head? ≠ some d.quoteChar ∧ (chars d o').head? ≠ some d.quoteChar := by
  have hmarker : ∀ {a : Token} (o : Outline), a.IsUnquoted d →
      (chars d (.marker a :: o)).head? ≠ some d.quoteChar := by
    intro a o ha hhead
    rw [chars_marker] at hhead
    obtain ⟨c, cs, hcs⟩ := List.exists_cons_of_ne_nil ha.nonempty
    rw [hcs] at hhead
    obtain rfl : c = d.quoteChar := Option.some.inj hhead
    exact ha.unquoted (hcs ▸ List.mem_cons_self)
  cases h with
  | nil => exact ⟨nofun, nofun⟩
  | letter hc => exact ⟨fun h => hc (Option.some.inj h), fun h => hc (Option.some.inj h)⟩
  | value v w =>
    exact ⟨hmarker _ (Token.isUnquoted_value d v), hmarker _ (Token.isUnquoted_value d w)⟩
  | name => exact absurd rfl (ho _ _)
  | opening =>
    exact ⟨hmarker _ (Token.isUnquoted_opening d), hmarker _ (Token.isUnquoted_opening d)⟩
  | gap => exact ⟨hmarker _ (Token.isUnquoted_gap d), hmarker _ (Token.isUnquoted_gap d)⟩
  | page hoffset hsize =>
    have hpage := Token.isUnquoted_page hoffset hsize
    exact ⟨hmarker _ hpage, hmarker _ hpage⟩

/-- **The lexemes of two renamings correspond**, one by one. -/
theorem lexemes (h : Renamed d N o o') : List.Forall₂ (Lexeme.Renamed N)
    (lexemes d.quoteChar (chars d o)) (lexemes d.quoteChar (chars d o')) := by
  -- a token without quotes has the same characters on both sides
  have hmarker : ∀ {a b : Token} {o o' : Outline}, a.IsUnquoted d →
      (a.write d).map Glyph.char = (b.write d).map Glyph.char →
      List.Forall₂ (Lexeme.Renamed N) (FluentSql.lexemes d.quoteChar (chars d o))
        (FluentSql.lexemes d.quoteChar (chars d o')) →
      List.Forall₂ (Lexeme.Renamed N)
        (FluentSql.lexemes d.quoteChar (chars d (.marker a :: o)))
        (FluentSql.lexemes d.quoteChar (chars d (.marker b :: o'))) := by
    intro a b o o' ha hab ih
    rw [chars_marker, chars_marker, ← hab, lexemes_unquoted ha.unquoted,
      lexemes_unquoted ha.unquoted]
    refine List.rel_append ?_ ih
    exact List.forall₂_map_left_iff.mpr (List.forall₂_map_right_iff.mpr
      (List.forall₂_same.mpr fun c _ => .char c))
  induction h with
  | nil =>
    rw [show chars d [] = [] from rfl, lexemes_nil]
    exact .nil
  | letter hc _ ih =>
    rw [chars_letter, chars_letter, lexemes_cons_of_ne hc, lexemes_cons_of_ne hc]
    exact .cons (.char _) ih
  | value v w _ ih => exact hmarker (Token.isUnquoted_value d v) rfl ih
  | @name a b o o' hN ho h ih =>
    obtain ⟨hhead, hhead'⟩ := h.head?_chars ho
    rw [chars_marker, chars_marker, Token.write, Token.write, map_char_plain, map_char_plain,
      lexemes_quote d a hhead, lexemes_quote d b hhead']
    exact .cons (.name hN) ih
  | opening _ ih => exact hmarker (Token.isUnquoted_opening d) rfl ih
  | gap _ ih => exact hmarker (Token.isUnquoted_gap d) rfl ih
  | page hoffset hsize _ ih => exact hmarker (Token.isUnquoted_page hoffset hsize) rfl ih

end Outline.Renamed

end FluentSql
