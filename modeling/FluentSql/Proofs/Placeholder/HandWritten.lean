import FluentSql.Adapter
import FluentSql.Proofs.Placeholder.Spans

/-!
# Placeholders of hand-written statements

A statement that was written by hand is a sequence of characters outside of quotes and of quoted
spans, which are identifiers or literals. Each server has its own quotes, and its own rule for a
backslash in a literal. The conversion has one set of rules for both servers. Where the parts that
the server reads are there for the conversion, too, a `?` is a placeholder exactly if it stands
outside of quotes (`Segment.scans_flatMap`).

For each server there are parts that the conversion takes for something else (`Server.Agrees`): for
MySQL literals that escape a line feed in single quotes, or a double quote in double quotes; for
PostgreSQL literals with a backslash before a quote or a line feed, and the backtick.
-/

namespace FluentSql

/-! ### Statements in parts -/

/-- A part of a statement: a character outside of quotes, or a quoted span by its quote and the
characters behind its opening one. -/
inductive Segment where
  | bare (c : Char)
  | quoted (q : Char) (rest : List Char)

namespace Segment

/-- The characters of a part, where a `?` outside of quotes is a placeholder. -/
def marked : Segment → Marked Unit
  | bare c => if c = '?' then [.marker ()] else [.letter c]
  | quoted q rest => (q :: rest).map .letter

/-- The characters of a part. -/
def chars : Segment → List Char
  | bare c => [c]
  | quoted q rest => q :: rest

/-- The parts that there are for a reader: characters that are no quotes, and complete spans. -/
def ReadBy (r : Quotation) : Segment → Prop
  | bare c => r c = none
  | quoted q rest => ∃ b, r q = some b ∧ Closes q b rest

/-- The text of a statement in parts. -/
def sql (segments : List Segment) : String :=
  String.ofList (segments.flatMap chars)

/-- The text of a part in the style `format`: outside of quotes a placeholder becomes `%s`, and
percent signs are doubled everywhere. -/
def formatted : Segment → List Char
  | bare c => if c = '?' then ['%', 's'] else Placeholder.doublePercent [c]
  | quoted q rest => Placeholder.doublePercent (q :: rest)

theorem formatted_eq (g : Segment) : g.marked.flatMap Placeholder.formatted = g.formatted := by
  cases g with
  | bare c =>
    rw [marked, formatted]
    split
    · rfl
    · exact List.flatMap_singleton _ _
  | quoted q rest => exact Placeholder.flatMap_formatted_letters (q :: rest)

/-- The scan of a statement finds its parts, if they are parts for the conversion. Spans that touch
are one span for it, so the second half speaks of a span that has been read before. -/
theorem scans_flatMap {segments : List Segment} (h : ∀ g ∈ segments, g.ReadBy .conversion) :
    Scans (segments.flatMap chars) (segments.flatMap marked) ∧
      ∀ q b rest, Quotation.conversion q = some b → Closes q b rest →
        Scans (q :: (rest ++ segments.flatMap chars))
          ((q :: rest).map .letter ++ segments.flatMap marked) := by
  induction segments with
  | nil =>
    refine ⟨.nil, fun q b rest hq hclose => .span hq (hclose.longest ?_ nofun) .nil⟩
    exact Placeholder.ne_backslash_of_conversion hq
  | cons g segments ih =>
    obtain ⟨hscan, hspan⟩ := ih fun g hg => h g (List.mem_cons_of_mem _ hg)
    -- a span that does not touch another one with its quote ends where it should
    have hapart : ∀ q b rest cs t, Quotation.conversion q = some b → Closes q b rest →
        cs.head? ≠ some q → Scans cs t →
        Scans (q :: (rest ++ cs)) ((q :: rest).map .letter ++ t) :=
      fun q b rest cs t hq hclose hhead hcs =>
        .span hq (hclose.longest (Placeholder.ne_backslash_of_conversion hq) hhead) hcs
    have hg : g.ReadBy .conversion := h g List.mem_cons_self
    cases g with
    | bare c =>
      have hc : Quotation.conversion c = none := hg
      have hfirst : Scans (c :: segments.flatMap chars)
          ((bare c).marked ++ segments.flatMap marked) := by
        rw [marked]
        split
        · rename_i hplaceholder
          rw [hplaceholder]
          exact .placeholder hscan
        · rename_i hletter
          refine .letter hletter (fun b hb => ?_) hscan
          cases hc.symm.trans hb
      refine ⟨hfirst, fun q b rest hq hclose => hapart q b rest _ _ hq hclose ?_ hfirst⟩
      rintro ⟨⟩
      cases hc.symm.trans hq
    | quoted q' rest' =>
      obtain ⟨b', hq', hclose'⟩ := hg
      have hfirst := hspan q' b' rest' hq' hclose'
      refine ⟨hfirst, fun q b rest hq hclose => ?_⟩
      by_cases hqq : q = q'
      · subst hqq
        obtain rfl := Option.some.inj (hq.symm.trans hq')
        have hboth := hspan q b (rest ++ q :: rest') hq (hclose.append hclose')
        simpa [chars, marked] using hboth
      · refine hapart q b rest _ _ hq hclose ?_ hfirst
        rintro ⟨⟩
        exact hqq rfl

/-- A statement whose parts are parts for the conversion is converted part by part. -/
theorem convert_sql {segments : List Segment} (h : ∀ g ∈ segments, g.ReadBy .conversion) :
    Placeholder.convert .format (sql segments) = String.ofList (segments.flatMap formatted) := by
  have hmarks := scans_iff.mp (scans_flatMap h).1
  rw [Placeholder.convert, sql, String.toList_ofList, Placeholder.toFormat_eq, hmarks,
    List.flatMap_assoc]
  exact congrArg (String.ofList <| segments.flatMap ·) (funext formatted_eq)

end Segment

/-! ### Servers -/

/-- The servers whose clients want the style `format`. -/
inductive Server where
  | mysql
  | postgresql

namespace Server

/-- The adapter of a server. -/
def adapter : Server → Adapter
  | mysql => .mysql
  | postgresql => .postgresql

/-- The quotes of a server, as it is set up by default. MySQL has identifiers in backticks, and
literals in single or double quotes, where a backslash escapes any character. PostgreSQL has
identifiers in double quotes, and literals in single quotes, where a backslash stands for itself. -/
def quotation : Server → Quotation
  | mysql, '\x60' => some .ordinary
  | mysql, '\'' | mysql, '"' => some (.escaping fun _ => True)
  | postgresql, '\'' | postgresql, '"' => some .ordinary
  | _, _ => none

/-- The parts of a server that end for the conversion where they end for the server. In literals of
MySQL no line feed is escaped in single quotes, and no double quote in double quotes; literals of
PostgreSQL end where they would end if a backslash escaped every character but a line feed; and
PostgreSQL knows no backticks. -/
def Agrees : Server → Segment → Prop
  | mysql, .quoted '\'' rest => Closes '\'' (.escaping (· ≠ '\n')) rest
  | mysql, .quoted '"' rest => Closes '"' (.escaping (· ≠ '"')) rest
  | postgresql, .quoted '\'' rest => Closes '\'' (.escaping (· ≠ '\n')) rest
  | postgresql, .bare c => c ≠ '\x60'
  | _, _ => True

/-- A backslash that escapes no quote may as well be a character like any other. -/
theorem closes_ordinary {q : Char} {cs : List Char} (hq : q ≠ '\\')
    (h : Closes q (.escaping (· ≠ q)) cs) : Closes q .ordinary cs := by
  induction h with
  | quote => exact .quote
  | doubled _ ih => exact .doubled ih
  | letter hc _ _ ih => exact .letter hc (fun _ => rfl) ih
  | escaped hc _ ih => exact .letter hq.symm (fun _ => rfl) (.letter hc (fun _ => rfl) ih)

theorem readBy_conversion {server : Server} {g : Segment} (hg : g.ReadBy server.quotation)
    (ha : server.Agrees g) : g.ReadBy .conversion := by
  cases g with
  | bare c =>
    cases hc : Quotation.conversion c with
    | none => exact hc
    | some b =>
      -- the quotes of the conversion are quotes of both servers, but for the backtick
      rcases Placeholder.conversion_cases hc with ⟨rfl, -⟩ | ⟨rfl | rfl, -⟩ <;> cases server
      · cases hg
      · cases hg
      · cases hg
      · cases hg
      · cases hg
      · exact absurd rfl ha
  | quoted q rest =>
    obtain ⟨b, hq, hclose⟩ := hg
    unfold quotation at hq
    split at hq
    · cases hq
      exact ⟨_, rfl, hclose⟩
    · exact ⟨_, rfl, ha⟩
    · exact ⟨_, rfl, closes_ordinary (by decide) ha⟩
    · exact ⟨_, rfl, ha⟩
    · cases hq
      exact ⟨_, rfl, hclose⟩
    · cases hq

end Server

/-- **A `?` is a placeholder exactly if it stands outside of quotes.** A statement that consists of
parts by the rules of its server is converted part by part: outside of quotes every `?` becomes
`%s`, and in a quoted identifier or literal none does. The parts have to end for the conversion
where they end for the server. -/
theorem placeholders_outside_quotes (server : Server) (segments : List Segment)
    (hread : ∀ g ∈ segments, g.ReadBy server.quotation)
    (hagrees : ∀ g ∈ segments, server.Agrees g) :
    Scans (Segment.sql segments).toList (segments.flatMap Segment.marked) ∧
      Placeholder.convert server.adapter.paramStyle (Segment.sql segments) =
        String.ofList (segments.flatMap Segment.formatted) := by
  have hconversion : ∀ g ∈ segments, g.ReadBy .conversion := fun g hg =>
    Server.readBy_conversion (hread g hg) (hagrees g hg)
  refine ⟨?_, ?_⟩
  · rw [Segment.sql, String.toList_ofList]
    exact (Segment.scans_flatMap hconversion).1
  · have hstyle : server.adapter.paramStyle = .format := by cases server <;> rfl
    rw [hstyle]
    exact Segment.convert_sql hconversion

/-- A literal of MySQL with an escaped quote, next to a placeholder. -/
theorem placeholders_outside_quotes_escaped :
    Placeholder.convert Server.mysql.adapter.paramStyle "?='\\'?'" = "%s='\\'?'" := by
  let segments : List Segment := [.bare '?', .bare '=', .quoted '\'' ['\\', '\'', '?', '\'']]
  have hread : ∀ g ∈ segments, g.ReadBy Server.mysql.quotation := by
    simp only [segments, List.forall_mem_cons, List.not_mem_nil, false_imp_iff, implies_true,
      and_true]
    exact ⟨rfl, rfl, _, rfl, .escaped_letter trivial (by decide) (by decide)⟩
  have hagrees : ∀ g ∈ segments, Server.mysql.Agrees g := by
    simp only [segments, List.forall_mem_cons, List.not_mem_nil, false_imp_iff, implies_true,
      and_true]
    exact ⟨trivial, trivial, .escaped_letter (show '\'' ≠ '\n' by decide) (by decide) (by decide)⟩
  exact (placeholders_outside_quotes .mysql segments hread hagrees).2

namespace Server

/-- The parts of a statement that a server reads, and that are not converted part by part. -/
def Misreads (server : Server) (segments : List Segment) : Prop :=
  (∀ g ∈ segments, g.ReadBy server.quotation) ∧
    Placeholder.convert server.adapter.paramStyle (Segment.sql segments) ≠
      String.ofList (segments.flatMap Segment.formatted)

/-- Each exception of `Agrees` is one: a `?` in a literal of MySQL becomes a placeholder behind an
escaped line feed, and behind an escaped quote in double quotes; and a `?` outside of quotes becomes
none in PostgreSQL behind a literal that ends with a backslash, and between backticks. -/
theorem misreads_unless_agrees :
    Misreads mysql [.quoted '\'' ['\\', '\n', '?', '\'']] ∧
      Misreads mysql [.quoted '"' ['\\', '"', '?', '"']] ∧
      Misreads postgresql [.quoted '\'' ['\\', '\''], .bare '?', .quoted '\'' ['\'']] ∧
      Misreads postgresql [.bare '\x60', .bare '?', .bare '\x60'] := by
  refine ⟨⟨?_, by decide +kernel⟩, ⟨?_, by decide +kernel⟩, ⟨?_, by decide +kernel⟩,
    ⟨?_, by decide +kernel⟩⟩ <;>
    simp only [List.forall_mem_cons, List.not_mem_nil, false_imp_iff, implies_true, and_true]
  · exact ⟨_, rfl, .escaped_letter trivial (by decide) (by decide)⟩
  · exact ⟨_, rfl, .escaped_letter trivial (by decide) (by decide)⟩
  · exact ⟨⟨_, rfl, .letter (by decide) (fun _ => rfl) .quote⟩, rfl, _, rfl, .quote⟩
  · exact ⟨rfl, rfl, rfl⟩

end Server

end FluentSql
