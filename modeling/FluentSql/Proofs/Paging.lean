import Mathlib.Algebra.Order.Group.Unbundled.Int
import FluentSql.Proofs.Refusal.Compile
import FluentSql.Proofs.Text.Numeral
import FluentSql.Proofs.Url.Splitting

/-!
# Pages

A page of a query is a window of rows. The windows of the pages of one size tile the rows: each row
is on exactly one page. The page clause of a statement is written in the form of its dialect, and
what a server of that dialect reads in it is the window of the page, so that all dialects agree on
the rows of a page (`Store.pages_tile_rows`). A query has no page clause if it has no page, or if
its pages have no rows; and it is refused if the clause would hold an integer that is too long.
-/

namespace FluentSql

/-! ### Windows of rows -/

/-- A range of rows: the number of rows before it, and the number of rows in it. -/
structure Window where
  first : Int
  size : Int

instance : Membership Nat Window where
  mem w row := w.first ≤ row ∧ (row : Int) < w.first + w.size

/-- The window of a page. -/
def pageWindow (page limit : Option Int) : Option Window :=
  match Select.pageOffset page limit, limit with
  | some first, some size => some ⟨first, size⟩
  | _, _ => none

theorem pageWindow_eq_some_iff {page limit : Option Int} {w : Window} :
    pageWindow page limit = some w ↔
      Select.pageOffset page limit = some w.first ∧ limit = some w.size := by
  unfold pageWindow
  split
  · next first size hfirst =>
    rw [hfirst]
    simp only [Option.some.injEq]
    constructor
    · rintro rfl
      exact ⟨rfl, rfl⟩
    · rintro ⟨rfl, rfl⟩
      rfl
  · next hnone =>
    exact iff_of_false nofun fun h => hnone _ _ h.1 h.2

/-- Every page before the first is the first. -/
theorem pageWindow_eq_some {page size : Int} (hsize : 0 < size) :
    pageWindow (some page) (some size) = some ⟨(max page 1 - 1) * size, size⟩ := by
  refine pageWindow_eq_some_iff.mpr ⟨?_, rfl⟩
  rw [Select.pageOffset, if_neg (Int.not_le.mpr hsize)]
  split
  · next hpage => rw [max_eq_right hpage, Int.sub_self, Int.zero_mul]
  · next hpage => rw [max_eq_left (Int.not_le.mp hpage).le]

theorem exists_pageWindow_iff {page limit : Option Int} :
    (∃ w, pageWindow page limit = some w) ↔
      ∃ p size, page = some p ∧ limit = some size ∧ 0 < size := by
  constructor
  · rintro ⟨w, hw⟩
    obtain ⟨hfirst, rfl⟩ := pageWindow_eq_some_iff.mp hw
    rcases page with _ | p
    · cases hfirst
    · refine ⟨p, w.size, rfl, rfl, Int.not_le.mp fun hsize => ?_⟩
      have hnone : Select.pageOffset (some p) (some w.size) = none := if_pos hsize
      rw [hnone] at hfirst
      cases hfirst
  · rintro ⟨p, size, rfl, rfl, hsize⟩
    exact ⟨_, pageWindow_eq_some hsize⟩

theorem pageWindow_nonneg {page limit : Option Int} {w : Window}
    (h : pageWindow page limit = some w) : 0 ≤ w.first ∧ 0 < w.size := by
  obtain ⟨p, size, rfl, rfl, hsize⟩ := exists_pageWindow_iff.mp ⟨w, h⟩
  rw [pageWindow_eq_some hsize] at h
  obtain rfl := Option.some.inj h
  exact ⟨Int.mul_nonneg (by omega) hsize.le, hsize⟩

/-- The page of a row is found by division. -/
theorem mem_pageWindow_iff {page size : Int} (hpage : 1 ≤ page) (hsize : 0 < size) {row : Nat} :
    (∃ w, pageWindow (some page) (some size) = some w ∧ row ∈ w) ↔ page = row / size + 1 := by
  have hmem : (∃ w, pageWindow (some page) (some size) = some w ∧ row ∈ w) ↔
      (page - 1) * size ≤ row ∧ (row : Int) < page * size := by
    rw [pageWindow_eq_some hsize, max_eq_left hpage]
    simp only [Option.some.injEq, exists_eq_left']
    change _ ≤ _ ∧ (row : Int) < (page - 1) * size + size ↔ _
    rw [Int.sub_mul, Int.one_mul, Int.sub_add_cancel]
  rw [hmem, ← Int.le_ediv_iff_mul_le hsize, ← Int.ediv_lt_iff_lt_mul hsize]
  omega

/-- Each row is on one page. -/
theorem existsUnique_page {size : Int} (hsize : 0 < size) (row : Nat) :
    ∃! page : Int, 1 ≤ page ∧ ∃ w, pageWindow (some page) (some size) = some w ∧ row ∈ w := by
  have hpage : 1 ≤ (row : Int) / size + 1 := by
    have hquotient := Int.ediv_nonneg (Int.natCast_nonneg row) hsize.le
    omega
  exact ⟨row / size + 1, ⟨hpage, (mem_pageWindow_iff hpage hsize).mpr rfl⟩,
    fun page h => (mem_pageWindow_iff h.1 hsize).mp h.2⟩

/-! ### The page clause -/

/-- The window between two numbers as they are written. -/
def readWindow (first size : List Char) : Option Window :=
  match Text.readInteger first, Text.readInteger size with
  | .value o, .value n => some ⟨o, n⟩
  | _, _ => none

/-- The window that a server reads in a page clause. PostgreSQL names the size first, and the other
dialects the number of rows before the page. -/
def Dialect.readLimit (d : Dialect) (clause : String) : Option Window :=
  match d with
  | .postgresql =>
    match Url.splitAll ' ' clause.toList with
    | [limit, size, offset, first] =>
      if limit = "LIMIT".toList ∧ offset = "OFFSET".toList then readWindow first size else none
    | _ => none
  | _ =>
    match Url.splitAll ' ' clause.toList with
    | [limit, first, size] =>
      match Url.cut ',' first with
      | (first, some []) => if limit = "LIMIT".toList then readWindow first size else none
      | _ => none
    | _ => none

section Digits

variable {n : Nat}

theorem readInteger_of_not_isOverlong (h : ¬ IsOverlong n) :
    Text.readInteger (Nat.toDigits 10 n) = .value n := by
  have hlimit : Text.integerDigitLimit = writtenDigitLimit := rfl
  refine Text.readInteger_toDigits ?_
  rw [IsOverlong, Int.natAbs_natCast, Nat.not_le] at h
  rwa [hlimit]

theorem integerText_of_not_isOverlong (h : ¬ IsOverlong n) :
    integerText n = .ok (toString n) := by
  rw [IsOverlong, Int.natAbs_natCast, Nat.not_le] at h
  rw [integerText, Int.natAbs_natCast,
    if_pos ((Nat.length_toDigits_le_iff (by decide) (by decide)).mpr h)]
  rfl

end Digits

/-- What is read in a page clause is what it is written from. -/
theorem Dialect.readLimit_limit (d : Dialect) {first size : Nat} (hfirst : ¬ IsOverlong first)
    (hsize : ¬ IsOverlong size) :
    d.readLimit (d.limit (toString first) (toString size)) = some ⟨first, size⟩ := by
  have hread : readWindow (Nat.toDigits 10 first) (Nat.toDigits 10 size) =
      some ⟨first, size⟩ := by
    simp only [readWindow, readInteger_of_not_isOverlong hfirst,
      readInteger_of_not_isOverlong hsize]
  have hblank : ∀ n : Nat, ' ' ∉ Nat.toDigits 10 n := fun n => Text.notMem_toDigits rfl
  have hsizeFirst : Url.splitAll ' '
      ("LIMIT " ++ toString size ++ " OFFSET " ++ toString first).toList =
        ["LIMIT".toList, Nat.toDigits 10 size, "OFFSET".toList, Nat.toDigits 10 first] := by
    have htext : ("LIMIT " ++ toString size ++ " OFFSET " ++ toString first).toList =
        "LIMIT".toList ++ ' ' :: (Nat.toDigits 10 size ++ ' ' ::
          ("OFFSET".toList ++ ' ' :: Nat.toDigits 10 first)) := by
      simp
    rw [htext, Url.splitAll_append (by decide), Url.splitAll_append (hblank size),
      Url.splitAll_append (by decide), Url.splitAll_of_notMem (hblank first)]
  have hfirstFirst : Url.splitAll ' '
      ("LIMIT " ++ toString first ++ ", " ++ toString size).toList =
        ["LIMIT".toList, Nat.toDigits 10 first ++ [','], Nat.toDigits 10 size] := by
    have htext : ("LIMIT " ++ toString first ++ ", " ++ toString size).toList =
        "LIMIT".toList ++ ' ' :: ((Nat.toDigits 10 first ++ [',']) ++ ' ' ::
          Nat.toDigits 10 size) := by
      simp
    have hcomma : ' ' ∉ Nat.toDigits 10 first ++ [','] := by
      rw [List.mem_append, not_or]
      exact ⟨hblank first, by decide⟩
    rw [htext, Url.splitAll_append (by decide), Url.splitAll_append hcomma,
      Url.splitAll_of_notMem (hblank size)]
  have hcut := Url.cut_append (@Text.notMem_toDigits first ',' rfl) []
  cases d with
  | postgresql =>
    simp only [readLimit, limit, hsizeFirst, and_self, if_true]
    exact hread
  | ansi | mysql | sqlite =>
    simp only [readLimit, limit, hfirstFirst, hcut, if_true]
    exact hread

namespace Select

/-- A query without a page. -/
def unpaged (q : Select) : Select :=
  { q with page := none, limit := none }

theorem render_eq (q : Select) (s : Scope) :
    q.render s = (do
      let text ← q.unpaged.render s
      let page ← Fallible.ofExcept (q.renderPage s.dialect)
      pure (text ++ page)) := by
  have hpage : q.unpaged.renderPage s.dialect = .ok "" := rfl
  have hnothing : (Fallible.ofExcept (.ok "") : Rendering String) = pure "" := rfl
  rw [render, render, hpage]
  simp only [bind_assoc, hnothing, pure_bind, String.append_empty]
  rfl

/-- A query with a page is compiled without the page first, and then its page clause is put at the
end. -/
theorem compile_eq (q : Select) (s : Scope) :
    q.compile s = (do
      let rest ← q.unpaged.compile s
      let page ← q.renderPage s.dialect
      .ok ⟨rest.sql ++ page, rest.params⟩) := by
  rw [compile, compile, render_eq, Rendering.statement, Rendering.statement]
  simp only [ExceptT.run]
  rcases hrest : q.unpaged.render s [] with ⟨f | text, params⟩
  · rw [Fallible.bind_apply_of_error hrest]
    rfl
  · rw [Fallible.bind_apply_of_ok hrest, Fallible.bind_apply, Fallible.ofExcept_apply]
    rcases q.renderPage s.dialect with f | page
    · rfl
    · rfl

variable {q : Select} {d : Dialect}

theorem renderPage_of_unlimited (h : pageWindow q.page q.limit = none) :
    q.renderPage d = .ok "" := by
  rw [renderPage]
  split
  · next offset size hoffset hsize =>
    rw [pageWindow_eq_some_iff (w := ⟨offset, size⟩) |>.mpr ⟨hoffset, hsize⟩] at h
    cases h
  · rfl

theorem renderPage_of_isOverlong (h : q.IsOverlong) :
    q.renderPage d = .error (.display .tooManyDigits) := by
  have hfails := renderPage_failsOnly q d
  rcases hpage : q.renderPage d with f | page
  · obtain ⟨-, hmalformed⟩ | ⟨rfl, -⟩ := hfails.of_error hpage
    · exact hmalformed.elim
    · rfl
  · exact absurd h (hfails.ok_iff.mp ⟨page, hpage⟩).2

/-- A page clause that can be written is read as the window of its page. -/
theorem exists_renderPage {w : Window} (h : pageWindow q.page q.limit = some w)
    (hshort : ¬ q.IsOverlong) :
    ∃ clause, q.renderPage d = .ok (" " ++ clause) ∧ d.readLimit clause = some w := by
  obtain ⟨hoffset, hsize⟩ := pageWindow_eq_some_iff.mp h
  obtain ⟨first, size⟩ := w
  -- no number of the clause is negative
  obtain ⟨o, rfl⟩ := Int.eq_ofNat_of_zero_le (pageWindow_nonneg h).1
  obtain ⟨n, rfl⟩ := Int.eq_ofNat_of_zero_le (pageWindow_nonneg h).2.le
  have hfirst : ¬ FluentSql.IsOverlong o := fun hlong =>
    hshort ⟨o, n, hoffset, hsize, .inl hlong⟩
  have hlast : ¬ FluentSql.IsOverlong n := fun hlong =>
    hshort ⟨o, n, hoffset, hsize, .inr hlong⟩
  refine ⟨d.limit (toString o) (toString n), ?_, d.readLimit_limit hfirst hlast⟩
  rw [renderPage, hoffset, hsize]
  simp only [Dialect.limitOf, Value.display, Value.quoted,
    integerText_of_not_isOverlong hfirst, integerText_of_not_isOverlong hlast]
  rfl

/-- How a page shows in what a query compiles to, where `unpaged` is what it compiles to without the
page. -/
structure Paged (q : Select) (d : Dialect) (unpaged result : Except Fault Statement) : Prop where
  unlimited : pageWindow q.page q.limit = none → result = unpaged
  failed : ∀ f, unpaged = .error f → result = .error f
  overlong : ∀ statement, unpaged = .ok statement → q.IsOverlong →
    result = .error (.display .tooManyDigits)
  limited : ∀ statement w, unpaged = .ok statement → pageWindow q.page q.limit = some w →
    ¬ q.IsOverlong → ∃ clause, d.readLimit clause = some w ∧
      result = .ok ⟨statement.sql ++ " " ++ clause, statement.params⟩

theorem paged_compile (q : Select) (s : Scope) :
    q.Paged s.dialect (q.unpaged.compile s) (q.compile s) where
  unlimited h := by
    rw [compile_eq, renderPage_of_unlimited h]
    rcases q.unpaged.compile s with f | statement
    · rfl
    · simp only [bind, Except.bind, String.append_empty]
  failed f hf := by
    rw [compile_eq, hf]
    rfl
  overlong statement hstatement h := by
    rw [compile_eq, hstatement, renderPage_of_isOverlong h]
    rfl
  limited statement w hstatement hw hshort := by
    obtain ⟨clause, hclause, hread⟩ := exists_renderPage hw hshort
    refine ⟨clause, hread, ?_⟩
    rw [compile_eq, hstatement, hclause]
    simp only [bind, Except.bind, String.append_assoc]

end Select

namespace Store

/-- The statement of a query without its page. Embedded queries keep theirs. -/
def compileUnpaged (s : Store) (h : Handle) (d : Dialect) : Except Fault Statement :=
  (s.select h).unpaged.compile ⟨d, s.compileWithin d (s.queries.size - 1)⟩

theorem paged_compile {s : Store} {h : Handle} (hh : h < s.queries.size) (d : Dialect) :
    (s.select h).Paged d (s.compileUnpaged h d) (s.compile h d) := by
  have hcompile : s.compile h d =
      (s.select h).compile ⟨d, s.compileWithin d (s.queries.size - 1)⟩ := by
    obtain ⟨n, hn⟩ := Nat.exists_eq_add_one_of_ne_zero (Nat.ne_zero_of_lt hh)
    rw [compile, hn]
    rfl
  rw [hcompile]
  exact (s.select h).paged_compile ⟨d, s.compileWithin d (s.queries.size - 1)⟩

/-- **Pages tile the rows, and all dialects agree on them.** A query that has a page of at least one
row ends in a page clause, which a server reads as the window of the page whatever its dialect;
other queries have no page clause. It is missing too if the query is refused, be it for something
else or because a number of the clause is too long to be written. The window of a page begins behind
those of the pages before it, and every page before the first is the first. Each row is in the
window of one page. -/
theorem pages_tile_rows :
    (∀ (s : Store) (h : Handle) (d : Dialect), h < s.queries.size →
      (s.select h).Paged d (s.compileUnpaged h d) (s.compile h d)) ∧
    (∀ page limit, (∃ w, pageWindow page limit = some w) ↔
      ∃ p size, page = some p ∧ limit = some size ∧ 0 < size) ∧
    (∀ page size w, pageWindow (some page) (some size) = some w →
      0 ≤ w.first ∧ w.first = (max page 1 - 1) * size ∧ w.size = size ∧
        (page ≤ 1 → pageWindow (some 1) (some size) = some w)) ∧
    ∀ size, 0 < size → ∀ row : Nat, ∃! page : Int,
      1 ≤ page ∧ ∃ w, pageWindow (some page) (some size) = some w ∧ row ∈ w := by
  refine ⟨fun s h d hh => paged_compile hh d, fun _ _ => exists_pageWindow_iff,
    fun page size w hw => ?_, fun size => existsUnique_page⟩
  have hsize : 0 < size := by
    obtain ⟨-, heq⟩ := pageWindow_eq_some_iff.mp hw
    exact Option.some.inj heq ▸ (pageWindow_nonneg hw).2
  have hfirst := (pageWindow_nonneg hw).1
  rw [pageWindow_eq_some hsize] at hw ⊢
  obtain rfl := Option.some.inj hw
  refine ⟨hfirst, rfl, rfl, fun hpage => ?_⟩
  rw [max_eq_right hpage, max_self]

/-- The third page of twenty rows. -/
theorem pages_tile_rows_third :
    let s : Store := { queries := #[.ofColumn [] (some 3) (some 20)] }
    s.compile 0 .mysql = .ok ⟨"SELECT `a` FROM `t` LIMIT 40, 20", []⟩ ∧
      s.compile 0 .postgresql = .ok ⟨"SELECT \"a\" FROM \"t\" LIMIT 20 OFFSET 40", []⟩ ∧
      (s.select 0).Paged .mysql (s.compileUnpaged 0 .mysql) (s.compile 0 .mysql) ∧
      pageWindow (some 3) (some 20) = some ⟨40, 20⟩ ∧ (0 : Int) ≤ 40 ∧
      pageWindow (some 1) (some 20) = pageWindow (some 0) (some 20) ∧
      ∃! page : Int, 1 ≤ page ∧ ∃ w, pageWindow (some page) (some 20) = some w ∧ 45 ∈ w :=
  ⟨rfl, rfl, pages_tile_rows.1 _ 0 .mysql (by decide),
    rfl, (pages_tile_rows.2.2.1 3 20 ⟨40, 20⟩ rfl).1,
    (pages_tile_rows.2.2.1 0 20 ⟨0, 20⟩ rfl).2.2.2 (by decide),
    pages_tile_rows.2.2.2 20 (by decide) 45⟩

/-- A page that has rows and still no clause, since the number of its first row is too long. -/
theorem page_not_written :
    ¬ ∀ (s : Store) (h : Handle) (d : Dialect) (w : Window) (unpaged : Statement),
      h < s.queries.size → s.compileUnpaged h d = .ok unpaged →
      pageWindow (s.select h).page (s.select h).limit = some w →
      ∃ clause, d.readLimit clause = some w ∧
        s.compile h d = .ok ⟨unpaged.sql ++ " " ++ clause, unpaged.params⟩ := by
  intro hall
  have hselect : ∀ k, (ofPage k).select 0 = .ofColumn [] (some (10 ^ k + 1)) (some (10 ^ k)) :=
    fun _ => rfl
  have hwindow : pageWindow ((ofPage 3000).select 0).page ((ofPage 3000).select 0).limit = _ :=
    pageWindow_eq_some (Int.pow_pos (by decide))
  obtain ⟨clause, -, hcompile⟩ := hall (ofPage 3000) 0 .mysql _ _ (by decide) rfl hwindow
  rw [compile_of_single rfl (hselect 3000) (Select.isOverlong_ofColumn (by decide))] at hcompile
  cases hcompile

end Store

end FluentSql
