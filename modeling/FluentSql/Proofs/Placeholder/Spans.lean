import FluentSql.Proofs.Placeholder.Marks

/-!
# Quoted spans

Readers of statements differ in the quotes that they know, and in what a backslash does behind
them. `Closes` says of a text, for a quote and a use of the backslash, that it is the rest of a
span behind its opening quote. A text may begin with several of these; the conversion of
placeholders takes the longest one (`spanRest_of_longest`), and if there is none, the opening quote
is an ordinary character (`spanRest_of_unclosed`).

So the conversion is a scan that goes from left to right and takes the longest span at each quote.
`Scans` says this without a word on how a span is looked for, and determines what the conversion
marks (`scans_iff`).
-/

namespace FluentSql

/-- What a backslash does in a quoted span. -/
inductive Backslash where
  /-- It is a character like any other. -/
  | ordinary
  /-- It escapes a character behind it, if that is one of those that can be escaped. -/
  | escaping (escapable : Char → Prop)

/-- The characters that a backslash escapes. -/
def Backslash.Escapes : Backslash → Char → Prop
  | ordinary, _ => False
  | escaping escapable, c => escapable c

theorem Backslash.escaping_ne_ordinary (p : Char → Prop) : escaping p ≠ ordinary := by
  rintro ⟨⟩

/-- The quotes that a reader of statements knows, and what a backslash does behind each. -/
abbrev Quotation := Char → Option Backslash

/-- The rest of a quoted span behind its opening quote `q`: characters, doubled quotes and escapes,
and the closing quote. -/
inductive Closes (q : Char) (b : Backslash) : List Char → Prop where
  | quote : Closes q b [q]
  | doubled {cs : List Char} (h : Closes q b cs) : Closes q b (q :: q :: cs)
  | letter {c : Char} {cs : List Char} (hc : c ≠ q) (hb : c = '\\' → b = .ordinary)
      (h : Closes q b cs) : Closes q b (c :: cs)
  | escaped {c : Char} {cs : List Char} (hc : b.Escapes c) (h : Closes q b cs) :
      Closes q b ('\\' :: c :: cs)

/-- A beginning of a text that closes a span. -/
def Closing (q : Char) (b : Backslash) (cs w : List Char) : Prop :=
  Closes q b w ∧ w <+: cs

/-- The longest beginning of a text that closes a span. -/
def LongestClosing (q : Char) (b : Backslash) (cs w : List Char) : Prop :=
  Closing q b cs w ∧ ∀ w', Closing q b cs w' → w'.length ≤ w.length

namespace Closes

variable {q : Char} {b : Backslash} {cs ds : List Char}

theorem ne_nil (h : Closes q b cs) : cs ≠ [] := by
  cases h <;> exact List.cons_ne_nil _ _

/-- Two spans with the same quotes that touch are one span: their quotes count as doubled. -/
theorem append (hc : Closes q b cs) (hd : Closes q b ds) : Closes q b (cs ++ q :: ds) := by
  induction hc with
  | quote => exact .doubled hd
  | doubled _ ih => exact .doubled ih
  | letter hc hb _ ih => exact .letter hc hb ih
  | escaped hc _ ih => exact .escaped hc ih

/-- A span of an escaped character and one more. -/
theorem escaped_letter {c d : Char} (hc : b.Escapes c) (hd : d ≠ q) (hb : d ≠ '\\') :
    Closes q b ['\\', c, d, q] :=
  .escaped hc (.letter hd (fun h => absurd h hb) .quote)

end Closes

/-! ### The beginnings that close a span, character by character -/

section Closing

variable {q c : Char} {b : Backslash} {cs w : List Char}

theorem not_closing_nil : ¬ Closing q b [] w := by
  rintro ⟨hw, hstart⟩
  exact hw.ne_nil (List.prefix_nil.mp hstart)

/-- Behind a doubled quote the span may go on. -/
theorem closing_doubled_iff (hq : q ≠ '\\') :
    Closing q b (q :: q :: cs) w ↔ w = [q] ∨ ∃ w', w = q :: q :: w' ∧ Closing q b cs w' := by
  constructor
  · rintro ⟨hw, hstart⟩
    cases hw with
    | quote => exact .inl rfl
    | doubled h =>
      refine .inr ⟨_, rfl, h, ?_⟩
      exact (List.cons_prefix_cons.mp (List.cons_prefix_cons.mp hstart).2).2
    | letter hc _ _ => exact absurd (List.cons_prefix_cons.mp hstart).1 hc
    | escaped _ _ => exact absurd (List.cons_prefix_cons.mp hstart).1.symm hq
  · rintro (rfl | ⟨w', rfl, hw', hstart⟩)
    · exact ⟨.quote, q :: cs, rfl⟩
    · exact ⟨.doubled hw', List.cons_prefix_cons.mpr ⟨rfl, List.cons_prefix_cons.mpr ⟨rfl, hstart⟩⟩⟩

/-- A quote that is not doubled closes the span. -/
theorem closing_quote_iff (hq : q ≠ '\\') (hcs : cs.head? ≠ some q) :
    Closing q b (q :: cs) w ↔ w = [q] := by
  constructor
  · rintro ⟨hw, hstart⟩
    cases hw with
    | quote => rfl
    | doubled h =>
      obtain ⟨more, hmore⟩ := (List.cons_prefix_cons.mp hstart).2
      exact absurd (by rw [← hmore]; rfl) hcs
    | letter hc _ _ => exact absurd (List.cons_prefix_cons.mp hstart).1 hc
    | escaped _ _ => exact absurd (List.cons_prefix_cons.mp hstart).1.symm hq
  · rintro rfl
    exact ⟨.quote, cs, rfl⟩

/-- A backslash that escapes takes the character behind it along. -/
theorem closing_escape_iff (hq : q ≠ '\\') (hb : b ≠ .ordinary) :
    Closing q b ('\\' :: c :: cs) w ↔
      b.Escapes c ∧ ∃ w', w = '\\' :: c :: w' ∧ Closing q b cs w' := by
  constructor
  · rintro ⟨hw, hstart⟩
    cases hw with
    | quote => exact absurd (List.cons_prefix_cons.mp hstart).1 hq
    | doubled _ => exact absurd (List.cons_prefix_cons.mp hstart).1 hq
    | letter _ hordinary _ => exact absurd (hordinary (List.cons_prefix_cons.mp hstart).1) hb
    | escaped hc h =>
      obtain ⟨rfl, hrest⟩ := List.cons_prefix_cons.mp (List.cons_prefix_cons.mp hstart).2
      exact ⟨hc, _, rfl, h, hrest⟩
  · rintro ⟨hc, w', rfl, hw', hstart⟩
    have hrest : c :: w' <+: c :: cs := List.cons_prefix_cons.mpr ⟨rfl, hstart⟩
    exact ⟨.escaped hc hw', List.cons_prefix_cons.mpr ⟨rfl, hrest⟩⟩

theorem closing_letter_iff (hc : c ≠ q) (hb : c = '\\' → b = .ordinary) :
    Closing q b (c :: cs) w ↔ ∃ w', w = c :: w' ∧ Closing q b cs w' := by
  constructor
  · rintro ⟨hw, hstart⟩
    cases hw with
    | quote => exact absurd (List.cons_prefix_cons.mp hstart).1.symm hc
    | doubled _ => exact absurd (List.cons_prefix_cons.mp hstart).1.symm hc
    | letter _ _ h =>
      obtain ⟨rfl, hrest⟩ := List.cons_prefix_cons.mp hstart
      exact ⟨_, rfl, h, hrest⟩
    | escaped hescapes _ =>
      obtain rfl := hb (List.cons_prefix_cons.mp hstart).1.symm
      exact hescapes.elim
  · rintro ⟨w', rfl, hw', hstart⟩
    exact ⟨.letter hc hb hw', List.cons_prefix_cons.mpr ⟨rfl, hstart⟩⟩

theorem not_closing_singleton (hc : c ≠ q) : ¬ Closing q b [c] w := by
  rintro ⟨hw, hstart⟩
  rcases List.prefix_cons_iff.mp hstart with rfl | ⟨w', rfl, hw'⟩
  · exact hw.ne_nil rfl
  · obtain rfl := List.prefix_nil.mp hw'
    cases hw with
    | quote => exact hc rfl
    | letter _ _ h => exact h.ne_nil rfl

theorem LongestClosing.of_iff_eq {v : List Char} (h : ∀ w, Closing q b cs w ↔ w = v) :
    LongestClosing q b cs v := by
  refine ⟨(h v).mpr rfl, fun w hw => ?_⟩
  obtain rfl := (h w).mp hw
  exact Nat.le_refl _

theorem LongestClosing.unique {v : List Char} (hv : LongestClosing q b cs v)
    (hw : LongestClosing q b cs w) : v = w := by
  have hstart : v <+: w := List.prefix_of_prefix_length_le hv.1.2 hw.1.2 (hw.2 v hv.1)
  exact hstart.eq_of_length_le (hv.2 w hw.1)

/-- Where every beginning that closes a span is one of the rest, with the same characters before
it, the longest ones correspond. -/
theorem LongestClosing.append {u ds w' : List Char}
    (h : ∀ w, Closing q b cs w ↔ ∃ w', w = u ++ w' ∧ Closing q b ds w')
    (hw' : LongestClosing q b ds w') : LongestClosing q b cs (u ++ w') := by
  refine ⟨(h _).mpr ⟨w', rfl, hw'.1⟩, fun v hv => ?_⟩
  obtain ⟨v', rfl, hv'⟩ := (h v).mp hv
  have hle := hw'.2 v' hv'
  simp only [List.length_append]
  omega

/-- A span that is not followed by its quote is the longest one. -/
theorem Closes.longest {rest : List Char} (hq : q ≠ '\\') (h : Closes q b cs)
    (hrest : rest.head? ≠ some q) : LongestClosing q b (cs ++ rest) cs := by
  induction h with
  | quote => exact .of_iff_eq fun w => closing_quote_iff hq hrest
  | @doubled cs h ih =>
    have hdoubled : ∀ w, Closing q b (q :: q :: (cs ++ rest)) w ↔
        w = [q] ∨ ∃ w', w = q :: q :: w' ∧ Closing q b (cs ++ rest) w' := fun w =>
      closing_doubled_iff hq
    refine ⟨(hdoubled _).mpr (.inr ⟨cs, rfl, ih.1⟩), fun v hv => ?_⟩
    rcases (hdoubled v).mp hv with rfl | ⟨v', rfl, hv'⟩
    · simp
    · simpa using ih.2 v' hv'
  | @letter c cs hc hb _ ih => exact ih.append (u := [c]) fun w => closing_letter_iff hc hb
  | @escaped c cs hc _ ih =>
    have hescaping : b ≠ .ordinary := by
      rintro rfl
      exact hc.elim
    exact ih.append (u := ['\\', c]) fun w =>
      (closing_escape_iff hq hescaping).trans (and_iff_right hc)

end Closing

/-! ### The longest span -/

/-- The quotes that a conversion of placeholders knows. In single quotes a backslash escapes, but
not a line feed. -/
def Quotation.conversion : Quotation
  | '\'' => some (.escaping (· ≠ '\n'))
  | '"' | '\x60' => some .ordinary
  | _ => none

namespace Placeholder

theorem conversion_cases {q : Char} {b : Backslash} (h : Quotation.conversion q = some b) :
    q = '\'' ∧ b = .escaping (· ≠ '\n') ∨ (q = '"' ∨ q = '\x60') ∧ b = .ordinary := by
  unfold Quotation.conversion at h
  split at h <;> cases h
  · exact .inl ⟨rfl, rfl⟩
  · exact .inr ⟨.inl rfl, rfl⟩
  · exact .inr ⟨.inr rfl, rfl⟩

theorem ne_backslash_of_conversion {q : Char} {b : Backslash}
    (h : Quotation.conversion q = some b) : q ≠ '\\' := by
  rcases conversion_cases h with ⟨rfl, -⟩ | ⟨rfl | rfl, -⟩ <;> decide

theorem isQuote_iff (q : Char) : isQuote q = true ↔ ∃ b, Quotation.conversion q = some b := by
  constructor
  · intro h
    have hcases : (q = '\x60' ∨ q = '"') ∨ q = '\'' := by simpa [isQuote] using h
    rcases hcases with (rfl | rfl) | rfl <;> exact ⟨_, rfl⟩
  · rintro ⟨b, h⟩
    rcases conversion_cases h with ⟨rfl, -⟩ | ⟨rfl | rfl, -⟩ <;> rfl

/-- The rest of a span is the longest beginning that closes it. Without any, the search falls back
to what it was given. -/
theorem spanRest_cases {q : Char} {b : Backslash} (hq : Quotation.conversion q = some b)
    (body : List Char) (fallback : Option (List Char × List Char)) (cs : List Char) :
    (∃ w after, LongestClosing q b cs w ∧ w ++ after = cs ∧
        spanRest q body fallback cs = some (body.reverse ++ w, after)) ∨
      (∀ w, ¬ Closing q b cs w) ∧ spanRest q body fallback cs = fallback := by
  have hbackslash := ne_backslash_of_conversion hq
  have hescapes : q = '\'' → b = .escaping (· ≠ '\n') := by
    rintro rfl
    cases hq
    rfl
  have hordinary : q ≠ '\'' → b = .ordinary := fun hne =>
    (conversion_cases hq).elim (fun h => absurd h.1 hne) And.right
  fun_induction spanRest q body fallback cs with
  | case1 => exact .inr ⟨fun w => not_closing_nil, rfl⟩
  | case2 body fallback =>
    have hone : LongestClosing q b [q] [q] :=
      .of_iff_eq fun w => closing_quote_iff hbackslash (Option.some_ne_none q).symm
    exact .inl ⟨[q], [], hone, rfl, by simp⟩
  | case3 body fallback c hc => exact .inr ⟨fun w => not_closing_singleton hc, rfl⟩
  | case4 body fallback rest ih =>
    have hdoubled : ∀ w, Closing q b (q :: q :: rest) w ↔
        w = [q] ∨ ∃ w', w = q :: q :: w' ∧ Closing q b rest w' := fun w =>
      closing_doubled_iff hbackslash
    rcases ih with ⟨w, after, hw, rfl, heq⟩ | ⟨hnone, heq⟩
    · have hclosing := (hdoubled _).mpr (.inr ⟨w, rfl, hw.1⟩)
      refine .inl ⟨q :: q :: w, after, ⟨hclosing, fun v hv => ?_⟩, rfl, ?_⟩
      · rcases (hdoubled v).mp hv with rfl | ⟨v', rfl, hv'⟩
        · simp
        · simpa using hw.2 v' hv'
      · rw [heq]
        simp
    · -- the doubled quote is the last one, and its first half closes the span
      refine .inl ⟨[q], q :: rest, ⟨(hdoubled _).mpr (.inl rfl), fun v hv => ?_⟩, rfl, ?_⟩
      · rcases (hdoubled v).mp hv with rfl | ⟨v', rfl, hv'⟩
        · exact Nat.le_refl _
        · exact absurd hv' (hnone v')
      · rw [heq]
        simp
  | case5 body fallback d rest hd =>
    have hone : LongestClosing q b (q :: d :: rest) [q] :=
      .of_iff_eq fun w => closing_quote_iff hbackslash (by simpa using hd)
    exact .inl ⟨[q], d :: rest, hone, rfl, by simp⟩
  | case6 body fallback rest c hc hescape =>
    obtain ⟨hsingle, rfl⟩ := hescape
    obtain rfl := hescapes hsingle
    have hescaping := Backslash.escaping_ne_ordinary (· ≠ '\n')
    refine .inr ⟨fun w hw => ?_, rfl⟩
    exact ((closing_escape_iff hbackslash hescaping).mp hw).1 rfl
  | case7 body fallback c d rest hc hescape hd ih =>
    obtain ⟨hsingle, rfl⟩ := hescape
    obtain rfl := hescapes hsingle
    have hescaping := Backslash.escaping_ne_ordinary (· ≠ '\n')
    have hstep : ∀ w, Closing q (.escaping (· ≠ '\n')) ('\\' :: d :: rest) w ↔
        ∃ w', w = ['\\', d] ++ w' ∧ Closing q (.escaping (· ≠ '\n')) rest w' := fun w =>
      (closing_escape_iff hbackslash hescaping).trans (and_iff_right hd)
    rcases ih with ⟨w, after, hw, rfl, heq⟩ | ⟨hnone, heq⟩
    · exact .inl ⟨_, after, hw.append hstep, rfl, by rw [heq]; simp⟩
    · refine .inr ⟨fun w hw => ?_, heq⟩
      obtain ⟨w', -, hw'⟩ := (hstep w).mp hw
      exact hnone w' hw'
  | case8 body fallback c d rest hc hescape ih =>
    have hstep : ∀ w, Closing q b (c :: d :: rest) w ↔
        ∃ w', w = [c] ++ w' ∧ Closing q b (d :: rest) w' := fun w =>
      closing_letter_iff hc fun hletter => hordinary fun hsingle => hescape ⟨hsingle, hletter⟩
    rcases ih with ⟨w, after, hw, hafter, heq⟩ | ⟨hnone, heq⟩
    · refine .inl ⟨_, after, hw.append hstep, ?_, ?_⟩
      · rw [← hafter]
        rfl
      · rw [heq]
        simp
    · refine .inr ⟨fun w hw => ?_, heq⟩
      obtain ⟨w', -, hw'⟩ := (hstep w).mp hw
      exact hnone w' hw'

variable {q : Char} {b : Backslash} (hq : Quotation.conversion q = some b)
include hq

/-- The rest of a span is the longest beginning that closes it. -/
theorem spanRest_of_longest {w after : List Char} (hw : LongestClosing q b (w ++ after) w) :
    spanRest q [] none (w ++ after) = some (w, after) := by
  rcases spanRest_cases hq [] none (w ++ after) with ⟨v, rest, hv, hrest, heq⟩ | ⟨hnone, -⟩
  · obtain rfl := hv.unique hw
    obtain rfl := List.append_cancel_left hrest
    exact heq
  · exact absurd hw.1 (hnone w)

/-- Where nothing closes a span, there is none. -/
theorem spanRest_of_unclosed {cs : List Char} (h : ∀ w, ¬ Closing q b cs w) :
    spanRest q [] none cs = none := by
  rcases spanRest_cases hq [] none cs with ⟨w, -, hw, -, -⟩ | ⟨-, heq⟩
  · exact absurd hw.1 (h w)
  · exact heq

theorem longest_of_spanRest {cs w after : List Char}
    (h : spanRest q [] none cs = some (w, after)) :
    LongestClosing q b cs w ∧ w ++ after = cs := by
  rcases spanRest_cases hq [] none cs with ⟨v, rest, hv, hrest, heq⟩ | ⟨-, heq⟩
  · obtain ⟨rfl, rfl⟩ := Prod.mk.inj (Option.some.inj (heq.symm.trans h))
    exact ⟨hv, hrest⟩
  · cases heq.symm.trans h

theorem unclosed_of_spanRest {cs : List Char} (h : spanRest q [] none cs = none) (w : List Char) :
    ¬ Closing q b cs w := by
  rcases spanRest_cases hq [] none cs with ⟨v, rest, -, -, heq⟩ | ⟨hnone, -⟩
  · cases heq.symm.trans h
  · exact hnone w

end Placeholder

/-! ### The scan -/

/-- A scan of a statement from left to right. It takes the longest span at each opening quote,
passes over it, and marks every `?` that it meets outside. A quote that opens no span is a
character like any other. -/
inductive Scans : List Char → Marked Unit → Prop where
  | nil : Scans [] []
  | placeholder {cs : List Char} {t : Marked Unit} (h : Scans cs t) :
      Scans ('?' :: cs) (.marker () :: t)
  | span {q : Char} {b : Backslash} {w cs : List Char} {t : Marked Unit}
      (hq : Quotation.conversion q = some b) (hw : LongestClosing q b (w ++ cs) w)
      (h : Scans cs t) : Scans (q :: (w ++ cs)) ((q :: w).map .letter ++ t)
  | letter {c : Char} {cs : List Char} {t : Marked Unit} (hc : c ≠ '?')
      (hq : ∀ b, Quotation.conversion c = some b → ∀ w, ¬ Closing c b cs w) (h : Scans cs t) :
      Scans (c :: cs) (.letter c :: t)

theorem scans_marks (cs : List Char) : Scans cs (Placeholder.marks cs) := by
  fun_induction Placeholder.marks cs with
  | case1 => exact .nil
  | case2 rest ih => exact .placeholder ih
  | case3 c rest hc hq body after h hlength ih =>
    obtain ⟨b, hb⟩ := (Placeholder.isQuote_iff c).mp hq
    obtain ⟨hlongest, rfl⟩ := Placeholder.longest_of_spanRest hb h
    exact .span hb hlongest ih
  | case4 c rest hc hq h ih =>
    refine .letter hc (fun b hb w => ?_) ih
    exact Placeholder.unclosed_of_spanRest hb h w
  | case5 c rest hc hq ih =>
    refine .letter hc (fun b hb => ?_) ih
    exact absurd ((Placeholder.isQuote_iff c).mpr ⟨b, hb⟩) hq

/-- **The scan of a statement is what its conversion marks.** -/
theorem scans_iff {cs : List Char} {t : Marked Unit} :
    Scans cs t ↔ Placeholder.marks cs = t := by
  constructor
  · intro h
    induction h with
    | nil => exact Placeholder.marks_nil
    | placeholder _ ih => rw [Placeholder.marks_placeholder, ih]
    | span hq hw _ ih =>
      have hquote := (Placeholder.isQuote_iff _).mpr ⟨_, hq⟩
      rw [Placeholder.marks_span hquote (Placeholder.spanRest_of_longest hq hw), ih]
    | @letter c cs t hc hq _ ih =>
      cases hquote : Placeholder.isQuote c with
      | false => rw [Placeholder.marks_bare hc hquote, ih]
      | true =>
        obtain ⟨b, hb⟩ := (Placeholder.isQuote_iff c).mp hquote
        have hnone := Placeholder.spanRest_of_unclosed hb (hq b hb)
        rw [Placeholder.marks_unclosed hquote hnone, ih]
  · rintro rfl
    exact scans_marks cs

end FluentSql
