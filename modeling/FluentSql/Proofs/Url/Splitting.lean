import FluentSql.Url

/-!
# Splitting at delimiters

Pieces without the delimiter in them are what their join is split into, and every text is the join
of what it is split into (`Url.splitAll_intercalate`, `Url.intercalate_splitAll`). A cut at the
first or at the last delimiter gives back what it was joined from.
-/

namespace FluentSql.Url

/-! ### Pieces -/

section Pieces

variable {sep : Char} {cs : List Char} {pieces : List (List Char)}

theorem splitAll_append {rest : List Char} (h : sep ∉ cs) :
    splitAll sep (cs ++ sep :: rest) = cs :: splitAll sep rest := by
  induction cs with
  | nil => simp [splitAll]
  | cons c cs ih =>
    have hc : c ≠ sep := fun hc => h (hc ▸ List.mem_cons_self)
    rw [List.cons_append, splitAll, if_neg hc, ih fun hmem => h (List.mem_cons_of_mem c hmem)]

theorem splitAll_of_notMem (h : sep ∉ cs) : splitAll sep cs = [cs] := by
  induction cs with
  | nil => rfl
  | cons c cs ih =>
    have hc : c ≠ sep := fun hc => h (hc ▸ List.mem_cons_self)
    rw [splitAll, if_neg hc, ih fun hmem => h (List.mem_cons_of_mem c hmem)]

theorem splitAll_replicate (k : Nat) :
    splitAll sep (List.replicate k sep ++ cs) = List.replicate k [] ++ splitAll sep cs := by
  induction k with
  | zero => rfl
  | succ k ih =>
    rw [List.replicate_succ, List.cons_append, splitAll, if_pos rfl, ih, List.replicate_succ,
      List.cons_append]

theorem splitAll_intercalate (hne : pieces ≠ []) (h : ∀ p ∈ pieces, sep ∉ p) :
    splitAll sep ([sep].intercalate pieces) = pieces := by
  induction pieces with
  | nil => exact absurd rfl hne
  | cons p pieces ih =>
    have hp := h p List.mem_cons_self
    rcases pieces with _ | ⟨q, pieces⟩
    · rw [List.intercalate_singleton, splitAll_of_notMem hp]
    · rw [List.intercalate_cons_cons, List.append_assoc, List.singleton_append,
        splitAll_append hp,
        ih (List.cons_ne_nil _ _) fun r hr => h r (List.mem_cons_of_mem p hr)]

theorem intercalate_splitAll (sep : Char) (cs : List Char) :
    [sep].intercalate (splitAll sep cs) = cs ∧ splitAll sep cs ≠ [] ∧
      ∀ p ∈ splitAll sep cs, sep ∉ p := by
  induction cs with
  | nil => simp [splitAll]
  | cons c cs ih =>
    obtain ⟨hjoin, hne, hall⟩ := ih
    rw [splitAll]
    obtain ⟨first, more, hsplit⟩ := List.exists_cons_of_ne_nil hne
    rw [hsplit] at hjoin hall ⊢
    split
    · next hc =>
      subst hc
      exact ⟨by rw [List.intercalate_cons_cons, hjoin]; rfl, List.cons_ne_nil _ _,
        by simpa using hall⟩
    · next hc =>
      refine ⟨?_, List.cons_ne_nil _ _, ?_⟩
      · rcases more with _ | ⟨q, more⟩
        · simpa using hjoin
        · rw [List.intercalate_cons_cons] at hjoin ⊢
          rw [← hjoin]
          simp
      · rw [List.forall_mem_cons] at hall ⊢
        refine ⟨fun hmem => ?_, hall.2⟩
        rcases List.mem_cons.mp hmem with heq | hmem
        · exact hc heq.symm
        · exact hall.1 hmem

end Pieces

/-! ### Cutting -/

section Cutting

variable {sep : Char} {before after : List Char}

theorem cut_of_notMem (h : sep ∉ before) : cut sep before = (before, none) := by
  induction before with
  | nil => rfl
  | cons c cs ih =>
    obtain ⟨hc, hcs⟩ := not_or.mp (mt List.mem_cons.mpr h)
    rw [cut, if_neg (Ne.symm hc), ih hcs]

theorem cut_append (h : sep ∉ before) (rest : List Char) :
    cut sep (before ++ sep :: rest) = (before, some rest) := by
  induction before with
  | nil => rw [List.nil_append, cut, if_pos rfl]
  | cons c cs ih =>
    obtain ⟨hc, hcs⟩ := not_or.mp (mt List.mem_cons.mpr h)
    rw [List.cons_append, cut, if_neg (Ne.symm hc), ih hcs]

theorem cutLast_of_notMem (h : sep ∉ after) : cutLast sep after = (none, after) := by
  rw [cutLast, cut_of_notMem (by rwa [List.mem_reverse])]
  simp only [List.reverse_reverse]

theorem cutLast_append (before : List Char) (h : sep ∉ after) :
    cutLast sep (before ++ sep :: after) = (some before, after) := by
  rw [cutLast, List.reverse_append, List.reverse_cons, List.append_assoc, List.singleton_append,
    cut_append (by rwa [List.mem_reverse])]
  simp only [List.reverse_reverse]

end Cutting

end FluentSql.Url
