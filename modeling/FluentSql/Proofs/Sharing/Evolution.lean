import FluentSql.Building
import FluentSql.Proofs.Sharing.Compile

/-!
# How stores change

Work on a store adds objects and changes some of those that are there. `Evolves C s t` says that it
changed none but those of `C`, removed none, and left no reference to an object that is not there.
So a query that leads to no object of `C` compiles as before (`Store.Evolves.compile_eq`).

There is one lemma for each of the basic operations, and there are rules that put them together
along the sequence of the work.
-/

namespace FluentSql

/-! ### Arrays of objects -/

section Arrays

variable {α : Type} {objects : Array α} {i j : Nat} {a usual : α}

theorem getD_setIfInBounds_of_ne (h : i ≠ j) :
    (objects.setIfInBounds i a).getD j usual = objects.getD j usual := by
  simp [Array.getD_eq_getD_getElem?, Array.getElem?_setIfInBounds_ne h]

theorem getD_setIfInBounds_self (h : i < objects.size) :
    (objects.setIfInBounds i a).getD i usual = a := by
  simp [Array.getD_eq_getD_getElem?, h]

theorem getD_push_of_lt (h : j < objects.size) :
    (objects.push a).getD j usual = objects.getD j usual := by
  simp [Array.getD_eq_getD_getElem?, Array.getElem?_push_lt h, h]

theorem getD_push_size : (objects.push a).getD objects.size usual = a := by
  simp [Array.getD_eq_getD_getElem?]

end Arrays

namespace QueryBuilder.SameModel

variable {p q r : QueryBuilder}

theorem refl (q : QueryBuilder) : q.SameModel q :=
  ⟨rfl, rfl, rfl, rfl, rfl, rfl⟩

theorem trans (h : p.SameModel q) (h' : q.SameModel r) : p.SameModel r where
  fields := h.fields.trans h'.fields
  tables := h.tables.trans h'.tables
  conditions := h.conditions.trans h'.conditions
  order := h.order.trans h'.order
  page := h.page.trans h'.page
  limit := h.limit.trans h'.limit

theorem values_eq (h : q.SameModel r) : q.values = r.values := by
  rw [values, values, h.fields, h.tables, h.conditions, h.order]

end QueryBuilder.SameModel

namespace Store

/-- The objects of a store. -/
def Holds (s : Store) : Object → Prop
  | .query h => h < s.queries.size
  | .list h => h < s.lists.size
  | .record h => h < s.records.size
  | .write h => h < s.writes.size
  | .session h => h < s.sessions.size

/-- Objects of the store refer to objects of the store only. -/
def IsSound (s : Store) : Prop :=
  s.IsClosed s.Holds

/-- The objects that an object leads to: itself, and those that values of any of them mention. -/
inductive Leads (s : Store) (o : Object) : Object → Prop where
  | refl : Leads s o o
  | step {o' o'' : Object} {v : Value} (h : Leads s o o') (hv : v ∈ s.values o')
    (ho : v.Mentions o'') : Leads s o o''

/-- A store that comes of another one by changes to objects of `C` and by new objects. -/
structure Evolves (C : Object → Prop) (s t : Store) : Prop where
  holds : ∀ o, s.Holds o → t.Holds o
  same : ∀ o, s.Holds o → ¬C o → s.SameAt t o
  sound : t.IsSound

variable {s t u : Store} {C C' : Object → Prop} {o : Object} {h : Handle}

theorem isClosed_leads (s : Store) (o : Object) : s.IsClosed (s.Leads o) :=
  fun _ ho' _ hv _ hm => .step ho' hv hm

/-- A store that grows holds what it held. -/
theorem Holds.mono (ho : s.Holds o) (hqueries : s.queries.size ≤ t.queries.size)
    (hlists : s.lists.size ≤ t.lists.size) (hrecords : s.records.size ≤ t.records.size)
    (hwrites : s.writes.size ≤ t.writes.size) (hsessions : s.sessions.size ≤ t.sessions.size) :
    t.Holds o := by
  cases o with
  | query k => exact Nat.lt_of_lt_of_le ho hqueries
  | list k => exact Nat.lt_of_lt_of_le ho hlists
  | record k => exact Nat.lt_of_lt_of_le ho hrecords
  | write k => exact Nat.lt_of_lt_of_le ho hwrites
  | session k => exact Nat.lt_of_lt_of_le ho hsessions

/-- An object of a closed set leads to objects of the set only. -/
theorem Leads.within {P : Object → Prop} (hclosed : s.IsClosed P) (ho : P o) {o' : Object}
    (h : s.Leads o o') : P o' := by
  induction h with
  | refl => exact ho
  | step _ hv hm ih => exact hclosed _ ih _ hv _ hm

namespace SameAt

theorem refl (s : Store) (o : Object) : s.SameAt s o := by
  cases o with
  | query h => exact QueryBuilder.SameModel.refl _
  | _ => rfl

theorem trans (h : s.SameAt t o) (h' : t.SameAt u o) : s.SameAt u o := by
  cases o with
  | query k => exact QueryBuilder.SameModel.trans h h'
  | list k | record k | write k | session k => exact Eq.trans h h'

theorem values_eq (h : s.SameAt t o) : s.values o = t.values o := by
  cases o with
  | query k => exact QueryBuilder.SameModel.values_eq h
  | list k => exact h
  | record k => exact congrArg (List.flatMap fun e : Value × Value => [e.1, e.2]) h
  | write k =>
    have hwrite : (s.write k).write = (t.write k).write := h
    rw [values, values, hwrite]
  | session k =>
    have hsession : (s.session k).session = (t.session k).session := h
    rw [values, values, hsession]

end SameAt

/-! ### Evolution -/

namespace Evolves

theorem refl (hs : s.IsSound) : s.Evolves C s :=
  ⟨fun _ ho => ho, fun o _ _ => .refl s o, hs⟩

theorem mono (h : s.Evolves C t) (hC : ∀ o, C o → C' o) : s.Evolves C' t :=
  ⟨h.holds, fun o ho hnot => h.same o ho fun ho => hnot (hC o ho), h.sound⟩

theorem trans (h : s.Evolves C t) (h' : t.Evolves C u) : s.Evolves C u where
  holds o ho := h'.holds o (h.holds o ho)
  same o ho hnot := (h.same o ho hnot).trans (h'.same o (h.holds o ho) hnot)
  sound := h'.sound

/-- A change to one object, which then refers to what is there. -/
theorem of_change (hs : s.IsSound) (hholds : ∀ x, s.Holds x ↔ t.Holds x)
    (hsame : ∀ x, x ≠ o → s.SameAt t x)
    (hvalues : s.Holds o → ∀ v ∈ t.values o, v.Within s.Holds) : s.Evolves (· = o) t := by
  refine ⟨fun x hx => (hholds x).mp hx, fun x _ hne => hsame x hne, fun x hx v hv => ?_⟩
  have hold : s.Holds x := (hholds x).mpr hx
  have hwithin : v.Within s.Holds := by
    by_cases hxo : x = o
    · exact hvalues (hxo ▸ hold) v (hxo ▸ hv)
    · exact hs x hold v ((hsame x hxo).values_eq ▸ hv)
  exact hwithin.mono fun x hx => (hholds x).mp hx

/-- New objects, which refer to what is there. -/
theorem of_new {N : Object → Prop} (hs : s.IsSound) (hholds : ∀ x, s.Holds x → t.Holds x)
    (hnew : ∀ x, t.Holds x → s.Holds x ∨ N x) (hsame : ∀ x, s.Holds x → s.SameAt t x)
    (hvalues : ∀ x, N x → ∀ v ∈ t.values x, v.Within t.Holds) : s.Evolves C t := by
  refine ⟨hholds, fun x hx _ => hsame x hx, fun x hx v hv => ?_⟩
  rcases hnew x hx with hold | hx
  · exact (hs x hold v ((hsame x hold).values_eq ▸ hv)).mono hholds
  · exact hvalues x hx v hv

/-- **What is not reached does not show.** A query that leads to no object that changed compiles as
before. -/
theorem compile_eq (hst : s.Evolves C t) (hs : s.IsSound) (hh : h < s.queries.size)
    (hC : ∀ o, C o → ¬s.Leads (.query h) o) (d : Dialect) : s.compile h d = t.compile h d := by
  have hquery : s.Holds (.query h) := hh
  have hholds : ∀ o, s.Leads (.query h) o → s.Holds o := fun o ho => ho.within hs hquery
  refine compile_congr (s.isClosed_leads (.query h)) ?_ ?_ .refl d
  · exact fun o ho => hst.same o (hholds o ho) fun hchanged => hC o hchanged ho
  · exact fun g hg => ⟨hholds _ hg, hst.holds _ (hholds _ hg)⟩

end Evolves

/-! ### Basic operations -/

section Operations

variable (hs : s.IsSound)
include hs

theorem evolves_setQuery (h : Handle) {q : QueryBuilder} (hq : q.Within s.Holds) :
    s.Evolves (· = .query h) { s with queries := s.queries.setIfInBounds h q } := by
  refine .of_change hs (fun x => ?_) (fun x hx => ?_) (fun hh v hv => ?_)
  · cases x <;> simp [Holds]
  · cases x with
    | query k =>
      have hk : h ≠ k := fun hk => hx (hk ▸ rfl)
      show (s.query k).SameModel ((s.queries.setIfInBounds h q).getD k {})
      rw [getD_setIfInBounds_of_ne hk]
      exact .refl _
    | _ => rfl
  · have hset : (s.queries.setIfInBounds h q).getD h {} = q := getD_setIfInBounds_self hh
    refine QueryBuilder.within_iff.mp hq v ?_
    rw [← hset]
    exact hv

theorem evolves_setList (l : Handle) {items : List Value} (hitems : ∀ v ∈ items, v.Within s.Holds) :
    s.Evolves (· = .list l) { s with lists := s.lists.setIfInBounds l items } := by
  refine .of_change hs (fun x => ?_) (fun x hx => ?_) (fun hl v hv => ?_)
  · cases x <;> simp [Holds]
  · cases x with
    | query => exact QueryBuilder.SameModel.refl _
    | list k =>
      have hk : l ≠ k := fun hk => hx (hk ▸ rfl)
      exact (getD_setIfInBounds_of_ne hk).symm
    | _ => rfl
  · have hset : (s.lists.setIfInBounds l items).getD l [] = items := getD_setIfInBounds_self hl
    refine hitems v ?_
    rw [← hset]
    exact hv

theorem evolves_setRecord (r : Handle) {entries : List (Value × Value)}
    (hentries : (Value.record entries).Within s.Holds) :
    s.Evolves (· = .record r) { s with records := s.records.setIfInBounds r entries } := by
  refine .of_change hs (fun x => ?_) (fun x hx => ?_) (fun hr v hv => ?_)
  · cases x <;> simp [Holds]
  · cases x with
    | query => exact QueryBuilder.SameModel.refl _
    | record k =>
      have hk : r ≠ k := fun hk => hx (hk ▸ rfl)
      exact (getD_setIfInBounds_of_ne hk).symm
    | _ => rfl
  · have hset : (s.records.setIfInBounds r entries).getD r [] = entries :=
      getD_setIfInBounds_self hr
    refine hentries.part (?_ : v ∈ entries.flatMap fun e => [e.1, e.2])
    rw [← hset]
    exact hv

/-- A session that works keeps its driver. -/
theorem evolves_setSession (k : Handle) {session : Session}
    (hdriver : session.settings.driver = (s.session k).session.settings.driver) :
    s.Evolves (· = .session k) (s.setSession k session) := by
  refine .of_change hs (fun x => ?_) (fun x hx => ?_) (fun hk v hv => ?_)
  · cases x <;> simp [Holds, setSession]
  · cases x with
    | query => exact QueryBuilder.SameModel.refl _
    | session j =>
      have hj : k ≠ j := fun hj => hx (hj ▸ rfl)
      exact congrArg BoundSession.session (getD_setIfInBounds_of_ne hj).symm
    | _ => rfl
  · have hset : ((s.setSession k session).session k).session = session :=
      congrArg BoundSession.session (getD_setIfInBounds_self hk)
    have hmem : v ∈ s.values (.session k) := by
      rw [values, ← hdriver, ← hset]
      exact hv
    exact hs _ hk v hmem

theorem evolves_pushList {items : List Value} (hitems : ∀ v ∈ items, v.Within s.Holds) :
    s.Evolves C { s with lists := s.lists.push items } := by
  have hholds : ∀ x, s.Holds x → ({ s with lists := s.lists.push items } : Store).Holds x :=
    fun x hx => hx.mono le_rfl (by simp) le_rfl le_rfl le_rfl
  refine .of_new (N := (· = .list s.lists.size)) hs hholds (fun x hx => ?_) (fun x hx => ?_) ?_
  · cases x with
    | list k =>
      have hk : k < (s.lists.push items).size := hx
      rw [Array.size_push] at hk
      exact (Nat.lt_succ_iff_lt_or_eq.mp hk).imp_right (congrArg Object.list)
    | _ => exact .inl hx
  · cases x with
    | query => exact QueryBuilder.SameModel.refl _
    | list k => exact (getD_push_of_lt hx).symm
    | _ => rfl
  · rintro x rfl v hv
    have hpushed : (s.lists.push items).getD s.lists.size [] = items := getD_push_size
    refine (hitems v ?_).mono hholds
    rw [← hpushed]
    exact hv

theorem evolves_pushRecord {entries : List (Value × Value)}
    (hentries : (Value.record entries).Within s.Holds) :
    s.Evolves C { s with records := s.records.push entries } := by
  have hholds : ∀ x, s.Holds x → ({ s with records := s.records.push entries } : Store).Holds x :=
    fun x hx => hx.mono le_rfl le_rfl (by simp) le_rfl le_rfl
  refine .of_new (N := (· = .record s.records.size)) hs hholds (fun x hx => ?_) (fun x hx => ?_) ?_
  · cases x with
    | record k =>
      have hk : k < (s.records.push entries).size := hx
      rw [Array.size_push] at hk
      exact (Nat.lt_succ_iff_lt_or_eq.mp hk).imp_right (congrArg Object.record)
    | _ => exact .inl hx
  · cases x with
    | query => exact QueryBuilder.SameModel.refl _
    | record k => exact (getD_push_of_lt hx).symm
    | _ => rfl
  · rintro x rfl v hv
    have hpushed : (s.records.push entries).getD s.records.size [] = entries := getD_push_size
    refine Value.Within.mono (hentries.part (?_ : v ∈ entries.flatMap fun e => [e.1, e.2])) hholds
    rw [← hpushed]
    exact hv

theorem evolves_pushQuery {q : QueryBuilder} (hq : q.Within s.Holds) :
    s.Evolves C { s with queries := s.queries.push q } := by
  have hholds : ∀ x, s.Holds x → ({ s with queries := s.queries.push q } : Store).Holds x :=
    fun x hx => hx.mono (by simp) le_rfl le_rfl le_rfl le_rfl
  refine .of_new (N := (· = .query s.queries.size)) hs hholds (fun x hx => ?_) (fun x hx => ?_) ?_
  · cases x with
    | query k =>
      have hk : k < (s.queries.push q).size := hx
      rw [Array.size_push] at hk
      exact (Nat.lt_succ_iff_lt_or_eq.mp hk).imp_right (congrArg Object.query)
    | _ => exact .inl hx
  · cases x with
    | query k =>
      show (s.query k).SameModel ((s.queries.push q).getD k {})
      rw [getD_push_of_lt hx]
      exact .refl _
    | _ => rfl
  · rintro x rfl v hv
    have hpushed : (s.queries.push q).getD s.queries.size {} = q := getD_push_size
    refine (QueryBuilder.within_iff.mp hq v ?_).mono hholds
    rw [← hpushed]
    exact hv

end Operations

end Store

end FluentSql
