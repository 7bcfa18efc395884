import TagFilter.Proofs.Expression.Rendering

/-!
A rendering tells what was compiled. Clauses are told apart by their renderings always, for the
commas in these stand between literals only. Expressions are when no tag has an `&` in it, for then
the `&` tell where a clause ends, and the commas within it tell whether its parentheses are its own
or belong to its tag.
-/

namespace TagFilter

namespace Text

theorem join_cons_ne_nil {text : Text} (h : text ≠ []) (sep : Text) (texts : List Text) :
    join sep (text :: texts) ≠ [] := by
  cases texts <;> simp [h]

theorem eq_of_append_cons_eq {mark : Char} {text other rest last : Text} (htext : mark ∉ text)
    (hother : mark ∉ other) (h : text ++ mark :: rest = other ++ mark :: last) :
    text = other ∧ rest = last := by
  have htexts : text = other := by
    rw [← before_append_cons htext rest, ← before_append_cons hother last, h]
  rw [htexts] at h
  exact ⟨htexts, (List.cons.inj (List.append_cancel_left h)).2⟩

section Separator

-- A separator is found by one of its characters, the mark, behind a lead that is always the same.
variable {lead after : Text} {mark : Char} (hlead : mark ∉ lead)
include hlead

theorem eq_of_append_separator_eq {text other rest last : Text} (htext : mark ∉ text)
    (hother : mark ∉ other)
    (h : text ++ (lead ++ mark :: after) ++ rest = other ++ (lead ++ mark :: after) ++ last) :
    text = other ∧ rest = last := by
  have hmarks : (text ++ lead) ++ mark :: (after ++ rest) =
      (other ++ lead) ++ mark :: (after ++ last) := by
    simpa using h
  obtain ⟨hstart, hrest⟩ :=
    eq_of_append_cons_eq (by simp [htext, hlead]) (by simp [hother, hlead]) hmarks
  exact ⟨List.append_cancel_right hstart, List.append_cancel_left hrest⟩

theorem eq_of_join_eq {texts others : List Text}
    (htexts : ∀ text ∈ texts, text ≠ [] ∧ mark ∉ text)
    (hothers : ∀ other ∈ others, other ≠ [] ∧ mark ∉ other)
    (h : join (lead ++ mark :: after) texts = join (lead ++ mark :: after) others) :
    texts = others := by
  have hmark (first rest : Text) : mark ∈ first ++ (lead ++ mark :: after) ++ rest := by simp
  induction texts generalizing others with
  | nil =>
    cases others with
    | nil => rfl
    | cons other others =>
      exact absurd h.symm (join_cons_ne_nil (hothers other (by simp)).1 _ _)
  | cons text texts ih =>
    cases others with
    | nil => exact absurd h (join_cons_ne_nil (htexts text (by simp)).1 _ _)
    | cons other others =>
      have htext := (htexts text (by simp)).2
      have hother := (hothers other (by simp)).2
      cases texts with
      | nil =>
        cases others with
        | nil => simpa using h
        | cons next others =>
          rw [join_singleton, join_cons_cons] at h
          exact absurd (h ▸ hmark _ _) htext
      | cons second texts =>
        cases others with
        | nil =>
          rw [join_singleton, join_cons_cons] at h
          exact absurd (h ▸ hmark _ _) hother
        | cons next others =>
          rw [join_cons_cons, join_cons_cons] at h
          obtain ⟨rfl, hrest⟩ := eq_of_append_separator_eq hlead htext hother h
          rw [ih (fun text ht => htexts text (List.mem_cons_of_mem _ ht))
            (fun other ho => hothers other (List.mem_cons_of_mem _ ho)) hrest]

end Separator

end Text

namespace Written

theorem WellNamed.render_ne_nil {literal : Literal} (h : WellNamed literal) :
    literal.render ≠ [] := by
  intro hnil
  have hnamed := h.isNamed_render
  rw [hnil] at hnamed
  cases hnamed

namespace WellFormed

variable {clause other : Clause} (h : WellFormed clause)
include h

theorem forall_mem_map_render :
    ∀ text ∈ clause.literals.map Literal.render, text ≠ [] ∧ ',' ∉ text := by
  intro text ht
  obtain ⟨literal, hl, hrender⟩ := List.mem_map.1 ht
  rw [← hrender]
  exact ⟨(h.wellNamed literal hl).render_ne_nil, (h.wellNamed literal hl).comma_not_mem_render⟩

theorem eq_of_render_eq (hother : WellFormed other) (heq : clause.render = other.render) :
    clause = other := by
  have hrendered : clause.literals.map Literal.render = other.literals.map Literal.render :=
    Text.eq_of_join_eq List.not_mem_nil h.forall_mem_map_render hother.forall_mem_map_render heq
  have hread := congrArg (List.map fun text => Literal.mk (tag text) (isNegated text)) hrendered
  rw [List.map_map, List.map_map] at hread
  have hliterals : clause.literals = other.literals :=
    (map_literal_render h).symm.trans (hread.trans (map_literal_render hother))
  cases clause
  cases other
  exact congrArg Clause.mk hliterals

theorem exists_cons : ∃ literal rest, clause.literals = literal :: rest :=
  List.exists_cons_of_ne_nil h.ne_nil

theorem comma_mem_renderClause_iff :
    ',' ∈ Expression.renderClause clause ↔ 1 < clause.literals.length := by
  obtain ⟨literal, rest, hliterals⟩ := h.exists_cons
  cases rest with
  | nil =>
    have hcomma := (h.wellNamed literal (by simp [hliterals])).comma_not_mem_render
    simpa [Expression.renderClause, Clause.render, hliterals] using hcomma
  | cons second rest =>
    simp [Expression.renderClause, Clause.render, hliterals]

theorem renderClause_ne_nil : Expression.renderClause clause ≠ [] := by
  rw [Expression.renderClause]
  split
  · simp
  · obtain ⟨literal, rest, hliterals⟩ := h.exists_cons
    rw [Clause.render, hliterals, List.map_cons]
    exact Text.join_cons_ne_nil (h.wellNamed literal (by simp [hliterals])).render_ne_nil _ _

/-- Parentheses in tags cannot be taken for those around several literals. -/
theorem eq_of_renderClause_eq (hother : WellFormed other)
    (heq : Expression.renderClause clause = Expression.renderClause other) : clause = other := by
  have hsame : 1 < clause.literals.length ↔ 1 < other.literals.length := by
    rw [← h.comma_mem_renderClause_iff, heq, hother.comma_mem_renderClause_iff]
  apply h.eq_of_render_eq hother
  rw [Expression.renderClause, Expression.renderClause] at heq
  by_cases hseveral : 1 < clause.literals.length
  · rw [if_pos hseveral, if_pos (hsame.1 hseveral)] at heq
    exact List.append_cancel_left (List.append_cancel_right heq)
  · rwa [if_neg hseveral, if_neg (mt hsame.2 hseveral)] at heq

end WellFormed

theorem eq_of_map_renderClause_eq {given others : List Clause}
    (hgiven : ∀ clause ∈ given, WellFormed clause) (hothers : ∀ clause ∈ others, WellFormed clause)
    (h : given.map Expression.renderClause = others.map Expression.renderClause) :
    given = others := by
  induction given generalizing others with
  | nil => exact (List.map_eq_nil_iff.1 h.symm).symm
  | cons clause given ih =>
    cases others with
    | nil => cases h
    | cons other others =>
      obtain ⟨hfirst, hrest⟩ := List.cons.inj h
      rw [(hgiven clause (by simp)).eq_of_renderClause_eq (hothers other (by simp)) hfirst,
        ih (fun clause hc => hgiven clause (List.mem_cons_of_mem _ hc))
          (fun clause hc => hothers clause (List.mem_cons_of_mem _ hc)) hrest]

theorem ampersand_not_mem_renderClause {clause : Clause}
    (h : ∀ literal ∈ clause.literals, '&' ∉ literal.tag) :
    '&' ∉ Expression.renderClause clause := by
  have hrender : '&' ∉ clause.render := by
    intro hmem
    rcases Text.mem_join hmem with hcomma | ⟨text, ht, hmem⟩
    · simp at hcomma
    · obtain ⟨literal, hl, rfl⟩ := List.mem_map.1 ht
      have htag := h literal hl
      rw [Literal.render] at hmem
      split at hmem <;> simp_all
  rw [Expression.renderClause]
  split
  · simpa using hrender
  · exact hrender

theorem forall_mem_map_renderClause {clauses : List Clause}
    (hwell : ∀ clause ∈ clauses, WellFormed clause)
    (hampersand : ∀ clause ∈ clauses, ∀ literal ∈ clause.literals, '&' ∉ literal.tag) :
    ∀ text ∈ clauses.map Expression.renderClause, text ≠ [] ∧ '&' ∉ text := by
  intro text ht
  obtain ⟨clause, hc, hrender⟩ := List.mem_map.1 ht
  rw [← hrender]
  exact ⟨(hwell clause hc).renderClause_ne_nil,
    ampersand_not_mem_renderClause (hampersand clause hc)⟩

theorem clauses_eq_of_render_eq {first second : Expression}
    (hfirst : ∀ clause ∈ first.clauses, WellFormed clause)
    (hsecond : ∀ clause ∈ second.clauses, WellFormed clause)
    (hampersand : ∀ clause ∈ first.clauses ++ second.clauses, ∀ literal ∈ clause.literals,
      '&' ∉ literal.tag)
    (h : first.render = second.render) : first.clauses = second.clauses := by
  have hseparator : " && ".toList = " ".toList ++ '&' :: "& ".toList := rfl
  rw [Expression.render, Expression.render, hseparator] at h
  obtain ⟨hleft, hright⟩ := List.forall_mem_append.1 hampersand
  apply eq_of_map_renderClause_eq hfirst hsecond
  exact Text.eq_of_join_eq (by decide) (forall_mem_map_renderClause hfirst hleft)
    (forall_mem_map_renderClause hsecond hright) h

end Written

namespace Clause

theorem wellFormed_of_read {table : LimitTable} {input : Text} {clause : Clause}
    (h : (read table input).result = .ok (some clause)) : Written.WellFormed clause := by
  cases hrecord : table.recordAll (Written.declared input) with
  | error conflict =>
    rw [read_of_error hrecord] at h
    cases h
  | ok after =>
    rw [(read_of_ok hrecord).1] at h
    split at h
    · next hnamed =>
      obtain rfl := Option.some.inj (Except.ok.inj h)
      exact Written.wellFormed_mk_literals hnamed
    · cases h

end Clause

namespace Expression

/-- Clauses with the same rendering are the same. So are the clauses of two expressions with the
same rendering that have no `&` in their tags, and then the two have the same verdicts. -/
theorem render_identifies :
    (∀ (table other : LimitTable) (input text : Text) (first second : Clause),
        (Clause.read table input).result = .ok (some first) →
        (Clause.read other text).result = .ok (some second) →
        first.render = second.render → first = second) ∧
      ∀ (xs ys : List Text) (first second : Expression),
        compile xs = .ok first → compile ys = .ok second →
        (∀ clause ∈ first.clauses ++ second.clauses, ∀ literal ∈ clause.literals,
          '&' ∉ literal.tag) →
        first.render = second.render →
        first.clauses = second.clauses ∧ ∀ tags, first.accepts tags = second.accepts tags := by
  refine ⟨?_, ?_⟩
  · intro table other input text first second hfirst hsecond
    exact (Clause.wellFormed_of_read hfirst).eq_of_render_eq (Clause.wellFormed_of_read hsecond)
  · intro xs ys first second hx hy hampersand hrender
    have hclauses : first.clauses = second.clauses :=
      Written.clauses_eq_of_render_eq (wellFormed_of_compile hx) (wellFormed_of_compile hy)
        hampersand hrender
    refine ⟨hclauses, fun tags => ?_⟩
    rw [accepts_of_compile hx, accepts_of_compile hy, ← clauses_of_compile hx,
      ← clauses_of_compile hy, hclauses]

theorem render_identifies_parentheses_in_tags :
    let table : LimitTable := ⟨[("a".toList, 1)], by decide⟩
    let xs := ["x (y) :1, ~~z ,~ (w:3".toList, "(q,(q".toList]
    let ys := ["~~z:7,,x (y) :x,~ (w,~~z".toList, " ~:1 , ".toList, "(q:0".toList]
    ∃ first second : Expression, compile xs = .ok first ∧ compile ys = .ok second ∧
      first.render = "(~~z,~ (w,x (y) ) && (q".toList ∧ second.render = first.render ∧
      first.limits ≠ second.limits ∧
      first.clauses = second.clauses ∧
      first.accepts ["z".toList, " (w".toList] = second.accepts ["z".toList, " (w".toList] ∧
      ∃ one other : Clause, (Clause.read table "a,~)".toList).result = .ok (some one) ∧
        (Clause.read {} "~):2, a:2".toList).result = .ok (some other) ∧ one = other := by
  intro table xs ys
  let clauses : List Clause :=
    [⟨[⟨"~z".toList, true⟩, ⟨" (w".toList, true⟩, ⟨"x (y) ".toList, false⟩]⟩,
      ⟨[⟨"(q".toList, false⟩]⟩]
  let first : Expression :=
    { clauses, limits := ⟨[(" (w".toList, 3), ("x (y) ".toList, 1)], by decide⟩ }
  let second : Expression :=
    { clauses, limits := ⟨[("(q".toList, 0), ("~z".toList, 7)], by decide⟩ }
  let one : Clause := ⟨[⟨")".toList, true⟩, ⟨"a".toList, false⟩]⟩
  have hx : compile xs = .ok first := rfl
  have hy : compile ys = .ok second := rfl
  obtain ⟨hclauses, haccepts⟩ :=
    render_identifies.2 xs ys first second hx hy (by decide) rfl
  exact ⟨first, second, hx, hy, rfl, rfl, by decide, hclauses, haccepts _, one, one, rfl, rfl,
    render_identifies.1 table {} "a,~)".toList "~):2, a:2".toList one one rfl rfl rfl⟩

/-- An `&` in a tag can be mistaken for one between clauses. -/
example : ∃ first second : Expression, compile ["a && b".toList] = .ok first ∧
    compile ["a".toList, "b".toList] = .ok second ∧ first.render = second.render ∧
    first.clauses ≠ second.clauses :=
  ⟨_, _, rfl, rfl, rfl, by decide⟩

end Expression

end TagFilter
