import TagFilter.Proofs.Expression.Heads

namespace TagFilter

theorem filter_append_filter_not {α : Type} {p : α → Bool} {items : List α}
    (h : items.Pairwise fun a b => p b = true → p a = true) :
    items.filter p ++ items.filter (!p ·) = items := by
  induction items with
  | nil => rfl
  | cons item items ih =>
    obtain ⟨hitem, hitems⟩ := List.pairwise_cons.1 h
    cases hp : p item with
    | true => simpa [hp] using ih hitems
    | false =>
      have hnone : items.filter p = [] := by
        rw [List.filter_eq_nil_iff]
        intro other hother hpo
        rw [hitem other hother hpo] at hp
        cases hp
      simpa [hp, hnone] using ih hitems

theorem eraseDups_of_nodup {α : Type} [BEq α] [LawfulBEq α] {items : List α} (h : items.Nodup) :
    items.eraseDups = items := by
  induction items with
  | nil => rfl
  | cons item items ih =>
    obtain ⟨hitem, hitems⟩ := List.nodup_cons.1 h
    have hall : items.filter (fun other => !other == item) = items := by
      rw [List.filter_eq_self]
      intro other hother
      simpa using fun heq : other = item => hitem (heq ▸ hother)
    rw [List.eraseDups_cons, hall, ih hitems]

namespace Written

namespace WellNamed

variable {literal : Literal} (h : WellNamed literal)
include h

theorem comma_not_mem_render : ',' ∉ literal.render := by
  rw [Literal.render]
  split
  · simpa using h.comma
  · exact h.comma

theorem colon_not_mem_render : ':' ∉ literal.render := by
  rw [Literal.render]
  split
  · simpa using h.colon
  · exact h.colon

theorem isNegated_render : isNegated literal.render = literal.negated := by
  rw [isNegated, head_of_colon_not_mem h.colon_not_mem_render, Literal.render]
  cases hn : literal.negated with
  | true => rfl
  | false =>
    rw [if_neg Bool.false_ne_true, beq_eq_false_iff_ne]
    intro htilde
    exact (h.head hn '~' htilde).1 rfl

theorem tag_render : tag literal.render = literal.tag := by
  rw [tag, h.isNegated_render, head_of_colon_not_mem h.colon_not_mem_render, Literal.render]
  cases literal.negated <;> rfl

theorem isNamed_render : isNamed literal.render = true := by
  rw [isNamed, h.tag_render]
  exact decide_eq_true h.ne_nil

theorem trim_render (hblank : Text.endsBlank literal.tag = false) :
    Text.trim literal.render = literal.render := by
  rw [Literal.render]
  cases hn : literal.negated with
  | true =>
    apply Text.trim_eq_self
    · intro c hc
      cases hc
      rfl
    · exact (Text.endsBlank_append h.ne_nil ['~']).trans hblank
  | false => exact Text.trim_eq_self (fun c hc => (h.head hn c hc).2) hblank

end WellNamed

structure WellFormed (clause : Clause) : Prop where
  ne_nil : clause.literals ≠ []
  nodup : clause.literals.Nodup
  negated_first : clause.literals.Pairwise fun a b => b.negated = true → a.negated = true
  wellNamed : ∀ literal ∈ clause.literals, WellNamed literal

theorem wellFormed_mk_literals {input : Text} (h : (pieces input).any isNamed = true) :
    WellFormed ⟨literals input⟩ where
  ne_nil := by
    intro hnil
    rw [literals_eq_nil_iff.1 hnil] at h
    cases h
  nodup := nodup_literals input
  negated_first := negated_first_literals input
  wellNamed := fun _ => wellNamed_of_mem_literals

theorem wellFormed_of_mem_clauses {inputs : List Text} {clause : Clause}
    (h : clause ∈ clauses inputs) : WellFormed clause := by
  obtain ⟨input, hinput, hliterals⟩ := List.mem_map.1 h
  rw [← hliterals]
  exact wellFormed_mk_literals (List.mem_filter.1 hinput).2

theorem namedInOrder_eq_self {texts : List Text} (hnamed : ∀ text ∈ texts, isNamed text = true)
    (horder : texts.Pairwise fun a b => isNegated b = true → isNegated a = true) :
    namedInOrder texts = texts := by
  rw [namedInOrder, filter_append_filter_not horder]
  exact List.filter_eq_self.2 hnamed

section Render

variable {clause : Clause} (h : WellFormed clause)
include h

theorem pieces_render :
    pieces clause.render = (clause.literals.map Literal.render).map Text.trim := by
  apply pieces_join
  · simpa using h.ne_nil
  · intro text ht
    obtain ⟨literal, hl, hrender⟩ := List.mem_map.1 ht
    rw [← hrender]
    exact (h.wellNamed literal hl).comma_not_mem_render

theorem colon_not_mem_render : ':' ∉ clause.render := by
  apply colon_not_mem_join
  intro text ht
  obtain ⟨literal, hl, hrender⟩ := List.mem_map.1 ht
  rw [← hrender]
  exact (h.wellNamed literal hl).colon_not_mem_render

theorem map_literal_render :
    clause.literals.map
      (fun literal => Literal.mk (tag literal.render) (isNegated literal.render)) =
        clause.literals := by
  apply (List.map_congr_left _).trans (List.map_id _)
  intro literal hl
  rw [(h.wellNamed literal hl).tag_render, (h.wellNamed literal hl).isNegated_render]
  rfl

variable (hblank : ∀ literal ∈ clause.literals, Text.endsBlank literal.tag = false)
include hblank

theorem pieces_render_of_not_endsBlank :
    pieces clause.render = clause.literals.map Literal.render := by
  rw [pieces_render h, List.map_map]
  apply List.map_congr_left
  intro literal hl
  exact (h.wellNamed literal hl).trim_render (hblank literal hl)

theorem named_render : named clause.render = clause.literals.map Literal.render := by
  rw [named_eq, pieces_render_of_not_endsBlank h hblank]
  apply namedInOrder_eq_self
  · intro text ht
    obtain ⟨literal, hl, hrender⟩ := List.mem_map.1 ht
    rw [← hrender]
    exact (h.wellNamed literal hl).isNamed_render
  -- Rendering moves no literal, so the negated ones stand first already.
  · rw [List.pairwise_map]
    apply h.negated_first.imp_of_mem
    intro a b ha hb hab
    rwa [(h.wellNamed a ha).isNegated_render, (h.wellNamed b hb).isNegated_render]

theorem literals_render : literals clause.render = clause.literals := by
  rw [literals, named_render h hblank, List.map_map]
  exact (congrArg List.eraseDups (map_literal_render h)).trans (eraseDups_of_nodup h.nodup)

end Render

theorem clauses_map_render {given : List Clause} (h : ∀ clause ∈ given, WellFormed clause)
    (hblank : ∀ clause ∈ given, ∀ literal ∈ clause.literals,
      Text.endsBlank literal.tag = false) :
    clauses (given.map Clause.render) = given := by
  have hread : given.map (fun clause => Clause.mk (literals clause.render)) = given := by
    apply (List.map_congr_left _).trans (List.map_id _)
    intro clause hc
    rw [literals_render (h clause hc) (hblank clause hc)]
    rfl
  rw [clauses_eq_filter, List.map_map]
  apply (congrArg (List.filter _) hread).trans
  rw [List.filter_eq_self]
  intro clause hc
  simpa [Clause.isEmpty] using (h clause hc).ne_nil

end Written

namespace Expression

theorem wellFormed_of_compile {inputs : List Text} {expression : Expression}
    (h : compile inputs = .ok expression) :
    ∀ clause ∈ expression.clauses, Written.WellFormed clause := by
  rw [clauses_of_compile h]
  exact fun _ => Written.wellFormed_of_mem_clauses

/-- The rendered clauses of an expression compile, without limits. They give the same clauses
exactly when no tag ends with a blank, and a tag that does had the blank before a colon. -/
theorem compile_rendered_clauses {inputs : List Text} {expression : Expression}
    (h : compile inputs = .ok expression) :
    ∃ again, compile (expression.clauses.map Clause.render) = .ok again ∧
      again.limits = {} ∧
      (again.clauses = expression.clauses ↔
        ∀ clause ∈ expression.clauses, ∀ literal ∈ clause.literals,
          Text.endsBlank literal.tag = false) ∧
      ∀ clause ∈ expression.clauses, ∀ literal ∈ clause.literals,
        Text.endsBlank literal.tag = true →
          ∃ input ∈ inputs, ∃ piece ∈ Written.pieces input, literal.tag ++ [':'] <:+: piece := by
  have hclauses := clauses_of_compile h
  have hwell : ∀ clause ∈ expression.clauses, Written.WellFormed clause := by
    rw [hclauses]
    exact fun clause => Written.wellFormed_of_mem_clauses
  have hcolon : ∀ rendered ∈ expression.clauses.map Clause.render, ':' ∉ rendered := by
    intro rendered hr
    obtain ⟨clause, hc, hrender⟩ := List.mem_map.1 hr
    rw [← hrender]
    exact Written.colon_not_mem_render (hwell clause hc)
  refine ⟨_, compile_of_colon_not_mem hcolon, rfl, ⟨?_, ?_⟩, ?_⟩
  -- What was compiled without colons has no blank at the end of a tag.
  · intro hsame clause hclause literal hl
    rw [← hsame] at hclause
    exact Written.endsBlank_of_mem_clauses hcolon hclause hl
  · exact Written.clauses_map_render hwell
  · intro clause hclause literal hl hblank
    rw [hclauses] at hclause
    obtain ⟨input, hinput, piece, hp, hn, hpiece⟩ :=
      Written.exists_piece_of_mem_clauses hclause hl
    rw [← hpiece] at hblank ⊢
    exact ⟨input, hinput, piece, hp, Written.tag_colon_isInfix_piece hp hn hblank⟩

theorem rendered_clauses_blank_before_colon :
    let kept : Expression :=
      { clauses := [⟨[⟨" a".toList, true⟩, ⟨"~c".toList, true⟩, ⟨"x".toList, false⟩,
          ⟨"@x y".toList, false⟩]⟩]
        limits := ⟨[(" a".toList, 2)], by decide⟩ }
    let lost : Expression :=
      { clauses := [⟨[⟨"é ".toList, false⟩]⟩], limits := ⟨[("é ".toList, 1)], by decide⟩ }
    (compile ["x,~ a:2, @x y: ,~~c".toList] = .ok kept ∧
      ∃ again, compile (kept.clauses.map Clause.render) = .ok again ∧
        again.clauses = kept.clauses) ∧
      compile ["é :1".toList] = .ok lost ∧
      (∃ again, compile (lost.clauses.map Clause.render) = .ok again ∧ again.limits = {} ∧
        again.clauses ≠ lost.clauses) ∧
      ∃ input ∈ ["é :1".toList], ∃ piece ∈ Written.pieces input,
        "é ".toList ++ [':'] <:+: piece := by
  intro kept lost
  have hkept : compile ["x,~ a:2, @x y: ,~~c".toList] = .ok kept := rfl
  have hlost : compile ["é :1".toList] = .ok lost := rfl
  obtain ⟨first, hfirst, _, hsame, _⟩ := compile_rendered_clauses hkept
  obtain ⟨second, hsecond, hlimits, hdiffer, hcolon⟩ := compile_rendered_clauses hlost
  refine ⟨⟨hkept, first, hfirst, hsame.2 (by decide)⟩, hlost, ⟨second, hsecond, hlimits, ?_⟩,
    hcolon ⟨[⟨"é ".toList, false⟩]⟩ (by decide) ⟨"é ".toList, false⟩ (by decide) rfl⟩
  rw [Ne, hdiffer]
  decide

end Expression

end TagFilter
