import TagFilter.Expression

namespace TagFilter

namespace Literal

/-- The names go from `before` to `after` without harm to the literal: its name is not lost when it
asks for it, and does not come up when it is negated. -/
structure Survives (before after : List Text) (literal : Literal) : Prop where
  kept : literal.negated = false → literal.name ∈ before → literal.name ∈ after
  absent : literal.negated = true → literal.name ∈ after → literal.name ∈ before

theorem Survives.holds {before after : List Text} {literal : Literal}
    (h : literal.Survives before after) (hbefore : literal.holds before = true) :
    literal.holds after = true := by
  rw [holds_iff] at hbefore ⊢
  cases hn : literal.negated with
  | false =>
    rw [hn] at hbefore
    exact ⟨fun _ => rfl, fun _ => h.kept hn (hbefore.2 rfl)⟩
  | true =>
    rw [hn] at hbefore
    exact ⟨fun hafter => hbefore.1 (h.absent hn hafter), fun hfalse => nomatch hfalse⟩

end Literal

theorem Clause.holds_of_survives {before after : List Text} {clause : Clause}
    (h : ∀ literal ∈ clause.literals, literal.Survives before after)
    (hbefore : clause.holds before = true) : clause.holds after = true := by
  obtain ⟨literal, hl, hholds⟩ := List.any_eq_true.1 hbefore
  exact List.any_eq_true.2 ⟨literal, hl, (h literal hl).holds hholds⟩

theorem Tag.mem_names_insert {before after : List Tag} {tag : Tag} {name : Text} :
    name ∈ Tag.names (before ++ tag :: after) ↔
      name = tag.name ∨ name ∈ Tag.names (before ++ after) := by
  simp only [Tag.names, List.map_append, List.map_cons, List.mem_append, List.mem_cons]
  exact or_left_comm

namespace Expression

def literals (expression : Expression) : List Literal := expression.clauses.flatMap (·.literals)

def mentions (expression : Expression) (tag : Tag) : Bool :=
  expression.literals.any (·.name == tag.name)

variable {expression : Expression} {first second : List Tag}

theorem accepts_of_survives
    (h : ∀ literal ∈ expression.literals,
      literal.Survives (Tag.names first) (Tag.names second))
    (hfirst : expression.accepts first = true) : expression.accepts second = true := by
  rw [accepts, Bool.or_eq_true, List.all_eq_true] at hfirst ⊢
  apply hfirst.imp_right
  intro hall clause hc
  apply Clause.holds_of_survives _ (hall clause hc)
  intro literal hl
  exact h literal (List.mem_flatMap.2 ⟨clause, hc, hl⟩)

theorem accepts_of_subset (hsub : Tag.names first ⊆ Tag.names second)
    (h : ∀ literal ∈ expression.literals, literal.negated = true →
      literal.name ∈ Tag.names second → literal.name ∈ Tag.names first)
    (hfirst : expression.accepts first = true) : expression.accepts second = true :=
  accepts_of_survives (fun literal hl => ⟨fun _ hname => hsub hname, h literal hl⟩) hfirst

theorem accepts_of_superset (hsub : Tag.names second ⊆ Tag.names first)
    (h : ∀ literal ∈ expression.literals, literal.negated = false →
      literal.name ∈ Tag.names first → literal.name ∈ Tag.names second)
    (hfirst : expression.accepts first = true) : expression.accepts second = true :=
  accepts_of_survives (fun literal hl => ⟨h literal hl, fun _ hname => hsub hname⟩) hfirst

theorem accepts_congr
    (h : ∀ literal ∈ expression.literals,
      literal.name ∈ Tag.names first ↔ literal.name ∈ Tag.names second) :
    expression.accepts first = expression.accepts second := by
  rw [Bool.eq_iff_iff]
  constructor
  · apply accepts_of_survives
    exact fun literal hl => ⟨fun _ => (h literal hl).1, fun _ => (h literal hl).2⟩
  · apply accepts_of_survives
    exact fun literal hl => ⟨fun _ => (h literal hl).2, fun _ => (h literal hl).1⟩

theorem accepts_filter_mentions (expression : Expression) (tags : List Tag) :
    expression.accepts (tags.filter expression.mentions) = expression.accepts tags := by
  apply accepts_congr
  intro literal hl
  simp only [Tag.mem_names, List.mem_filter]
  constructor
  · rintro ⟨tag, htag, hname⟩
    exact ⟨tag, htag.1, hname⟩
  · rintro ⟨tag, htag, hname⟩
    have hmentions : expression.mentions tag = true :=
      List.any_eq_true.2 ⟨literal, hl, beq_iff_eq.2 hname.symm⟩
    exact ⟨tag, ⟨htag, hmentions⟩, hname⟩

/-- A further tag, wherever it stands, takes no verdict away when no negated literal has its name,
and gives none when no positive literal has it. So tags that are not mentioned may be left out, an
expression without negated literals is monotone in the tags, and one without positive literals is
antitone. -/
theorem accepts_insert_of_polarity (expression : Expression) :
    (∀ (before after : List Tag) (tag : Tag),
      ((∀ literal ∈ expression.literals, literal.negated = true → literal.name ≠ tag.name) →
        expression.accepts (before ++ after) = true →
        expression.accepts (before ++ tag :: after) = true) ∧
      ((∀ literal ∈ expression.literals, literal.negated = false → literal.name ≠ tag.name) →
        expression.accepts (before ++ tag :: after) = true →
        expression.accepts (before ++ after) = true)) ∧
    (∀ tags, expression.accepts (tags.filter expression.mentions) = expression.accepts tags) ∧
    ∀ fewer more : List Tag, Tag.names fewer ⊆ Tag.names more →
      ((∀ literal ∈ expression.literals, literal.negated = false) →
        expression.accepts fewer = true → expression.accepts more = true) ∧
      ((∀ literal ∈ expression.literals, literal.negated = true) →
        expression.accepts more = true → expression.accepts fewer = true) := by
  refine ⟨fun before after tag => ⟨fun hnone => ?_, fun hnone => ?_⟩,
    accepts_filter_mentions expression, fun fewer more hsub => ⟨fun hall => ?_, fun hall => ?_⟩⟩
  · apply accepts_of_subset fun name hname => Tag.mem_names_insert.2 (.inr hname)
    intro literal hl hn hname
    exact (Tag.mem_names_insert.1 hname).resolve_left (hnone literal hl hn)
  · apply accepts_of_superset fun name hname => Tag.mem_names_insert.2 (.inr hname)
    intro literal hl hn hname
    exact (Tag.mem_names_insert.1 hname).resolve_left (hnone literal hl hn)
  · apply accepts_of_subset hsub
    intro literal hl hn
    rw [hall literal hl] at hn
    cases hn
  · apply accepts_of_superset hsub
    intro literal hl hn
    rw [hall literal hl] at hn
    cases hn

theorem accepts_insert_of_polarity_other_spelling :
    let mixed : Expression :=
      { clauses := [⟨[⟨"@b".toList, true⟩, ⟨"a".toList, false⟩]⟩,
          ⟨[⟨"c".toList, true⟩, ⟨"@c".toList, false⟩, ⟨"a".toList, false⟩]⟩]
        limits := ⟨[("a".toList, 2)], by decide⟩ }
    let positive : Expression := { clauses := [⟨[⟨"a".toList, false⟩, ⟨"@b".toList, false⟩]⟩] }
    let negative : Expression := { clauses := [⟨[⟨"~a".toList, true⟩]⟩] }
    (compile ["a, ~@b".toList, "@c,~c,a:2".toList] = .ok mixed ∧
      mixed.accepts ["c".toList, "@a".toList, "b".toList, "a".toList] = true ∧
      mixed.accepts ["a".toList, "@b".toList] = true ∧ mixed.accepts ["a".toList] = true ∧
      mixed.accepts [] = true ∧ mixed.accepts ["b".toList] = false) ∧
      (compile ["a,@b".toList] = .ok positive ∧
        positive.accepts ["x".toList, "b".toList] = true) ∧
      compile ["~~a".toList] = .ok negative ∧ negative.accepts ["x".toList] = true := by
  intro mixed positive negative
  have hmixed := accepts_insert_of_polarity mixed
  refine ⟨⟨rfl, ?_, rfl, ?_, rfl, rfl⟩, ⟨rfl, ?_⟩, rfl, ?_⟩
  -- No negated literal has the name `a`, and no positive one the name `b`.
  · exact (hmixed.1 ["c".toList] ["b".toList, "a".toList] "@a".toList).1 (by decide) rfl
  · exact (hmixed.1 ["a".toList] [] "@b".toList).2 (by decide) rfl
  · exact ((accepts_insert_of_polarity positive).2.2 ["@b".toList] _ (by decide)).1 (by decide) rfl
  · exact ((accepts_insert_of_polarity negative).2.2 _ ["x".toList, "@a".toList] (by decide)).2
      (by decide) rfl

end Expression

end TagFilter
