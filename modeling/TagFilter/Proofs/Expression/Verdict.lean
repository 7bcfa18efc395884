import TagFilter.Proofs.Expression.Compiled

namespace TagFilter

namespace Written

/-- A piece holds when its tag is among the tags, in either spelling of both, unless the piece is
negated; then it holds when the tag is not. -/
def Holds (tags : List Tag) (piece : Text) : Prop :=
  (∃ present ∈ tags, bare present = bare (tag piece)) ↔ isNegated piece = false

def Satisfied (inputs : List Text) (tags : List Tag) : Prop :=
  ∀ input ∈ inputs, (∃ piece ∈ pieces input, isNamed piece) →
    ∃ piece ∈ pieces input, isNamed piece ∧ Holds tags piece

theorem holds_literal_iff (tags : List Tag) (piece : Text) :
    (Literal.mk (tag piece) (isNegated piece)).holds (Tag.names tags) = true ↔
      Holds tags piece := by
  simp [Literal.holds_iff, Literal.name, Holds, bare_eq_name]

theorem holds_literals_iff (tags : List Tag) (input : Text) :
    (Clause.mk (literals input)).holds (Tag.names tags) = true ↔
      ∃ piece ∈ pieces input, isNamed piece ∧ Holds tags piece := by
  rw [Clause.holds, List.any_eq_true]
  constructor
  · rintro ⟨literal, hl, hholds⟩
    obtain ⟨piece, hp, hn, hpiece⟩ := mem_literals.1 hl
    rw [← hpiece, holds_literal_iff] at hholds
    exact ⟨piece, hp, hn, hholds⟩
  · rintro ⟨piece, hp, hn, hholds⟩
    exact ⟨_, mem_literals.2 ⟨piece, hp, hn, rfl⟩, (holds_literal_iff tags piece).2 hholds⟩

theorem all_clauses_hold_iff (inputs : List Text) (tags : List Tag) :
    (clauses inputs).all (·.holds (Tag.names tags)) = true ↔ Satisfied inputs tags := by
  rw [List.all_eq_true, Satisfied, clauses]
  simp only [List.forall_mem_map, List.mem_filter, List.any_eq_true, and_imp, holds_literals_iff]

end Written

namespace Expression

open History

theorem get?_limits_of_compile {inputs : List Text} {expression : Expression}
    (h : compile inputs = .ok expression) (tag : Tag) (limit : Limit) :
    expression.limits.get? tag = some limit ↔
      (Written.bare tag, limit) ∈ Written.declarations inputs := by
  rw [← mem_limits_of_compile h, LimitTable.toList, LimitTable.mem_entries_iff_lookup,
    Written.bare_eq_name, LimitTable.get?]

/-- Strings compile when no two of their declarations differ on a name. The limits are then the
declarations; otherwise the conflict is the one that the declarations have first. -/
theorem compile_decides_declarations (inputs : List Text) :
    ((∃ expression, compile inputs = .ok expression) ↔
        Consistent (Written.declarations inputs)) ∧
      (∀ expression, compile inputs = .ok expression →
        (∀ entry, entry ∈ expression.limits.toList ↔ entry ∈ Written.declarations inputs) ∧
        ∀ tag limit, expression.limits.get? tag = some limit ↔
          (Written.bare tag, limit) ∈ Written.declarations inputs) ∧
      (¬ Consistent (Written.declarations inputs) →
        ∃ conflict, compile inputs = .error conflict ∧
          FirstConflict (Written.declarations inputs) conflict) ∧
      ∀ conflict, compile inputs = .error conflict ↔
        FirstConflict (Written.declarations inputs) conflict := by
  refine ⟨exists_compile_eq_ok_iff, ?_, ?_, fun _ => compile_eq_error_iff⟩
  · intro expression h
    exact ⟨mem_limits_of_compile h, get?_limits_of_compile h⟩
  · intro hinconsistent
    obtain ⟨conflict, hconflict⟩ := (consistent_or_firstConflict _).resolve_left hinconsistent
    exact ⟨conflict, compile_eq_error_iff.2 hconflict, hconflict⟩

theorem conflict_negated_before_others :
    let inputs := ["@b:4, @a:1 ,a:1:2,~@a:2,~:7".toList, "b:5".toList]
    ¬ Consistent (Written.declarations inputs) ∧
      compile inputs = .error ⟨"a".toList, 2, 1⟩ := by
  intro inputs
  have hfirst : FirstConflict (Written.declarations inputs) ⟨"a".toList, 2, 1⟩ :=
    ⟨[("a".toList, 2), ("b".toList, 4)], [("b".toList, 5)], rfl, rfl, by decide, by decide⟩
  exact ⟨hfirst.not_consistent, ((compile_decides_declarations inputs).2.2.2 _).2 hfirst⟩

/-- An expression accepts exactly the tags that satisfy its strings, so a string that names no tag
asks for nothing, and an expression without named pieces accepts all tags. -/
theorem accepts_iff_satisfied {inputs : List Text} {expression : Expression}
    (h : compile inputs = .ok expression) (tags : List Tag) :
    (expression.accepts tags = true ↔ Written.Satisfied inputs tags) ∧
      ((∀ input ∈ inputs, ∀ piece ∈ Written.pieces input, Written.isNamed piece = false) →
        expression.accepts tags = true) := by
  have hiff : expression.accepts tags = true ↔ Written.Satisfied inputs tags := by
    rw [accepts_of_compile h, Written.all_clauses_hold_iff]
  refine ⟨hiff, fun hnone => ?_⟩
  rw [hiff]
  rintro input hinput ⟨piece, hp, hn⟩
  rw [hnone input hinput piece hp] at hn
  cases hn

theorem satisfied_odd_names :
    let inputs := [" ~~a:3 , @b,,~:4".toList, "@".toList, "~:9, :2".toList]
    let expression : Expression :=
      { clauses := [⟨[⟨"~a".toList, true⟩, ⟨"@b".toList, false⟩]⟩, ⟨[⟨"@".toList, false⟩]⟩]
        limits := ⟨[("~a".toList, 3)], by simp⟩ }
    compile inputs = .ok expression ∧ Written.Satisfied inputs ["~a".toList, "@b".toList, []] ∧
      compile ["~:9, :2".toList] = .ok {} ∧ accepts {} ["b".toList] = true := by
  have h : compile [" ~~a:3 , @b,,~:4".toList, "@".toList, "~:9, :2".toList] = .ok _ := rfl
  have hnone : compile ["~:9, :2".toList] = .ok {} := rfl
  exact ⟨h, (accepts_iff_satisfied h _).1.1 (by decide), hnone,
    (accepts_iff_satisfied hnone _).2 (by decide)⟩

end Expression

end TagFilter
