import TagFilter.Proofs.Expression.Compiled

namespace TagFilter

namespace Clause

theorem nodup_ofLiterals (literals : List Literal) : (ofLiterals literals).literals.Nodup := by
  induction literals using List.reverseRecOn with
  | nil => exact List.nodup_nil
  | append_singleton literals literal ih =>
    rw [ofLiterals_concat, add]
    split
    · exact ih
    · next h =>
      apply List.nodup_append.2
      refine ⟨ih, List.pairwise_singleton _ literal, ?_⟩
      intro other hother last hlast heq
      rw [heq, List.mem_singleton.1 hlast] at hother
      exact h hother

theorem ofLiterals_sublist (literals : List Literal) :
    List.Sublist (ofLiterals literals).literals literals := by
  induction literals using List.reverseRecOn with
  | nil => exact List.Sublist.slnil
  | append_singleton literals literal ih =>
    rw [ofLiterals_concat, add]
    split
    · exact ih.trans (List.sublist_append_left literals [literal])
    · exact ih.append (List.Sublist.refl [literal])

end Clause

namespace Written

theorem exists_trim_of_mem_pieces {input piece : Text} (h : piece ∈ pieces input) :
    ∃ untrimmed, ',' ∉ untrimmed ∧ Text.trim untrimmed = piece := by
  rw [pieces_eq_map_trim] at h
  obtain ⟨untrimmed, hsplit, htrim⟩ := List.mem_map.1 h
  exact ⟨untrimmed, Text.not_mem_of_mem_splitOn hsplit, htrim⟩

theorem comma_not_mem_piece {input piece : Text} (h : piece ∈ pieces input) : ',' ∉ piece := by
  obtain ⟨untrimmed, hcomma, htrim⟩ := exists_trim_of_mem_pieces h
  rw [← htrim]
  exact mt Text.mem_of_mem_trim hcomma

theorem isBlank_of_head?_piece {input piece : Text} (h : piece ∈ pieces input) {c : Char}
    (hc : piece.head? = some c) : Text.isBlank c = false := by
  obtain ⟨untrimmed, _, htrim⟩ := exists_trim_of_mem_pieces h
  rw [← htrim] at hc
  exact Text.isBlank_of_head?_trim hc

theorem mem_of_mem_head {piece : Text} {c : Char} (h : c ∈ head piece) : c ∈ piece :=
  (List.takeWhile_sublist _).mem h

theorem colon_not_mem_head (piece : Text) : ':' ∉ head piece := by
  intro h
  have := List.mem_takeWhile_imp h
  simp at this

theorem mem_head_of_mem_tag {piece : Text} {c : Char} (h : c ∈ tag piece) : c ∈ head piece := by
  rw [tag] at h
  split at h
  · exact List.mem_of_mem_tail h
  · exact h

theorem head?_piece_of_head?_head {piece : Text} {c : Char} (h : (head piece).head? = some c) :
    piece.head? = some c := by
  cases piece with
  | nil => exact h
  | cons d rest =>
    by_cases hd : d = ':'
    · simp [head, hd] at h
    · simpa [head, hd] using h

theorem tag_ne_nil {piece : Text} (h : isNamed piece = true) : tag piece ≠ [] := by
  simpa [isNamed] using h

theorem head?_tag_of_positive {input piece : Text} (h : piece ∈ pieces input)
    (hp : isNegated piece = false) {c : Char} (hc : (tag piece).head? = some c) :
    c ≠ '~' ∧ Text.isBlank c = false := by
  rw [tag, hp] at hc
  refine ⟨fun htilde => ?_, isBlank_of_head?_piece h (head?_piece_of_head?_head hc)⟩
  have hhead : (head piece).head? = some c := hc
  rw [isNegated, hhead, htilde] at hp
  cases hp

/-- What tags a literal can have: they are free of separators, and nothing that is taken off a piece
stands before the tag of a positive one. -/
structure WellNamed (literal : Literal) : Prop where
  ne_nil : literal.tag ≠ []
  comma : ',' ∉ literal.tag
  colon : ':' ∉ literal.tag
  head : literal.negated = false → ∀ c, literal.tag.head? = some c →
    c ≠ '~' ∧ Text.isBlank c = false

theorem wellNamed_of_mem_literals {input : Text} {literal : Literal}
    (h : literal ∈ literals input) : WellNamed literal := by
  obtain ⟨piece, hp, hn, hliteral⟩ := mem_literals.1 h
  rw [← hliteral]
  exact
    { ne_nil := tag_ne_nil hn
      comma := fun hc => comma_not_mem_piece hp (mem_of_mem_head (mem_head_of_mem_tag hc))
      colon := fun hc => colon_not_mem_head piece (mem_head_of_mem_tag hc)
      head := fun hpositive _ hc => head?_tag_of_positive hp hpositive hc }

theorem literals_eq_ofLiterals (input : Text) :
    literals input =
      (Clause.ofLiterals ((named input).map fun piece => ⟨tag piece, isNegated piece⟩)).literals :=
  (Clause.literals_ofLiterals _).symm

theorem nodup_literals (input : Text) : (literals input).Nodup := by
  rw [literals_eq_ofLiterals]
  exact Clause.nodup_ofLiterals _

theorem negated_first_ordered (input : Text) :
    (ordered input).Pairwise fun a b => isNegated b = true → isNegated a = true := by
  rw [ordered, List.pairwise_append]
  have hnegated : ∀ piece ∈ (pieces input).filter isNegated, isNegated piece = true :=
    fun piece h => (List.mem_filter.1 h).2
  have hothers : ∀ piece ∈ (pieces input).filter (!isNegated ·), ¬ isNegated piece = true :=
    fun piece h => by simpa using (List.mem_filter.1 h).2
  refine ⟨List.pairwise_of_forall_mem_list ?_, List.pairwise_of_forall_mem_list ?_, ?_⟩
  · intro a ha b _ _
    exact hnegated a ha
  · intro a _ b hb h
    exact absurd h (hothers b hb)
  · intro a ha b _ _
    exact hnegated a ha

theorem negated_first_literals (input : Text) :
    (literals input).Pairwise fun a b => b.negated = true → a.negated = true := by
  rw [literals_eq_ofLiterals]
  apply List.Pairwise.sublist (Clause.ofLiterals_sublist _)
  rw [List.pairwise_map]
  exact (negated_first_ordered input).sublist List.filter_sublist

theorem exists_literal_of_mem_declared {input : Text} {entry : Text × Limit}
    (h : entry ∈ declared input) : ∃ literal ∈ literals input, literal.name = entry.1 := by
  obtain ⟨piece, hpiece, hdeclaration⟩ := List.mem_filterMap.1 h
  rw [declaration?] at hdeclaration
  cases hn : isNamed piece with
  | false => simp [hn] at hdeclaration
  | true =>
    obtain ⟨limit, _, hentry⟩ : ∃ limit, number? piece = some limit ∧
        (bare (tag piece), limit) = entry := by
      simpa [hn] using hdeclaration
    have hnamed : piece ∈ named input := List.mem_filter.2 ⟨hpiece, hn⟩
    refine ⟨_, mem_literals.2 ⟨piece, (mem_named.1 hnamed).1, hn, rfl⟩, ?_⟩
    rw [← hentry, bare_eq_name]
    rfl

theorem mem_clauses_of_mem_literals {inputs : List Text} {input : Text} {literal : Literal}
    (hinput : input ∈ inputs) (h : literal ∈ literals input) :
    ⟨literals input⟩ ∈ clauses inputs := by
  refine List.mem_map_of_mem (List.mem_filter.2 ⟨hinput, ?_⟩)
  obtain ⟨piece, hp, hn, _⟩ := mem_literals.1 h
  exact List.any_eq_true.2 ⟨piece, hp, hn⟩

end Written

namespace Expression

/-- A compiled expression has one clause for each string that names a tag. The literals of a clause
are those of its string, negated ones first and each of them once; none of them holds a separator;
and limits are for their names alone. -/
theorem shape_of_compile {inputs : List Text} {expression : Expression}
    (h : compile inputs = .ok expression) :
    expression.clauses.map Clause.literals =
        (inputs.filter fun input => (Written.pieces input).any Written.isNamed).map
          Written.literals ∧
      (∀ clause ∈ expression.clauses,
        clause.isEmpty = false ∧
        clause.literals.Nodup ∧
        (clause.literals.Pairwise fun a b => b.negated = true → a.negated = true) ∧
        ∀ literal ∈ clause.literals, Written.WellNamed literal) ∧
      ∀ entry ∈ expression.limits.toList,
        ∃ clause ∈ expression.clauses, ∃ literal ∈ clause.literals, literal.name = entry.1 := by
  rw [clauses_of_compile h]
  refine ⟨by simp [Written.clauses, Function.comp_def], ?_, ?_⟩
  · intro clause hclause
    refine ⟨isEmpty_of_mem_clauses hclause, ?_⟩
    obtain ⟨input, _, hliterals⟩ := List.mem_map.1 hclause
    rw [← hliterals]
    exact ⟨Written.nodup_literals input, Written.negated_first_literals input,
      fun _ => Written.wellNamed_of_mem_literals⟩
  · intro entry hentry
    rw [mem_limits_of_compile h, Written.declarations, List.mem_flatMap] at hentry
    obtain ⟨input, hinput, hdeclared⟩ := hentry
    obtain ⟨literal, hliteral, hname⟩ := Written.exists_literal_of_mem_declared hdeclared
    exact ⟨_, Written.mem_clauses_of_mem_literals hinput hliteral, literal, hliteral, hname⟩

theorem shape_blank_after_negation :
    let inputs := [" @b , ~ a:2,@b:x,~~c,~ a".toList, ", ~:4".toList, "é:1".toList]
    let expression : Expression :=
      { clauses := [⟨[⟨" a".toList, true⟩, ⟨"~c".toList, true⟩, ⟨"@b".toList, false⟩]⟩,
          ⟨[⟨"é".toList, false⟩]⟩]
        limits := ⟨[(" a".toList, 2), ("é".toList, 1)], by decide⟩ }
    compile inputs = .ok expression ∧
      (∀ clause ∈ expression.clauses, ∀ literal ∈ clause.literals, Written.WellNamed literal) ∧
      ∃ clause ∈ expression.clauses, ∃ literal ∈ clause.literals, literal.name = " a".toList := by
  intro inputs expression
  have h : compile inputs = .ok expression := rfl
  have hshape := shape_of_compile h
  exact ⟨h, fun clause hclause => (hshape.2.1 clause hclause).2.2.2,
    hshape.2.2 (" a".toList, 2) (by decide)⟩

end Expression

end TagFilter
