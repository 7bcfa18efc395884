import TagFilter.Proofs.Expression.Shape

namespace TagFilter

namespace Written

def heads (input : Text) : List Text := ((pieces input).map head).filter (· ≠ [])

def namedInOrder (pieces : List Text) : List Text :=
  (pieces.filter isNegated ++ pieces.filter (!isNegated ·)).filter isNamed

theorem named_eq (input : Text) : named input = namedInOrder (pieces input) := rfl

theorem namedInOrder_filter_ne_nil (texts : List Text) :
    namedInOrder (texts.filter (· ≠ [])) = namedInOrder texts := by
  simp only [namedInOrder, List.filter_append, List.filter_filter]
  congr 1 <;>
  · apply List.filter_congr
    intro piece _
    by_cases hn : isNamed piece = true <;> simp [hn, ne_nil_of_isNamed]

@[simp] theorem head_cons {c : Char} (h : c ≠ ':') (piece : Text) :
    head (c :: piece) = c :: head piece := by
  simp [head, h]

theorem head_of_colon_not_mem {piece : Text} (h : ':' ∉ piece) : head piece = piece := by
  rw [head, List.takeWhile_eq_self_iff]
  intro c hc
  simp only [decide_eq_true_eq]
  intro heq
  rw [heq] at hc
  exact h hc

@[simp] theorem head_head (piece : Text) : head (head piece) = head piece :=
  head_of_colon_not_mem (colon_not_mem_head piece)

@[simp] theorem isNegated_head (piece : Text) : isNegated (head piece) = isNegated piece := by
  rw [isNegated, head_head, isNegated]

@[simp] theorem tag_head (piece : Text) : tag (head piece) = tag piece := by
  rw [tag, isNegated_head, head_head, tag]

@[simp] theorem isNamed_head (piece : Text) : isNamed (head piece) = isNamed piece := by
  rw [isNamed, tag_head, isNamed]

theorem map_head_namedInOrder (texts : List Text) :
    (namedInOrder texts).map head = namedInOrder (texts.map head) := by
  simp [namedInOrder, List.filter_map, Function.comp_def]

theorem literals_eq_of_heads (input : Text) :
    literals input =
      ((namedInOrder (heads input)).map fun piece => ⟨tag piece, isNegated piece⟩).eraseDups := by
  rw [heads, namedInOrder_filter_ne_nil, ← map_head_namedInOrder, ← named_eq, List.map_map]
  simp [literals, Function.comp_def]

theorem clauses_eq_filter (inputs : List Text) :
    clauses inputs =
      (inputs.map fun input => Clause.mk (literals input)).filter (!·.isEmpty) := by
  simp [clauses, List.filter_map, Function.comp_def, isEmpty_mk_literals]

theorem clauses_congr {xs ys : List Text} (h : xs.map heads = ys.map heads) :
    clauses xs = clauses ys := by
  have hmap (inputs : List Text) : (inputs.map fun input => Clause.mk (literals input)) =
      (inputs.map heads).map fun heads => Clause.mk
        ((namedInOrder heads).map fun piece => ⟨tag piece, isNegated piece⟩).eraseDups := by
    simp [literals_eq_of_heads, Function.comp_def]
  rw [clauses_eq_filter, clauses_eq_filter, hmap, hmap, h]

theorem exists_piece_of_mem_clauses {inputs : List Text} {clause : Clause}
    (h : clause ∈ clauses inputs) {literal : Literal} (hl : literal ∈ clause.literals) :
    ∃ input ∈ inputs, ∃ piece ∈ pieces input, isNamed piece = true ∧
      Literal.mk (tag piece) (isNegated piece) = literal := by
  obtain ⟨input, hinput, hliterals⟩ := List.mem_map.1 h
  rw [← hliterals] at hl
  exact ⟨input, (List.mem_filter.1 hinput).1, mem_literals.1 hl⟩

theorem tag_isSuffix_head (piece : Text) : tag piece <:+ head piece := by
  rw [tag]
  split
  · exact List.tail_suffix _
  · exact List.suffix_refl _

theorem endsBlank_head_of_tag {piece : Text} (hn : isNamed piece = true) :
    Text.endsBlank (head piece) = Text.endsBlank (tag piece) :=
  Text.endsBlank_of_isSuffix (tag_ne_nil hn) (tag_isSuffix_head piece)

theorem endsBlank_piece {input piece : Text} (h : piece ∈ pieces input) :
    Text.endsBlank piece = false := by
  obtain ⟨untrimmed, _, htrim⟩ := exists_trim_of_mem_pieces h
  rw [← htrim]
  exact Text.endsBlank_trim untrimmed

theorem isBlank_of_head?_head {input piece : Text} (h : piece ∈ pieces input) {c : Char}
    (hc : (head piece).head? = some c) : Text.isBlank c = false :=
  isBlank_of_head?_piece h (head?_piece_of_head?_head hc)

theorem isNamed_of_endsBlank_head {input piece : Text} (h : piece ∈ pieces input)
    (hblank : Text.endsBlank (head piece) = true) : isNamed piece = true := by
  have hfirst : ∀ c, (head piece).head? = some c → Text.isBlank c = false :=
    fun c => isBlank_of_head?_head h
  -- A head does not begin with a blank, so one that ends with a blank is more than a `~`.
  rw [isNamed, tag]
  cases hh : head piece with
  | nil => rw [hh] at hblank; cases hblank
  | cons c rest =>
    cases rest with
    | nil =>
      rw [hh] at hblank hfirst
      simp [Text.endsBlank, hfirst c rfl] at hblank
    | cons d rest => split <;> simp

theorem exists_eq_head_append {piece : Text} (h : ':' ∈ piece) :
    ∃ suffix, piece = head piece ++ ':' :: suffix := by
  have hpiece := Text.before_append_after? ':' piece
  cases hs : Text.after? ':' piece with
  | none =>
    rw [hs] at hpiece
    have hhead : head piece = piece := (List.append_nil _).symm.trans hpiece
    rw [← hhead] at h
    exact absurd h (colon_not_mem_head piece)
  | some suffix =>
    rw [hs] at hpiece
    exact ⟨suffix, hpiece.symm⟩

/-- Only before a colon a blank can stay at the end of a tag. -/
theorem tag_colon_isInfix_piece {input piece : Text} (h : piece ∈ pieces input)
    (hn : isNamed piece = true) (hblank : Text.endsBlank (tag piece) = true) :
    tag piece ++ [':'] <:+: piece := by
  have hcolon : ':' ∈ piece := by
    by_contra hcolon
    rw [← endsBlank_head_of_tag hn, head_of_colon_not_mem hcolon, endsBlank_piece h] at hblank
    cases hblank
  obtain ⟨before, hbefore⟩ := tag_isSuffix_head piece
  obtain ⟨after, hafter⟩ := exists_eq_head_append hcolon
  refine ⟨before, after, ?_⟩
  rw [← List.append_assoc, hbefore, List.append_assoc]
  exact hafter.symm

section NoColon

variable {input : Text} {inputs : List Text}

theorem colon_not_mem_piece (h : ':' ∉ input) {piece : Text} (hp : piece ∈ pieces input) :
    ':' ∉ piece := by
  rw [pieces_eq_map_trim] at hp
  obtain ⟨untrimmed, hsplit, htrim⟩ := List.mem_map.1 hp
  rw [← htrim]
  intro hc
  exact h (Text.mem_of_mem_trim (Text.mem_of_mem_splitOn hsplit (Text.mem_of_mem_trim hc)))

theorem declared_of_colon_not_mem (h : ':' ∉ input) : declared input = [] := by
  rw [declared, List.filterMap_eq_nil_iff]
  intro piece hpiece
  have hcolon := colon_not_mem_piece h (mem_ordered.1 hpiece)
  simp [declaration?, number?, hcolon]

theorem declarations_of_colon_not_mem (h : ∀ input ∈ inputs, ':' ∉ input) :
    declarations inputs = [] :=
  List.flatMap_eq_nil_iff.2 fun input hi => declared_of_colon_not_mem (h input hi)

theorem endsBlank_of_mem_clauses (h : ∀ input ∈ inputs, ':' ∉ input) {clause : Clause}
    (hclause : clause ∈ clauses inputs) {literal : Literal} (hl : literal ∈ clause.literals) :
    Text.endsBlank literal.tag = false := by
  obtain ⟨input, hinput, piece, hp, hn, hpiece⟩ := exists_piece_of_mem_clauses hclause hl
  have hcolon := colon_not_mem_piece (h input hinput) hp
  rw [← hpiece, ← endsBlank_head_of_tag hn, head_of_colon_not_mem hcolon]
  exact endsBlank_piece hp

end NoColon

theorem colon_not_mem_join {texts : List Text} (h : ∀ text ∈ texts, ':' ∉ text) :
    ':' ∉ Text.join [','] texts := by
  intro hc
  rcases Text.mem_join hc with hc | ⟨text, ht, hc⟩
  · simp at hc
  · exact h text ht hc

theorem pieces_join {texts : List Text} (hne : texts ≠ []) (h : ∀ text ∈ texts, ',' ∉ text) :
    pieces (Text.join [','] texts) = texts.map Text.trim := by
  rw [pieces, Text.join, List.splitOn_intercalate ',' h hne]
  apply List.map_congr_left
  intro text _
  exact (Text.trim_eq_rdropWhile text).symm

end Written

namespace Expression

theorem compile_of_colon_not_mem {inputs : List Text} (h : ∀ input ∈ inputs, ':' ∉ input) :
    compile inputs = .ok { clauses := Written.clauses inputs } := by
  rw [compile_eq, Written.declarations_of_colon_not_mem h]
  rfl

end Expression

end TagFilter
