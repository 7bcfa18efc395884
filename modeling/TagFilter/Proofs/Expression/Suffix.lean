import TagFilter.Proofs.Expression.Heads

namespace TagFilter

namespace Written

def cut (input : Text) : Text := Text.join [','] ((pieces input).map head)

theorem pieces_ne_nil (input : Text) : pieces input ≠ [] := by
  rw [pieces_eq_map_trim]
  simp

theorem pieces_cut (input : Text) :
    pieces (cut input) = (pieces input).map fun piece => Text.trim (head piece) := by
  rw [cut, pieces_join, List.map_map]
  · rfl
  · simpa using pieces_ne_nil input
  · intro text ht
    obtain ⟨piece, hp, hhead⟩ := List.mem_map.1 ht
    rw [← hhead]
    exact fun hc => comma_not_mem_piece hp (mem_of_mem_head hc)

theorem colon_not_mem_cut {inputs : List Text} : ∀ text ∈ inputs.map cut, ':' ∉ text := by
  intro text ht
  obtain ⟨input, _, hcut⟩ := List.mem_map.1 ht
  rw [← hcut]
  apply colon_not_mem_join
  intro start hstart
  obtain ⟨piece, _, hhead⟩ := List.mem_map.1 hstart
  rw [← hhead]
  exact colon_not_mem_head piece

theorem mem_heads {input start : Text} :
    start ∈ heads input ↔ start ≠ [] ∧ ∃ piece ∈ pieces input, head piece = start := by
  simp [heads, and_comm]

theorem heads_cut {input : Text} (h : ∀ start ∈ heads input, Text.endsBlank start = false) :
    heads (cut input) = heads input := by
  have htrim : ∀ piece ∈ pieces input, Text.trim (head piece) = head piece := by
    intro piece hp
    by_cases hnil : head piece = []
    · rw [hnil]
      rfl
    · apply Text.trim_eq_self
      · exact fun c => isBlank_of_head?_head hp
      · exact h _ (mem_heads.2 ⟨hnil, piece, hp, rfl⟩)
  rw [heads, pieces_cut, List.map_congr_left htrim, List.map_map, heads]
  simp [Function.comp_def]

theorem exists_literal_of_endsBlank {input start : Text} (h : start ∈ heads input)
    (hblank : Text.endsBlank start = true) :
    ∃ literal ∈ literals input, Text.endsBlank literal.tag = true := by
  obtain ⟨_, piece, hp, hhead⟩ := mem_heads.1 h
  rw [← hhead] at hblank
  have hn := isNamed_of_endsBlank_head hp hblank
  rw [endsBlank_head_of_tag hn] at hblank
  exact ⟨_, mem_literals.2 ⟨piece, hp, hn, rfl⟩, hblank⟩

theorem clauses_eq_clauses_cut_iff {inputs : List Text} :
    clauses inputs = clauses (inputs.map cut) ↔
      ∀ input ∈ inputs, ∀ start ∈ heads input, Text.endsBlank start = false := by
  constructor
  · intro hsame input hinput start hstart
    rw [Bool.eq_false_iff]
    intro hblank
    obtain ⟨literal, hl, hliteral⟩ := exists_literal_of_endsBlank hstart hblank
    have hclause := mem_clauses_of_mem_literals hinput hl
    rw [hsame] at hclause
    rw [endsBlank_of_mem_clauses colon_not_mem_cut hclause hl] at hliteral
    cases hliteral
  · intro h
    apply clauses_congr
    rw [List.map_map]
    apply List.map_congr_left
    intro input hinput
    exact (heads_cut (h input hinput)).symm

end Written

namespace Expression

/-- Strings that are cut before their colons compile without limits. What compiles has the clauses
of its heads, whatever its suffixes are, and cutting them off keeps the clauses exactly when no head
ends with a blank. -/
theorem limits_take_no_part (xs ys : List Text) :
    (∃ plain, compile (xs.map Written.cut) = .ok plain ∧ plain.limits = {} ∧
        ∀ expression, compile xs = .ok expression →
          (expression.clauses = plain.clauses ↔
            ∀ input ∈ xs, ∀ start ∈ Written.heads input, Text.endsBlank start = false)) ∧
      ∀ first second, compile xs = .ok first → compile ys = .ok second →
        xs.map Written.heads = ys.map Written.heads →
          first.clauses = second.clauses ∧
          first.render = second.render ∧
          first.isEmpty = second.isEmpty ∧
          ∀ tags, first.accepts tags = second.accepts tags := by
  constructor
  · refine ⟨_, compile_of_colon_not_mem Written.colon_not_mem_cut, rfl, fun expression h => ?_⟩
    rw [clauses_of_compile h]
    exact Written.clauses_eq_clauses_cut_iff
  · intro first second hfirst hsecond hheads
    have hclauses : first.clauses = second.clauses := by
      rw [clauses_of_compile hfirst, clauses_of_compile hsecond, Written.clauses_congr hheads]
    refine ⟨hclauses, ?_, ?_, fun tags => ?_⟩
    · rw [render, render, hclauses]
    · rw [isEmpty, isEmpty, hclauses]
    · rw [accepts, accepts, asksNothing, asksNothing, hclauses]

theorem limits_take_no_part_odd_suffixes :
    let xs := ["~@a:2, b:x:1 ,:4".toList, "c :1".toList]
    let ys := [":9,~@a,,b: +07".toList, "c :".toList]
    let clauses : List Clause :=
      [⟨[⟨"@a".toList, true⟩, ⟨"b".toList, false⟩]⟩, ⟨[⟨"c ".toList, false⟩]⟩]
    let first : Expression := ⟨clauses, ⟨[("a".toList, 2), ("c ".toList, 1)], by decide⟩⟩
    let second : Expression := ⟨clauses, ⟨[("b".toList, 7)], by decide⟩⟩
    compile xs = .ok first ∧ compile ys = .ok second ∧
      xs.map Written.heads = ys.map Written.heads ∧
      (∀ tags, first.accepts tags = second.accepts tags) ∧
      ∃ plain, compile (xs.map Written.cut) = .ok plain ∧ first.clauses ≠ plain.clauses := by
  intro xs ys clauses first second
  have hfirst : compile xs = .ok first := rfl
  have hsecond : compile ys = .ok second := rfl
  have hheads : xs.map Written.heads = ys.map Written.heads := by decide
  obtain ⟨⟨plain, hplain, _, hcut⟩, hsame⟩ := limits_take_no_part xs ys
  refine ⟨hfirst, hsecond, hheads, (hsame first second hfirst hsecond hheads).2.2.2,
    plain, hplain, ?_⟩
  rw [Ne, hcut first hfirst]
  decide

end Expression

end TagFilter
