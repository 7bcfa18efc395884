import TagFilter.Expression
import TagFilter.Proofs.Limit.History
import TagFilter.Proofs.Written

namespace TagFilter

namespace Clause

theorem ofLiterals_concat (literals : List Literal) (literal : Literal) :
    ofLiterals (literals ++ [literal]) = (ofLiterals literals).add literal := by
  simp [ofLiterals]

theorem mem_ofLiterals {literals : List Literal} {literal : Literal} :
    literal ∈ (ofLiterals literals).literals ↔ literal ∈ literals := by
  induction literals using List.reverseRecOn with
  | nil => rfl
  | append_singleton literals last ih => simp [ofLiterals_concat, mem_literals_add, ih]

theorem literals_ofLiterals (literals : List Literal) :
    (ofLiterals literals).literals = literals.eraseDups := by
  induction literals using List.reverseRecOn with
  | nil => rfl
  | append_singleton literals literal ih =>
    rw [ofLiterals_concat, List.eraseDups_append, ← ih, add]
    by_cases h : literal ∈ literals
    · simp [mem_ofLiterals, h, List.cons_removeAll]
    · simp [mem_ofLiterals, h, List.cons_removeAll, List.eraseDups_cons]

end Clause

namespace Written

def clauses (inputs : List Text) : List Clause :=
  (inputs.filter fun input => (pieces input).any isNamed).map fun input => ⟨literals input⟩

theorem mem_ordered {input piece : Text} : piece ∈ ordered input ↔ piece ∈ pieces input := by
  cases h : isNegated piece <;> simp [ordered, h]

theorem mem_named {input piece : Text} :
    piece ∈ named input ↔ piece ∈ pieces input ∧ isNamed piece = true := by
  rw [named, List.mem_filter, mem_ordered]

theorem mem_literals {input : Text} {literal : Literal} :
    literal ∈ literals input ↔
      ∃ piece ∈ pieces input, isNamed piece = true ∧ ⟨tag piece, isNegated piece⟩ = literal := by
  simp [literals, mem_named, and_assoc]

theorem literals_eq_nil_iff {input : Text} :
    literals input = [] ↔ (pieces input).any isNamed = false := by
  rw [List.eq_nil_iff_forall_not_mem, List.any_eq_false]
  constructor
  · intro h piece hp hn
    exact h _ (mem_literals.2 ⟨piece, hp, hn, rfl⟩)
  · intro h literal hl
    obtain ⟨piece, hp, hn, _⟩ := mem_literals.1 hl
    exact h piece hp hn

theorem isEmpty_mk_literals (input : Text) :
    (Clause.mk (literals input)).isEmpty = !(pieces input).any isNamed := by
  rw [Bool.eq_iff_iff, Clause.isEmpty, List.isEmpty_iff, literals_eq_nil_iff, Bool.not_eq_true']

@[simp] theorem declarations_cons (input : Text) (inputs : List Text) :
    declarations (input :: inputs) = declared input ++ declarations inputs := rfl

theorem clauses_cons (input : Text) (inputs : List Text) :
    clauses (input :: inputs) =
      (if (pieces input).any isNamed then [⟨literals input⟩] else []) ++ clauses inputs := by
  cases h : (pieces input).any isNamed <;> simp [clauses, h]

end Written

open Written

namespace Clause

theorem ofTokens_inOrder (input : Text) :
    ofTokens (Token.inOrder (Token.ofText input)) = ⟨Written.literals input⟩ := by
  rw [ofTokens, filter_isNamed_inOrder, List.map_map]
  apply (congrArg Clause.mk (literals_ofLiterals _)).trans
  simp [Written.literals, Function.comp_def]

end Clause

def Declarations.outcome (declarations : Declarations) : Except Conflict LimitTable :=
  match declarations.conflict? with
  | none => .ok declarations.limits
  | some conflict => .error conflict

theorem Declarations.outcome_ofTokens (table : LimitTable) (tokens : List Token) :
    (ofTokens table tokens).outcome =
      table.recordAll
        ((tokens.filterMap Token.declaration?).map fun entry => (entry.1.name, entry.2)) := by
  induction tokens generalizing table with
  | nil => rfl
  | cons token tokens ih =>
    rw [ofTokens, Token.declareIn]
    cases hd : token.declaration? with
    | none =>
      rw [List.filterMap_cons_none hd, ← ih table]
      rfl
    | some entry =>
      rw [List.filterMap_cons_some hd, List.map_cons, LimitTable.recordAll, List.foldlM_cons]
      simp only [LimitTable.declare_eq_record]
      cases table.record entry.1.name entry.2 with
      | error conflict => rfl
      | ok after => exact ih after

theorem Declarations.outcome_inOrder (table : LimitTable) (input : Text) :
    (ofTokens table (Token.inOrder (Token.ofText input))).outcome =
      table.recordAll (declared input) := by
  rw [outcome_ofTokens, filterMap_declaration?_inOrder]

namespace Clause

theorem read_of_error {table : LimitTable} {input : Text} {conflict : Conflict}
    (h : table.recordAll (declared input) = .error conflict) :
    (read table input).result = .error conflict := by
  rw [← Declarations.outcome_inOrder, Declarations.outcome] at h
  rw [read]
  split at h
  · cases h
  · next other hc =>
    rw [Except.error.inj h] at hc
    simp only [hc]

theorem read_of_ok {table after : LimitTable} {input : Text}
    (h : table.recordAll (declared input) = .ok after) :
    (read table input).result =
        .ok (if (pieces input).any isNamed then some ⟨Written.literals input⟩ else none) ∧
      (read table input).limits = after := by
  rw [← Declarations.outcome_inOrder, Declarations.outcome] at h
  rw [read]
  split at h
  · next hc =>
    simp only [hc, ofTokens_inOrder, isEmpty_mk_literals]
    refine ⟨?_, Except.ok.inj h⟩
    cases (pieces input).any isNamed <;> rfl
  · cases h

end Clause

theorem Compilation.result_ofStrings (table : LimitTable) (inputs : List Text) :
    (ofStrings table inputs).result =
      (table.recordAll (declarations inputs)).map fun limits =>
        { clauses := clauses inputs, limits } := by
  -- Each string is read on the table that the strings before it left.
  induction inputs generalizing table with
  | nil => rfl
  | cons input inputs ih =>
    rw [ofStrings, declarations_cons, LimitTable.recordAll_append]
    cases h : table.recordAll (declared input) with
    | error conflict => simp only [Clause.read_of_error h]; rfl
    | ok after =>
      simp only [(Clause.read_of_ok h).1, (Clause.read_of_ok h).2, ih after, clauses_cons]
      change _ = (after.recordAll (declarations inputs)).map _
      cases after.recordAll (declarations inputs) with
      | error conflict => rfl
      | ok last => cases (pieces input).any isNamed <;> rfl

namespace Expression

variable {inputs : List Text} {expression : Expression} {conflict : Conflict}

theorem compile_eq (inputs : List Text) :
    compile inputs =
      (LimitTable.recordAll {} (declarations inputs)).map fun limits =>
        { clauses := Written.clauses inputs, limits } :=
  Compilation.result_ofStrings {} inputs

theorem compile_eq_ok_iff :
    compile inputs = .ok expression ↔
      LimitTable.recordAll {} (declarations inputs) = .ok expression.limits ∧
        expression.clauses = Written.clauses inputs := by
  rw [compile_eq]
  cases LimitTable.recordAll {} (declarations inputs) with
  | error conflict => simp [Except.map]
  | ok limits =>
    cases expression
    simp [Except.map, and_comm, eq_comm]

theorem compile_eq_error_iff :
    compile inputs = .error conflict ↔
      History.FirstConflict (declarations inputs) conflict := by
  rw [compile_eq, ← LimitTable.recordAll_eq_error_iff]
  cases LimitTable.recordAll {} (declarations inputs) <;> simp [Except.map]

theorem exists_compile_eq_ok_iff :
    (∃ expression, compile inputs = .ok expression) ↔
      History.Consistent (declarations inputs) := by
  rw [compile_eq, ← LimitTable.recordAll_eq_ok_iff]
  cases LimitTable.recordAll {} (declarations inputs) <;> simp [Except.map]

theorem clauses_of_compile (h : compile inputs = .ok expression) :
    expression.clauses = Written.clauses inputs :=
  (compile_eq_ok_iff.1 h).2

theorem isEmpty_of_mem_clauses {clause : Clause} (h : clause ∈ Written.clauses inputs) :
    clause.isEmpty = false := by
  obtain ⟨input, hinput, hclause⟩ := List.mem_map.1 h
  rw [← hclause, isEmpty_mk_literals, (List.mem_filter.1 hinput).2]
  rfl

theorem accepts_of_compile (h : compile inputs = .ok expression) (tags : List Tag) :
    expression.accepts tags =
      (Written.clauses inputs).all (·.holds (Tag.names tags)) := by
  rw [← clauses_of_compile h]
  apply accepts_eq_all
  intro clause hc
  rw [clauses_of_compile h] at hc
  exact isEmpty_of_mem_clauses hc

theorem mem_limits_of_compile (h : compile inputs = .ok expression) (entry : Text × Limit) :
    entry ∈ expression.limits.toList ↔ entry ∈ declarations inputs :=
  LimitTable.mem_toList_of_recordAll (compile_eq_ok_iff.1 h).1 entry

end Expression

end TagFilter
