import TagFilter.Proofs.Clause.Interleaving
import TagFilter.Proofs.Expression.Alike
import TagFilter.Proofs.Expression.Concatenation

namespace TagFilter

namespace Written

variable {before after : Text}

def namesTag (input : Text) : Bool := (pieces input).any isNamed

theorem namesTag_append_comma (before after : Text) :
    namesTag (before ++ ',' :: after) = (namesTag before || namesTag after) := by
  rw [namesTag, pieces_append_comma, List.any_append]
  rfl

theorem mem_literals_append_comma {literal : Literal} :
    literal ∈ literals (before ++ ',' :: after) ↔
      literal ∈ literals before ∨ literal ∈ literals after := by
  simp only [mem_literals, pieces_append_comma, List.mem_append, or_and_right, exists_or]

theorem mem_declarations_append_comma {entry : Text × Limit} :
    entry ∈ declarations [before ++ ',' :: after] ↔ entry ∈ declarations [before, after] := by
  simp only [declarations, List.flatMap_cons, List.flatMap_nil, List.append_nil, List.mem_append,
    mem_declared, pieces_append_comma, or_and_right, exists_or]

theorem holds_append_comma (before after : Text) (present : List Text) :
    (Clause.mk (literals (before ++ ',' :: after))).holds present =
      ((Clause.mk (literals before)).holds present ||
        (Clause.mk (literals after)).holds present) := by
  rw [Bool.eq_iff_iff, Bool.or_eq_true]
  simp only [Clause.holds, List.any_eq_true, mem_literals_append_comma, or_and_right, exists_or]

theorem holds_of_not_namesTag {input : Text} (h : namesTag input = false) (present : List Text) :
    (Clause.mk (literals input)).holds present = false := by
  rw [literals_eq_nil_iff.2 h]
  rfl

theorem clauses_singleton (input : Text) :
    clauses [input] = if namesTag input then [⟨literals input⟩] else [] := by
  rw [clauses_cons]
  exact List.append_nil _

end Written

namespace Expression

open Written

variable {before after : Text} {joined both : Expression}

theorem accepts_of_compile_singleton {input : Text} {expression : Expression}
    (h : compile [input] = .ok expression) (hn : namesTag input = true) (tags : List Tag) :
    expression.accepts tags = (Clause.mk (Written.literals input)).holds (Tag.names tags) := by
  rw [accepts_of_compile h, clauses_singleton, if_pos hn, List.all_cons, List.all_nil,
    Bool.and_true]

theorem exists_compile_append_comma_iff :
    (∃ joined, compile [before ++ ',' :: after] = .ok joined) ↔
      ∃ both, compile [before, after] = .ok both := by
  rw [exists_compile_eq_ok_iff, exists_compile_eq_ok_iff]
  exact ⟨fun h => h.mono fun _ => mem_declarations_append_comma.2,
    fun h => h.mono fun _ => mem_declarations_append_comma.1⟩

theorem limits_of_compile_append_comma (hjoined : compile [before ++ ',' :: after] = .ok joined)
    (hboth : compile [before, after] = .ok both) : joined.limits = both.limits := by
  apply LimitTable.eq_of_mem_iff
  intro entry
  rw [mem_limits_of_compile hjoined, mem_limits_of_compile hboth, mem_declarations_append_comma]

/-- A comma is a disjunction. The joined string compiles when the two strings do, and with the
limits that they have together. Where two strings ask for both of their verdicts, the joined string
asks for either, as far as its halves have named pieces. -/
theorem compile_append_comma (before after : Text) :
    ((∃ joined, compile [before ++ ',' :: after] = .ok joined) ↔
        ∃ both, compile [before, after] = .ok both) ∧
      ∀ joined, compile [before ++ ',' :: after] = .ok joined →
        ∃ both first second, compile [before, after] = .ok both ∧
          compile [before] = .ok first ∧ compile [after] = .ok second ∧
          joined.limits = both.limits ∧
          ∀ tags, both.accepts tags = (first.accepts tags && second.accepts tags) ∧
            (namesTag before = true → namesTag after = true →
              joined.accepts tags = (first.accepts tags || second.accepts tags)) ∧
            (namesTag before = true → namesTag after = false →
              joined.accepts tags = first.accepts tags) ∧
            (namesTag before = false → namesTag after = true →
              joined.accepts tags = second.accepts tags) ∧
            (namesTag before = false → namesTag after = false →
              joined.isEmpty = true ∧ joined.accepts tags = true) := by
  refine ⟨exists_compile_append_comma_iff, fun joined hjoined => ?_⟩
  obtain ⟨both, hboth⟩ := exists_compile_append_comma_iff.1 ⟨joined, hjoined⟩
  have happend : compile ([before] ++ [after]) = .ok both := hboth
  obtain ⟨first, second, hfirst, hsecond, _⟩ := exists_compile_append_iff.1 ⟨both, happend⟩
  refine ⟨both, first, second, hboth, hfirst, hsecond,
    limits_of_compile_append_comma hjoined hboth, fun tags =>
      ⟨accepts_of_compile_append hfirst hsecond happend tags, ?_, ?_, ?_, ?_⟩⟩
  all_goals
    intro hbefore hafter
    have hnames := namesTag_append_comma before after
    rw [hbefore, hafter] at hnames
  · rw [accepts_of_compile_singleton hjoined hnames, holds_append_comma,
      accepts_of_compile_singleton hfirst hbefore, accepts_of_compile_singleton hsecond hafter]
  · rw [accepts_of_compile_singleton hjoined hnames, holds_append_comma,
      accepts_of_compile_singleton hfirst hbefore, holds_of_not_namesTag hafter, Bool.or_false]
  · rw [accepts_of_compile_singleton hjoined hnames, holds_append_comma,
      accepts_of_compile_singleton hsecond hafter, holds_of_not_namesTag hbefore, Bool.false_or]
  · have hclauses : joined.clauses = [] := by
      rw [clauses_of_compile hjoined, clauses_singleton, hnames]
      rfl
    rw [isEmpty, accepts, asksNothing, hclauses]
    exact ⟨rfl, rfl⟩

theorem compile_append_comma_nameless_half :
    let joined : Expression :=
      { clauses := [⟨[⟨"x".toList, true⟩, ⟨" y".toList, true⟩, ⟨"a ".toList, false⟩,
          ⟨"@x".toList, false⟩]⟩]
        limits := ⟨[(" y".toList, 7), ("a ".toList, 2), ("x".toList, 1)], by decide⟩ }
    let oneHalf : Expression :=
      { clauses := [⟨[⟨"a".toList, true⟩]⟩], limits := ⟨[("a".toList, 3)], by decide⟩ }
    (compile ["a :2 ,~x:1, ~ y:7,@x:1".toList] = .ok joined ∧
      ∃ both first second, compile ["a :2 ,~x:1".toList, " ~ y:7,@x:1".toList] = .ok both ∧
        compile ["a :2 ,~x:1".toList] = .ok first ∧ compile [" ~ y:7,@x:1".toList] = .ok second ∧
        joined.limits = both.limits ∧
        joined.accepts ["x".toList] =
          (first.accepts ["x".toList] || second.accepts ["x".toList])) ∧
      (compile ["~:4, ,~a:3".toList] = .ok oneHalf ∧
        ∃ second, compile ["~a:3".toList] = .ok second ∧
          oneHalf.accepts ["@a".toList] = second.accepts ["@a".toList]) ∧
      (compile [" ,~:4".toList] = .ok {} ∧ accepts {} ["@a".toList] = true) ∧
      ¬ ∃ both, compile ["a:1".toList, "~@a:2".toList] = .ok both := by
  intro joined oneHalf
  have hjoined : compile ["a :2 ,~x:1, ~ y:7,@x:1".toList] = .ok joined := rfl
  have hhalf : compile ["~:4, ,~a:3".toList] = .ok oneHalf := rfl
  have hneither : compile [" ,~:4".toList] = .ok {} := rfl
  obtain ⟨both, first, second, hboth, hfirst, hsecond, hlimits, hverdict⟩ :=
    (compile_append_comma "a :2 ,~x:1".toList " ~ y:7,@x:1".toList).2 joined hjoined
  obtain ⟨_, _, named, _, _, hnamed, _, hside⟩ :=
    (compile_append_comma "~:4, ".toList "~a:3".toList).2 oneHalf hhalf
  obtain ⟨_, _, _, _, _, _, _, hnothing⟩ :=
    (compile_append_comma " ".toList "~:4".toList).2 {} hneither
  refine ⟨⟨hjoined, both, first, second, hboth, hfirst, hsecond, hlimits, ?_⟩,
    ⟨hhalf, named, hnamed, (hside _).2.2.2.1 rfl rfl⟩, ⟨hneither, ?_⟩, ?_⟩
  · exact (hverdict _).2.1 rfl rfl
  · exact ((hnothing _).2.2.2.2 rfl rfl).2
  · rw [← (compile_append_comma "a:1".toList "~@a:2".toList).1]
    rintro ⟨_, hok⟩
    cases (show compile ["a:1,~@a:2".toList] = .error ⟨"a".toList, 2, 1⟩ from rfl).symm.trans hok

end Expression

end TagFilter
