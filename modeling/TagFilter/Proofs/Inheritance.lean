import TagFilter.Inheritance
import TagFilter.Proofs.Expression.Polarity

namespace TagFilter

namespace Expression

variable {expression : Expression}

theorem accepts_eq_of_names {first second : List Tag}
    (h : ∀ name, name ∈ Tag.names first ↔ name ∈ Tag.names second) :
    expression.accepts first = expression.accepts second :=
  accepts_congr fun literal _ => h literal.name

theorem admits_eq_accepts {scenario : Scenario} {tags : List Tag}
    (h : ∀ name, name ∈ Tag.names tags ↔ scenario.Bears name) :
    expression.admits scenario = expression.accepts tags :=
  accepts_eq_of_names fun name => Scenario.mem_names_tags.trans (h name).symm

/-- Tags with the same names have the same verdict, and so do scenarios that have the same names
from their levels, whichever tag stands on which. Having no rule is having one without tags. The
inherited tags are the tags of the levels one after another, unchanged and in full. -/
theorem admits_of_names (expression : Expression) :
    (∀ first second, (∀ name, name ∈ Tag.names first ↔ name ∈ Tag.names second) →
        expression.accepts first = expression.accepts second) ∧
      (∀ (scenario : Scenario) (tags : List Tag),
        (∀ name, name ∈ Tag.names tags ↔ scenario.Bears name) →
        expression.admits scenario = expression.accepts tags) ∧
      (∀ scenario other : Scenario, (∀ name, scenario.Bears name ↔ other.Bears name) →
        expression.admits scenario = expression.admits other) ∧
      (∀ feature own : List Tag,
        expression.admits { feature, rule := none, own } =
          expression.admits { feature, rule := some [], own }) ∧
      ∀ scenario : Scenario,
        (∀ outer level inner, scenario.levels = outer ++ level :: inner →
          (scenario.tags.drop outer.flatten.length).take level.length = level) ∧
        ∀ tag, scenario.tags.count tag =
          scenario.feature.count tag + scenario.rule.elim 0 (List.count tag) +
            scenario.own.count tag := by
  refine ⟨fun _ _ => accepts_eq_of_names, fun _ _ => admits_eq_accepts, ?_, ?_, ?_⟩
  · intro scenario other h
    exact admits_eq_accepts fun name => Scenario.mem_names_tags.trans (h name).symm
  · intro feature own
    apply admits_eq_accepts
    intro name
    rw [Scenario.mem_names_tags]
    simp [Scenario.Bears, Scenario.levels, Tag.names]
  · exact fun scenario => ⟨fun _ _ _ => Scenario.take_drop_tags, Scenario.count_tags scenario⟩

theorem admits_of_names_two_spellings :
    let expression : Expression :=
      { clauses := [⟨[⟨"slow".toList, true⟩, ⟨"@@ledger".toList, false⟩]⟩,
          ⟨[⟨"@web".toList, false⟩]⟩] }
    let scenario : Scenario :=
      { feature := ["@web".toList, "billing".toList]
        rule := some ["@@ledger".toList, "@web".toList, "web".toList]
        own := ["@slow".toList] }
    let moved : Scenario :=
      { feature := ["web".toList, "slow".toList], own := ["@@ledger".toList, "@billing".toList] }
    let repeated := ["@web".toList, "@slow".toList, "web".toList]
    let reversed := ["slow".toList, "@web".toList]
    compile ["@@ledger,~slow".toList, "@web".toList] = .ok expression ∧
      expression.accepts repeated = expression.accepts reversed ∧
      expression.admits scenario = expression.accepts moved.tags ∧
      expression.admits scenario = expression.admits moved ∧
      (scenario.tags.drop 2).take 3 = ["@@ledger".toList, "@web".toList, "web".toList] := by
  intro expression scenario moved repeated reversed
  obtain ⟨hlists, hlevels, hmoved, _, htags⟩ := admits_of_names expression
  have hrepeated : ∀ name, name ∈ Tag.names repeated ↔ name ∈ Tag.names reversed :=
    fun _ => ⟨fun h => (by decide : Tag.names repeated ⊆ Tag.names reversed) h,
      fun h => (by decide : Tag.names reversed ⊆ Tag.names repeated) h⟩
  have hsame : ∀ name, name ∈ Tag.names moved.tags ↔ scenario.Bears name := by
    intro name
    rw [← Scenario.mem_names_tags]
    exact ⟨fun h => (by decide : Tag.names moved.tags ⊆ Tag.names scenario.tags) h,
      fun h => (by decide : Tag.names scenario.tags ⊆ Tag.names moved.tags) h⟩
  exact ⟨rfl, hlists _ _ hrepeated, hlevels scenario _ hsame,
    hmoved scenario moved fun name => (hsame name).symm.trans Scenario.mem_names_tags,
    (htags scenario).1 [["@web".toList, "billing".toList]] _ [["@slow".toList]] rfl⟩

end Expression

end TagFilter
