import TagFilter.Expression

namespace TagFilter

structure Scenario where
  feature : List Tag
  rule : Option (List Tag) := none
  own : List Tag

namespace Scenario

variable {scenario : Scenario}

def tags (scenario : Scenario) : List Tag :=
  scenario.feature ++ scenario.rule.getD [] ++ scenario.own

/-- The lists of tags around a scenario, from the outside in. Without a rule there is none between
that of the feature and that of the scenario. -/
def levels (scenario : Scenario) : List (List Tag) :=
  scenario.feature :: (scenario.rule.toList ++ [scenario.own])

def Bears (scenario : Scenario) (name : Text) : Prop :=
  ∃ level ∈ scenario.levels, name ∈ Tag.names level

theorem tags_eq_flatten (scenario : Scenario) : scenario.tags = scenario.levels.flatten := by
  cases h : scenario.rule <;> simp [tags, levels, h]

theorem mem_names_tags {name : Text} :
    name ∈ Tag.names scenario.tags ↔ scenario.Bears name := by
  simp only [tags_eq_flatten, Bears, Tag.mem_names, List.mem_flatten]
  constructor
  · rintro ⟨tag, ⟨level, hlevel, htag⟩, hname⟩
    exact ⟨level, hlevel, tag, htag, hname⟩
  · rintro ⟨level, hlevel, tag, htag, hname⟩
    exact ⟨tag, ⟨level, hlevel, htag⟩, hname⟩

theorem take_drop_tags {outer inner : List (List Tag)} {level : List Tag}
    (h : scenario.levels = outer ++ level :: inner) :
    (scenario.tags.drop outer.flatten.length).take level.length = level := by
  rw [tags_eq_flatten, h, List.flatten_append, List.flatten_cons, List.drop_left, List.take_left]

theorem count_tags (scenario : Scenario) (tag : Tag) :
    scenario.tags.count tag =
      scenario.feature.count tag + scenario.rule.elim 0 (List.count tag) +
        scenario.own.count tag := by
  rw [tags, List.count_append, List.count_append]
  cases scenario.rule <;> rfl

end Scenario

def Expression.admits (expression : Expression) (scenario : Scenario) : Bool :=
  expression.accepts scenario.tags

end TagFilter
