import TagFilter.Text.Basic

namespace TagFilter

abbrev Tag := Text

namespace Tag

/-- Tags are compared without one leading `@`; a second one belongs to the name. -/
def name (tag : Tag) : Text := Text.dropLeading '@' tag

def names (tags : List Tag) : List Text := tags.map name

@[simp] theorem mem_names {tags : List Tag} {text : Text} :
    text ∈ names tags ↔ ∃ tag ∈ tags, tag.name = text := by
  simp [names]

end Tag

structure Literal where
  tag : Tag
  negated : Bool
  deriving DecidableEq

namespace Literal

def name (literal : Literal) : Text := literal.tag.name

def holds (present : List Text) (literal : Literal) : Bool :=
  present.contains literal.name != literal.negated

def render (literal : Literal) : Text :=
  if literal.negated then '~' :: literal.tag else literal.tag

theorem holds_iff {present : List Text} {literal : Literal} :
    literal.holds present = true ↔ (literal.name ∈ present ↔ literal.negated = false) := by
  cases h : literal.negated <;> simp [holds, h]

end Literal

structure Clause where
  literals : List Literal := []
  deriving DecidableEq

namespace Clause

def add (clause : Clause) (literal : Literal) : Clause :=
  if literal ∈ clause.literals then clause else ⟨clause.literals ++ [literal]⟩

def ofLiterals (literals : List Literal) : Clause := literals.foldl add {}

def isEmpty (clause : Clause) : Bool := clause.literals.isEmpty

def holds (present : List Text) (clause : Clause) : Bool :=
  clause.literals.any (·.holds present)

def render (clause : Clause) : Text :=
  Text.join [','] (clause.literals.map Literal.render)

theorem mem_literals_add {clause : Clause} {literal other : Literal} :
    other ∈ (clause.add literal).literals ↔ other ∈ clause.literals ∨ other = literal := by
  by_cases h : literal ∈ clause.literals
  · simp only [add, h, if_true]
    exact ⟨.inl, fun | .inl h' => h' | .inr rfl => h⟩
  · simp [add, h]

end Clause

end TagFilter
