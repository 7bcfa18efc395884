import TagFilter.Clause.Reading

namespace TagFilter

structure Expression where
  clauses : List Clause := []
  limits : LimitTable := {}
  deriving DecidableEq

namespace Expression

def isEmpty (expression : Expression) : Bool := expression.clauses.isEmpty

/-- Clauses without literals ask for nothing, and neither does an expression made of them. -/
def asksNothing (expression : Expression) : Bool := expression.clauses.all (·.isEmpty)

def accepts (expression : Expression) (tags : List Tag) : Bool :=
  expression.asksNothing || expression.clauses.all (·.holds (Tag.names tags))

def renderClause (clause : Clause) : Text :=
  if 1 < clause.literals.length then ['('] ++ clause.render ++ [')'] else clause.render

def render (expression : Expression) : Text :=
  Text.join " && ".toList (expression.clauses.map renderClause)

def renderNames (tags : List Tag) : Text :=
  ['\x7b'] ++ Text.join ", ".toList ((Tag.names tags).eraseDups.map Text.quote) ++ ['\x7d']

def verdictRecords (expression : Expression) (tags : List Tag) : List Record :=
  if expression.asksNothing then []
  else
    [{ level := .trace
       origin := "scenario_tags::expression".toList
       message := "tag expression `".toList ++ expression.render ++ "` against ".toList
         ++ renderNames tags ++ ": ".toList
         ++ (if expression.accepts tags then "true".toList else "false".toList) }]

theorem accepts_eq_all {expression : Expression} {tags : List Tag}
    (h : ∀ clause ∈ expression.clauses, clause.isEmpty = false) :
    expression.accepts tags = expression.clauses.all (·.holds (Tag.names tags)) := by
  cases hc : expression.clauses with
  | nil => simp [accepts, asksNothing, hc]
  | cons clause rest =>
    have := h clause (by simp [hc])
    simp [accepts, asksNothing, hc, this]

end Expression

structure Compilation where
  result : Except Conflict Expression
  notices : List Notice

namespace Compilation

def ofStrings (limits : LimitTable) : List Text → Compilation
  | [] => { result := .ok { limits }, notices := [] }
  | input :: rest =>
    let reading := Clause.read limits input
    match reading.result with
    | .error conflict => { result := .error conflict, notices := reading.notices }
    | .ok clause? =>
      let later := ofStrings reading.limits rest
      { result := later.result.map fun expression =>
          { expression with clauses := clause?.toList ++ expression.clauses }
        notices := reading.notices ++ later.notices }

end Compilation

namespace Expression

def compilation (inputs : List Text) : Compilation := Compilation.ofStrings {} inputs

def compile (inputs : List Text) : Except Conflict Expression := (compilation inputs).result

end Expression

end TagFilter
