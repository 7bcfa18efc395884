import TagFilter.Token

namespace TagFilter

namespace Token

def declaration? (token : Token) : Option (Tag × Limit) :=
  if token.isNamed then token.limit?.map (token.literal.tag, ·) else none

def declareIn (table : LimitTable) (token : Token) : Except Conflict LimitTable :=
  match token.declaration? with
  | none => .ok table
  | some (tag, limit) => table.declare tag limit

def notices (token : Token) : List Notice :=
  (token.unreadable?.map (Notice.unreadableLimit · token)).toList
    ++ if token.isNamed then []
      else .namelessToken token :: (token.limit?.map (Notice.namelessLimit · token)).toList

end Token

/-- What some tokens leave behind. The first conflict stops them; what was declared and noticed
until then stays. -/
structure Declarations where
  limits : LimitTable
  conflict? : Option Conflict := none
  notices : List Notice := []

namespace Declarations

def ofTokens (limits : LimitTable) : List Token → Declarations
  | [] => { limits }
  | token :: rest =>
    match token.declareIn limits with
    | .error conflict => { limits, conflict? := some conflict, notices := token.notices }
    | .ok limits =>
      let later := ofTokens limits rest
      { later with notices := token.notices ++ later.notices }

end Declarations

namespace Clause

def ofTokens (tokens : List Token) : Clause :=
  ofLiterals ((tokens.filter Token.isNamed).map Token.literal)

structure Reading where
  result : Except Conflict (Option Clause)
  limits : LimitTable
  notices : List Notice

def closing (input : Text) (tokens : List Token) : Notice :=
  if tokens.isEmpty then .noTokens input
  else if (ofTokens tokens).isEmpty then .noNames input
  else .parsed (ofTokens tokens) input

def read (limits : LimitTable) (input : Text) : Reading :=
  let tokens := Token.inOrder (Token.ofText input)
  let declarations := Declarations.ofTokens limits tokens
  match declarations.conflict? with
  | some conflict =>
    { result := .error conflict, limits := declarations.limits, notices := declarations.notices }
  | none =>
    { result := .ok (if (ofTokens tokens).isEmpty then none else some (ofTokens tokens))
      limits := declarations.limits
      notices := declarations.notices ++ [closing input tokens] }

end Clause

end TagFilter
