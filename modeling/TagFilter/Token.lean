import TagFilter.Limit
import TagFilter.Log

namespace TagFilter

structure Token where
  raw : Text
  deriving DecidableEq

namespace Token

def head (token : Token) : Text := Text.before ':' token.raw

def suffix? (token : Token) : Option Text := Text.after? ':' token.raw

def isNegated (token : Token) : Bool := token.raw.head? == some '~'

/-- A token negates by one leading `~`; a second one belongs to the tag. -/
def literal (token : Token) : Literal :=
  ⟨Text.dropLeading '~' token.head, token.isNegated⟩

def isNamed (token : Token) : Bool := !token.literal.tag.isEmpty

def limit? (token : Token) : Option Limit := token.suffix?.bind Limit.read?

def unreadable? (token : Token) : Option Text :=
  token.suffix?.filter fun suffix => (Limit.read? suffix).isNone

def ofText (text : Text) : List Token :=
  (((text.trim.splitOn ',').map Text.trim).filter (· ≠ [])).map Token.mk

/-- The order in which tokens are processed: the negated ones first, then the others, each kind in
its own order. Equal clauses are thus written alike, however the two kinds were mixed. -/
def inOrder (tokens : List Token) : List Token :=
  tokens.filter isNegated ++ tokens.filter (!·.isNegated)

end Token

inductive Notice
  | noTokens (input : Text)
  | unreadableLimit (suffix : Text) (token : Token)
  | namelessToken (token : Token)
  | namelessLimit (limit : Limit) (token : Token)
  | noNames (input : Text)
  | parsed (clause : Clause) (input : Text)
  deriving DecidableEq

namespace Notice

def level : Notice → Level
  | .unreadableLimit .. | .namelessLimit .. => .warn
  | .noTokens _ | .namelessToken _ | .noNames _ | .parsed .. => .debug

def message : Notice → Text
  | .noTokens input => "skipping tag expression without tokens: ".toList ++ Text.quote input
  | .unreadableLimit suffix token =>
    "ignoring limit `".toList ++ suffix ++ "` on tag token `".toList ++ token.raw
      ++ "`: not a non-negative integer".toList
  | .namelessToken token =>
    "skipping tag token without a name: ".toList ++ Text.quote token.raw
  | .namelessLimit limit token =>
    "ignoring limit ".toList ++ limit.render ++ " on nameless tag token ".toList
      ++ Text.quote token.raw
  | .noNames input =>
    "skipping tag expression whose tokens carry no names: ".toList ++ Text.quote input
  | .parsed clause input =>
    "parsed tag clause `".toList ++ clause.render ++ "` from ".toList ++ Text.quote input

def record (notice : Notice) : Record :=
  { level := notice.level, origin := "scenario_tags::parser".toList, message := notice.message }

end Notice

end TagFilter
