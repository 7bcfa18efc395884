import TagFilter.Clause.Reading
import TagFilter.Proofs.Text.Trim

/-!
What expression strings say, read off their text with list functions alone: no token, clause or
table is built. Then what tokens have to do with it.
-/

namespace TagFilter.Written

def pieces (input : Text) : List Text :=
  (input.splitOn ',').map fun piece => (piece.dropWhile Text.isBlank).rdropWhile Text.isBlank

def head (piece : Text) : Text := piece.takeWhile (· ≠ ':')

def isNegated (piece : Text) : Bool := (head piece).head? == some '~'

def tag (piece : Text) : Tag := if isNegated piece then (head piece).tail else head piece

def isNamed (piece : Text) : Bool := tag piece ≠ []

def bare (tag : Tag) : Text := if tag.head? = some '@' then tag.tail else tag

def suffix (piece : Text) : Text := (piece.dropWhile (· ≠ ':')).tail

def number? (piece : Text) : Option Limit :=
  if ':' ∈ piece then Limit.read? (piece.dropWhile (· ≠ ':')).tail else none

/-- What a named piece with a number declares: the number for its bare name. -/
def declaration? (piece : Text) : Option (Text × Limit) :=
  if isNamed piece then (number? piece).map (bare (tag piece), ·) else none

def ordered (input : Text) : List Text :=
  (pieces input).filter isNegated ++ (pieces input).filter (!isNegated ·)

def named (input : Text) : List Text := (ordered input).filter isNamed

def declared (input : Text) : List (Text × Limit) := (ordered input).filterMap declaration?

def declarations (inputs : List Text) : List (Text × Limit) := inputs.flatMap declared

def literals (input : Text) : List Literal :=
  ((named input).map fun piece => ⟨tag piece, isNegated piece⟩).eraseDups

theorem bare_eq_name (tag : Tag) : bare tag = tag.name :=
  (Text.dropLeading_eq_ite '@' tag).symm

theorem pieces_eq_map_trim (input : Text) :
    pieces input = (input.trim.splitOn ',').map Text.trim := by
  rw [Text.map_trim_splitOn_trim (by decide)]
  apply List.map_congr_left
  intro piece _
  exact (Text.trim_eq_rdropWhile piece).symm

@[simp] theorem isNegated_mk (piece : Text) :
    (Token.mk piece).isNegated = isNegated piece := by
  cases piece with
  | nil => rfl
  | cons c rest =>
    by_cases h : c = ':' <;> simp [Token.isNegated, isNegated, head, h]

@[simp] theorem literal_mk (piece : Text) :
    (Token.mk piece).literal = ⟨tag piece, isNegated piece⟩ := by
  rw [Token.literal, isNegated_mk, Text.dropLeading_eq_ite]
  simp [tag, isNegated, head, Token.head, Text.before]

@[simp] theorem isNamed_mk (piece : Text) : (Token.mk piece).isNamed = isNamed piece := by
  rw [Token.isNamed, literal_mk]
  cases h : tag piece <;> simp [isNamed, h]

theorem ne_nil_of_isNamed {piece : Text} (hn : isNamed piece = true) : piece ≠ [] := by
  intro hnil
  rw [hnil] at hn
  cases hn

theorem suffix?_mk (piece : Text) :
    (Token.mk piece).suffix? = if ':' ∈ piece then some (suffix piece) else none := by
  induction piece with
  | nil => rfl
  | cons c rest ih =>
    by_cases h : c = ':'
    · simp [Token.suffix?, Text.after?, suffix, h]
    · simpa [Token.suffix?, Text.after?, suffix, h, Ne.symm h] using ih

theorem limit?_mk (piece : Text) : (Token.mk piece).limit? = number? piece := by
  rw [Token.limit?, suffix?_mk, number?]
  split <;> rfl

theorem declaration?_mk (piece : Text) :
    (Token.mk piece).declaration?.map (fun entry => (entry.1.name, entry.2)) =
      declaration? piece := by
  rw [Token.declaration?, isNamed_mk, literal_mk, limit?_mk, declaration?, bare_eq_name]
  cases isNamed piece <;> simp [Function.comp_def]

theorem filter_map_mk (p : Text → Bool) (texts : List Text) :
    ((texts.filter (· ≠ [])).map Token.mk).filter (fun token => p token.raw) =
      ((texts.filter p).filter (· ≠ [])).map Token.mk := by
  simp [List.filter_map, Function.comp_def, Bool.and_comm]

theorem inOrder_ofText (input : Text) :
    Token.inOrder (Token.ofText input) =
      ((ordered input).filter (· ≠ [])).map Token.mk := by
  have hneg : Token.isNegated = fun token => isNegated token.raw := by
    funext token
    exact isNegated_mk token.raw
  rw [Token.inOrder, hneg, Token.ofText, ← pieces_eq_map_trim, ordered, List.filter_append,
    List.map_append, filter_map_mk isNegated, filter_map_mk (!isNegated ·)]

theorem filter_isNamed_inOrder (input : Text) :
    (Token.inOrder (Token.ofText input)).filter Token.isNamed = (named input).map Token.mk := by
  rw [inOrder_ofText, List.filter_map, List.filter_filter, named]
  congr 2
  funext piece
  cases piece with
  | nil => rfl
  | cons c rest => simp

theorem filterMap_declaration?_inOrder (input : Text) :
    ((Token.inOrder (Token.ofText input)).filterMap Token.declaration?).map
        (fun entry => (entry.1.name, entry.2)) = declared input := by
  rw [inOrder_ofText, List.map_filterMap, List.filterMap_map, List.filterMap_filter, declared]
  congr 1
  funext piece
  simp only [Function.comp_def, declaration?_mk]
  cases piece <;> rfl

end TagFilter.Written
