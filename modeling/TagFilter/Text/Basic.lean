namespace TagFilter

abbrev Text := List Char

namespace Text

def dropLeading (c : Char) : Text → Text
  | [] => []
  | d :: rest => if d = c then rest else d :: rest

@[simp] theorem dropLeading_cons_self (c : Char) (text : Text) :
    dropLeading c (c :: text) = text := by
  simp [dropLeading]

theorem dropLeading_of_head?_ne {c : Char} {text : Text} (h : text.head? ≠ some c) :
    dropLeading c text = text := by
  cases text with
  | nil => rfl
  | cons d rest => simp_all [dropLeading]

def firstLine : Text → Text
  | [] => []
  | '\n' :: _ => []
  | '\r' :: '\n' :: _ => []
  | c :: rest => c :: firstLine rest

def precedes : Text → Text → Bool
  | _, [] => false
  | [], _ :: _ => true
  | a :: s, b :: t => a.toNat < b.toNat || (a == b && precedes s t)

theorem precedes_iff_lt {s t : Text} : precedes s t = true ↔ s < t := by
  induction s generalizing t with
  | nil => cases t <;> simp [precedes]
  | cons a s ih =>
    cases t with
    | nil => simp [precedes]
    | cons b t =>
      have hlt : a.toNat < b.toNat ↔ a < b := UInt32.lt_iff_toNat_lt.symm
      simp [precedes, List.cons_lt_cons_iff, hlt, ih]

theorem lt_of_not_precedes {s t : Text} (h : ¬ precedes s t = true) (hne : s ≠ t) : t < s := by
  have hnot : ¬ s < t := mt precedes_iff_lt.2 h
  apply Classical.byContradiction
  intro hlt
  exact hne (List.le_antisymm (List.not_lt.1 hlt) (List.not_lt.1 hnot))

def decimal (n : Nat) : Text := Nat.toDigits 10 n

def readDecimal? (text : Text) : Option Nat :=
  let digits := dropLeading '+' text
  if digits ≠ [] ∧ digits.all Char.isDigit then some (Nat.ofDigitChars 10 digits 0) else none

structure CodeRange where
  first : Nat
  last : Nat

namespace CodeRange

def contains (range : CodeRange) (c : Char) : Bool :=
  range.first ≤ c.toNat && c.toNat ≤ range.last

def covers (ranges : List CodeRange) (c : Char) : Bool :=
  ranges.any (·.contains c)

end CodeRange

/-- The property White_Space. -/
def blanks : List CodeRange :=
  [⟨0x9, 0xD⟩, ⟨0x20, 0x20⟩, ⟨0x85, 0x85⟩, ⟨0xA0, 0xA0⟩, ⟨0x1680, 0x1680⟩, ⟨0x2000, 0x200A⟩,
    ⟨0x2028, 0x2029⟩, ⟨0x202F, 0x202F⟩, ⟨0x205F, 0x205F⟩, ⟨0x3000, 0x3000⟩]

def isBlank (c : Char) : Bool := CodeRange.covers blanks c

def trimStart (text : Text) : Text := text.dropWhile isBlank

def trimEnd : Text → Text
  | [] => []
  | c :: rest =>
    match trimEnd rest with
    | [] => if isBlank c then [] else [c]
    | kept => c :: kept

def trim (text : Text) : Text := trimEnd (trimStart text)

def before {α : Type} [DecidableEq α] (sep : α) (text : List α) : List α :=
  text.takeWhile (· ≠ sep)

def after? {α : Type} [DecidableEq α] (sep : α) (text : List α) : Option (List α) :=
  match text.dropWhile (· ≠ sep) with
  | [] => none
  | _ :: rest => some rest

theorem before_append_cons {sep : Char} {text : Text} (h : sep ∉ text) (rest : Text) :
    before sep (text ++ sep :: rest) = text := by
  induction text with
  | nil => simp [before]
  | cons c text ih =>
    obtain ⟨hc, ht⟩ := not_or.1 (mt List.mem_cons.2 h)
    simpa [before, Ne.symm hc] using ih ht

theorem before_append_after? {α : Type} [DecidableEq α] (sep : α) (text : List α) :
    before sep text ++ ((after? sep text).map (sep :: ·)).getD [] = text := by
  induction text with
  | nil => rfl
  | cons c text ih =>
    by_cases h : c = sep <;> simp_all [before, after?]

def join (sep : Text) (pieces : List Text) : Text := sep.intercalate pieces

@[simp] theorem join_singleton (sep piece : Text) : join sep [piece] = piece :=
  List.intercalate_singleton

@[simp] theorem join_cons_cons (sep first second : Text) (rest : List Text) :
    join sep (first :: second :: rest) = first ++ sep ++ join sep (second :: rest) :=
  List.intercalate_cons_cons

end Text

end TagFilter
