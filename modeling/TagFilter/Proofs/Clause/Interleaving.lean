import TagFilter.Proofs.Expression.Heads

namespace TagFilter

namespace Declarations

def ending (declarations : Declarations) : LimitTable × Option Conflict :=
  (declarations.limits, declarations.conflict?)

theorem ending_filter_isNamed (table : LimitTable) (tokens : List Token) :
    (ofTokens table (tokens.filter Token.isNamed)).ending = (ofTokens table tokens).ending := by
  induction tokens generalizing table with
  | nil => rfl
  | cons token tokens ih =>
    cases hn : token.isNamed with
    | false =>
      have hnone : token.declareIn table = .ok table := by
        simp [Token.declareIn, Token.declaration?, hn]
      rw [List.filter_cons_of_neg (by simp [hn]), ih table, ofTokens, hnone]
      rfl
    | true =>
      rw [List.filter_cons_of_pos hn, ofTokens, ofTokens]
      cases token.declareIn table with
      | error conflict => rfl
      | ok after => exact ih after

end Declarations

namespace Clause

def Reading.outcome (reading : Reading) : Except Conflict (Option Clause) × LimitTable :=
  (reading.result, reading.limits)

theorem outcome_read (table : LimitTable) (input : Text) :
    (read table input).outcome =
      match (Declarations.ofTokens table ((Written.named input).map Token.mk)).ending with
      | (limits, some conflict) => (.error conflict, limits)
      | (limits, none) =>
        let clause : Clause := ⟨Written.literals input⟩
        (.ok (if clause.isEmpty then none else some clause), limits) := by
  rw [← Written.filter_isNamed_inOrder, Declarations.ending_filter_isNamed, read,
    ofTokens_inOrder, Declarations.ending, Reading.outcome]
  cases (Declarations.ofTokens table (Token.inOrder (Token.ofText input))).conflict? <;> rfl

theorem outcome_read_congr {first second : Text} (h : Written.named first = Written.named second)
    (table : LimitTable) : (read table first).outcome = (read table second).outcome := by
  rw [outcome_read, outcome_read, Written.literals, Written.literals, h]

end Clause

namespace Written

/-- The negated named pieces are the same in the same order, and so are the other named ones. -/
structure SameNamed (first second : List Text) : Prop where
  negated : first.filter (fun piece => isNegated piece && isNamed piece) =
    second.filter fun piece => isNegated piece && isNamed piece
  others : first.filter (fun piece => !isNegated piece && isNamed piece) =
    second.filter fun piece => !isNegated piece && isNamed piece

theorem namedInOrder_eq (texts : List Text) :
    namedInOrder texts =
      texts.filter (fun piece => isNegated piece && isNamed piece) ++
        texts.filter fun piece => !isNegated piece && isNamed piece := by
  simp only [namedInOrder, List.filter_append, List.filter_filter, Bool.and_comm]

theorem SameNamed.namedInOrder_eq {first second : List Text} (h : SameNamed first second) :
    namedInOrder first = namedInOrder second := by
  rw [Written.namedInOrder_eq, Written.namedInOrder_eq, h.negated, h.others]

theorem namedInOrder_append_cons_of_not_isNamed {piece : Text} (h : isNamed piece = false)
    (before after : List Text) :
    namedInOrder (before ++ piece :: after) = namedInOrder (before ++ after) := by
  simp [namedInOrder_eq, h]

theorem named_join {texts : List Text} (h : ∀ text ∈ texts, ',' ∉ text) :
    named (Text.join [','] texts) = namedInOrder (texts.map Text.trim) := by
  cases texts with
  -- The empty text has one piece, but it names nothing.
  | nil => rfl
  | cons text texts => rw [named_eq, pieces_join (List.cons_ne_nil text texts) h]

theorem pieces_append_comma (before after : Text) :
    pieces (before ++ ',' :: after) = pieces before ++ pieces after := by
  simp only [pieces_eq_map_trim,
    Text.map_trim_splitOn_trim (show Text.isBlank ',' = false from rfl),
    List.splitOn_append_cons_self, List.map_append]

theorem pieces_append_of_isBlank {blank : Text} (h : ∀ c ∈ blank, Text.isBlank c = true)
    (text : Text) :
    pieces (blank ++ text) = pieces text ∧ pieces (text ++ blank) = pieces text := by
  simp only [pieces_eq_map_trim, Text.trim_append_of_isBlank h,
    Text.trim_append_right_of_isBlank h, and_self]

end Written

namespace Clause

open Written

/-- Strings with the same negated named pieces and the same other named ones, each in their order,
are read alike on every table. It does not matter how the two kinds are mixed, what blanks stand
around a comma and where pieces without a name are put. -/
theorem outcome_read_of_sameNamed (table : LimitTable) :
    (∀ first second, SameNamed (pieces first) (pieces second) →
        (read table first).outcome = (read table second).outcome) ∧
      (∀ texts mixed : List Text, (∀ text ∈ texts, ',' ∉ text) → (∀ text ∈ mixed, ',' ∉ text) →
        texts.filter (fun text => isNegated text.trim) =
          mixed.filter (fun text => isNegated text.trim) →
        texts.filter (fun text => !isNegated text.trim) =
          mixed.filter (fun text => !isNegated text.trim) →
        (read table (Text.join [','] texts)).outcome =
          (read table (Text.join [','] mixed)).outcome) ∧
      (∀ before left right after : Text, (∀ c ∈ left ++ right, Text.isBlank c = true) →
        (read table (before ++ left ++ ',' :: (right ++ after))).outcome =
          (read table (before ++ ',' :: after)).outcome) ∧
      ∀ nameless : Text, ',' ∉ nameless → isNamed nameless.trim = false → ∀ before after : Text,
        (read table (before ++ ',' :: (nameless ++ ',' :: after))).outcome =
            (read table (before ++ ',' :: after)).outcome ∧
          (read table (nameless ++ ',' :: after)).outcome = (read table after).outcome ∧
          (read table (before ++ ',' :: nameless)).outcome = (read table before).outcome := by
  refine ⟨?_, ?_, ?_, ?_⟩
  · intro first second h
    exact outcome_read_congr h.namedInOrder_eq table
  · intro texts mixed htexts hmixed hnegated hothers
    apply outcome_read_congr
    rw [named_join htexts, named_join hmixed]
    apply congrArg (List.filter isNamed)
    simp only [List.filter_map, Function.comp_def, hnegated, hothers]
  · intro before left right after hblank
    have hleft : ∀ c ∈ left, Text.isBlank c = true :=
      fun c hc => hblank c (List.mem_append_left right hc)
    have hright : ∀ c ∈ right, Text.isBlank c = true :=
      fun c hc => hblank c (List.mem_append_right left hc)
    apply outcome_read_congr
    rw [named_eq, named_eq, pieces_append_comma, pieces_append_comma,
      (pieces_append_of_isBlank hleft before).2, (pieces_append_of_isBlank hright after).1]
  · intro nameless hcomma hnameless before after
    have hpieces : pieces nameless = [nameless.trim] := by
      have hjoin := pieces_join (List.cons_ne_nil nameless []) (by simpa using hcomma)
      rwa [Text.join, List.intercalate_singleton] at hjoin
    refine ⟨?_, ?_, ?_⟩
    all_goals
      apply outcome_read_congr
      rw [named_eq, named_eq]
      simp only [pieces_append_comma, hpieces]
    · exact namedInOrder_append_cons_of_not_isNamed hnameless _ _
    · exact namedInOrder_append_cons_of_not_isNamed hnameless [] _
    · rw [namedInOrder_append_cons_of_not_isNamed hnameless, List.append_nil]

theorem outcome_read_of_sameNamed_conflict :
    let table : LimitTable := ⟨[("a".toList, 1)], by decide⟩
    let first := "b:2, ~@c,~:3 ,@a:2, :4,d:7".toList
    let second := " ~@c ,b:2 , @a:2,d:7".toList
    let stopped : LimitTable := ⟨[("a".toList, 1), ("b".toList, 2)], by decide⟩
    SameNamed (pieces first) (pieces second) ∧
      (read table first).outcome = (.error ⟨"a".toList, 1, 2⟩, stopped) ∧
      (read table second).outcome = (.error ⟨"a".toList, 1, 2⟩, stopped) ∧
      (read table "x:1,~y,z".toList).outcome = (read table "~y,x:1,z".toList).outcome ∧
      (read table "x 	,　~y".toList).outcome = (read table "x,~y".toList).outcome ∧
      (read table "x, ~:5 ,~y".toList).outcome = (read table "x,~y".toList).outcome := by
  intro table first second stopped
  obtain ⟨hsame, hmixed, hblank, hnameless⟩ := outcome_read_of_sameNamed table
  have hnamed : SameNamed (pieces first) (pieces second) := ⟨by decide, by decide⟩
  have hfirst : (read table first).outcome = (.error ⟨"a".toList, 1, 2⟩, stopped) := rfl
  refine ⟨hnamed, hfirst, (hsame first second hnamed).symm.trans hfirst, ?_, ?_, ?_⟩
  · exact hmixed ["x:1".toList, "~y".toList, "z".toList] ["~y".toList, "x:1".toList, "z".toList]
      (by decide) (by decide) (by decide) (by decide)
  · exact hblank ['x'] [' ', '	'] ['　'] "~y".toList (List.all_eq_true.1 rfl)
  · exact (hnameless " ~:5 ".toList (by decide) rfl ['x'] "~y".toList).1

end Clause

end TagFilter
