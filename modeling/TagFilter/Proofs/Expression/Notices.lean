import TagFilter.Proofs.Expression.Compiled

namespace TagFilter

namespace Written

def processed (input : Text) : List Text := (ordered input).filter (· ≠ [])

def pieceNotices (piece : Text) : List Notice := (Token.mk piece).notices

def notices (input : Text) : List Notice :=
  (processed input).flatMap pieceNotices ++
    [Clause.closing input ((processed input).map Token.mk)]

theorem inOrder_eq_map_processed (input : Text) :
    Token.inOrder (Token.ofText input) = (processed input).map Token.mk :=
  inOrder_ofText input

theorem filterMap_declaration?_processed (input : Text) :
    (processed input).filterMap declaration? = declared input := by
  rw [processed, List.filterMap_filter, declared]
  congr 1
  funext piece
  cases piece <;> rfl

theorem pieceNotices_of_declaration? {piece : Text} {entry : Text × Limit}
    (h : declaration? piece = some entry) : pieceNotices piece = [] := by
  have hn : isNamed piece = true := by
    by_contra hn
    simp [declaration?, hn] at h
  have hlimit : ∃ limit, (Token.mk piece).limit? = some limit := by
    rw [declaration?, if_pos hn, Option.map_eq_some_iff] at h
    obtain ⟨limit, hnumber, _⟩ := h
    exact ⟨limit, (limit?_mk piece).trans hnumber⟩
  obtain ⟨limit, hlimit⟩ := hlimit
  have hreadable : (Token.mk piece).unreadable? = none := by
    obtain ⟨suffix, hsuffix, hread⟩ := Option.bind_eq_some_iff.1 hlimit
    simp [Token.unreadable?, hsuffix, hread]
  rw [pieceNotices, Token.notices, hreadable, isNamed_mk, hn]
  rfl

end Written

open Written

theorem LimitTable.recordAll_filterMap_cons (table : LimitTable) (piece : Text)
    (texts : List Text) :
    table.recordAll ((piece :: texts).filterMap declaration?) =
      (table.recordAll (declaration? piece).toList).bind
        (·.recordAll (texts.filterMap declaration?)) := by
  rw [← recordAll_append]
  cases h : declaration? piece <;> simp [h]

theorem Token.declareIn_mk (table : LimitTable) (piece : Text) :
    (Token.mk piece).declareIn table =
      table.recordAll (Written.declaration? piece).toList := by
  rw [declareIn, ← declaration?_mk]
  cases (Token.mk piece).declaration? with
  | none => rfl
  | some entry =>
    exact (LimitTable.recordAll_singleton table (entry.1.name, entry.2)).symm

namespace Declarations

variable {table after : LimitTable} {texts : List Text} {conflict : Conflict}

theorem ofTokens_of_ok (h : table.recordAll (texts.filterMap declaration?) = .ok after) :
    ofTokens table (texts.map Token.mk) =
      { limits := after, notices := texts.flatMap pieceNotices } := by
  induction texts generalizing table with
  | nil =>
    rw [← Except.ok.inj h]
    rfl
  | cons piece texts ih =>
    rw [LimitTable.recordAll_filterMap_cons] at h
    rw [List.map_cons, ofTokens, Token.declareIn_mk]
    cases hpiece : table.recordAll (declaration? piece).toList with
    | error conflict =>
      rw [hpiece] at h
      cases h
    | ok middle =>
      rw [hpiece] at h
      simp only [ih h]
      rfl

theorem ofTokens_of_error (h : table.recordAll (texts.filterMap declaration?) = .error conflict) :
    ∃ done piece rest middle,
      texts = done ++ piece :: rest ∧
      table.recordAll (done.filterMap declaration?) = .ok middle ∧
      middle.recordAll (declaration? piece).toList = .error conflict ∧
      ofTokens table (texts.map Token.mk) =
        { limits := middle, conflict? := some conflict, notices := done.flatMap pieceNotices } := by
  induction texts generalizing table with
  | nil => cases h
  | cons piece texts ih =>
    rw [LimitTable.recordAll_filterMap_cons] at h
    rw [List.map_cons, ofTokens, Token.declareIn_mk]
    cases hpiece : table.recordAll (declaration? piece).toList with
    | error other =>
      rw [hpiece] at h
      obtain rfl : other = conflict := Except.error.inj h
      refine ⟨[], piece, texts, table, rfl, rfl, hpiece, ?_⟩
      -- The refused piece declares a limit, and about such a piece there is nothing to notice.
      cases hentry : declaration? piece with
      | none =>
        rw [hentry] at hpiece
        cases hpiece
      | some entry =>
        have hnotices : (Token.mk piece).notices = [] := pieceNotices_of_declaration? hentry
        simp only [hnotices]
        rfl
    | ok middle =>
      rw [hpiece] at h
      obtain ⟨done, last, rest, table', hsplit, hdone, hlast, hall⟩ := ih h
      refine ⟨piece :: done, last, rest, table', by rw [hsplit]; rfl, ?_, hlast, ?_⟩
      · rw [LimitTable.recordAll_filterMap_cons, hpiece]
        exact hdone
      · simp only [hall]
        rfl

end Declarations

namespace Clause

variable {table after : LimitTable} {input : Text} {conflict : Conflict}

theorem notices_read_of_ok (h : table.recordAll (declared input) = .ok after) :
    (read table input).notices = Written.notices input := by
  rw [← filterMap_declaration?_processed] at h
  simp only [read, inOrder_eq_map_processed, Declarations.ofTokens_of_ok h]
  rfl

theorem notices_read_of_error (h : table.recordAll (declared input) = .error conflict) :
    ∃ done piece rest middle,
      processed input = done ++ piece :: rest ∧
      table.recordAll (done.filterMap declaration?) = .ok middle ∧
      middle.recordAll (declaration? piece).toList = .error conflict ∧
      (read table input).notices = done.flatMap pieceNotices := by
  rw [← filterMap_declaration?_processed] at h
  obtain ⟨done, piece, rest, middle, hsplit, hdone, hpiece, hall⟩ :=
    Declarations.ofTokens_of_error h
  refine ⟨done, piece, rest, middle, hsplit, hdone, hpiece, ?_⟩
  simp only [read, inOrder_eq_map_processed, hall]

end Clause

namespace Compilation

variable {table after : LimitTable} {inputs : List Text} {conflict : Conflict}

theorem notices_ofStrings_of_ok (h : table.recordAll (declarations inputs) = .ok after) :
    (ofStrings table inputs).notices = inputs.flatMap Written.notices := by
  induction inputs generalizing table with
  | nil => rfl
  | cons input inputs ih =>
    rw [declarations_cons, LimitTable.recordAll_append] at h
    cases hinput : table.recordAll (declared input) with
    | error conflict =>
      rw [hinput] at h
      cases h
    | ok middle =>
      rw [hinput] at h
      obtain ⟨hresult, hlimits⟩ := Clause.read_of_ok hinput
      simp only [ofStrings, hresult, hlimits, Clause.notices_read_of_ok hinput, ih h]
      rfl

theorem notices_ofStrings_of_error
    (h : table.recordAll (declarations inputs) = .error conflict) :
    ∃ earlier input later done piece rest middle,
      inputs = earlier ++ input :: later ∧
      processed input = done ++ piece :: rest ∧
      table.recordAll (declarations earlier ++ done.filterMap declaration?) = .ok middle ∧
      middle.recordAll (declaration? piece).toList = .error conflict ∧
      (ofStrings table inputs).notices =
        earlier.flatMap Written.notices ++ done.flatMap pieceNotices := by
  induction inputs generalizing table with
  | nil => cases h
  | cons input inputs ih =>
    rw [declarations_cons, LimitTable.recordAll_append] at h
    cases hinput : table.recordAll (declared input) with
    | error other =>
      rw [hinput] at h
      obtain rfl : other = conflict := Except.error.inj h
      obtain ⟨done, piece, rest, middle, hsplit, hdone, hpiece, hnotices⟩ :=
        Clause.notices_read_of_error hinput
      refine ⟨[], input, inputs, done, piece, rest, middle, rfl, hsplit, hdone, hpiece, ?_⟩
      simp only [ofStrings, Clause.read_of_error hinput, hnotices]
      rfl
    | ok middle =>
      rw [hinput] at h
      obtain ⟨earlier, stopped, later, done, piece, rest, last, hinputs, hsplit, hdone, hpiece,
        hnotices⟩ := ih h
      obtain ⟨hresult, hlimits⟩ := Clause.read_of_ok hinput
      refine ⟨input :: earlier, stopped, later, done, piece, rest, last, ?_, hsplit, ?_, hpiece, ?_⟩
      · rw [hinputs]
        rfl
      · rw [declarations_cons, List.append_assoc, LimitTable.recordAll_append, hinput]
        exact hdone
      · simp only [ofStrings, hresult, hlimits, Clause.notices_read_of_ok hinput, hnotices,
          List.flatMap_cons, List.append_assoc]

end Compilation

end TagFilter
