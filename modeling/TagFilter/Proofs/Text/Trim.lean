import Mathlib.Data.List.DropRight
import TagFilter.Text.Basic

namespace TagFilter.Text

theorem isBlank_of_lt_of_lt {c : Char} (hspace : 0x20 < c.toNat) (hcontrol : c.toNat < 0x85) :
    isBlank c = false := by
  simp only [isBlank, CodeRange.covers, CodeRange.contains, blanks, List.any_cons, List.any_nil,
    Bool.or_eq_false_iff, Bool.and_eq_false_iff, decide_eq_false_iff_not, and_true]
  omega

theorem trimEnd_concat (text : Text) (c : Char) :
    trimEnd (text ++ [c]) = if isBlank c then trimEnd text else text ++ [c] := by
  induction text with
  | nil => rfl
  | cons d text ih =>
    rw [List.cons_append, trimEnd, ih]
    cases isBlank c with
    | true => rfl
    | false => cases text <;> rfl

theorem trimEnd_eq_rdropWhile (text : Text) : trimEnd text = text.rdropWhile isBlank := by
  induction text using List.reverseRecOn with
  | nil => rfl
  | append_singleton text c ih => rw [trimEnd_concat, List.rdropWhile_concat, ih]

theorem trim_eq_rdropWhile (text : Text) :
    trim text = (text.dropWhile isBlank).rdropWhile isBlank :=
  trimEnd_eq_rdropWhile _

theorem trim_isPrefix (text : Text) : trim text <+: text.dropWhile isBlank := by
  rw [trim_eq_rdropWhile]
  exact List.rdropWhile_prefix isBlank _

theorem mem_of_mem_trim {text : Text} {c : Char} (h : c ∈ trim text) : c ∈ text :=
  (List.dropWhile_sublist isBlank).mem ((trim_isPrefix text).mem h)

theorem isBlank_of_head?_trim {text : Text} {c : Char} (h : (trim text).head? = some c) :
    isBlank c = false := by
  have hd : (text.dropWhile isBlank).head? = some c := by
    obtain ⟨rest, hrest⟩ := trim_isPrefix text
    rw [← hrest, List.head?_append, h]
    rfl
  have := List.head?_dropWhile_not isBlank text
  rw [hd] at this
  simpa using this

@[simp] theorem trim_cons_of_isBlank {c : Char} (h : isBlank c = true) (text : Text) :
    trim (c :: text) = trim text := by
  simp [trim, trimStart, h]

@[simp] theorem trim_concat_of_isBlank {c : Char} (h : isBlank c = true) (text : Text) :
    trim (text ++ [c]) = trim text := by
  rw [trim, trim, trimStart, trimStart, List.dropWhile_append]
  cases hd : text.dropWhile isBlank with
  | nil => simp [h]
  | cons d rest =>
    change trimEnd (d :: rest ++ [c]) = trimEnd (d :: rest)
    rw [trimEnd_concat, if_pos h]

theorem mem_join {sep : Text} {pieces : List Text} {c : Char} (h : c ∈ join sep pieces) :
    c ∈ sep ∨ ∃ piece ∈ pieces, c ∈ piece := by
  induction pieces with
  | nil => cases h
  | cons piece pieces ih =>
    cases pieces with
    | nil =>
      rw [join_singleton] at h
      exact .inr ⟨piece, by simp, h⟩
    | cons second pieces =>
      rw [join_cons_cons, List.append_assoc, List.mem_append, List.mem_append] at h
      rcases h with h | h | h
      · exact .inr ⟨piece, by simp, h⟩
      · exact .inl h
      · refine (ih h).imp_right fun hmem => ?_
        obtain ⟨other, ho, hc⟩ := hmem
        exact ⟨other, List.mem_cons_of_mem _ ho, hc⟩

theorem splitOn_induction (sep : Char) {motive : Text → Prop}
    (last : ∀ text, sep ∉ text → motive text)
    (cons : ∀ piece rest, sep ∉ piece → motive rest → motive (piece ++ sep :: rest))
    (text : Text) : motive text := by
  by_cases h : sep ∈ text
  · obtain ⟨piece, rest, htext, hpiece⟩ := List.eq_append_cons_of_mem h
    rw [htext]
    exact cons piece rest hpiece (splitOn_induction sep last cons rest)
  · exact last text h
termination_by text.length
decreasing_by simp [htext]; omega

theorem not_mem_of_mem_splitOn {sep : Char} {text piece : Text} (h : piece ∈ text.splitOn sep) :
    sep ∉ piece := by
  induction text using splitOn_induction sep with
  | last text hnot =>
    rw [List.splitOn_eq_singleton hnot, List.mem_singleton] at h
    rwa [h]
  | cons first rest hnot ih =>
    rw [List.splitOn_append_cons_self_of_not_mem hnot] at h
    rcases List.mem_cons.1 h with rfl | h
    · exact hnot
    · exact ih h

theorem mem_of_mem_splitOn {sep : Char} {text piece : Text} (h : piece ∈ text.splitOn sep)
    {c : Char} (hc : c ∈ piece) : c ∈ text := by
  induction text using splitOn_induction sep with
  | last text hnot =>
    rw [List.splitOn_eq_singleton hnot, List.mem_singleton] at h
    rwa [← h]
  | cons first rest hnot ih =>
    rw [List.splitOn_append_cons_self_of_not_mem hnot] at h
    rcases List.mem_cons.1 h with rfl | h
    · exact List.mem_append_left _ hc
    · exact List.mem_append_right _ (List.mem_cons_of_mem _ (ih h))

/-- What follows a text without a separator goes to its last piece. -/
theorem exists_splitOn_append (sep : Char) (text : Text) :
    ∃ pieces last, ∀ rest, sep ∉ rest →
      (text ++ rest).splitOn sep = pieces ++ [last ++ rest] := by
  induction text using splitOn_induction sep with
  | last text hnot =>
    refine ⟨[], text, fun rest hrest => List.splitOn_eq_singleton ?_⟩
    simp [hnot, hrest]
  | cons first others hnot ih =>
    obtain ⟨pieces, last, ih⟩ := ih
    refine ⟨first :: pieces, last, fun rest hrest => ?_⟩
    rw [List.append_assoc, List.cons_append, List.splitOn_append_cons_self_of_not_mem hnot,
      ih rest hrest, List.cons_append]

section Pieces

variable {sep : Char} (hsep : isBlank sep = false)
include hsep

theorem ne_of_isBlank {c : Char} (h : isBlank c = true) : c ≠ sep := by
  intro hc
  rw [hc, hsep] at h
  cases h

theorem map_trim_splitOn_cons {c : Char} (h : isBlank c = true) (text : Text) :
    ((c :: text).splitOn sep).map trim = (text.splitOn sep).map trim := by
  rw [List.splitOn_cons_eq_if_modifyHead, if_neg (by simpa using ne_of_isBlank hsep h)]
  cases hp : text.splitOn sep with
  | nil => rfl
  | cons piece pieces => simp [h]

theorem map_trim_splitOn_concat {c : Char} (h : isBlank c = true) (text : Text) :
    ((text ++ [c]).splitOn sep).map trim = (text.splitOn sep).map trim := by
  obtain ⟨pieces, last, hp⟩ := exists_splitOn_append sep text
  have hnil := hp [] (by simp)
  rw [List.append_nil] at hnil
  rw [hp [c] (by simp [(ne_of_isBlank hsep h).symm]), hnil]
  simp [h]

theorem map_trim_splitOn_trimStart (text : Text) :
    ((trimStart text).splitOn sep).map trim = (text.splitOn sep).map trim := by
  induction text with
  | nil => rfl
  | cons c text ih =>
    cases h : isBlank c with
    | true =>
      rw [map_trim_splitOn_cons hsep h, ← ih, trimStart, List.dropWhile_cons_of_pos h]
      rfl
    | false => rw [trimStart, List.dropWhile_cons_of_neg (by simp [h])]

theorem map_trim_splitOn_trimEnd (text : Text) :
    ((trimEnd text).splitOn sep).map trim = (text.splitOn sep).map trim := by
  induction text using List.reverseRecOn with
  | nil => rfl
  | append_singleton text c ih =>
    rw [trimEnd_concat]
    cases h : isBlank c with
    | true => rw [if_pos rfl, ih, map_trim_splitOn_concat hsep h]
    | false => rfl

theorem map_trim_splitOn_trim (text : Text) :
    ((trim text).splitOn sep).map trim = (text.splitOn sep).map trim := by
  rw [trim, map_trim_splitOn_trimEnd hsep, map_trim_splitOn_trimStart hsep]

end Pieces

section Ends

theorem trimEnd_cons_of_not_isBlank {c : Char} (h : isBlank c = false) (text : Text) :
    trimEnd (c :: text) = c :: trimEnd text := by
  rw [trimEnd]
  cases trimEnd text with
  | nil => simp [h]
  | cons d rest => rfl

theorem trim_cons_of_not_isBlank {c : Char} (h : isBlank c = false) (text : Text) :
    trim (c :: text) = c :: trimEnd text := by
  rw [trim, trimStart, List.dropWhile_cons_of_neg (by simp [h]), trimEnd_cons_of_not_isBlank h]

theorem trim_append_of_isBlank {blank : Text} (h : ∀ c ∈ blank, isBlank c = true) (text : Text) :
    trim (blank ++ text) = trim text := by
  rw [trim, trim, trimStart, trimStart, List.dropWhile_append_of_pos h]

theorem trim_append_right_of_isBlank {blank : Text} (h : ∀ c ∈ blank, isBlank c = true)
    (text : Text) : trim (text ++ blank) = trim text := by
  induction blank using List.reverseRecOn with
  | nil => rw [List.append_nil]
  | append_singleton blank c ih =>
    rw [← List.append_assoc, trim_concat_of_isBlank (h c (by simp))]
    exact ih fun d hd => h d (by simp [hd])

def endsBlank (text : Text) : Bool := text.getLast?.any isBlank

theorem endsBlank_append {last : Text} (h : last ≠ []) (text : Text) :
    endsBlank (text ++ last) = endsBlank last := by
  rw [endsBlank, List.getLast?_append, Option.or_of_isSome (List.getLast?_isSome.2 h)]
  rfl

theorem endsBlank_of_isSuffix {last text : Text} (hlast : last ≠ []) (h : last <:+ text) :
    endsBlank text = endsBlank last := by
  obtain ⟨start, hstart⟩ := h
  rw [← hstart, endsBlank_append hlast]

theorem trimEnd_eq_self_iff {text : Text} : trimEnd text = text ↔ endsBlank text = false := by
  rw [trimEnd_eq_rdropWhile, List.rdropWhile_eq_self_iff, endsBlank]
  cases text with
  | nil => simp
  | cons c rest => simp [List.getLast?_eq_some_getLast]

theorem endsBlank_trim (text : Text) : endsBlank (trim text) = false := by
  rw [← trimEnd_eq_self_iff, trim, trimEnd_eq_rdropWhile, trimEnd_eq_rdropWhile]
  exact List.rdropWhile_idempotent isBlank _

theorem trim_eq_self {text : Text} (hfirst : ∀ c, text.head? = some c → isBlank c = false)
    (hlast : endsBlank text = false) : trim text = text := by
  cases text with
  | nil => rfl
  | cons c rest =>
    rw [trim, trimStart, List.dropWhile_cons_of_neg (by simp [hfirst c rfl])]
    exact trimEnd_eq_self_iff.2 hlast

theorem trim_of_not_isBlank {text : Text} (h : ∀ c ∈ text, isBlank c = false) :
    trim text = text := by
  refine trim_eq_self (fun c hc => h c (List.mem_of_head? hc)) ?_
  cases hlast : text.getLast? with
  | none => rw [endsBlank, hlast, Option.any_none]
  | some c => rw [endsBlank, hlast, Option.any_some, h c (List.mem_of_getLast? hlast)]

theorem trim_trim (text : Text) : trim (trim text) = trim text :=
  trim_eq_self (fun _ => isBlank_of_head?_trim) (endsBlank_trim text)

end Ends

theorem dropLeading_eq_ite (c : Char) (text : Text) :
    dropLeading c text = if text.head? = some c then text.tail else text := by
  cases text with
  | nil => rfl
  | cons d rest => simp [dropLeading]

end TagFilter.Text
