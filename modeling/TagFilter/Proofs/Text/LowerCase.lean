import TagFilter.Text.LowerCase

namespace TagFilter.Text

def isAscii (c : Char) : Bool := c.toNat < 128

variable {c d : Char}

theorem isUpper_iff_val : c.isUpper = true ↔ c.val ≥ 'A'.val ∧ c.val ≤ 'Z'.val :=
  decide_eq_true_iff

theorem isUpper_iff_toNat : c.isUpper = true ↔ 0x41 ≤ c.toNat ∧ c.toNat ≤ 0x5A :=
  isUpper_iff_val.trans (and_congr UInt32.le_iff_toNat_le UInt32.le_iff_toNat_le)

theorem isLower_iff_val : c.isLower = true ↔ c.val ≥ 'a'.val ∧ c.val ≤ 'z'.val :=
  Bool.and_eq_true_iff.trans (and_congr decide_eq_true_iff decide_eq_true_iff)

theorem isLower_iff_toNat : c.isLower = true ↔ 0x61 ≤ c.toNat ∧ c.toNat ≤ 0x7A :=
  isLower_iff_val.trans (and_congr UInt32.le_iff_toNat_le UInt32.le_iff_toNat_le)

theorem isAlpha_iff_toNat :
    c.isAlpha = true ↔
      0x41 ≤ c.toNat ∧ c.toNat ≤ 0x5A ∨ 0x61 ≤ c.toNat ∧ c.toNat ≤ 0x7A :=
  Bool.or_eq_true_iff.trans (or_congr isUpper_iff_toNat isLower_iff_toNat)

theorem isAscii_of_isAlpha (h : c.isAlpha = true) : isAscii c = true := by
  rw [isAlpha_iff_toNat] at h
  rw [isAscii, decide_eq_true_iff]
  omega

theorem isAscii_ofNat {n : Nat} (h : n.isValidChar) :
    isAscii (Char.ofNat n) = decide (n < 128) := by
  rw [isAscii, Char.ofNat, dif_pos h]
  rfl

theorem toNat_toLower (c : Char) :
    c.toLower.toNat = if c.isUpper then c.toNat + 0x20 else c.toNat := by
  by_cases h : c.isUpper = true
  · have hle := isUpper_iff_toNat.1 h
    have hval : c.toLower.val = c.val + ('a'.val - 'A'.val) :=
      congrArg Char.val (dif_pos (isUpper_iff_val.1 h))
    rw [if_pos h]
    calc
      c.toLower.toNat = (c.val + ('a'.val - 'A'.val)).toNat := congrArg UInt32.toNat hval
      _ = (c.toNat + 0x20) % 2 ^ 32 := UInt32.toNat_add _ _
      _ = c.toNat + 0x20 := Nat.mod_eq_of_lt (by omega)
  · have hself : c.toLower = c := dif_neg (mt isUpper_iff_val.2 h)
    rw [if_neg h, hself]

theorem toLower_eq_self (h : c.isUpper = false) : c.toLower = c := by
  rw [← Char.toNat_inj, toNat_toLower, h]
  rfl

theorem isAscii_toLower (c : Char) : isAscii c.toLower = isAscii c := by
  cases h : c.isUpper with
  | false => rw [toLower_eq_self h]
  | true =>
    have hle := isUpper_iff_toNat.1 h
    rw [isAscii, isAscii, toNat_toLower, if_pos h, decide_eq_decide]
    omega

theorem isAlpha_of_isLower_toLower (h : c.toLower.isLower = true) : c.isAlpha = true := by
  rw [isAlpha_iff_toNat, ← isUpper_iff_toNat]
  rw [isLower_iff_toNat, toNat_toLower] at h
  by_cases hupper : c.isUpper = true
  · exact .inl hupper
  · rw [if_neg hupper] at h
    exact .inr h

namespace CaseRun

variable {run : CaseRun}

def isOfLetters (run : CaseRun) : Bool :=
  run.first == 0x41 && run.last == 0x5A && run.target == 0x61

def isOfKelvinSign (run : CaseRun) : Bool := run.first == 0x212A && run.last == 0x212A

def isBeyondAscii (run : CaseRun) : Bool :=
  128 ≤ run.first && 128 ≤ run.target &&
    (run.target + (run.last - run.first) < 0xD800 ||
      (0xDFFF < run.target && run.target + (run.last - run.first) < 0x110000))

theorem of_mem_capitals (h : run ∈ capitals) :
    run.isOfLetters = true ∨ run.isOfKelvinSign = true ∨ run.isBeyondAscii = true := by
  have hall : capitals.all
      (fun run => run.isOfLetters || run.isOfKelvinSign || run.isBeyondAscii) = true := by
    decide +kernel
  simpa [or_assoc] using List.all_eq_true.1 hall run h

theorem le_toNat_of_contains (h : run.contains c = true) :
    run.first ≤ c.toNat ∧ c.toNat ≤ run.last := by
  simp only [contains, Bool.and_eq_true, decide_eq_true_eq] at h
  exact h.1

theorem isUpper_of_isOfLetters (h : run.isOfLetters = true) (hc : run.contains c = true) :
    c.isUpper = true := by
  have hle := le_toNat_of_contains hc
  simp only [isOfLetters, Bool.and_eq_true, beq_iff_eq] at h
  rwa [isUpper_iff_toNat, ← h.1.1, ← h.1.2]

theorem apply_of_isOfLetters (h : run.isOfLetters = true) (hc : run.contains c = true) :
    run.apply c = c.toLower := by
  have hupper := isUpper_of_isOfLetters h hc
  have hle := isUpper_iff_toNat.1 hupper
  simp only [isOfLetters, Bool.and_eq_true, beq_iff_eq] at h
  have hnat : run.target + (c.toNat - run.first) = c.toLower.toNat := by
    rw [toNat_toLower, if_pos hupper]
    omega
  rw [apply, hnat, Char.ofNat_toNat]

theorem eq_of_isOfKelvinSign (h : run.isOfKelvinSign = true) (hc : run.contains c = true) :
    c = '\u212A' := by
  have hle := le_toNat_of_contains hc
  simp only [isOfKelvinSign, Bool.and_eq_true, beq_iff_eq] at h
  rw [h.1, h.2] at hle
  exact Char.toNat_inj.1 (Nat.le_antisymm hle.2 hle.1)

theorem isAscii_of_isBeyondAscii (h : run.isBeyondAscii = true) (hc : run.contains c = true) :
    isAscii c = false := by
  have hle := le_toNat_of_contains hc
  simp only [isBeyondAscii, Bool.and_eq_true, decide_eq_true_eq] at h
  rw [isAscii, decide_eq_false_iff_not]
  omega

theorem isAscii_apply_of_isBeyondAscii (h : run.isBeyondAscii = true)
    (hc : run.contains c = true) : isAscii (run.apply c) = false := by
  have hle := le_toNat_of_contains hc
  simp only [isBeyondAscii, Bool.and_eq_true, Bool.or_eq_true, decide_eq_true_eq] at h
  have hvalid : (run.target + (c.toNat - run.first)).isValidChar := by
    rcases h.2 with h | h
    · left; omega
    · right; omega
  rw [apply, isAscii_ofNat hvalid, decide_eq_false_iff_not]
  omega

end CaseRun

theorem lowerChar_of_isAscii (h : isAscii c = true) : lowerChar c = [c.toLower] := by
  rw [lowerChar, if_neg (by rintro rfl; cases h)]
  cases hfind : capitals.find? (·.contains c) with
  | some run =>
    have hc := List.find?_some hfind
    rcases CaseRun.of_mem_capitals (List.mem_of_find?_eq_some hfind) with hrun | hrun | hrun
    · exact congrArg (fun lower => [lower]) (CaseRun.apply_of_isOfLetters hrun hc)
    · rw [CaseRun.eq_of_isOfKelvinSign hrun hc] at h
      cases h
    · rw [CaseRun.isAscii_of_isBeyondAscii hrun hc] at h
      cases h
  | none =>
    have hletters := List.find?_eq_none.1 hfind ⟨0x41, 0x5A, 1, 0x61⟩ List.mem_cons_self
    have hupper : c.isUpper = false := by
      rw [← Bool.not_eq_true, isUpper_iff_toNat]
      simpa [CaseRun.contains, Nat.mod_one] using hletters
    exact congrArg (fun lower => [lower]) (toLower_eq_self hupper).symm

theorem eq_of_mem_lowerChar (h : d ∈ lowerChar c) (hd : isAscii d = true) :
    isAscii c = true ∨ c = 'İ' ∨ c = '\u212A' := by
  rw [lowerChar] at h
  split at h
  · next hc => exact .inr (.inl hc)
  · split at h
    · next run hfind =>
      have hc := List.find?_some hfind
      obtain rfl := List.mem_singleton.1 h
      rcases CaseRun.of_mem_capitals (List.mem_of_find?_eq_some hfind) with hrun | hrun | hrun
      · rw [CaseRun.apply_of_isOfLetters hrun hc, isAscii_toLower] at hd
        exact .inl hd
      · exact .inr (.inr (CaseRun.eq_of_isOfKelvinSign hrun hc))
      · rw [CaseRun.isAscii_apply_of_isBeyondAscii hrun hc] at hd
        cases hd
    · obtain rfl := List.mem_singleton.1 h
      exact .inl hd

theorem lowerChar_ne_nil (c : Char) : lowerChar c ≠ [] := by
  rw [lowerChar]
  split
  · simp
  · split <;> simp

theorem lowerBetween_of_ne (h : c ≠ 'Σ') (before after : Text) :
    lowerBetween before c after = lowerChar c := by
  simp [lowerBetween, h]

/-- Neither of the two characters that come down into ASCII comes down to a text without a `k`: the
Kelvin sign comes down to that, and `İ` leaves its dot behind. -/
theorem isAscii_of_lowerBetween {before after : Text}
    (h : ∀ d ∈ lowerBetween before c after, isAscii d = true)
    (hk : 'k' ∉ lowerBetween before c after) : isAscii c = true := by
  rw [lowerBetween] at h hk
  split at h
  · cases h 'ς' List.mem_cons_self
  · next hfinal =>
    rw [if_neg hfinal] at hk
    obtain ⟨d, hd⟩ := List.exists_mem_of_ne_nil _ (lowerChar_ne_nil c)
    rcases eq_of_mem_lowerChar hd (h d hd) with hascii | rfl | rfl
    · exact hascii
    · have hdot := h '\u0307' (by simp [lowerChar])
      cases hdot
    · exact absurd (show 'k' ∈ lowerChar '\u212A' by decide +kernel) hk

theorem lowerFrom_of_isAscii {text : Text} (h : ∀ c ∈ text, isAscii c = true) (before : Text) :
    lowerFrom before text = text.map Char.toLower := by
  -- What stands before grows from character to character; within ASCII it is never looked at.
  induction text generalizing before with
  | nil => rfl
  | cons c text ih =>
    have hc := h c (by simp)
    rw [lowerFrom, lowerBetween_of_ne (by rintro rfl; cases hc), lowerChar_of_isAscii hc,
      ih fun d hd => h d (by simp [hd])]
    rfl

theorem isAscii_of_lowerFrom {before text : Text}
    (h : ∀ c ∈ lowerFrom before text, isAscii c = true) (hk : 'k' ∉ lowerFrom before text) :
    ∀ c ∈ text, isAscii c = true := by
  induction text generalizing before with
  | nil => simp
  | cons c text ih =>
    simp only [lowerFrom, List.mem_append, not_or] at h hk
    rw [List.forall_mem_cons]
    exact ⟨isAscii_of_lowerBetween (fun d hd => h d (.inl hd)) hk.1,
      ih (fun d hd => h d (.inr hd)) hk.2⟩

theorem lowerCase_eq_iff {text plain : Text} (h : ∀ c ∈ plain, isAscii c = true)
    (hk : 'k' ∉ plain) : lowerCase text = plain ↔ text.map Char.toLower = plain := by
  constructor
  · rintro rfl
    exact (lowerFrom_of_isAscii (isAscii_of_lowerFrom h hk) []).symm
  · rintro rfl
    apply lowerFrom_of_isAscii
    intro c hc
    rw [← isAscii_toLower]
    exact h _ (List.mem_map_of_mem hc)

end TagFilter.Text
