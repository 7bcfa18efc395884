import TagFilter.Proofs.Text.Utf8
import TagFilter.Sink

namespace TagFilter

namespace Sink

variable {sink after : Sink} {first rest : Bytes}

theorem write_nil (sink : Sink) : sink.write [] = (.ok (), sink) := by
  have hnone : sink.fitting [] = [] := by
    rw [fitting]
    split <;> simp
  simp [write, hnone]

theorem fitting_append (hfits : sink.fitting first = first) (rest : Bytes) :
    sink.fitting (first ++ rest) =
      first ++ { sink with accepted := sink.accepted ++ first }.fitting rest := by
  cases hroom : sink.room? with
  | none => simp [fitting, hroom]
  | some room =>
    have hlength : first.length ≤ room - sink.accepted.length := by
      have := congrArg List.length hfits
      simp only [fitting, hroom, List.length_take] at this
      omega
    simp [fitting, hroom, List.take_append, List.take_of_length_le hlength, Nat.sub_sub]

theorem fitting_append_of_length_lt (hfull : (sink.fitting first).length < first.length)
    (rest : Bytes) : sink.fitting (first ++ rest) = sink.fitting first := by
  cases hroom : sink.room? with
  | none => simp [fitting, hroom] at hfull
  | some room =>
    simp only [fitting, hroom, List.length_take] at hfull ⊢
    exact List.take_append_of_le_length (by omega)

theorem fitting_isPrefix (sink : Sink) (bytes : Bytes) : sink.fitting bytes <+: bytes := by
  rw [fitting]
  split
  · exact List.prefix_refl _
  · exact List.take_prefix _ _

theorem write_append (sink : Sink) (first rest : Bytes) :
    sink.write (first ++ rest) =
      match sink.write first with
      | (.ok (), after) => after.write rest
      | (.error error, after) => (.error error, after) := by
  by_cases hfull : (sink.fitting first).length < first.length
  · have hmore : (sink.fitting first).length < first.length + rest.length := by omega
    simp [write, fitting_append_of_length_lt hfull, hfull, hmore]
  · have hfits : sink.fitting first = first :=
      (sink.fitting_isPrefix first).eq_of_length_le (Nat.le_of_not_lt hfull)
    simp [write, fitting_append hfits, hfits]

theorem writeAll_eq_write (sink : Sink) (pieces : List Bytes) :
    sink.writeAll pieces = sink.write pieces.flatten := by
  -- The sink changes from piece to piece, and each time it is the rest that is still to be written.
  induction pieces generalizing sink with
  | nil => exact (write_nil sink).symm
  | cons piece pieces ih =>
    rw [writeAll, List.flatten_cons, write_append]
    cases sink.write piece with
    | mk result after =>
      cases result with
      | error error => rfl
      | ok => exact ih after

/-- One call: what fits is taken, and only a call that takes nothing of something fails. -/
def offer (sink : Sink) (bytes : Bytes) : Except WriteError Nat × Sink :=
  let kept := sink.fitting bytes
  if kept = [] ∧ bytes ≠ [] then (.error .full, sink)
  else (.ok kept.length, { sink with accepted := sink.accepted ++ kept })

theorem offer_of_fitting_eq_nil {bytes : Bytes} (hne : bytes ≠ [])
    (hnone : sink.fitting bytes = []) : sink.offer bytes = (.error .full, sink) :=
  if_pos ⟨hnone, hne⟩

theorem offer_of_fitting_ne_nil {bytes : Bytes} (hsome : sink.fitting bytes ≠ []) :
    sink.offer bytes =
      (.ok (sink.fitting bytes).length,
        { sink with accepted := sink.accepted ++ sink.fitting bytes }) :=
  if_neg fun h => hsome h.1

theorem pos_of_offer_eq_ok {bytes : Bytes} {taken : Nat} (hne : bytes ≠ [])
    (h : sink.offer bytes = (.ok taken, after)) : 0 < taken := by
  by_cases hnone : sink.fitting bytes = []
  · rw [offer_of_fitting_eq_nil hne hnone] at h
    cases h
  · rw [offer_of_fitting_ne_nil hnone] at h
    cases h
    exact List.length_pos_iff.2 hnone

def offerAll (sink : Sink) (bytes : Bytes) : Except WriteError Unit × Sink :=
  if hne : bytes = [] then (.ok (), sink)
  else
    match hoffer : sink.offer bytes with
    | (.ok taken, after) =>
      have : 0 < taken := pos_of_offer_eq_ok hne hoffer
      have : 0 < bytes.length := List.length_pos_iff.2 hne
      offerAll after (bytes.drop taken)
    | (.error error, after) => (.error error, after)
termination_by bytes.length

theorem offerAll_nil (sink : Sink) : sink.offerAll [] = (.ok (), sink) := by
  rw [offerAll, dif_pos rfl]

theorem offerAll_of_offer_eq_ok {bytes : Bytes} {taken : Nat} (hne : bytes ≠ [])
    (h : sink.offer bytes = (.ok taken, after)) :
    sink.offerAll bytes = after.offerAll (bytes.drop taken) := by
  rw [offerAll, dif_neg hne]
  split <;> simp_all

theorem offerAll_of_offer_eq_error {bytes : Bytes} {error : WriteError} (hne : bytes ≠ [])
    (h : sink.offer bytes = (.error error, after)) :
    sink.offerAll bytes = (.error error, after) := by
  rw [offerAll, dif_neg hne]
  split <;> simp_all

def offerEach (sink : Sink) : List Bytes → Except WriteError Unit × Sink
  | [] => (.ok (), sink)
  | piece :: rest =>
    match sink.offerAll piece with
    | (.ok (), after) => offerEach after rest
    | (.error error, after) => (.error error, after)

theorem fitting_drop_of_length_lt {bytes : Bytes}
    (hfull : (sink.fitting bytes).length < bytes.length) :
    { sink with accepted := sink.accepted ++ sink.fitting bytes }.fitting
      (bytes.drop (sink.fitting bytes).length) = [] := by
  cases hroom : sink.room? with
  | none => simp [fitting, hroom] at hfull
  | some room =>
    simp only [fitting, hroom, List.length_take, List.length_append] at hfull ⊢
    rw [List.take_eq_nil_iff]
    left
    omega

theorem offerAll_eq_write (sink : Sink) (bytes : Bytes) :
    sink.offerAll bytes = sink.write bytes := by
  by_cases hne : bytes = []
  · rw [hne, offerAll_nil, write_nil]
  · by_cases hnone : sink.fitting bytes = []
    · rw [offerAll_of_offer_eq_error hne (offer_of_fitting_eq_nil hne hnone)]
      simp [write, hnone, List.length_pos_iff.2 hne]
    · rw [offerAll_of_offer_eq_ok hne (offer_of_fitting_ne_nil hnone)]
      by_cases hfull : (sink.fitting bytes).length < bytes.length
      -- The first call used the room up, so the second one takes nothing.
      · have hrest : bytes.drop (sink.fitting bytes).length ≠ [] := by
          simpa [List.drop_eq_nil_iff] using hfull
        rw [offerAll_of_offer_eq_error hrest
          (offer_of_fitting_eq_nil hrest (fitting_drop_of_length_lt hfull))]
        simp [write, hfull]
      · rw [List.drop_eq_nil_iff.2 (Nat.le_of_not_lt hfull), offerAll_nil]
        simp [write, hfull]

theorem offerEach_eq_write (sink : Sink) (pieces : List Bytes) :
    sink.offerEach pieces = sink.write pieces.flatten := by
  rw [← writeAll_eq_write]
  induction pieces generalizing sink with
  | nil => rfl
  | cons piece pieces ih =>
    rw [offerEach, writeAll, offerAll_eq_write]
    cases sink.write piece with
    | mk result after =>
      cases result with
      | error error => rfl
      | ok => exact ih after

end Sink

end TagFilter
