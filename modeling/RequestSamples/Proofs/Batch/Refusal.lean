import RequestSamples.Proofs.Success
import RequestSamples.Batch

/-!
# Why batches are refused

Writing a batch fails only because of what it is given: something that cannot be written, headers that are no
pairs, numbers that do not fit, or no records at all.  The main fact is `encode_onlyFails`, and with it that
no batch is refused for a reason that belongs to another part of the program.  Where the records can be written, only
numbers are left to be refused (`encode_onlyFails_of_body`).
-/

namespace RequestSamples.Batch

open RequestSamples.Except (OnlyFails)

/-- The failures with which batches are refused. -/
def IsRefusal : Failure → Prop
  | .notBytes _ | .noLength _ | .notIterable _ | .notPair _ | .shortPair _ | .longPair | .noAttribute _ _
  | .notInteger | .tooLarge | .outOfRange | .emptyBatch => True
  | _ => False

/-- The failures of numbers that do not fit into their fields, or are none. -/
inductive IsMisfit : Failure → Prop
  | notInteger : IsMisfit .notInteger
  | tooLarge : IsMisfit .tooLarge
  | outOfRange : IsMisfit .outOfRange

theorem IsMisfit.kind {e : Failure} (h : IsMisfit e) : e.kind = "struct.error" := by
  cases h <;> rfl

private theorem IsMisfit.isRefusal {e : Failure} (h : IsMisfit e) : IsRefusal e := by
  cases h <;> trivial

private theorem length_onlyFails (v : Value) : OnlyFails IsRefusal v.length := by
  unfold Value.length
  split
  · exact .ok _
  · exact .error trivial

private theorem elements_onlyFails (v : Value) : OnlyFails IsRefusal v.elements := by
  unfold Value.elements
  split
  · exact .ok _
  · exact .error trivial

private theorem pair_onlyFails (v : Value) : OnlyFails IsRefusal v.pair := by
  unfold Value.pair
  split
  · exact .ok _
  all_goals exact .error trivial

private theorem sized_onlyFails (v : Value) : OnlyFails IsRefusal (sized v) := by
  unfold sized
  split
  · exact .ok _
  · exact .ok _
  · split
    · exact .error trivial
    · rename_i h
      exact .error (length_onlyFails _ _ h)

private theorem header_onlyFails (v : Value) : OnlyFails IsRefusal (header v) := by
  refine (pair_onlyFails v).bind fun ⟨name, value⟩ => ?_
  dsimp only
  split
  · exact (sized_onlyFails _).bind fun _ => (sized_onlyFails _).bind fun _ => .ok _
  · exact .error trivial

private theorem record_onlyFails (delta : Nat) (r : Record) : OnlyFails IsRefusal (record delta r) :=
  (sized_onlyFails _).bind fun _ => (sized_onlyFails _).bind fun _ => (length_onlyFails _).bind fun _ =>
    (elements_onlyFails _).bind fun _ => (OnlyFails.mapM header_onlyFails _).bind fun _ => .ok _

private theorem body_onlyFails (delta : Nat) (rs : List Record) : OnlyFails IsRefusal (body delta rs) := by
  induction rs generalizing delta with
  | nil => exact .ok _
  | cons r rs ih => exact (record_onlyFails delta r).bind fun _ => (ih (delta + 1)).bind fun _ => .ok _

private theorem long_onlyFails (v : Value) : OnlyFails IsMisfit (long v) := by
  unfold long
  split
  · exact .error .notInteger
  · split
    · exact .ok _
    · exact .error .tooLarge

private theorem count_onlyFails (n : Nat) : OnlyFails IsMisfit (count n) := by
  unfold count
  split
  · exact .ok _
  · exact .error .outOfRange

section

variable {P : Failure → Prop} {rs : List Record}

private theorem checked_onlyFails (misfit : ∀ e, IsMisfit e → P e) (hbody : OnlyFails P (body 0 rs)) (time : Value) :
    OnlyFails P (checked time rs) :=
  hbody.bind fun _ => ((count_onlyFails _).mono misfit).bind fun _ => ((long_onlyFails time).mono misfit).bind fun _ =>
    ((count_onlyFails _).mono misfit).bind fun _ => .ok _

/-- A batch of records is refused only for a record or for a number. -/
theorem encode_onlyFails_of_body (misfit : ∀ e, IsMisfit e → P e) (hbody : OnlyFails P (body 0 rs)) (hne : rs ≠ [])
    (base time : Value) : OnlyFails P (encode base time rs) := by
  have hfull : ¬ rs.isEmpty = true := fun hempty => hne (List.isEmpty_iff.mp hempty)
  unfold encode
  rw [if_neg hfull]
  exact (checked_onlyFails misfit hbody time).bind fun _ => ((long_onlyFails base).mono misfit).bind fun _ =>
    ((count_onlyFails _).mono misfit).bind fun _ => .ok _

end

/-- A batch is refused only for what it is given. -/
theorem encode_onlyFails (base time : Value) (rs : List Record) : OnlyFails IsRefusal (encode base time rs) := by
  cases rs with
  | nil => exact .error trivial
  | cons r rs =>
    exact encode_onlyFails_of_body (fun _ => IsMisfit.isRefusal) (body_onlyFails 0 _) (List.cons_ne_nil r rs) base time

/-- A record is refused only for its headers. -/
theorem make_onlyFails (value key headers : Value) : OnlyFails IsRefusal (Record.make value key headers) := by
  unfold Record.make Record.headerList
  split
  · exact .ok _
  · exact .ok _
  · exact ((elements_onlyFails headers).map Value.list).bind fun _ => .ok _

end RequestSamples.Batch
