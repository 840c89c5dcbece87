import RequestSamples.Failure
import RequestSamples.Message
import RequestSamples.Tables

/-!
# Views of the tables

The kind of a key, the shape of its requests, its fresh request and its versions are looked up separately.  A value
denotes a kind if and only if it is equal to the wire id (`toKey?_eq_some`), so all four views take the same keys, tell
of the same kind, and refuse the other keys in the same words (`views_agree`).
-/

namespace RequestSamples

/-- The kind that a value denotes is the one whose wire id the value is equal to. -/
theorem Value.toKey?_eq_some {v : Value} {k : ApiKey} : v.toKey? = some k ↔ v.same (.int k.id) = true := by
  cases hv : v.number? with
  | none => simp [toKey?, hv, same_number hv (number?_int k.id)]
  | some p =>
    rw [same_of_number? hv, number?_int, decide_eq_true_iff, Option.some_inj]
    cases p with
    | infinite negative => simp [toKey?, hv]
    | undefined => simp [toKey?, hv]
    | finite q =>
      simp only [toKey?, hv, Number.finite.injEq]
      constructor
      · intro h
        split at h
        · rename_i hq
          obtain ⟨hden, hnum⟩ : q.den = 1 ∧ 0 ≤ q.num := by simpa using hq
          rw [ApiKey.ofId?_eq_some_iff.mp h, Int.toNat_of_nonneg hnum]
          exact Rat.ext rfl hden.symm
        · cases h
      · rintro rfl
        simp

private theorem Versions.pairwise_toList (r : Versions) : r.toList.Pairwise (· < ·) := by
  rw [toList, List.pairwise_map]
  refine List.pairwise_lt_range.imp fun h => ?_
  omega

namespace ApiKey

/-- The fields that are given to make the default request of a kind.  Only the generic shape wants one, the key. -/
def given (k : ApiKey) : Entries := if Shape.ofKey k = .generic then [("api_key", .key k)] else []

/-- The fresh request of a kind is the one made from its shape. -/
private theorem make_ofKey (k : ApiKey) : (Shape.ofKey k).make k.given = .ok k.skeleton := by
  by_cases h : Shape.ofKey k = .generic
  · rw [given, skeleton, if_pos h, if_pos h, h]
    rfl
  · rw [given, skeleton, if_neg h, if_neg h]
    exact Shape.make_nil h

private theorem same_skeleton (k : ApiKey) : k.skeleton.same k.skeleton = true := by
  cases k <;> decide

end ApiKey

namespace Tables

/-- Every view takes a value for this kind with these versions. -/
structure Shows (t : Tables) (v : Value) (k : ApiKey) (known : Versions) : Prop where
  lookup : t.lookup v = .ok k
  shape : t.shape v = .ok (Shape.ofKey k)
  skeleton : ∃ m, t.skeleton v = .ok m ∧ m.hasShape (Shape.ofKey k) = true ∧ m.apiKey = .ok (.key k) ∧
    ∃ fresh, (Shape.ofKey k).make k.given = .ok fresh ∧ m.same fresh = true
  supported : t.supportedVersions v = .ok known

/-- Every view fails in this way. -/
structure Refuses (t : Tables) (v : Value) (e : Failure) : Prop where
  lookup : t.lookup v = .error e
  shape : t.shape v = .error e
  skeleton : t.skeleton v = .error e
  supported : t.supportedVersions v = .error e

variable {t : Tables} {v : Value}

private theorem shows_of_toKey? {k : ApiKey} {known : Versions} (hk : v.toKey? = some k)
    (hknown : t.versions k = some known) : t.Shows v k known := by
  have hlookup : t.lookup v = .ok k := lookup_eq_ok.mpr ⟨hk, known, hknown⟩
  refine ⟨hlookup, ?_, ⟨k.skeleton, ?_, k.skeleton_hasShape, k.apiKey_skeleton, _, k.make_ofKey, k.same_skeleton⟩, ?_⟩
  · rw [shape, hlookup]
    rfl
  · rw [skeleton, hlookup]
    rfl
  · simp only [supportedVersions, hk, hknown]

/-- What fails to be looked up is refused by every view in the same way. -/
private theorem refuses_of_lookup {e : Failure} (h : t.lookup v = .error e) : t.Refuses v e := by
  refine ⟨h, ?_, ?_, ?_⟩
  · rw [shape, h]
    rfl
  · rw [skeleton, h]
    rfl
  · rw [supportedVersions_eq, h]
    rfl

/-- Every view takes a value that is equal to the wire id of a kind with versions, for this kind.  Any other value that
can be shown is refused by every view as unknown, and in the same words. -/
theorem views_agree (t : Tables) {v : Value} (hv : v.stop? = none) :
    (∀ k lowest highest, v.same (.int k.id) = true → t.versions k = some ⟨lowest, highest⟩ →
      t.Shows v k ⟨lowest, highest⟩ ∧ (∀ n, n ∈ Versions.toList ⟨lowest, highest⟩ ↔ lowest ≤ n ∧ n ≤ highest) ∧
        (Versions.toList ⟨lowest, highest⟩).Pairwise (· < ·)) ∧
      ((∀ k, v.same (.int k.id) = true → t.versions k = none) → ∃ w, t.Refuses v (.schemaUnknown w)) := by
  refine ⟨?_, ?_⟩
  · intro k lowest highest hk hknown
    exact ⟨shows_of_toKey? (Value.toKey?_eq_some.mpr hk) hknown, fun n => Versions.mem_toList,
      Versions.pairwise_toList _⟩
  · intro h
    cases hk : v.toKey? with
    | none =>
      refine ⟨v, refuses_of_lookup ?_⟩
      rw [lookup, hk, Failure.showing, hv]
      rfl
    | some k =>
      have hnone : t.versions k = none := h k (Value.toKey?_eq_some.mp hk)
      refine ⟨.key k, refuses_of_lookup ?_⟩
      simp only [lookup, hk, hnone]
      rfl

/-- A floating-point number is taken for the kind whose id it denotes.  The kind without versions is refused, even as a
truth value, and so is a list with a key in it. -/
theorem views_agree_odd_keys :
    let t := standard.setVersions .fetch none
    let three : Value := .float (.finite false 3 0)
    t.Shows three .metadata ⟨0, 12⟩ ∧ (∃ w, t.Refuses (.bool true) (.schemaUnknown w)) ∧
      ∃ w, t.Refuses (.list [.int 3]) (.schemaUnknown w) := by
  intro t three
  obtain ⟨hthree, -⟩ := views_agree t (v := three) rfl
  obtain ⟨-, htrue⟩ := views_agree t (v := .bool true) rfl
  obtain ⟨-, hlist⟩ := views_agree t (v := .list [.int 3]) rfl
  refine ⟨(hthree .metadata 0 12 (by decide) rfl).1, htrue ?_, hlist ?_⟩
  · intro k hk
    have hfetch : (Value.bool true).toKey? = some .fetch := by decide
    cases hfetch.symm.trans (Value.toKey?_eq_some.mpr hk)
    rfl
  · intro k hk
    cases Value.toKey?_eq_some.mpr hk

end Tables

end RequestSamples
