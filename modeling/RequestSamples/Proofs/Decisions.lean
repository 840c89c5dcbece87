import Mathlib.Data.List.Basic
import RequestSamples.Tables

/-!
# Deciding about every request kind once

The kinds that no table decides about, and those that more than one decides about, are computed with sets that are
objects.  Every set in between is a new one, and a union in place only ever changes such a set; so the sets that there
were before stand as they stood, wherever the sets of the tables are and whether or not they are frozen
(`run_findUnclassified`, `run_findOverlapping`).  The names of kinds are distinct, so sorting them puts them in strictly
increasing order (`sortedNames_lists`).  The check goes through exactly if every kind is decided about once, and
otherwise it names the kinds at fault (`check_accepts_partitions`).
-/

namespace RequestSamples

private theorem ApiKey.names_nodup : (ApiKey.all.map ApiKey.name).Nodup := by
  decide +kernel

namespace KeySet

@[simp] theorem mem_members {s : KeySet} {k : ApiKey} : k ∈ s.members ↔ s.has k = true := by
  rw [members, List.mem_filter, and_iff_right (ApiKey.mem_all k)]

private theorem members_isEmpty {s : KeySet} : s.members.isEmpty = true ↔ ∀ k, s.has k = false := by
  simp only [List.isEmpty_iff, List.eq_nil_iff_forall_not_mem, mem_members, Bool.not_eq_true]

private theorem members_congr {s s' : KeySet} (h : ∀ k, s.has k = true ↔ s'.has k = true) : s.members = s'.members :=
  List.filter_congr fun k _ => Bool.eq_iff_iff.mpr (h k)

namespace Program

variable {α β : Type} {sets new : List KeySet} {i j : Nat} {s s' : KeySet}

theorem run_bind {p : Program α} {f : α → Program β} {a : α} {sets' : List KeySet} (h : p.run sets = (a, sets')) :
    (p >>= f).run sets = (f a).run sets' := by
  rw [StateT.run_bind, h]
  rfl

private theorem run_load (h : sets[i]? = some s) : (load i).run sets = (s, sets) := by
  show (sets.getD i _, sets) = _
  rw [List.getD_eq_getElem?_getD, h, Option.getD_some]

/-- More sets do not change the one at a place. -/
theorem found (h : sets[i]? = some s) (new : List KeySet) : (sets ++ new)[i]? = some s := by
  rw [List.getElem?_append_left (List.getElem?_eq_some_iff.mp h).1, h]

/-- New sets stand behind the others. -/
private theorem found_new (sets new : List KeySet) (i : Nat) : (sets ++ new)[sets.length + i]? = new[i]? := by
  rw [List.getElem?_append_right (Nat.le_add_right ..), Nat.add_sub_cancel_left]

private theorem run_make (s : KeySet) (sets new : List KeySet) :
    (make s).run (sets ++ new) = (sets.length + new.length, sets ++ (new ++ [s])) := by
  rw [← List.append_assoc, ← List.length_append]
  rfl

private theorem run_combine (op : KeySet → KeySet → KeySet) (hi : (sets ++ new)[i]? = some s)
    (hj : (sets ++ new)[j]? = some s') :
    (combine op i j).run (sets ++ new) = (sets.length + new.length, sets ++ (new ++ [op s s'])) := by
  rw [combine, run_bind (run_load hi), run_bind (run_load hj), run_make]

/-- A new set that is not frozen takes in another one where it stands. -/
private theorem run_unite (hi : new[i]? = some s) (hs : s.frozen = false) (hj : (sets ++ new)[j]? = some s') :
    (unite (sets.length + i) j).run (sets ++ new) = (sets.length + i, sets ++ new.set i (union s s')) := by
  have hset : (sets ++ new).set (sets.length + i) (union s s') = sets ++ new.set i (union s s') := by
    rw [List.set_append_right _ _ (Nat.le_add_right ..), Nat.add_sub_cancel_left]
  rw [unite, run_bind (run_load ((found_new ..).trans hi)), hs, if_neg Bool.false_ne_true, run_bind (run_load hj),
    ← hset]
  rfl

end Program

end KeySet

namespace Tables

open KeySet (Program union intersection difference)
open KeySet.Program

/-- The sets of the tables stand at places, each of them frozen or not. -/
structure Stand (t : Tables) (sets : List KeySet) (noPopulator excluded : Nat) : Prop where
  noPopulator : ∃ frozen, sets[noPopulator]? = some ⟨frozen, t.noPopulator⟩
  excluded : ∃ frozen, sets[excluded]? = some ⟨frozen, t.excluded⟩

private theorem stand_sets (t : Tables) : t.Stand t.sets 0 1 := ⟨⟨true, rfl⟩, ⟨true, rfl⟩⟩

theorem Stand.append {t : Tables} {sets : List KeySet} {i j : Nat} (h : t.Stand sets i j) (new : List KeySet) :
    t.Stand (sets ++ new) i j :=
  ⟨h.noPopulator.imp fun _ hi => found hi new, h.excluded.imp fun _ hj => found hj new⟩

/-- A program leaves all sets alone that there are, and gives a set of the kinds for which something holds. -/
def Finds (p : Program Nat) (sets : List KeySet) (q : ApiKey → Prop) : Prop :=
  ∃ place new found, p.run sets = (place, sets ++ new) ∧ (sets ++ new)[place]? = some found ∧
    ∀ k, found.has k = true ↔ q k

variable {t : Tables} {sets : List KeySet} {i j : Nat}

private theorem finds_unclassified (h : t.Stand sets i j) : Finds
    (t.findUnclassified i j) sets fun k => t.decisions k = 0 := by
  obtain ⟨⟨f, hi⟩, ⟨g, hj⟩⟩ := h
  let registered : KeySet := ⟨false, fun k => (t.registry k).isSome⟩
  let unneeded : KeySet := ⟨f, t.noPopulator⟩
  let excluded : KeySet := ⟨g, t.excluded⟩
  let either := union registered unneeded
  let classified := union either excluded
  let all : KeySet := ⟨false, fun _ => true⟩
  have h₁ : t.registered.run sets = (sets.length + 0, sets ++ [registered]) := rfl
  have h₂ : (combine union (sets.length + 0) i).run (sets ++ [registered]) =
      (sets.length + 1, sets ++ [registered, either]) := run_combine union (found_new ..) (found hi _)
  have h₃ : (combine union (sets.length + 1) j).run (sets ++ [registered, either]) =
      (sets.length + 2, sets ++ [registered, either, classified]) := run_combine union (found_new ..) (found hj _)
  have h₄ : (make all).run (sets ++ [registered, either, classified]) =
      (sets.length + 3, sets ++ [registered, either, classified, all]) := run_make ..
  have h₅ : (combine difference (sets.length + 3) (sets.length + 2)).run
        (sets ++ [registered, either, classified, all]) =
      (sets.length + 4, sets ++ [registered, either, classified, all, difference all classified]) :=
    run_combine difference (found_new ..) (found_new ..)
  refine ⟨sets.length + 4, [registered, either, classified, all, difference all classified], _, ?_, found_new ..,
    fun k => ?_⟩
  · rw [findUnclassified, run_bind h₁, run_bind h₂, run_bind h₃, run_bind h₄, h₅]
  · show (true && !(((t.registry k).isSome || t.noPopulator k) || t.excluded k)) = true ↔ t.decisions k = 0
    unfold decisions
    cases (t.registry k).isSome <;> cases t.noPopulator k <;> cases t.excluded k <;> decide

/-- The set that takes in the others has been made new, so none of the tables changes with it. -/
private theorem finds_overlapping (h : t.Stand sets i j) : Finds
    (t.findOverlapping i j) sets fun k => 1 < t.decisions k := by
  obtain ⟨⟨f, hi⟩, ⟨g, hj⟩⟩ := h
  let registered : KeySet := ⟨false, fun k => (t.registry k).isSome⟩
  let unneeded : KeySet := ⟨f, t.noPopulator⟩
  let excluded : KeySet := ⟨g, t.excluded⟩
  let first := intersection registered unneeded
  let second := intersection unneeded excluded
  let third := intersection registered excluded
  have h₁ : t.registered.run sets = (sets.length + 0, sets ++ [registered]) := rfl
  have h₂ : (combine intersection (sets.length + 0) i).run (sets ++ [registered]) =
      (sets.length + 1, sets ++ [registered, first]) := run_combine intersection (found_new ..) (found hi _)
  have h₃ : (combine intersection i j).run (sets ++ [registered, first]) =
      (sets.length + 2, sets ++ [registered, first, second]) := run_combine intersection (found hi _) (found hj _)
  have h₄ : (unite (sets.length + 1) (sets.length + 2)).run (sets ++ [registered, first, second]) =
      (sets.length + 1, sets ++ [registered, union first second, second]) := run_unite rfl rfl (found_new ..)
  have h₅ : (combine intersection (sets.length + 0) j).run (sets ++ [registered, union first second, second]) =
      (sets.length + 3, sets ++ [registered, union first second, second, third]) :=
    run_combine intersection (found_new ..) (found hj _)
  have h₆ : (unite (sets.length + 1) (sets.length + 3)).run
        (sets ++ [registered, union first second, second, third]) =
      (sets.length + 1, sets ++ [registered, union (union first second) third, second, third]) :=
    run_unite rfl rfl (found_new ..)
  refine ⟨sets.length + 1, [registered, union (union first second) third, second, third], _, ?_, found_new ..,
    fun k => ?_⟩
  · rw [findOverlapping, run_bind h₁, run_bind h₂, run_bind h₃, run_bind h₄, run_bind h₅, h₆]
  · show ((((t.registry k).isSome && t.noPopulator k) || (t.noPopulator k && t.excluded k)) ||
      ((t.registry k).isSome && t.excluded k)) = true ↔ 1 < t.decisions k
    unfold decisions
    cases (t.registry k).isSome <;> cases t.noPopulator k <;> cases t.excluded k <;> decide

private theorem Finds.mem_members {p : Program Nat} {q : ApiKey → Prop} (h : Finds p sets q) {k : ApiKey} :
    k ∈ ((p >>= load).run sets).1.members ↔ q k := by
  obtain ⟨place, new, found, hp, hfound, hq⟩ := h
  rw [run_bind hp, run_load hfound, KeySet.mem_members, hq]

/-- The names are those of the kinds for which something holds, in strictly increasing order. -/
structure Lists (names : List String) (q : ApiKey → Prop) : Prop where
  increasing : names.Pairwise (· < ·)
  mem_iff (name : String) : name ∈ names ↔ ∃ k, q k ∧ k.name = name

theorem sortedNames_lists {s : KeySet} {q : ApiKey → Prop} (h : ∀ k, s.has k = true ↔ q k) :
    Lists (sortedNames s.members) q where
  increasing := by
    have hle : (sortedNames s.members).Pairwise fun a b => decide (a ≤ b) = true :=
      List.pairwise_mergeSort (fun a b c => by simpa using String.le_trans)
        (fun a b => by simpa using String.le_total a b) _
    have hne : (sortedNames s.members).Nodup :=
      (List.mergeSort_perm ..).nodup_iff.mpr (ApiKey.names_nodup.sublist (List.filter_sublist.map _))
    refine (hle.and hne).imp fun {a b} ⟨hab, hne⟩ => ?_
    by_contra hnot
    exact hne (String.le_antisymm (of_decide_eq_true hab) hnot)
  mem_iff name := by
    rw [sortedNames, (List.mergeSort_perm ..).mem_iff]
    simp only [List.mem_map, KeySet.mem_members, h]

private theorem run_lift {α β : Type} {p : Program α} {f : α → ExceptT Failure Program β} {a : α}
    {sets' : List KeySet} (h : p.run sets = (a, sets')) :
    (liftM p >>= f : ExceptT Failure Program β).run.run sets = (f a).run.run sets' := by
  have hlift : (liftM p >>= f : ExceptT Failure Program β).run = p >>= fun a => (f a).run := by
    rw [ExceptT.run_bind]
    rfl
  rw [hlift, run_bind h]

private theorem run_checkDecisions (h : t.Stand sets i j) :
    ∃ (new : List KeySet) (missing doubled : KeySet), (∀ k, missing.has k = true ↔ t.decisions k = 0) ∧
      (∀ k, doubled.has k = true ↔ 1 < t.decisions k) ∧
      (t.checkDecisions i j).run.run sets =
        (if missing.members.isEmpty then
          if doubled.members.isEmpty then .ok () else .error (.overlapping (sortedNames doubled.members))
        else .error (.unclassified (sortedNames missing.members)), sets ++ new) := by
  obtain ⟨p, new, missing, hp, hmissing, hmiss⟩ := finds_unclassified h
  obtain ⟨q, new', doubled, hq, hdoubled, hdbl⟩ := finds_overlapping (h.append new)
  unfold checkDecisions
  rw [run_lift hp, run_lift (run_load hmissing)]
  cases hm : missing.members.isEmpty with
  | false => exact ⟨new, missing, doubled, hmiss, hdbl, by rw [hm]; rfl⟩
  | true =>
    refine ⟨new ++ new', missing, doubled, hmiss, hdbl, ?_⟩
    rw [hm, if_pos rfl, ← List.append_assoc]
    refine (run_lift hq).trans ((run_lift (run_load hdoubled)).trans ?_)
    cases doubled.members.isEmpty <;> rfl

/-- What the check gives does not depend on the sets that there are besides those of the tables. -/
private theorem check_eq (h : t.Stand sets i j) : t.check = ((t.checkDecisions i j).run.run sets).1 := by
  obtain ⟨_, missing, doubled, hmissing, hdoubled, hrun⟩ := run_checkDecisions h
  obtain ⟨_, missing', doubled', hmissing', hdoubled', hrun'⟩ := run_checkDecisions t.stand_sets
  have hm := KeySet.members_congr fun k => (hmissing' k).trans (hmissing k).symm
  have hd := KeySet.members_congr fun k => (hdoubled' k).trans (hdoubled k).symm
  rw [check, hrun, hrun', hm, hd]

/-- Wherever the sets of the tables stand, frozen or not, the check goes through exactly if every kind is decided about
once.  Otherwise it fails with the names of the kinds that no table decides about, if there are any, and else with those
of the kinds that more than one table decides about, in alphabetical order.  Just these kinds are computed, and no set
that was there before is changed by it. -/
theorem check_accepts_partitions (t : Tables) {sets : List KeySet} {i j : Nat} (h : t.Stand sets i j) :
    let checked := (t.checkDecisions i j).run.run sets
    (checked.1 = .ok () ↔ ∀ k, t.decisions k = 1) ∧
      ((∃ k, t.decisions k = 0) → ∃ e names, checked.1 = .error e ∧ e.kind = "RuntimeError" ∧
        e.message = "api keys with no populator decision: " ++ String.intercalate ", " names ∧
        Lists names fun k => t.decisions k = 0) ∧
      ((∀ k, t.decisions k ≠ 0) → (∃ k, 1 < t.decisions k) → ∃ e names, checked.1 = .error e ∧
        e.kind = "RuntimeError" ∧
        e.message = "api keys classified more than once: " ++ String.intercalate ", " names ∧
        Lists names fun k => 1 < t.decisions k) ∧
      t.check = checked.1 ∧
      (∀ k, k ∈ t.unclassified ↔ t.decisions k = 0) ∧ (∀ k, k ∈ t.overlapping ↔ 1 < t.decisions k) ∧
      sets <+: checked.2 ∧ Finds (t.findUnclassified i j) sets (fun k => t.decisions k = 0) ∧
      Finds (t.findOverlapping i j) sets fun k => 1 < t.decisions k := by
  intro checked
  obtain ⟨new, missing, doubled, hmissing, hdoubled, hrun⟩ := run_checkDecisions h
  have hchecked : checked = (_, sets ++ new) := hrun
  have hnone : missing.members.isEmpty = true ↔ ∀ k, t.decisions k ≠ 0 := by
    simp only [KeySet.members_isEmpty, ← Bool.not_eq_true, hmissing, ne_eq]
  have honce : doubled.members.isEmpty = true ↔ ∀ k, ¬ 1 < t.decisions k := by
    simp only [KeySet.members_isEmpty, ← Bool.not_eq_true, hdoubled]
  refine ⟨?_, ?_, ?_, check_eq h, fun k => (finds_unclassified t.stand_sets).mem_members,
    fun k => (finds_overlapping t.stand_sets).mem_members, ?_, finds_unclassified h, finds_overlapping h⟩
  · rw [hchecked]
    by_cases hm : missing.members.isEmpty = true
    · by_cases hd : doubled.members.isEmpty = true
      · rw [if_pos hm, if_pos hd]
        refine iff_of_true rfl fun k => ?_
        have := hnone.mp hm k
        have := honce.mp hd k
        omega
      · rw [if_pos hm, if_neg hd]
        refine iff_of_false nofun fun hone => hd (honce.mpr fun k => ?_)
        rw [hone k]
        omega
    · rw [if_neg hm]
      refine iff_of_false nofun fun hone => hm (hnone.mpr fun k => ?_)
      rw [hone k]
      omega
  · rintro ⟨k, hk⟩
    have hm : ¬ missing.members.isEmpty = true := fun hm => hnone.mp hm k hk
    refine ⟨.unclassified (sortedNames missing.members), _, ?_, rfl, rfl, sortedNames_lists hmissing⟩
    rw [hchecked, if_neg hm]
  · rintro hall ⟨k, hk⟩
    have hd : ¬ doubled.members.isEmpty = true := fun hd => honce.mp hd k hk
    refine ⟨.overlapping (sortedNames doubled.members), _, ?_, rfl, rfl, sortedNames_lists hdoubled⟩
    rw [hchecked, if_pos (hnone.mpr hall), if_neg hd]
  · rw [hchecked]
    exact List.prefix_append ..

/-- Two kinds have lost their decision and a third one has got a second one: the first two are named. -/
theorem check_accepts_partitions_two_missing :
    let t := ((Tables.standard.setNoPopulator .heartbeat false).setNoPopulator .fetch false).setExcluded .metadata true
    ∃ e names, t.check = .error e ∧ e.kind = "RuntimeError" ∧
      e.message = "api keys with no populator decision: " ++ String.intercalate ", " names ∧
      names.Pairwise (· < ·) ∧ "FETCH" ∈ names ∧ "HEARTBEAT" ∈ names ∧
      ApiKey.metadata ∈ t.overlapping ∧ [⟨false, t.noPopulator⟩, ⟨false, t.excluded⟩] <+:
        ((t.findOverlapping 0 1).run [⟨false, t.noPopulator⟩, ⟨false, t.excluded⟩]).2 := by
  intro t
  have stands : t.Stand [⟨false, t.noPopulator⟩, ⟨false, t.excluded⟩] 0 1 := ⟨⟨false, rfl⟩, ⟨false, rfl⟩⟩
  obtain ⟨-, hmissing, -, hcheck, -, hoverlapping, -, -, ⟨place, new, found, hrun, -⟩⟩ :=
    check_accepts_partitions t stands
  obtain ⟨e, names, he, hkind, hmessage, hincreasing, hmem⟩ := hmissing ⟨.fetch, rfl⟩
  refine ⟨e, names, hcheck.trans he, hkind, hmessage, hincreasing, (hmem _).mpr ⟨.fetch, rfl, ?_⟩,
    (hmem _).mpr ⟨.heartbeat, rfl, ?_⟩, (hoverlapping _).mpr (by decide), ?_⟩
  · decide +kernel
  · decide +kernel
  · rw [hrun]
    exact List.prefix_append ..

end Tables

end RequestSamples
