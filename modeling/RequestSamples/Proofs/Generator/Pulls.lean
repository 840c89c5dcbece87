import RequestSamples.Proofs.Generator.Turn
import RequestSamples.Session

/-!
# Pulling from a generator

A generator that is pulled one sample at a time does what a run does, no more and no sooner.  After `n` pulls
it has done what the run over the first `n` keys does, and it keeps the other keys for later unless a turn has
failed (`Reached`).  Each pull preserves this (`reached_pull`), so it holds after any number of them
(`reached_pulls`).  The main fact is `run_is_lazy`, which says what this means for samples, failures, log and
source.  Some failures come out of a run that are not those of a key (`failures_beside_keys`).
-/

namespace RequestSamples.Generator

variable {σ : Type}

/-- A generator that is being pulled, with what it has done so far. -/
structure Pulled (σ : Type) where
  progress : Progress
  done : Run σ

/-- A generator from which nothing has been pulled. -/
def Pulled.start (selection : Selection) (s : σ) : Pulled σ := ⟨.fresh selection, ⟨[], none, [], s⟩⟩

/-- What has been done after one more turn. -/
def Run.extend (r : Run σ) (now : Turn σ) : Run σ :=
  match now.result with
  | .error e => ⟨r.samples, some e, r.events ++ now.events, now.source⟩
  | .ok sample => ⟨r.samples ++ [sample], none, r.events ++ now.events, now.source⟩

section

variable (t : Tables) (resolve : Resolver) (draws : NameSource σ)

/-- Pulls once. -/
def pull (g : Pulled σ) : Pulled σ :=
  match step t resolve draws g.progress g.done.source with
  | (progress, none) => ⟨progress, g.done⟩
  | (progress, some now) => ⟨progress, g.done.extend now⟩

/-- Pulls so many times. -/
def pulls : Nat → Pulled σ → Pulled σ
  | 0, g => g
  | n + 1, g => pull t resolve draws (pulls n g)

/-- What a generator is about to do after `n` pulls. -/
def Standing (ks : List Value) (n : Nat) (done : Run σ) : Progress → Prop
  | .fresh selection => n = 0 ∧ selection.keys t = .ok ks
  | .ready rest => rest = ks.drop n ∧ done.failure = none
  | .over => done.failure ≠ none ∨ ks.length ≤ n

/-- The generator has done what the run over the first `n` keys does, and nothing else. -/
structure Reached (ks : List Value) (s : σ) (n : Nat) (g : Pulled σ) : Prop where
  done : g.done = run t resolve draws (ks.take n) s
  standing : Standing t ks n g.done g.progress

end

variable {t : Tables} {resolve : Resolver} {draws : NameSource σ} {ks : List Value} {s : σ} {n : Nat}

/-- The first of several pulls. -/
theorem pulls_pull (g : Pulled σ) :
    pulls t resolve draws n (pull t resolve draws g) = pulls t resolve draws (n + 1) g := by
  induction n with
  | zero => rfl
  | succ n ih => exact congrArg (pull t resolve draws) ih

private theorem run_take_succ_of_failure (h : (run t resolve draws (ks.take n) s).failure ≠ none) :
    run t resolve draws (ks.take (n + 1)) s = run t resolve draws (ks.take n) s := by
  obtain ⟨e, he⟩ := Option.ne_none_iff_exists'.mp h
  rw [List.take_add_one, run_append]
  simp only [he]

private theorem run_take_succ {k : Value} {rest : List Value} (hk : ks.drop n = k :: rest)
    (h : (run t resolve draws (ks.take n) s).failure = none) :
    run t resolve draws (ks.take (n + 1)) s =
      (run t resolve draws (ks.take n) s).extend
        (turn t resolve draws k (run t resolve draws (ks.take n) s).source) := by
  have hget : ks[n]? = some k := by
    rw [← List.head?_drop, hk]
    rfl
  rw [List.take_add_one, run_append, hget, Option.toList_some]
  simp only [h, Run.extend]
  cases hturn : (turn t resolve draws k (run t resolve draws (ks.take n) s).source).result with
  | error e => simp only [run_cons_error hturn, List.append_nil]
  | ok sample => rw [run_cons_ok hturn]; simp only [run, List.append_nil]

private theorem reached_start {selection : Selection} (hks : selection.keys t = .ok ks) :
    Reached t resolve draws ks s 0 (.start selection s) :=
  ⟨rfl, rfl, hks⟩

private theorem reached_turn {k : Value} {rest : List Value} {done : Run σ} (hk : ks.drop n = k :: rest)
    (hdone : done = run t resolve draws (ks.take n) s) (hfailure : done.failure = none) :
    Reached t resolve draws ks s (n + 1)
      ⟨if (turn t resolve draws k done.source).result.isOk then .ready rest else .over,
        done.extend (turn t resolve draws k done.source)⟩ := by
  subst hdone
  refine ⟨(run_take_succ hk hfailure).symm, ?_⟩
  have hrest : rest = ks.drop (n + 1) := by
    rw [← List.tail_drop, hk]
    rfl
  cases hturn : (turn t resolve draws k (run t resolve draws (ks.take n) s).source).result with
  | error e =>
    refine .inl ?_
    simp only [Run.extend, hturn]
    exact Option.some_ne_none e
  | ok sample =>
    refine ⟨hrest, ?_⟩
    simp only [Run.extend, hturn]

theorem reached_pull {g : Pulled σ} (h : Reached t resolve draws ks s n g) :
    Reached t resolve draws ks s (n + 1) (pull t resolve draws g) := by
  obtain ⟨progress, done⟩ := g
  obtain ⟨hdone, hstanding⟩ := h
  dsimp only at hdone hstanding
  -- Without a key left, the run over the first `n` keys is the run over all of them.
  have hend (hlen : ks.length ≤ n) : done = run t resolve draws (ks.take (n + 1)) s := by
    rw [hdone, List.take_of_length_le hlen, List.take_of_length_le (by omega)]
  unfold pull
  match progress, hstanding with
  | .over, .inl hfailure =>
    refine ⟨?_, .inl hfailure⟩
    subst hdone
    exact (run_take_succ_of_failure hfailure).symm
  | .over, .inr hlen => exact ⟨hend hlen, .inr (by omega)⟩
  | .ready [], ⟨hrest, _⟩ =>
    have hlen := List.drop_eq_nil_iff.mp hrest.symm
    exact ⟨hend hlen, .inr (by omega)⟩
  | .ready (k :: rest), ⟨hrest, hfailure⟩ => exact reached_turn hrest.symm hdone hfailure
  | .fresh selection, ⟨hn, hks⟩ =>
    -- The keys are asked for only now, and the first of them has its turn at once.
    subst hn
    have hfailure : done.failure = none := by rw [hdone]; rfl
    cases ks with
    | nil =>
      simp only [step, hks]
      exact ⟨hend (Nat.le_refl 0), .inr (Nat.zero_le 1)⟩
    | cons k rest =>
      simp only [step, hks]
      exact reached_turn rfl hdone hfailure

theorem reached_pulls {selection : Selection} (hks : selection.keys t = .ok ks) (n : Nat) :
    Reached t resolve draws ks s n (pulls t resolve draws n (.start selection s)) := by
  induction n with
  | zero => exact reached_start hks
  | succ n ih => exact reached_pull ih

/-- A generator is a run from left to right that does nothing early:
* the run over more keys goes on where the run over the first ones has ended, unless that has failed, and then
  the further keys make no difference;
* after `n` pulls exactly the run over the first `n` keys has been done, with its log and its draws;
* each sample belongs to the key at its place, and its version is what the resolver has for the kind of the key;
* a run fails exactly at the first key whose turn fails, and with the failure of that turn, which is another one if it
  says that something has come to its end;
* a generator that is given no source goes on from its first pull as if it had been given the shared one, and fails if
  there can be none. -/
theorem run_is_lazy {selection : Selection} (hks : selection.keys t = .ok ks) (resolve : Resolver)
    (draws : NameSource σ) (js : List Value) (s : σ) :
    ((run t resolve draws ks s).failure = none →
      run t resolve draws (ks ++ js) s =
        ⟨(run t resolve draws ks s).samples ++ (run t resolve draws js (run t resolve draws ks s).source).samples,
          (run t resolve draws js (run t resolve draws ks s).source).failure,
          (run t resolve draws ks s).events ++ (run t resolve draws js (run t resolve draws ks s).source).events,
          (run t resolve draws js (run t resolve draws ks s).source).source⟩) ∧
    ((run t resolve draws ks s).failure ≠ none → run t resolve draws (ks ++ js) s = run t resolve draws ks s) ∧
    (∀ n, (pulls t resolve draws n (.start selection s)).done = run t resolve draws (ks.take n) s) ∧
    (∀ (i : Nat) (sample : Sample), (run t resolve draws ks s).samples[i]? = some sample →
      ∃ key k, ks[i]? = some key ∧ t.lookup key = .ok k ∧ sample.message.apiKey = .ok (.key k) ∧
        resolve (.key k) = .ok sample.version) ∧
    (∀ i, (run t resolve draws ks s).failure ≠ none ∧ (run t resolve draws ks s).samples.length = i ↔
      ∃ e, FirstFails t resolve draws ks s i e) ∧
    (∀ i e, FirstFails t resolve draws ks s i e →
      (e ≠ .ranOut → (run t resolve draws ks s).failure = some e) ∧
        (e = .ranOut → (run t resolve draws ks s).failure = some .ranOutWithin)) ∧
    ∀ {session id g}, g.source = none → g.progress = .fresh selection →
      (∀ {e}, session.sharedPlace = .error e → (Session.pull t session id g).1 = .error e) ∧
        ∀ {i made}, session.sharedPlace = .ok (i, made) →
          Session.pull t session id g = Session.pull t made id { g with source := some i } := by
  refine ⟨?_, ?_, ?_, ?_, ?_, ?_, ?_⟩
  · intro h
    rw [run_append]
    simp only [h]
  · intro h
    obtain ⟨e, he⟩ := Option.ne_none_iff_exists'.mp h
    rw [run_append]
    simp only [he]
  · intro n
    exact (reached_pulls hks n).done
  · intro i sample h
    obtain ⟨key, hkey, hturn, -⟩ := exists_turn_of_getElem? h
    obtain ⟨k, done, hk, hf, hr, hmessage, -⟩ := turn_eq_ok hturn
    refine ⟨key, k, hkey, hk, ?_, hr⟩
    rw [hmessage]
    exact Populator.apiKey_of_run hf
  · intro i
    constructor
    · rintro ⟨h, hlength⟩
      obtain ⟨e, he⟩ := Option.ne_none_iff_exists'.mp h
      obtain ⟨e', hfirst, -⟩ := failure_iff.mp ⟨he, hlength⟩
      exact ⟨e', hfirst⟩
    · rintro ⟨e, hfirst⟩
      obtain ⟨he, hlength⟩ := failure_iff.mpr ⟨e, hfirst, rfl⟩
      exact ⟨by rw [he]; exact Option.some_ne_none _, hlength⟩
  · intro i e hfirst
    rw [(failure_iff.mpr ⟨e, hfirst, rfl⟩).1]
    constructor
    · intro hne
      rw [Failure.escaping_of_ne hne]
    · rintro rfl
      rfl
  · intro session id g hsource hprogress
    refine ⟨?_, ?_⟩
    · intro e he
      simp only [Session.pull, hprogress, hsource, he]
    · intro i made hmade
      simp only [Session.pull, hprogress, hsource, hmade]
      rw [← hprogress]
      rfl

/-- Two requests of one kind are generated before a key that no kind has; the key after it makes no
difference, and the failure is that of the look-up. -/
theorem run_is_lazy_unknown_key :
    let draws : NameSource Nat := ⟨fun n => (.ok (.int n), n + 1), fun n => (.ok (.uuid .zero), n + 1)⟩
    let ks : List Value := [.int 3, .key .metadata, .int 999]
    let first := run .standard (.constant (.int 1)) draws ks 0
    Selection.keys .standard (.listed ks) = .ok ks ∧ first.failure ≠ none ∧
      run .standard (.constant (.int 1)) draws (ks ++ [.int 12]) 0 = first ∧
      (pulls .standard (.constant (.int 1)) draws 2 (.start (.listed ks) 0)).done.source = 4 ∧
      FirstFails .standard (.constant (.int 1)) draws ks 0 2 (.schemaUnknown (.int 999)) ∧
      first.failure = some (.schemaUnknown (.int 999)) := by
  intro draws ks first
  have hks : Selection.keys .standard (.listed ks) = .ok ks := rfl
  obtain ⟨-, hstop, hpulls, -, hends, hfails, -⟩ := run_is_lazy hks (.constant (.int 1)) draws [.int 12] 0
  have hne : first.failure ≠ none := Option.some_ne_none _
  have hfirst : FirstFails .standard (.constant (.int 1)) draws ks 0 2 (.schemaUnknown (.int 999)) := by
    obtain ⟨e, hfirst⟩ := (hends 2).mp ⟨hne, rfl⟩
    obtain ⟨⟨key, hkey, hturn⟩, -⟩ := id hfirst
    cases hkey
    cases hturn.unique (.unknown (e := .schemaUnknown (.int 999)) rfl)
    exact hfirst
  refine ⟨hks, hne, hstop hne, ?_, hfirst, (hfails 2 _ hfirst).1 nofun⟩
  rw [hpulls]
  rfl

/-- That a resolver has come to its end comes out of a run as something else.  And a malformed seed is the failure of a
generator that needs the shared source, although its first key is unknown. -/
theorem failures_beside_keys :
    let draws : NameSource Nat := ⟨fun n => (.ok (.int n), n + 1), fun n => (.ok (.uuid .zero), n + 1)⟩
    let ended : Resolver := fun _ => .error .ranOut
    let seeded : Session := { Session.initial with environment := [(Settings.seedVariable, "abc")] }
    let opened := (seeded.step .standard
      (.openGenerator "g" (.ok (.listed [.int 999])) (.ok (.latest .standard)) none)).2
    FirstFails .standard ended draws [.int 3] 0 0 .ranOut ∧
      (run .standard ended draws [.int 3] 0).failure = some .ranOutWithin ∧
      Tables.standard.lookup (.int 999) = .error (.schemaUnknown (.int 999)) ∧
      (opened.step .standard (.next "g" none)).1 = .error (.malformedSeed "abc") := by
  intro draws ended seeded opened
  refine ⟨⟨⟨.int 3, rfl, .unresolved rfl rfl rfl⟩, ?_⟩, rfl, rfl, rfl⟩
  intro j _ _ hj
  omega

end RequestSamples.Generator
