import RequestSamples.Proofs.Populator.Filled

/-!
# Turns of a generator

The turn of a key looks it up, fills the fresh request of its kind and asks for the version, in this order.
It fails with what comes out of the first of these that fails (`turn_eq_error`), and otherwise its sample is the
filled request with that version (`turn_eq_ok`).  In a run each sample comes from the turn of the key at its
place (`exists_turn_of_getElem?`), and the run fails at the first key whose turn fails (`failure_iff`).
-/

namespace RequestSamples.Generator

variable {σ : Type} (t : Tables) (resolve : Resolver) (draws : NameSource σ)

/-- How the populator of a kind ends on the fresh request. -/
def filling (k : ApiKey) (s : σ) : Except Failure Unit × Populator.Filling σ :=
  ((t.registry k).getD .noop).run draws k.skeleton s

variable {t draws} in
/-- A request that the populator does not fit is not filled. -/
theorem filling_of_misfit {k : ApiKey} {e : Failure} {s : σ}
    (h : ((t.registry k).getD .noop).fits k.skeleton = .error e) : filling t draws k s = (.error e, ⟨s, []⟩) := by
  simp only [filling, Populator.run, h]

/-- What a turn logs about its kind before the request is filled. -/
def asked (k : ApiKey) : List Log.Event := if t.excluded k then [.onRequest k] else []

/-- The ways in which the turn of a key can end. -/
inductive TurnEnds (key : Value) (s : σ) : Turn σ → Prop
  /-- The key is unknown. -/
  | unknown {e : Failure} (hk : t.lookup key = .error e) : TurnEnds key s ⟨.error e.escaping, [], s⟩
  /-- The request has not been filled. -/
  | unfilled {k : ApiKey} {e : Failure} {done : Populator.Filling σ} (hk : t.lookup key = .ok k)
    (hf : filling t draws k s = (.error e, done)) : TurnEnds key s ⟨.error e.escaping, asked t k, done.source⟩
  /-- There is no version for the kind. -/
  | unresolved {k : ApiKey} {e : Failure} {done : Populator.Filling σ} (hk : t.lookup key = .ok k)
    (hf : filling t draws k s = (.ok (), done)) (hr : resolve (.key k) = .error e) :
    TurnEnds key s ⟨.error e.escaping, asked t k, done.source⟩
  /-- There is a sample. -/
  | sampled {k : ApiKey} {version : Value} {done : Populator.Filling σ} (hk : t.lookup key = .ok k)
    (hf : filling t draws k s = (.ok (), done)) (hr : resolve (.key k) = .ok version) :
    TurnEnds key s ⟨.ok ⟨Populator.assign done.writes k.skeleton, version⟩,
      asked t k ++ [.generated k version], done.source⟩

theorem turn_ends (key : Value) (s : σ) : TurnEnds t resolve draws key s (turn t resolve draws key s) := by
  unfold turn
  cases hk : t.lookup key with
  | error e => exact .unknown hk
  | ok k =>
    dsimp only
    rcases hf : ((t.registry k).getD .noop).run draws k.skeleton s with ⟨e | u, done⟩
    · exact .unfilled hk hf
    · dsimp only
      cases hr : resolve (.key k) with
      | error e => exact .unresolved hk hf hr
      | ok version => exact .sampled hk hf hr

/-- The turn of a key fails: the key is unknown, or else its request is not filled, or else there is no version
for it. -/
inductive Fails (key : Value) (s : σ) (e : Failure) : Prop
  | unknown (hk : t.lookup key = .error e)
  | unfilled {k : ApiKey} (hk : t.lookup key = .ok k) (hf : (filling t draws k s).1 = .error e)
  | unresolved {k : ApiKey} (hk : t.lookup key = .ok k) (hf : (filling t draws k s).1 = .ok ())
    (hr : resolve (.key k) = .error e)

variable {t resolve draws} {key : Value} {s : σ}

section

variable {k : ApiKey} {e : Failure} {version : Value} {done : Populator.Filling σ}

theorem turn_of_unknown (hk : t.lookup key = .error e) :
    turn t resolve draws key s = ⟨.error e.escaping, [], s⟩ := by
  simp only [turn, hk]

theorem turn_of_unfilled (hk : t.lookup key = .ok k) (hf : filling t draws k s = (.error e, done)) :
    turn t resolve draws key s = ⟨.error e.escaping, asked t k, done.source⟩ := by
  rw [filling] at hf
  simp only [turn, hk, hf, asked]

theorem turn_of_unresolved (hk : t.lookup key = .ok k) (hf : filling t draws k s = (.ok (), done))
    (hr : resolve (.key k) = .error e) : turn t resolve draws key s = ⟨.error e.escaping, asked t k, done.source⟩ := by
  rw [filling] at hf
  simp only [turn, hk, hf, hr, asked]

theorem turn_of_sampled (hk : t.lookup key = .ok k) (hf : filling t draws k s = (.ok (), done))
    (hr : resolve (.key k) = .ok version) :
    turn t resolve draws key s = ⟨.ok ⟨Populator.assign done.writes k.skeleton, version⟩,
      asked t k ++ [.generated k version], done.source⟩ := by
  rw [filling] at hf
  simp only [turn, hk, hf, hr, asked]

end

/-- A turn fails in one way only. -/
theorem Fails.unique {e e' : Failure} (h : Fails t resolve draws key s e) (h' : Fails t resolve draws key s e') :
    e = e' := by
  -- What fails first excludes all other ways in which the turn can fail.
  cases h with
  | unknown hk =>
    cases h' with
    | unknown hk' => exact Except.error.inj (hk.symm.trans hk')
    | unfilled hk' | unresolved hk' => cases hk.symm.trans hk'
  | unfilled hk hf =>
    cases h' with
    | unknown hk' => cases hk.symm.trans hk'
    | unfilled hk' hf' =>
      cases hk.symm.trans hk'
      exact Except.error.inj (hf.symm.trans hf')
    | unresolved hk' hf' =>
      cases hk.symm.trans hk'
      cases hf.symm.trans hf'
  | unresolved hk hf hr =>
    cases h' with
    | unknown hk' => cases hk.symm.trans hk'
    | unfilled hk' hf' =>
      cases hk.symm.trans hk'
      cases hf.symm.trans hf'
    | unresolved hk' hf' hr' =>
      cases hk.symm.trans hk'
      exact Except.error.inj (hr.symm.trans hr')

/-- What fails first in a turn is what the turn fails with, as it comes out of the generator. -/
theorem Fails.turn {e : Failure} (h : Fails t resolve draws key s e) :
    (turn t resolve draws key s).result = .error e.escaping := by
  cases h with
  | unknown hk => rw [turn_of_unknown hk]
  | unfilled hk hf => rw [turn_of_unfilled hk (Prod.ext hf rfl)]
  | unresolved hk hf hr => rw [turn_of_unresolved hk (Prod.ext hf rfl) hr]

/-- A turn fails as the first thing that fails in it. -/
theorem turn_eq_error {e : Failure} :
    (turn t resolve draws key s).result = .error e ↔ ∃ e', Fails t resolve draws key s e' ∧ e'.escaping = e := by
  constructor
  · intro h
    have ends := turn_ends t resolve draws key s
    generalize Generator.turn t resolve draws key s = now at ends h
    cases ends with
    | unknown hk => exact ⟨_, .unknown hk, Except.error.inj h⟩
    | unfilled hk hf => exact ⟨_, .unfilled hk (by rw [hf]), Except.error.inj h⟩
    | unresolved hk hf hr => exact ⟨_, .unresolved hk (by rw [hf]) hr, Except.error.inj h⟩
    | sampled => cases h
  · rintro ⟨e', hfails, rfl⟩
    exact hfails.turn

/-- The sample of a turn is the filled request of its key, with the version of the resolver. -/
theorem turn_eq_ok {sample : Sample} (h : (turn t resolve draws key s).result = .ok sample) :
    ∃ k done, t.lookup key = .ok k ∧ filling t draws k s = (.ok (), done) ∧
      resolve (.key k) = .ok sample.version ∧ sample.message = Populator.assign done.writes k.skeleton ∧
      (turn t resolve draws key s).source = done.source := by
  have ends := turn_ends t resolve draws key s
  generalize turn t resolve draws key s = now at ends h
  cases ends with
  | unknown | unfilled | unresolved => cases h
  | sampled hk hf hr => cases h; exact ⟨_, _, hk, hf, hr, rfl, rfl⟩

section

variable {k : Value} {ks : List Value}

theorem run_cons_error {e : Failure} (h : (turn t resolve draws k s).result = .error e) :
    run t resolve draws (k :: ks) s =
      ⟨[], some e, (turn t resolve draws k s).events, (turn t resolve draws k s).source⟩ := by
  simp only [run, h]

theorem run_cons_ok {sample : Sample} (h : (turn t resolve draws k s).result = .ok sample) :
    run t resolve draws (k :: ks) s =
      ⟨sample :: (run t resolve draws ks (turn t resolve draws k s).source).samples,
        (run t resolve draws ks (turn t resolve draws k s).source).failure,
        (turn t resolve draws k s).events ++
          (run t resolve draws ks (turn t resolve draws k s).source).events,
        (run t resolve draws ks (turn t resolve draws k s).source).source⟩ := by
  simp only [run, h]

variable (t resolve draws) in
/-- The source as it is when the turn of the key at a place comes. -/
def sourceBefore (ks : List Value) (i : Nat) (s : σ) : σ := (run t resolve draws (ks.take i) s).source

private theorem sourceBefore_cons {sample : Sample} (h : (turn t resolve draws k s).result = .ok sample) (i : Nat) :
    sourceBefore t resolve draws (k :: ks) (i + 1) s =
      sourceBefore t resolve draws ks i (turn t resolve draws k s).source := by
  simp only [sourceBefore, List.take_succ_cons, run_cons_ok h]

/-- The sample at a place comes from the turn of the key at that place. -/
theorem exists_turn_of_getElem? {i : Nat} {sample : Sample}
    (h : (run t resolve draws ks s).samples[i]? = some sample) :
    ∃ key, ks[i]? = some key ∧
      (turn t resolve draws key (sourceBefore t resolve draws ks i s)).result = .ok sample ∧
      (turn t resolve draws key (sourceBefore t resolve draws ks i s)).source =
        sourceBefore t resolve draws ks (i + 1) s := by
  induction ks generalizing s i with
  | nil => cases h
  | cons k ks ih =>
    cases hk : (turn t resolve draws k s).result with
    | error e => rw [run_cons_error hk] at h; cases h
    | ok first =>
      rw [run_cons_ok hk] at h
      cases i with
      | zero =>
        cases h
        exact ⟨k, rfl, hk, by rw [sourceBefore_cons hk]; rfl⟩
      | succ i =>
        rw [sourceBefore_cons hk, sourceBefore_cons hk]
        exact ih h

end

variable (t resolve draws) in
/-- The key at a place is the first one whose turn fails, and this is how. -/
def FirstFails (ks : List Value) (s : σ) (i : Nat) (e : Failure) : Prop :=
  (∃ key, ks[i]? = some key ∧ Fails t resolve draws key (sourceBefore t resolve draws ks i s) e) ∧
    ∀ j key e', j < i → ks[j]? = some key → ¬ Fails t resolve draws key (sourceBefore t resolve draws ks j s) e'

private theorem firstFails_zero {k : Value} {ks : List Value} {e : Failure} :
    FirstFails t resolve draws (k :: ks) s 0 e ↔ Fails t resolve draws k s e := by
  constructor
  · rintro ⟨⟨key, hkey, h⟩, -⟩
    cases hkey
    exact h
  · intro h
    refine ⟨⟨k, rfl, h⟩, ?_⟩
    intro j _ _ hj
    omega

private theorem firstFails_succ {k : Value} {ks : List Value} {i : Nat} {e : Failure} :
    FirstFails t resolve draws (k :: ks) s (i + 1) e ↔
      (∃ sample, (turn t resolve draws k s).result = .ok sample) ∧
        FirstFails t resolve draws ks (turn t resolve draws k s).source i e := by
  cases hk : (turn t resolve draws k s).result with
  | error e' =>
    -- The first key fails already, so no later one is the first to fail.
    constructor
    · rintro ⟨-, h⟩
      obtain ⟨e'', hfails, -⟩ := turn_eq_error.mp hk
      exact absurd hfails (h 0 k e'' (by omega) rfl)
    · rintro ⟨⟨_, h⟩, -⟩
      cases h
  | ok sample =>
    simp only [FirstFails, sourceBefore_cons hk, List.getElem?_cons_succ]
    constructor
    · rintro ⟨hi, h⟩
      refine ⟨⟨sample, rfl⟩, hi, ?_⟩
      intro j key e' hj hkey hfail
      refine h (j + 1) key e' (by omega) hkey ?_
      rw [sourceBefore_cons hk]
      exact hfail
    · rintro ⟨-, hi, h⟩
      refine ⟨hi, ?_⟩
      intro j key e' hj hkey
      cases j with
      | zero =>
        cases hkey
        intro hfail
        exact absurd (hk.symm.trans hfail.turn) (by intro h; cases h)
      | succ j =>
        rw [sourceBefore_cons hk]
        exact h j key e' (by omega) hkey

/-- A run that has given `i` samples has failed exactly if the key at place `i` is the first one to fail, and then with
what comes out of that. -/
theorem failure_iff {ks : List Value} {i : Nat} {e : Failure} :
    (run t resolve draws ks s).failure = some e ∧ (run t resolve draws ks s).samples.length = i ↔
      ∃ e', FirstFails t resolve draws ks s i e' ∧ e'.escaping = e := by
  induction ks generalizing s i with
  | nil =>
    constructor
    · rintro ⟨h, -⟩; cases h
    · rintro ⟨_, ⟨⟨_, h, -⟩, -⟩, -⟩; cases h
  | cons k ks ih =>
    cases i with
    | zero =>
      simp only [firstFails_zero, ← turn_eq_error]
      cases hk : (turn t resolve draws k s).result with
      | error e' => simp [run_cons_error hk]
      | ok sample => simp [run_cons_ok hk]
    | succ i =>
      simp only [firstFails_succ, and_assoc]
      cases hk : (turn t resolve draws k s).result with
      | error e' => simp [run_cons_error hk]
      | ok sample => simp [run_cons_ok hk, ← ih]

end RequestSamples.Generator
