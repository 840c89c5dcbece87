import RequestSamples.Proofs.Session.Pull

/-!
# What steps do to sources and generators

Of all steps only a few concern sources and generators, and each of these does one thing (`Moves`): it forgets,
makes or uses the shared source, makes a source or uses one through its id, or opens, closes or pulls a generator.
So all places stay places of sources (`wellPlaced_run`), and what happens to a source to which no id leads are the
draws of those who share it (`consecutive_moves`).
-/

namespace RequestSamples.Session

open RequestSamples.Populator (Consecutive History)

/-- The sessions agree on sources and generators. -/
structure Alike (s' s : Session) : Prop where
  sources : s'.sources = s.sources
  sourceIds : s'.sourceIds = s.sourceIds
  shared : s'.shared = s.shared
  generators : s'.generators = s.generators

/-- The draws that a step makes at a place as the shared source or for a generator. -/
def drawnAt (t : Tables) (s : Session) (i : Nat) (st : Step) : History :=
  match st, s.sourceFor i with
  | .sharedDraw d, .ok source =>
    if s.sharedAt = i then [(d, ((drawFrom Names.Source.draws d).on source).1)] else []
  | .next id _, .ok source =>
    match s.generators.lookup id with
    | some g => if s.place g = i then Generator.drawnInStep t Names.Source.draws g.progress source else []
    | none => []
  | _, _ => []

/-- What a step does to sources and generators. -/
inductive Moves (t : Tables) (s : Session) : Step → Session → Prop
  /-- Nothing. -/
  | aside {st : Step} {s' : Session} (h : s'.Alike s) (hdrawn : ∀ i, s.drawnAt t i st = []) : Moves t s st s'
  /-- There is no shared source any more. -/
  | reset : Moves t s .reset { s with shared := none }
  /-- The shared source is looked at. -/
  | shared {st : Step} {i : Nat} {s' : Session} (h : Prepared s i s') (hdrawn : ∀ i, s.drawnAt t i st = []) :
    Moves t s st s'
  /-- A draw is made from the shared source. -/
  | sharedDraw {d : Draw} {i : Nat} {s₁ : Session} (h : Prepared s i s₁) :
    Moves t s (.sharedDraw d) (s₁.drawAt i d).2
  /-- There is one more source. -/
  | makeSource (id : String) (source : Names.Source) :
    Moves t s (.makeSource id source)
      { s with sources := s.sources ++ [source], sourceIds := (id, s.sources.length) :: s.sourceIds }
  /-- A source is used through its id. -/
  | used {st : Step} {s' : Session} {id : String} {i : Nat} {source : Names.Source} (hi : (id, i) ∈ s.sourceIds)
    (h : s'.Alike (s.setSource i source)) (hdrawn : ∀ i, s.drawnAt t i st = []) : Moves t s st s'
  /-- A generator is opened. -/
  | opened {id : String} {selection : Given Selection} {resolver : Given Resolver} {source : Option String}
    {g : Suspended} (hg : ∀ i, g.source = some i → ∃ id, (id, i) ∈ s.sourceIds) :
    Moves t s (.openGenerator id selection resolver source) (s.setGenerator id g)
  /-- A generator is closed. -/
  | closed {id : String} {g : Suspended} (hg : s.generators.lookup id = some g) :
    Moves t s (.close id) (s.setGenerator id { g with progress := .over })
  /-- A generator is pulled. -/
  | pulled {id : String} {into : Option String} {g : Suspended} {s' : Session}
    (hg : s.generators.lookup id = some g) (h : s'.Alike (pull t s id g).2) : Moves t s (.next id into) s'

variable {t : Tables} {s s' s₁ : Session} {st : Step} {i j : Nat} {id : String} {g : Suspended}

theorem Alike.refl (s : Session) : s.Alike s := ⟨rfl, rfl, rfl, rfl⟩

private theorem alike_changed {r : Except Failure Session} (h : ∀ s', r = .ok s' → s'.Alike s) :
    (s.changed r).2.Alike s := by
  cases r with
  | error e => exact .refl s
  | ok s' => exact h s' rfl

private theorem alike_stored (r : Except Failure Store) : (s.stored r).2.Alike s := by
  cases r <;> exact ⟨rfl, rfl, rfl, rfl⟩

/-- Keeping the message of a sample is aside. -/
theorem alike_next (into : Option String) (hg : s.generators.lookup id = some g) :
    (s.step t (.next id into)).2.Alike (pull t s id g).2 := by
  have hgenerator := generator_of_lookup hg
  simp only [step, hgenerator]
  rcases pull t s id g with ⟨e | _ | sample, s'⟩
  · exact .refl s'
  · exact .refl s'
  · cases into <;> exact ⟨rfl, rfl, rfl, rfl⟩

private theorem drawnAt_unmade {e : Failure} {d : Draw} (h : s.sharedPlace = .error e) :
    s.drawnAt t i (.sharedDraw d) = [] := by
  unfold drawnAt
  split
  · rename_i heq hfor
    cases heq
    split
    · rename_i hi
      subst hi
      rw [sourceFor_sharedAt_of_error h] at hfor
      cases hfor
    · rfl
  · rename_i heq _
    cases heq
  · rfl

private theorem moves_setEnvironment (t : Tables) (s : Session) (name : String) (text : Value) :
    Moves t s (.setEnvironment name text) (s.step t (.setEnvironment name text)).2 := by
  refine .aside (alike_changed ?_) fun i => rfl
  intro s' h
  cases henv : s.environment.set name text with
  | error e => rw [henv] at h; cases h
  | ok env => rw [henv] at h; cases h; exact ⟨rfl, rfl, rfl, rfl⟩

private theorem moves_sharedSeed (t : Tables) (s : Session) :
    Moves t s .sharedSeed (s.step t .sharedSeed).2 := by
  cases h : s.sharedPlace with
  | error e =>
    simp only [step, h]
    exact .aside (.refl s) fun i => rfl
  | ok p =>
    simp only [step, h]
    split <;> exact .shared (sharedPlace_eq_ok.mp h) fun i => rfl

private theorem moves_sharedIsSame (t : Tables) (s : Session) :
    Moves t s .sharedIsSame (s.step t .sharedIsSame).2 := by
  cases h : s.sharedPlace with
  | error e =>
    simp only [step, h]
    exact .aside (.refl s) fun i => rfl
  | ok p =>
    simp only [step, h]
    exact .shared (sharedPlace_eq_ok.mp h) fun i => rfl

private theorem moves_sharedDraw (t : Tables) (s : Session) (d : Draw) :
    Moves t s (.sharedDraw d) (s.step t (.sharedDraw d)).2 := by
  cases h : s.sharedPlace with
  | error e =>
    simp only [step, h]
    exact .aside (.refl s) fun i => drawnAt_unmade h
  | ok p =>
    simp only [step, h]
    exact .sharedDraw (sharedPlace_eq_ok.mp h)

private theorem moves_populate (t : Tables) (s : Session) (id : String) (key : Given Value) (source : String) :
    Moves t s (.populate id key source) (s.step t (.populate id key source)).2 := by
  simp only [step]
  split
  · exact .aside (.refl s) fun i => rfl
  · rename_i h
    obtain ⟨k, -, h⟩ := Except.bind_eq_ok.mp h
    obtain ⟨p, -, h⟩ := Except.bind_eq_ok.mp h
    obtain ⟨item, -, h⟩ := Except.bind_eq_ok.mp h
    obtain ⟨i, hi, h⟩ := Except.bind_eq_ok.mp h
    cases h
    exact .used (sourcePlace_eq_ok hi) ⟨rfl, rfl, rfl, rfl⟩ fun i => rfl

/-- The source that a generator is opened with is found by its id; without one it has no place yet. -/
private theorem moves_openGenerator (t : Tables) (s : Session) (id : String) (selection : Given Selection)
    (resolver : Given Resolver) (source : Option String) :
    Moves t s (.openGenerator id selection resolver source)
      (s.step t (.openGenerator id selection resolver source)).2 := by
  simp only [step, changed]
  split
  · rename_i h
    obtain ⟨place, hplace, h⟩ := Except.bind_eq_ok.mp h
    obtain ⟨resolve, -, h⟩ := Except.bind_eq_ok.mp h
    obtain ⟨sel, -, h⟩ := Except.bind_eq_ok.mp h
    cases h
    refine .opened ?_
    rintro i rfl
    cases source with
    | none => cases hplace
    | some id' =>
      obtain ⟨i', hi', hplace⟩ := Except.bind_eq_ok.mp hplace
      cases hplace
      exact ⟨id', sourcePlace_eq_ok hi'⟩
  · exact .aside (.refl s) fun i => rfl

private theorem drawnAt_next_unknown {into : Option String} (hg : s.generators.lookup id = none) :
    s.drawnAt t i (.next id into) = [] := by
  unfold drawnAt
  split
  · rename_i heq _
    cases heq
  · rename_i heq _
    cases heq
    rw [hg]
  · rfl

private theorem moves_next (t : Tables) (s : Session) (id : String) (into : Option String) :
    Moves t s (.next id into) (s.step t (.next id into)).2 := by
  cases hg : s.generators.lookup id with
  | none =>
    simp only [step, generator, hg]
    exact .aside (.refl s) fun i => drawnAt_next_unknown hg
  | some g => exact .pulled hg (alike_next _ hg)

private theorem moves_close (t : Tables) (s : Session) (id : String) :
    Moves t s (.close id) (s.step t (.close id)).2 := by
  cases hg : s.generators.lookup id with
  | none =>
    simp only [step, generator, hg]
    exact .aside (.refl s) fun i => rfl
  | some g =>
    simp only [step, generator, hg]
    exact .closed hg

theorem step_moves (t : Tables) (s : Session) (st : Step) : Moves t s st (s.step t st).2 := by
  cases st with
  | setEnvironment name text => exact moves_setEnvironment t s name text
  | reset => exact .reset
  | sharedSeed => exact moves_sharedSeed t s
  | sharedIsSame => exact moves_sharedIsSame t s
  | sharedDraw d => exact moves_sharedDraw t s d
  | makeSource id source => exact .makeSource id source
  | setSuffixDigits id | draw id | left id =>
    cases h : s.sourcePlace id with
    | error e =>
      simp only [step, h]
      exact .aside (.refl s) fun i => rfl
    | ok i =>
      simp only [step, h]
      exact .used (sourcePlace_eq_ok h) (.refl _) fun i => rfl
  | populate id key source => exact moves_populate t s id key source
  | openGenerator id selection resolver source => exact moves_openGenerator t s id selection resolver source
  | next id into => exact moves_next t s id into
  | close id => exact moves_close t s id
  | «show» | setUpLog =>
    simp only [step]
    split <;> exact .aside ⟨rfl, rfl, rfl, rfl⟩ fun i => rfl
  | makeSkeleton | makeMessage | set | append | share => exact .aside (alike_stored _) fun i => rfl
  | seed | equal | addHandler | takeLines => exact .aside ⟨rfl, rfl, rfl, rfl⟩ fun i => rfl

theorem Alike.wellPlaced (h : s'.Alike s) (hs : s.WellPlaced) : s'.WellPlaced := by
  constructor
  · rw [h.shared, h.sources]; exact hs.shared
  · rw [h.sourceIds, h.sources]; exact hs.ids
  · rw [h.generators, h.sources]; exact hs.generators

theorem Moves.wellPlaced (h : Moves t s st s') (hs : s.WellPlaced) : s'.WellPlaced := by
  cases h with
  | aside h => exact h.wellPlaced hs
  | reset => exact ⟨(by intro i hi; cases hi), hs.ids, hs.generators⟩
  | shared h => exact (h.wellPlaced hs).1
  | sharedDraw h => exact (h.wellPlaced hs).1.setSource _ _
  | makeSource id source =>
    have hlength : (s.sources ++ [source]).length = s.sources.length + 1 := List.length_append
    refine ⟨?_, ?_, ?_⟩
    · intro i hi
      exact hlength ▸ Nat.lt_succ_of_lt (hs.shared i hi)
    · intro e he
      rcases List.mem_cons.mp he with rfl | he
      · exact hlength ▸ Nat.lt_succ_self _
      · exact hlength ▸ Nat.lt_succ_of_lt (hs.ids e he)
    · intro e he i hi
      exact hlength ▸ Nat.lt_succ_of_lt (hs.generators e he i hi)
  | used _ h => exact h.wellPlaced (hs.setSource _ _)
  | opened hg =>
    refine hs.setGenerator ?_
    intro i hi
    obtain ⟨id, hid⟩ := hg i hi
    exact hs.ids _ hid
  | closed hg => exact hs.setGenerator fun i hi => hs.lookup hg hi
  | pulled hg h => exact h.wellPlaced (moved_pull hs hg).2.wellPlaced

theorem wellPlaced_run (t : Tables) (sts : List Step) : (initial.run t sts).2.WellPlaced :=
  run_preserves (fun s st hs => (step_moves t s st).wellPlaced hs) wellPlaced_initial sts

/-- There is a source at the place, and no id leads to it. -/
structure Apart (s : Session) (i : Nat) : Prop where
  lt : i < s.sources.length
  ids : ∀ id, (id, i) ∉ s.sourceIds

theorem Alike.sourceAt (h : s'.Alike s) : s'.sourceAt i = s.sourceAt i := by
  rw [Session.sourceAt, Session.sourceAt, h.sources]

theorem Alike.apart (h : s'.Alike s) (hi : s.Apart i) : s'.Apart i :=
  ⟨by rw [h.sources]; exact hi.lt, by rw [h.sourceIds]; exact hi.ids⟩

theorem Apart.setSource (hi : s.Apart i) (j : Nat) (source : Names.Source) : (s.setSource j source).Apart i :=
  ⟨by rw [Session.setSource, List.length_set]; exact hi.lt, hi.ids⟩

theorem Prepared.apart (h : Prepared s j s') (hi : s.Apart i) : s'.Apart i :=
  ⟨Nat.lt_of_lt_of_le hi.lt h.length_le, by rw [h.sourceIds_eq]; exact hi.ids⟩

end RequestSamples.Session
