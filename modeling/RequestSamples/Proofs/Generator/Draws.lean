import RequestSamples.Proofs.Generator.Turn
import RequestSamples.Proofs.Populator.Carried

/-!
# What the turns of a generator draw

The draws of a turn follow each other and account for all that happens to the source (`consecutive_turn`).  If the
turn gives a sample, these draws have given what the sample carries (`drawnInTurn_of_ok`), and all else about the
sample is the same as if the turn had had another source (`outline_eq_of_turns`).
-/

namespace RequestSamples

/-- What does not depend on draws: kind, class and version of a sample, and the sizes of its collections. -/
def Sample.outline (sample : Sample) : Except Failure Value × Family × Value × List Nat :=
  (sample.message.apiKey, sample.message.family, sample.version, sample.message.sizes)

/-- The populator of the kind of a sample. -/
def Tables.populatorOf (t : Tables) (sample : Sample) : Populator :=
  match sample.message.apiKey with
  | .ok (.key k) => (t.registry k).getD .noop
  | _ => .noop

/-- What a sample carries that was drawn for it, in the order of drawing. -/
def Tables.carried (t : Tables) (sample : Sample) : List Value := (t.populatorOf sample).carried sample.message

/-- The draws by which a sample got what it carries. -/
def Tables.history (t : Tables) (sample : Sample) : Populator.History := Populator.givings (t.carried sample)

namespace Populator

variable {σ : Type} {p : Populator} {source : NameSource σ} {k : ApiKey} {s : σ}

/-- The draws that a populator makes for a value. -/
def drawnFor (p : Populator) (source : NameSource σ) (v : Value) (s : σ) : History :=
  match p.fits v with
  | .error _ => []
  | .ok () => made source p.demand s

private theorem consecutive_run (p : Populator) (source : NameSource σ) (v : Value) (s : σ) :
    Consecutive source s (p.drawnFor source v s) (p.run source v s).2.source := by
  have ends := p.run_ends source v s
  have hmade := consecutive_made source p.demand s
  generalize p.run source v s = done at ends
  unfold drawnFor
  cases ends with
  | @misfit shape hp hv =>
    have hfits : p.fits v = .error (.shapeMismatch shape v.typeName) := by
      simp only [fits, hp, hv, Bool.false_eq_true, if_false]
    rw [hfits]
    exact .nil s
  | undrawn hv hd | refused hv hd | filled hv hd =>
    rw [hd] at hmade
    rw [hv]
    exact hmade

/-- A populator that succeeds on a fresh request fits it, and has set the fields made of all that it draws. -/
private theorem run_skeleton_eq_ok {done : Filling σ} (h : p.run source k.skeleton s = (.ok (), done)) :
    p.fits k.skeleton = .ok () ∧ (∀ shape, p.shape? = some shape → k.skeleton = shape.fresh) ∧
      ∃ vs, drawAll source p.demand s = (.ok vs, done.source) ∧ p.fields vs = .ok done.writes := by
  have ends := p.run_ends source k.skeleton s
  rw [h] at ends
  cases ends with
  | filled hv hd he =>
    refine ⟨hv, ?_, _, hd, he⟩
    intro shape hp
    exact (ApiKey.skeleton_eq_fresh (shape?_isRequest hp) (hasShape_of_fits hp hv)).1

end Populator

namespace Generator

open Populator

variable {σ : Type} (t : Tables) (resolve : Resolver) (draws : NameSource σ)

/-- The draws of the turn of a key. -/
def drawnInTurn (key : Value) (s : σ) : History :=
  match t.lookup key with
  | .error _ => []
  | .ok k => ((t.registry k).getD .noop).drawnFor draws k.skeleton s

theorem consecutive_turn (key : Value) (s : σ) :
    Consecutive draws s (drawnInTurn t draws key s) (turn t resolve draws key s).source := by
  have ends := turn_ends t resolve draws key s
  generalize turn t resolve draws key s = now at ends
  unfold drawnInTurn
  cases ends with
  | unknown hk => rw [hk]; exact .nil s
  | @unfilled k _ done hk hf | @unresolved k _ done hk hf | @sampled k _ done hk hf =>
    have hrun := consecutive_run ((t.registry k).getD .noop) draws k.skeleton s
    rw [show ((t.registry k).getD .noop).run draws k.skeleton s = _ from hf] at hrun
    rw [hk]
    exact hrun

variable {t resolve} {key : Value}

/-- What a turn does to make a sample. -/
private theorem sampled_turn {draws : NameSource σ} {s : σ} {sample : Sample}
    (h : (turn t resolve draws key s).result = .ok sample) :
    ∃ k vs es, t.lookup key = .ok k ∧ t.populatorOf sample = (t.registry k).getD .noop ∧
      resolve (.key k) = .ok sample.version ∧ sample.message.apiKey = .ok (.key k) ∧
      ((t.registry k).getD .noop).fits k.skeleton = .ok () ∧
      (∀ shape, ((t.registry k).getD .noop).shape? = some shape → k.skeleton = shape.fresh) ∧
      drawAll draws ((t.registry k).getD .noop).demand s = (.ok vs, (turn t resolve draws key s).source) ∧
      ((t.registry k).getD .noop).fields vs = .ok es ∧ sample.message = assign es k.skeleton := by
  obtain ⟨k, done, hk, hf, hr, hmessage, hsource⟩ := turn_eq_ok h
  obtain ⟨hfits, hfresh, vs, hvs, hes⟩ := run_skeleton_eq_ok hf
  have hkey : sample.message.apiKey = .ok (.key k) := by rw [hmessage]; exact apiKey_of_run hf
  refine ⟨k, vs, done.writes, hk, ?_, hr, hkey, hfits, hfresh, ?_, hes, hmessage⟩
  · rw [Tables.populatorOf, hkey]
  · rw [hsource]
    exact hvs

variable {s s' : Names.Source}

/-- What a sample carries is what has been drawn in its turn, in this order. -/
theorem drawAll_of_turn {sample : Sample} {k : ApiKey} (hs : s.Textual)
    (h : (turn t resolve Names.Source.draws key s).result = .ok sample) (hk : t.lookup key = .ok k) :
    ((t.registry k).getD .noop).fits k.skeleton = .ok () ∧
      drawAll Names.Source.draws ((t.registry k).getD .noop).demand s =
        (.ok (t.carried sample), (turn t resolve Names.Source.draws key s).source) := by
  obtain ⟨_, vs, es, hk', hp, -, -, hfits, hfresh, hvs, hes, hmessage⟩ := sampled_turn h
  cases hk.symm.trans hk'
  have hcarried : ((t.registry k).getD .noop).carried sample.message = vs := by
    cases hshape : ((t.registry k).getD .noop).shape? with
    | none =>
      rw [shape?_eq_none hshape] at hvs ⊢
      exact (List.eq_nil_of_length_eq_zero (length_of_drawAll hvs)).symm
    | some shape =>
      rw [hmessage, hfresh shape hshape]
      exact carried_assign hshape (Names.Source.fits_of_drawAll hs hvs) hes
  rw [Tables.carried, hp, hcarried]
  exact ⟨hfits, hvs⟩

/-- The draws of a turn have given what its sample carries. -/
theorem drawnInTurn_of_ok {sample : Sample} (hs : s.Textual)
    (h : (turn t resolve Names.Source.draws key s).result = .ok sample) :
    drawnInTurn t Names.Source.draws key s = t.history sample := by
  obtain ⟨k, _, hk, -⟩ := turn_eq_ok h
  obtain ⟨hfits, hvs⟩ := drawAll_of_turn hs h hk
  simp only [drawnInTurn, hk, drawnFor, hfits]
  exact Names.Source.made_of_drawAll hs hvs

private theorem sizes_of_ok {sample : Sample} {k : ApiKey} (hs : s.Textual)
    (h : (turn t resolve Names.Source.draws key s).result = .ok sample) (hk : t.lookup key = .ok k) :
    sample.message.sizes =
      if (t.registry k).getD .noop = .noop then k.skeleton.sizes
      else ((t.registry k).getD .noop).filledSizes := by
  obtain ⟨_, vs, es, hk', -, -, -, -, hfresh, hvs, hes, hmessage⟩ := sampled_turn h
  cases hk.symm.trans hk'
  split
  · rename_i hnoop
    rw [hnoop] at hvs hes
    obtain rfl := List.eq_nil_of_length_eq_zero (length_of_drawAll hvs)
    cases hes
    rw [hmessage, assign_nil]
  · rename_i hne
    obtain ⟨shape, hshape⟩ := Option.ne_none_iff_exists'.mp fun hnone => hne (shape?_eq_none hnone)
    rw [hmessage, hfresh shape hshape]
    exact sizes_assign hshape (Names.Source.fits_of_drawAll hs hvs) hes

/-- But for what they carry, the samples of a key are the same whatever the source. -/
theorem outline_eq_of_turns {a b : Sample} (hs : s.Textual) (hs' : s'.Textual)
    (ha : (turn t resolve Names.Source.draws key s).result = .ok a)
    (hb : (turn t resolve Names.Source.draws key s').result = .ok b) : a.outline = b.outline := by
  obtain ⟨k, _, _, hk, -, hra, hka, -, -, -, -, hma⟩ := sampled_turn ha
  obtain ⟨_, _, _, hk', -, hrb, hkb, -, -, -, -, hmb⟩ := sampled_turn hb
  cases hk.symm.trans hk'
  have hversion : a.version = b.version := Except.ok.inj (hra.symm.trans hrb)
  have hfamily : ∀ es, (assign es k.skeleton).family = k.skeleton.family := fun es => by
    cases k.skeleton <;> rfl
  rw [Sample.outline, Sample.outline, hka, hkb, hversion, sizes_of_ok hs ha hk, sizes_of_ok hs' hb hk, hma, hmb,
    hfamily, hfamily]

variable (t) in
/-- The key that has the next turn. -/
def Progress.next? : Progress → Option Value
  | fresh selection =>
    match selection.keys t with
    | .ok (k :: _) => some k
    | _ => none
  | ready ks => ks.head?
  | .over => none

/-- The ways in which a generator can go on, whatever the source. -/
inductive StepEnds (t : Tables) (resolve : Resolver) (draws : NameSource σ) (progress : Progress) :
    (σ → Progress × Option (Turn σ)) → Prop
  /-- There is nothing left to do. -/
  | ended (hk : progress.next? t = none) : StepEnds t resolve draws progress fun _ => (.over, none)
  /-- The selection has no keys to go through. -/
  | refused (hk : progress.next? t = none) (e : Failure) :
    StepEnds t resolve draws progress fun s => (.over, some ⟨.error e, [], s⟩)
  /-- A key has its turn. -/
  | turned {k : Value} (hk : progress.next? t = some k) (rest : List Value) :
    StepEnds t resolve draws progress fun s =>
      (if (turn t resolve draws k s).result.isOk then .ready rest else .over, some (turn t resolve draws k s))

theorem step_ends (t : Tables) (resolve : Resolver) (draws : NameSource σ) (progress : Progress) :
    StepEnds t resolve draws progress (step t resolve draws progress) := by
  cases progress with
  | «over» => exact .ended rfl
  | ready ks =>
    cases ks with
    | nil => exact .ended rfl
    | cons k rest => exact .turned rfl rest
  | fresh selection =>
    have hnext : (Progress.fresh selection).next? t =
        match selection.keys t with
        | .ok (k :: _) => some k
        | _ => none := rfl
    cases hks : selection.keys t with
    | error e =>
      rw [hks] at hnext
      have hstep : step t resolve draws (.fresh selection) = fun s => (.over, some ⟨.error e, [], s⟩) := by
        funext s
        simp only [step, hks]
      rw [hstep]
      exact .refused hnext e
    | ok ks =>
      rw [hks] at hnext
      cases ks with
      | nil =>
        have hstep : step t resolve draws (.fresh selection) = fun _ => (.over, none) := by
          funext s
          simp only [step, hks]
        rw [hstep]
        exact .ended hnext
      | cons k rest =>
        -- The first pull asks for the keys and is then as any other.
        have hstep : step t resolve draws (.fresh selection) = step t resolve draws (.ready (k :: rest)) := by
          funext s
          simp only [step, hks]
        rw [hstep]
        exact .turned hnext rest

/-- The draws of a step. -/
def drawnInStep {σ : Type} (t : Tables) (draws : NameSource σ) (progress : Progress) (s : σ) : History :=
  match progress.next? t with
  | some k => drawnInTurn t draws k s
  | none => []

theorem consecutive_step (t : Tables) (resolve : Resolver) (draws : NameSource σ) (progress : Progress) (s : σ) :
    Consecutive draws s (drawnInStep t draws progress s)
      (((step t resolve draws progress s).2.map (·.source)).getD s) := by
  have ends := step_ends t resolve draws progress
  generalize step t resolve draws progress = f at ends
  unfold drawnInStep
  cases ends with
  | ended hk | refused hk =>
    rw [hk]
    exact .nil s
  | turned hk =>
    rw [hk]
    exact consecutive_turn t resolve draws _ s

theorem drawnInStep_of_ok {progress progress' : Progress} {now : Turn Names.Source} {sample : Sample}
    (hs : s.Textual) (h : step t resolve Names.Source.draws progress s = (progress', some now))
    (hnow : now.result = .ok sample) : drawnInStep t Names.Source.draws progress s = t.history sample := by
  have ends := step_ends t resolve Names.Source.draws progress
  generalize step t resolve Names.Source.draws progress = f at ends h
  unfold drawnInStep
  cases ends with
  | ended => cases h
  | refused => cases h; cases hnow
  | turned hk =>
    rw [hk]
    cases h
    exact drawnInTurn_of_ok hs hnow

end Generator

end RequestSamples
