import Mathlib.Algebra.GroupWithZero.Nat
import RequestSamples.Proofs.Generator.Default
import RequestSamples.Proofs.Generator.Draws

/-!
# Accounting for draws

With the standard tables every kind takes a fixed number of names and then of ids, so what a run draws from a script
follows from its kinds.

* (draws) drawing one thing several times takes the head of what the script has left of it, or runs dry
  (`drawAll_replicate`, `drawAll_of_dry`);
* (turn) a turn takes the share of its kind, leaves the rest, and makes its sample of the share alone
  (`turn_of_meets`); without such a share it fails as the draw that finds nothing (`turn_of_unmet`);
* (run) so the samples are those of the longest prefix whose demand the script can meet, each made of the share behind
  the shares before it (`draws_account`).
-/

namespace RequestSamples

open RequestSamples.Populator (drawAll drawAll_append drawAll_cons FitsBatch)
open RequestSamples.Session (drawFrom)

namespace ApiKey

/-- The number of names that a sample of a kind takes. -/
def nameDemand : ApiKey → Nat
  | .produce | .listOffsets | .metadata | .leaveGroup => 1
  | .offsetFetch | .describeGroups | .consumerGroupDescribe => 2
  | _ => 0

/-- The number of ids that a sample of a kind takes. -/
def idDemand : ApiKey → Nat
  | .metadata | .updateMetadata => 1
  | _ => 0

end ApiKey

/-- In the standard tables the populator of a kind draws its names first and its ids last. -/
private theorem Tables.demand_standard (k : ApiKey) :
    ((standard.registry k).getD .noop).demand =
      List.replicate k.nameDemand .name ++ List.replicate k.idDemand .uuid := by
  cases k <;> rfl

private theorem Tables.fits_standard (k : ApiKey) : ((standard.registry k).getD .noop).fits k.skeleton = .ok () := by
  cases k <;> rfl

/-- The names and the ids that a scripted source has left. -/
structure Names.Script where
  names : List String
  ids : List Uuid

namespace Names.Script

/-- The source that gives what is in the script. -/
def source (s : Script) : Source :=
  .scripted (s.names.map fun n => .ok (.text n)) (s.ids.map fun u => .ok (.uuid u))

/-- What the script has left for draws of a kind. -/
def left (s : Script) : Draw → List Value
  | .name => s.names.map .text
  | .uuid => s.ids.map .uuid

/-- The script without the first so many things for draws of a kind. -/
def drop (s : Script) (d : Draw) (n : Nat) : Script :=
  match d with
  | .name => { s with names := s.names.drop n }
  | .uuid => { s with ids := s.ids.drop n }

/-- All that is in the script, names first. -/
def values (s : Script) : List Value := s.left .name ++ s.left .uuid

/-- The script can meet the demand of these kinds. -/
def Meets (s : Script) (ks : List ApiKey) : Prop :=
  (ks.map ApiKey.nameDemand).sum ≤ s.names.length ∧ (ks.map ApiKey.idDemand).sum ≤ s.ids.length

/-- What is left of the script behind the demand of these kinds. -/
def after (s : Script) (ks : List ApiKey) : Script :=
  ⟨s.names.drop (ks.map ApiKey.nameDemand).sum, s.ids.drop (ks.map ApiKey.idDemand).sum⟩

/-- The first names and the first ids of the script, as many as a kind takes. -/
def share (s : Script) (k : ApiKey) : Script := ⟨s.names.take k.nameDemand, s.ids.take k.idDemand⟩

/-- What runs out first when the script cannot meet the demand of these kinds. -/
def lacking (s : Script) (ks : List ApiKey) : Draw :=
  if s.names.length < (ks.map ApiKey.nameDemand).sum then .name else .uuid

instance (s : Script) (ks : List ApiKey) : Decidable (s.Meets ks) := instDecidableAnd

variable {s : Script} {k : ApiKey} {ks : List ApiKey} {d : Draw} {n : Nat}

theorem textual_source (s : Script) : s.source.Textual := by
  constructor
  · intro v hv
    obtain ⟨n, -, hn⟩ := List.mem_map.mp hv
    exact ⟨n, (Except.ok.inj hn).symm⟩
  · intro v hv
    obtain ⟨u, -, hu⟩ := List.mem_map.mp hv
    exact ⟨u, (Except.ok.inj hu).symm⟩

theorem meets_nil (s : Script) : s.Meets [] := ⟨Nat.zero_le _, Nat.zero_le _⟩

theorem meets_append {js : List ApiKey} : s.Meets (ks ++ js) ↔ s.Meets ks ∧ (s.after ks).Meets js := by
  simp only [Meets, after, List.map_append, List.sum_append, List.length_drop]
  omega

theorem meets_cons : s.Meets (k :: ks) ↔ s.Meets [k] ∧ (s.after [k]).Meets ks := @meets_append s [k] ks

theorem after_cons (s : Script) (k : ApiKey) (ks : List ApiKey) :
    s.after (k :: ks) = (s.after [k]).after ks := by
  simp only [after, List.map_cons, List.map_nil, List.sum_cons, List.sum_nil, List.drop_drop, Nat.add_zero]

theorem lacking_cons (h : s.Meets [k]) (ks : List ApiKey) : s.lacking (k :: ks) = (s.after [k]).lacking ks := by
  have hnames : s.names.length < k.nameDemand + (ks.map ApiKey.nameDemand).sum ↔
      s.names.length - k.nameDemand < (ks.map ApiKey.nameDemand).sum := by
    have hfirst : k.nameDemand + 0 ≤ s.names.length := h.1
    omega
  simp only [lacking, after, List.map_cons, List.map_nil, List.sum_cons, List.sum_nil, List.length_drop,
    Nat.add_zero, hnames]

/-- A share has all that a kind takes, and nothing else. -/
theorem share_share (s : Script) (k : ApiKey) : (s.share k).share k = s.share k := by
  simp only [share, List.take_take, Nat.min_self]

theorem meets_share (h : s.Meets [k]) : (s.share k).Meets [k] := by
  simp only [Meets, share, List.map_cons, List.map_nil, List.sum_cons, List.sum_nil, List.length_take] at h ⊢
  omega

private theorem left_drop (s : Script) (d : Draw) (n : Nat) : (s.drop d n).left d = (s.left d).drop n := by
  cases d <;> exact List.map_drop

theorem drop_drop (s : Script) (d : Draw) (m n : Nat) : (s.drop d m).drop d n = s.drop d (m + n) := by
  cases d <;> simp only [drop, List.drop_drop]

private theorem draw_of_left {v : Value} {vs : List Value} (h : s.left d = v :: vs) :
    (drawFrom Source.draws d).on s.source = (.ok v, (s.drop d 1).source) := by
  obtain ⟨names, ids⟩ := s
  cases d with
  | name =>
    cases names <;> cases h
    rfl
  | uuid =>
    cases ids <;> cases h
    rfl

private theorem draw_of_dry (h : s.left d = []) :
    (drawFrom Source.draws d).on s.source = (.error (.exhausted d), s.source) := by
  obtain ⟨names, ids⟩ := s
  cases d with
  | name =>
    cases names <;> cases h
    rfl
  | uuid =>
    cases ids <;> cases h
    rfl

/-- As much as there is can be drawn. -/
theorem drawAll_replicate (h : n ≤ (s.left d).length) :
    drawAll Source.draws (List.replicate n d) s.source = (.ok ((s.left d).take n), (s.drop d n).source) := by
  induction n generalizing s with
  | zero => cases d <;> rfl
  | succ n ih =>
    obtain ⟨v, vs, hvs⟩ := List.exists_cons_of_length_pos (Nat.lt_of_lt_of_le (Nat.succ_pos n) h)
    have hrest : (s.drop d 1).left d = vs := by rw [left_drop, hvs]; rfl
    rw [hvs, List.length_cons] at h
    rw [List.replicate_succ, drawAll_cons (draw_of_left hvs), ih (by rw [hrest]; omega), drop_drop, hrest, hvs,
      Nat.add_comm 1 n]
    rfl

/-- More cannot be drawn. -/
theorem drawAll_of_dry (h : (s.left d).length < n) (ds : List Draw) :
    ∃ s', drawAll Source.draws (List.replicate n d ++ ds) s.source = (.error (.exhausted d), s') := by
  induction n generalizing s with
  | zero => omega
  | succ n ih =>
    rw [List.replicate_succ, List.cons_append]
    cases hvs : s.left d with
    | nil => exact ⟨_, by rw [drawAll, draw_of_dry hvs]⟩
    | cons v vs =>
      rw [hvs, List.length_cons] at h
      obtain ⟨s', hs'⟩ := ih (s := s.drop d 1) (by rw [left_drop, hvs, List.drop_one, List.tail_cons]; omega)
      exact ⟨s', by rw [drawAll_cons (draw_of_left hvs), hs']; rfl⟩

/-- A populator of the standard tables draws the share of its kind. -/
theorem drawAll_of_meets (h : s.Meets [k]) :
    drawAll Source.draws ((Tables.standard.registry k).getD .noop).demand s.source =
      (.ok (s.share k).values, (s.after [k]).source) := by
  obtain ⟨hnames, hids⟩ := h
  rw [Tables.demand_standard, drawAll_append (drawAll_replicate (by simpa [left] using hnames)),
    drawAll_replicate (by simpa [left, drop] using hids)]
  simp [Except.map, values, share, after, left, drop, List.map_take]

theorem drawAll_of_unmet (h : ¬ s.Meets [k]) :
    ∃ s', drawAll Source.draws ((Tables.standard.registry k).getD .noop).demand s.source =
      (.error (.exhausted (s.lacking [k])), s') := by
  rw [Tables.demand_standard]
  by_cases hnames : s.names.length < k.nameDemand
  · have hlacking : s.lacking [k] = .name := if_pos (by simpa using hnames)
    rw [hlacking]
    exact drawAll_of_dry (by simpa [left] using hnames) _
  · -- The names are there, so the draws go on and it is the ids that run out.
    have hlacking : s.lacking [k] = .uuid := if_neg (by simpa using hnames)
    have hids : s.ids.length < k.idDemand := by
      simp only [Meets, List.map_cons, List.map_nil, List.sum_cons, List.sum_nil] at h
      omega
    obtain ⟨s', hs'⟩ := drawAll_of_dry (s := s.drop .name k.nameDemand) (d := .uuid)
      (by simpa [left, drop] using hids) []
    rw [List.append_nil] at hs'
    rw [hlacking, drawAll_append (drawAll_replicate (by simpa [left] using Nat.not_lt.mp hnames)), hs']
    exact ⟨s', rfl⟩

private theorem forall₂_replicate {α β : Type} {R : α → β → Prop} {a : α} {bs : List β} (h : ∀ b ∈ bs, R a b) :
    List.Forall₂ R (List.replicate bs.length a) bs := by
  induction bs with
  | nil => exact .nil
  | cons b bs ih => exact .cons (h b List.mem_cons_self) (ih fun b hb => h b (List.mem_cons_of_mem _ hb))

/-- A share of names that fit into batches is what a populator needs. -/
theorem supplied_share (h : s.Meets [k]) (hnames : ∀ n ∈ s.names, FitsBatch n) :
    List.Forall₂ Draw.Supplied ((Tables.standard.registry k).getD .noop).demand (s.share k).values := by
  simp only [Meets, List.map_cons, List.map_nil, List.sum_cons, List.sum_nil, Nat.add_zero] at h
  have hfirst : k.nameDemand = ((s.share k).left .name).length := by
    simp only [share, left, List.length_map, List.length_take]
    omega
  have hlast : k.idDemand = ((s.share k).left .uuid).length := by
    simp only [share, left, List.length_map, List.length_take]
    omega
  rw [Tables.demand_standard, hfirst, hlast]
  refine List.rel_append (forall₂_replicate ?_) (forall₂_replicate ?_)
  · intro v hv
    obtain ⟨n, hn, rfl⟩ := List.mem_map.mp hv
    exact ⟨n, rfl, hnames n (List.mem_of_mem_take hn)⟩
  · intro v _
    trivial

end Names.Script

namespace Generator

open Names (Script)

variable {resolve : Resolver} {key version : Value} {k : ApiKey} {s : Script}

/-- The fields of a sample are made of the share of its kind, and the other draws start behind that. -/
theorem turn_of_meets (hk : Tables.standard.lookup key = .ok k) (hversion : resolve (.key k) = .ok version)
    (hnames : ∀ n ∈ s.names, FitsBatch n) (h : s.Meets [k]) :
    ∃ es, ((Tables.standard.registry k).getD .noop).fields (s.share k).values = .ok es ∧
      turn .standard resolve Names.Source.draws key s.source =
        ⟨.ok ⟨Populator.assign es k.skeleton, version⟩, asked .standard k ++ [.generated k version],
          (s.after [k]).source⟩ := by
  obtain ⟨es, hes⟩ := Populator.fields_of_supplied _ (Script.supplied_share h hnames)
  refine ⟨es, hes, ?_⟩
  exact turn_of_sampled hk (Populator.run_of_drawAll (Tables.fits_standard k) (Script.drawAll_of_meets h) hes) hversion

/-- Without a share for its kind a turn fails. -/
theorem turn_of_unmet (resolve : Resolver) (hk : Tables.standard.lookup key = .ok k) (h : ¬ s.Meets [k]) :
    (turn .standard resolve Names.Source.draws key s.source).result = .error (.exhausted (s.lacking [k])) := by
  obtain ⟨s', hs'⟩ := Script.drawAll_of_unmet h
  rw [turn_of_unfilled hk (Populator.run_of_undrawn (Tables.fits_standard k) hs')]
  rfl

/-- The sample of a key is the same from the share of its kind alone. -/
private theorem turn_of_share (hk : Tables.standard.lookup key = .ok k) (hversion : resolve (.key k) = .ok version)
    (hnames : ∀ n ∈ s.names, FitsBatch n) (h : s.Meets [k]) :
    (turn .standard resolve Names.Source.draws key (s.share k).source).result =
      (turn .standard resolve Names.Source.draws key s.source).result := by
  obtain ⟨es, hes, hturn⟩ := turn_of_meets hk hversion hnames h
  obtain ⟨es', hes', hturn'⟩ := turn_of_meets (s := s.share k) hk hversion
    (fun n hn => hnames n (List.mem_of_mem_take hn)) (Script.meets_share h)
  rw [Script.share_share, hes] at hes'
  cases hes'
  rw [hturn, hturn']

variable {keys : List Value} {kinds : List ApiKey}

/-- While the script can meet the demand a run goes on, and takes what its kinds demand. -/
private theorem run_of_meets (hkinds : List.Forall₂ (fun key k => Tables.standard.lookup key = .ok k) keys kinds)
    (hversions : ∀ k ∈ kinds, ∃ version, resolve (.key k) = .ok version) (hnames : ∀ n ∈ s.names, FitsBatch n)
    (h : s.Meets kinds) :
    (run .standard resolve Names.Source.draws keys s.source).failure = none ∧
      (run .standard resolve Names.Source.draws keys s.source).source = (s.after kinds).source := by
  induction hkinds generalizing s with
  | nil => exact ⟨rfl, rfl⟩
  | @cons key k keys kinds hk _ ih =>
    obtain ⟨hfirst, hrest⟩ := Script.meets_cons.mp h
    obtain ⟨version, hversion⟩ := hversions k List.mem_cons_self
    obtain ⟨es, -, hturn⟩ := turn_of_meets hk hversion hnames hfirst
    obtain ⟨hfailure, hsource⟩ := ih (s := s.after [k]) (fun k hk => hversions k (List.mem_cons_of_mem _ hk))
      (fun n hn => hnames n (List.mem_of_mem_drop hn)) hrest
    rw [run_cons_ok (congrArg Turn.result hturn), hturn, Script.after_cons s k kinds]
    exact ⟨hfailure, hsource⟩

/-- A run gives as many samples as the longest prefix has kinds whose demand can be met, and fails behind them for want
of what runs out first. -/
private theorem length_samples_script
    (hkinds : List.Forall₂ (fun key k => Tables.standard.lookup key = .ok k) keys kinds)
    (hversions : ∀ k ∈ kinds, ∃ version, resolve (.key k) = .ok version) (hnames : ∀ n ∈ s.names, FitsBatch n) :
    let r := run .standard resolve Names.Source.draws keys s.source
    (∀ m, m ≤ r.samples.length ↔ m ≤ kinds.length ∧ s.Meets (kinds.take m)) ∧
      r.failure = kinds[r.samples.length]?.map fun _ =>
        .exhausted (s.lacking (kinds.take (r.samples.length + 1))) := by
  induction hkinds generalizing s with
  | nil =>
    refine ⟨?_, rfl⟩
    intro m
    simp [run, Script.meets_nil]
  | @cons key k keys kinds hk _ ih =>
    obtain ⟨version, hversion⟩ := hversions k List.mem_cons_self
    by_cases h : s.Meets [k]
    · obtain ⟨es, -, hturn⟩ := turn_of_meets hk hversion hnames h
      obtain ⟨hlength, hfailure⟩ := ih (s := s.after [k]) (fun k hk => hversions k (List.mem_cons_of_mem _ hk))
        (fun n hn => hnames n (List.mem_of_mem_drop hn))
      rw [run_cons_ok (congrArg Turn.result hturn), hturn]
      refine ⟨?_, ?_⟩
      · intro m
        cases m with
        | zero => simp [Script.meets_nil]
        | succ m =>
          rw [List.take_succ_cons, Script.meets_cons, List.length_cons, List.length_cons, Nat.add_le_add_iff_right,
            Nat.add_le_add_iff_right, hlength m]
          tauto
      · simp only [hfailure, List.length_cons, List.getElem?_cons_succ, List.take_succ_cons, Script.lacking_cons h]
    · rw [run_cons_error (turn_of_unmet resolve hk h)]
      refine ⟨?_, rfl⟩
      intro m
      cases m with
      | zero => simp [Script.meets_nil]
      | succ m =>
        rw [List.take_succ_cons, Script.meets_cons]
        simp [h]

/-- The script at the place of a sample is what is left behind the demand of the kinds before it. -/
private theorem sourceBefore_script (hkinds : List.Forall₂ (fun key k => Tables.standard.lookup key = .ok k) keys kinds)
    (hversions : ∀ k ∈ kinds, ∃ version, resolve (.key k) = .ok version) (hnames : ∀ n ∈ s.names, FitsBatch n)
    {i : Nat} (hi : s.Meets (kinds.take i)) :
    sourceBefore .standard resolve Names.Source.draws keys i s.source = (s.after (kinds.take i)).source :=
  (run_of_meets (List.forall₂_take i hkinds) (fun k hk => hversions k (List.mem_of_mem_take hk)) hnames hi).2

/-- A sample is made of the share of its kind, which stands behind the demand of the kinds before it. -/
private theorem sample_of_script (hkinds : List.Forall₂ (fun key k => Tables.standard.lookup key = .ok k) keys kinds)
    (hversions : ∀ k ∈ kinds, ∃ version, resolve (.key k) = .ok version) (hnames : ∀ n ∈ s.names, FitsBatch n)
    {i : Nat} {sample : Sample}
    (h : (run .standard resolve Names.Source.draws keys s.source).samples[i]? = some sample) :
    ∃ key k, keys[i]? = some key ∧ kinds[i]? = some k ∧ sample.message.apiKey = .ok (.key k) ∧
      resolve (.key k) = .ok sample.version ∧
      Tables.standard.carried sample = ((s.after (kinds.take i)).share k).values ∧
      (turn .standard resolve Names.Source.draws key ((s.after (kinds.take i)).share k).source).result =
        .ok sample := by
  obtain ⟨hlength, -⟩ := length_samples_script hkinds hversions hnames
  obtain ⟨hi, -⟩ := List.getElem?_eq_some_iff.mp h
  obtain ⟨hle, hmeets⟩ := (hlength (i + 1)).mp hi
  obtain ⟨key, hkey, hturn, -⟩ := exists_turn_of_getElem? h
  obtain ⟨k, done, hk, hf, hversion, hmessage, -⟩ := turn_eq_ok hturn
  have hkind : kinds[i]? = some k := by
    have hlookup := (List.forall₂_iff_get.mp hkinds).2 i (List.getElem?_eq_some_iff.mp hkey).1 hle
    rw [List.get_eq_getElem, List.get_eq_getElem, (List.getElem?_eq_some_iff.mp hkey).2, hk] at hlookup
    exact List.getElem?_eq_some_iff.mpr ⟨hle, (Except.ok.inj hlookup).symm⟩
  -- What the prefix up to here demands is what the kinds before demand, and then what this kind does.
  obtain ⟨hbefore, hhere⟩ : s.Meets (kinds.take i) ∧ (s.after (kinds.take i)).Meets [k] := by
    rw [List.take_add_one, hkind] at hmeets
    exact Script.meets_append.mp hmeets
  rw [sourceBefore_script hkinds hversions hnames hbefore] at hturn
  refine ⟨key, k, hkey, hkind, ?_, hversion, ?_, ?_⟩
  · rw [hmessage]
    exact Populator.apiKey_of_run hf
  · obtain ⟨-, hcarried⟩ := drawAll_of_turn (Script.textual_source _) hturn hk
    rw [Script.drawAll_of_meets hhere] at hcarried
    exact (Except.ok.inj (congrArg Prod.fst hcarried)).symm
  · rw [turn_of_share hk hversion (fun n hn => hnames n (List.mem_of_mem_drop hn)) hhere, hturn]

/-- A run over known keys gives the samples of the longest prefix of keys whose demand the script can meet, and then
fails for want of what runs out first, if any key is left.  What a sample carries, in the order of drawing, stands in
the script behind the demand of the kinds before it, and nothing else in the script matters to the sample. -/
theorem draws_account (selection : Selection) (keys : List Value) (kinds : List ApiKey) (resolve : Resolver)
    (s : Script) (hkeys : selection.keys .standard = .ok keys)
    (hkinds : List.Forall₂ (fun key k => Tables.standard.lookup key = .ok k) keys kinds)
    (hversions : ∀ k ∈ kinds, ∃ version, resolve (.key k) = .ok version) (hnames : ∀ n ∈ s.names, FitsBatch n) :
    let r := runAll .standard resolve Names.Source.draws selection s.source
    (∀ m, m ≤ r.samples.length ↔ m ≤ kinds.length ∧ s.Meets (kinds.take m)) ∧
      (r.failure = kinds[r.samples.length]?.map fun _ =>
        .exhausted (s.lacking (kinds.take (r.samples.length + 1)))) ∧
      (r.failure = none → r.source = (s.after kinds).source) ∧
      ∀ i sample, r.samples[i]? = some sample →
        ∃ key k, keys[i]? = some key ∧ kinds[i]? = some k ∧ sample.message.apiKey = .ok (.key k) ∧
          resolve (.key k) = .ok sample.version ∧
          Tables.standard.carried sample = ((s.after (kinds.take i)).share k).values ∧
          (turn .standard resolve Names.Source.draws key ((s.after (kinds.take i)).share k).source).result =
            .ok sample := by
  have hrun : runAll .standard resolve Names.Source.draws selection s.source =
      run .standard resolve Names.Source.draws keys s.source := by
    simp only [runAll, hkeys]
  obtain ⟨hlength, hfailure⟩ := length_samples_script hkinds hversions hnames
  rw [hrun]
  refine ⟨hlength, hfailure, ?_, fun i sample => sample_of_script hkinds hversions hnames⟩
  intro hnone
  rw [hnone, eq_comm, Option.map_eq_none_iff, List.getElem?_eq_none_iff] at hfailure
  obtain ⟨-, hmeets⟩ := (hlength kinds.length).mp hfailure
  rw [List.take_length] at hmeets
  exact (run_of_meets hkinds hversions hnames hmeets).2

/-- With four names and one id the second request of a kind that takes both gets the last name, but no id.  The group
request before it carries the two names behind the first one. -/
theorem draws_account_run_dry :
    let s : Script := ⟨["alpha", "beta", "gamma", "delta"], [.zero]⟩
    let keys : List Value := [.int 3, .key .heartbeat, .int 15, .key .metadata, .key .produce]
    let r := runAll .standard (.latest .standard) Names.Source.draws (.listed keys) s.source
    (∀ n ∈ s.names, FitsBatch n) ∧ r.samples.length = 3 ∧ r.failure = some (.exhausted .uuid) ∧
      r.samples[2]?.map Tables.standard.carried = some [.text "beta", .text "gamma"] := by
  intro s keys r
  have hkinds : List.Forall₂ (fun key k => Tables.standard.lookup key = .ok k) keys
      [.metadata, .heartbeat, .describeGroups, .metadata, .produce] :=
    .cons rfl (.cons rfl (.cons rfl (.cons rfl (.cons rfl .nil))))
  have hversions : ∀ k ∈ [ApiKey.metadata, .heartbeat, .describeGroups, .metadata, .produce],
      ∃ version, Resolver.latest .standard (.key k) = .ok version := by
    simp only [List.forall_mem_cons, List.not_mem_nil, false_implies, implies_true, and_true]
    exact ⟨⟨_, rfl⟩, ⟨_, rfl⟩, ⟨_, rfl⟩, ⟨_, rfl⟩, ⟨_, rfl⟩⟩
  have hnames : ∀ n ∈ s.names, FitsBatch n := by decide +kernel
  obtain ⟨hlength, hfailure, -, hsamples⟩ := draws_account (.listed keys) keys _ _ s rfl hkinds hversions hnames
  have hthree : r.samples.length = 3 := by
    refine Nat.le_antisymm (Nat.le_of_lt_succ (Nat.lt_of_not_le fun h => ?_)) ((hlength 3).mpr (by decide))
    exact absurd ((hlength 4).mp h) (by decide)
  refine ⟨hnames, hthree, ?_, ?_⟩
  · rw [hfailure, hthree]
    rfl
  · have hsample : r.samples[2]? = some r.samples[2] := List.getElem?_eq_getElem _
    obtain ⟨key, k, -, hk, -, -, hcarried, -⟩ := hsamples 2 _ hsample
    rw [hsample, Option.map_some, hcarried]
    cases hk
    rfl

end Generator

end RequestSamples
