import RequestSamples.Proofs.Generator.Turn
import RequestSamples.Proofs.Populator.NameBatch

/-!
# Runs that repeat

A populator sees of its source only what the source gives.  So where two sources give the same to all draws that the
kinds of a run make, the turns end alike and the sources go on alike (`turns_repeat`), and the runs are the same byte
for byte (`runs_repeat`).  With what is known about the batch of a name, a Produce request carries the name that was
drawn for it, at any time (`produce_carries_name`).
-/

namespace RequestSamples

namespace Populator

variable {σ τ : Type} {source : NameSource σ} {source' : NameSource τ} {s : σ} {s' : τ} {wanted : Draw → Prop}

/-- Both sources give the same to draws of these kinds, or fail alike, whatever draws of these kinds come before. -/
def GiveSame (wanted : Draw → Prop) (source : NameSource σ) (source' : NameSource τ) (s : σ) (s' : τ) : Prop :=
  ∀ ds, (∀ d ∈ ds, wanted d) → (drawAll source ds s).1 = (drawAll source' ds s').1

/-- Sources that have given the same go on giving the same. -/
theorem GiveSame.after (h : GiveSame wanted source source' s s') {ds : List Draw} (hds : ∀ d ∈ ds, wanted d)
    {vs : List Value} {r : σ} {r' : τ} (hvs : drawAll source ds s = (.ok vs, r))
    (hvs' : drawAll source' ds s' = (.ok vs, r')) : GiveSame wanted source source' r r' := by
  intro es hes
  have hboth := h (ds ++ es) fun d hd => (List.mem_append.mp hd).elim (hds d) (hes d)
  rw [drawAll_append hvs, drawAll_append hvs'] at hboth
  cases he : (drawAll source es r).1 <;> cases he' : (drawAll source' es r').1 <;> rw [he, he'] at hboth
  · cases hboth
    rfl
  · cases hboth
  · cases hboth
  · exact congrArg _ (List.append_cancel_left (Except.ok.inj hboth))

/-- A populator fails alike with both sources, or sets the same with both, and then they go on alike. -/
private theorem fills_repeat (h : GiveSame wanted source source' s s') {p : Populator} (hp : ∀ d ∈ p.demand, wanted d)
    (v : Value) :
    (∃ e r r', p.run source v s = (.error e, ⟨r, []⟩) ∧ p.run source' v s' = (.error e, ⟨r', []⟩)) ∨
      ∃ es r r', p.run source v s = (.ok (), ⟨r, es⟩) ∧ p.run source' v s' = (.ok (), ⟨r', es⟩) ∧
        GiveSame wanted source source' r r' := by
  cases hfits : p.fits v with
  | error e => exact .inl ⟨e, s, s', by simp only [run, hfits], by simp only [run, hfits]⟩
  | ok u =>
    have hdraws := h p.demand hp
    rcases hvs : drawAll source p.demand s with ⟨e | vs, r⟩ <;>
      rcases hvs' : drawAll source' p.demand s' with ⟨e' | vs', r'⟩ <;> rw [hvs, hvs'] at hdraws <;> cases hdraws
    · exact .inl ⟨e, r, r', run_of_undrawn hfits hvs, run_of_undrawn hfits hvs'⟩
    · cases hes : p.fields vs with
      | error e => exact .inl ⟨e, r, r', run_of_refused hfits hvs hes, run_of_refused hfits hvs' hes⟩
      | ok es =>
        exact .inr ⟨es, r, r', run_of_drawAll hfits hvs hes, run_of_drawAll hfits hvs' hes, h.after hp hvs hvs'⟩

end Populator

namespace Generator

open Populator

variable {σ τ : Type} {t : Tables} {resolve : Resolver} {source : NameSource σ} {source' : NameSource τ} {s : σ}
  {s' : τ} {wanted : Draw → Prop}

/-- The turns of a key end and log alike, and if there is a sample the sources go on alike. -/
theorem turns_repeat (resolve : Resolver) (h : GiveSame wanted source source' s s') {key : Value}
    (hkey : ∀ k, t.lookup key = .ok k → ∀ d ∈ ((t.registry k).getD .noop).demand, wanted d) :
    (turn t resolve source key s).result = (turn t resolve source' key s').result ∧
      (turn t resolve source key s).events = (turn t resolve source' key s').events ∧
      ((turn t resolve source key s).result.isOk = true →
        GiveSame wanted source source' (turn t resolve source key s).source
          (turn t resolve source' key s').source) := by
  cases hk : t.lookup key with
  | error e =>
    rw [turn_of_unknown hk, turn_of_unknown hk]
    exact ⟨rfl, rfl, fun _ => h⟩
  | ok k =>
    obtain ⟨e, r, r', hf, hf'⟩ | ⟨es, r, r', hf, hf', hr⟩ := fills_repeat h (hkey k hk) k.skeleton
    · rw [turn_of_unfilled hk hf, turn_of_unfilled hk hf']
      exact ⟨rfl, rfl, fun hok => nomatch hok⟩
    · cases hversion : resolve (.key k) with
      | error e =>
        rw [turn_of_unresolved hk hf hversion, turn_of_unresolved hk hf' hversion]
        exact ⟨rfl, rfl, fun _ => hr⟩
      | ok version =>
        rw [turn_of_sampled hk hf hversion, turn_of_sampled hk hf' hversion]
        exact ⟨rfl, rfl, fun _ => hr⟩

/-- A run gives the same samples and events with both sources, and fails alike. -/
theorem runs_repeat (resolve : Resolver) (h : GiveSame wanted source source' s s') {ks : List Value}
    (hks : ∀ key ∈ ks, ∀ k, t.lookup key = .ok k → ∀ d ∈ ((t.registry k).getD .noop).demand, wanted d) :
    (run t resolve source ks s).samples = (run t resolve source' ks s').samples ∧
      (run t resolve source ks s).failure = (run t resolve source' ks s').failure ∧
      (run t resolve source ks s).events = (run t resolve source' ks s').events := by
  induction ks generalizing s s' with
  | nil => exact ⟨rfl, rfl, rfl⟩
  | cons key ks ih =>
    obtain ⟨hresult, hevents, hnext⟩ := turns_repeat resolve h (hks key List.mem_cons_self)
    cases hr : (turn t resolve source key s).result with
    | error e =>
      rw [run_cons_error hr, run_cons_error (hresult.symm.trans hr), hevents]
      exact ⟨rfl, rfl, rfl⟩
    | ok sample =>
      obtain ⟨hsamples, hfailure, hlater⟩ := ih (hnext (by rw [hr]; rfl)) fun key hk =>
        hks key (List.mem_cons_of_mem _ hk)
      rw [run_cons_ok hr, run_cons_ok (hresult.symm.trans hr), hevents, hsamples, hfailure, hlater]
      exact ⟨rfl, rfl, rfl⟩

/-- On any Produce request a name that is short enough becomes the value of the only record of the only partition of the
only topic, at base offset and time zero, whatever a clock shows.  Equal batches are of equal names.  And a run repeats
byte for byte with any source that gives the same to the draws that its kinds make. -/
theorem produce_carries_name {σ : Type} (source : NameSource σ) :
    (∀ {s s' : σ} {name : String} (fields extras : Entries), source.name.on s = (.ok (.text name), s') →
      (Bytes.ofText name).length ≤ maxName →
        ∃ bytes writes, produce.run source (.object .produce fields extras) s = (.ok (), ⟨s', writes⟩) ∧
          Publishes (assign writes (.object .produce fields extras)) bytes ∧ HoldsName bytes name ∧
          ∀ clock, nameBatchAt clock (.text name) = .ok (.bytes bytes)) ∧
      (∀ {clock clock' batch : Value} {name name' : String}, nameBatchAt clock (.text name) = .ok batch →
        nameBatchAt clock' (.text name') = .ok batch → name = name') ∧
      ∀ {τ : Type} {source' : NameSource τ} {s : σ} {s' : τ} {wanted : Draw → Prop} (t : Tables) (resolve : Resolver)
        (selection : Selection),
        (∀ keys, selection.keys t = .ok keys → ∀ key ∈ keys, ∀ k, t.lookup key = .ok k →
          ∀ d ∈ ((t.registry k).getD .noop).demand, wanted d) →
        GiveSame wanted source source' s s' →
          let r := runAll t resolve source selection s
          let r' := runAll t resolve source' selection s'
          r.samples = r'.samples ∧ r.failure = r'.failure ∧ r.events = r'.events := by
  refine ⟨?_, ?_, ?_⟩
  · intro s s' name fields extras hdraw hname
    have hfits := fitsBatch_iff.mpr hname
    obtain ⟨writes, hrun, hpublishes⟩ := publishes_of_draw hdraw hfits fields extras
    refine ⟨_, writes, hrun, hpublishes, holdsName_batch hfits, ?_⟩
    intro clock
    rw [nameBatchAt_eq]
    exact nameBatch_of_fitsBatch hfits
  · intro clock clock' batch name name' h h'
    exact name_eq_of_nameBatch (by rw [← h, nameBatchAt_eq]) (by rw [← h', nameBatchAt_eq])
  · intro τ source' s s' wanted t resolve selection hwanted h
    unfold runAll
    cases hkeys : selection.keys t with
    | error e => exact ⟨rfl, rfl, rfl⟩
    | ok keys => exact runs_repeat resolve h (hwanted keys hkeys)

/-- A request with fields of its own gets the name with its umlaut.  Another source that gives this name and then no
more makes the same sample, though its ids are others. -/
theorem produce_carries_name_umlaut :
    let s : Names.Source := .scripted [.ok (.text "zürich")] []
    let other : NameSource Bool :=
      ⟨fun more => (if more then .ok (.text "zürich") else .error (.exhausted .name), false),
        fun more => (.ok (.uuid .zero), more)⟩
    (∃ bytes writes, produce.run Names.Source.draws (.object .produce [("acks", .int 7)] [("note", .null)]) s =
        (.ok (), ⟨.scripted [] [], writes⟩) ∧
      HoldsName bytes "zürich" ∧ nameBatchAt (.int 1700000000) (.text "zürich") = .ok (.bytes bytes)) ∧
      (runAll .standard (.latest .standard) Names.Source.draws (.listed [.int 0, .int 0]) s).samples =
        (runAll .standard (.latest .standard) other (.listed [.int 0, .int 0]) true).samples := by
  intro s other
  obtain ⟨hproduce, -, hrepeats⟩ := produce_carries_name Names.Source.draws
  have hsame : GiveSame (· = .name) Names.Source.draws other s true := by
    intro ds hds
    match ds with
    | [] => rfl
    | [d] =>
      obtain rfl := hds d List.mem_cons_self
      rfl
    | d :: d' :: ds =>
      obtain rfl := hds d List.mem_cons_self
      obtain rfl := hds d' (List.mem_cons_of_mem _ List.mem_cons_self)
      rfl
  refine ⟨?_, ?_⟩
  · obtain ⟨bytes, writes, hrun, -, hholds, hclock⟩ := hproduce (s := s) [("acks", .int 7)] [("note", .null)] rfl
      (by decide +kernel)
    exact ⟨bytes, writes, hrun, hholds, hclock _⟩
  · refine (hrepeats .standard (.latest .standard) (.listed [.int 0, .int 0]) ?_ hsame).1
    rintro keys hkeys
    cases hkeys
    simp only [List.forall_mem_cons, List.not_mem_nil, false_implies, implies_true, and_true, and_self]
    intro k hk d hd
    cases hk
    exact List.mem_singleton.mp hd

end Generator

end RequestSamples
