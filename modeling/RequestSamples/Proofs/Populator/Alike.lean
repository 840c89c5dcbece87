import RequestSamples.Proofs.Batch.Twins
import RequestSamples.Proofs.Populator.Carried
import RequestSamples.Proofs.Populator.Supply

/-!
# Requests filled from different sources

Two sources are alike if they never fail and give names of equal lengths when the same has been drawn from both
(`Alike`).  What is drawn for a request goes into a few fields only, which its shapes name (`Shape.drawn`).  But for
these fields, requests that one populator has filled from alike sources are equal, and their batches differ only in
the checksum and in the value of the only record (`assign_twins`).
-/

namespace RequestSamples

/-- The fields of a shape that take what is drawn, or a batch made of it. -/
def Shape.drawn : Shape → List String
  | .partitionProduceData => ["records"]
  | .listOffsetsTopic | .offsetFetchRequestTopic => ["name"]
  | .metadataRequestTopic => ["name", "topic_id"]
  | .updateMetadataTopicState => ["topic_id"]
  | .offsetFetch => ["group_id"]
  | .memberIdentity => ["member_id"]
  | _ => []

/-- The fields of a shape that hold lists of what is drawn. -/
def Shape.drawnItems : Shape → List String
  | .describeGroups => ["groups"]
  | .consumerGroupDescribe => ["group_ids"]
  | _ => []

namespace Value

/-- The list with nothing in place of each item. -/
def blankItems : Value → Value
  | list vs => list (vs.map fun _ => null)
  | v => v

mutual

/-- The value with nothing in place of all that is drawn for it. -/
def blanked : Value → Value
  | list vs => list (blankedItems vs)
  | tuple vs => tuple (blankedItems vs)
  | dict es => dict (blankedEntries [] [] es)
  | object s es xs => object s (blankedEntries s.drawn s.drawnItems es) xs
  | v => v
termination_by structural v => v

/-- The items with nothing in place of what is drawn for them. -/
def blankedItems : List Value → List Value
  | [] => []
  | v :: vs => blanked v :: blankedItems vs
termination_by structural vs => vs

/-- The entries with nothing in place of what is drawn for them, or for their items. -/
def blankedEntries (drawn items : List String) : List (String × Value) → List (String × Value)
  | [] => []
  | (n, v) :: es =>
    (n, if drawn.contains n then null else if items.contains n then blankItems v else blanked v) ::
      blankedEntries drawn items es
termination_by structural es => es

end

/-- What the partitions of a request hold as their records. -/
def partitionRecords (v : Value) : List Value :=
  (v.itemsAt "topic_data").flatMap fun topic => (topic.itemsAt "partition_data").flatMap (·.partAt "records")

end Value

open Populator

/-- What a draw gives from two sources: names of equal lengths that go into batches, or any ids. -/
def Draw.Twins : Draw → Value → Value → Prop
  | .name, v, v' => ∃ name name', v = .text name ∧ v' = .text name' ∧
    (Bytes.ofText name).length = (Bytes.ofText name').length ∧ FitsBatch name ∧ FitsBatch name'
  | .uuid, _, _ => True

/-- What draws give from two sources. -/
inductive Draw.AllTwins : List Draw → List Value → List Value → Prop
  | nil : AllTwins [] [] []
  | cons {d : Draw} {ds : List Draw} {v v' : Value} {vs vs' : List Value} (first : d.Twins v v')
    (rest : AllTwins ds vs vs') : AllTwins (d :: ds) (v :: vs) (v' :: vs')

/-- What a field or an item holds in two batches that are twins. -/
def Value.BatchTwins (v w : Value) : Prop := ∃ bs cs, v = .bytes bs ∧ w = .bytes cs ∧ Batch.Twins bs cs

namespace Populator

open RequestSamples.Session (drawFrom)

variable {σ τ : Type} {source : NameSource σ} {source' : NameSource τ} {s : σ} {s' : τ}

/-- Both sources never fail, and after the same draws from both they give names of the same length. -/
structure Alike (source : NameSource σ) (source' : NameSource τ) (s : σ) (s' : τ) : Prop where
  first : Supplies source s
  second : Supplies source' s'
  lengths : ∀ ds name name', (source.name.on (Populator.drawAll source ds s).2).1 = .ok (.text name) →
    (source'.name.on (Populator.drawAll source' ds s').2).1 = .ok (.text name') →
    (Bytes.ofText name).length = (Bytes.ofText name').length

theorem Alike.draw (h : Alike source source' s s') (d : Draw) :
    ∃ v v' r r', (drawFrom source d).on s = (.ok v, r) ∧ (drawFrom source' d).on s' = (.ok v', r') ∧ d.Twins v v' ∧
      Alike source source' r r' := by
  obtain ⟨v, r, hv, hsupplied, hr⟩ := h.first.draw d
  obtain ⟨v', r', hv', hsupplied', hr'⟩ := h.second.draw d
  refine ⟨v, v', r, r', hv, hv', ?_, hr, hr', ?_⟩
  · cases d with
    | uuid => trivial
    | name =>
      obtain ⟨name, rfl, hname⟩ := hsupplied
      obtain ⟨name', rfl, hname'⟩ := hsupplied'
      have hlength := h.lengths [] name name' (congrArg Prod.fst hv) (congrArg Prod.fst hv')
      exact ⟨name, name', rfl, rfl, hlength, hname, hname'⟩
  · intro ds name name' hname hname'
    apply h.lengths (d :: ds)
    · rw [drawAll_cons hv]
      exact hname
    · rw [drawAll_cons hv']
      exact hname'

theorem Alike.drawAll (h : Alike source source' s s') (ds : List Draw) :
    ∃ vs vs' r r', Populator.drawAll source ds s = (.ok vs, r) ∧ Populator.drawAll source' ds s' = (.ok vs', r') ∧
      Draw.AllTwins ds vs vs' ∧ Alike source source' r r' := by
  induction ds generalizing s s' with
  | nil => exact ⟨[], [], s, s', rfl, rfl, .nil, h⟩
  | cons d ds ih =>
    obtain ⟨v, v', r, r', hv, hv', htwins, hr⟩ := h.draw d
    obtain ⟨vs, vs', q, q', hvs, hvs', hrest, hq⟩ := ih hr
    refine ⟨v :: vs, v' :: vs', q, q', ?_, ?_, .cons htwins hrest, hq⟩
    · rw [drawAll_cons hv, hvs]
      rfl
    · rw [drawAll_cons hv', hvs']
      rfl

/-- A populator fills what it fits from both sources, which stay alike. -/
theorem run_of_alike {p : Populator} {v : Value} (h : Alike source source' s s') (hfits : p.fits v = .ok ()) :
    ∃ vs vs' es es' r r', Draw.AllTwins p.demand vs vs' ∧ p.fields vs = .ok es ∧ p.fields vs' = .ok es' ∧
      p.run source v s = (.ok (), ⟨r, es⟩) ∧ p.run source' v s' = (.ok (), ⟨r', es'⟩) ∧ Alike source source' r r' := by
  obtain ⟨vs, vs', r, r', hvs, hvs', htwins, hr⟩ := h.drawAll p.demand
  obtain ⟨ws, es, q, hws, -, hes, hrun, -⟩ := run_of_supplies h.first hfits
  obtain ⟨ws', es', q', hws', -, hes', hrun', -⟩ := run_of_supplies h.second hfits
  rw [hvs] at hws
  rw [hvs'] at hws'
  cases hws
  cases hws'
  exact ⟨vs, vs', es, es', r, r', htwins, hes, hes', hrun, hrun', hr⟩

/-- Requests that a populator has filled with what was drawn from two sources agree in all other fields, and their
batches are twins. -/
theorem assign_twins {p : Populator} {shape : Shape} {vs vs' : List Value} {es es' : Entries}
    (hp : p.shape? = some shape) (hvs : Draw.AllTwins p.demand vs vs') (hes : p.fields vs = .ok es)
    (hes' : p.fields vs' = .ok es') :
    (assign es shape.fresh).blanked = (assign es' shape.fresh).blanked ∧
      List.Forall₂ Value.BatchTwins (assign es shape.fresh).partitionRecords
        (assign es' shape.fresh).partitionRecords := by
  cases p with
  | noop => cases hp
  | produce =>
    cases hp
    obtain _ | ⟨⟨name, name', rfl, rfl, hlength, hname, hname'⟩, hnil⟩ := hvs
    cases hnil
    -- The batches are named, so that computing the fields does not go into their bytes.
    obtain ⟨bs, hbatch, bs', hbatch', htwins⟩ : ∃ bs, nameBatch (.text name) = .ok (.bytes bs) ∧
        ∃ bs', nameBatch (.text name') = .ok (.bytes bs') ∧ Batch.Twins bs bs' :=
      ⟨_, nameBatch_of_fitsBatch hname, _, nameBatch_of_fitsBatch hname', Batch.twins_of_length hlength⟩
    simp only [fields, hbatch] at hes
    simp only [fields, hbatch'] at hes'
    cases hes
    cases hes'
    exact ⟨rfl, .cons ⟨bs, bs', rfl, rfl, htwins⟩ .nil⟩
  | listOffsets | updateMetadata | leaveGroup =>
    cases hp
    obtain _ | ⟨-, hnil⟩ := hvs
    cases hnil
    cases hes
    cases hes'
    exact ⟨rfl, .nil⟩
  | offsetFetch | metadata | describeGroups | consumerGroupDescribe =>
    cases hp
    obtain _ | ⟨-, hrest⟩ := hvs
    obtain _ | ⟨-, hnil⟩ := hrest
    cases hnil
    cases hes
    cases hes'
    exact ⟨rfl, .nil⟩

end Populator

end RequestSamples
