import RequestSamples.Proofs.Success
import RequestSamples.Session

/-!
# What populators draw and set

A populator demands names and ids in a fixed order, and the fields that it sets are made of what it has
drawn.  The main fact is that this is all it does, in this order (`run_fill`): everything is drawn before the
first field is set, and between the draws and the first field only the making of the fields can fail.  All
that is said of single populators elsewhere follows from their demands and their fields.
-/

namespace RequestSamples.Populator

variable {σ : Type}

open RequestSamples.Session (drawFrom)

/-- What a populator draws, in order. -/
def demand : Populator → List Draw
  | noop => []
  | produce | listOffsets | leaveGroup => [.name]
  | offsetFetch | describeGroups | consumerGroupDescribe => [.name, .name]
  | metadata => [.name, .uuid]
  | updateMetadata => [.uuid]

/-- The fields that a populator sets, in order, if it has drawn these values. -/
def fields : Populator → List Value → Except Failure Entries
  | produce, [name] =>
    (nameBatch name).map fun records =>
      let partition := entry .partitionProduceData [("records", records)]
      [("acks", .int (-1)),
        ("topic_data", .list [entry .topicProduceData [("partition_data", .list [partition])]])]
  | listOffsets, [name] =>
    let partition := entry .listOffsetsPartition [("partition_index", .int 0), ("current_leader_epoch", .int 1)]
    .ok [("replica_id", .int (-1)),
      ("topics", .list [entry .listOffsetsTopic [("name", name), ("partitions", .list [partition])]])]
  | offsetFetch, [name, group] =>
    let topic := entry .offsetFetchRequestTopic
      [("name", name), ("partition_indexes", .list [.int 0, .int 1])]
    .ok [("group_id", group), ("topics", .list [topic])]
  | metadata, [name, id] =>
    .ok [("topics", .list [entry .metadataRequestTopic [("name", name), ("topic_id", id)]])]
  | updateMetadata, [id] =>
    .ok [("topic_states", .list [entry .updateMetadataTopicState [("topic_id", id)]])]
  | leaveGroup, [name] => .ok [("members", .list [entry .memberIdentity [("member_id", name)]])]
  | describeGroups, [first, second] => .ok [("groups", .list [first, second])]
  | consumerGroupDescribe, [first, second] => .ok [("group_ids", .list [first, second])]
  | _, _ => .ok []

/-- Draws one thing after the other, until a draw fails. -/
def drawAll (source : NameSource σ) : List Draw → σ → Except Failure (List Value) × σ
  | [], s => (.ok [], s)
  | d :: ds, s =>
    match (drawFrom source d).on s with
    | (.error e, s) => (.error e, s)
    | (.ok v, s) =>
      match drawAll source ds s with
      | (.error e, s) => (.error e, s)
      | (.ok vs, s) => (.ok (v :: vs), s)

theorem length_of_drawAll {source : NameSource σ} {ds : List Draw} {s s' : σ} {vs : List Value}
    (h : drawAll source ds s = (.ok vs, s')) : vs.length = ds.length := by
  induction ds generalizing s vs with
  | nil => cases h; rfl
  | cons d ds ih =>
    unfold drawAll at h
    split at h
    · cases h
    · split at h
      · cases h
      · rename_i hrest
        cases h
        rw [List.length_cons, List.length_cons, ih hrest]

/-- If drawing fails, one of the draws does. -/
theorem exists_of_drawAll_error {source : NameSource σ} {ds : List Draw} {s s' : σ} {e : Failure}
    (h : drawAll source ds s = (.error e, s')) : ∃ d r, ((drawFrom source d).on r).1 = .error e := by
  induction ds generalizing s with
  | nil => cases h
  | cons d ds ih =>
    unfold drawAll at h
    split at h
    · rename_i hd
      cases h
      exact ⟨d, s, by rw [hd]⟩
    · split at h
      · rename_i hrest
        cases h
        exact ih hrest
      · cases h

section

variable {α β : Type}

private theorem run_draw (d : Drawing σ α) (f : Filling σ) :
    (ExceptT.run (draw d)).run f = ((d.on f.source).1, { f with source := (d.on f.source).2 }) := rfl

private theorem run_draw_bind (d : Drawing σ α) (k : α → Fill σ β) (f : Filling σ) :
    (ExceptT.run (draw d >>= k)).run f =
      match d.on f.source with
      | (.error e, s) => (.error e, { f with source := s })
      | (.ok a, s) => (ExceptT.run (k a)).run { f with source := s } := by
  rw [ExceptT.run_bind, StateT.run_bind, run_draw]
  rcases d.on f.source with ⟨_ | a, s⟩ <;> rfl

private theorem run_set_bind (name : String) (v : Value) (k : Unit → Fill σ β) (f : Filling σ) :
    (ExceptT.run (set name v >>= k)).run f =
      (ExceptT.run (k ())).run { f with writes := f.writes ++ [(name, v)] } := by
  rw [ExceptT.run_bind, StateT.run_bind]
  rfl

private theorem run_set (name : String) (v : Value) (f : Filling σ) :
    (ExceptT.run (set name v)).run f = (.ok (), { f with writes := f.writes ++ [(name, v)] }) := by
  rw [← bind_pure (set name v), run_set_bind]
  rfl

private theorem run_lift_bind (x : Except Failure α) (k : α → Fill σ β) (f : Filling σ) :
    (ExceptT.run (liftM x >>= k)).run f =
      match x with
      | .error e => (.error e, f)
      | .ok a => (ExceptT.run (k a)).run f := by
  cases x <;> rfl

end

/-- A populator first draws all that it demands, then makes its fields, and only then sets them. -/
theorem run_fill (p : Populator) (source : NameSource σ) (s : σ) (w : Entries) :
    (ExceptT.run (p.fill source)).run ⟨s, w⟩ =
      match drawAll source p.demand s with
      | (.error e, s') => (.error e, ⟨s', w⟩)
      | (.ok vs, s') =>
        match p.fields vs with
        | .error e => (.error e, ⟨s', w⟩)
        | .ok es => (.ok (), ⟨s', w ++ es⟩) := by
  -- Populators that draw as often run through the same steps, whatever they draw.
  cases p with
  | noop =>
    show _ = (Except.ok (), Filling.mk s (w ++ []))
    rw [List.append_nil]
    rfl
  | produce =>
    simp only [fill, demand, drawAll, run_draw_bind, drawFrom]
    rcases source.name.on s with ⟨e | name, s'⟩
    · rfl
    · simp only [fields, run_lift_bind]
      cases nameBatch name with
      | error e => rfl
      | ok records =>
        simp only [run_set_bind, run_set, Except.map, List.append_assoc, List.cons_append, List.nil_append]
  | listOffsets | updateMetadata | leaveGroup =>
    simp only [fill, demand, drawAll, run_draw_bind, drawFrom]
    split
    · rename_i h
      simp only [h]
    · rename_i h
      simp only [h, fields, run_set_bind, run_set, List.append_assoc, List.cons_append, List.nil_append]
  | offsetFetch | metadata | describeGroups | consumerGroupDescribe =>
    simp only [fill, demand, drawAll, run_draw_bind, drawFrom]
    split
    · rename_i h
      simp only [h]
    · rename_i s' h
      simp only [h]
      split
      · rename_i h'
        simp only [h']
      · rename_i h'
        simp only [h', fields, run_set_bind, run_set, List.append_assoc, List.cons_append, List.nil_append]

/-- The ways in which a populator can end on a value. -/
inductive Ends (p : Populator) (source : NameSource σ) (v : Value) (s : σ) :
    Except Failure Unit × Filling σ → Prop
  /-- The value is no object of the wanted shape. -/
  | misfit {shape : Shape} (hp : p.shape? = some shape) (hv : v.hasShape shape = false) :
    Ends p source v s (.error (.shapeMismatch shape v.typeName), ⟨s, []⟩)
  /-- A draw has failed. -/
  | undrawn {e : Failure} {s' : σ} (hv : p.fits v = .ok ()) (hd : drawAll source p.demand s = (.error e, s')) :
    Ends p source v s (.error e, ⟨s', []⟩)
  /-- The fields could not be made. -/
  | refused {vs : List Value} {s' : σ} {e : Failure} (hv : p.fits v = .ok ())
    (hd : drawAll source p.demand s = (.ok vs, s')) (he : p.fields vs = .error e) :
    Ends p source v s (.error e, ⟨s', []⟩)
  /-- All fields have been set. -/
  | filled {vs : List Value} {s' : σ} {es : Entries} (hv : p.fits v = .ok ())
    (hd : drawAll source p.demand s = (.ok vs, s')) (he : p.fields vs = .ok es) :
    Ends p source v s (.ok (), ⟨s', es⟩)

theorem run_ends (p : Populator) (source : NameSource σ) (v : Value) (s : σ) :
    Ends p source v s (p.run source v s) := by
  unfold run
  cases hv : p.fits v with
  | error e =>
    unfold fits at hv
    split at hv
    · cases hv
    · rename_i shape hp
      split at hv
      · cases hv
      · rename_i hshape
        cases hv
        exact .misfit hp (Bool.eq_false_iff.mpr hshape)
  | ok u =>
    simp only [run_fill]
    rcases hd : drawAll source p.demand s with ⟨e | vs, s'⟩
    · exact .undrawn hv hd
    · cases he : p.fields vs with
      | error e => simp only [he]; exact .refused hv hd he
      | ok es => simp only [he]; exact .filled hv hd he

end RequestSamples.Populator
