import RequestSamples.Proofs.Generator.Draws
import RequestSamples.Proofs.Names.Ids
import RequestSamples.Proofs.Populator.NameBatch
import RequestSamples.Proofs.Uuid.Random
import RequestSamples.Proofs.Uuid.Reading

/-!
# Ids of topics

A topic whose id is the one that stands for "not set" counts as a topic without an id.  The populators that give ids to
topics take them from their source (`topicId_of_run`), and a seeded source gives random ids only.  So every sample with
such a topic has an id that is set (`hasTopicId_of_turn`), in every step of a generator and throughout a run
(`topicIdsSet_of_step`, `topicIdsSet_of_run`), whatever else is drawn from the source in between.  With what is known
about random ids this is `generated_ids_are_set`.
-/

namespace RequestSamples

open RequestSamples.Names (Seeded Source)

namespace Populator

/-- The field in which a request lists topics that get ids. -/
def topicsField? : Populator → Option String
  | metadata => some "topics"
  | updateMetadata => some "topic_states"
  | _ => none

variable {s : Seeded}

private theorem drawAll_id (s : Seeded) : drawAll Source.draws [.uuid] (.seeded s) =
    (.ok [.uuid (.random s.twister.fourWords.1)], .seeded { s with twister := s.twister.fourWords.2 }) := by
  rw [drawAll_cons (Source.draw_id s)]
  rfl

/-- The only topic of a filled request has the id that was drawn last. -/
theorem topicId_of_run {p : Populator} {field : String} (hp : p.topicsField? = some field) {v : Value}
    {done : Filling Source} (h : p.run Source.draws v (.seeded s) = (.ok (), done)) :
    ∃ (topic : Value) (r : Seeded), (assign done.writes v).field field = .ok (.list [topic]) ∧
      topic.field "topic_id" = .ok (.uuid (.random r.twister.fourWords.1)) := by
  have ends := p.run_ends Source.draws v (.seeded s)
  rw [h] at ends
  cases ends with
  | filled hv hd he =>
    -- The other populators give no ids to topics.
    cases p with
    | metadata =>
      cases hp
      obtain ⟨name, r, ids, hname, hd, rfl⟩ := exists_of_drawAll_cons hd
      obtain ⟨_, t, ht⟩ := Source.exists_twister_of_draw .name s
      rw [ht] at hname
      cases hname
      cases (drawAll_id _).symm.trans hd
      cases he
      exact ⟨_, { s with twister := t }, field_assign_singleton (hasShape_of_fits rfl hv), rfl⟩
    | updateMetadata =>
      cases hp
      cases (drawAll_id s).symm.trans hd
      cases he
      exact ⟨_, s, field_assign_singleton (hasShape_of_fits rfl hv), rfl⟩
    | _ => cases hp

end Populator

namespace Sample

/-- The request of the sample lists one topic in this field, which has a random id, and the id is set. -/
def HasTopicId (sample : Sample) (field : String) : Prop :=
  ∃ topic id drawn, sample.message.field field = .ok (.list [topic]) ∧ topic.field "topic_id" = .ok (.uuid id) ∧
    id.IsRandom drawn ∧ id ≠ .zero

/-- The topic has an id that is set, if the sample is of a kind that gives ids to its topics. -/
structure TopicIdsSet (sample : Sample) : Prop where
  metadata : sample.message.apiKey = .ok (.key .metadata) → sample.HasTopicId "topics"
  updateMetadata : sample.message.apiKey = .ok (.key .updateMetadata) → sample.HasTopicId "topic_states"

end Sample

namespace Generator

open Populator

/-- The kinds that give ids to their topics have the populators that do so. -/
structure FillsTopics (t : Tables) : Prop where
  metadata : t.registry .metadata = some .metadata
  updateMetadata : t.registry .updateMetadata = some .updateMetadata

private theorem fillsTopics_standard : FillsTopics .standard := ⟨rfl, rfl⟩

variable {t : Tables} {resolve : Resolver} {key : Value} {s : Seeded} {sample : Sample}

theorem hasTopicId_of_turn {k : ApiKey} {p : Populator} {field : String} (hr : t.registry k = some p)
    (hp : p.topicsField? = some field) (h : (turn t resolve Source.draws key (.seeded s)).result = .ok sample)
    (hk : sample.message.apiKey = .ok (.key k)) : sample.HasTopicId field := by
  obtain ⟨k', done, -, hf, -, hmessage, -⟩ := turn_eq_ok h
  have hkey := apiKey_of_run hf
  rw [← hmessage, hk] at hkey
  cases hkey
  rw [filling, hr, Option.getD_some] at hf
  obtain ⟨topic, r, htopics, hid⟩ := topicId_of_run hp hf
  have hrandom := Uuid.isRandom_random r.twister.fourWords.1
  exact ⟨topic, _, _, by rw [hmessage, htopics], hid, hrandom, hrandom.ne_zero⟩

/-- With the standard tables each filled request is sampled at its latest version. -/
private theorem exists_sample_of_filling {k : ApiKey} {done : Filling Source}
    (hf : filling .standard Source.draws k (.seeded s) = (.ok (), done)) :
    ∃ sample, (turn .standard (.latest .standard) Source.draws (.key k) (.seeded s)).result = .ok sample ∧
      sample.message.apiKey = .ok (.key k) := by
  have hk : Tables.standard.lookup (.key k) = .ok k := by cases k <;> rfl
  obtain ⟨version, hversion⟩ : ∃ version, Resolver.latest .standard (.key k) = .ok version := by
    cases k <;> exact ⟨_, rfl⟩
  rw [turn_of_sampled hk hf hversion]
  exact ⟨_, rfl, apiKey_of_run hf⟩

private theorem topicIdsSet_of_turn (ht : FillsTopics t)
    (h : (turn t resolve Source.draws key (.seeded s)).result = .ok sample) : sample.TopicIdsSet :=
  ⟨hasTopicId_of_turn ht.metadata rfl h, hasTopicId_of_turn ht.updateMetadata rfl h⟩

/-- Each pull gives such a sample, in whatever state others have left the source. -/
theorem topicIdsSet_of_step (ht : FillsTopics t) {progress progress' : Progress} {now : Turn Source}
    (h : step t resolve Source.draws progress (.seeded s) = (progress', some now)) (hnow : now.result = .ok sample) :
    sample.TopicIdsSet := by
  have ends := step_ends t resolve Source.draws progress
  generalize step t resolve Source.draws progress = f at ends h
  cases ends with
  | ended => cases h
  | refused => cases h; cases hnow
  | turned => cases h; exact topicIdsSet_of_turn ht hnow

/-- The source stays a seeded one from turn to turn, so all samples of a run are such. -/
theorem topicIdsSet_of_run (ht : FillsTopics t) (resolve : Resolver) (ks : List Value) (s : Seeded) :
    ∀ sample ∈ (run t resolve Source.draws ks (.seeded s)).samples, sample.TopicIdsSet := by
  induction ks generalizing s with
  | nil => exact List.forall_mem_nil _
  | cons k ks ih =>
    cases hk : (turn t resolve Source.draws k (.seeded s)).result with
    | error e =>
      rw [run_cons_error hk]
      exact List.forall_mem_nil _
    | ok first =>
      obtain ⟨t', ht'⟩ := Source.exists_twister_of_consecutive (consecutive_turn t resolve Source.draws k (.seeded s))
      rw [run_cons_ok hk, ht']
      exact List.forall_mem_cons.mpr ⟨topicIdsSet_of_turn ht hk, ih _⟩

/-- A seeded source gives an id at every draw, in whatever state earlier draws have left it.

* The number of 128 bits that is drawn for it is made of the next four words.
* The id is of version 4 and of the standard variant, and its other bits are those of this number.
* Its canonical text gives the id.
* It is not the id that stands for "not set".
* Another draw, from the same source or from another one, gives the same id if and only if its words agree outside the
  six fixed places.
* All samples of a kind that gives ids to its topics have ids that are set, pull by pull and throughout a run.  The
  standard tables have the populators for this (`fillsTopics_standard`). -/
theorem generated_ids_are_set (s : Seeded) :
    s.twister.bits 128 = (s.twister.fourWords.1.toNat, s.twister.fourWords.2) ∧
    ∃ id, Seeded.uuid.on s = (.ok (.uuid id), { s with twister := s.twister.fourWords.2 }) ∧
      id.IsRandom s.twister.fourWords.1 ∧ id.version? = some 4 ∧ Uuid.parse (String.ofList id.write) = .ok id ∧
      id ≠ .zero ∧
      (∀ (r r' : Seeded) (id' : Uuid), Seeded.uuid.on r = (.ok (.uuid id'), r') →
        (id' = id ↔ ∀ i < 128, ¬Uuid.IsFixed i →
          r.twister.fourWords.1.getLsbD i = s.twister.fourWords.1.getLsbD i)) ∧
      ∀ (t : Tables) (resolve : Resolver), FillsTopics t →
        (∀ (progress progress' : Progress) (now : Turn Source) (sample : Sample),
          step t resolve Source.draws progress (.seeded s) = (progress', some now) → now.result = .ok sample →
            sample.TopicIdsSet) ∧
        ∀ (selection : Selection), ∀ sample ∈ (runAll t resolve Source.draws selection (.seeded s)).samples,
          sample.TopicIdsSet := by
  have hrandom := Uuid.isRandom_random s.twister.fourWords.1
  refine ⟨s.twister.bits_eq_fourWords, _, Seeded.uuid_on s, hrandom, hrandom.version?, Uuid.parse_write _,
    hrandom.ne_zero, ?_, ?_⟩
  · intro r r' id' h
    rw [Seeded.uuid_on] at h
    cases h
    exact (Uuid.isRandom_random r.twister.fourWords.1).eq_iff hrandom
  · intro t resolve ht
    refine ⟨fun _ _ _ _ => topicIdsSet_of_step ht, ?_⟩
    intro selection
    unfold runAll
    cases selection.keys t with
    | error e => exact List.forall_mem_nil _
    | ok ks => exact topicIdsSet_of_run ht resolve ks s

/-- A source with this seed gives two ids, which differ.  If it is asked for samples instead, their topics get ids. -/
theorem generated_ids_are_set_of_seed :
    ∃ id id' s' s'', Seeded.uuid.on (.ofSeed (some 42)) = (.ok (.uuid id), s') ∧
      Seeded.uuid.on s' = (.ok (.uuid id'), s'') ∧ id ≠ .zero ∧ id' ≠ id ∧
      Uuid.parse "bdd640fb-0667-4ad1-9c80-317fa3b1799d" = .ok id ∧
      (∃ progress now sample, step .standard (.latest .standard) Source.draws (.ready [.key .metadata])
          (.seeded (.ofSeed (some 42))) = (progress, some now) ∧
        now.result = .ok sample ∧ sample.HasTopicId "topics") ∧
      ∃ sample ∈ (runAll .standard (.latest .standard) Source.draws (.listed [.key .updateMetadata])
          (.seeded (.ofSeed (some 42)))).samples, sample.HasTopicId "topic_states" := by
  have hdigits : (Seeded.ofSeed (some 42)).suffixDigits = .ok (6 : Nat) := rfl
  have hwords : (Seeded.ofSeed (some 42)).twister.fourWords.1 = 0xbdd640fb06671ad11c80317fa3b1799d ∧
      (Seeded.ofSeed (some 42)).twister.fourWords.2.fourWords.1 = 0x23b8c1e9392456de3eb13b9046685257 ∧
      (Names.Choice.suspiciousBrahmagupta.after? (Seeded.ofSeed (some 42)).twister).isSome = true := by
    rw [Seeded.twister_ofSeed, Names.Twister.ofSeed_eq (by decide)]
    decide +kernel
  -- Of the seed only its first words and its first name are needed.
  generalize Seeded.ofSeed (some 42) = s at hdigits hwords ⊢
  obtain ⟨hfirst, hsecond, hchoice⟩ := hwords
  obtain ⟨t, ht⟩ := Option.isSome_iff_exists.mp hchoice
  have hname := Source.draw_of_chosen hdigits (Names.chosen_of_after? ht)
  obtain ⟨-, id, hdraw, hrandom, -, hparse, hset, hsame, hsamples⟩ := generated_ids_are_set s
  obtain ⟨hpulled, hlisted⟩ := hsamples .standard (.latest .standard) fillsTopics_standard
  have hdraw' := Seeded.uuid_on { s with twister := s.twister.fourWords.2 }
  refine ⟨id, _, _, _, hdraw, hdraw', hset, ?_, ?_, ?_, ?_⟩
  · intro heq
    have hbit := (hsame _ _ _ hdraw').mp heq 1 (by decide) (by decide)
    rw [hfirst, hsecond] at hbit
    revert hbit
    decide
  · have htext : id.write = "bdd640fb-0667-4ad1-9c80-317fa3b1799d".toList := by
      rw [Uuid.isRandom_iff.mp hrandom, hfirst]
      decide +kernel
    rwa [htext, String.ofList_toList] at hparse
  · obtain ⟨name, u, r, hdraws⟩ : ∃ name u r, drawAll Source.draws [.name, .uuid] (.seeded s) = (.ok [name, u], r) :=
      ⟨_, _, _, by rw [drawAll_cons hname, drawAll_id]; rfl⟩
    have hfilled : filling .standard Source.draws .metadata (.seeded s) = (.ok (), _) :=
      run_of_drawAll rfl hdraws rfl
    obtain ⟨sample, hturn, hkey⟩ := exists_sample_of_filling hfilled
    exact ⟨_, _, sample, rfl, hturn, (hpulled (.ready [.key .metadata]) _ _ sample rfl hturn).metadata hkey⟩
  · have hfilled : filling .standard Source.draws .updateMetadata (.seeded s) = (.ok (), _) :=
      run_of_drawAll rfl (drawAll_id s) rfl
    obtain ⟨sample, hturn, hkey⟩ := exists_sample_of_filling hfilled
    have hmember : sample ∈ (runAll .standard (.latest .standard) Source.draws (.listed [.key .updateMetadata])
        (.seeded s)).samples := by
      show sample ∈ (run .standard (.latest .standard) Source.draws [.key .updateMetadata] (.seeded s)).samples
      rw [run_cons_ok hturn]
      exact List.mem_cons_self
    exact ⟨sample, hmember, (hlisted _ sample hmember).updateMetadata hkey⟩

end Generator

end RequestSamples
