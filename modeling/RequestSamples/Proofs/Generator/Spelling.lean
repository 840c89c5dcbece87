import Mathlib.Data.List.Forall2
import RequestSamples.Proofs.Generator.Pulls

/-!
# Spellings of keys

A request kind can be spelled as itself, as its wire id or as any other number that is equal to it.  No look-up tells
these apart (`Respells.lookup`), so neither does a turn, and a run over respelled keys is the same run
(`run_of_respelled`).  Only the ready-made resolvers see the spelling when they are asked directly, and show it in the
text of a refusal.  The main fact is `spelling_irrelevant`; it also says that a run asks its resolver for kinds
themselves and puts nothing else into generic requests.
-/

namespace RequestSamples

namespace Value

/-- Equal values that denote a request kind. -/
structure Respells (v w : Value) : Prop where
  same : v.same w = true
  kind : ∃ k, v.toKey? = some k

variable {v w : Value}

theorem Respells.number? (h : v.Respells w) : ∃ p, v.number? = some p ∧ w.number? = some p := by
  obtain ⟨k, hk⟩ := h.kind
  obtain ⟨p, hp⟩ := number?_of_toKey? hk
  have hsame := h.same
  rw [same_of_number? hp] at hsame
  exact ⟨p, hp, of_decide_eq_true hsame⟩

theorem Respells.toKey? (h : v.Respells w) : ∃ k, v.toKey? = some k ∧ w.toKey? = some k := by
  obtain ⟨k, hk⟩ := h.kind
  obtain ⟨p, hp, hp'⟩ := h.number?
  exact ⟨k, hk, (toKey?_eq_of_number?_eq (hp'.trans hp.symm)).trans hk⟩

/-- What is equal to one spelling is equal to the other. -/
private theorem Respells.same_right (h : v.Respells w) (u : Value) : u.same v = u.same w := by
  obtain ⟨p, hv, hw⟩ := h.number?
  cases hu : u.number? with
  | some q => rw [same_of_number? hu, same_of_number? hu, hv, hw]
  | none => rw [same_number hu hv, same_number hu hw]

end Value

section

variable {v w : Value} (t : Tables)

private theorem Tables.isExcluded_of_toKey? {k : ApiKey} (h : v.toKey? = some k) :
    t.isExcluded v = .ok (t.excluded k) := by
  rw [isExcluded, Value.hashable, if_pos (Value.isHashable_of_toKey? h)]
  show Except.ok ((v.toKey?.map t.excluded).getD false) = _
  rw [h]
  rfl

private theorem Tables.populator_of_toKey? {k : ApiKey} (h : v.toKey? = some k) :
    t.populator v = .ok ((t.registry k).getD .noop) := by
  rw [populator, Value.hashable, if_pos (Value.isHashable_of_toKey? h)]
  show Except.ok ((v.toKey?.bind t.registry).getD .noop) = _
  rw [h]
  rfl

namespace Value.Respells

theorem lookup (h : v.Respells w) : t.lookup v = t.lookup w := by
  obtain ⟨k, hv, hw⟩ := h.toKey?
  rw [Tables.lookup, Tables.lookup, hv, hw]

theorem supportedVersions (h : v.Respells w) : t.supportedVersions v = t.supportedVersions w := by
  obtain ⟨k, hv, hw⟩ := h.toKey?
  rw [Tables.supportedVersions, Tables.supportedVersions, hv, hw]

theorem someVersions (h : v.Respells w) : t.someVersions v = t.someVersions w := by
  rw [Tables.someVersions, Tables.someVersions, h.supportedVersions]

theorem get? (h : v.Respells w) (peer : KeyedValues) : peer.get? v = peer.get? w := by
  obtain ⟨k, hv, hw⟩ := h.toKey?
  rw [KeyedValues.get?_of_hashable (Value.isHashable_of_toKey? hv),
    KeyedValues.get?_of_hashable (Value.isHashable_of_toKey? hw)]
  simp only [h.same_right]

end Value.Respells

end

namespace Resolver

/-- The results are the same, but that a refusal shows the key that was asked for. -/
def SameBut (v w : Value) (x y : Except Failure Value) : Prop :=
  x = y ∨ ∃ cause, x = .error (.versionUnresolved v cause) ∧ y = .error (.versionUnresolved w cause)

variable {v w : Value} (t : Tables)

theorem SameBut.bind {α : Type} {x : Except Failure α} {f g : α → Except Failure Value}
    (h : ∀ a, SameBut v w (f a) (g a)) : SameBut v w (x >>= f) (x >>= g) := by
  cases x with
  | error e => exact .inl rfl
  | ok a => exact h a

theorem SameBut.showing {e e' : Failure} (h : SameBut v w (.error e) (.error e')) (u : Value) :
    SameBut v w (.error (.showing u e)) (.error (.showing u e')) := by
  unfold Failure.showing
  cases u.stop? with
  | none => exact h
  | some stop => exact .inl rfl

private theorem latest_respelled (h : v.Respells w) : latest t v = latest t w := by
  rw [latest, latest, h.someVersions]

private theorem oldest_respelled (h : v.Respells w) : oldest t v = oldest t w := by
  rw [oldest, oldest, h.someVersions]

private theorem fixed_respelled (h : v.Respells w) (version : Value) :
    SameBut v w (fixed t version v) (fixed t version w) := by
  unfold fixed
  rw [h.supportedVersions]
  refine .bind fun known => ?_
  cases known.contains version with
  | true => exact .inl rfl
  | false =>
    cases known.isEmpty with
    | true => exact .inl rfl
    | false =>
      have hrefused (cause : Unresolved) :
          SameBut v w (.error (.versionUnresolved v cause)) (.error (.versionUnresolved w cause)) :=
        .inr ⟨cause, rfl, rfl⟩
      exact (((hrefused _).showing _).showing _).showing version

private theorem negotiated_respelled (h : v.Respells w) (peer : KeyedValues) :
    SameBut v w (negotiated t peer v) (negotiated t peer w) := by
  obtain ⟨k, hv, hw⟩ := h.toKey?
  unfold negotiated
  rw [h.get?, h.someVersions]
  refine .bind fun found => ?_
  cases found with
  | none =>
    show SameBut v w (.error (Failure.showing v _)) (.error (Failure.showing w _))
    rw [Failure.showing_of_stop? (Value.stop?_of_toKey? hv), Failure.showing_of_stop? (Value.stop?_of_toKey? hw)]
    exact .inr ⟨_, rfl, rfl⟩
  | some bounds =>
    refine .bind fun ends => .bind fun known => .bind fun _ => .bind fun _ => ?_
    dsimp only
    generalize Value.isBelow _ _ = disjoint
    cases disjoint with
    | true => exact .inr ⟨_, rfl, rfl⟩
    | false => exact .inl rfl

end Resolver

namespace Generator

section

variable {σ : Type} {t : Tables} {resolve resolve' : Resolver} {draws : NameSource σ} {ks js : List Value}

private theorem turn_of_respelled {v w : Value} (h : v.Respells w) (s : σ) :
    turn t resolve draws v s = turn t resolve draws w s := by
  unfold turn
  rw [h.lookup]

theorem run_of_respelled (h : List.Forall₂ Value.Respells ks js) (s : σ) :
    run t resolve draws ks s = run t resolve draws js s := by
  induction h generalizing s with
  | nil => rfl
  | cons hk _ ih => simp only [run, turn_of_respelled hk, ih]

/-- A turn asks its resolver for the kind itself. -/
private theorem turn_of_members (h : ∀ k, resolve (.key k) = resolve' (.key k)) (key : Value) (s : σ) :
    turn t resolve draws key s = turn t resolve' draws key s := by
  unfold turn
  simp only [h]

private theorem run_of_members (h : ∀ k, resolve (.key k) = resolve' (.key k)) (ks : List Value) (s : σ) :
    run t resolve draws ks s = run t resolve' draws ks s := by
  induction ks generalizing s with
  | nil => rfl
  | cons k ks ih => simp only [run, turn_of_members h, ih]

end

end Generator

/-- The request tells this kind, and if it is a generic one, then it holds the kind itself and nothing else. -/
structure Value.IsRequestOf (m : Value) (k : ApiKey) : Prop where
  apiKey : m.apiKey = .ok (.key k)
  generic : m.hasShape .generic = true → m = .object .generic [("api_key", .key k)] []

private theorem ApiKey.isRequestOf_skeleton (k : ApiKey) : k.skeleton.IsRequestOf k := by
  refine ⟨k.apiKey_skeleton, ?_⟩
  intro h
  unfold skeleton at h ⊢
  split at h
  · rename_i hgeneric
    rw [if_pos hgeneric]
  · rename_i hne
    exact absurd (of_decide_eq_true h) hne

private theorem Tables.isRequestOf_skeleton {t : Tables} {v m : Value} (h : t.skeleton v = .ok m) :
    ∃ k, v.toKey? = some k ∧ m.IsRequestOf k := by
  obtain ⟨k, hk, h⟩ := Except.bind_eq_ok.mp h
  cases h
  exact ⟨k, (Tables.lookup_eq_ok.mp hk).1, k.isRequestOf_skeleton⟩

namespace Generator

variable {σ : Type}

private theorem isRequestOf_sample {t : Tables} {resolve : Resolver} {draws : NameSource σ} {ks : List Value} {s : σ}
    {i : Nat} {sample : Sample} (h : (run t resolve draws ks s).samples[i]? = some sample) :
    ∃ key k, ks[i]? = some key ∧ key.toKey? = some k ∧ sample.message.IsRequestOf k := by
  obtain ⟨key, hkey, hturn, -⟩ := exists_turn_of_getElem? h
  obtain ⟨k, done, hk, hf, -, hmessage, -⟩ := turn_eq_ok hturn
  refine ⟨key, k, hkey, (Tables.lookup_eq_ok.mp hk).1, ?_⟩
  rw [hmessage]
  refine ⟨Populator.apiKey_of_run hf, ?_⟩
  intro hgeneric
  have hfresh := Populator.eq_skeleton_of_generic hf hgeneric
  rw [hfresh] at hgeneric ⊢
  exact k.isRequestOf_skeleton.generic hgeneric

/-- How a kind is spelled makes no difference:
* all tables say the same about respelled keys, and the ready-made resolvers choose the same version for them or
  refuse for the same cause;
* runs over respelled keys are the same run: samples, failure, log and draws, pull by pull;
* a run asks its resolver for kinds themselves only;
* fresh requests and samples tell the kind itself, and generic ones hold it. -/
theorem spelling_irrelevant (t : Tables) :
    (∀ v w : Value, v.Respells w →
      t.lookup v = t.lookup w ∧ t.shape v = t.shape w ∧ t.skeleton v = t.skeleton w ∧
      t.supportedVersions v = t.supportedVersions w ∧ t.isExcluded v = t.isExcluded w ∧
      t.populator v = t.populator w ∧ Resolver.latest t v = Resolver.latest t w ∧
      Resolver.oldest t v = Resolver.oldest t w ∧
      (∀ version, Resolver.SameBut v w (Resolver.fixed t version v) (Resolver.fixed t version w)) ∧
      ∀ peer, Resolver.SameBut v w (Resolver.negotiated t peer v) (Resolver.negotiated t peer w)) ∧
    (∀ (resolve : Resolver) (draws : NameSource σ) (s : σ) (selection selection' : Selection) (ks js : List Value),
      selection.keys t = .ok ks → selection'.keys t = .ok js → List.Forall₂ Value.Respells ks js →
        runAll t resolve draws selection s = runAll t resolve draws selection' s ∧
        ∀ n, (pulls t resolve draws n (.start selection s)).done =
          (pulls t resolve draws n (.start selection' s)).done) ∧
    (∀ resolve resolve' : Resolver, (∀ k, resolve (.key k) = resolve' (.key k)) →
      ∀ (draws : NameSource σ) (selection : Selection) (s : σ),
        runAll t resolve draws selection s = runAll t resolve' draws selection s) ∧
    (∀ v m, t.skeleton v = .ok m → ∃ k, v.toKey? = some k ∧ m.IsRequestOf k) ∧
    ∀ (resolve : Resolver) (draws : NameSource σ) (ks : List Value) (s : σ) (i : Nat) (sample : Sample),
      (run t resolve draws ks s).samples[i]? = some sample →
        ∃ key k, ks[i]? = some key ∧ key.toKey? = some k ∧ sample.message.IsRequestOf k := by
  refine ⟨?_, ?_, ?_, ?_, ?_⟩
  · intro v w h
    obtain ⟨k, hv, hw⟩ := h.toKey?
    have hlookup := h.lookup t
    refine ⟨hlookup, ?_, ?_, h.supportedVersions t, ?_, ?_, Resolver.latest_respelled t h,
      Resolver.oldest_respelled t h, Resolver.fixed_respelled t h, Resolver.negotiated_respelled t h⟩
    · rw [Tables.shape, Tables.shape, hlookup]
    · rw [Tables.skeleton, Tables.skeleton, hlookup]
    · rw [t.isExcluded_of_toKey? hv, t.isExcluded_of_toKey? hw]
    · rw [t.populator_of_toKey? hv, t.populator_of_toKey? hw]
  · intro resolve draws s selection selection' ks js hks hjs h
    refine ⟨?_, ?_⟩
    · simp only [runAll, hks, hjs]
      exact run_of_respelled h s
    · intro n
      rw [(reached_pulls hks n).done, (reached_pulls hjs n).done]
      exact run_of_respelled (List.forall₂_take n h) s
  · intro resolve resolve' h draws selection s
    unfold runAll
    cases selection.keys t with
    | error e => rfl
    | ok ks => exact run_of_members h ks s
  · intro v m h
    exact Tables.isRequestOf_skeleton h
  · intro resolve draws ks s i sample h
    exact isRequestOf_sample h

/-- A kind as a float and as itself, one as a truth value and one as an integer, in two kinds of lists; asked for a
version that none of them has, the resolver shows the spelling. -/
theorem spelling_irrelevant_three_kinds :
    let three : Value := .float (.finite false 3 0)
    let draws : NameSource Nat := ⟨fun n => (.ok (.text "topic"), n + 1), fun n => (.ok (.uuid .zero), n + 1)⟩
    let ks : List Value := [three, .bool false, .int 52]
    let js : List Value := [.key .metadata, .key .produce, .key .vote]
    let resolve := Resolver.latest .standard
    List.Forall₂ Value.Respells ks js ∧
      Tables.standard.isExcluded three = Tables.standard.isExcluded (.key .metadata) ∧
      Resolver.SameBut three (.key .metadata) (Resolver.fixed .standard (.int 99) three)
        (Resolver.fixed .standard (.int 99) (.key .metadata)) ∧
      runAll .standard resolve draws (.listed ks) 0 = runAll .standard resolve draws (.elementsOf (.tuple js)) 0 := by
  intro three draws ks js resolve
  have hthree : three.Respells (.key .metadata) := ⟨by decide +kernel, .metadata, by decide +kernel⟩
  have hkeys : List.Forall₂ Value.Respells ks js :=
    .cons hthree (.cons ⟨by decide +kernel, .produce, by decide +kernel⟩
      (.cons ⟨by decide +kernel, .vote, by decide +kernel⟩ .nil))
  obtain ⟨hlooked, hruns, -⟩ := spelling_irrelevant (σ := Nat) .standard
  obtain ⟨-, -, -, -, hexcluded, -, -, -, hfixed, -⟩ := hlooked _ _ hthree
  obtain ⟨hrun, -⟩ := hruns resolve draws 0 (.listed ks) (.elementsOf (.tuple js)) ks js rfl rfl hkeys
  exact ⟨hkeys, hexcluded, hfixed (.int 99), hrun⟩

end Generator

end RequestSamples
