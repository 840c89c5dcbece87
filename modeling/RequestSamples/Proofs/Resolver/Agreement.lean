import Mathlib.Order.Bounds.Defs
import RequestSamples.Proofs.Success
import RequestSamples.Resolver

/-!
# Agreement on versions

Where the known versions of a kind are a range that is not empty, the latest and the oldest one are its ends, the
version negotiated with a peer is the greatest one in both ranges, and asking for one version is negotiating with a
peer that has no other.  The main fact is `choices_are_shared`: the ready-made resolvers choose these versions, and
where there are none they say so.  A bound of a peer comes back as it was given, and a version with too many digits
cannot be named in a refusal (`bounds_are_kept`).
-/

namespace RequestSamples

namespace Value

private theorem number?_of_integer? {v : Value} {n : Int} (h : v.integer? = some n) : v.number? = some (.finite n) := by
  cases v with
  | bool b =>
    cases h
    cases b <;> rfl
  | int | key =>
    cases h
    rfl
  | _ => cases h

/-- The lower one of a number and of what a value denotes. -/
private theorem integer?_lower {v : Value} {n : Int} (h : v.integer? = some n) (m : Int) :
    (if m < n then int m else v).integer? = some (min n m) := by
  split
  · rw [Int.min_eq_right (by omega)]
    rfl
  · rw [Int.min_eq_left (by omega), h]

/-- The higher one of a number and of what a value denotes. -/
private theorem integer?_higher {v : Value} {n : Int} (h : v.integer? = some n) (m : Int) :
    (if n < m then int m else v).integer? = some (max n m) := by
  split
  · rw [Int.max_eq_right (by omega)]
    rfl
  · rw [Int.max_eq_left (by omega), h]

private theorem isBelow_of_integer? {v w : Value} {m n : Int} (hv : v.integer? = some m) (hw : w.integer? = some n) :
    v.isBelow w = decide (m < n) := by
  rw [isBelow, number?_of_integer? hv, number?_of_integer? hw]
  exact decide_eq_decide.mpr Rat.intCast_lt_intCast

end Value

private theorem Comparison.holds_of_integer? {v : Value} {n : Int} (h : v.integer? = some n) (m : Int) :
    Comparison.less.holds m v = .ok (decide (m < n)) ∧ Comparison.greater.holds m v = .ok (decide (n < m)) := by
  rw [holds, holds, Value.number?_of_integer? h]
  exact ⟨congrArg _ (decide_eq_decide.mpr Rat.intCast_lt_intCast),
    congrArg _ (decide_eq_decide.mpr Rat.intCast_lt_intCast)⟩

namespace Versions

variable {r : Versions}

private theorem isGreatest_highest (h : r.lowest ≤ r.highest) : IsGreatest {n | n ∈ r.toList} r.highest :=
  ⟨mem_toList.mpr ⟨h, Int.le_refl _⟩, fun _ hn => (mem_toList.mp hn).2⟩

private theorem isLeast_lowest (h : r.lowest ≤ r.highest) : IsLeast {n | n ∈ r.toList} r.lowest :=
  ⟨mem_toList.mpr ⟨Int.le_refl _, h⟩, fun _ hn => (mem_toList.mp hn).1⟩

private theorem contains_of_integer? {v : Value} {n : Int} (h : v.integer? = some n) :
    r.contains v = true ↔ n ∈ r.toList := by
  rw [← contains_int, contains, contains, Value.number?_of_integer? h]
  rfl

/-- Two ranges have a greatest common version exactly if the lower one of the upper ends lies in both. -/
private theorem isGreatest_common {a b v : Int} :
    IsGreatest {n | n ∈ r.toList ∧ a ≤ n ∧ n ≤ b} v ↔
      max a r.lowest ≤ min b r.highest ∧ v = min b r.highest := by
  constructor
  · rintro ⟨⟨hv, ha, hb⟩, hbound⟩
    have hends := mem_toList.mp hv
    have hcommon : min b r.highest ∈ {n | n ∈ r.toList ∧ a ≤ n ∧ n ≤ b} :=
      ⟨mem_toList.mpr (by omega), by omega, by omega⟩
    have hle : min b r.highest ≤ v := hbound hcommon
    omega
  · rintro ⟨hle, rfl⟩
    refine ⟨⟨mem_toList.mpr (by omega), by omega, by omega⟩, ?_⟩
    rintro n ⟨hn, -, hb⟩
    exact Int.le_min.mpr ⟨hb, (mem_toList.mp hn).2⟩

private theorem not_exists_common {a b : Int} :
    (∀ n ∈ r.toList, ¬ (a ≤ n ∧ n ≤ b)) ↔ min b r.highest < max a r.lowest := by
  simp only [mem_toList]
  constructor
  · intro h
    refine Int.not_le.mp fun hle => ?_
    exact h (min b r.highest) (by omega) (by omega)
  · rintro h n hn hab
    omega

end Versions

/-- The value holds the two ends of a range. -/
def Value.IsRange (bounds : Value) (a b : Int) : Prop :=
  ∃ v w, bounds.pair = .ok (v, w) ∧ v.integer? = some a ∧ w.integer? = some b

namespace KeyedValues

/-- All values are ranges of integers. -/
def IntegerBounds (peer : KeyedValues) : Prop := ∀ e ∈ peer, ∃ a b, e.2.IsRange a b

/-- The peer knows the versions from `a` to `b` of a key. -/
def Advertises (peer : KeyedValues) (k : Value) (a b : Int) : Prop :=
  ∃ bounds, peer.get? k = .ok (some bounds) ∧ bounds.IsRange a b

private theorem mem_of_get? {peer : KeyedValues} {k bounds : Value} (h : peer.get? k = .ok (some bounds)) :
    ∃ e ∈ peer, e.2 = bounds := by
  obtain ⟨k, -, h⟩ := Except.bind_eq_ok.mp h
  obtain ⟨e, he, hbounds⟩ := Option.map_eq_some_iff.mp (Except.ok.inj h)
  exact ⟨e, List.mem_of_find?_eq_some he, hbounds⟩

private theorem IntegerBounds.advertises {peer : KeyedValues} (hpeer : peer.IntegerBounds) {k : Value}
    (h : k.isHashable = true) : peer.get? k = .ok none ∨ ∃ a b, peer.Advertises k a b := by
  have hget := get?_of_hashable h peer
  cases hfind : peer.find? fun e => e.1.same k with
  | none =>
    rw [hfind] at hget
    exact .inl hget
  | some e =>
    rw [hfind] at hget
    obtain ⟨a, b, hab⟩ := hpeer e (List.mem_of_find?_eq_some hfind)
    exact .inr ⟨a, b, e.2, hget, hab⟩

/-- The lower bound of a range is an integer. -/
theorem IntegerBounds.lowest {peer : KeyedValues} (hpeer : peer.IntegerBounds) {k bounds v w : Value}
    (hget : peer.get? k = .ok (some bounds)) (hpair : bounds.pair = .ok (v, w)) : ∃ a, v.integer? = some a := by
  obtain ⟨e, hmem, rfl⟩ := mem_of_get? hget
  obtain ⟨a, b, v', w', hpair', ha, -⟩ := hpeer e hmem
  cases hpair.symm.trans hpair'
  exact ⟨a, ha⟩

/-- A peer that knows one version of one key, and nothing else. -/
private theorem get?_single {k : Value} {kind : ApiKey} (hk : k.toKey? = some kind) (version : Value) :
    ∃ peer, ofPairs [(k, .tuple [version, version])] = .ok peer ∧
      peer.get? k = .ok (some (.tuple [version, version])) := by
  have hhashable := Value.isHashable_of_toKey? hk
  obtain ⟨p, hp⟩ := Value.number?_of_toKey? hk
  refine ⟨[(k, .tuple [version, version])], ?_, ?_⟩
  · show (k.hashable >>= _) >>= _ = _
    rw [Value.hashable, if_pos hhashable]
    rfl
  · have hsame : k.same k = true := by
      rw [Value.same_of_number? hp, hp]
      simp
    rw [get?_of_hashable hhashable, List.find?_cons, hsame]
    rfl

end KeyedValues

private theorem Tables.supportedVersions_of_lookup {t : Tables} {v : Value} {k : ApiKey} (h : t.lookup v = .ok k) :
    v.toKey? = some k ∧ ∃ known, t.versions k = some known ∧ t.supportedVersions v = .ok known := by
  obtain ⟨hk, known, hknown⟩ := lookup_eq_ok.mp h
  refine ⟨hk, known, hknown, ?_⟩
  simp only [supportedVersions, hk, hknown]

namespace Resolver

/-- The resolver chooses a version for a key. -/
def Chooses (r : Resolver) (k : Value) (n : Int) : Prop := ∃ v, r k = .ok v ∧ v.integer? = some n

/-- The resolver has no version for a key, and says so. -/
def Refuses (r : Resolver) (k : Value) : Prop := ∃ cause, r k = .error (.versionUnresolved k cause)

/-- The resolvers that are ready made for all kinds. -/
inductive ReadyMade (t : Tables) : Resolver → Prop
  | latest : ReadyMade t (latest t)
  | oldest : ReadyMade t (oldest t)
  | fixed {version : Value} {n : Int} (h : version.integer? = some n) : ReadyMade t (fixed t version)
  | negotiated {peer : KeyedValues} (h : peer.IntegerBounds) : ReadyMade t (negotiated t peer)

variable {t : Tables} {k : Value} {known : Versions} {peer : KeyedValues} {a b : Int}

private theorem latest_of_known (h : t.someVersions k = .ok known) : latest t k = .ok (.int known.highest) := by
  rw [latest, h]
  rfl

private theorem oldest_of_known (h : t.someVersions k = .ok known) : oldest t k = .ok (.int known.lowest) := by
  rw [oldest, h]
  rfl

private theorem fixed_of_known {version : Value} {n : Int} (h : t.supportedVersions k = .ok known)
    (hempty : known.isEmpty = false) (hn : version.integer? = some n) :
    fixed t version k =
      if n ∈ known.toList then .ok version
      else .error (.showing version (.showing (.int known.lowest) (.showing (.int known.highest)
        (.versionUnresolved k (.outside version known.lowest known.highest))))) := by
  unfold fixed
  simp only [h, hempty, bind, Except.bind, Bool.false_eq_true, if_false]
  simp only [Versions.contains_of_integer? hn]
  rfl

/-- The refusal of a version can be put into words: no integer in it has too many digits. -/
structure Sayable (version : Value) (known : Versions) : Prop where
  version : version.stop? = none
  lowest : Numeral.isLong known.lowest = false
  highest : Numeral.isLong known.highest = false

theorem Sayable.showing {version : Value} (h : Sayable version known) (e : Failure) :
    Failure.showing version (.showing (.int known.lowest) (.showing (.int known.highest) e)) = e := by
  have hint {n : Int} (hn : Numeral.isLong n = false) : (Value.int n).stop? = none := by
    rw [Value.stop?_int, hn]
    rfl
  rw [Failure.showing_of_stop? h.version, Failure.showing_of_stop? (hint h.lowest),
    Failure.showing_of_stop? (hint h.highest)]

private theorem refuses_fixed {version : Value} {n : Int} (h : t.supportedVersions k = .ok known)
    (hempty : known.isEmpty = false) (hn : version.integer? = some n) (hmem : n ∉ known.toList)
    (hsay : Sayable version known) : (fixed t version).Refuses k := by
  have hfixed := fixed_of_known h hempty hn
  rw [if_neg hmem, hsay.showing] at hfixed
  exact ⟨_, hfixed⟩

private theorem negotiated_of_none {kind : ApiKey} (hk : k.toKey? = some kind) (h : peer.get? k = .ok none) :
    negotiated t peer k = .error (.versionUnresolved k .notAdvertised) := by
  unfold negotiated
  rw [h]
  show Except.error (Failure.showing k _) = _
  rw [Failure.showing_of_stop? (Value.stop?_of_toKey? hk)]

/-- Of the two upper ends the lower one is chosen, as it stands, unless it lies below one of the lower ends. -/
private theorem negotiated_of_range {bounds v w : Value} (hknown : t.someVersions k = .ok known)
    (hget : peer.get? k = .ok (some bounds)) (hpair : bounds.pair = .ok (v, w)) (ha : v.integer? = some a)
    (hb : w.integer? = some b) :
    negotiated t peer k =
      if min b known.highest < max a known.lowest then .error (.versionUnresolved k .noneInCommon)
      else .ok (if known.highest < b then .int known.highest else w) := by
  unfold negotiated
  simp only [hget, hpair, hknown, (Comparison.holds_of_integer? ha known.lowest).2,
    (Comparison.holds_of_integer? hb known.highest).1, bind, Except.bind, decide_eq_true_eq]
  simp only [Value.isBelow_of_integer? (Value.integer?_lower hb known.highest)
    (Value.integer?_higher ha known.lowest), decide_eq_true_eq]
  rfl

private theorem negotiated_of_advertises (hknown : t.someVersions k = .ok known) (h : peer.Advertises k a b) :
    (min b known.highest < max a known.lowest ∧
        negotiated t peer k = .error (.versionUnresolved k .noneInCommon)) ∨
      max a known.lowest ≤ min b known.highest ∧
        ∃ v, negotiated t peer k = .ok v ∧ v.integer? = some (min b known.highest) := by
  obtain ⟨bounds, hget, v, w, hpair, ha, hb⟩ := h
  rw [negotiated_of_range hknown hget hpair ha hb]
  by_cases hlt : min b known.highest < max a known.lowest
  · exact .inl ⟨hlt, if_pos hlt⟩
  · exact .inr ⟨Int.not_lt.mp hlt, _, if_neg hlt, Value.integer?_lower hb known.highest⟩

private theorem chooses_negotiated (hknown : t.someVersions k = .ok known) (h : peer.Advertises k a b) {n : Int} :
    (negotiated t peer).Chooses k n ↔ IsGreatest {n | n ∈ known.toList ∧ a ≤ n ∧ n ≤ b} n := by
  rw [Versions.isGreatest_common]
  rcases negotiated_of_advertises hknown h with ⟨hlt, herror⟩ | ⟨hle, v, hok, hv⟩
  · constructor
    · rintro ⟨v, hv, -⟩
      rw [herror] at hv
      cases hv
    · rintro ⟨hle, -⟩
      exact absurd hlt (Int.not_lt.mpr hle)
  · constructor
    · rintro ⟨v', hv', hn⟩
      cases hok.symm.trans hv'
      exact ⟨hle, Option.some.inj (hn.symm.trans hv)⟩
    · rintro ⟨-, rfl⟩
      exact ⟨v, hok, hv⟩

private theorem refuses_negotiated (hknown : t.someVersions k = .ok known) (h : peer.Advertises k a b) :
    (negotiated t peer).Refuses k ↔ ∀ n ∈ known.toList, ¬ (a ≤ n ∧ n ≤ b) := by
  rw [Versions.not_exists_common]
  rcases negotiated_of_advertises hknown h with ⟨hlt, herror⟩ | ⟨hle, v, hok, -⟩
  · exact ⟨fun _ => hlt, fun _ => ⟨_, herror⟩⟩
  · constructor
    · rintro ⟨cause, herror⟩
      rw [hok] at herror
      cases herror
    · intro hlt
      exact absurd hlt (Int.not_lt.mpr hle)

/-- Asking for one version is negotiating with a peer that knows no other. -/
private theorem fixed_eq_negotiated {version : Value} {n : Int} (hsupported : t.supportedVersions k = .ok known)
    (hknown : t.someVersions k = .ok known) (hempty : known.isEmpty = false) (hn : version.integer? = some n)
    (hget : peer.get? k = .ok (some (.tuple [version, version]))) :
    (n ∈ known.toList ∧ fixed t version k = .ok version ∧ negotiated t peer k = .ok version) ∨
      n ∉ known.toList ∧ (negotiated t peer).Refuses k ∧ (∀ v, fixed t version k ≠ .ok v) ∧
        (Sayable version known → (fixed t version).Refuses k) := by
  have hfixed := fixed_of_known hsupported hempty hn
  have hnegotiated := negotiated_of_range hknown hget rfl hn hn
  by_cases hmem : n ∈ known.toList
  · have hends := Versions.mem_toList.mp hmem
    refine .inl ⟨hmem, hfixed.trans (if_pos hmem), ?_⟩
    rw [hnegotiated, if_neg (by omega), if_neg (by omega)]
  · have hends := mt Versions.mem_toList.mpr hmem
    refine .inr ⟨hmem, ⟨_, hnegotiated.trans (if_pos (by omega))⟩, ?_, refuses_fixed hsupported hempty hn hmem⟩
    intro v hv
    rw [hfixed, if_neg hmem] at hv
    cases hv

/-- What a ready-made resolver chooses is a known version. -/
private theorem ReadyMade.mem_of_chosen {r : Resolver} (hr : ReadyMade t r) {kind : ApiKey} (hk : k.toKey? = some kind)
    (hsupported : t.supportedVersions k = .ok known) (hempty : known.isEmpty = false) {v : Value} (h : r k = .ok v) :
    ∃ n, v.integer? = some n ∧ n ∈ known.toList := by
  have hle : known.lowest ≤ known.highest := Int.not_lt.mp (of_decide_eq_false hempty)
  have hknown := Tables.someVersions_of_supported hsupported
  rw [if_neg (by simp [hempty])] at hknown
  cases hr with
  | latest =>
    cases (latest_of_known hknown).symm.trans h
    exact ⟨_, rfl, Versions.mem_toList.mpr ⟨hle, Int.le_refl _⟩⟩
  | oldest =>
    cases (oldest_of_known hknown).symm.trans h
    exact ⟨_, rfl, Versions.mem_toList.mpr ⟨Int.le_refl _, hle⟩⟩
  | @fixed version n hn =>
    rw [fixed_of_known hsupported hempty hn] at h
    split at h
    · cases h
      exact ⟨n, hn, ‹_›⟩
    · cases h
  | negotiated hpeer =>
    rcases hpeer.advertises (Value.isHashable_of_toKey? hk) with hnone | ⟨a, b, hab⟩
    · rw [negotiated_of_none hk hnone] at h
      cases h
    · rcases negotiated_of_advertises hknown hab with ⟨-, herror⟩ | ⟨-, w, hok, hw⟩
      · rw [herror] at h
        cases h
      · cases hok.symm.trans h
        exact ⟨_, hw, ((chooses_negotiated hknown hab).mp ⟨v, h, hw⟩).1.1⟩

/-- If no range of versions is empty, then for every known key:
* `latest` and `oldest` choose the greatest and the least known version;
* a version is negotiated if and only if the peer knows the key and the version is the greatest one in both ranges,
  and there is none exactly if the peer does not know the key or the ranges have nothing in common; what comes back is
  the upper bound as the peer gave it, unless a lower version is the greatest known one;
* one version is chosen if and only if it is known, as it is in negotiating with a peer that knows no other; then it
  comes back as it was given, and otherwise it is refused, if the refusal can be put into words;
* whatever is chosen is a known version between the oldest and the latest one. -/
theorem choices_are_shared {kind : ApiKey} (ht : ∀ k r, t.versions k = some r → r.lowest ≤ r.highest)
    (hk : t.lookup k = .ok kind) :
    ∃ known, t.supportedVersions k = .ok known ∧
      (∃ highest, latest t k = .ok (.int highest) ∧ IsGreatest {n | n ∈ known.toList} highest) ∧
      (∃ lowest, oldest t k = .ok (.int lowest) ∧ IsLeast {n | n ∈ known.toList} lowest) ∧
      (∀ peer : KeyedValues, peer.IntegerBounds →
        (∀ n, (negotiated t peer).Chooses k n ↔
          ∃ a b, peer.Advertises k a b ∧ IsGreatest {n | n ∈ known.toList ∧ a ≤ n ∧ n ≤ b} n) ∧
        ((negotiated t peer).Refuses k ↔
          peer.get? k = .ok none ∨ ∃ a b, peer.Advertises k a b ∧ ∀ n ∈ known.toList, ¬ (a ≤ n ∧ n ≤ b)) ∧
        ∀ {bounds v w b u}, peer.get? k = .ok (some bounds) → bounds.pair = .ok (v, w) → w.integer? = some b →
          negotiated t peer k = .ok u → u = if known.highest < b then .int known.highest else w) ∧
      (∀ version n, version.integer? = some n →
        ∃ peer, KeyedValues.ofPairs [(k, .tuple [version, version])] = .ok peer ∧
          ((n ∈ known.toList ∧ fixed t version k = .ok version ∧ negotiated t peer k = .ok version) ∨
            n ∉ known.toList ∧ (negotiated t peer).Refuses k ∧ (∀ v, fixed t version k ≠ .ok v) ∧
              (Sayable version known → (fixed t version).Refuses k))) ∧
      ∀ {r v}, ReadyMade t r → r k = .ok v →
        ∃ n lowest highest, v.integer? = some n ∧ n ∈ known.toList ∧
          oldest t k = .ok (.int lowest) ∧ latest t k = .ok (.int highest) ∧ lowest ≤ n ∧ n ≤ highest := by
  obtain ⟨hkey, known, hversions, hsupported⟩ := Tables.supportedVersions_of_lookup hk
  have hle := ht kind known hversions
  have hempty : known.isEmpty = false := decide_eq_false (Int.not_lt.mpr hle)
  have hhashable := Value.isHashable_of_toKey? hkey
  have hknown := Tables.someVersions_of_supported hsupported
  rw [if_neg (by simp [hempty])] at hknown
  have hlatest := latest_of_known hknown
  have holdest := oldest_of_known hknown
  refine ⟨known, hsupported, ⟨_, hlatest, Versions.isGreatest_highest hle⟩,
    ⟨_, holdest, Versions.isLeast_lowest hle⟩, ?_, ?_, ?_⟩
  · intro peer hpeer
    -- Either the peer does not know the key, or it advertises a range for it.
    refine ⟨?_, ?_, ?_⟩
    · intro n
      constructor
      · intro hchooses
        rcases hpeer.advertises hhashable with hnone | ⟨a, b, hab⟩
        · obtain ⟨v, hv, -⟩ := hchooses
          rw [negotiated_of_none hkey hnone] at hv
          cases hv
        · exact ⟨a, b, hab, (chooses_negotiated hknown hab).mp hchooses⟩
      · rintro ⟨a, b, hab, hgreatest⟩
        exact (chooses_negotiated hknown hab).mpr hgreatest
    · constructor
      · intro hrefuses
        rcases hpeer.advertises hhashable with hnone | ⟨a, b, hab⟩
        · exact .inl hnone
        · exact .inr ⟨a, b, hab, (refuses_negotiated hknown hab).mp hrefuses⟩
      · rintro (hnone | ⟨a, b, hab, hapart⟩)
        · exact ⟨_, negotiated_of_none hkey hnone⟩
        · exact (refuses_negotiated hknown hab).mpr hapart
    · intro bounds v w b u hget hpair hb hu
      obtain ⟨a, ha⟩ := hpeer.lowest hget hpair
      rw [negotiated_of_range hknown hget hpair ha hb] at hu
      split at hu <;> cases hu
      rfl
  · intro version n hn
    obtain ⟨peer, hpeer, hget⟩ := KeyedValues.get?_single hkey version
    exact ⟨peer, hpeer, fixed_eq_negotiated hsupported hknown hempty hn hget⟩
  · intro r v hr hv
    obtain ⟨n, hn, hmem⟩ := hr.mem_of_chosen hkey hsupported hempty hv
    exact ⟨n, _, _, hn, hmem, holdest, hlatest, Versions.mem_toList.mp hmem⟩

/-- A peer that knows more versions, one whose range is upside down, and a version that is too high. -/
theorem choices_are_shared_api_versions :
    let t := Tables.standard
    let peer (lowest highest : Int) : KeyedValues := [(.key .apiVersions, .tuple [.int lowest, .int highest])]
    (∀ k r, t.versions k = some r → r.lowest ≤ r.highest) ∧ t.lookup (.int 18) = .ok .apiVersions ∧
      (peer 2 9).IntegerBounds ∧ (negotiated t (peer 2 9)).Chooses (.int 18) 3 ∧
      (negotiated t (peer 2 1)).Refuses (.int 18) ∧ ReadyMade t (fixed t (.int 4)) ∧
      (fixed t (.int 4)).Refuses (.int 18) := by
  intro t peer
  have ht : ∀ k r, t.versions k = some r → r.lowest ≤ r.highest := by
    rintro k r ⟨⟩
    cases k <;> decide
  have hk : t.lookup (.int 18) = .ok .apiVersions := rfl
  have hbounds (lowest highest : Int) : (peer lowest highest).IntegerBounds := by
    intro e he
    cases List.mem_singleton.mp he
    exact ⟨lowest, highest, _, _, rfl, rfl, rfl⟩
  have hadvertises (lowest highest : Int) : (peer lowest highest).Advertises (.int 18) lowest highest :=
    ⟨_, rfl, _, _, rfl, rfl, rfl⟩
  obtain ⟨known, hknown, -, -, hnegotiated, hfixed, -⟩ := choices_are_shared ht hk
  cases hknown
  refine ⟨ht, hk, hbounds 2 9, ?_, ?_, .fixed rfl, ?_⟩
  · exact ((hnegotiated _ (hbounds 2 9)).1 3).mpr
      ⟨2, 9, hadvertises 2 9, Versions.isGreatest_common.mpr (by decide)⟩
  · exact (hnegotiated _ (hbounds 2 1)).2.1.mpr
      (.inr ⟨2, 1, hadvertises 2 1, Versions.not_exists_common.mpr (by decide)⟩)
  · obtain ⟨_, -, ⟨-, hok, -⟩ | ⟨-, -, -, hrefuses⟩⟩ := hfixed (.int 4) 4 rfl
    · cases hok
    · exact hrefuses ⟨by decide, by decide, by decide⟩

/-- A peer that gives a truth value for the number 1 gets it back, although the greatest common version is the number.
And the refusal of a version with too many digits cannot be put into words, although negotiating with a peer that knows
no other is refused as ever. -/
theorem bounds_are_kept :
    let t := Tables.standard
    let flagged : KeyedValues := [(.int 3, .list [.int 0, .bool true])]
    let huge : Value := .int (10 ^ Numeral.maxDigits)
    let peer : KeyedValues := [(.int 3, .tuple [huge, huge])]
    flagged.Advertises (.int 3) 0 1 ∧ negotiated t flagged (.int 3) = .ok (.bool true) ∧
      negotiated t flagged (.int 3) ≠ .ok (.int 1) ∧
      (negotiated t peer).Refuses (.int 3) ∧ fixed t huge (.int 3) = .error .longInteger := by
  intro t flagged huge peer
  have hflagged : flagged.Advertises (.int 3) 0 1 := ⟨_, rfl, _, _, rfl, rfl, rfl⟩
  have hchosen : negotiated t flagged (.int 3) = .ok (.bool true) := rfl
  have hsupported : t.supportedVersions (.int 3) = .ok ⟨0, 12⟩ := rfl
  have hpow (m : Nat) (hm : 12 < m) : (12 : Int) < 10 ^ m := by
    exact_mod_cast Nat.lt_trans hm (Nat.lt_pow_self (by decide))
  have hlt : (12 : Int) < 10 ^ Numeral.maxDigits := hpow _ (by decide)
  have hmem : (10 ^ Numeral.maxDigits : Int) ∉ Versions.toList ⟨0, 12⟩ := by
    intro h
    exact absurd (Versions.mem_toList.mp h).2 (Int.not_le.mpr hlt)
  have hlong : huge.stop? = some .long := by
    rw [Value.stop?_int, if_pos (Numeral.isLong_pow (Nat.le_refl _))]
  refine ⟨hflagged, hchosen, ?_, ?_, ?_⟩
  · rw [hchosen]
    intro h
    cases h
  · refine (refuses_negotiated rfl ⟨_, rfl, huge, huge, rfl, rfl, rfl⟩).mpr ?_
    rintro n hn ⟨hle, -⟩
    exact absurd (Versions.mem_toList.mp hn).2 (Int.not_le.mpr (Int.lt_of_lt_of_le hlt hle))
  · rw [fixed_of_known hsupported rfl rfl, if_neg hmem, Failure.showing, hlong]
    rfl

end Resolver

end RequestSamples
