import RequestSamples.Names.Twister

/-!
# Seeding in laps

Seeding replaces the words of the ring one place after the other, each by a mixture of itself and the word before it.
As far as the places go up, this is one pass over the words behind a word (`toList_rounds`).  At the last place the word
at place zero becomes the same, and then the word at place one is replaced once more, which closes a lap
(`toList_rounds_lap`).  A seed of 32 bits takes two laps (`toList_ofSeed`), and in this form its words can be computed
inside the logic.
-/

namespace RequestSamples.Names.Twister

/-- What a word adds to its successor. -/
def scramble (w : UInt32) : UInt32 := w ^^^ w >>> 30

/-- Replaces the words from a place on, where `before` is the word in front of them. -/
def pass (f : Nat → UInt32 → UInt32 → UInt32) : (place : Nat) → (before : UInt32) → List UInt32 → List UInt32
  | _, _, [] => []
  | place, before, w :: ws => f place w (scramble before) :: pass f (place + 1) (f place w (scramble before)) ws

/-- Replaces the word at place one once more, after the last word has been copied to place zero. -/
def close (f : Nat → UInt32 → UInt32 → UInt32) : List UInt32 → List UInt32
  | _ :: w :: ws =>
    let last := (w :: ws).getLastD 0
    last :: f 1 w (scramble last) :: ws
  | ws => ws

/-- Replaces the words from a place on to the last one, and the one at place one. -/
def lap (f : Nat → UInt32 → UInt32 → UInt32) (place : Nat) (ws : List UInt32) : List UInt32 :=
  close f (ws.take place ++ pass f place (ws.getD (place - 1) 0) (ws.drop place))

/-- Replaces the word at the next place, so many times. -/
def rounds (f : Nat → UInt32 → UInt32 → UInt32) :
    (n : Nat) → Vector UInt32 624 × Fin 624 → Vector UInt32 624 × Fin 624
  | 0, s => s
  | n + 1, (ws, i) => rounds f n (mix (f i) ws i)

variable {f : Nat → UInt32 → UInt32 → UInt32}

private theorem length_pass (place : Nat) (before : UInt32) (ws : List UInt32) :
    (pass f place before ws).length = ws.length := by
  induction ws generalizing place before with
  | nil => rfl
  | cons w ws ih => rw [pass, List.length_cons, ih, List.length_cons]

private theorem getElem_of_toList {s : Vector UInt32 624} {i : Fin 624} {front back : List UInt32} {w : UInt32}
    (h : s.toList = front ++ w :: back) (hi : i.val = front.length) : s[i] = w := by
  have hfound : s.toList[i.val]? = some s[i] := by simp
  have hw : (front ++ w :: back)[i.val]? = some w := by
    rw [hi]
    simp
  rw [h, hw] at hfound
  exact (Option.some.inj hfound).symm

private theorem toList_set_of_toList {s : Vector UInt32 624} {i : Fin 624} {front back : List UInt32} {w v : UInt32}
    (h : s.toList = front ++ w :: back) (hi : i.val = front.length) :
    (s.set i v).toList = front ++ v :: back := by
  rw [Vector.toList_set, h, hi, List.set_append_right _ _ (Nat.le_refl _), Nat.sub_self, List.set_cons_zero]

/-- The word at a place is mixed with the one before it. -/
private theorem toList_set_mixed {s : Vector UInt32 624} {i : Fin 624} {front back : List UInt32} {before w : UInt32}
    (g : UInt32 → UInt32 → UInt32) (h : s.toList = front ++ before :: w :: back) (hi : i.val = front.length + 1) :
    (s.set i (g s[i] (s[i - 1] ^^^ s[i - 1] >>> 30))).toList = front ++ before :: g w (scramble before) :: back := by
  have happend : front ++ before :: w :: back = (front ++ [before]) ++ w :: back := by simp
  have hlength : (front ++ [before]).length = front.length + 1 := by simp
  have hprevious : (i - 1).val = front.length := by
    rw [Fin.sub_def]
    show (624 - 1 + i.val) % 624 = _
    omega
  rw [getElem_of_toList h hprevious, getElem_of_toList (h.trans happend) (hi.trans hlength.symm),
    toList_set_of_toList (h.trans happend) (hi.trans hlength.symm), List.append_assoc]
  rfl

private theorem toList_mix {s : Vector UInt32 624} {i : Fin 624} {front back : List UInt32} {before w : UInt32}
    (g : UInt32 → UInt32 → UInt32) (h : s.toList = front ++ before :: w :: back) (hi : i.val = front.length + 1)
    (hlast : i ≠ 623) :
    (mix g s i).1.toList = front ++ before :: g w (scramble before) :: back ∧ (mix g s i).2.val = i.val + 1 := by
  have hplace : i.val ≠ 623 := fun h => hlast (Fin.ext h)
  rw [mix, if_neg hlast]
  refine ⟨toList_set_mixed g h hi, ?_⟩
  show (i.val + 1) % 624 = _
  omega

/-- When the last word has been mixed, the word at place zero becomes the same. -/
private theorem toList_mix_last {s : Vector UInt32 624} {front : List UInt32} {before w : UInt32}
    (g : UInt32 → UInt32 → UInt32) (h : s.toList = front ++ [before, w]) (hfront : front.length = 622) :
    (mix g s 623).1.toList = (front ++ [before, g w (scramble before)]).set 0 (g w (scramble before)) ∧
      (mix g s 623).2 = 1 := by
  have hplace : (623 : Fin 624).val = front.length + 1 := by
    rw [hfront]
    rfl
  have hmixed := toList_set_mixed g h hplace
  have hlast : (623 : Fin 624).val = (front ++ [before]).length := by
    rw [hplace, List.length_append]
    rfl
  have hword := getElem_of_toList (hmixed.trans (List.append_assoc _ [before] _).symm) hlast
  rw [mix, if_pos rfl]
  refine ⟨?_, rfl⟩
  dsimp only
  rw [hword, Vector.toList_set, hmixed]

variable {s : Vector UInt32 624 × Fin 624} {front back ws : List UInt32} {before : UInt32}

/-- Rounds that do not come to the last place are one pass. -/
theorem toList_rounds (h : s.1.toList = front ++ before :: (ws ++ back)) (hplace : s.2.val = front.length + 1)
    (hback : back ≠ []) :
    (rounds f ws.length s).1.toList = front ++ before :: (pass f s.2.val before ws ++ back) ∧
      (rounds f ws.length s).2.val = s.2.val + ws.length := by
  induction ws generalizing s front before with
  | nil => exact ⟨h, rfl⟩
  | cons w ws ih =>
    have hsize := congrArg List.length h
    have hpos := List.length_pos_iff.mpr hback
    simp only [Vector.length_toList, List.length_append, List.length_cons] at hsize
    have hlast : s.2 ≠ 623 := by
      intro heq
      have hval : s.2.val = 623 := congrArg Fin.val heq
      omega
    obtain ⟨hmix, hnext⟩ := toList_mix (f s.2.val) h hplace hlast
    have hplace' : (mix (f s.2.val) s.1 s.2).2.val = (front ++ [before]).length + 1 := by
      rw [hnext, hplace, List.length_append]
      rfl
    obtain ⟨hrest, hend⟩ := ih (hmix.trans (List.append_assoc front [before] _).symm) hplace'
    rw [hnext, List.append_assoc] at hrest
    rw [hnext] at hend
    refine ⟨hrest, hend.trans ?_⟩
    rw [List.length_cons]
    omega

/-- Rounds up to the last place are one pass, and the word at place zero follows the last one. -/
private theorem toList_rounds_last {last : UInt32} (h : s.1.toList = front ++ before :: ws)
    (hplace : s.2.val = front.length + 1) (hlast : (pass f s.2.val before ws).getLast? = some last) :
    (rounds f ws.length s).1.toList = (front ++ before :: pass f s.2.val before ws).set 0 last ∧
      (rounds f ws.length s).2 = 1 := by
  induction ws generalizing s front before with
  | nil => cases hlast
  | cons w ws ih =>
    have hsize := congrArg List.length h
    simp only [Vector.length_toList, List.length_append, List.length_cons] at hsize
    cases ws with
    | nil =>
      have heq : s.2 = 623 := Fin.ext (by rw [hplace]; show front.length + 1 = 623; simp at hsize; omega)
      obtain ⟨hmix, hnext⟩ := toList_mix_last (f s.2.val) h (by simp at hsize; omega)
      rw [← heq] at hmix hnext
      cases hlast
      exact ⟨hmix, hnext⟩
    | cons v ws =>
      have hnot : s.2 ≠ 623 := by
        intro heq
        have hval : s.2.val = 623 := congrArg Fin.val heq
        rw [List.length_cons] at hsize
        omega
      obtain ⟨hmix, hnext⟩ := toList_mix (f s.2.val) h hplace hnot
      have hplace' : (mix (f s.2.val) s.1 s.2).2.val = (front ++ [before]).length + 1 := by
        rw [hnext, hplace, List.length_append]
        rfl
      rw [pass, pass, List.getLast?_cons_cons, ← pass, ← hnext] at hlast
      obtain ⟨hrest, hend⟩ := ih (hmix.trans (List.append_assoc front [before] _).symm) hplace' hlast
      rw [hnext, List.append_assoc] at hrest
      exact ⟨hrest, hend⟩

private theorem rounds_add (m n : Nat) (s : Vector UInt32 624 × Fin 624) :
    rounds f (m + n) s = rounds f n (rounds f m s) := by
  induction m generalizing s with
  | zero => rw [Nat.zero_add, rounds]
  | succ m ih =>
    obtain ⟨ws, i⟩ := s
    rw [Nat.succ_add, rounds, rounds, ih]

private theorem getLast?_append_cons (hws : ws ≠ []) : (front ++ before :: ws).getLast? = ws.getLast? := by
  obtain ⟨w, ws, rfl⟩ := List.exists_cons_of_ne_nil hws
  rw [List.getLast?_append, List.getLast?_cons_cons, List.getLast?_cons]
  rfl

/-- The round after the last place closes the lap. -/
private theorem toList_rounds_close {last : UInt32} (h : s.1.toList = ws.set 0 last) (hlast : ws.getLast? = some last)
    (hplace : s.2 = 1) : (rounds f 1 s).1.toList = close f ws ∧ (rounds f 1 s).2 = 2 := by
  have hlength := congrArg List.length h
  rw [Vector.length_toList, List.length_set] at hlength
  have hone : s.2.val = ([] : List UInt32).length + 1 := by
    rw [hplace]
    rfl
  rcases ws with _ | ⟨x, _ | ⟨w, _ | ⟨v, ws⟩⟩⟩
  · cases hlength
  · cases hlength
  · cases hlength
  · have hwords : s.1.toList = [] ++ last :: ([w] ++ v :: ws) := h
    have hclosing : (w :: v :: ws).getLastD 0 = last := by
      rw [List.getLast?_cons_cons] at hlast
      rw [List.getLastD_eq_getLast?, hlast, Option.getD_some]
    obtain ⟨hround, hnext⟩ := toList_rounds (f := f) hwords hone (List.cons_ne_nil _ _)
    rw [hone] at hround hnext
    rw [close, hclosing]
    exact ⟨hround, Fin.ext hnext⟩

private theorem exists_lap_eq (f : Nat → UInt32 → UInt32 → UInt32) {place : Nat} (hplace : 0 < place)
    (hlength : place ≤ ws.length) :
    ∃ front before, ws = front ++ before :: ws.drop place ∧ place = front.length + 1 ∧
      lap f place ws = close f (front ++ before :: pass f place before (ws.drop place)) := by
  have hbefore : place - 1 < ws.length := by omega
  have hsucc : place - 1 + 1 = place := by omega
  have htake : ws.take place = ws.take (place - 1) ++ [ws[place - 1]] := by
    rw [List.take_append_getElem, hsucc]
  have hget : ws.getD (place - 1) 0 = ws[place - 1] := by
    rw [List.getD_eq_getElem?_getD, List.getElem?_eq_getElem hbefore, Option.getD_some]
  refine ⟨ws.take (place - 1), ws[place - 1], ?_, ?_, ?_⟩
  · rw [List.append_cons, ← htake, List.take_append_drop]
  · rw [List.length_take]
    omega
  · rw [lap, hget, htake, ← List.append_cons]

/-- The rounds up to the last place and the one after it are one lap. -/
theorem toList_rounds_lap {n : Nat} (hplace : 0 < s.2.val) (hn : s.2.val + n = 625) :
    (rounds f n s).1.toList = lap f s.2.val s.1.toList ∧ (rounds f n s).2 = 2 := by
  obtain ⟨n, rfl⟩ : ∃ m, n = m + 1 := ⟨n - 1, by omega⟩
  have hsize : s.1.toList.length = 624 := Vector.length_toList
  have hwithin : s.2.val ≤ s.1.toList.length := by omega
  obtain ⟨front, before, hwords, hfront, hlap⟩ := exists_lap_eq f hplace hwithin
  have hbehind : (s.1.toList.drop s.2.val).length = n := by
    rw [List.length_drop]
    omega
  have hne : pass f s.2.val before (s.1.toList.drop s.2.val) ≠ [] := by
    rw [← List.length_pos_iff, length_pass]
    omega
  obtain ⟨last, hlast⟩ := Option.ne_none_iff_exists'.mp (mt List.getLast?_eq_none_iff.mp hne)
  obtain ⟨hround, hnext⟩ := toList_rounds_last hwords hfront hlast
  rw [hbehind] at hround hnext
  rw [hlap, rounds_add]
  exact toList_rounds_close hround ((getLast?_append_cons hne).trans hlast) hnext

/-- What becomes of a word that is mixed with a key of one word. -/
def keyed (k : UInt32) (_ : Nat) (w mixed : UInt32) : UInt32 := (w ^^^ mixed * 1664525) + k

/-- What becomes of a word that is mixed with its place. -/
def placed (i : Nat) (w mixed : UInt32) : UInt32 := (w ^^^ mixed * 1566083941) - UInt32.ofNat i

private theorem mixKey_nil_eq_rounds (k : UInt32) (n : Nat) (s : Vector UInt32 624 × Fin 624) :
    mixKey [k] n [] 1 s = rounds (keyed k) n s := by
  induction n generalizing s with
  | zero => rfl
  | succ n ih =>
    obtain ⟨ws, i⟩ := s
    rw [rounds, ← ih]
    rfl

private theorem mixKey_eq_rounds (k : UInt32) (n : Nat) (s : Vector UInt32 624 × Fin 624) :
    mixKey [k] n [k] 0 s = rounds (keyed k) n s := by
  cases n with
  | zero => rfl
  | succ n =>
    obtain ⟨ws, i⟩ := s
    have hfirst : (fun w m => (w ^^^ m * 1664525) + k + UInt32.ofNat 0) = keyed k i := by
      funext w m
      exact UInt32.add_zero _
    rw [rounds, ← mixKey_nil_eq_rounds, mixKey, hfirst]

private theorem mixPlaces_eq_rounds (n : Nat) (s : Vector UInt32 624 × Fin 624) :
    mixPlaces n s = rounds placed n s := by
  induction n generalizing s with
  | zero => rfl
  | succ n ih =>
    obtain ⟨ws, i⟩ := s
    rw [rounds, ← ih]
    rfl

private theorem length_fill (n : Nat) (w : UInt32) (i : Nat) (ws : List UInt32) :
    (basic.fill n w i ws).length = n + ws.length := by
  induction n generalizing w i ws with
  | zero => rw [basic.fill, List.length_reverse, Nat.zero_add]
  | succ n ih =>
    rw [basic.fill, ih, List.length_cons]
    omega

private theorem toList_basic : basic.toList = basic.fill 624 19650218 0 [] := by
  have hlength : (basic.fill 624 19650218 0 []).length = 624 := length_fill 624 19650218 0 []
  rw [basic, Vector.toList_ofFn]
  apply List.ext_getElem
  · rw [List.length_ofFn, hlength]
  · intro i _ hi
    rw [List.getElem_ofFn, List.getD_eq_getElem?_getD, List.getElem?_eq_getElem hi, Option.getD_some]

/-- The words of the ring of a key of one word. -/
def inLaps (k : UInt32) : List UInt32 :=
  (lap placed 2 (lap (keyed k) 1 (basic.fill 624 19650218 0 []))).set 0 0x80000000

private theorem ofKey_eq (key : List UInt32) :
    ofKey key = ⟨(mixPlaces 623 (mixKey key (max 624 key.length) key 0 (basic, 1))).1.set 0 0x80000000
      (Nat.zero_lt_succ 623), 0⟩ := by
  -- The ring becomes a variable before the pair of words and place is taken apart; nothing is computed this way.
  delta ofKey
  generalize mixKey _ _ _ _ _ = s
  dsimp only

private theorem toList_ofKey (k : UInt32) : (ofKey [k]).words.toList = inLaps k := by
  have hcount : max 624 [k].length = 624 := by simp
  have hone : (1 : Fin 624).val = 1 := rfl
  have htwo : (2 : Fin 624).val = 2 := rfl
  obtain ⟨hwords, hplace⟩ := toList_rounds_lap (f := keyed k) (s := (basic, 1)) (n := 624) (by decide) (by decide)
  obtain ⟨hlap, -⟩ := toList_rounds_lap (f := placed) (s := rounds (keyed k) 624 (basic, 1)) (n := 623)
    (by rw [hplace]; decide) (by rw [hplace]; decide)
  dsimp only at hwords
  rw [hone, toList_basic] at hwords
  rw [hplace, htwo, hwords] at hlap
  rw [ofKey_eq, hcount, mixKey_eq_rounds, mixPlaces_eq_rounds, Vector.toList_set, hlap, inLaps]

/-- The words of the ring of a seed of 32 bits, its sign aside. -/
theorem toList_ofSeed {seed : Int} (h : seed.natAbs < 2 ^ 32) :
    (ofSeed seed).words.toList = inLaps (UInt32.ofNat seed.natAbs) := by
  have hwords : keyWords seed.natAbs = [UInt32.ofNat seed.natAbs] := by
    rw [keyWords, keyWords.go, if_pos h]
  rw [ofSeed, hwords, toList_ofKey]

private theorem size_inLaps (k : UInt32) : (inLaps k).toArray.size = 624 := by
  rw [List.size_toArray, ← toList_ofKey, Vector.length_toList]

private theorem eq_of_toList {t : Twister} {ws : List UInt32} (hwords : t.words.toList = ws) (hnext : t.next = 0)
    (hsize : ws.toArray.size = 624) : t = ⟨⟨ws.toArray, hsize⟩, 0⟩ := by
  subst hwords
  obtain ⟨words, next⟩ := t
  cases hnext
  rfl

/-- The ring of a seed of 32 bits, computed in laps. -/
theorem ofSeed_eq {seed : Int} (h : seed.natAbs < 2 ^ 32) :
    ofSeed seed = ⟨⟨(inLaps (UInt32.ofNat seed.natAbs)).toArray, size_inLaps _⟩, 0⟩ :=
  eq_of_toList (toList_ofSeed h) (congrArg next (ofKey_eq (keyWords seed.natAbs))) (size_inLaps _)

end RequestSamples.Names.Twister
