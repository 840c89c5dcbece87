import RequestSamples.Proofs.Names.Choices
import RequestSamples.Proofs.Populator.Filled
import RequestSamples.Proofs.Populator.NameBatch

/-!
# Groups

The requests that describe groups list two of them, and the populators draw a name for each.  The names differ if and
only if the choices behind them do (`group_names_differ_iff`).  Nothing keeps the choices from being the same twice: a
seed is known for which they are (`group_names_coincide`).
-/

namespace RequestSamples.Populator

open RequestSamples.Names (Choice Chosen Seeded Source Twister)

/-- The field in which a request lists its groups. -/
def groupsField? : Populator → Option String
  | describeGroups => some "groups"
  | consumerGroupDescribe => some "group_ids"
  | _ => none

/-- The two names that are drawn are the groups of the request. -/
private theorem groups_of_drawAll {σ : Type} {source : NameSource σ} {s s' : σ} {p : Populator} {field : String}
    (hp : p.groupsField? = some field) {v first second : Value} (hfits : p.fits v = .ok ())
    (hdraws : drawAll source [.name, .name] s = (.ok [first, second], s')) :
    ∃ writes, p.run source v s = (.ok (), ⟨s', writes⟩) ∧
      (assign writes v).field field = .ok (.list [first, second]) := by
  have hdemand : p.demand = [.name, .name] ∧ p.fields [first, second] = .ok [(field, .list [first, second])] := by
    cases p <;> cases hp <;> exact ⟨rfl, rfl⟩
  obtain ⟨shape, hshape⟩ : ∃ shape, p.shape? = some shape := by
    cases p <;> cases hp <;> exact ⟨_, rfl⟩
  rw [← hdemand.1] at hdraws
  refine ⟨_, run_of_drawAll hfits hdraws hdemand.2, ?_⟩
  exact field_assign_singleton (hasShape_of_fits hshape hfits)

variable {d : Nat} {s : Seeded} {s' : Source} {vs : List Value}

private theorem chosen_of_draw {v : Value} (hd : s.suffixDigits = Seeded.digitsOf (.int d))
    (h : (Session.drawFrom Source.draws .name).on (.seeded s) = (.ok v, s')) :
    ∃ (c : Choice d) (t : Twister), Chosen s.twister c t ∧ v = .text c.text ∧ s' = .seeded { s with twister := t } := by
  have hdraw : ((Seeded.name.on s).1, Source.seeded (Seeded.name.on s).2) = (.ok v, s') := h
  rcases hname : Seeded.name.on s with ⟨r, r'⟩
  rw [hname, Prod.mk.injEq] at hdraw
  obtain ⟨rfl, rfl⟩ := hdraw
  obtain ⟨c, t, hc, hv, rfl⟩ := Seeded.chosen_of_name (Seeded.digits_of_name hd hname) hname
  exact ⟨c, t, hc, hv, rfl⟩

/-- Two names have been drawn only if the choices for one and then those for the other have been made. -/
private theorem chosen_of_drawAll (hd : s.suffixDigits = Seeded.digitsOf (.int d))
    (h : drawAll Source.draws [.name, .name] (.seeded s) = (.ok vs, s')) :
    ∃ (c c' : Choice d) (t t' : Twister), Chosen s.twister c t ∧ Chosen t c' t' ∧
      vs = [.text c.text, .text c'.text] ∧ s' = .seeded { s with twister := t' } := by
  obtain ⟨v, r, vs, hfirst, h, rfl⟩ := exists_of_drawAll_cons h
  obtain ⟨c, t, hc, rfl, rfl⟩ := chosen_of_draw hd hfirst
  obtain ⟨v', r', vs, hsecond, h, rfl⟩ := exists_of_drawAll_cons h
  obtain ⟨c', t', hc', rfl, rfl⟩ := chosen_of_draw (s := { s with twister := t }) hd hsecond
  cases h
  exact ⟨c, c', t, t', hc, hc', rfl, rfl⟩

private theorem drawAll_of_chosen {c c' : Choice d} {t t' : Twister} (hd : s.suffixDigits = .ok d)
    (hc : Chosen s.twister c t) (hc' : Chosen t c' t') :
    drawAll Source.draws [.name, .name] (.seeded s) =
      (.ok [.text c.text, .text c'.text], .seeded { s with twister := t' }) := by
  rw [drawAll_cons (Source.draw_of_chosen hd hc),
    drawAll_cons (Source.draw_of_chosen (s := { s with twister := t }) hd hc')]
  rfl

/-- The groups are two names, and they are different if and only if one of the choices is. -/
theorem group_names_differ_iff {p : Populator} {field : String} (hp : p.groupsField? = some field) {v : Value}
    (hfits : p.fits v = .ok ()) (hd : s.suffixDigits = Seeded.digitsOf (.int d))
    (hdraws : drawAll Source.draws [.name, .name] (.seeded s) = (.ok vs, s')) :
    ∃ (writes : Entries) (c c' : Choice d) (t t' : Twister), Chosen s.twister c t ∧ Chosen t c' t' ∧
      p.run Source.draws v (.seeded s) = (.ok (), ⟨.seeded { s with twister := t' }, writes⟩) ∧
      (assign writes v).field field = .ok (.list [.text c.text, .text c'.text]) ∧
      c.text ≠ "" ∧ c'.text ≠ "" ∧ (c.text ≠ c'.text ↔ c ≠ c') := by
  obtain ⟨c, c', t, t', hc, hc', rfl, rfl⟩ := chosen_of_drawAll hd hdraws
  obtain ⟨writes, hrun, hfield⟩ := groups_of_drawAll hp hfits hdraws
  exact ⟨writes, c, c', t, t', hc, hc', hrun, hfield, c.text_ne_empty, c'.text_ne_empty,
    Choice.text_injective.ne_iff⟩

/-- The choices of the name `zealous_fermi_3eb13b`. -/
def zealousFermi : Choice 6 where
  adjective := ⟨94, by rw [Names.adjectives_length]; decide⟩
  surname := ⟨35, by rw [Names.surnames_length]; decide⟩
  number := ⟨0x3eb13b, by norm_num⟩

theorem group_names_differ_iff_of_seed :
    ∃ (writes : Entries) (first second : String) (s : Source),
      describeGroups.run Source.draws Shape.describeGroups.fresh (Source.ofSeed (some 42)) = (.ok (), ⟨s, writes⟩) ∧
      (assign writes Shape.describeGroups.fresh).field "groups" = .ok (.list [.text first, .text second]) ∧
      first ≠ "" ∧ second ≠ "" ∧ first ≠ second := by
  have hdigits : (Seeded.ofSeed (some 42)).suffixDigits = .ok (6 : Nat) := rfl
  have hd : (Seeded.ofSeed (some 42)).suffixDigits = Seeded.digitsOf (.int (6 : Nat)) := rfl
  have hdraws : ((Choice.suspiciousBrahmagupta.after? (Seeded.ofSeed (some 42)).twister).bind
      zealousFermi.after?).isSome = true := by
    rw [Seeded.twister_ofSeed, Twister.ofSeed_eq (by decide)]
    decide +kernel
  have hfits : describeGroups.fits Shape.describeGroups.fresh = .ok () := rfl
  rw [Source.ofSeed]
  -- The seed is needed for these facts only, and is too much to carry on.
  generalize Seeded.ofSeed (some 42) = s at hdigits hd hdraws
  obtain ⟨t', ht'⟩ := Option.isSome_iff_exists.mp hdraws
  obtain ⟨t, ht, ht'⟩ := Option.bind_eq_some_iff.mp ht'
  have hc := Names.chosen_of_after? ht
  have hc' := Names.chosen_of_after? ht'
  obtain ⟨writes, c, c', r, r', hchosen, hchosen', hrun, hfield, hfirst, hsecond, hdiffer⟩ :=
    group_names_differ_iff rfl hfits hd (drawAll_of_chosen hdigits hc hc')
  obtain ⟨rfl, rfl⟩ := hc.unique hchosen
  obtain ⟨rfl, -⟩ := hc'.unique hchosen'
  exact ⟨writes, _, _, _, hrun, hfield, hfirst, hsecond, hdiffer.mpr (by decide)⟩

/-- The choices of the name `tender_varahamihira_39e33c`. -/
def tenderVarahamihira : Choice 6 where
  adjective := ⟨83, by rw [Names.adjectives_length]; decide⟩
  surname := ⟨110, by rw [Names.surnames_length]; decide⟩
  number := ⟨0x39e33c, by norm_num⟩

/-- The twister of a seeded source from which all has been drawn. -/
private def twister? : Except Failure (List Value) × Source → Option Twister
  | (.ok _, .seeded s) => some s.twister
  | _ => none

private theorem drawAll_of_twister? {ds : List Draw} {t : Twister}
    (h : twister? (drawAll Source.draws ds (.seeded s)) = some t) :
    ∃ vs, drawAll Source.draws ds (.seeded s) = (.ok vs, .seeded { s with twister := t }) := by
  obtain ⟨t', ht'⟩ := Source.exists_twister_of_drawAll ds s
  rcases hvs : drawAll Source.draws ds (.seeded s) with ⟨e | vs, r⟩ <;> rw [hvs] at h ht'
  · cases h
  · cases ht'
    cases h
    exact ⟨vs, rfl⟩

/-- A source of this seed has given other names and ids, and then it gives one name twice. -/
theorem group_names_coincide :
    ∃ vs s writes s',
      drawAll Source.draws [.uuid, .uuid, .uuid, .uuid, .name, .name, .name, .uuid] (Source.ofSeed (some 185480422)) =
        (.ok vs, s) ∧
      describeGroups.run Source.draws Shape.describeGroups.fresh s = (.ok (), ⟨s', writes⟩) ∧
      (assign writes Shape.describeGroups.fresh).field "groups" =
        .ok (.list [.text "tender_varahamihira_39e33c", .text "tender_varahamihira_39e33c"]) := by
  have hdigits : (Seeded.ofSeed (some 185480422)).suffixDigits = .ok (6 : Nat) := rfl
  have htext : tenderVarahamihira.text = "tender_varahamihira_39e33c" := by decide +kernel
  have hdraws : ((twister? (drawAll Source.draws [.uuid, .uuid, .uuid, .uuid, .name, .name, .name, .uuid]
      (Source.ofSeed (some 185480422)))).bind fun t => (tenderVarahamihira.after? t).bind
        tenderVarahamihira.after?).isSome = true := by
    rw [Source.ofSeed, Seeded.ofSeed, Option.getD_some, Twister.ofSeed_eq (by decide)]
    decide +kernel
  have hfits : describeGroups.fits Shape.describeGroups.fresh = .ok () := rfl
  rw [Source.ofSeed] at hdraws ⊢
  generalize Seeded.ofSeed (some 185480422) = s at hdigits hdraws ⊢
  obtain ⟨t'', hdraws⟩ := Option.isSome_iff_exists.mp hdraws
  obtain ⟨t, ht, hdraws⟩ := Option.bind_eq_some_iff.mp hdraws
  obtain ⟨t', ht', ht''⟩ := Option.bind_eq_some_iff.mp hdraws
  obtain ⟨vs, hvs⟩ := drawAll_of_twister? ht
  have htwice := drawAll_of_chosen (s := { s with twister := t }) hdigits (Names.chosen_of_after? ht')
    (Names.chosen_of_after? ht'')
  obtain ⟨writes, hrun, hfield⟩ := groups_of_drawAll rfl hfits htwice
  rw [htext] at hfield
  exact ⟨vs, _, writes, _, hvs, hrun, hfield⟩

end RequestSamples.Populator
