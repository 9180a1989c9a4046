import GrantProbe.Proofs.Case.Rehearse
import GrantProbe.Proofs.Denial.Verdict
import GrantProbe.Proofs.Permissive.Loss

/-!
# How a story ends where everything is permitted

Where everything is permitted no action is denied, so the first check for a denial fails. Up to there
a story goes as it can be rehearsed, unless it is about a seeded model that has been deleted before.

* `Sketch.turn`: how a move turns out; `Turn.meets?`: whether its check passes;
* `Sketch.ending`: how beats end, and whether the seeded model is still there;
* `acts_turn`, `exec_verify_turn`: acting and checking; `ends_beats`: steps, by induction on them.
-/

namespace GrantProbe

open CaseTask (exec)

/-! ## Going through a story -/

/-- **How a move turns out** where everything is permitted. -/
structure Turn where
  succeeded : Bool
  /-- How far the case has come. -/
  sketch : Sketch
  /-- What was seeded and is deleted by the move. -/
  lost : List Cleanable

/-- The check after the move passes, if that can be told. Nothing has been denied, and only a check
for a denial is made after an action that failed. -/
def Turn.meets? (t : Turn) : Option Test → Option Bool
  | none => some true
  | some test =>
    if !t.succeeded || test == .actionDenied then some false
    else if t.sketch.passes (fun _ _ => true) test then some true
    else none

/-- **How beats end:** whether every check passes, and whether the seeded model is still there. -/
structure Ending where
  passed : Bool
  stocked : Bool
  deriving DecidableEq, Repr

namespace Sketch

/-- The move is about the seeded model. -/
def seeksSeeded (k : Sketch) (m : Move) : Bool :=
  !k.model.isOwn && (m == .getRegisteredModel || m == .deleteRegisteredModel)

/-- What comes of a move, if a sketch can tell. -/
def turn (stocked : Bool) (k : Sketch) (m : Move) : Option Turn :=
  if k.seeksSeeded m && !stocked then some ⟨false, k, []⟩
  else
    match k.perform m with
    | some k => some ⟨true, k, []⟩
    | none =>
      match m.deletes? with
      | some kind => if (k.trail kind).isOwn then none else some ⟨true, k.sight kind, [kind]⟩
      | none => none

/-- **The three ways in which a move turns out:** it misses the seeded model, it is carried out as
sketched, or it deletes what was seeded. -/
theorem turn_cases {stocked : Bool} {k : Sketch} {m : Move} {t : Turn}
    (ht : k.turn stocked m = some t) :
    (k.seeksSeeded m = true ∧ stocked = false ∧ t = ⟨false, k, []⟩) ∨
    (∃ k', k.perform m = some k' ∧ (m = .getRegisteredModel → stocked = true) ∧
      t = ⟨true, k', []⟩) ∨
    ∃ kind, m.deletes? = some kind ∧ (k.trail kind).isOwn = false ∧
      (kind = .model → stocked = true) ∧ t = ⟨true, k.sight kind, [kind]⟩ := by
  unfold turn at ht
  split_ifs at ht with hgone
  · rw [Bool.and_eq_true, Bool.not_eq_true'] at hgone
    exact Or.inl ⟨hgone.1, hgone.2, (Option.some.inj ht).symm⟩
  have hstocked (hseeks : k.seeksSeeded m = true) : stocked = true := by
    simpa [hseeks] using hgone
  cases hperform : k.perform m with
  | some k' =>
    rw [hperform] at ht
    refine Or.inr (Or.inl ⟨k', rfl, fun hm => hstocked ?_, (Option.some.inj ht).symm⟩)
    subst hm
    simp only [perform, Option.ite_none_left_eq_some, Bool.not_eq_true] at hperform
    rw [seeksSeeded, hperform.1]
    rfl
  | none =>
    rw [hperform] at ht
    cases hdeletes : m.deletes? with
    | none => simp [hdeletes] at ht
    | some kind =>
      simp only [hdeletes, Option.ite_none_left_eq_some, Bool.not_eq_true] at ht
      obtain ⟨hown, hturn⟩ := ht
      refine Or.inr (Or.inr ⟨kind, rfl, hown, fun hkind => hstocked ?_,
        (Option.some.inj hturn).symm⟩)
      subst hkind
      obtain rfl : m = .deleteRegisteredModel := by cases m <;> cases hdeletes; rfl
      change k.model.isOwn = false at hown
      rw [seeksSeeded, hown]
      rfl

/-- **Going through beats,** up to the first check that fails. -/
def ending (stocked : Bool) (k : Sketch) : List Beat → Option Ending
  | [] => some ⟨true, stocked⟩
  | b :: rest =>
    match k.turn stocked b.move with
    | none => none
    | some t =>
      let stocked := stocked && !t.lost.contains .model
      match t.meets? b.test? with
      | none => none
      | some false => some ⟨false, stocked⟩
      | some true => t.sketch.ending stocked rest

end Sketch

/-! ## Acting and checking -/

section
variable {σ : Type} {h : Program.Handler probe σ} {fx : Fixture} {p : Point σ} {step : Step}

/-- A check that does not expect a denial is not made after an action that failed. -/
theorem exec_verify_unexpected {check : Check} (hc : step.check = some check)
    (hexpects : check.expectsDenial = false) (code : FailureCode) :
    exec h (step.verify fx (.failed code)) p =
      (.error (.error (unexpectedAction ((step.action.map Action.name).getD "") p.state)), p) := by
  rw [verify_unexpected hc rfl hexpects, CaseTask.exec_bind_ok (CaseTask.exec_get h p)]
  rfl

theorem exec_verify_undenied (hc : step.check = some Check.actionDenied)
    (hverdict : Check.denialVerdict p.state ≠ .ok ()) (outcome : ActionOutcome) :
    ∃ r, r.isOk = false ∧ exec h (step.verify fx outcome) p = (r, p) := by
  rw [exec_verify_actionDenied hc]
  cases hno : Check.denialVerdict p.state with
  | ok _ => exact absurd hno hverdict
  | error message => exact ⟨_, rfl, rfl⟩

end

namespace Venue

section
variable {vn : Venue} {k : Sketch} {v : Values} {t : Turn} {passed : Bool}

theorem denialVerdict_carried (k : Sketch) (v : Values) (action : String) :
    Check.denialVerdict (vn.state k { v with lastAction := some ⟨action, false⟩ }) ≠ .ok () := by
  simp [Check.denialVerdict, state]

theorem denialVerdict_missed {f : Failure} (hf : f.code.isPermission = false) (k : Sketch)
    (v : Values) (action : String) :
    Check.denialVerdict (vn.state k { v with
      lastError := some f, lastAction := some ⟨action, true⟩ }) ≠ .ok () := by
  simp [Check.denialVerdict, state, hf]

/-- The outcome of a move that turns out so. -/
def Agrees (t : Turn) (outcome : ActionOutcome) : Prop :=
  if t.succeeded then outcome = .succeeded else ∃ code, outcome = .failed code

/-- **The action of a step goes** as a move turns out, and nothing that it shows is a denial. -/
def Acts (vn : Venue) (draw : Nat → String) (k : Sketch) (v : Values) (step : Step) (t : Turn) :
    Prop :=
  ∃ outcome v', (vn.without t.lost).Fits t.sketch v' ∧ Agrees t outcome ∧
    Check.denialVerdict ((vn.without t.lost).state t.sketch v') ≠ .ok () ∧
    exec (World.answerWith draw) (step.act vn.fx) (vn.point k v) =
      (.ok outcome, (vn.without t.lost).point t.sketch v')

variable {draw : Nat → String} {step : Step} {m : Move}

theorem acts_carried (ha : step.action = some m.action) {k' : Sketch} {v' : Values}
    {lost : List Cleanable} (hv' : (vn.without lost).Fits k' v')
    (hrun : exec (World.answerWith draw) (m.action.run vn.fx) (vn.point k v) =
      (.ok (), (vn.without lost).point k' v')) : vn.Acts draw k v step ⟨true, k', lost⟩ :=
  ⟨.succeeded, { v' with lastAction := some ⟨m.action.name, false⟩ }, hv'.noted .., rfl,
    denialVerdict_carried _ _ _, exec_act_carried draw ha hrun⟩

theorem acts_missed (hv : vn.Fits k v) (ha : step.action = some m.action) {e : Error}
    (hcode : FailureCode.ofMessage e.message = .resourceNotFound)
    (hrun : exec (World.answerWith draw) (m.action.run vn.fx) (vn.point k v) =
      (.error (.error e), vn.point k v)) : vn.Acts draw k v step ⟨false, k, []⟩ := by
  let failure : Failure := (vn.state k v).classify e
  have hpermission : failure.code.isPermission = false := by
    change (FailureCode.ofMessage e.message).isPermission = false
    rw [hcode]
    rfl
  refine ⟨.failed failure.code, { v with
    lastError := some failure, lastAction := some ⟨m.action.name, true⟩ }, hv.noted ..,
    ⟨_, rfl⟩, denialVerdict_missed hpermission _ _ _, ?_⟩
  rw [exec_act, ha]
  simp only [CaseTask.exec_attempt_error hrun]
  rfl

variable (draw : Nat → String) (h : vn.Valid) (hv : vn.Fits k v)
  (hopen : ∀ verb what, vn.permits verb what = true)
include h hv hopen

/-- **Acting** where everything is permitted: nothing is denied. -/
theorem acts_turn (hname : IsSeededModel vn.seeded.modelName) (hdraw : ∀ n, isSuffix (draw n) = true)
    (ha : step.action = some m.action) (ht : k.turn vn.stocked m = some t) :
    vn.Acts draw k v step t := by
  rcases Sketch.turn_cases ht with ⟨hseeks, hgone, rfl⟩ | ⟨k', hperform, hstocked, rfl⟩ |
    ⟨kind, hdeletes, hown, hstocked, rfl⟩
  · rw [Sketch.seeksSeeded, Bool.and_eq_true, Bool.not_eq_true', Bool.or_eq_true, beq_iff_eq,
      beq_iff_eq] at hseeks
    obtain ⟨e, hcode, hrun⟩ := exec_modelMissed draw h hopen hname hseeks.2 hseeks.1 hgone
    exact acts_missed hv ha hcode hrun
  · obtain ⟨v', hv', hrun⟩ :=
      exec_perform draw h hv hdraw hperform hstocked fun verb what _ => hopen verb what
    exact acts_carried ha hv' hrun
  · exact acts_carried ha (hv.sight hown)
      (exec_seededDeleted draw h hopen hdeletes hown hstocked)

omit hv in
/-- **Checking** where everything is permitted: a check for a denial fails, and so does every check
after an action that failed. -/
theorem exec_verify_turn (hv : vn.Fits t.sketch v) {test? : Option Test}
    (hc : step.check = test?.map Test.check) (hmeets : t.meets? test? = some passed)
    {outcome : ActionOutcome} (houtcome : Agrees t outcome)
    (hverdict : Check.denialVerdict (vn.state t.sketch v) ≠ .ok ()) :
    ∃ r, r.isOk = passed ∧ exec (World.answerWith draw) (step.verify vn.fx outcome)
      (vn.point t.sketch v) = (r, vn.point t.sketch v) := by
  cases test? with
  | none =>
    obtain rfl := Option.some.inj hmeets
    refine ⟨.ok none, rfl, ?_⟩
    rw [verify_unchecked _ hc]
    rfl
  | some test =>
    simp only [Turn.meets?] at hmeets
    split_ifs at hmeets with hfails hpasses
    · obtain rfl := Option.some.inj hmeets
      by_cases hdenial : test = .actionDenied
      · subst hdenial
        exact exec_verify_undenied hc hverdict outcome
      · have hfailed : t.succeeded = false := by simpa [hdenial] using hfails
        rw [Agrees, hfailed] at houtcome
        obtain ⟨code, rfl⟩ := houtcome
        have hexpects : test.check.expectsDenial = false := by
          rw [Test.expectsDenial_check, decide_eq_false hdenial]
        exact ⟨_, rfl, exec_verify_unexpected hc hexpects code⟩
    · obtain rfl := Option.some.inj hmeets
      rw [Bool.not_eq_true, Bool.or_eq_false_iff, Bool.not_eq_false', beq_eq_false_iff_ne] at hfails
      have hrecalls : vn.Recalls t.sketch v := fun hdenied =>
        absurd (Sketch.eq_actionDenied_of_passes hdenied hpasses) hfails.2
      rw [Agrees, hfails.1] at houtcome
      have hall : (fun _ _ => true) = vn.permits := funext fun verb => funext fun what =>
        (hopen verb what).symm
      rw [hall] at hpasses
      exact ⟨_, rfl, exec_verify_passes hc (Or.inr houtcome) (exec_test draw h hv hrecalls hpasses)⟩

end

/-! ## Steps -/

/-- **Steps end so,** from a point: something that was seeded may have been lost, and the run stands
where some sketch says. -/
def Ends (vn : Venue) (draw : Nat → String) (ending : Ending) (steps : List Step)
    (p : Point World) : Prop :=
  ∃ r lost k v, (vn.without lost).Fits k v ∧
    (vn.without lost).stocked = ending.stocked ∧ r.isOk = ending.passed ∧
    exec (World.answerWith draw) (runSteps vn.fx steps) p = (r, (vn.without lost).point k v)

section
variable {vn : Venue} {k : Sketch} {v : Values} {draw : Nat → String} (h : vn.Valid)
  (hv : vn.Fits k v) (hopen : ∀ verb what, vn.permits verb what = true)
  (hname : IsSeededModel vn.seeded.modelName) (hdraw : ∀ n, isSuffix (draw n) = true)
include h hv hopen hname hdraw

theorem exec_runStep_turn {b : Beat} {step : Step} {p : Point World} {t : Turn} {passed : Bool}
    (ha : step.action = some b.move.action) (hc : step.check = b.test?.map Test.check)
    (hprep : exec (World.answerWith draw) (step.prepare vn.fx) p = (.ok (), vn.point k v))
    (hturn : k.turn vn.stocked b.move = some t) (hmeets : t.meets? b.test? = some passed) :
    ∃ (r : Outcome StepReport) (v' : Values), r.isOk = passed ∧
      (vn.without t.lost).Fits t.sketch v' ∧
      exec (World.answerWith draw) (runStep vn.fx step) p =
        (r, (vn.without t.lost).point t.sketch v') := by
  have hall : ∀ verb what, (vn.without t.lost).permits verb what = true := by
    rw [permits_without]
    exact hopen
  obtain ⟨outcome, v', hv', hagrees, hverdict, hact⟩ :=
    acts_turn draw h hv hopen hname hdraw ha hturn
  obtain ⟨r, hr, hverify⟩ :=
    exec_verify_turn draw (h.without t.lost) hall hv' hc hmeets hagrees hverdict
  rw [vn.fx_without t.lost] at hverify
  rw [exec_runStep, hprep]
  simp only [hact, hverify]
  cases r with
  | error e => exact ⟨.error e, v', hr, hv', rfl⟩
  | ok check => exact ⟨.ok _, v', hr, hv', rfl⟩

theorem ends_cons {b : Beat} {rest : List Beat} {step : Step} {p : Point World}
    (ha : step.action = some b.move.action) (hc : step.check = b.test?.map Test.check)
    (hprep : exec (World.answerWith draw) (step.prepare vn.fx) p = (.ok (), vn.point k v))
    {ending : Ending} (hend : k.ending vn.stocked (b :: rest) = some ending)
    (hrest : ∀ lost k v, (vn.without lost).Fits k v →
      k.ending (vn.without lost).stocked rest = some ending →
      (vn.without lost).Ends draw ending (rest.map Beat.step) ((vn.without lost).point k v)) :
    vn.Ends draw ending (step :: rest.map Beat.step) p := by
  unfold Sketch.ending at hend
  cases hturn : k.turn vn.stocked b.move with
  | none => simp [hturn] at hend
  | some t =>
    cases hmeets : t.meets? b.test? with
    | none => simp [hturn, hmeets] at hend
    | some passed =>
      obtain ⟨result, v', hresult, hv', hrun⟩ :=
        exec_runStep_turn h hv hopen hname hdraw ha hc hprep hturn hmeets
      simp only [hturn, hmeets, ← stocked_without vn t.lost] at hend
      unfold Ends runSteps
      cases result with
      | error e =>
        obtain rfl : false = passed := hresult
        obtain rfl := Option.some.inj hend
        exact ⟨.error e, t.lost, t.sketch, v', hv', rfl, rfl, CaseTask.exec_bind_error hrun _⟩
      | ok report =>
        obtain rfl : true = passed := hresult
        obtain ⟨result, lost, k', v'', hv'', hstocked, hok, hrest⟩ := hrest _ _ _ hv' hend
        rw [without_append] at hv'' hstocked hrest
        rw [vn.fx_without t.lost] at hrest
        refine ⟨result.map (report :: ·), t.lost ++ lost, k', v'', hv'', hstocked, ?_, ?_⟩
        · rw [← hok]
          cases result <;> rfl
        · rw [CaseTask.exec_bind_ok hrun, CaseTask.exec_bind, hrest]
          cases result <;> rfl

/-- **Steps end as their beats do.** The induction is on the beats, over every venue: what one step
has cost the baseline is lost for the next. -/
theorem ends_beats {beats : List Beat} {ending : Ending}
    (hend : k.ending vn.stocked beats = some ending) :
    vn.Ends draw ending (beats.map Beat.step) (vn.point k v) := by
  induction beats generalizing vn k v with
  | nil =>
    obtain rfl := Option.some.inj hend
    exact ⟨.ok [], [], k, v, hv, rfl, rfl, rfl⟩
  | cons b rest ih =>
    refine ends_cons h hv hopen hname hdraw rfl rfl rfl hend fun lost k v hv hend => ?_
    exact ih (h.without lost) hv (vn.permits_without lost ▸ hopen) (vn.seeded_without lost ▸ hname)
      hend

/-- The steps of a story, of which the first is prepared otherwise. -/
theorem ends_story {first : Beat} {rest : List Beat} {step : Step} {p : Point World}
    (ha : step.action = some first.move.action) (hc : step.check = first.test?.map Test.check)
    (hprep : exec (World.answerWith draw) (step.prepare vn.fx) p = (.ok (), vn.point k v))
    {ending : Ending} (hend : k.ending vn.stocked (first :: rest) = some ending) :
    vn.Ends draw ending (step :: rest.map Beat.step) p :=
  ends_cons h hv hopen hname hdraw ha hc hprep hend fun lost _ _ hv hend =>
    ends_beats (h.without lost) hv (vn.permits_without lost ▸ hopen)
      (vn.seeded_without lost ▸ hname) hdraw hend

end

end Venue

end GrantProbe
