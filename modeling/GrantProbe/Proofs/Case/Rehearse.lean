import GrantProbe.Proofs.Case.Appraise
import GrantProbe.Proofs.Case.Enact
import GrantProbe.Proofs.Denial.Recency

/-!
# Running what has been rehearsed

A story that can be rehearsed runs to its end, and every step of it passes.

* `exec_act_move`: acting, whether the move is carried out or denied;
* `exec_beat`: a step; `exec_beats`: steps, by induction on them.
-/

namespace GrantProbe

open CaseTask (exec)

theorem Sketch.eq_actionDenied_of_passes {permits : Verb → ResourceKind → Bool} {k : Sketch}
    {t : Test} (hdenied : k.denied = true) (ht : k.passes permits t = true) :
    t = .actionDenied := by
  cases t <;> simp_all [Sketch.passes]

namespace Venue

variable {vn : Venue} {k k' : Sketch} {v : Values} (draw : Nat → String) (h : vn.Valid)
  (hv : vn.Fits k v)

theorem exec_act_carried {fx : Fixture} {step : Step} {m : Move} {p : Point World}
    (ha : step.action = some m.action)
    (hrun : exec (World.answerWith draw) (m.action.run fx) p = (.ok (), vn.point k v)) :
    exec (World.answerWith draw) (step.act fx) p =
      (.ok .succeeded, vn.point k { v with lastAction := some ⟨m.action.name, false⟩ }) := by
  rw [exec_act, ha]
  simp only [CaseTask.exec_attempt_ok hrun]
  rfl

/-- What is noted of an action is none of the values of the case. -/
theorem Fits.noted (hv : vn.Fits k v) (denied : Bool) (draws : Nat) (lastError : Option Failure)
    (lastAction : Option ActionRecord) : vn.Fits { k with denied := denied }
      { v with draws := draws, lastError := lastError, lastAction := lastAction } :=
  hv.advance (Nat.le_refl _) (Or.inl ⟨rfl, fun h => h⟩) (Or.inl ⟨rfl, fun h => h⟩)
    (Or.inl ⟨rfl, fun h => h⟩)
    hv.model

include h

theorem ready_of_sketch {m : Move} (hm : k.ready m = true) : m.Ready vn.fx (vn.state k v) := by
  cases m
  case endRun =>
    change (k.run.handle _ _).isSome = true
    cases hk : k.run <;> simp_all [Sketch.ready, Trail.handle]
  case downloadArtifact => exact ⟨⟨_, h.targetRun⟩, by simp_all [Sketch.ready, state]⟩
  case logModel => exact ⟨⟨_, h.targetRun⟩, by simp_all [Sketch.ready, state]⟩
  case getExperiment => exact ⟨_, h.baselineExperiment⟩
  case deleteExperiment => exact ⟨_, h.targetExperiment⟩
  case createRun => exact ⟨_, h.targetExperiment⟩
  case deleteRun => exact ⟨_, h.targetRun⟩
  case getRunInfo => exact ⟨_, h.targetRun⟩
  case logArtifact => exact ⟨_, h.targetRun⟩
  case listArtifacts => exact ⟨_, h.targetRun⟩
  case getRegisteredModel => exact ⟨_, h.baselineModel⟩
  case deleteRegisteredModel => exact ⟨_, h.targetModel⟩
  case createExperiment => trivial
  case createRegisteredModel => trivial
  all_goals exact absurd hm (by simp [Sketch.ready])

include hv

theorem exec_act_performed (hdraw : ∀ n, isSuffix (draw n) = true) {step : Step} {m : Move}
    (ha : step.action = some m.action) (hm : k.perform m = some k')
    (hstocked : m = .getRegisteredModel → vn.stocked = true)
    (hyes : ∀ verb kind, m.needs? = some (verb, kind) → vn.permits verb kind = true) :
    ∃ v', vn.Fits { k' with denied := false } v' ∧
      exec (World.answerWith draw) (step.act vn.fx) (vn.point k v) =
        (.ok .succeeded, vn.point { k' with denied := false } v') := by
  obtain ⟨v', hv', hrun⟩ := exec_perform draw h hv hdraw hm hstocked hyes
  exact ⟨{ v' with lastAction := some ⟨m.action.name, false⟩ }, hv'.noted ..,
    exec_act_carried draw ha hrun⟩

theorem exec_act_denied {step : Step} {m : Move} {need : Verb × ResourceKind}
    (ha : step.action = some m.action) (hneed : m.needs? = some need)
    (hno : vn.permits need.1 need.2 = false) (hm : k.ready m = true) :
    ∃ code v', vn.Fits { k with denied := true } v' ∧ vn.Recalls { k with denied := true } v' ∧
      exec (World.answerWith draw) (step.act vn.fx) (vn.point k v) =
        (.ok (.failed code), vn.point { k with denied := true } v') := by
  obtain ⟨call, q, -, ⟨⟨draws, hworld⟩, hstate⟩, hrun⟩ := exec_move_refused draw hneed
    (ready_of_sketch (v := v) h hm) (p := vn.point k v) rfl
      ((h.permitsNeed_point k v _ _).trans hno)
  have hsame : q.state = vn.state k v := by
    rcases hstate with hsame | ⟨rfl, hnone, -⟩
    · exact hsame
    · exact absurd (hnone.symm.trans (if_pos hm)) (by simp)
  let failure : Failure := (vn.state k v).classify (refusal call)
  refine ⟨failure.code, { v with
    draws := draws, lastError := some failure, lastAction := some ⟨m.action.name, true⟩ },
    hv.noted .., ?_, ?_⟩
  · intro _
    have hpermission : failure.code.isPermission = true := by
      change (FailureCode.ofMessage (refusal call).message).isPermission = true
      rw [code_refusal]
      rfl
    simp [Check.denialVerdict, state, hpermission]
  · obtain ⟨s, w⟩ := q
    obtain rfl : s = vn.state k v := hsame
    obtain rfl : w = { (vn.point k v).world with draws := draws } := hworld
    rw [exec_act, ha]
    simp only [CaseTask.exec_attempt_error hrun]
    rfl

/-- **Acting** takes the run to where the sketch says next. -/
theorem exec_act_move (hdraw : ∀ n, isSuffix (draw n) = true) {step : Step} {m : Move}
    (ha : step.action = some m.action) (hstocked : m = .getRegisteredModel → vn.stocked = true)
    (hk : k.act vn.permits m = some k') :
    ∃ outcome v', vn.Fits k' v' ∧ vn.Recalls k' v' ∧ (k'.denied = true ∨ outcome = .succeeded) ∧
      exec (World.answerWith draw) (step.act vn.fx) (vn.point k v) =
        (.ok outcome, vn.point k' v') := by
  have hperformed (hperm : (k.perform m).map (fun k => { k with denied := false }) = some k')
      (hyes : ∀ verb kind, m.needs? = some (verb, kind) → vn.permits verb kind = true) :
      ∃ outcome v', vn.Fits k' v' ∧ vn.Recalls k' v' ∧ (k'.denied = true ∨ outcome = .succeeded) ∧
        exec (World.answerWith draw) (step.act vn.fx) (vn.point k v) =
          (.ok outcome, vn.point k' v') := by
    obtain ⟨k₁, hm, rfl⟩ := Option.map_eq_some_iff.mp hperm
    obtain ⟨v', hv', hrun⟩ := exec_act_performed draw h hv hdraw ha hm hstocked hyes
    exact ⟨_, v', hv', nofun, Or.inr rfl, hrun⟩
  unfold Sketch.act at hk
  cases hneed : m.needs? with
  | none =>
    rw [hneed] at hk
    exact hperformed hk (by simp [hneed])
  | some need =>
    obtain ⟨verb, kind⟩ := need
    simp only [hneed] at hk
    cases hpermits : vn.permits verb kind with
    | true =>
      rw [hpermits, if_pos rfl] at hk
      refine hperformed hk fun verb' kind' heq => ?_
      obtain ⟨rfl, rfl⟩ := Prod.mk.inj (Option.some.inj (hneed.symm.trans heq))
      exact hpermits
    | false =>
      rw [hpermits, if_neg Bool.false_ne_true, Option.ite_none_right_eq_some] at hk
      obtain ⟨hready, hnext⟩ := hk
      obtain rfl := Option.some.inj hnext
      obtain ⟨code, v', hv', hrecalls, hrun⟩ := exec_act_denied draw h hv ha hneed hpermits hready
      exact ⟨_, v', hv', hrecalls, Or.inl rfl, hrun⟩

/-- **A step** that can be rehearsed passes. -/
theorem exec_beat (hdraw : ∀ n, isSuffix (draw n) = true) {b : Beat} (step : Step) {p : Point World}
    (ha : step.action = some b.move.action) (hc : step.check = b.test?.map Test.check)
    (hprep : exec (World.answerWith draw) (step.prepare vn.fx) p = (.ok (), vn.point k v))
    (hstocked : b.move = .getRegisteredModel → vn.stocked = true)
    (hk : k.act vn.permits b.move = some k') (ht : b.test?.all (k'.passes vn.permits) = true) :
    ∃ report v', vn.Fits k' v' ∧
      exec (World.answerWith draw) (runStep vn.fx step) p = (.ok report, vn.point k' v') := by
  obtain ⟨outcome, v', hv', hrecalls, houtcome, hact⟩ := exec_act_move draw h hv hdraw ha hstocked hk
  obtain ⟨check, hverify⟩ : ∃ check,
      exec (World.answerWith draw) (step.verify vn.fx outcome) (vn.point k' v') =
        (.ok check, vn.point k' v') := by
    cases htest : b.test? with
    | none =>
      refine ⟨none, ?_⟩
      rw [htest] at hc
      rw [verify_unchecked _ hc]
      rfl
    | some t =>
      rw [htest] at hc ht
      have hpasses : k'.passes vn.permits t = true := by simpa using ht
      have hexpects : t.check.expectsDenial = true ∨ outcome = .succeeded := by
        refine houtcome.imp_left fun hdenied => ?_
        rw [Test.expectsDenial_check, Sketch.eq_actionDenied_of_passes hdenied hpasses]
        rfl
      exact ⟨_, exec_verify_passes hc hexpects (exec_test draw h hv' hrecalls hpasses)⟩
  refine ⟨⟨step.name, (vn.state k' v').identityName, (vn.state k' v').scope, outcome, check⟩, v',
    hv', ?_⟩
  rw [exec_runStep, hprep]
  simp only [hact, hverify]
  rfl

/-- **Steps** that can be rehearsed pass. The induction is on the beats. -/
theorem exec_beats (hdraw : ∀ n, isSuffix (draw n) = true) (hstocked : vn.stocked = true)
    {beats : List Beat}
    (hk : k.rehearse vn.permits beats = some k') :
    ∃ reports v', vn.Fits k' v' ∧
      exec (World.answerWith draw) (runSteps vn.fx (beats.map Beat.step)) (vn.point k v) =
        (.ok reports, vn.point k' v') := by
  induction beats generalizing k v with
  | nil =>
    obtain rfl := Option.some.inj hk
    exact ⟨[], v, hv, rfl⟩
  | cons b rest ih =>
    unfold Sketch.rehearse at hk
    cases hact : k.act vn.permits b.move with
    | none => simp [hact] at hk
    | some k₁ =>
      simp only [hact, Option.ite_none_right_eq_some] at hk
      obtain ⟨report, v₁, hv₁, hstep⟩ :=
        exec_beat draw h hv hdraw b.step (p := vn.point k v) rfl rfl rfl (fun _ => hstocked) hact hk.1
      obtain ⟨reports, v', hv', hrest⟩ := ih hv₁ hk.2
      refine ⟨report :: reports, v', hv', ?_⟩
      rw [List.map_cons, runSteps, CaseTask.exec_bind_ok hstep, CaseTask.exec_bind_ok hrest]
      rfl

end Venue

end GrantProbe
