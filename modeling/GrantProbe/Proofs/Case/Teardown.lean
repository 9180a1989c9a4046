import GrantProbe.Proofs.Case.Enact
import GrantProbe.Proofs.World.Establish

/-!
# Tearing a case down

The administrator may do everything, so teardown deletes what the case has registered and retires
its identity, and nothing is left of the case but what is marked as deleted.

* `exec_admin`: a call by the administrator;
* `exec_removeResource`: deleting one resource; `exec_teardown`: the whole of it.
-/

namespace GrantProbe

open CaseTask (exec)

/-- The client of the administrator in a workspace. -/
def Setting.adminClient (s : Setting) (scope : String) : Client :=
  ⟨adminName, s.adminCredential, scope⟩

section
variable {draw : Nat → String} {w : World} {s : Setting} {scope : String}

theorem exec_adminClientFor (draw : Nat → String) (w : World) (s : Setting) (scope : String) :
    (s.adminClientFor scope).exec (World.answerWith draw) w = (.ok (s.adminClient scope), w) := by
  unfold Setting.adminClientFor
  exact Task.exec_bind_ok (exec_probeBind ..) _

/-- **A call by the administrator** is carried out. -/
theorem exec_admin (draw : Nat → String) (w : World) (s : Setting) (scope : String)
    (call : TrackingCall) :
    (Probe.tracking (s.adminClient scope) call).exec (World.answerWith draw) w =
      ((w.server.perform scope call).1.mapError .error,
        { w with server := (w.server.perform scope call).2 }) := by
  have hpermits : w.permits (s.adminClient scope) call = true := by
    have hadmin : ((s.adminClient scope).identity == adminName) = true := beq_self_eq_true adminName
    rw [World.permits, hadmin, Bool.true_or, Bool.true_or]
  rw [exec_tracking, World.answerWith_tracking, World.tracking, hpermits]
  rfl

theorem exec_admin_ok {call : TrackingCall} {r : call.Answer} {server : Server}
    (hr : w.server.perform scope call = (.ok r, server)) :
    (Probe.tracking (s.adminClient scope) call).exec (World.answerWith draw) w =
      (.ok r, { w with server := server }) := by
  rw [exec_admin, hr]
  rfl

theorem exec_removeResource {kind : Cleanable} {id : String} {server : Server}
    (hdelete : (kind.delete (s.adminClient scope) id).exec (World.answerWith draw) w =
      (.ok (), { w with server := server })) :
    (removeResource s kind id scope).exec (World.answerWith draw) w =
      (.ok ⟨1, []⟩, { w with server := server }) := by
  unfold removeResource
  rw [Task.exec_bind_ok (exec_adminClientFor draw w s scope),
    Task.exec_bind_ok (Task.exec_attempt_ok hdelete)]
  rfl

theorem exec_removeResources_single {kind : Cleanable} {id : String} {server : Server}
    (hdelete : (kind.delete (s.adminClient scope) id).exec (World.answerWith draw) w =
      (.ok (), { w with server := server })) :
    (removeResources s kind [(id, scope)]).exec (World.answerWith draw) w =
      (.ok ⟨1, []⟩, { w with server := server }) := by
  unfold removeResources
  rw [Task.exec_bind_ok (exec_removeResource hdelete)]
  rfl

end

theorem exec_cleanRegistry {σ : Type} {h : Program.Handler probe σ} {fx : Fixture}
    (kind : Cleanable) {p : Point σ} {report : CleanupReport} {w : σ}
    (hremove : (removeResources fx.setting kind (p.state.registry kind).entries).exec h p.world =
      (.ok report, w)) :
    exec h (cleanRegistry fx kind) p = (.ok report, ⟨p.state.withRegistry kind .empty, w⟩) := by
  unfold cleanRegistry
  rw [CaseTask.exec_bind_ok (CaseTask.exec_get h p),
    CaseTask.exec_bind_ok (CaseTask.exec_set h p _)]
  exact CaseTask.exec_lift_ok (p := ⟨p.state.withRegistry kind .empty, p.world⟩) hremove

/-- **Teardown** removes what is registered, kind by kind, and retires the identity of the case. -/
theorem exec_teardown_of {draw : Nat → String} {fx : Fixture} {p : Point World} {i : Identity}
    {runs models experiments : Nat} {w₁ w₂ w₃ : World} (hidentities : p.state.identities = [i])
    (hruns : (removeResources fx.setting .run p.state.runs.entries).exec (World.answerWith draw)
      p.world = (.ok ⟨runs, []⟩, w₁))
    (hmodels : (removeResources fx.setting .model p.state.models.entries).exec
      (World.answerWith draw) w₁ = (.ok ⟨models, []⟩, w₂))
    (hexperiments : (removeResources fx.setting .experiment p.state.experiments.entries).exec
      (World.answerWith draw) w₂ = (.ok ⟨experiments, []⟩, w₃)) :
    ∃ report s, report.failures = [] ∧ exec (World.answerWith draw) (teardown fx) p =
      (.ok report, ⟨s, { w₃ with cluster := w₃.cluster.without i.name i.scope }⟩) := by
  let s₁ := p.state.withRegistry .run .empty
  let s₂ := s₁.withRegistry .model .empty
  let s₃ := s₂.withRegistry .experiment .empty
  have hclean₁ := exec_cleanRegistry .run hruns
  have hclean₂ := exec_cleanRegistry .model (p := ⟨s₁, w₁⟩) hmodels
  have hclean₃ := exec_cleanRegistry .experiment (p := ⟨s₂, w₂⟩) hexperiments
  have hretire : (retireAll [i]).exec (World.answerWith draw) w₃ =
      (.ok ⟨1, []⟩, { w₃ with cluster := w₃.cluster.without i.name i.scope }) := by
    unfold retireAll
    rw [Task.exec_bind_ok (exec_retire i)]
    rfl
  refine ⟨⟨runs + models + experiments + 1, []⟩,
    { s₃ with identities := [], identity := none, client := none }, rfl, ?_⟩
  unfold teardown
  rw [CaseTask.exec_bind_ok hclean₁]
  refine (CaseTask.exec_bind_ok hclean₂ _).trans ?_
  refine (CaseTask.exec_bind_ok hclean₃ _).trans ?_
  refine (CaseTask.exec_bind_ok (CaseTask.exec_get _ ⟨s₃, w₃⟩) _).trans ?_
  refine (CaseTask.exec_bind_ok (CaseTask.exec_set _ ⟨s₃, w₃⟩ _) _).trans ?_
  have hthese : s₃.identities = [i] := hidentities
  rw [hthese]
  exact (CaseTask.exec_bind_ok
    (CaseTask.exec_lift_ok (p := ⟨{ s₃ with identities := [] }, w₃⟩) hretire) _).trans rfl

namespace Venue

variable {vn : Venue} {k : Sketch} {v : Values} (draw : Nat → String) (h : vn.Valid)
  (hv : vn.Fits k v)

include h hv

theorem exec_removeRuns :
    ∃ n, (removeResources vn.fx.setting .run (vn.registry (runIdOf v.run) k.run).entries).exec
      (World.answerWith draw) (vn.point k v).world =
        (.ok ⟨n, []⟩, (vn.point { k with run := k.run.cleared } v).world) := by
  obtain ⟨_, r, _, _, _, _, _, _, _, _, _, _⟩ := k
  cases r with
  | made => exact ⟨1, exec_removeResources_single (exec_admin_ok (perform_deleteRun h hv rfl))⟩
  | _ => exact ⟨0, rfl⟩

theorem exec_removeModels :
    ∃ n, (removeResources vn.fx.setting .model (vn.registry v.modelName k.model).entries).exec
      (World.answerWith draw) (vn.point k v).world =
        (.ok ⟨n, []⟩, (vn.point { k with model := k.model.cleared } v).world) := by
  obtain ⟨_, _, m, _, _, _, _, _, _, _, _, _⟩ := k
  cases m with
  | made => exact ⟨1, exec_removeResources_single
      (exec_admin_ok (perform_deleteRegisteredModel h hv rfl))⟩
  | _ => exact ⟨0, rfl⟩

theorem exec_removeExperiments :
    ∃ n, (removeResources vn.fx.setting .experiment
      (vn.registry (toString v.experiment) k.experiment).entries).exec
      (World.answerWith draw) (vn.point k v).world =
        (.ok ⟨n, []⟩, (vn.point { k with experiment := k.experiment.cleared } v).world) := by
  obtain ⟨x, _, _, _, _, _, _, _, _, _, _, _⟩ := k
  cases x with
  | made => exact ⟨1, exec_removeResources_single
      (exec_admin_ok (perform_deleteExperiment h hv rfl))⟩
  | _ => exact ⟨0, rfl⟩

/-- **Teardown** leaves what the sketch says is left, without the identity, and reports no
failure. -/
theorem exec_teardown :
    ∃ report s, report.failures = [] ∧
      exec (World.answerWith draw) (teardown vn.fx) (vn.point k v) =
        (.ok report, ⟨s, { (vn.point k.cleared v).world with
          cluster := vn.world.cluster.without vn.identity.name vn.identity.scope }⟩) := by
  let k₁ : Sketch := { k with run := k.run.cleared }
  let k₂ : Sketch := { k₁ with model := k.model.cleared }
  have hfits₁ : vn.Fits k₁ v := hv.of_isOwn_eq rfl (Trail.isOwn_cleared _) rfl
  have hfits₂ : vn.Fits k₂ v := hv.of_isOwn_eq rfl (Trail.isOwn_cleared _) rfl
  obtain ⟨runs, hruns⟩ := exec_removeRuns draw h hv
  obtain ⟨models, hmodels⟩ := exec_removeModels draw h hfits₁
  obtain ⟨experiments, hexperiments⟩ := exec_removeExperiments draw h hfits₂
  exact exec_teardown_of (p := vn.point k v) rfl hruns hmodels hexperiments

end Venue

end GrantProbe
