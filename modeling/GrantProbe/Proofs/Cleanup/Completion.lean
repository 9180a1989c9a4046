import GrantProbe.Proofs.Cleanup.Registration
import GrantProbe.Proofs.Cleanup.Removal

/-!
# A teardown is complete

A teardown asks for everything that a case has left: each registered resource is deleted once, where it
was registered, runs before experiments, and each identity is retired. Nothing is left to a second one.

* `pairwise_dues`, `filterMap_dues`: the order of what is due, and what of it deletes resources;
* `teardown_is_complete`: what a teardown asks for, what it reports and what it leaves.
-/

namespace GrantProbe

open Program (Handler)
open CaseTask (exec dialogue)

/-! ## The order of deletions -/

/-- The request is to delete a resource of the kind. -/
def Cleanable.Deletes (kind : Cleanable) (r : Ask) : Prop := ∃ client id, r = kind.deletion client id

section
variable {s : CaseState} {setting : Setting} {kind k : Cleanable} {r : Ask}

theorem eq_of_deletes (hr : r ∈ s.removals setting kind) (hdel : k.Deletes r) : k = kind := by
  obtain ⟨x, -, hx⟩ := List.mem_flatMap.mp hr
  obtain ⟨client, id, rfl⟩ := hdel
  simp only [Setting.removal, List.mem_cons, List.not_mem_nil, or_false] at hx
  cases k <;> cases kind <;> simp_all [Cleanable.deletion]

theorem not_deletes_of_withdrawal {is : List Identity} (hr : r ∈ is.flatMap Identity.withdrawals) :
    ¬k.Deletes r := by
  obtain ⟨i, -, hi⟩ := List.mem_flatMap.mp hr
  rintro ⟨client, id, rfl⟩
  simp only [Identity.withdrawals, List.mem_cons, List.not_mem_nil, or_false] at hi
  cases k <;> simp [Cleanable.deletion] at hi

/-- **No experiment is deleted before a run.** -/
theorem pairwise_dues (s : CaseState) (setting : Setting) :
    (s.dues setting).Pairwise fun r r' =>
      ¬(Cleanable.experiment.Deletes r ∧ Cleanable.run.Deletes r') := by
  have hrun {r : Ask} (hr : r ∈ s.removals setting .run) : ¬Cleanable.experiment.Deletes r :=
    fun hdel => nomatch eq_of_deletes hr hdel
  have hmodel {r : Ask} (hr : r ∈ s.removals setting .model) : ¬Cleanable.experiment.Deletes r :=
    fun hdel => nomatch eq_of_deletes hr hdel
  have hlate {r : Ask} (hr : r ∈ s.removals setting .experiment ++
      s.identities.flatMap Identity.withdrawals) : ¬Cleanable.run.Deletes r := by
    rcases List.mem_append.mp hr with hr | hr
    · exact fun hdel => nomatch eq_of_deletes hr hdel
    · exact not_deletes_of_withdrawal hr
  unfold CaseState.dues
  refine List.pairwise_append.mpr ⟨?_, List.pairwise_append.mpr ⟨?_, ?_, ?_⟩, ?_⟩
  · exact List.pairwise_of_forall_mem_list fun r hr r' _ hdel => hrun hr hdel.1
  · exact List.pairwise_of_forall_mem_list fun r hr r' _ hdel => hmodel hr hdel.1
  · exact List.pairwise_of_forall_mem_list fun r _ r' hr' hdel => hlate hr' hdel.2
  · exact fun r hr r' _ hdel => hmodel hr hdel.1
  · exact fun r hr r' _ hdel => hrun hr hdel.1

theorem filterMap_dues (s : CaseState) (setting : Setting) (kind : Cleanable) :
    (s.dues setting).filterMap kind.removal? = setting.asAdmin (s.registry kind).entries := by
  have hregistry (k : Cleanable) : (s.removals setting k).filterMap kind.removal? =
      if kind = k then setting.asAdmin (s.registry k).entries else [] := filterMap_removal? ..
  have hidentities : (s.identities.flatMap Identity.withdrawals).filterMap kind.removal? = [] := by
    refine List.filterMap_eq_nil_iff.mpr fun r hr => ?_
    obtain ⟨i, -, hi⟩ := List.mem_flatMap.mp hr
    simp only [Identity.withdrawals, List.mem_cons, List.not_mem_nil, or_false] at hi
    rcases hi with rfl | rfl | rfl <;> cases kind <;> rfl
  unfold CaseState.dues
  rw [List.filterMap_append, List.filterMap_append, List.filterMap_append, hregistry, hregistry,
    hregistry, hidentities]
  cases kind <;> simp

end

/-! ## The whole -/

section
variable {σ : Type} {fx : Fixture} {h : Handler probe σ} {p q : Point σ} {D : List (Exchange probe)}
  {o : Outcome CleanupReport}

/-- **A teardown is complete,** in order, and done once, whatever its calls are answered. From a state
whose registries are sorted, as those of every state that can be reached are (`isSorted_of_reached`):

* it asks for what is due, in order, at least up to a call that ends abnormally, deletes nothing twice
  and no experiment before a run;
* it comes to an end unless a call ends abnormally, and then has asked for all that is due, reports how
  much that was with what is told of each call that failed, and leaves nothing to be removed;
* another teardown, in whatever world, asks for nothing and changes nothing. -/
theorem teardown_is_complete (hp : p.state.IsSorted) (hrun : (teardown fx).Runs h p D o q) :
    D.map Exchange.request <+: p.state.dues fx.setting ∧
    (D.map Exchange.request).Pairwise (fun r r' =>
      ¬(Cleanable.experiment.Deletes r ∧ Cleanable.run.Deletes r')) ∧
    (∀ kind : Cleanable, ((kind.removals D).map Prod.snd).Nodup) ∧
    ((∃ x ∈ D, x.Breaks) ↔ ∃ x, o = .error (.panic x)) ∧
    ((∀ x ∈ D, ¬x.Breaks) →
      D.map Exchange.request = p.state.dues fx.setting ∧
      o = .ok ⟨p.state.pendingCleanup, D.filterMap Exchange.complaint?⟩ ∧
      q.state = p.state.tornDown ∧ q.state.pendingCleanup = 0 ∧
      ∀ {τ : Type} (h' : Handler probe τ) (w : τ),
        (teardown fx).Runs h' ⟨q.state, w⟩ [] (.ok ⟨0, []⟩) ⟨q.state, w⟩) := by
  have hremoving : (teardown fx).Removing h p.state (p.state.dues fx.setting)
      (CleanupReport.mk p.state.pendingCleanup) p.state.tornDown := removing_teardown
  have hgoes := hremoving.goes p.world
  have hleaves := hremoving.leaves p.world
  rw [hrun.exec] at hgoes hleaves
  rw [hrun.dialogue] at hgoes
  have hinitial : D.map Exchange.request <+: p.state.dues fx.setting := by
    cases hgoes with
    | through hasked => rw [hasked]
    | broken hasked => exact hasked
  refine ⟨hinitial, (pairwise_dues ..).sublist hinitial.sublist, fun kind => ?_, ?_, fun hcalm => ?_⟩
  · have hsub := (hinitial.sublist.filterMap kind.removal?).map Prod.snd
    rw [filterMap_dues, Setting.asAdmin, List.map_map] at hsub
    exact (hp kind).nodup_keys.sublist hsub
  · cases hgoes with
    | through _ hcalm =>
      constructor
      · rintro ⟨x, hx, hbreaks⟩
        exact absurd hbreaks (hcalm x hx)
      · rintro ⟨x, hx⟩
        cases hx
    | broken _ hbreak => exact ⟨fun _ => ⟨_, rfl⟩, fun _ => hbreak⟩
  · cases hgoes with
    | through hasked =>
      have hstate : q.state = p.state.tornDown := hleaves _ rfl
      refine ⟨hasked, rfl, hstate, ?_, fun h' w => ?_⟩
      · rw [hstate]
        rfl
      · rw [hstate]
        exact ⟨rfl, rfl⟩
    | broken _ hbreak =>
      obtain ⟨x, hx, hbreaks⟩ := hbreak
      exact absurd hbreaks (hcalm x hx)

end

/-! ## Two deletions that fail -/

/-- The simulated world, but it refuses to delete runs and bindings. -/
def stubborn : Handler probe World
  | .tracking _ (.deleteRun _), w => (.error (.error (.tracking "delete_run" 503 "busy")), w)
  | .access (.deleteBinding _ _), w => (.error (.error (.internalFailure "no answer")), w)
  | r, w => World.answer r w

/-- A run, a model that nobody has heard of, and an identity are left. -/
def leftBehind : CaseState :=
  { CaseState.fresh ["workspace1", "workspace2"] with
    runs := .ofList [("run-1", "workspace1")]
    models := .ofList [("model-a", "workspace2")]
    identities := [⟨"test-user-1", "workspace1", ⟨"token"⟩⟩] }

/-- All three are attended to, and two failures are told of. -/
theorem leftBehind_is_attended_to : leftBehind.IsSorted ∧
    ((exec stubborn (teardown (authorFixture "workspace1"))
        ⟨leftBehind, .fresh trackingGroup 0 true⟩).1 =
      .ok ⟨3, ["delete run run-1 in workspace1: tracking service error [503] during delete_run: busy",
        "delete rolebinding workspace1/test-user-1-binding: internal error [unknown]: no answer"]⟩) ∧
    (dialogue stubborn (teardown (authorFixture "workspace1"))
        ⟨leftBehind, .fresh trackingGroup 0 true⟩).map Exchange.request =
      leftBehind.dues (authorFixture "workspace1").setting := by
  have hsorted : leftBehind.IsSorted := by
    intro kind
    cases kind <;> unfold SortedMap.IsSorted <;> decide
  obtain ⟨-, -, -, hbreak, hall⟩ := teardown_is_complete hsorted
    (CaseTask.runs_self stubborn (teardown (authorFixture "workspace1"))
      ⟨leftBehind, .fresh trackingGroup 0 true⟩)
  have hreport : (exec stubborn (teardown (authorFixture "workspace1"))
      ⟨leftBehind, .fresh trackingGroup 0 true⟩).1 =
      .ok ⟨3, ["delete run run-1 in workspace1: tracking service error [503] during delete_run: busy",
        "delete rolebinding workspace1/test-user-1-binding: internal error [unknown]: no answer"]⟩ := by
    decide +kernel
  have hcalm : ∀ x ∈ dialogue stubborn (teardown (authorFixture "workspace1"))
      ⟨leftBehind, .fresh trackingGroup 0 true⟩, ¬x.Breaks := fun x hx hbreaks => by
    obtain ⟨y, hy⟩ := hbreak.mp ⟨x, hx, hbreaks⟩
    rw [hreport] at hy
    cases hy
  exact ⟨hsorted, hreport, (hall hcalm).1⟩

end GrantProbe
