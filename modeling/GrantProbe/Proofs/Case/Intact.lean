import GrantProbe.Proofs.Case.Move
import GrantProbe.Proofs.Cleanup.Leftover
import GrantProbe.Proofs.Confinement.Acting

/-!
# A failed action leaves its state intact

An action that stops short leaves the state as it found it. There are two exceptions: uploading prepares
an artifact if there is none, and loading drops the trained model before it asks for the logged one.

* `calls`: the calls to the tracking service in a dialogue;
* `CaseTask.Careful`: a task that makes few calls, and leaves the state alone if it stops short;
  `Deed.careful`: so does every deed;
* `Action.Leaves`: what an action that stops short leaves of a state;
* `failed_action_leaves`: so does every action of the catalogue, after at most one call.
-/

namespace GrantProbe

open Program (Handler)
open CaseTask (exec dialogue Keeps Deed)

/-- **The calls to the tracking service** in a dialogue. -/
def calls (D : List (Exchange probe)) : ℕ := D.countP fun x => x.request.client?.isSome

theorem calls_append (D E : List (Exchange probe)) : calls (D ++ E) = calls D + calls E :=
  List.countP_append

namespace CaseTask

/-! ## Careful tasks -/

variable {α β : Type} {m n : ℕ}

/-- **A careful task** makes at most `n` calls, and leaves the state as it was if it stops short. -/
structure Careful (n : ℕ) (t : CaseTask α) : Prop where
  calls_le : ∀ ⦃σ : Type⦄ (h : Handler probe σ) (p : Point σ), calls (dialogue h t p) ≤ n
  stops : ∀ ⦃σ : Type⦄ (h : Handler probe σ) (p q : Point σ) (e : Stop),
    exec h t p = (.error e, q) → q.state = p.state

theorem careful_of_keeps {t : CaseTask α} (hkeeps : Keeps id t)
    (hcalls : ∀ ⦃σ : Type⦄ (h : Handler probe σ) (p : Point σ), calls (dialogue h t p) ≤ n) :
    Careful n t where
  calls_le := hcalls
  stops σ h p q e he := by
    have hkept := hkeeps h p
    rw [he] at hkept
    exact hkept

theorem careful_get : Careful 0 get := careful_of_keeps keeps_get fun _ _ _ => Nat.le_refl 0

theorem careful_check (r : Except Error α) : Careful 0 (check r) := by
  refine careful_of_keeps (keeps_check r) fun σ h p => ?_
  rw [dialogue_check]
  exact Nat.le_refl 0

theorem careful_suffix : Careful 0 (lift Probe.suffix) :=
  careful_of_keeps (keeps_lift _) fun _ _ _ => Nat.le_refl 0

theorem careful_modify (f : CaseState → CaseState) : Careful 0 (modify f) where
  calls_le _ _ _ := Nat.le_refl 0
  stops σ h p q e he := by
    rw [exec_modify] at he
    cases he

theorem Careful.mono {t : CaseTask α} (ht : Careful m t) (hmn : m ≤ n) : Careful n t :=
  ⟨fun _ h p => Nat.le_trans (ht.calls_le h p) hmn, ht.stops⟩

/-- **One task after another,** of which the first keeps the state. -/
theorem Careful.bind {t : CaseTask α} {k : α → CaseTask β} (ht : Careful m t) (hkeeps : Keeps id t)
    (hk : ∀ a, Careful n (k a)) : Careful (m + n) (t >>= k) where
  calls_le σ h p := by
    have hfirst := ht.calls_le h p
    rcases hr : exec h t p with ⟨e | a, q⟩
    · rw [dialogue_bind_error hr]
      omega
    · have hsecond := (hk a).calls_le h q
      rw [dialogue_bind_ok hr, calls_append]
      omega
  stops σ h p q e he := by
    rcases hr : exec h t p with ⟨e' | a, r⟩
    · rw [exec_bind_error hr] at he
      cases he
      exact ht.stops h p _ _ hr
    · have hkept : r.state = p.state := by
        have hkept := hkeeps h p
        rw [hr] at hkept
        exact hkept
      rw [exec_bind_ok hr] at he
      exact ((hk a).stops h r q e he).trans hkept

/-- **A task whose result is written down,** without fail. -/
theorem Careful.noted {t : CaseTask α} (ht : Careful n t) (f : α → CaseState → CaseState) :
    Careful n (t >>= fun a => modify (f a)) where
  calls_le σ h p := by
    rcases hr : exec h t p with ⟨e | a, q⟩
    · rw [dialogue_bind_error hr]
      exact ht.calls_le h p
    · rw [dialogue_bind_ok hr, dialogue_modify, List.append_nil]
      exact ht.calls_le h p
  stops σ h p q e he := by
    rcases hr : exec h t p with ⟨e' | a, r⟩
    · rw [exec_bind_error hr] at he
      cases he
      exact ht.stops h p _ _ hr
    · rw [exec_bind_ok hr, exec_modify] at he
      cases he

/-- **A call as the active identity.** -/
theorem careful_call (call : TrackingCall) : Careful 1 (Action.callAsActive call) := by
  have hcall (client : Client) : Careful 1 (lift (Probe.tracking client call)) :=
    careful_of_keeps (keeps_lift _) fun _ _ _ => Nat.le_refl 1
  exact careful_get.bind keeps_get fun s => (careful_check _).bind (keeps_check _) hcall

/-- **A registration** is made, or refused and nothing is written. -/
theorem careful_registerHere (kind : Cleanable) (id : String) :
    Careful 0 (Action.registerHere kind id) where
  calls_le σ h p := by
    unfold Action.registerHere
    rw [dialogue_bind_ok (exec_get h p)]
    cases p.state.register kind id p.state.scope <;> exact Nat.le_refl 0
  stops σ h p q e he := by
    unfold Action.registerHere at he
    rw [exec_bind_ok (exec_get h p)] at he
    cases hr : p.state.register kind id p.state.scope with
    | error e' =>
      rw [hr, exec_bind_error (exec_check_error h p e')] at he
      cases he
      rfl
    | ok s =>
      rw [hr, exec_bind_ok (exec_check_ok h p s), exec_set] at he
      cases he

/-- **Deeds are careful.** The induction is on their shape. -/
theorem Deed.careful {t : CaseTask Unit} (ht : Deed t) : Careful 1 t := by
  have hcreate (kind : Cleanable) (arg : String) : Careful 1 (kind.create arg) ∧
      Keeps id (kind.create arg) := by
    cases kind <;> exact ⟨careful_call _, keeps_callAsActive _ _⟩
  have hremove (kind : Cleanable) (id : String) : Careful 1 (kind.remove id) := by
    cases kind <;> exact careful_call _
  induction ht with
  | look _ ih => exact careful_get.bind keeps_get ih
  | weigh r _ ih => exact (careful_check r).bind (keeps_check r) ih
  | draw _ ih => exact careful_suffix.bind (keeps_lift _) ih
  | note _ => exact (careful_modify _).mono (Nat.zero_le 1)
  | finish _ => exact careful_call _
  | upload _ _ => exact careful_call _
  | consult call f _ _ => exact (careful_call call).noted f
  | create kind arg _ =>
    exact (hcreate kind arg).1.bind (hcreate kind arg).2 fun id =>
      (careful_registerHere kind id).noted _
  | delete kind id _ => exact (hremove kind id).noted _

/-! ## Runs -/

section
variable {σ : Type} {h : Handler probe σ} {p q : Point σ} {D : List (Exchange probe)}

theorem Careful.of_runs {t : CaseTask α} {o : Outcome α} (ht : Careful n t) (hrun : t.Runs h p D o q) :
    calls D ≤ n ∧ ∀ e, o = .error e → q.state = p.state := by
  obtain ⟨hexec, rfl⟩ := hrun
  exact ⟨ht.calls_le h p, fun e he => ht.stops h p q e (he ▸ hexec)⟩

theorem Runs.of_lookup_error {f : CaseState → Except Error α} {k : α → CaseTask β} {o : Outcome β}
    {e : Error} (hrun : (get >>= fun s => check (f s) >>= k).Runs h p D o q)
    (hf : f p.state = .error e) : D = [] ∧ q = p := by
  obtain ⟨hexec, rfl⟩ := hrun
  rw [exec_bind_ok (exec_get h p), hf, exec_bind_error (exec_check_error h p e)] at hexec
  cases hexec
  rw [dialogue_bind_ok (exec_get h p), hf, dialogue_bind_error (exec_check_error h p e)]
  exact ⟨rfl, rfl⟩

theorem Runs.of_lookup_ok {f : CaseState → Except Error α} {k : α → CaseTask β} {o : Outcome β}
    {a : α} (hrun : (get >>= fun s => check (f s) >>= k).Runs h p D o q)
    (hf : f p.state = .ok a) : (k a).Runs h p D o q := by
  obtain ⟨hexec, rfl⟩ := hrun
  rw [exec_bind_ok (exec_get h p), hf, exec_bind_ok (exec_check_ok h p a)] at hexec
  refine ⟨hexec, ?_⟩
  rw [dialogue_bind_ok (exec_get h p), hf, dialogue_bind_ok (exec_check_ok h p a)]
  rfl

end

end CaseTask

/-! ## What is left -/

open GrantProbe.Action in
/-- **What an action that stops short leaves of a state:** the state itself, with two exceptions. An
upload that has a run to go to has prepared an artifact, if there was none; and a load that knows what to
load has dropped the trained model. -/
inductive Action.Leaves (fx : Fixture) (D : List (Exchange probe)) (s : CaseState) (a : Action) :
    CaseState → Prop
  | intact (hlog : a = logArtifact → (∃ e, targetRun fx s = .error e) ∨ s.artifact ≠ none)
    (hload : a = loadModel → s.loggedModelUri = none) : Leaves fx D s a s
  | sampled (ha : a = logArtifact) {id suffix : String} (htarget : targetRun fx s = .ok id)
    (habsent : s.artifact = none) (hdrawn : (⟨.suffix, suffix⟩ : Exchange probe) ∈ D) :
    Leaves fx D s a { s with artifact := some (.sample suffix) }
  | dropped (ha : a = loadModel) {uri : String} (huri : s.loggedModelUri = some uri) :
    Leaves fx D s a { s with trainedModel := none }

section
variable {σ : Type} {h : Handler probe σ} {fx : Fixture} {p q : Point σ} {D : List (Exchange probe)}
  {o : Outcome Unit}

theorem runs_artifactOrSample_prepared {a : Artifact} (ha : p.state.artifact = some a) :
    Action.artifactOrSample.Runs h p [] (.ok a) p := by
  refine ⟨exec_artifactOrSample ha, ?_⟩
  unfold Action.artifactOrSample
  rw [CaseTask.dialogue_bind_ok (CaseTask.exec_get h p), ha]
  rfl

theorem runs_artifactOrSample_drawn (ha : p.state.artifact = none) :
    Action.artifactOrSample.Runs h p [⟨.suffix, (h .suffix p.world).1⟩]
      (.ok (.sample (h .suffix p.world).1))
      ⟨{ p.state with artifact := some (.sample (h .suffix p.world).1) }, (h .suffix p.world).2⟩ := by
  refine ⟨exec_artifactOrSample_drawn ha, ?_⟩
  unfold Action.artifactOrSample
  rw [CaseTask.dialogue_bind_ok (CaseTask.exec_get h p), ha]
  rfl

/-- **Uploading an artifact.** -/
theorem logArtifact_leaves (hrun : (Action.logArtifact.run fx).Runs h p D o q) :
    calls D ≤ 1 ∧ ∀ e, o = .error e → Action.logArtifact.Leaves fx D p.state q.state := by
  have hload : Action.logArtifact = Action.loadModel → p.state.loggedModelUri = none :=
    fun heq => absurd (congrArg Action.name heq) (by decide)
  rcases htarget : Action.targetRun fx p.state with e | id
  · obtain ⟨rfl, rfl⟩ := CaseTask.Runs.of_lookup_error hrun htarget
    exact ⟨Nat.zero_le 1, fun _ _ => .intact (fun _ => Or.inl ⟨e, htarget⟩) hload⟩
  replace hrun := CaseTask.Runs.of_lookup_ok hrun htarget
  cases hartifact : p.state.artifact with
  | some a =>
    obtain ⟨D', rfl, hcall⟩ := hrun.rest (runs_artifactOrSample_prepared hartifact)
    obtain ⟨hcalls, hstate⟩ := (CaseTask.careful_call _).of_runs hcall
    refine ⟨hcalls, fun e he => ?_⟩
    rw [hstate e he]
    exact .intact (fun _ => Or.inr (by rw [hartifact]; nofun)) hload
  | none =>
    obtain ⟨D', rfl, hcall⟩ := hrun.rest (runs_artifactOrSample_drawn hartifact)
    obtain ⟨hcalls, hstate⟩ := (CaseTask.careful_call _).of_runs hcall
    have hdrawn : calls [(⟨.suffix, (h .suffix p.world).1⟩ : Exchange probe)] = 0 := rfl
    refine ⟨by rwa [calls_append, hdrawn, Nat.zero_add], fun e he => ?_⟩
    rw [hstate e he]
    exact .sampled rfl htarget hartifact (List.mem_append_left _ List.mem_cons_self)

/-- **Loading a model.** -/
theorem loadModel_leaves (hrun : (Action.loadModel.run fx).Runs h p D o q) :
    calls D ≤ 1 ∧ ∀ e, o = .error e → Action.loadModel.Leaves fx D p.state q.state := by
  have hlog : Action.loadModel = Action.logArtifact →
      (∃ e, Action.targetRun fx p.state = .error e) ∨ p.state.artifact ≠ none :=
    fun heq => absurd (congrArg Action.name heq) (by decide)
  cases huri : p.state.loggedModelUri with
  | none =>
    obtain ⟨rfl, rfl⟩ := CaseTask.Runs.of_lookup_error hrun (by rw [huri]; rfl)
    exact ⟨Nat.zero_le 1, fun _ _ => .intact hlog fun _ => huri⟩
  | some uri =>
    replace hrun := CaseTask.Runs.of_lookup_ok (a := uri) hrun (by rw [huri]; rfl)
    obtain ⟨D', rfl, hcall⟩ := hrun.rest (r := ⟨{ p.state with trainedModel := none }, p.world⟩)
      (E := []) ⟨CaseTask.exec_modify .., rfl⟩
    obtain ⟨hcalls, hstate⟩ := ((CaseTask.careful_call _).noted _).of_runs hcall
    refine ⟨hcalls, fun e he => ?_⟩
    rw [hstate e he]
    exact .dropped rfl huri

/-- **A failed action leaves its state intact,** but for the two exceptions. Each action of the catalogue
makes at most one call to the tracking service, whatever that answers; and however it stops short, also
abnormally, the state is the one that it found, in every field, or the one that `Action.Leaves` says. -/
theorem failed_action_leaves {a : Action} (ha : a ∈ allActions)
    (hrun : (a.run fx).Runs h p D o q) :
    calls D ≤ 1 ∧ ∀ e, o = .error e → a.Leaves fx D p.state q.state := by
  by_cases hlog : a = Action.logArtifact
  · subst hlog
    exact logArtifact_leaves hrun
  by_cases hload : a = Action.loadModel
  · subst hload
    exact loadModel_leaves hrun
  obtain ⟨hcalls, hstate⟩ := (deed_of_mem ha hlog hload fx).careful.of_runs hrun
  refine ⟨hcalls, fun e he => ?_⟩
  rw [hstate e he]
  exact .intact (fun heq => absurd heq hlog) fun heq => absurd heq hload

end

/-! ## A blank identifier -/

/-- The simulated world, but the experiment that it creates has a blank identifier. -/
def nameless : Handler probe World
  | .tracking _ (.createExperiment _), w => (.ok " ", w)
  | r, w => World.answer r w

/-- An author who has created an experiment. -/
def authorPoint : Point World :=
  ⟨{ CaseState.fresh ["workspace1"] with
      client := some ⟨"author", ⟨"token"⟩, "workspace1"⟩
      experimentId := some "1"
      experiments := .ofList [("1", "workspace1")]
      lastAction := some ⟨"create_experiment", false⟩ }, .fresh trackingGroup 0 true⟩

/-- **A resource with a blank identifier** is refused after it was created, and the state is as it was
before the call. -/
theorem nameless_creation_leaves : Action.createExperiment ∈ allActions ∧
    ∃ D q, (Action.createExperiment.run (authorFixture "workspace1")).Runs nameless authorPoint D
      (.error (.error (.invalidField "experiment_id" "experiment_id cannot be empty"))) q ∧
      calls D = 1 ∧ q.state = authorPoint.state := by
  have ha : Action.createExperiment ∈ allActions := by simp [allActions]
  have herror : (exec nameless (Action.createExperiment.run (authorFixture "workspace1"))
      authorPoint).1 =
        .error (.error (.invalidField "experiment_id" "experiment_id cannot be empty")) := by
    decide +kernel
  have hrun := CaseTask.runs_self nameless
    (Action.createExperiment.run (authorFixture "workspace1")) authorPoint
  rw [herror] at hrun
  obtain ⟨hcalls, hleaves⟩ := failed_action_leaves ha hrun
  refine ⟨ha, _, _, hrun, Nat.le_antisymm hcalls (by decide +kernel), ?_⟩
  generalize (exec nameless (Action.createExperiment.run (authorFixture "workspace1"))
    authorPoint).2.state = s at hleaves ⊢
  cases hleaves _ rfl with
  | intact _ _ => rfl
  | sampled ha _ _ _ => exact absurd (congrArg Action.name ha) (by decide)
  | dropped ha _ => exact absurd (congrArg Action.name ha) (by decide)

end GrantProbe
