import GrantProbe.Proofs.Denial.Name
import GrantProbe.Proofs.Denial.Recency

/-!
# Where the error of an action comes from

An action that fails has been refused by the tracking service, or has failed on its own: it had no
one to act as, nothing to act on, or nothing that it could register. Of the errors that actions
raise on their own only that of a missing baseline resource can read as a denial.

* `Private`: a task that makes no call to the tracking service;
* `Origin`: where the errors of a task come from, with a lemma for each way to build an action;
* `origin_of_mem`: the errors of all actions;
* `denial_is_refusal_iff`: a denial check that passes has seen a refusal by the tracking service,
  unless the baseline is missing in a workspace whose name reads as a denial; `denial_without_call`
  is a run in which it is.
-/

namespace GrantProbe

open Program (Handler)
open CaseTask (exec dialogue)
open GrantProbe.Action

variable {σ α β : Type}

/-- The request is a call to the tracking service. -/
def Ask.isTracking : Ask → Bool
  | tracking .. => true
  | _ => false

/-- **The run makes no call** to the tracking service. -/
def Offline (h : Handler probe σ) (t : CaseTask α) (p : Point σ) : Prop :=
  ∀ x ∈ dialogue h t p, x.request.isTracking = false

/-- **The tracking service answers** a call of the run with the error. -/
def RefusedWith (h : Handler probe σ) (t : CaseTask α) (p : Point σ) (e : Error) : Prop :=
  ∃ client call, (⟨.tracking client call, .error (.error e)⟩ : Exchange probe) ∈ dialogue h t p

/-- The error does not read as a denial. -/
def Harmless (e : Error) : Prop := (FailureCode.ofMessage e.message).isPermission = false

/-- The error of a resource that the baseline of a workspace lacks. -/
def Unseeded (scope : String) (e : Error) : Prop :=
  ∃ what ∈ baselineWords, e = Action.notSeeded what scope

/-- **A task that keeps to itself:** no call, no change of workspace, and no error but of a missing
baseline resource or a harmless one. -/
structure Private (h : Handler probe σ) (p : Point σ) (t : CaseTask α) : Prop where
  offline : Offline h t p
  scope : (exec h t p).2.state.scope = p.state.scope
  errors : ∀ e q, exec h t p = (.error (.error e), q) → Unseeded p.state.scope e ∨ Harmless e

/-- **Where the errors of a task come from.** -/
def Origin (h : Handler probe σ) (p : Point σ) (t : CaseTask α) : Prop :=
  ∀ e q, exec h t p = (.error (.error e), q) →
    RefusedWith h t p e ∨ (Offline h t p ∧ Unseeded p.state.scope e) ∨ Harmless e

/-- The errors of the task are harmless. -/
def OnlyHarmless (h : Handler probe σ) (p : Point σ) (t : CaseTask α) : Prop :=
  ∀ e q, exec h t p = (.error (.error e), q) → Harmless e

section
variable {h : Handler probe σ} {p : Point σ} {t : CaseTask α} {k : α → CaseTask β}

/-! ## Tasks that keep to themselves -/

theorem private_pure (a : α) : Private h p (pure a) where
  offline := by intro x hx; exact absurd hx List.not_mem_nil
  scope := rfl
  errors := by intro e q he; simp at he

theorem private_get : Private h p get where
  offline := by intro x hx; exact absurd hx List.not_mem_nil
  scope := rfl
  errors := by intro e q he; simp at he

theorem private_modify {f : CaseState → CaseState} (hf : (f p.state).scope = p.state.scope) :
    Private h p (modify f) where
  offline := by intro x hx; exact absurd hx List.not_mem_nil
  scope := hf
  errors := by intro e q he; simp at he

theorem private_check {r : Except Error α}
    (hr : ∀ e, r = .error e → Unseeded p.state.scope e ∨ Harmless e) :
    Private h p (CaseTask.check r) := by
  cases r with
  | ok a => exact private_pure a
  | error e =>
    refine ⟨fun x hx => absurd hx List.not_mem_nil, rfl, ?_⟩
    intro e' q he
    rw [CaseTask.exec_check_error] at he
    obtain ⟨rfl, -⟩ := by simpa using he
    exact hr _ rfl

theorem private_suffix : Private h p (CaseTask.lift Probe.suffix) where
  offline := by
    intro x hx
    obtain rfl := List.mem_singleton.mp (show x ∈ [⟨Ask.suffix, _⟩] from hx)
    rfl
  scope := rfl
  errors := by
    intro e q he
    rw [CaseTask.exec_lift] at he
    exact absurd he (by simp [Probe.suffix, Task.exec_always])

theorem offline_bind (ht : Offline h t p)
    (hk : ∀ a q, exec h t p = (.ok a, q) → Offline h (k a) q) : Offline h (t >>= k) p := by
  intro x hx
  rw [CaseTask.dialogue_bind, List.mem_append] at hx
  rcases hx with hx | hx
  · exact ht x hx
  · rcases hr : exec h t p with ⟨e | a, q⟩
    · simp [hr] at hx
    · rw [hr] at hx
      exact hk a q hr x hx

theorem Private.bind (ht : Private h p t)
    (hk : ∀ a q, exec h t p = (.ok a, q) → Private h q (k a)) : Private h p (t >>= k) := by
  have hscope := ht.scope
  refine ⟨offline_bind ht.offline fun a q hr => (hk a q hr).offline, ?_, fun e q he => ?_⟩
  · rw [CaseTask.exec_bind]
    rcases hr : exec h t p with ⟨e | a, q⟩ <;> rw [hr] at hscope
    · exact hscope
    · exact (hk a q hr).scope.trans hscope
  · rw [CaseTask.exec_bind] at he
    rcases hr : exec h t p with ⟨e' | a, q'⟩ <;> simp only [hr] at he hscope
    · exact ht.errors e q' (by rw [hr]; simp_all)
    · exact hscope ▸ (hk a q' hr).errors e q he

/-! ## Tasks with a call -/

theorem Private.origin (ht : Private h p t) : Origin h p t := by
  intro e q he
  rcases ht.errors e q he with hu | hh
  · exact Or.inr (Or.inl ⟨ht.offline, hu⟩)
  · exact Or.inr (Or.inr hh)

/-- What a task keeps to itself in front does not change where errors come from. -/
theorem Private.bind_origin (ht : Private h p t)
    (hk : ∀ a q, exec h t p = (.ok a, q) → Origin h q (k a)) : Origin h p (t >>= k) := by
  intro e q he
  have hscope := ht.scope
  rw [CaseTask.exec_bind] at he
  rcases hr : exec h t p with ⟨e' | a, q'⟩ <;> simp only [hr] at he hscope
  · obtain rfl : e' = .error e := by simp_all
    have hoff : Offline h (t >>= k) p := offline_bind ht.offline fun a q hq => by simp [hr] at hq
    rcases ht.errors e q' hr with hu | hh
    · exact Or.inr (Or.inl ⟨hoff, hu⟩)
    · exact Or.inr (Or.inr hh)
  · rcases hk a q' hr e q he with ⟨client, call, hx⟩ | ⟨hoff, hu⟩ | hh
    · refine Or.inl ⟨client, call, ?_⟩
      rw [CaseTask.dialogue_bind, hr]
      exact List.mem_append_right _ hx
    · refine Or.inr (Or.inl ⟨offline_bind ht.offline fun a' q'' hq => ?_, hscope ▸ hu⟩)
      obtain ⟨rfl, rfl⟩ : a = a' ∧ q' = q'' := by simpa [hr] using hq
      exact hoff
    · exact Or.inr (Or.inr hh)

/-- What fails harmlessly behind does not change where other errors come from. -/
theorem Origin.bind (ht : Origin h p t)
    (hk : ∀ a q, exec h t p = (.ok a, q) → OnlyHarmless h q (k a)) : Origin h p (t >>= k) := by
  intro e q he
  rw [CaseTask.exec_bind] at he
  have hd := CaseTask.dialogue_bind h t k p
  rcases hr : exec h t p with ⟨e' | a, q'⟩ <;> simp only [hr] at he hd
  · obtain rfl : e' = .error e := by simp_all
    rw [List.append_nil] at hd
    unfold RefusedWith Offline
    rw [hd]
    exact ht e q' hr
  · exact Or.inr (Or.inr (hk a q' hr e q he))

/-- Looking a target up keeps to itself if its errors are those of missing resources, or harmless.
-/
theorem origin_check_get {f : CaseState → Except Error α} {k : α → CaseTask β}
    (hf : ∀ s e, f s = .error e → Unseeded s.scope e ∨ Harmless e)
    (hk : ∀ a, f p.state = .ok a → Origin h p (k a)) :
    Origin h p (get >>= fun s => CaseTask.check (f s) >>= k) := by
  refine private_get.bind_origin fun s q hs => ?_
  obtain ⟨rfl, rfl⟩ : p.state = s ∧ p = q := by simpa using hs
  refine (private_check (hf p.state)).bind_origin fun a q ha => ?_
  cases hr : f p.state with
  | error e => simp [hr] at ha
  | ok b =>
    obtain ⟨rfl, rfl⟩ : b = a ∧ p = q := by simpa [hr] using ha
    exact hk b hr

/-- **What an action says by itself,** with no reply behind it and nothing missing in the baseline. -/
def ownErrors : List Error :=
  noIdentityError :: .invalidField "workspace" "workspace cannot be empty" ::
    [Cleanable.experiment, .run, .model].map (fun kind =>
      .invalidField kind.field (kind.field ++ " cannot be empty")) ++
    ["inputs have no variance", "no run in this case; create one first",
      "no artifact prepared to download", "no model trained to log", "no model logged to load"].map
      .invalidInput

theorem harmless_of_mem_ownErrors {e : Error} (he : e ∈ ownErrors) : Harmless e := by
  have hall : ∀ e ∈ ownErrors, (FailureCode.ofMessage e.message).isPermission = false := by
    decide +kernel
  exact hall e he

theorem activeClient_error {s : CaseState} {e : Error} (he : s.activeClient = .error e) :
    Harmless e := by
  unfold CaseState.activeClient at he
  split at he
  · simp at he
  · obtain rfl : noIdentityError = e := by simpa using he
    exact harmless_of_mem_ownErrors (by simp [ownErrors])

/-- **A call** fails harmlessly for want of an identity, or with what the tracking service answers.
-/
theorem origin_callAsActive (call : TrackingCall) : Origin h p (callAsActive call) := by
  refine origin_check_get (fun s e he => Or.inr (activeClient_error he)) fun client _ => ?_
  intro e q he
  refine Or.inl ⟨client, call, ?_⟩
  rw [CaseTask.exec_lift] at he
  have hanswer : (h (.tracking client call) p.world).1 = .error (.error e) := (Prod.mk.inj he).1
  rw [← hanswer]
  exact List.mem_singleton_self _

/-! ## What comes after a call -/

theorem onlyHarmless_modify (f : CaseState → CaseState) : OnlyHarmless h p (modify f) := by
  intro e q he
  simp at he

theorem OnlyHarmless.bind (ht : OnlyHarmless h p t)
    (hk : ∀ a q, OnlyHarmless h q (k a)) : OnlyHarmless h p (t >>= k) := by
  intro e q he
  rw [CaseTask.exec_bind] at he
  rcases hr : exec h t p with ⟨e' | a, q'⟩ <;> simp only [hr] at he
  · exact ht e q' (by rw [hr]; simp_all)
  · exact hk a q' e q he

theorem register_error {s : CaseState} {kind : Cleanable} {id scope : String} {e : Error}
    (he : s.register kind id scope = .error e) : Harmless e := by
  unfold CaseState.register at he
  split_ifs at he <;> obtain rfl := Except.error.inj he
  · exact harmless_of_mem_ownErrors (by cases kind <;> simp [ownErrors])
  · exact harmless_of_mem_ownErrors (by simp [ownErrors])

theorem onlyHarmless_registerHere (kind : Cleanable) (id : String) :
    OnlyHarmless h p (registerHere kind id) := by
  intro e q he
  unfold registerHere at he
  rw [CaseTask.exec_bind_ok (CaseTask.exec_get h p)] at he
  cases hr : p.state.register kind id p.state.scope with
  | ok s => simp [hr, CaseTask.exec_bind] at he
  | error e' =>
    obtain ⟨rfl, -⟩ := by simpa [hr, CaseTask.exec_bind] using he
    exact register_error hr

end

/-! ## The actions -/

section
variable {fx : Fixture} {s : CaseState} {e : Error} {id : String}

theorem baselineExperiment_error (he : baselineExperiment fx s = .error e) :
    Unseeded s.scope e := by
  unfold baselineExperiment at he
  split at he
  · simp at he
  · exact ⟨"experiment", by simp [baselineWords], (Except.error.inj he).symm⟩

theorem baselineRun_error (he : baselineRun fx s = .error e) : Unseeded s.scope e := by
  unfold baselineRun at he
  split at he
  · split at he
    · exact ⟨"run", by simp [baselineWords], (Except.error.inj he).symm⟩
    · simp at he
  · exact ⟨"run", by simp [baselineWords], (Except.error.inj he).symm⟩

theorem baselineModel_error (he : baselineModel fx s = .error e) : Unseeded s.scope e := by
  unfold baselineModel at he
  split at he
  · simp at he
  · exact ⟨"model", by simp [baselineWords], (Except.error.inj he).symm⟩

theorem handleOr_error {handle : Option String} {fallback : Except Error String}
    (he : handleOr handle fallback = .error e) : fallback = .error e := by
  cases handle with
  | some id => simp [handleOr] at he
  | none => exact he

theorem required_error {handle : Option α} {message : String}
    (he : required handle message = .error e) : e = .invalidInput message := by
  cases handle with
  | some a => simp [required] at he
  | none => exact (Except.error.inj he).symm

/-- Fitting the reference line can fail in one way only, and harmlessly. -/
theorem reference_error (he : LinearModel.reference = .error e) : Harmless e := by
  unfold LinearModel.reference LinearModel.fit at he
  rw [if_neg (by simp), if_neg (by simp)] at he
  simp only at he
  split_ifs at he
  obtain rfl := Except.error.inj he
  exact harmless_of_mem_ownErrors (by simp [ownErrors])

end

section
variable {h : Handler probe σ} {p : Point σ} {fx : Fixture}

theorem origin_target {target : CaseState → Except Error String} {k : String → CaseTask Unit}
    (htarget : ∀ s e, target s = .error e → Unseeded s.scope e)
    (hk : ∀ id, Origin h p (k id)) :
    Origin h p (get >>= fun s => CaseTask.check (target s) >>= k) :=
  origin_check_get (fun s e he => Or.inl (htarget s e he)) fun id _ => hk id

theorem targetExperiment_error (s : CaseState) (e : Error) (he : targetExperiment fx s = .error e) :
    Unseeded s.scope e := baselineExperiment_error (handleOr_error he)

theorem targetRun_error (s : CaseState) (e : Error) (he : targetRun fx s = .error e) :
    Unseeded s.scope e := baselineRun_error (handleOr_error he)

theorem targetModel_error (s : CaseState) (e : Error) (he : targetModel fx s = .error e) :
    Unseeded s.scope e := baselineModel_error (handleOr_error he)

theorem private_artifactOrSample : Private h p artifactOrSample := by
  refine private_get.bind fun s q hs => ?_
  split
  · exact private_pure _
  · exact private_suffix.bind fun _ _ _ => (private_modify rfl).bind fun _ _ _ => private_pure _

theorem origin_call_modify (call : TrackingCall) (f : call.Answer → CaseState → CaseState) :
    Origin h p (callAsActive call >>= fun r => modify (f r)) :=
  (origin_callAsActive call).bind fun _ _ _ => onlyHarmless_modify _

theorem origin_call_register (call : TrackingCall) (kind : Cleanable) (id : call.Answer → String)
    (f : call.Answer → CaseState → CaseState) :
    Origin h p (callAsActive call >>= fun r => registerHere kind (id r) >>= fun _ =>
      modify (f r)) :=
  (origin_callAsActive call).bind fun _ _ _ =>
    (onlyHarmless_registerHere kind _).bind fun _ _ => onlyHarmless_modify _

theorem origin_required {handle : CaseState → Option α} {message : String}
    (hm : .invalidInput message ∈ ownErrors) {k : α → CaseTask β}
    (hk : ∀ a, Origin h p (k a)) :
    Origin h p (get >>= fun s => CaseTask.check (required (handle s) message) >>= k) :=
  origin_check_get (fun _ _ he => Or.inr (required_error he ▸ harmless_of_mem_ownErrors hm))
    fun a _ => hk a

/-- **Where the error of an action comes from.** One case for each action. -/
theorem origin_of_mem {action : Action} (ha : action ∈ allActions) :
    Origin h p (action.run fx) := by
  have hall : allActions.Forall fun action => ∀ p : Point σ, Origin h p (action.run fx) := by
    refine ⟨?getExperiment, ?createExperiment, ?deleteExperiment, ?createRun, ?deleteRun, ?endRun,
      ?getRunInfo, ?prepareArtifact, ?logArtifact, ?listArtifacts, ?downloadArtifact, ?trainModel,
      ?logModel, ?loadModel, ?getRegisteredModel, ?createRegisteredModel,
      ?deleteRegisteredModel⟩ <;> intro p
    case getExperiment =>
      exact origin_target (fun _ _ => baselineExperiment_error) fun id => origin_call_modify _ _
    case createExperiment =>
      exact private_suffix.bind_origin fun _ _ _ => origin_call_register _ .experiment _ _
    case deleteExperiment =>
      exact origin_target targetExperiment_error fun id => origin_call_modify _ _
    case createRun =>
      exact origin_target targetExperiment_error fun id => origin_call_register _ .run _ _
    case deleteRun => exact origin_target targetRun_error fun id => origin_call_modify _ _
    case endRun => exact origin_required (by simp [ownErrors]) fun id => origin_callAsActive _
    case getRunInfo => exact origin_target targetRun_error fun id => origin_call_modify _ _
    case prepareArtifact =>
      exact (private_suffix.bind fun _ _ _ => private_modify rfl).origin
    case logArtifact =>
      exact origin_target targetRun_error fun id =>
        private_artifactOrSample.bind_origin fun _ _ _ => origin_callAsActive _
    case listArtifacts => exact origin_target targetRun_error fun id => origin_call_modify _ _
    case downloadArtifact =>
      exact origin_target targetRun_error fun id =>
        origin_required (by simp [ownErrors]) fun _ => origin_call_modify _ _
    case trainModel =>
      exact ((private_check fun e he => Or.inr (reference_error he)).bind fun _ _ _ =>
        private_modify rfl).origin
    case logModel =>
      exact origin_target targetRun_error fun id =>
        origin_required (by simp [ownErrors]) fun _ => origin_call_modify _ _
    case loadModel =>
      exact origin_required (by simp [ownErrors]) fun uri =>
        (private_modify rfl).bind_origin fun _ _ _ => origin_call_modify _ _
    case getRegisteredModel =>
      exact origin_target (fun _ _ => baselineModel_error) fun name => origin_call_modify _ _
    case createRegisteredModel =>
      exact private_suffix.bind_origin fun _ _ _ => origin_call_register _ .model _ _
    case deleteRegisteredModel =>
      exact origin_target targetModel_error fun name => origin_call_modify _ _
  exact List.forall_iff_forall_mem.mp hall action ha p

end

/-! ## The denial check -/

namespace Sighting

variable (fx : Fixture) (h : Handler probe σ) (o : Sighting σ)

/-- The action called the tracking service, which answered with the error that the action returned.
-/
def IsRefusal : Prop :=
  ∃ action e, o.step.action = some action ∧ o.result = some (.error e) ∧
    RefusedWith h (action.run fx) o.start e

/-- The action did not call the tracking service. -/
def IsOffline : Prop :=
  ∀ action, o.step.action = some action → Offline h (action.run fx) o.start

/-- The action failed without a call, on a resource that the baseline of the active workspace lacks.
-/
def LacksBaseline : Prop :=
  o.IsOffline fx h ∧ ∃ e, o.result = some (.error e) ∧ Unseeded o.start.state.scope e

end Sighting

section
variable {fx : Fixture} {h : Handler probe σ} {o : Sighting σ} {steps : List Step} {p : Point σ}

/-- The denial check of a step with an action passes if and only if that action was denied. -/
theorem verdict_of_mem_sightings (ho : o ∈ sightings fx h steps p) {action : Action}
    (ha : o.step.action = some action) (hc : o.step.check = some Check.actionDenied) :
    ∃ v, o.verdict = some v ∧ (v = .ok () ↔ IsDenial o.result) := by
  obtain ⟨outcome, q, hact, hres, hver⟩ := act_of_mem_sightings ho
  obtain ⟨r, hr, hq⟩ := remembers_of_act fx h ha hact
  refine ⟨_, hver.trans (verdict?_actionDenied hc), ?_⟩
  rw [hq.denialVerdict_iff, hres, hr]

theorem result_origin (ho : o ∈ sightings fx h steps p) {action : Action}
    (ha : o.step.action = some action) (hmem : action ∈ allActions) {e : Error}
    (he : o.result = some (.error e)) :
    RefusedWith h (action.run fx) o.start e ∨
      (Offline h (action.run fx) o.start ∧ Unseeded o.start.state.scope e) ∨ Harmless e := by
  obtain ⟨outcome, q, -, hres, -⟩ := act_of_mem_sightings ho
  simp only [he, Step.result?, ha, CaseTask.exec_attempt] at hres
  rcases hrun : exec h (action.run fx) o.start with ⟨(e' | x) | u, q'⟩ <;>
    simp only [hrun, Except.toOption, Option.some.injEq, Except.error.injEq, reduceCtorEq] at hres
  subst hres
  exact origin_of_mem hmem e q' hrun

theorem isPermission_of_unseeded {scope : String} {e : Error} (he : Unseeded scope e) :
    (FailureCode.ofMessage e.message).isPermission = readsAsDenial scope := by
  obtain ⟨what, hwhat, rfl⟩ := he
  exact isPermission_notSeeded hwhat scope

/-- **A denial is a refusal by the tracking service,** whatever it answers and whatever the baseline
holds, exactly unless the action lacks a baseline resource in a workspace whose name reads as a
denial. An action that never gets to call the tracking service passes the denial check in that case
alone. -/
theorem denial_is_refusal_iff (fx : Fixture) (h : Handler probe σ) (c : Case) (w : σ)
    {o : Sighting σ} (ho : o ∈ caseSightings fx h c w) {action : Action}
    (ha : o.step.action = some action) (hmem : action ∈ allActions)
    (hc : o.step.check = some Check.actionDenied) :
    ∃ v, o.verdict = some v ∧
      ((v = .ok () → o.IsRefusal fx h) ↔
        ¬(o.LacksBaseline fx h ∧ readsAsDenial o.start.state.scope = true)) ∧
      (o.IsOffline fx h →
        (v = .ok () ↔ o.LacksBaseline fx h ∧ readsAsDenial o.start.state.scope = true)) := by
  obtain ⟨v, hv, hiff⟩ := verdict_of_mem_sightings ho ha hc
  have hlacks : o.LacksBaseline fx h ∧ readsAsDenial o.start.state.scope = true → v = .ok () := by
    rintro ⟨⟨-, e, he, hu⟩, hname⟩
    exact hiff.mpr ⟨e, he, (isPermission_of_unseeded hu).trans hname⟩
  have hrefused : v = .ok () → o.IsRefusal fx h ∨
      (o.LacksBaseline fx h ∧ readsAsDenial o.start.state.scope = true) := by
    intro hok
    obtain ⟨e, he, hp⟩ := hiff.mp hok
    rcases result_origin ho ha hmem he with hr | ⟨hoff, hu⟩ | hh
    · exact Or.inl ⟨action, e, ha, he, hr⟩
    · refine Or.inr ⟨⟨fun a ha' => ?_, e, he, hu⟩, (isPermission_of_unseeded hu).symm.trans hp⟩
      obtain rfl : action = a := Option.some.inj (ha.symm.trans ha')
      exact hoff
    · exact absurd (hh.symm.trans hp) (by simp)
  have hnot : o.IsOffline fx h → ¬o.IsRefusal fx h := by
    rintro hoff ⟨a, e, ha', -, client, call, hx⟩
    exact absurd (hoff a ha' _ hx) (by simp [Ask.isTracking])
  refine ⟨v, hv, ⟨fun hr hl => hnot hl.1.1 (hr (hlacks hl)), fun hl hok => ?_⟩, fun hoff => ?_⟩
  · exact (hrefused hok).resolve_right hl
  · exact ⟨fun hok => (hrefused hok).resolve_left (hnot hoff), hlacks⟩

end

/-- An identity without a grant is refused an experiment. -/
def refusedCreation : Case :=
  Catalogue.grantedCase "refused creation" ⟨[], [], none⟩ .primary
    [Catalogue.step createExperiment Check.actionDenied]

/-- The run of `refusedCreation` in a world that has just begun. -/
def refusedCreationRun : List (Sighting World) :=
  caseSightings bareFixture World.answer refusedCreation (.fresh trackingGroup 0 true)

theorem length_refusedCreationRun : refusedCreationRun.length = 1 := by decide +kernel

/-- The check of `refusedCreation` has seen a refusal. -/
theorem refusedCreation_is_refusal :
    ∃ o ∈ refusedCreationRun, o.step.action = some createExperiment ∧
      createExperiment ∈ allActions ∧
      o.step.check = some Check.actionDenied ∧
      ∃ v, o.verdict = some v ∧
        ((v = .ok () → o.IsRefusal bareFixture World.answer) ↔
          ¬(o.LacksBaseline bareFixture World.answer ∧ readsAsDenial o.start.state.scope = true)) ∧
        (o.IsOffline bareFixture World.answer →
          (v = .ok () ↔ o.LacksBaseline bareFixture World.answer ∧
            readsAsDenial o.start.state.scope = true)) := by
  obtain ⟨o, hrun⟩ := List.length_eq_one_iff.mp length_refusedCreationRun
  have ho : o ∈ refusedCreationRun := by rw [hrun]; exact List.mem_singleton_self o
  have hprefix := map_step_sightings_prefix bareFixture World.answer refusedCreation.steps
    ⟨.fresh bareFixture.setting.scopes, .fresh trackingGroup 0 true⟩
  have hsteps : refusedCreationRun.map Sighting.step = refusedCreation.steps :=
    hprefix.eq_of_length (by rw [List.length_map]; exact length_refusedCreationRun)
  rw [hrun] at hsteps
  have hstep := (List.cons.inj hsteps).1
  have ha : o.step.action = some createExperiment := by rw [hstep]; rfl
  have hc : o.step.check = some Check.actionDenied := by rw [hstep]; rfl
  have hmem : createExperiment ∈ allActions := List.mem_cons_of_mem _ List.mem_cons_self
  exact ⟨o, ho, ha, hmem, hc,
    denial_is_refusal_iff bareFixture World.answer refusedCreation _ ho ha hmem hc⟩

/-- A workspace whose name reads as a denial, without a baseline. -/
def teamAccess : Fixture :=
  ⟨⟨["team-access", "workspace2"], ⟨"admin-token"⟩, .standard, "test-user"⟩, .empty⟩

/-- Fetches the baseline experiment as nobody, and takes that for a denial. -/
def unseededFetch : Case := ⟨"single", [Catalogue.step getExperiment Check.actionDenied]⟩

/-- **A denial without a call.** The baseline lacks an entry for the workspace, nothing is asked of
anyone, and the denial check passes. -/
theorem denial_without_call :
    ∃ o ∈ caseSightings teamAccess World.answer unseededFetch (.fresh trackingGroup 0 true),
      o.step.action = some getExperiment ∧ o.step.check = some Check.actionDenied ∧
      o.verdict = some (.ok ()) ∧ o.IsOffline teamAccess World.answer ∧
      ¬o.IsRefusal teamAccess World.answer := by
  refine ⟨_, List.mem_cons_self .., rfl, rfl, rfl, ?_, ?_⟩
  · rintro action hact x hx
    obtain rfl := Option.some.inj hact
    exact absurd hx List.not_mem_nil
  · rintro ⟨action, e, hact, -, client, call, hx⟩
    obtain rfl := Option.some.inj hact
    exact absurd hx List.not_mem_nil

end GrantProbe
