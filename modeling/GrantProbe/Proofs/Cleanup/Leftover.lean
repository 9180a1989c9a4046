import GrantProbe.Proofs.Case.Teardown
import GrantProbe.Proofs.Cleanup.Book
import GrantProbe.Proofs.Verification.Answers

/-!
# What a case leaves is removed

The teardown of a case asks for one deletion of each resource that its registries hold, as the
administrator, in the workspace of the resource. The registries are the books of the case, so what
is deleted is what the case created and did not delete itself.

* `Step.IsOrderly`: a step over the catalogue of actions, with a check that only reads;
  `booked_runCase`: a case of such steps keeps its books;
* `Cleanable.removals`: the deletions of a kind; `removals_teardown`: those of a teardown;
* `leftovers_are_removed`: they are what is outstanding, but for workspaces without a name.
-/

namespace GrantProbe

open Program (Handler)
open CaseTask (exec dialogue Keeps Booked)

/-! ## Cases keep their books -/

section
variable {fx : Fixture} {step : Step}

/-- **A step over the catalogue of actions,** with a check that neither creates nor deletes. -/
structure Step.IsOrderly (fx : Fixture) (step : Step) : Prop where
  action : ∀ a, step.action = some a → a ∈ allActions
  check : ∀ c, step.check = some c → ∀ s, (c.test fx s).Asks Ask.IsUnbooked

theorem isOrderly_of_mem (haction : ∀ a, step.action = some a → a ∈ allActions)
    (hcheck : ∀ c, step.check = some c → c ∈ allChecks) : step.IsOrderly fx :=
  ⟨haction, fun c hc s => (asks_of_mem (hcheck c hc) fx s).mono fun _ => isUnbooked_of_isPlain⟩

theorem bound_rebind {σ : Type} (h : Handler probe σ) (p : Point σ) :
    (exec h rebind p).2.state.Bound := by
  rw [exec_rebind]
  intro c hc
  obtain ⟨i, -, rfl⟩ := Option.map_eq_some_iff.mp hc
  rfl

theorem forgetsIdentity_registry (kind : Cleanable) : ForgetsIdentity (·.registry kind) := by
  intro s i scope client is
  cases kind <;> rfl

theorem booked_useScope (ref : ScopeRef) : Booked (useScope fx ref) := by
  refine CaseTask.booked_of_unbooked ?_ (fun kind => keeps_useScope (forgetsIdentity_registry kind) fx
    ref) fun σ h p hb => ?_
  · exact asks_useScope (fun _ => trivial) fx ref
  · rcases hs : resolveScope fx.setting.scopes ref with e | scope
    · unfold useScope
      rw [hs]
      exact hb
    · rw [exec_useScope h hs]
      exact bound_rebind h _

theorem booked_establishIdentity (spec : IdentitySpec) : Booked (establishIdentity fx spec) := by
  refine CaseTask.booked_of_unbooked ?_ (fun kind => keeps_establishIdentity
    (forgetsIdentity_registry kind) fx spec) fun σ h p hb => ?_
  · exact asks_establishIdentity (fun _ => trivial) (fun _ => isUnbooked_of_isProvisioning) fx spec
  · unfold establishIdentity
    rcases hs : resolveScope fx.setting.scopes spec.scope with e | scope
    · exact hb
    · rw [CaseTask.exec_bind_ok (CaseTask.exec_check_ok h p scope)]
      rcases hr : (fx.setting.establish scope spec.capability).exec h p.world with ⟨e | i, v⟩
      · rw [CaseTask.exec_bind_error (CaseTask.exec_lift_error hr)]
        exact hb
      · rw [CaseTask.exec_bind_ok (CaseTask.exec_lift_ok hr),
          CaseTask.exec_bind_ok (CaseTask.exec_modify ..)]
        exact bound_rebind h _

theorem booked_prepare : Booked (step.prepare fx) := by
  rw [prepare_eq]
  refine Booked.bind ?_ fun _ => ?_
  · unfold Step.become
    split
    · exact booked_establishIdentity _
    · exact (CaseTask.plain_pure _).booked
  · unfold Step.go
    split
    · exact booked_useScope _
    · exact (CaseTask.plain_pure _).booked

namespace Step.IsOrderly

variable (hd : step.IsOrderly fx)
include hd

theorem booked_act : Booked (step.act fx) := by
  unfold Step.act
  split
  · exact (CaseTask.plain_pure _).booked
  · rename_i a ha
    refine (tidy_of_mem (hd.action a ha) fx).booked.attempt.bind fun r => ?_
    rcases r with e | _
    · exact (plain_recordFailure a.name e).booked
    · exact (plain_recordSuccess a.name).booked

theorem booked_verify (outcome : ActionOutcome) : Booked (step.verify fx outcome) := by
  refine CaseTask.booked_of_unbooked (Step.asks_verify hd.check outcome)
    (fun kind => keeps_verify _ fx step outcome) fun σ h p hb => ?_
  have hkept : (exec h (step.verify fx outcome) p).2.state = p.state :=
    keeps_verify id fx step outcome h p
  rw [hkept]
  exact hb

theorem booked_runStep : Booked (runStep fx step) :=
  booked_prepare.bind fun _ => hd.booked_act.bind fun outcome => (hd.booked_verify outcome).bind
    fun _ => CaseTask.plain_get.booked.bind fun _ => (CaseTask.plain_pure _).booked

end Step.IsOrderly

/-- Steps keep their books. The induction is on the steps. -/
theorem booked_runSteps {steps : List Step} (hsteps : ∀ step ∈ steps, step.IsOrderly fx) :
    Booked (runSteps fx steps) := by
  induction steps with
  | nil => exact (CaseTask.plain_pure _).booked
  | cons step rest ih =>
    refine (hsteps step List.mem_cons_self).booked_runStep.bind fun _ => Booked.bind ?_ fun _ =>
      (CaseTask.plain_pure _).booked
    exact ih fun s hs => hsteps s (List.mem_cons_of_mem _ hs)

/-- **A case keeps its books,** however it ends. -/
theorem booked_runCase {c : Case} (hsteps : ∀ step ∈ c.steps, step.IsOrderly fx) :
    Booked (runCase fx c) :=
  (booked_runSteps hsteps).bind fun _ => (CaseTask.plain_pure _).booked

end

/-! ## Teardown -/

/-- The deletion of a resource that a request is, with the client that asks for it. -/
def Cleanable.removal? : Cleanable → Ask → Option (Client × String)
  | .run, .tracking client (.deleteRun id) => some (client, id)
  | .model, .tracking client (.deleteRegisteredModel name) => some (client, name)
  | .experiment, .tracking client (.deleteExperiment id) => some (client, id)
  | _, _ => none

/-- **The deletions of a kind** that a dialogue asks for. -/
def Cleanable.removals (kind : Cleanable) (D : List (Exchange probe)) : List (Client × String) :=
  (D.map Exchange.request).filterMap kind.removal?

/-- The request to delete a resource. -/
def Cleanable.deletion : Cleanable → Client → String → Ask
  | .run, client, id => .tracking client (.deleteRun id)
  | .model, client, name => .tracking client (.deleteRegisteredModel name)
  | .experiment, client, id => .tracking client (.deleteExperiment id)

/-- What a teardown asks for, from the entries of a registry. -/
def Setting.asAdmin (s : Setting) (entries : List (String × String)) : List (Client × String) :=
  entries.map fun x => (s.adminClient x.2, x.1)

theorem removals_append (kind : Cleanable) (D D' : List (Exchange probe)) :
    kind.removals (D ++ D') = kind.removals D ++ kind.removals D' := by
  rw [Cleanable.removals, List.map_append, List.filterMap_append]
  rfl

theorem removals_eq_nil {kind : Cleanable} {D : List (Exchange probe)}
    (hD : ∀ x ∈ D, x.request.IsWithdrawal) : kind.removals D = [] := by
  have hnone {r : Ask} (hr : r.IsWithdrawal) : kind.removal? r = none := by
    cases hr <;> cases kind <;> rfl
  refine List.filterMap_eq_nil_iff.mpr fun r hr => ?_
  obtain ⟨x, hx, rfl⟩ := List.mem_map.mp hr
  exact hnone (hD x hx)

section
variable {σ : Type} {h : Handler probe σ}
  (hcalls : ∀ client call w x, (h (.tracking client call) w).1 ≠ .error (.panic x))
include hcalls

/-- **Deleting a resource** asks for it once, whatever comes of it. -/
theorem runs_removeResource (s : Setting) (kind : Cleanable) (id scope : String) (w : σ) :
    ∃ report v, (removeResource s kind id scope).Runs h w
      [.bind (s.adminClient scope), kind.deletion (s.adminClient scope) id] (.ok report) v := by
  have hbind : (s.adminClientFor scope).Runs h w [.bind (s.adminClient scope)]
      (.ok (s.adminClient scope)) (h (.bind (s.adminClient scope)) w).2 := ⟨rfl, rfl⟩
  obtain ⟨r, v, hdelete, hcalm⟩ : ∃ (r : Outcome Unit) (v : σ),
      (kind.delete (s.adminClient scope) id).Runs h (h (.bind (s.adminClient scope)) w).2
        [kind.deletion (s.adminClient scope) id] r v ∧ ∀ x, r ≠ .error (.panic x) := by
    cases kind <;> exact ⟨_, _, ⟨rfl, rfl⟩, fun x => hcalls _ _ _ x⟩
  unfold removeResource
  rcases r with (e | x) | _
  · by_cases hmissing : FailureCode.ofMessage e.message = .resourceNotFound
    · refine ⟨⟨1, []⟩, v, hbind.bind_ok (hdelete.attempt_error.bind_ok ?_)⟩
      simp only [if_pos hmissing]
      exact Task.runs_pure _
    · refine ⟨⟨1, ["delete " ++ kind.text ++ " " ++ id ++ " in " ++ scope ++ ": " ++ e.message]⟩, v,
        hbind.bind_ok (hdelete.attempt_error.bind_ok ?_)⟩
      simp only [if_neg hmissing]
      exact Task.runs_pure _
  · exact absurd rfl (hcalm x)
  · exact ⟨_, v, hbind.bind_ok (hdelete.attempt_ok.bind_ok (Task.runs_pure _))⟩

/-- **Deleting resources** asks for each once. The induction is on the entries of the registry. -/
theorem runs_removeResources (s : Setting) (kind : Cleanable) (entries : List (String × String))
    (w : σ) : ∃ report v, (removeResources s kind entries).Runs h w
      (entries.flatMap fun x => [.bind (s.adminClient x.2), kind.deletion (s.adminClient x.2) x.1])
      (.ok report) v := by
  induction entries generalizing w with
  | nil => exact ⟨_, w, Task.runs_pure _⟩
  | cons x rest ih =>
    obtain ⟨id, scope⟩ := x
    obtain ⟨first, v, hfirst⟩ := runs_removeResource hcalls s kind id scope w
    obtain ⟨others, v', hrest⟩ := ih v
    have hruns : (removeResources s kind ((id, scope) :: rest)).Runs h w _
        (.ok (first.append others)) v' := hfirst.bind_ok (hrest.bind_ok (Task.runs_pure _))
    rw [List.append_nil] at hruns
    exact ⟨_, v', hruns⟩

omit hcalls in
theorem filterMap_removal? (s : Setting) (kind k : Cleanable) (entries : List (String × String)) :
    (entries.flatMap fun x => [.bind (s.adminClient x.2), kind.deletion (s.adminClient x.2)
      x.1]).filterMap k.removal? = if k = kind then s.asAdmin entries else [] := by
  induction entries with
  | nil => simp [Setting.asAdmin]
  | cons x rest ih =>
    rw [List.flatMap_cons, List.filterMap_append, ih]
    cases k <;> cases kind <;> rfl

/-- **Cleaning a registry** takes it out of the state and asks for a deletion of each entry. -/
theorem removals_cleanRegistry (fx : Fixture) (kind : Cleanable) (p : Point σ) :
    ∃ report w, exec h (cleanRegistry fx kind) p =
        (.ok report, ⟨p.state.withRegistry kind .empty, w⟩) ∧
      ∀ k : Cleanable, k.removals (dialogue h (cleanRegistry fx kind) p) =
        if k = kind then fx.setting.asAdmin (p.state.registry kind).entries else [] := by
  obtain ⟨report, w, hruns⟩ := runs_removeResources hcalls fx.setting kind
    (p.state.registry kind).entries p.world
  refine ⟨report, w, exec_cleanRegistry kind hruns.exec, fun k => ?_⟩
  have hdialogue : dialogue h (cleanRegistry fx kind) p =
      (removeResources fx.setting kind (p.state.registry kind).entries).dialogue h p.world := by
    unfold cleanRegistry
    rw [CaseTask.dialogue_bind_ok (CaseTask.exec_get h p),
      CaseTask.dialogue_bind_ok (CaseTask.exec_set ..), CaseTask.dialogue_lift]
    rfl
  rw [Cleanable.removals, hdialogue, Task.map_request_dialogue, hruns.trace, filterMap_removal?]

/-- **A teardown** asks for a deletion of each entry of each registry. -/
theorem removals_teardown (fx : Fixture) (k : Cleanable) (p : Point σ) :
    k.removals (dialogue h (teardown fx) p) = fx.setting.asAdmin (p.state.registry k).entries := by
  obtain ⟨runs, w₁, hruns, hrunsAsked⟩ := removals_cleanRegistry hcalls fx .run p
  obtain ⟨models, w₂, hmodels, hmodelsAsked⟩ := removals_cleanRegistry hcalls fx .model
    ⟨p.state.withRegistry .run .empty, w₁⟩
  obtain ⟨experiments, w₃, hexperiments, hexperimentsAsked⟩ :=
    removals_cleanRegistry hcalls fx .experiment
      ⟨(p.state.withRegistry .run .empty).withRegistry .model .empty, w₂⟩
  rw [teardown_eq, CaseTask.dialogue_bind_ok hruns, CaseTask.dialogue_bind_ok hmodels,
    CaseTask.dialogue_bind_ok hexperiments, removals_append, removals_append, removals_append,
    hrunsAsked, hmodelsAsked, hexperimentsAsked,
    removals_eq_nil fun x hx => (asks_dismiss _).of_mem_dialogue hx]
  cases k <;> simp [registry_withRegistry]

end

/-! ## The whole case -/

section
variable {σ : Type} {h : Handler probe σ} {fx : Fixture} {c : Case} {w : σ}

/-- **The books of a case,** by kind. -/
def Case.book (c : Case) (fx : Fixture) (h : Handler probe σ) (w : σ) (kind : Cleanable) :
    List Entry :=
  kind.book (dialogue h (runCase fx c) (fx.opening w))

/-- **The deletions that follow a case,** however it ended, by kind. -/
def Case.removals (c : Case) (fx : Fixture) (h : Handler probe σ) (w : σ) (kind : Cleanable) :
    List (Client × String) :=
  kind.removals (dialogue h (teardown fx) (exec h (runCase fx c) (fx.opening w)).2)

/-- **Nothing that a case creates is lost,** whatever the tracking service answers and however the
case ends, as long as no identifier is used twice: its teardown asks for one deletion, as the
administrator of its workspace, of each resource that is outstanding in a workspace with a name, and
for no other. No baseline resource is among them, and an action that fails forgets nothing. -/
theorem leftovers_are_removed (hsteps : ∀ step ∈ c.steps, step.IsOrderly fx)
    (hcalls : ∀ client call w x, (h (.tracking client call) w).1 ≠ .error (.panic x))
    (hnodup : ∀ kind, (createdIds (c.book fx h w kind)).Nodup)
    (hbaseline : ∀ kind, ∀ id ∈ createdIds (c.book fx h w kind), ∀ b ∈ fx.baseline.entries,
      b.2.idOf kind ≠ id) :
    (∀ kind, (c.removals fx h w kind).Perm (fx.setting.asAdmin
      ((outstanding (c.book fx h w kind)).filter fun x => !Text.isAllBlank x.2))) ∧
    (∀ kind, ∀ x ∈ c.removals fx h w kind, ∀ b ∈ fx.baseline.entries, b.2.idOf kind ≠ x.2) ∧
    ∀ action ∈ allActions, ∀ (p q : Point σ) (e : Stop), exec h (action.run fx) p = (.error e, q) →
      ∀ kind, q.state.registry kind = p.state.registry kind := by
  have hopening : (fx.opening w).state.Bound := nofun
  obtain ⟨-, hbooks⟩ := booked_runCase hsteps h (fx.opening w) hopening
  have hperm (kind : Cleanable) : (c.removals fx h w kind).Perm (fx.setting.asAdmin
      ((outstanding (c.book fx h w kind)).filter fun x => !Text.isAllBlank x.2)) := by
    have hempty : ((fx.opening w).state.registry kind).entries = [] := by cases kind <;> rfl
    have hposted := entries_foldl_post (m := (fx.opening w).state.registry kind) (hnodup kind)
      fun id _ x hx => absurd (hempty ▸ hx) List.not_mem_nil
    rw [hempty, List.filter_nil, List.nil_append] at hposted
    rw [Case.removals, removals_teardown hcalls fx, hbooks kind]
    exact hposted.map _
  refine ⟨hperm, fun kind x hx b hb => ?_, fun action haction p q e herr kind => ?_⟩
  · obtain ⟨y, hy, rfl⟩ := List.mem_map.mp ((hperm kind).mem_iff.mp hx)
    exact hbaseline kind y.1 (fst_mem_of_mem_outstanding (List.mem_of_mem_filter hy)) b hb
  · exact (tidy_of_mem haction fx).registry_of_error herr kind

end

/-! ## An author -/

/-- Two workspaces, of which the other has a baseline. -/
def authorFixture (home : String) : Fixture :=
  ⟨⟨[home, "workspace2"], ⟨"admin-token"⟩, pairVerifier, "test-user"⟩,
    .ofList [("workspace2", ⟨"100", "run-101", "baseline-model-1"⟩)]⟩

/-- A case that creates an experiment and a run, deletes the experiment and creates another. -/
def authorCase : Case :=
  ⟨"author",
    [⟨"become", some ⟨.primary, .ofPreset .manage [.experiments]⟩, none, some .createExperiment, none⟩,
      ⟨"run", none, none, some .createRun, none⟩,
      ⟨"delete", none, none, some .deleteExperiment, none⟩,
      ⟨"again", none, none, some .createExperiment, none⟩]⟩

theorem isOrderly_authorCase {fx : Fixture} : ∀ step ∈ authorCase.steps, step.IsOrderly fx := by
  have hstep (name : String) (identity : Option IdentitySpec) {a : Action} (ha : a ∈ allActions) :
      Step.IsOrderly fx ⟨name, identity, none, some a, none⟩ := by
    refine isOrderly_of_mem (fun b hb => ?_) nofun
    obtain rfl := Option.some.inj hb
    exact ha
  have hall : authorCase.steps.Forall fun step => step.IsOrderly fx :=
    ⟨hstep _ _ (by simp [allActions]), hstep _ _ (by simp [allActions]),
      hstep _ _ (by simp [allActions]), hstep _ _ (by simp [allActions])⟩
  exact List.forall_iff_forall_mem.mp hall

theorem tracking_ne_panic (client : Client) (call : TrackingCall) (w : World) (x : Panic) :
    (World.answer (.tracking client call) w).1 ≠ .error (.panic x) := by
  change (w.tracking client call).1 ≠ _
  unfold World.tracking
  split_ifs
  · rcases w.server.perform client.workspace call with ⟨e | a, server⟩ <;> nofun
  · nofun

/-- The run and the second experiment are left, and removed. -/
theorem author_leaves :
    (∀ step ∈ authorCase.steps, step.IsOrderly (authorFixture "workspace1")) ∧
    (authorCase.removals (authorFixture "workspace1") World.answer (.fresh trackingGroup 0 true)
      .experiment).Perm [((authorFixture "workspace1").setting.adminClient "workspace1", "3")] ∧
    (authorCase.removals (authorFixture "workspace1") World.answer (.fresh trackingGroup 0 true)
      .run).Perm [((authorFixture "workspace1").setting.adminClient "workspace1", "run-2")] := by
  have hnodup (kind : Cleanable) : (createdIds (authorCase.book (authorFixture "workspace1")
      World.answer (.fresh trackingGroup 0 true) kind)).Nodup := by
    cases kind <;> decide +kernel
  have hbaseline (kind : Cleanable) : ∀ id ∈ createdIds (authorCase.book
      (authorFixture "workspace1") World.answer (.fresh trackingGroup 0 true) kind),
      ∀ b ∈ (authorFixture "workspace1").baseline.entries, b.2.idOf kind ≠ id := by
    cases kind <;> decide +kernel
  obtain ⟨hperm, -, -⟩ := leftovers_are_removed isOrderly_authorCase tracking_ne_panic hnodup
    hbaseline
  refine ⟨isOrderly_authorCase, (hperm .experiment).trans ?_, (hperm .run).trans ?_⟩
  · decide +kernel
  · decide +kernel

/-- **In a workspace without a name** what is created is not registered, and stays. -/
theorem nameless_author_leaves :
    (∀ step ∈ authorCase.steps, step.IsOrderly (authorFixture " ")) ∧
    createdIds (authorCase.book (authorFixture " ") World.answer (.fresh trackingGroup 0 true)
      .experiment) = ["1", "2"] ∧
    outstanding (authorCase.book (authorFixture " ") World.answer (.fresh trackingGroup 0 true)
      .experiment) = [("1", " "), ("2", " ")] ∧
    authorCase.removals (authorFixture " ") World.answer (.fresh trackingGroup 0 true)
      .experiment = [] := by
  exact ⟨isOrderly_authorCase, by decide +kernel, by decide +kernel, by decide +kernel⟩

end GrantProbe
