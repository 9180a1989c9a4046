import GrantProbe.Proofs.Cleanup.Leftover
import GrantProbe.Suite.Baseline

/-!
# Seeding is all or nothing

Seeding creates three resources in each workspace. The first create that fails is the last, and
what was created until then, in whatever workspace, is deleted again, the model before its run and
the run before its experiment. Deletions that fail stop nothing.

* `created`, `deleted`: the resources that a dialogue created, and those it asked to delete;
* `Probe.Removes`: a task that deletes resources and reports on it; `removes_removeScopes`: removing
  baselines is one, by induction on the workspaces;
* `Seedbed`, `Setting.Halts`: a workspace after seeding, and one in which a create failed;
  `talks_seedScope`, `talks_seedScopes`: seeding is a run of the former, and at most one of the latter;
* `seeding_is_atomic`: what is created is returned or deleted.
-/

namespace GrantProbe

open Program (Handler)

/-! ## Resources in a dialogue -/

/-- **A resource** and the client that creates or deletes it. -/
structure Resource where
  client : Client
  kind : Cleanable
  id : String
  deriving DecidableEq, Repr

/-- In a workspace, the model goes before the run and the run before the experiment. -/
def Cleanable.GoesBefore : Cleanable → Cleanable → Prop
  | .model, .run | .model, .experiment | .run, .experiment => True
  | _, _ => False

/-- Two resources of one workspace go in order. -/
def Resource.InOrder (r r' : Resource) : Prop := r.client = r'.client → r.kind.GoesBefore r'.kind

/-- The request creates a resource. -/
def Ask.creates : Ask → Bool
  | .tracking _ (.createExperiment _) => true
  | .tracking _ (.createRun _) => true
  | .tracking _ (.createRegisteredModel _) => true
  | _ => false

/-- The resource that an exchange created. -/
def created? : Exchange probe → Option Resource
  | ⟨.tracking client (.createExperiment _), .ok id⟩ => some ⟨client, .experiment, id⟩
  | ⟨.tracking client (.createRun _), .ok id⟩ => some ⟨client, .run, id⟩
  | ⟨.tracking client (.createRegisteredModel _), .ok name⟩ => some ⟨client, .model, name⟩
  | _ => none

/-- The error of a create that failed. -/
def createError? : Exchange probe → Option Error
  | ⟨.tracking _ (.createExperiment _), .error (.error e)⟩ => some e
  | ⟨.tracking _ (.createRun _), .error (.error e)⟩ => some e
  | ⟨.tracking _ (.createRegisteredModel _), .error (.error e)⟩ => some e
  | _ => none

/-- The resource that a request is to delete. -/
def Ask.deleted? : Ask → Option Resource
  | .tracking client (.deleteExperiment id) => some ⟨client, .experiment, id⟩
  | .tracking client (.deleteRun id) => some ⟨client, .run, id⟩
  | .tracking client (.deleteRegisteredModel name) => some ⟨client, .model, name⟩
  | _ => none

/-- **The resources that a dialogue created,** in order. -/
def created (D : List (Exchange probe)) : List Resource := D.filterMap created?

/-- **The resources that a dialogue asked to delete,** whatever came of it. -/
def deleted (D : List (Exchange probe)) : List Resource := D.filterMap fun x => x.request.deleted?

/-- The word for a kind of baseline resource. -/
def Cleanable.word : Cleanable → String
  | .run => "run"
  | .model => "model"
  | .experiment => "experiment"

/-- What is said about a baseline resource that could not be deleted. -/
def complaint (kind : Cleanable) (id scope : String) (e : Error) : String :=
  "delete baseline " ++ kind.word ++ " " ++ id ++ " in " ++ scope ++ ": " ++ e.message

/-- The message about a deletion that failed. -/
def complaint? : Exchange probe → Option String
  | ⟨.tracking client (.deleteExperiment id), .error (.error e)⟩ =>
    some (complaint .experiment id client.workspace e)
  | ⟨.tracking client (.deleteRun id), .error (.error e)⟩ =>
    some (complaint .run id client.workspace e)
  | ⟨.tracking client (.deleteRegisteredModel name), .error (.error e)⟩ =>
    some (complaint .model name client.workspace e)
  | _ => none

section
variable (D E : List (Exchange probe))

@[simp] theorem created_nil : created [] = [] := rfl

@[simp] theorem created_append : created (D ++ E) = created D ++ created E :=
  List.filterMap_append

@[simp] theorem deleted_nil : deleted [] = [] := rfl

@[simp] theorem deleted_append : deleted (D ++ E) = deleted D ++ deleted E :=
  List.filterMap_append

end

theorem createError?_eq_none {x : Exchange probe} (hx : x.request.creates = false) :
    createError? x = none := by
  unfold createError?
  split <;> first | cases hx | rfl

/-! ## Removing baselines -/

/-- The resources of a baseline, as they are deleted. What was not created has no identifier. -/
def Baseline.resources (b : Baseline) (client : Client) : List Resource :=
  [⟨client, .model, b.modelName⟩, ⟨client, .run, b.runId⟩,
    ⟨client, .experiment, b.experimentId⟩].filter fun r => !r.id.isEmpty

/-- The resources of baselines, as they are deleted. -/
def Setting.seeded (s : Setting) (entries : List (String × Baseline)) : List Resource :=
  entries.flatMap fun x => x.2.resources (s.adminClient x.1)

section
variable {σ : Type} {h : Handler probe σ}

/-- **A run that deletes resources:** it asks for the deletion of each, creates nothing, and reports
how many there were, with a message for each deletion that failed. -/
structure Probe.Removes (h : Handler probe σ) (t : Probe CleanupReport) (w : σ) (rs : List Resource)
    (D : List (Exchange probe)) (w' : σ) : Prop where
  talks : t.Talks h w D (.ok ⟨rs.length, D.filterMap complaint?⟩) w'
  deleted_eq : deleted D = rs
  creates : ∀ x ∈ D, x.request.creates = false

theorem removes_nothing (w : σ) : Probe.Removes h (pure ⟨0, []⟩) w [] [] w where
  talks := Task.talks_pure _
  deleted_eq := rfl
  creates _ hx := absurd hx List.not_mem_nil

theorem talks_adminClientFor (s : Setting) (scope : String) (w : σ) :
    (s.adminClientFor scope).Talks h w [⟨.bind (s.adminClient scope), ()⟩]
      (.ok (s.adminClient scope)) (h (.bind (s.adminClient scope)) w).2 := ⟨rfl, rfl⟩

theorem Probe.Removes.andThen {t t' : Probe CleanupReport} {w v v' : σ} {rs rs' : List Resource}
    {D D' : List (Exchange probe)} (hfirst : Removes h t w rs D v)
    (hsecond : Removes h t' v rs' D' v') :
    Removes h (do let a ← t; let b ← t'; pure (a.append b)) w (rs ++ rs') (D ++ D') v' where
  talks := by
    have htalks : Task.Talks h (do let a ← t; let b ← t'; pure (a.append b)) w _ _ v' :=
      hfirst.talks.bind_ok (hsecond.talks.bind_ok (Task.talks_pure _))
    rw [List.append_nil, CleanupReport.append] at htalks
    rw [List.length_append, List.filterMap_append]
    exact htalks
  deleted_eq := by rw [deleted_append, hfirst.deleted_eq, hsecond.deleted_eq]
  creates x hx := (List.mem_append.mp hx).elim (hfirst.creates x) (hsecond.creates x)

theorem Probe.Removes.asAdmin {k : Client → Probe CleanupReport} {s : Setting} {scope : String}
    {w v : σ} {rs : List Resource} {D : List (Exchange probe)}
    (hk : Removes h (k (s.adminClient scope)) (h (.bind (s.adminClient scope)) w).2 rs D v) :
    Removes h (s.adminClientFor scope >>= k) w rs (⟨.bind (s.adminClient scope), ()⟩ :: D) v where
  talks := (talks_adminClientFor s scope w).bind_ok hk.talks
  deleted_eq := hk.deleted_eq
  creates x hx := by
    rcases List.mem_cons.mp hx with rfl | hx
    · rfl
    · exact hk.creates x hx

variable (hcalls : ∀ client call w x, (h (.tracking client call) w).1 ≠ .error (.panic x))
include hcalls

/-- **A call** is answered by a result or by an error. -/
theorem talks_call (client : Client) (call : TrackingCall) (w : σ) :
    ∃ (r : Except Error call.Answer) (v : σ), (Probe.tracking client call).attempt.Talks h w
      [⟨.tracking client call, r.mapError .error⟩] (.ok r) v := by
  obtain ⟨o, v, hr⟩ : ∃ o v, h (.tracking client call) w = (o, v) := ⟨_, _, rfl⟩
  have htalks : (Probe.tracking client call).Talks h w [⟨.tracking client call, o⟩] o v := by
    refine ⟨hr, ?_⟩
    change [(⟨.tracking client call, (h (.tracking client call) w).1⟩ : Exchange probe)] = _
    rw [hr]
  rcases o with (e | x) | a
  · exact ⟨.error e, v, htalks.attempt_error⟩
  · exact absurd (congrArg Prod.fst hr) (hcalls client call w x)
  · exact ⟨.ok a, v, htalks.attempt_ok⟩

theorem talks_delete (client : Client) (kind : Cleanable) (id : String) (w : σ) :
    ∃ (x : Exchange probe) (r : Except Error Unit) (v : σ),
      (kind.delete client id).attempt.Talks h w [x] (.ok r) v ∧
      x.request = kind.deletion client id ∧
      complaint? x = match r with
        | .ok () => none
        | .error e => some (complaint kind id client.workspace e) := by
  cases kind with
  | run =>
    obtain ⟨r, v, htalks⟩ := talks_call hcalls client (.deleteRun id) w
    exact ⟨_, r, v, htalks, rfl, by rcases r with e | _ <;> rfl⟩
  | model =>
    obtain ⟨r, v, htalks⟩ := talks_call hcalls client (.deleteRegisteredModel id) w
    exact ⟨_, r, v, htalks, rfl, by rcases r with e | _ <;> rfl⟩
  | experiment =>
    obtain ⟨r, v, htalks⟩ := talks_call hcalls client (.deleteExperiment id) w
    exact ⟨_, r, v, htalks, rfl, by rcases r with e | _ <;> rfl⟩

/-- **Deleting a baseline resource,** if it was created. -/
theorem removes_removeSeeded (client : Client) (kind : Cleanable) (id : String) (w : σ) :
    ∃ D v, Probe.Removes h (removeSeeded client kind kind.word id client.workspace) w
      ([⟨client, kind, id⟩].filter fun r => !r.id.isEmpty) D v := by
  unfold removeSeeded
  by_cases hid : id.isEmpty
  · refine ⟨[], w, ?_⟩
    rw [if_pos hid, List.filter_cons_of_neg (by simpa using hid)]
    exact removes_nothing w
  rw [if_neg hid, List.filter_cons_of_pos (by simpa using hid), List.filter_nil]
  obtain ⟨x, r, v, htalks, hrequest, hcomplaint⟩ := talks_delete hcalls client kind id w
  refine ⟨[x], v, ?_, ?_, ?_⟩
  · have hreport : (reportFailure ("delete baseline " ++ kind.word ++ " " ++ id ++ " in " ++
        client.workspace) (kind.delete client id)).Talks h w [x] (.ok (complaint? x).toList) v := by
      unfold reportFailure
      rw [hcomplaint]
      rcases r with e | _ <;> exact htalks.bind_ok (Task.talks_pure _)
    have hall := hreport.bind_ok (k := fun failures => pure (⟨1, failures⟩ : CleanupReport))
      (Task.talks_pure _)
    rcases hx : complaint? x with _ | m <;> simpa [hx] using hall
  · cases kind <;> simp [deleted, hrequest, Cleanable.deletion, Ask.deleted?]
  · intro y hy
    rw [List.mem_singleton.mp hy, hrequest]
    cases kind <;> rfl

/-- **Deleting a baseline:** its model, then its run, then its experiment. -/
theorem removes_removeScope (s : Setting) (scope : String) (b : Baseline) (w : σ) :
    ∃ D v, Probe.Removes h (removeScope s scope b) w (b.resources (s.adminClient scope)) D v := by
  obtain ⟨D₁, v₁, hmodel⟩ := removes_removeSeeded hcalls (s.adminClient scope) .model b.modelName
    (h (.bind (s.adminClient scope)) w).2
  obtain ⟨D₂, v₂, hrun⟩ := removes_removeSeeded hcalls (s.adminClient scope) .run b.runId v₁
  obtain ⟨D₃, v₃, hexperiment⟩ := removes_removeSeeded hcalls (s.adminClient scope) .experiment
    b.experimentId v₂
  have hall := (hmodel.andThen hrun).andThen hexperiment
  simp only [bind_assoc, pure_bind, ← List.filter_append] at hall
  exact ⟨_, v₃, hall.asAdmin⟩

/-- **Deleting baselines,** in the order of their workspaces. The induction is on them. -/
theorem removes_removeScopes (s : Setting) (entries : List (String × Baseline)) (w : σ) :
    ∃ D v, Probe.Removes h (removeScopes s entries) w (s.seeded entries) D v := by
  induction entries generalizing w with
  | nil => exact ⟨[], w, removes_nothing w⟩
  | cons x rest ih =>
    obtain ⟨scope, b⟩ := x
    obtain ⟨D₁, v₁, hfirst⟩ := removes_removeScope hcalls s scope b w
    obtain ⟨D₂, v₂, hrest⟩ := ih v₁
    exact ⟨_, v₂, hfirst.andThen hrest⟩

end

/-! ### The resources of baselines -/

section
variable {s : Setting}

theorem seeded_perm {entries entries' : List (String × Baseline)} (hperm : entries.Perm entries') :
    (s.seeded entries).Perm (s.seeded entries') := hperm.flatMap_right _

theorem client_of_mem_resources {b : Baseline} {client : Client} {r : Resource}
    (hr : r ∈ b.resources client) : r.client = client := by
  have hall := List.mem_of_mem_filter hr
  simp only [List.mem_cons, List.not_mem_nil, or_false] at hall
  rcases hall with rfl | rfl | rfl <;> rfl

theorem pairwise_resources (b : Baseline) (client : Client) :
    (b.resources client).Pairwise Resource.InOrder := by
  refine List.Pairwise.filter _ ?_
  simp [Resource.InOrder, Cleanable.GoesBefore]

/-- **What is removed is in order** in each workspace, as no workspace is repeated. -/
theorem pairwise_seeded {entries : List (String × Baseline)} (hkeys : (entries.map Prod.fst).Nodup) :
    (s.seeded entries).Pairwise Resource.InOrder := by
  refine List.pairwise_flatMap.mpr ⟨fun x _ => pairwise_resources .., ?_⟩
  refine (List.pairwise_map.mp hkeys).imp fun {x y} hne r hr r' hr' hclient => ?_
  rw [client_of_mem_resources hr, client_of_mem_resources hr'] at hclient
  exact absurd (congrArg Client.workspace hclient) hne

theorem resources_of_named {b : Baseline} (client : Client) (hmodel : b.modelName ≠ "")
    (hrun : b.runId ≠ "") (hexperiment : b.experimentId ≠ "") : b.resources client =
      [⟨client, .model, b.modelName⟩, ⟨client, .run, b.runId⟩,
        ⟨client, .experiment, b.experimentId⟩] := by
  simp [Baseline.resources, hmodel, hrun, hexperiment]

/-- **What is removed in one workspace** is the baseline of it. -/
theorem filter_seeded {entries : List (String × Baseline)} (hkeys : (entries.map Prod.fst).Nodup)
    {scope : String} {b : Baseline} (hmem : (scope, b) ∈ entries) :
    (s.seeded entries).filter (fun r => r.client = s.adminClient scope) =
      b.resources (s.adminClient scope) := by
  have hother {scope' : String} (hne : scope' ≠ scope) (b' : Baseline) :
      (b'.resources (s.adminClient scope')).filter (fun r => r.client = s.adminClient scope) = [] := by
    refine List.filter_eq_nil_iff.mpr fun r hr hclient => hne ?_
    rw [client_of_mem_resources hr] at hclient
    exact congrArg Client.workspace (of_decide_eq_true hclient)
  have hown (b' : Baseline) : (b'.resources (s.adminClient scope)).filter
      (fun r => r.client = s.adminClient scope) = b'.resources (s.adminClient scope) :=
    List.filter_eq_self.mpr fun r hr => decide_eq_true (client_of_mem_resources hr)
  induction entries with
  | nil => exact absurd hmem List.not_mem_nil
  | cons x rest ih =>
    obtain ⟨hfresh, hrest⟩ := List.nodup_cons.mp hkeys
    rw [Setting.seeded, List.flatMap_cons, List.filter_append]
    rcases List.mem_cons.mp hmem with rfl | hmem
    · have hnone : (s.seeded rest).filter (fun r => r.client = s.adminClient scope) = [] := by
        rw [Setting.seeded, List.filter_flatMap]
        refine List.flatMap_eq_nil_iff.mpr fun y hy => hother ?_ y.2
        rintro rfl
        exact hfresh (List.mem_map.mpr ⟨y, hy, rfl⟩)
      rw [hown]
      exact (congrArg _ hnone).trans (List.append_nil _)
    · have hne : x.1 ≠ scope := by
        rintro rfl
        exact hfresh (List.mem_map.mpr ⟨_, hmem, rfl⟩)
      rw [hother hne, List.nil_append]
      exact ih hrest hmem

end

/-! ## Seeding -/

/-- **A workspace that has been seeded:** the suffix that was drawn, and what was created. -/
structure Seedbed where
  scope : String
  suffix : String
  baseline : Baseline

/-- The workspace with its baseline. -/
def Seedbed.entry (b : Seedbed) : String × Baseline := (b.scope, b.baseline)

/-- **The exchanges that seed a workspace.** The run is created in the experiment. -/
def Seedbed.dialogue (s : Setting) (b : Seedbed) : List (Exchange probe) :=
  let admin := s.adminClient b.scope
  [⟨.bind admin, ()⟩, ⟨.suffix, b.suffix⟩,
    ⟨.tracking admin (.createExperiment ("baseline-experiment-" ++ b.suffix)),
      .ok b.baseline.experimentId⟩,
    ⟨.tracking admin (.createRun b.baseline.experimentId), .ok b.baseline.runId⟩,
    ⟨.tracking admin (.createRegisteredModel ("baseline-model-" ++ b.suffix)),
      .ok b.baseline.modelName⟩]

/-- **A workspace in which a create failed:** the exchanges before it, it, what there is of a
baseline, and the error. -/
inductive Setting.Halts (s : Setting) (scope : String) :
    List (Exchange probe) → Exchange probe → Baseline → Error → Prop
  | experiment (suffix : String) (e : Error) : s.Halts scope
    [⟨.bind (s.adminClient scope), ()⟩, ⟨.suffix, suffix⟩]
    ⟨.tracking (s.adminClient scope) (.createExperiment ("baseline-experiment-" ++ suffix)),
      .error (.error e)⟩ .nothing e
  | run (suffix experimentId : String) (e : Error) : s.Halts scope
    [⟨.bind (s.adminClient scope), ()⟩, ⟨.suffix, suffix⟩,
      ⟨.tracking (s.adminClient scope) (.createExperiment ("baseline-experiment-" ++ suffix)),
        .ok experimentId⟩]
    ⟨.tracking (s.adminClient scope) (.createRun experimentId), .error (.error e)⟩
    ⟨experimentId, "", ""⟩ e
  | model (suffix experimentId runId : String) (e : Error) : s.Halts scope
    [⟨.bind (s.adminClient scope), ()⟩, ⟨.suffix, suffix⟩,
      ⟨.tracking (s.adminClient scope) (.createExperiment ("baseline-experiment-" ++ suffix)),
        .ok experimentId⟩,
      ⟨.tracking (s.adminClient scope) (.createRun experimentId), .ok runId⟩]
    ⟨.tracking (s.adminClient scope) (.createRegisteredModel ("baseline-model-" ++ suffix)),
      .error (.error e)⟩ ⟨experimentId, runId, ""⟩ e

section
variable {s : Setting}

/-- What seeding a workspace creates is what its removal deletes, the other way round. -/
theorem created_seedbed {b : Seedbed} (hnamed : ∀ r ∈ created (b.dialogue s), r.id ≠ "") :
    created (b.dialogue s) = (b.baseline.resources (s.adminClient b.scope)).reverse := by
  have hcreated : created (b.dialogue s) =
      [⟨s.adminClient b.scope, .experiment, b.baseline.experimentId⟩,
        ⟨s.adminClient b.scope, .run, b.baseline.runId⟩,
        ⟨s.adminClient b.scope, .model, b.baseline.modelName⟩] := rfl
  rw [hcreated] at hnamed ⊢
  simp only [List.forall_mem_cons] at hnamed
  obtain ⟨hexperiment, hrun, hmodel, -⟩ := hnamed
  rw [resources_of_named _ hmodel hrun hexperiment]
  rfl

variable {scope : String} {D : List (Exchange probe)} {x : Exchange probe} {b : Baseline}
  {e : Error}

namespace Setting.Halts

theorem created_eq (hhalt : s.Halts scope D x b e) (hnamed : ∀ r ∈ created D, r.id ≠ "") :
    created D = (b.resources (s.adminClient scope)).reverse := by
  cases hhalt with
  | experiment suffix e => rfl
  | run suffix experimentId e =>
    have hexperiment : experimentId ≠ "" := hnamed ⟨s.adminClient scope, .experiment, experimentId⟩
      List.mem_cons_self
    simp only [Baseline.resources]
    rw [List.filter_cons_of_neg (by simp), List.filter_cons_of_neg (by simp),
      List.filter_cons_of_pos (by simpa using hexperiment)]
    rfl
  | model suffix experimentId runId e =>
    have hexperiment : experimentId ≠ "" := hnamed ⟨s.adminClient scope, .experiment, experimentId⟩
      List.mem_cons_self
    have hrun : runId ≠ "" := hnamed ⟨s.adminClient scope, .run, runId⟩
      (List.mem_cons_of_mem _ List.mem_cons_self)
    simp only [Baseline.resources]
    rw [List.filter_cons_of_neg (by simp), List.filter_cons_of_pos (by simpa using hrun),
      List.filter_cons_of_pos (by simpa using hexperiment)]
    rfl

theorem deleted_eq (hhalt : s.Halts scope D x b e) : deleted D = [] := by cases hhalt <;> rfl

theorem createError?_eq (hhalt : s.Halts scope D x b e) : createError? x = some e := by
  cases hhalt <;> rfl

theorem createError?_before (hhalt : s.Halts scope D x b e) : ∀ y ∈ D, createError? y = none := by
  cases hhalt <;> simp [createError?]

end Setting.Halts

end

section
variable {σ : Type} {h : Handler probe σ}

theorem talks_suffix (w : σ) : Probe.suffix.Talks h w [⟨.suffix, (h .suffix w).1⟩]
    (.ok (h .suffix w).1) (h .suffix w).2 := ⟨exec_suffix h w, rfl⟩

variable (hcalls : ∀ client call w x, (h (.tracking client call) w).1 ≠ .error (.panic x))
include hcalls

/-- **Seeding a workspace:** everything is created, or a create fails. -/
theorem talks_seedScope (s : Setting) (scope : String) (w : σ) :
    (∃ (b : Seedbed) (v : σ), b.scope = scope ∧
      (seedScope s scope).Talks h w (b.dialogue s) (.ok (b.baseline, none)) v) ∨
    ∃ D x b e v, s.Halts scope D x b e ∧
      (seedScope s scope).Talks h w (D ++ [x]) (.ok (b, some e)) v := by
  have hadmin := talks_adminClientFor (h := h) s scope w
  have hsuffix := talks_suffix (h := h) (h (.bind (s.adminClient scope)) w).2
  generalize (h (.bind (s.adminClient scope)) w).2 = w₁ at hadmin hsuffix
  generalize (h .suffix w₁).1 = suffix, (h .suffix w₁).2 = w₂ at hsuffix
  obtain ⟨experiment, w₃, hexperiment⟩ := talks_call hcalls (s.adminClient scope)
    (.createExperiment ("baseline-experiment-" ++ suffix)) w₂
  rcases experiment with e | experimentId
  · exact Or.inr ⟨_, _, _, e, w₃, .experiment suffix e,
      hadmin.bind_ok (hsuffix.bind_ok (hexperiment.bind_ok (Task.talks_pure _)))⟩
  obtain ⟨run, w₄, hrun⟩ := talks_call hcalls (s.adminClient scope) (.createRun experimentId) w₃
  rcases run with e | runId
  · exact Or.inr ⟨_, _, _, e, w₄, .run suffix experimentId e,
      hadmin.bind_ok (hsuffix.bind_ok (hexperiment.bind_ok (hrun.bind_ok (Task.talks_pure _))))⟩
  obtain ⟨model, w₅, hmodel⟩ := talks_call hcalls (s.adminClient scope)
    (.createRegisteredModel ("baseline-model-" ++ suffix)) w₄
  rcases model with e | modelName
  · exact Or.inr ⟨_, _, _, e, w₅, .model suffix experimentId runId e,
      hadmin.bind_ok (hsuffix.bind_ok (hexperiment.bind_ok (hrun.bind_ok (hmodel.bind_ok
        (Task.talks_pure _)))))⟩
  · exact Or.inl ⟨⟨scope, suffix, ⟨experimentId, runId, modelName⟩⟩, w₅, rfl,
      hadmin.bind_ok (hsuffix.bind_ok (hexperiment.bind_ok (hrun.bind_ok (hmodel.bind_ok
        (Task.talks_pure _)))))⟩

/-- **Seeding workspaces,** with some seeded already: each is seeded in turn, or one is not, and then
everything is removed. The induction is on the workspaces that are left. -/
theorem talks_seedScopes (s : Setting) {scopes : List String} {seeded : SortedMap Baseline}
    {done : List Seedbed} (hseeded : seeded.entries.Perm (done.map Seedbed.entry))
    (hnodup : (done.map Seedbed.scope ++ scopes).Nodup) (w : σ) :
    (∃ (beds : List Seedbed) (m : SortedMap Baseline) (v : σ), beds.map Seedbed.scope = scopes ∧
      m.entries.Perm ((done ++ beds).map Seedbed.entry) ∧
      (seedScopes s scopes seeded).Talks h w (beds.flatMap (·.dialogue s)) (.ok m) v) ∨
    ∃ (beds : List Seedbed) (scope : String) (rest : List String) (D : List (Exchange probe))
      (x : Exchange probe) (b : Baseline) (e : Error) (m : SortedMap Baseline)
      (R : List (Exchange probe)) (u v : σ), beds.map Seedbed.scope ++ scope :: rest = scopes ∧
      s.Halts scope D x b e ∧ m.entries.Perm ((scope, b) :: (done ++ beds).map Seedbed.entry) ∧
      Probe.Removes h (removeBaseline s m) u (s.seeded m.entries) R v ∧
      (seedScopes s scopes seeded).Talks h w
        (beds.flatMap (·.dialogue s) ++ (D ++ x :: R)) (.error (.error e)) v := by
  induction scopes generalizing seeded done w with
  | nil =>
    refine Or.inl ⟨[], seeded, w, rfl, ?_, Task.talks_pure _⟩
    rwa [List.append_nil]
  | cons scope rest ih =>
    have hnew : ∀ y ∈ seeded.entries, y.1 ≠ scope := by
      rintro y hy rfl
      obtain ⟨b, hb, rfl⟩ := List.mem_map.mp (hseeded.mem_iff.mp hy)
      exact (List.nodup_append.mp hnodup).2.2 _ (List.mem_map_of_mem hb) _ List.mem_cons_self rfl
    rcases talks_seedScope hcalls s scope w with
      ⟨b, v, rfl, hscope⟩ | ⟨D, x, b, e, v, hhalt, hscope⟩
    · have hinserted : (seeded.insert b.scope b.baseline).entries.Perm
          ((done ++ [b]).map Seedbed.entry) := by
        rw [List.map_append]
        exact (SortedMap.entries_insert_perm hnew _).trans ((hseeded.cons _).trans
          (List.perm_append_singleton ..).symm)
      have hleft : ((done ++ [b]).map Seedbed.scope ++ rest).Nodup := by
        rw [List.map_append, List.append_assoc]
        exact hnodup
      rcases ih hinserted hleft v with ⟨beds, m, v', rfl, hm, htalks⟩ |
        ⟨beds, scope, rest', D, x, b', e, m, R, u, v', rfl, hhalt, hm, hremoves, htalks⟩
      · refine Or.inl ⟨b :: beds, m, v', rfl, ?_, hscope.bind_ok htalks⟩
        rwa [List.append_assoc] at hm
      · refine Or.inr ⟨b :: beds, scope, rest', D, x, b', e, m, R, u, v', rfl, hhalt, ?_, hremoves,
          ?_⟩
        · rwa [List.append_assoc] at hm
        · rw [List.flatMap_cons, List.append_assoc]
          exact hscope.bind_ok htalks
    · obtain ⟨R, v', hremoves⟩ := removes_removeScopes hcalls s (seeded.insert scope b).entries v
      have hperm : (seeded.insert scope b).entries.Perm
          ((scope, b) :: (done ++ []).map Seedbed.entry) := by
        rw [List.append_nil]
        exact (SortedMap.entries_insert_perm hnew b).trans (hseeded.cons _)
      have htalks : (seedScopes s (scope :: rest) seeded).Talks h w (D ++ [x] ++ (R ++ []))
          (.error (.error e)) v' := hscope.bind_ok (hremoves.talks.bind_ok (Task.talks_fail e))
      refine Or.inr ⟨[], scope, rest, D, x, b, e, _, R, v, v', rfl, hhalt, hperm, hremoves, ?_⟩
      rwa [List.append_nil, List.append_assoc] at htalks

end

/-! ## All or nothing -/

/-- **What a dialogue creates, the next undoes:** it deletes it all and nothing else, each resource as the
administrator of its workspace and in the order of its kind. -/
structure Setting.Undoes (s : Setting) (before after : List (Exchange probe)) : Prop where
  deleted_before : deleted before = []
  creates_after : ∀ y ∈ after, y.request.creates = false
  deleted_after : (deleted after).Perm (created before)
  inOrder : (deleted after).Pairwise Resource.InOrder
  asAdmin : ∀ r ∈ deleted after, ∃ scope ∈ s.scopes, r.client = s.adminClient scope

section
variable {s : Setting} {beds : List Seedbed}

theorem created_flatMap_perm (hnamed : ∀ r ∈ created (beds.flatMap (·.dialogue s)), r.id ≠ "") :
    (created (beds.flatMap (·.dialogue s))).Perm (s.seeded (beds.map Seedbed.entry)) := by
  induction beds with
  | nil => exact .refl _
  | cons b rest ih =>
    rw [List.flatMap_cons, created_append] at hnamed ⊢
    obtain ⟨hfirst, hrest⟩ := List.forall_mem_append.mp hnamed
    rw [created_seedbed hfirst]
    exact (List.reverse_perm _).append (ih hrest)

theorem deleted_flatMap : deleted (beds.flatMap (·.dialogue s)) = [] := by
  refine List.filterMap_eq_nil_iff.mpr fun x hx => ?_
  obtain ⟨b, -, hx⟩ := List.mem_flatMap.mp hx
  simp only [Seedbed.dialogue, List.mem_cons, List.not_mem_nil, or_false] at hx
  rcases hx with rfl | rfl | rfl | rfl | rfl <;> rfl

theorem createError?_flatMap {x : Exchange probe} (hx : x ∈ beds.flatMap (·.dialogue s)) :
    createError? x = none := by
  obtain ⟨b, -, hx⟩ := List.mem_flatMap.mp hx
  simp only [Seedbed.dialogue, List.mem_cons, List.not_mem_nil, or_false] at hx
  rcases hx with rfl | rfl | rfl | rfl | rfl <;> rfl

theorem map_fst_perm {entries : List (String × Baseline)}
    (hentries : entries.Perm (beds.map Seedbed.entry)) :
    (entries.map Prod.fst).Perm (beds.map Seedbed.scope) := by
  have hmapped := hentries.map Prod.fst
  rwa [List.map_map] at hmapped

/-- **The removal of what was seeded:** three resources in each workspace. -/
theorem seeded_of_named {entries : List (String × Baseline)}
    (hentries : entries.Perm (beds.map Seedbed.entry)) (hscopes : (beds.map Seedbed.scope).Nodup)
    (hnamed : ∀ r ∈ created (beds.flatMap (·.dialogue s)), r.id ≠ "") :
    (s.seeded entries).length = 3 * beds.length ∧
    ∀ b ∈ entries, (s.seeded entries).filter (fun r => r.client = s.adminClient b.1) =
      [⟨s.adminClient b.1, .model, b.2.modelName⟩, ⟨s.adminClient b.1, .run, b.2.runId⟩,
        ⟨s.adminClient b.1, .experiment, b.2.experimentId⟩] := by
  have hthree : ∀ x ∈ entries, x.2.resources (s.adminClient x.1) =
      [⟨s.adminClient x.1, .model, x.2.modelName⟩, ⟨s.adminClient x.1, .run, x.2.runId⟩,
        ⟨s.adminClient x.1, .experiment, x.2.experimentId⟩] := by
    intro x hx
    obtain ⟨b, hb, rfl⟩ := List.mem_map.mp (hentries.mem_iff.mp hx)
    have hown (r : Resource) (hr : r ∈ created (b.dialogue s)) : r.id ≠ "" := by
      refine hnamed r ?_
      rw [created, List.filterMap_flatMap]
      exact List.mem_flatMap.mpr ⟨b, hb, hr⟩
    exact resources_of_named _
      (hown ⟨_, .model, _⟩ (List.mem_cons_of_mem _ (List.mem_cons_of_mem _ List.mem_cons_self)))
      (hown ⟨_, .run, _⟩ (List.mem_cons_of_mem _ List.mem_cons_self))
      (hown ⟨_, .experiment, _⟩ List.mem_cons_self)
  constructor
  · have hlengths : entries.map (fun x => (x.2.resources (s.adminClient x.1)).length) =
        entries.map fun _ => 3 :=
      List.map_congr_left fun x hx => congrArg List.length (hthree x hx)
    rw [Setting.seeded, List.length_flatMap, hlengths, List.map_const', List.sum_replicate_nat,
      hentries.length_eq, List.length_map, Nat.mul_comm]
  · intro b hb
    rw [filter_seeded ((map_fst_perm hentries).nodup_iff.mpr hscopes) hb, hthree b hb]

/-- **The removal after a failure** undoes what was created. -/
theorem undoes_of_halts {scope : String} {D R : List (Exchange probe)} {x : Exchange probe}
    {b : Baseline} {e : Error} {entries : List (String × Baseline)} (hhalt : s.Halts scope D x b e)
    (hentries : entries.Perm ((scope, b) :: beds.map Seedbed.entry))
    (hscopes : ∀ scope' ∈ scope :: beds.map Seedbed.scope, scope' ∈ s.scopes)
    (hnodup : (scope :: beds.map Seedbed.scope).Nodup)
    (hnamed : ∀ r ∈ created (beds.flatMap (·.dialogue s) ++ D), r.id ≠ "")
    (hdeleted : deleted R = s.seeded entries) (hcreates : ∀ y ∈ R, y.request.creates = false) :
    s.Undoes (beds.flatMap (·.dialogue s) ++ D) R := by
  have hkeys : (entries.map Prod.fst).Perm (scope :: beds.map Seedbed.scope) := by
    have hmapped := hentries.map Prod.fst
    rwa [List.map_cons, List.map_map] at hmapped
  rw [created_append] at hnamed
  obtain ⟨hbeds, hlast⟩ := List.forall_mem_append.mp hnamed
  refine ⟨?_, hcreates, ?_, ?_, ?_⟩
  · rw [deleted_append, deleted_flatMap, hhalt.deleted_eq, List.append_nil]
  · rw [hdeleted, created_append, hhalt.created_eq hlast]
    have hreversed := (List.reverse_perm (b.resources (s.adminClient scope))).symm
    exact (seeded_perm hentries).trans ((hreversed.append (created_flatMap_perm hbeds).symm).trans
      List.perm_append_comm)
  · rw [hdeleted]
    exact pairwise_seeded (hkeys.nodup_iff.mpr hnodup)
  · intro r hr
    rw [hdeleted] at hr
    obtain ⟨y, hy, hr⟩ := List.mem_flatMap.mp hr
    exact ⟨y.1, hscopes _ (hkeys.mem_iff.mp (List.mem_map_of_mem hy)), client_of_mem_resources hr⟩

end

section
variable {σ : Type} {h : Handler probe σ}

/-- **Seeding is all or nothing.** When it succeeds, its result is what was created in each workspace, the
run in the experiment, and nothing was deleted; removing it later attempts three deletions in each
workspace, with a message for each that failed. A create that fails is the last, its error is that
of the seeding, and what was created before is undone. -/
theorem seeding_is_atomic (s : Setting) (w : σ) (hscopes : s.scopes.Nodup)
    (hcalls : ∀ client call w x, (h (.tracking client call) w).1 ≠ .error (.panic x))
    (hnamed : ∀ r ∈ created ((seedBaseline s).dialogue h w), r.id ≠ "") :
    (∀ m v, (seedBaseline s).exec h w = (.ok m, v) →
      deleted ((seedBaseline s).dialogue h w) = [] ∧
      (∃ beds : List Seedbed, beds.map Seedbed.scope = s.scopes ∧
        (seedBaseline s).dialogue h w = beds.flatMap (·.dialogue s) ∧
        m.entries.Perm (beds.map Seedbed.entry)) ∧
      ∀ {τ : Type} (g : Handler probe τ) (u : τ),
        (∀ client call u x, (g (.tracking client call) u).1 ≠ .error (.panic x)) →
        ∃ rs R u', Probe.Removes g (removeBaseline s m) u rs R u' ∧
          rs.length = 3 * s.scopes.length ∧
          ∀ b ∈ m.entries, rs.filter (fun r => r.client = s.adminClient b.1) =
            [⟨s.adminClient b.1, .model, b.2.modelName⟩, ⟨s.adminClient b.1, .run, b.2.runId⟩,
              ⟨s.adminClient b.1, .experiment, b.2.experimentId⟩]) ∧
    (∀ x ∈ (seedBaseline s).dialogue h w, ∀ e, createError? x = some e →
      ((seedBaseline s).exec h w).1 = .error (.error e) ∧
      ∃ before after, (seedBaseline s).dialogue h w = before ++ x :: after ∧
        s.Undoes before after) ∧
    ((∃ m, ((seedBaseline s).exec h w).1 = .ok m) ∨
      ∃ x ∈ (seedBaseline s).dialogue h w, ∃ e, createError? x = some e) := by
  have hempty : (SortedMap.empty : SortedMap Baseline).entries.Perm
      (([] : List Seedbed).map Seedbed.entry) := .refl _
  have hnodup : (([] : List Seedbed).map Seedbed.scope ++ s.scopes).Nodup := hscopes
  have hseeding := talks_seedScopes hcalls s hempty hnodup w
  rcases hseeding with ⟨beds, m, v, hbeds, hm, hexec, hdialogue⟩ |
    ⟨beds, scope, rest, D, x, b, e, m, R, u, v, hbeds, hhalt, hm, hremoves, hexec, hdialogue⟩
  · change (seedBaseline s).exec h w = _ at hexec
    change (seedBaseline s).dialogue h w = _ at hdialogue
    rw [hdialogue] at hnamed ⊢
    rw [hexec]
    refine ⟨fun m' v' hok => ?_, fun x hx e he => ?_, Or.inl ⟨m, rfl⟩⟩
    · cases hok
      refine ⟨deleted_flatMap, ⟨beds, hbeds, rfl, hm⟩, fun g u hg => ?_⟩
      obtain ⟨R, u', hremoves⟩ := removes_removeScopes hg s m.entries u
      obtain ⟨hlength, hthree⟩ := seeded_of_named hm (hbeds ▸ hscopes) hnamed
      refine ⟨_, R, u', hremoves, ?_, hthree⟩
      rw [hlength, ← hbeds, List.length_map, List.nil_append]
    · rw [createError?_flatMap hx] at he
      cases he
  · change (seedBaseline s).exec h w = _ at hexec
    change (seedBaseline s).dialogue h w = _ at hdialogue
    rw [← List.append_assoc] at hdialogue
    rw [hdialogue] at hnamed ⊢
    rw [hexec]
    have hundoes : s.Undoes (beds.flatMap (·.dialogue s) ++ D) R := by
      have hperm : (beds.map Seedbed.scope ++ scope :: rest).Perm
          (scope :: beds.map Seedbed.scope ++ rest) := List.perm_middle
      rw [hbeds] at hperm
      refine undoes_of_halts hhalt hm (fun scope' h' => ?_) ?_ (fun r hr => hnamed r ?_)
        hremoves.deleted_eq hremoves.creates
      · exact hperm.mem_iff.mpr (List.mem_append_left _ h')
      · exact (List.nodup_append.mp (hperm.nodup_iff.mp hscopes)).1
      · rw [created_append]
        exact List.mem_append_left _ hr
    refine ⟨fun m' v' hok => (by cases hok), fun y hy e' he' => ?_, Or.inr ⟨x, ?_, e,
      hhalt.createError?_eq⟩⟩
    · have hyx : y = x := by
        have hbefore {z : Exchange probe} (hz : createError? z = none) : y ≠ z := by
          rintro rfl
          cases hz.symm.trans he'
        rcases List.mem_append.mp hy with hy | hy
        · rcases List.mem_append.mp hy with hy | hy
          · exact absurd rfl (hbefore (createError?_flatMap hy))
          · exact absurd rfl (hbefore (hhalt.createError?_before y hy))
        · rcases List.mem_cons.mp hy with rfl | hy
          · rfl
          · exact absurd rfl (hbefore (createError?_eq_none (hremoves.creates y hy)))
      subst hyx
      rw [hhalt.createError?_eq] at he'
      cases he'
      exact ⟨rfl, _, _, rfl, hundoes⟩
    · exact List.mem_append_right _ List.mem_cons_self

end

/-- A world that takes no registered model into one of its workspaces. -/
def World.answerWithoutModels (scope : String) : Handler probe World := fun request w =>
  match request with
  | .tracking client (.createRegisteredModel name) =>
    if client.workspace = scope then (.error (.error (refusal (.createRegisteredModel name))), w)
    else w.answer (.tracking client (.createRegisteredModel name))
  | request => w.answer request

theorem answerWithoutModels_ne_panic (scope : String) (client : Client) (call : TrackingCall)
    (w : World) (x : Panic) :
    (World.answerWithoutModels scope (.tracking client call) w).1 ≠ .error (.panic x) := by
  cases call with
  | createRegisteredModel name =>
    unfold World.answerWithoutModels
    dsimp only
    split_ifs
    · nofun
    · exact tracking_ne_panic client _ w x
  | _ => exact tracking_ne_panic client _ w x

/-- Seeding two workspaces, of which the second takes no model. -/
def pairSeeding : List (Exchange probe) :=
  (seedBaseline (authorFixture "workspace1").setting).dialogue
    (World.answerWithoutModels "workspace2") (.fresh trackingGroup 0 true)

/-- Both workspaces lose what they had. -/
theorem pairSeeding_undone :
    (authorFixture "workspace1").setting.scopes.Nodup ∧
    (∀ r ∈ created pairSeeding, r.id ≠ "") ∧
    (∃ before x after, pairSeeding = before ++ x :: after ∧
      createError? x = some (refusal (.createRegisteredModel "baseline-model-2")) ∧
      (authorFixture "workspace1").setting.Undoes before after) ∧
    (deleted pairSeeding).map (fun r => (r.client.workspace, r.id)) =
      [("workspace1", "baseline-model-1"), ("workspace1", "run-2"), ("workspace1", "1"),
        ("workspace2", "run-4"), ("workspace2", "3")] := by
  have hscopes : (authorFixture "workspace1").setting.scopes.Nodup := by decide
  have hnamed : ∀ r ∈ created pairSeeding, r.id ≠ "" := by decide +kernel
  have hend : ((seedBaseline (authorFixture "workspace1").setting).exec
      (World.answerWithoutModels "workspace2") (.fresh trackingGroup 0 true)).1.map (fun _ => ()) =
        .error (.error (refusal (.createRegisteredModel "baseline-model-2"))) := by decide +kernel
  have hatomic := seeding_is_atomic (h := World.answerWithoutModels "workspace2")
    (authorFixture "workspace1").setting (.fresh trackingGroup 0 true) hscopes
    (answerWithoutModels_ne_panic "workspace2") hnamed
  rw [← pairSeeding] at hatomic
  obtain ⟨-, hfailed, hends⟩ := hatomic
  refine ⟨hscopes, hnamed, ?_, by decide +kernel⟩
  rcases hends with ⟨m, hok⟩ | ⟨x, hx, e, he⟩
  · rw [hok] at hend
    cases hend
  · obtain ⟨herror, before, after, hdialogue, hundoes⟩ := hfailed x hx e he
    rw [herror] at hend
    obtain rfl : e = refusal (.createRegisteredModel "baseline-model-2") :=
      Stop.error.inj (Except.error.inj hend)
    exact ⟨before, x, after, hdialogue, he, hundoes⟩

end GrantProbe
