import GrantProbe.Proofs.Cleanup.Balance
import GrantProbe.Proofs.Cleanup.Leftover

/-!
# How a removal goes

A teardown asks for what is due, one request after another. A call that fails stops nothing: what is
told of it is told in the report, except that what is missing already needs no deletion. Only a call
that ends abnormally ends the teardown.

* `CaseState.dues`: the requests of a teardown, by what the case has left; `CaseState.tornDown`: what it
  leaves;
* `Exchange.complaint?`: what is told of a removal; `Exchange.Breaks`: a call that ends abnormally;
* `Goes`: how a removal goes, through all its requests or up to a call that breaks it;
* `Probe.Removing`, `CaseTask.Removing`: tasks that go so, closed under sequence;
* `removing_teardown`: a teardown is one, from its parts.
-/

namespace GrantProbe

open Program (Handler)
open CaseTask (exec dialogue)

/-! ## What is due -/

/-- The requests that remove a resource from its workspace, as its administrator. -/
def Setting.removal (s : Setting) (kind : Cleanable) (x : String × String) : List Ask :=
  [.bind (s.adminClient x.2), kind.deletion (s.adminClient x.2) x.1]

/-- **What is due for a registry.** -/
def CaseState.removals (s : CaseState) (setting : Setting) (kind : Cleanable) : List Ask :=
  (s.registry kind).entries.flatMap (setting.removal kind)

/-- **What is due when a case is torn down:** its runs, its models, its experiments, and its identities
in the order in which they were established. -/
def CaseState.dues (s : CaseState) (setting : Setting) : List Ask :=
  s.removals setting .run ++ (s.removals setting .model ++ (s.removals setting .experiment ++
    s.identities.flatMap Identity.withdrawals))

/-- **The state that a teardown leaves:** nothing to be removed, and nobody active. The workspace, the
handles and the last outcome stay. -/
def CaseState.tornDown (s : CaseState) : CaseState :=
  { s with
    identity := none
    client := none
    experiments := .empty
    runs := .empty
    models := .empty
    identities := [] }

/-! ## What is told -/

/-- A removal in words. -/
def Ask.removalText : Ask → String
  | .tracking client (.deleteRun id) => "delete run " ++ id ++ " in " ++ client.workspace
  | .tracking client (.deleteRegisteredModel name) =>
    "delete registered model " ++ name ++ " in " ++ client.workspace
  | .tracking client (.deleteExperiment id) =>
    "delete experiment " ++ id ++ " in " ++ client.workspace
  | .access (.deleteBinding scope binding) => "delete rolebinding " ++ scope ++ "/" ++ binding
  | .access (.deleteRole scope role) => "delete role " ++ scope ++ "/" ++ role
  | .identity (.delete name scope) => "delete serviceaccount " ++ scope ++ "/" ++ name
  | _ => ""

/-- **An error that is no failure:** the tracking service does not know what it is to delete. -/
def Ask.forgives : Ask → Error → Bool
  | .tracking .., e => FailureCode.ofMessage e.message == .resourceNotFound
  | _, _ => false

/-- How a call stopped short. -/
def Exchange.stop? : Exchange probe → Option Stop
  | ⟨.access _, .error e⟩ => some e
  | ⟨.identity _, .error e⟩ => some e
  | ⟨.tracking _ _, .error e⟩ => some e
  | _ => none

/-- **What is told of a removal:** a message, if it failed. -/
def Exchange.complaint? (x : Exchange probe) : Option String :=
  match x.stop? with
  | some (.error e) =>
    if x.request.forgives e then none else some (x.request.removalText ++ ": " ++ e.message)
  | _ => none

/-- **A call that ends abnormally.** -/
def Exchange.Breaks (x : Exchange probe) : Prop := ∃ p, x.stop? = some (.panic p)

/-! ## How a removal goes -/

variable {β γ : Type}

/-- **How a removal goes,** when `due` are its requests and `give` is what it makes of what is told of
them: through all of them, or up to a call that breaks it. -/
inductive Goes (due : List Ask) (give : List String → β) : List (Exchange probe) → Outcome β → Prop
  | through {D : List (Exchange probe)} (hasked : D.map Exchange.request = due)
      (hcalm : ∀ x ∈ D, ¬x.Breaks) : Goes due give D (.ok (give (D.filterMap Exchange.complaint?)))
  | broken {D : List (Exchange probe)} {p : Panic} (hasked : D.map Exchange.request <+: due)
      (hbreak : ∃ x ∈ D, x.Breaks) : Goes due give D (.error (.panic p))

section
variable {due due' : List Ask} {give : List String → β} {give' : List String → γ}
  {D E : List (Exchange probe)} {o : Outcome γ}

theorem goes_nothing {b : β} (hb : b = give []) : Goes [] give [] (.ok b) := by
  subst hb
  exact .through (D := []) rfl fun x hx => absurd hx List.not_mem_nil

theorem Goes.ok_inv {b : β} (hgo : Goes due give D (.ok b)) : D.map Exchange.request = due ∧
    (∀ x ∈ D, ¬x.Breaks) ∧ b = give (D.filterMap Exchange.complaint?) := by
  cases hgo with
  | through hasked hcalm => exact ⟨hasked, hcalm, rfl⟩

theorem Goes.append {told : List String} (hasked : D.map Exchange.request = due)
    (hcalm : ∀ x ∈ D, ¬x.Breaks) (htold : D.filterMap Exchange.complaint? = told)
    (hgo : Goes due' (fun more => give' (told ++ more)) E o) :
    Goes (due ++ due') give' (D ++ E) o := by
  subst htold
  cases hgo with
  | through hasked' hcalm' =>
    rw [← List.filterMap_append]
    refine .through (by rw [List.map_append, hasked, hasked']) fun x hx => ?_
    exact (List.mem_append.mp hx).elim (hcalm x) (hcalm' x)
  | broken hasked' hbreak =>
    obtain ⟨x, hx, hbreaks⟩ := hbreak
    refine .broken ?_ ⟨x, List.mem_append_right D hx, hbreaks⟩
    rw [List.map_append, hasked]
    exact (List.prefix_append_right_inj due).mpr hasked'

theorem Goes.error_mono {e : Stop} (hgo : Goes due give D (.error e)) :
    Goes (due ++ due') give' D (.error e) := by
  cases hgo with
  | broken hasked hbreak => exact .broken (hasked.trans (List.prefix_append ..)) hbreak

end

/-! ### Removals of the probe -/

/-- **A task of the probe removes:** so it goes, from wherever it starts. -/
def Probe.Removing {σ : Type} (h : Handler probe σ) (t : Probe β) (due : List Ask)
    (give : List String → β) : Prop :=
  ∀ w, Goes due give (t.dialogue h w) (t.exec h w).1

namespace Probe

variable {σ : Type} {h : Handler probe σ} {due due' : List Ask} {give : List String → β}
  {give' : List String → γ}

theorem removing_pure {b : β} (hb : b = give []) : Removing h (pure b) [] give :=
  fun _ => goes_nothing hb

theorem Removing.bind {t : Probe β} {k : β → Probe γ} (ht : Removing h t due give)
    (hk : ∀ told, Removing h (k (give told)) due' fun more => give' (told ++ more)) :
    Removing h (t >>= k) (due ++ due') give' := by
  intro w
  have hfirst := ht w
  rcases hexec : t.exec h w with ⟨e | b, v⟩
  · rw [hexec] at hfirst
    rw [Task.exec_bind_error hexec, Task.dialogue_bind_error hexec]
    exact hfirst.error_mono
  · rw [hexec] at hfirst
    obtain ⟨hasked, hcalm, rfl⟩ := hfirst.ok_inv
    rw [Task.exec_bind_ok hexec, Task.dialogue_bind_ok hexec]
    exact .append hasked hcalm rfl (hk _ v)

theorem Removing.map {t : Probe β} {f : β → γ} (ht : Removing h t due give) :
    Removing h (t >>= fun b => pure (f b)) due fun told => f (give told) := by
  have hall : Removing h (t >>= fun b => pure (f b)) (due ++ []) fun told => f (give told) :=
    ht.bind fun told => removing_pure (by rw [List.append_nil])
  rw [List.append_nil] at hall
  exact hall

/-- **A task is one call,** and stops short if the call does. -/
def IsCall (h : Handler probe σ) (t : Probe Unit) (r : Ask) : Prop :=
  ∀ w, ∃ (x : Exchange probe) (o : Outcome Unit) (v : σ), t.Talks h w [x] o v ∧ x.request = r ∧
    ∀ e, x.stop? = some e ↔ o = .error e

section
variable (h)

theorem isCall_deleteBinding (scope binding : String) :
    IsCall h (access (.deleteBinding scope binding)) (.access (.deleteBinding scope binding)) := by
  refine fun w => ⟨_, _, _, ⟨rfl, rfl⟩, rfl, fun e => ?_⟩
  cases (h (.access (.deleteBinding scope binding)) w).1 <;> simp [Exchange.stop?]

theorem isCall_deleteRole (scope role : String) :
    IsCall h (access (.deleteRole scope role)) (.access (.deleteRole scope role)) := by
  refine fun w => ⟨_, _, _, ⟨rfl, rfl⟩, rfl, fun e => ?_⟩
  cases (h (.access (.deleteRole scope role)) w).1 <;> simp [Exchange.stop?]

theorem isCall_deleteAccount (name scope : String) :
    IsCall h (identity (.delete name scope)) (.identity (.delete name scope)) := by
  refine fun w => ⟨_, _, _, ⟨rfl, rfl⟩, rfl, fun e => ?_⟩
  cases (h (.identity (.delete name scope)) w).1 <;> simp [Exchange.stop?]

theorem isCall_delete (kind : Cleanable) (client : Client) (id : String) :
    IsCall h (kind.delete client id) (kind.deletion client id) := by
  intro w
  cases kind with
  | run =>
    refine ⟨_, _, _, ⟨rfl, rfl⟩, rfl, fun e => ?_⟩
    cases (h (.tracking client (.deleteRun id)) w).1 <;> simp [Exchange.stop?]
  | model =>
    refine ⟨_, _, _, ⟨rfl, rfl⟩, rfl, fun e => ?_⟩
    cases (h (.tracking client (.deleteRegisteredModel id)) w).1 <;> simp [Exchange.stop?]
  | experiment =>
    refine ⟨_, _, _, ⟨rfl, rfl⟩, rfl, fun e => ?_⟩
    cases (h (.tracking client (.deleteExperiment id)) w).1 <;> simp [Exchange.stop?]

end

theorem goes_call {t : Probe Unit} {x : Exchange probe} {r : Except Error Unit} {w v : σ}
    (htalks : t.attempt.Talks h w [x] (.ok r) v) (hcalm : ¬x.Breaks) {k : Except Error Unit → Probe β}
    (hk : k r = pure (give x.complaint?.toList)) :
    Goes [x.request] give ((t.attempt >>= k).dialogue h w) ((t.attempt >>= k).exec h w).1 := by
  have hall := htalks.bind_ok (k := k) (hk ▸ Task.talks_pure _)
  have htold : [x].filterMap Exchange.complaint? = x.complaint?.toList := by
    cases hx : x.complaint? <;> simp [hx]
  rw [List.append_nil, ← htold] at hall
  rw [hall.exec, hall.dialogue]
  exact .through rfl fun y hy => List.mem_singleton.mp hy ▸ hcalm

/-- **A call whose error is handled** removes, if what is made of its result is what is told of it. -/
theorem IsCall.removing {t : Probe Unit} {r : Ask} (ht : IsCall h t r)
    {k : Except Error Unit → Probe β} (hok : k (.ok ()) = pure (give []))
    (herror : ∀ e, k (.error e) =
      pure (give (if r.forgives e then [] else [r.removalText ++ ": " ++ e.message]))) :
    Removing h (t.attempt >>= k) [r] give := by
  intro w
  obtain ⟨x, o, v, htalks, rfl, hstop⟩ := ht w
  rcases o with (e | p) | _
  · have hx : x.stop? = some (.error e) := (hstop _).mpr rfl
    refine goes_call htalks.attempt_error (fun ⟨p, hp⟩ => by rw [hx] at hp; cases hp) ?_
    rw [herror, Exchange.complaint?, hx]
    simp only
    split_ifs <;> rfl
  · have hx : x.stop? = some (.panic p) := (hstop _).mpr rfl
    have hpanic := Task.exec_attempt_panic htalks.exec
    rw [Task.exec_bind_error hpanic, Task.dialogue_bind_error hpanic, Task.dialogue_attempt,
      htalks.dialogue]
    exact .broken (List.prefix_refl _) ⟨x, List.mem_singleton_self x, p, hx⟩
  · have hx : x.stop? = none := Option.eq_none_iff_forall_ne_some.mpr fun e he => by
      cases (hstop e).mp he
    refine goes_call htalks.attempt_ok (fun ⟨p, hp⟩ => by rw [hx] at hp; cases hp) ?_
    rw [hok, Exchange.complaint?, hx]
    rfl

/-- Building a client is no removal, and comes before one. -/
theorem Removing.asAdmin {s : Setting} {scope : String} {k : Client → Probe β}
    (hk : Removing h (k (s.adminClient scope)) due give) :
    Removing h (s.adminClientFor scope >>= k) (.bind (s.adminClient scope) :: due) give := by
  intro w
  have hclient : (s.adminClientFor scope).Talks h w [⟨.bind (s.adminClient scope), ()⟩]
      (.ok (s.adminClient scope)) (h (.bind (s.adminClient scope)) w).2 := ⟨rfl, rfl⟩
  rw [Task.exec_bind_ok hclient.exec, Task.dialogue_bind_ok hclient.exec, hclient.dialogue]
  have htold : [(⟨.bind (s.adminClient scope), ()⟩ : Exchange probe)].filterMap
      Exchange.complaint? = [] := rfl
  refine Goes.append rfl (fun x hx => ?_) htold (hk _)
  rw [List.mem_singleton.mp hx]
  exact nofun

theorem IsCall.removing_reportFailure {t : Probe Unit} {r : Ask} (ht : IsCall h t r)
    (hforgives : ∀ e, r.forgives e = false) : Removing h (reportFailure r.removalText t) [r] id :=
  ht.removing rfl fun e => by rw [hforgives e]; rfl

variable (h)

/-- **Deleting a resource.** -/
theorem removing_removeResource (s : Setting) (kind : Cleanable) (x : String × String) :
    Removing h (removeResource s kind x.1 x.2) (s.removal kind x) (CleanupReport.mk 1) := by
  have hforgives (e : Error) : (kind.deletion (s.adminClient x.2) x.1).forgives e =
      (FailureCode.ofMessage e.message == .resourceNotFound) := by cases kind <;> rfl
  have htext : (kind.deletion (s.adminClient x.2) x.1).removalText =
      "delete " ++ kind.text ++ " " ++ x.1 ++ " in " ++ x.2 := by
    cases kind <;> rfl
  refine Removing.asAdmin ((isCall_delete h kind (s.adminClient x.2) x.1).removing rfl fun e => ?_)
  simp only [hforgives, htext, beq_iff_eq]
  split_ifs <;> rfl

/-- Deleting resources. The induction is on the entries of the registry. -/
theorem removing_removeResources (s : Setting) (kind : Cleanable) (entries : List (String × String)) :
    Removing h (removeResources s kind entries) (entries.flatMap (s.removal kind))
      (CleanupReport.mk entries.length) := by
  induction entries with
  | nil => exact removing_pure rfl
  | cons x rest ih =>
    refine (removing_removeResource h s kind x).bind fun told => ?_
    have hrest := ih.map (f := fun others => CleanupReport.append ⟨1, told⟩ others)
    rw [List.length_cons, Nat.add_comm]
    exact hrest

theorem removing_revoke (name scope : String) :
    Removing h (revoke access name scope)
      [.access (.deleteBinding scope (bindingName name)), .access (.deleteRole scope (roleName name))]
      id := by
  have hbinding := (isCall_deleteBinding h scope (bindingName name)).removing_reportFailure
    fun _ => rfl
  have hrole := (isCall_deleteRole h scope (roleName name)).removing_reportFailure fun _ => rfl
  exact hbinding.bind fun first => hrole.map

/-- **Retiring an identity.** -/
theorem removing_retire (i : Identity) : Removing h (Setting.retire i) i.withdrawals id := by
  have haccount := (isCall_deleteAccount h i.name i.scope).removing_reportFailure fun _ => rfl
  exact (removing_revoke h i.name i.scope).bind fun grants => haccount.map

/-- Retiring identities. The induction is on them. -/
theorem removing_retireAll (is : List Identity) :
    Removing h (retireAll is) (is.flatMap Identity.withdrawals) (CleanupReport.mk is.length) := by
  induction is with
  | nil => exact removing_pure rfl
  | cons i rest ih =>
    refine (removing_retire h i).bind fun told => ?_
    have hrest := ih.map (f := fun others => CleanupReport.append ⟨1, told⟩ others)
    rw [List.length_cons, Nat.add_comm]
    exact hrest

end Probe

/-! ### Removals of a case -/

/-- **A task of a case removes:** so it goes, from a state and in any world, and if it goes through it
leaves the other state. -/
structure CaseTask.Removing {σ : Type} (h : Handler probe σ) (t : CaseTask β) (s : CaseState)
    (due : List Ask) (give : List String → β) (s' : CaseState) : Prop where
  goes : ∀ w, Goes due give (dialogue h t ⟨s, w⟩) (exec h t ⟨s, w⟩).1
  leaves : ∀ w b, (exec h t ⟨s, w⟩).1 = .ok b → (exec h t ⟨s, w⟩).2.state = s'

section
variable {σ : Type} {h : Handler probe σ} {fx : Fixture} {s s' s'' : CaseState} {due due' : List Ask}
  {give : List String → β} {give' : List String → γ}

theorem CaseTask.Removing.bind {t : CaseTask β} {k : β → CaseTask γ}
    (ht : t.Removing h s due give s')
    (hk : ∀ told, (k (give told)).Removing h s' due' (fun more => give' (told ++ more)) s'') :
    (t >>= k).Removing h s (due ++ due') give' s'' := by
  constructor
  · intro w
    have hfirst := ht.goes w
    rcases hexec : exec h t ⟨s, w⟩ with ⟨e | b, q⟩
    · rw [hexec] at hfirst
      rw [CaseTask.exec_bind_error hexec, CaseTask.dialogue_bind_error hexec]
      exact hfirst.error_mono
    · have hleaves := ht.leaves w b
      rw [hexec] at hfirst hleaves
      obtain ⟨hasked, hcalm, rfl⟩ := hfirst.ok_inv
      obtain rfl : q.state = s' := hleaves rfl
      rw [CaseTask.exec_bind_ok hexec, CaseTask.dialogue_bind_ok hexec]
      exact .append hasked hcalm rfl ((hk _).goes q.world)
  · intro w c hc
    rcases hexec : exec h t ⟨s, w⟩ with ⟨e | b, q⟩
    · rw [CaseTask.exec_bind_error hexec] at hc
      cases hc
    · have hfirst := ht.goes w
      have hleaves := ht.leaves w b
      rw [hexec] at hfirst hleaves
      obtain ⟨-, -, rfl⟩ := hfirst.ok_inv
      obtain rfl : q.state = s' := hleaves rfl
      rw [CaseTask.exec_bind_ok hexec] at hc ⊢
      exact (hk _).leaves q.world c hc

theorem CaseTask.Removing.bind_silent {t : CaseTask β} {k : β → CaseTask γ}
    (ht : t.Removing h s due give s')
    (hk : ∀ told, (k (give told)).Removing h s' [] (fun more => give' (told ++ more)) s'') :
    (t >>= k).Removing h s due give' s'' := by
  have hall := ht.bind hk
  rw [List.append_nil] at hall
  exact hall

theorem CaseTask.Removing.after {α : Type} {t : CaseTask α} {a : α} {k : α → CaseTask γ}
    (hk : (k a).Removing h s' due' give' s'')
    (ht : ∀ w, t.Runs h ⟨s, w⟩ [] (.ok a) ⟨s', w⟩) : (t >>= k).Removing h s due' give' s'' where
  goes w := by
    rw [CaseTask.exec_bind_ok (ht w).exec, CaseTask.dialogue_bind_ok (ht w).exec, (ht w).dialogue]
    exact hk.goes w
  leaves w := by
    rw [CaseTask.exec_bind_ok (ht w).exec]
    exact hk.leaves w

theorem CaseTask.Removing.after_get {k : CaseState → CaseTask γ}
    (hk : (k s).Removing h s due' give' s'') : (get >>= k).Removing h s due' give' s'' :=
  hk.after fun _ => ⟨CaseTask.exec_get .., rfl⟩

theorem CaseTask.Removing.after_set {k : PUnit → CaseTask γ}
    (hk : (k ⟨⟩).Removing h s' due' give' s'') : (set s' >>= k).Removing h s due' give' s'' :=
  hk.after fun _ => ⟨CaseTask.exec_set .., rfl⟩

theorem CaseTask.Removing.after_modify {f : CaseState → CaseState} {k : PUnit → CaseTask γ}
    (hk : (k ⟨⟩).Removing h (f s) due' give' s'') : (modify f >>= k).Removing h s due' give' s'' :=
  hk.after fun _ => ⟨CaseTask.exec_modify .., rfl⟩

theorem CaseTask.removing_pure {b : β} (hb : b = give []) :
    (pure b : CaseTask β).Removing h s [] give s where
  goes _ := goes_nothing hb
  leaves _ _ _ := rfl

theorem CaseTask.removing_lift {t : Probe β} (ht : Probe.Removing h t due give) :
    (CaseTask.lift t).Removing h s due give s where
  goes w := by
    rw [CaseTask.exec_lift, CaseTask.dialogue_lift]
    exact ht w
  leaves w _ _ := by rw [CaseTask.exec_lift]

/-- **Cleaning a registry.** -/
theorem removing_cleanRegistry (kind : Cleanable) :
    (cleanRegistry fx kind).Removing h s (s.removals fx.setting kind)
      (CleanupReport.mk (s.registry kind).size) (s.withRegistry kind .empty) := by
  have hremove := CaseTask.removing_lift (s := s.withRegistry kind .empty)
    (Probe.removing_removeResources h fx.setting kind (s.registry kind).entries)
  exact hremove.after_set.after_get

/-- **Retiring the identities of a case.** -/
theorem removing_dismiss (earlier : CleanupReport) :
    (dismiss earlier).Removing h s (s.identities.flatMap Identity.withdrawals)
      (fun told => earlier.append ⟨s.identities.length, told⟩)
      { s with identities := [], identity := none, client := none } := by
  unfold dismiss
  refine .after_get (.after_set ((CaseTask.removing_lift
    (Probe.removing_retireAll h s.identities)).bind_silent fun told => .after_modify ?_))
  exact CaseTask.removing_pure (by rw [List.append_nil])

/-- **A teardown.** -/
theorem removing_teardown :
    (teardown fx).Removing h s (s.dues fx.setting) (CleanupReport.mk s.pendingCleanup)
      s.tornDown := by
  rw [teardown_eq]
  refine (removing_cleanRegistry .run).bind fun runs => (removing_cleanRegistry .model).bind
    fun models => (removing_cleanRegistry .experiment).bind fun experiments => ?_
  have hlast := removing_dismiss (h := h)
    (s := ((s.withRegistry .run .empty).withRegistry .model .empty).withRegistry .experiment .empty)
    (((CleanupReport.mk s.runs.size runs).append ⟨s.models.size, models⟩).append
      ⟨s.experiments.size, experiments⟩)
  have hgive : (fun told => (((CleanupReport.mk s.runs.size runs).append
      ⟨s.models.size, models⟩).append ⟨s.experiments.size, experiments⟩).append
        ⟨s.identities.length, told⟩) =
      fun more => CleanupReport.mk s.pendingCleanup (runs ++ (models ++ (experiments ++ more))) := by
    funext told
    simp only [CleanupReport.append, CaseState.pendingCleanup, List.append_assoc]
    congr 1
    omega
  rw [← hgive]
  exact hlast

end

end GrantProbe
