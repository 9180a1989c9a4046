import GrantProbe.Proofs.Case.Teardown
import GrantProbe.Proofs.Cleanup.Retirement
import GrantProbe.Proofs.Confinement.Acting

/-!
# What the administrator does

Seeding, tearing down and removing call the tracking service as the administrator, and never as
anybody else.

* `Ask.IsByAdmin`: a request that is no call, or one of the administrator;
* `asks_teardown`: a teardown makes no other;
* `asks_seedBaseline`, `asks_removeBaseline`: neither do seeding a baseline and removing it.
-/

namespace GrantProbe

/-- **A request that is no call,** or one of the administrator. -/
def Ask.IsByAdmin (s : Setting) (r : Ask) : Prop :=
  ∀ client, r.client? = some client → ∃ scope, client = s.adminClient scope

section
variable {s : Setting}

theorem asks_adminClientFor {α : Type} {P : Ask → Prop} {scope : String} {k : Client → Probe α}
    (hbind : P (.bind (s.adminClient scope))) (hk : (k (s.adminClient scope)).Asks P) :
    (s.adminClientFor scope >>= k).Asks P := by
  have heq : s.adminClientFor scope >>= k =
      Probe.bind (s.adminClient scope) >>= fun _ => k (s.adminClient scope) := by
    simp [Setting.adminClientFor, Setting.adminClient]
  rw [heq]
  exact (asks_probeBind hbind).bind fun _ => hk

theorem isByAdmin_call (scope : String) (call : TrackingCall) :
    Ask.IsByAdmin s (.tracking (s.adminClient scope) call) := by
  rintro client ⟨⟩
  exact ⟨scope, rfl⟩

theorem asks_delete (kind : Cleanable) (scope id : String) :
    (kind.delete (s.adminClient scope) id).Asks (Ask.IsByAdmin s) := by
  cases kind <;> exact asks_tracking (isByAdmin_call _ _)

/-! ### Teardown -/

theorem asks_removeResources_admin (kind : Cleanable) (entries : List (String × String)) :
    (removeResources s kind entries).Asks (Ask.IsByAdmin s) := by
  induction entries with
  | nil => exact Task.asks_pure _
  | cons entry rest ih =>
    have hfirst : (removeResource s kind entry.1 entry.2).Asks (Ask.IsByAdmin s) := by
      refine asks_adminClientFor nofun ((asks_delete ..).attempt.bind fun r => ?_)
      rcases r with e | _
      · simp only
        split_ifs <;> exact Task.asks_pure _
      · exact Task.asks_pure _
    exact hfirst.bind fun _ => ih.bind fun _ => Task.asks_pure _

theorem asks_teardown (fx : Fixture) :
    CaseTask.Asks (Ask.IsByAdmin fx.setting) (teardown fx) := by
  have hclean (kind : Cleanable) :
      CaseTask.Asks (Ask.IsByAdmin fx.setting) (cleanRegistry fx kind) :=
    CaseTask.asks_get.bind fun _ => (CaseTask.asks_set _).bind fun _ =>
      CaseTask.asks_lift (asks_removeResources_admin kind _)
  rw [teardown_eq]
  refine (hclean .run).bind fun _ => (hclean .model).bind fun _ => (hclean .experiment).bind fun _ => ?_
  refine (asks_dismiss _).mono fun r hr => ?_
  cases hr <;> nofun

/-! ### Baselines -/

theorem asks_removeSeeded (kind : Cleanable) (word id scope : String) :
    (removeSeeded (s.adminClient scope) kind word id scope).Asks (Ask.IsByAdmin s) := by
  unfold removeSeeded
  split_ifs
  · exact Task.asks_pure _
  · exact (asks_reportFailure (asks_delete ..) _).bind fun _ => Task.asks_pure _

theorem asks_removeBaseline (baseline : SortedMap Baseline) :
    (removeBaseline s baseline).Asks (Ask.IsByAdmin s) := by
  unfold removeBaseline
  induction baseline.entries with
  | nil => exact Task.asks_pure _
  | cons entry rest ih =>
    have hfirst : (removeScope s entry.1 entry.2).Asks (Ask.IsByAdmin s) :=
      asks_adminClientFor nofun ((asks_removeSeeded ..).bind fun _ => (asks_removeSeeded ..).bind
        fun _ => (asks_removeSeeded ..).bind fun _ => Task.asks_pure _)
    exact hfirst.bind fun _ => ih.bind fun _ => Task.asks_pure _

theorem asks_seedScope (scope : String) : (seedScope s scope).Asks (Ask.IsByAdmin s) := by
  have hcall (call : TrackingCall) :
      (Probe.tracking (s.adminClient scope) call).attempt.Asks (Ask.IsByAdmin s) :=
    (asks_tracking (isByAdmin_call _ _)).attempt
  refine asks_adminClientFor nofun ((asks_suffix nofun).bind fun suffix => ?_)
  refine (hcall _).bind fun experiment => ?_
  rcases experiment with e | experiment
  · exact Task.asks_pure _
  refine (hcall _).bind fun run => ?_
  rcases run with e | run
  · exact Task.asks_pure _
  refine (hcall _).bind fun model => ?_
  rcases model with e | model <;> exact Task.asks_pure _

theorem asks_seedBaseline (s : Setting) : (seedBaseline s).Asks (Ask.IsByAdmin s) := by
  unfold seedBaseline
  generalize SortedMap.empty = seeded
  induction s.scopes generalizing seeded with
  | nil => exact Task.asks_pure _
  | cons scope rest ih =>
    unfold seedScopes
    refine (asks_seedScope scope).bind fun result => ?_
    rcases result with ⟨b, _ | e⟩
    · exact ih _
    · exact (asks_removeBaseline _).bind fun _ => Task.asks_stop _

end

end GrantProbe
