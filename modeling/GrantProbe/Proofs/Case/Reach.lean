import GrantProbe.Proofs.Case.Become
import GrantProbe.Proofs.Case.Rules
import GrantProbe.Proofs.Confinement.Acting
import GrantProbe.Proofs.Provisioning

/-!
# What a case can reach

The points that the operations of a case lead to, in any order, whatever the world answers and
however each of them ends. In every one of them the client is that of the active identity in the
active workspace.

* `CaseTask.Preserves`: what holds before a run of a task holds after it, however it ends;
* `Reached`: the points; `Reached.enter`, `Reached.act`, `Reached.accept`: the parts of a step lead to
  such points, and so do steps that pass;
* `CaseState.IsCurrent`, `isCurrent_of_reached`: the client is the current one.
-/

namespace GrantProbe

open Program (Handler)
open CaseTask (exec dialogue Keeps)

/-! ## Invariants of tasks -/

namespace CaseTask

/-- **The task preserves** `I`, in each of its runs and however that ends. -/
def Preserves {α : Type} (I : CaseState → Prop) (t : CaseTask α) : Prop :=
  ∀ ⦃σ : Type⦄ (h : Handler probe σ) (p : Point σ), I p.state → I (exec h t p).2.state

variable {α β : Type} {I : CaseState → Prop}

theorem Keeps.preserves {γ : Type} {f : CaseState → γ} {t : CaseTask α} (ht : Keeps f t)
    (hI : ∀ s s', f s' = f s → I s → I s') : Preserves I t :=
  fun _ h p hp => hI _ _ (ht h p) hp

theorem Preserves.bind {t : CaseTask α} {k : α → CaseTask β} (ht : Preserves I t)
    (hk : ∀ a, Preserves I (k a)) : Preserves I (t >>= k) := by
  intro σ h p hp
  have hmiddle := ht h p hp
  rcases hr : exec h t p with ⟨e | a, q⟩ <;> rw [hr] at hmiddle
  · rw [exec_bind_error hr]
    exact hmiddle
  · rw [exec_bind_ok hr]
    exact hk a h q hmiddle

end CaseTask

open CaseTask

section
variable {I : CaseState → Prop} {fx : Fixture}

theorem preserves_cleanRegistry (hclear : ∀ s kind, I s → I (s.withRegistry kind .empty))
    (kind : Cleanable) : Preserves I (cleanRegistry fx kind) := by
  intro σ h p hp
  unfold cleanRegistry
  rw [exec_bind_ok (exec_get h p), exec_bind_ok (exec_set ..), exec_lift]
  exact hclear p.state kind hp

/-- **A teardown** clears the registries, forgets the identities and leaves nobody active. -/
theorem preserves_teardown (hclear : ∀ s kind, I s → I (s.withRegistry kind .empty))
    (hretire : ∀ s, I s → I { s with identities := [] })
    (hleave : ∀ s, I s → I { s with identity := none, client := none }) :
    Preserves I (teardown fx) := by
  have hdismiss (earlier : CleanupReport) : Preserves I (dismiss earlier) := by
    intro σ h p hp
    have hfirst := hretire p.state hp
    unfold dismiss
    rw [exec_bind_ok (exec_get h p), exec_bind_ok (exec_set ..)]
    rcases hr : exec h (lift (retireAll p.state.identities))
      { p with state := { p.state with identities := [] } } with ⟨e | report, q⟩
    · rw [exec_bind_error hr]
      rw [exec_lift] at hr
      rw [← (Prod.mk.inj hr).2]
      exact hfirst
    · rw [exec_bind_ok hr]
      rw [exec_lift] at hr
      rw [exec_bind_ok (exec_modify ..), ← (Prod.mk.inj hr).2]
      exact hleave _ hfirst
  rw [teardown_eq]
  exact (preserves_cleanRegistry hclear .run).bind fun _ =>
    (preserves_cleanRegistry hclear .model).bind fun _ =>
      (preserves_cleanRegistry hclear .experiment).bind fun _ => hdismiss _

end

/-! ## Points that can be reached -/

section
variable {σ : Type}

/-- **A point that a case can reach.** Each operation may end in any way; between two of them the
world may have moved on. -/
inductive Reached (fx : Fixture) (h : Handler probe σ) : Point σ → Prop
  | opening (w : σ) : Reached fx h (fx.opening w)
  | later {p : Point σ} (hp : Reached fx h p) (w : σ) : Reached fx h ⟨p.state, w⟩
  | establish {p : Point σ} (hp : Reached fx h p) (spec : IdentitySpec) :
    Reached fx h (exec h (establishIdentity fx spec) p).2
  | go {p : Point σ} (hp : Reached fx h p) (ref : ScopeRef) :
    Reached fx h (exec h (useScope fx ref) p).2
  | perform {p : Point σ} (hp : Reached fx h p) {a : Action} (ha : a ∈ allActions) :
    Reached fx h (exec h (a.run fx) p).2
  | succeed {p : Point σ} (hp : Reached fx h p) (action : String) :
    Reached fx h ⟨p.state.recordSuccess action, p.world⟩
  | fail {p : Point σ} (hp : Reached fx h p) (action : String) (e : Error) :
    Reached fx h ⟨p.state.recordFailure action e, p.world⟩
  | register {p : Point σ} (hp : Reached fx h p) {kind : Cleanable} {id scope : String}
    {s : CaseState} (hr : p.state.register kind id scope = .ok s) : Reached fx h ⟨s, p.world⟩
  | forget {p : Point σ} (hp : Reached fx h p) (kind : Cleanable) (id : String) :
    Reached fx h ⟨p.state.forget kind id, p.world⟩
  | teardown {p : Point σ} (hp : Reached fx h p) : Reached fx h (exec h (teardown fx) p).2

variable {fx : Fixture} {h : Handler probe σ} {step : Step} {p q : Point σ}
  {D : List (Exchange probe)}

theorem Reached.enter (hp : Reached fx h p) (henter : step.Enters fx h p D q) : Reached fx h q := by
  obtain ⟨hbecome, hgo⟩ := henter
  rename_i middle
  have hmiddle : Reached fx h middle := by
    have hb := hbecome.exec
    unfold Step.become at hb
    split at hb
    · rename_i spec _
      have hend := hp.establish spec
      rw [hb] at hend
      exact hend
    · cases hb
      exact hp
  have hg := hgo.exec
  unfold Step.go at hg
  split at hg
  · rename_i ref _
    have hend := hmiddle.go ref
    rw [hg] at hend
    exact hend
  · cases hg
    exact hmiddle

theorem Reached.act (hp : Reached fx h p) (haction : ∀ a, step.action = some a → a ∈ allActions)
    {outcome : ActionOutcome} (hact : step.Acts fx h p D outcome q) : Reached fx h q := by
  cases hact with
  | skipped => exact hp
  | succeeded ha hrun =>
    have hend := hp.perform (haction _ ha)
    rw [hrun.exec] at hend
    exact hend.succeed _
  | failed ha hrun =>
    have hend := hp.perform (haction _ ha)
    rw [hrun.exec] at hend
    exact hend.fail _ _

theorem Reached.accept (hp : Reached fx h p) {outcome : ActionOutcome} {name : Option String}
    (haccept : step.Accepts fx h outcome p D name q) : Reached fx h q := by
  cases haccept with
  | unchecked => exact hp
  | accepted htest =>
    have hexec := htest.run.exec
    rw [exec_lift] at hexec
    rw [← (Prod.mk.inj hexec).2]
    exact hp.later _

/-- **Steps that pass** lead from a point that can be reached to another. The induction is on the
steps. -/
theorem Reached.pass {steps : List Step} {reports : List StepReport} (hp : Reached fx h p)
    (hactions : ∀ step ∈ steps, ∀ a, step.action = some a → a ∈ allActions)
    (hpass : StepsPass fx h steps p D reports q) : Reached fx h q := by
  induction hpass with
  | nil => exact hp
  | cons hstep _ ih =>
    obtain ⟨henter, hact, haccept⟩ := hstep
    have hfirst := ((hp.enter henter).act (hactions _ List.mem_cons_self) hact).accept haccept
    exact ih hfirst fun s hs => hactions s (List.mem_cons_of_mem _ hs)

end

/-! ## The client -/

/-- **The client is current:** that of whoever is active, in the active workspace. -/
def CaseState.IsCurrent (s : CaseState) : Prop := s.client = s.boundClient?

theorem CaseState.IsCurrent.of_standing {s s' : CaseState} (h : s'.standing = s.standing)
    (hs : s.IsCurrent) : s'.IsCurrent := by
  have hidentity : s'.identity = s.identity := congrArg Standing.identity h
  have hscope : s'.scope = s.scope := congrArg Standing.scope h
  have hclient : s'.client = s.client := congrArg Standing.client h
  unfold IsCurrent boundClient? at hs ⊢
  rw [hclient, hidentity, hscope, hs]

theorem isCurrent_entering (s : CaseState) (scope : String) : (s.entering scope).IsCurrent := rfl

theorem preserves_isCurrent_establishIdentity (fx : Fixture) (spec : IdentitySpec) :
    Preserves CaseState.IsCurrent (establishIdentity fx spec) := by
  intro σ h p hp
  cases hs : resolveScope fx.setting.scopes spec.scope with
  | error e =>
    rw [(runs_establishIdentity_unresolved h hs).exec]
    exact hp
  | ok scope =>
    rcases hest : (fx.setting.establish scope spec.capability).exec h p.world with ⟨e | i, w⟩
    · rw [(runs_establishIdentity_error h hs hest).exec]
      exact hp
    · rw [(runs_establishIdentity_ok h hs hest).exec]
      exact isCurrent_entering _ scope

theorem preserves_isCurrent_useScope (fx : Fixture) (ref : ScopeRef) :
    Preserves CaseState.IsCurrent (useScope fx ref) := by
  intro σ h p hp
  cases hs : resolveScope fx.setting.scopes ref with
  | error e =>
    rw [(runs_useScope_unresolved h hs).exec]
    exact hp
  | ok scope =>
    rw [(runs_useScope h hs).exec]
    exact isCurrent_entering _ scope

/-- **In every point that can be reached the client is current.** The induction is on how it is
reached. -/
theorem isCurrent_of_reached {σ : Type} {fx : Fixture} {h : Handler probe σ} {p : Point σ}
    (hp : Reached fx h p) : p.state.IsCurrent := by
  induction hp with
  | opening => rfl
  | later _ _ ih => exact ih
  | establish _ spec ih => exact preserves_isCurrent_establishIdentity fx spec h _ ih
  | go _ ref ih => exact preserves_isCurrent_useScope fx ref h _ ih
  | perform _ ha ih => exact ih.of_standing ((confined_of_mem ha fx).keeps h _)
  | succeed _ _ ih => exact ih
  | fail _ _ _ ih => exact ih
  | register _ hr ih => exact ih.of_standing (standing_register hr)
  | forget _ _ _ ih => exact ih.of_standing (standing_withRegistry ..)
  | teardown _ ih =>
    have hteardown : Preserves CaseState.IsCurrent (teardown fx) :=
      preserves_teardown (fun s kind hs => hs.of_standing (standing_withRegistry ..))
        (fun s hs => hs) fun _ _ => rfl
    exact hteardown h _ ih

end GrantProbe
