import GrantProbe.Case.Run
import GrantProbe.Proofs.Execution

/-!
# What a task leaves as it was

A task *keeps* a part of the state of a case if every run of it, whatever the world answers and
however it ends, leaves that part as it was. Becoming someone and going somewhere are spelled out,
and what they keep is read off.

* `CaseTask.Keeps`, with `Keeps.bind` and a lemma for each way to build a task;
* `exec_rebind`, `exec_useScope`: going somewhere, as an equation;
* `keeps_prepare`: preparing a step keeps whatever knows neither identity, scope, client nor the
  identities to retire; `keeps_verify`: a check changes nothing.
-/

namespace GrantProbe

open Program (Handler)

variable {σ α β γ : Type}

namespace CaseTask

/-- **The task keeps** what `f` reads off the state. -/
def Keeps (f : CaseState → γ) (t : CaseTask α) : Prop :=
  ∀ ⦃σ : Type⦄ (h : Handler probe σ) (p : Point σ), f (exec h t p).2.state = f p.state

variable {f : CaseState → γ}

theorem keeps_pure (a : α) : Keeps f (pure a) := fun _ _ _ => rfl

theorem keeps_check (r : Except Error α) : Keeps f (check r) := by
  intro σ h p
  cases r <;> rfl

theorem keeps_get : Keeps f get := fun _ _ _ => rfl

theorem keeps_modify {g : CaseState → CaseState} (hg : ∀ s, f (g s) = f s) :
    Keeps f (modify g) := fun _ _ p => hg p.state

theorem keeps_lift (t : Probe α) : Keeps f (lift t) := by
  intro σ h p
  rw [exec_lift]

theorem Keeps.attempt {t : CaseTask α} (ht : Keeps f t) : Keeps f t.attempt := by
  intro σ h p
  have hp := ht h p
  rw [exec_attempt]
  rcases hr : exec h t p with ⟨(e | x) | a, q⟩ <;> rw [hr] at hp <;> exact hp

theorem Keeps.bind {t : CaseTask α} {k : α → CaseTask β} (ht : Keeps f t)
    (hk : ∀ a, Keeps f (k a)) : Keeps f (t >>= k) := by
  intro σ h p
  have hp := ht h p
  rw [exec_bind]
  rcases hr : exec h t p with ⟨e | a, q⟩ <;> rw [hr] at hp
  · exact hp
  · exact (hk a h q).trans hp

theorem keeps_callAsActive (f : CaseState → γ) (call : TrackingCall) :
    Keeps f (Action.callAsActive call) :=
  keeps_get.bind fun _ => (keeps_check _).bind fun _ => keeps_lift _

end CaseTask

open CaseTask

/-! ## Becoming someone and going somewhere -/

theorem exec_clientFor (h : Handler probe σ) (i : Identity) (scope : String) (w : σ) :
    (Setting.clientFor i scope).exec h w =
      (.ok ⟨i.name, i.credential, scope⟩, (h (.bind ⟨i.name, i.credential, scope⟩) w).2) := by
  unfold Setting.clientFor Probe.bind
  rw [Task.exec_bind_ok (Task.exec_always _ _ _)]
  rfl

/-- The client of whoever is active, if anyone is. -/
def CaseState.boundClient? (s : CaseState) : Option Client :=
  s.identity.map fun i => ⟨i.name, i.credential, s.scope⟩

/-- The world after the client of whoever is active has been built. -/
def worldAfterBind (h : Handler probe σ) (s : CaseState) (w : σ) : σ :=
  match s.boundClient? with
  | some c => (h (.bind c) w).2
  | none => w

/-- **Rebinding** gives the case the client of its active identity in its active workspace. -/
theorem exec_rebind (h : Handler probe σ) (p : Point σ) :
    exec h rebind p = (.ok ⟨⟩, ⟨{ p.state with client := p.state.boundClient? },
      worldAfterBind h p.state p.world⟩) := by
  unfold rebind
  rw [exec_bind_ok (exec_get h p)]
  cases hi : p.state.identity with
  | none => simp [hi, worldAfterBind, CaseState.boundClient?]
  | some i =>
    simp only [hi]
    rw [exec_bind_ok (exec_lift_ok (exec_clientFor h i p.state.scope p.world))]
    simp [hi, worldAfterBind, CaseState.boundClient?]

theorem exec_useScope (h : Handler probe σ) {fx : Fixture} {ref : ScopeRef} {scope : String}
    (hs : resolveScope fx.setting.scopes ref = .ok scope) (p : Point σ) :
    exec h (useScope fx ref) p =
      exec h rebind { p with state := { p.state with scope := scope } } := by
  unfold useScope
  rw [hs, exec_bind_ok (exec_check_ok h p scope), exec_bind_ok (exec_modify h p _)]

/-- Who a step runs as, if it says so. -/
def Step.become (fx : Fixture) (step : Step) : CaseTask Unit :=
  match step.identity with
  | some spec => establishIdentity fx spec
  | none => pure ()

/-- Where a step runs, if it says so. -/
def Step.go (fx : Fixture) (step : Step) : CaseTask Unit :=
  match step.scope with
  | some ref => useScope fx ref
  | none => pure ()

theorem prepare_eq (fx : Fixture) (step : Step) :
    step.prepare fx = step.become fx >>= fun _ => step.go fx := by
  unfold Step.prepare Step.become Step.go
  cases step.identity <;> rfl

/-- What knows neither who is active, where, as which client, nor whom to retire. -/
def ForgetsIdentity (f : CaseState → γ) : Prop :=
  ∀ s i scope client is,
    f { s with identity := i, scope := scope, client := client, identities := is } = f s

section
variable {f : CaseState → γ} (hf : ForgetsIdentity f) (fx : Fixture)
include hf

theorem keeps_rebind : Keeps f rebind := by
  intro σ h p
  rw [exec_rebind]
  exact hf p.state p.state.identity p.state.scope _ p.state.identities

theorem keeps_establishIdentity (spec : IdentitySpec) : Keeps f (establishIdentity fx spec) := by
  refine (keeps_check _).bind fun scope => (keeps_lift _).bind fun i => ?_
  exact (keeps_modify fun s => hf s _ _ s.client _).bind fun _ => keeps_rebind hf

theorem keeps_useScope (ref : ScopeRef) : Keeps f (useScope fx ref) := by
  refine (keeps_check _).bind fun scope => ?_
  exact (keeps_modify fun s => hf s s.identity _ s.client s.identities).bind fun _ =>
    keeps_rebind hf

theorem keeps_prepare (step : Step) : Keeps f (step.prepare fx) := by
  rw [prepare_eq]
  refine Keeps.bind ?_ fun _ => ?_
  · unfold Step.become
    split
    · exact keeps_establishIdentity hf fx _
    · exact keeps_pure _
  · unfold Step.go
    split
    · exact keeps_useScope hf fx _
    · exact keeps_pure _

end

/-- **A check changes nothing** in the state of the case. -/
theorem keeps_verify (f : CaseState → γ) (fx : Fixture) (step : Step) (outcome : ActionOutcome) :
    Keeps f (step.verify fx outcome) := by
  unfold Step.verify
  split
  · exact keeps_pure _
  · refine keeps_get.bind fun s => ?_
    split
    · exact keeps_check (.error _)
    · refine (keeps_lift _).bind fun r => ?_
      split
      · exact keeps_pure _
      · exact keeps_check (.error _)

end GrantProbe
