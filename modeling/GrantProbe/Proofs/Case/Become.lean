import GrantProbe.Proofs.Frame
import GrantProbe.Proofs.Transcript

/-!
# Becoming someone and going somewhere, as equations

Where a run of `establishIdentity` and one of `useScope` end, and what they ask, from the end of what
they call. If anything fails, the state is the one from before.

* `CaseState.entering`: the state after a scope has been entered, with the client that goes with it;
* `runs_rebind`, `runs_useScope`, `runs_useScope_unresolved`: going somewhere;
* `runs_establishIdentity_ok`, `runs_establishIdentity_error`, `runs_establishIdentity_unresolved`:
  becoming someone.
-/

namespace GrantProbe

open Program (Handler)
open CaseTask (exec dialogue)

/-- The state in which a scope has been entered. -/
def CaseState.entering (s : CaseState) (scope : String) : CaseState :=
  { s with scope := scope, client := { s with scope := scope }.boundClient? }

/-- The state of someone who has just been established, wherever that is. -/
def CaseState.becoming (s : CaseState) (i : Identity) : CaseState :=
  { s with identities := s.identities ++ [i], identity := some i }

/-- Building a client is answered with nothing. -/
def bindings (client : Option Client) : List (Exchange probe) :=
  client.toList.map fun c => ⟨.bind c, ()⟩

section
variable {σ : Type} (h : Handler probe σ) {fx : Fixture} {p : Point σ}

theorem dialogue_rebind (p : Point σ) :
    dialogue h rebind p = bindings p.state.boundClient? := by
  unfold rebind
  rw [CaseTask.dialogue_bind_ok (CaseTask.exec_get h p)]
  cases hi : p.state.identity with
  | none => simp [bindings, CaseState.boundClient?, hi]
  | some i =>
    have hclient := CaseTask.exec_lift_ok (p := p) (exec_clientFor h i p.state.scope p.world)
    simp only
    rw [CaseTask.dialogue_bind_ok hclient, CaseTask.dialogue_lift]
    simp [bindings, CaseState.boundClient?, hi]
    rfl

theorem runs_rebind (p : Point σ) : rebind.Runs h p (bindings p.state.boundClient?) (.ok ())
    ⟨{ p.state with client := p.state.boundClient? }, worldAfterBind h p.state p.world⟩ :=
  ⟨exec_rebind h p, dialogue_rebind h p⟩

/-! ## Going somewhere -/

variable {ref : ScopeRef} {scope : String} {e : Error}

theorem runs_useScope (hs : resolveScope fx.setting.scopes ref = .ok scope) :
    (useScope fx ref).Runs h p (bindings (p.state.entering scope).client) (.ok ())
      ⟨p.state.entering scope, worldAfterBind h { p.state with scope := scope } p.world⟩ := by
  refine ⟨(exec_useScope h hs p).trans (exec_rebind h _), ?_⟩
  unfold useScope
  rw [hs, CaseTask.dialogue_bind_ok (CaseTask.exec_check_ok h p scope),
    CaseTask.dialogue_bind_ok (CaseTask.exec_modify h p _), dialogue_rebind]
  rfl

theorem runs_useScope_unresolved (hs : resolveScope fx.setting.scopes ref = .error e) :
    (useScope fx ref).Runs h p [] (.error (.error e)) p := by
  unfold useScope
  rw [hs]
  exact CaseTask.Runs.bind_error ⟨rfl, rfl⟩

/-! ## Becoming someone -/

variable {spec : IdentitySpec} {w : σ}

/-- **An identity that is established** is active in its own workspace from then on. -/
theorem runs_establishIdentity_ok (hs : resolveScope fx.setting.scopes spec.scope = .ok scope)
    {i : Identity}
    (hest : (fx.setting.establish scope spec.capability).exec h p.world = (.ok i, w)) :
    (establishIdentity fx spec).Runs h p
      ((fx.setting.establish scope spec.capability).dialogue h p.world ++
        bindings (some ⟨i.name, i.credential, scope⟩)) (.ok ())
      ⟨(p.state.becoming i).entering scope, (h (.bind ⟨i.name, i.credential, scope⟩) w).2⟩ := by
  have hcheck : (CaseTask.check (resolveScope fx.setting.scopes spec.scope)).Runs h p []
      (.ok scope) p := by
    rw [hs]
    exact ⟨rfl, rfl⟩
  have hlift := CaseTask.Runs.mk (CaseTask.exec_lift_ok hest)
    (CaseTask.dialogue_lift h p (fx.setting.establish scope spec.capability))
  have hmodify : (modify fun s => { s with
      identities := s.identities ++ [i], identity := some i, scope := scope } : CaseTask Unit).Runs h
      { p with world := w } [] (.ok ()) ⟨{ p.state.becoming i with scope := scope }, w⟩ := ⟨rfl, rfl⟩
  exact hcheck.bind_ok (hlift.bind_ok (hmodify.bind_ok (runs_rebind h _)))

/-- **An identity that is not established** changes nothing. -/
theorem runs_establishIdentity_error (hs : resolveScope fx.setting.scopes spec.scope = .ok scope)
    {o : Stop} (hest : (fx.setting.establish scope spec.capability).exec h p.world = (.error o, w)) :
    (establishIdentity fx spec).Runs h p
      ((fx.setting.establish scope spec.capability).dialogue h p.world) (.error o)
      { p with world := w } := by
  have hcheck : (CaseTask.check (resolveScope fx.setting.scopes spec.scope)).Runs h p []
      (.ok scope) p := by
    rw [hs]
    exact ⟨rfl, rfl⟩
  have hlift := CaseTask.Runs.mk (CaseTask.exec_lift_error hest)
    (CaseTask.dialogue_lift h p (fx.setting.establish scope spec.capability))
  exact hcheck.bind_ok hlift.bind_error

theorem runs_establishIdentity_unresolved
    (hs : resolveScope fx.setting.scopes spec.scope = .error e) :
    (establishIdentity fx spec).Runs h p [] (.error (.error e)) p := by
  unfold establishIdentity
  rw [hs]
  exact CaseTask.Runs.bind_error ⟨rfl, rfl⟩

end

end GrantProbe
