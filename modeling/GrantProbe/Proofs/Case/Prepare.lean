import GrantProbe.Case.Catalogue
import GrantProbe.Proofs.Case.Move
import GrantProbe.Proofs.Frame
import GrantProbe.Proofs.World.Establish

/-!
# Becoming who a case runs as

The first step of a case of the catalogue becomes an identity of the primary workspace and goes
where the case says. In a world where the identity is new this ends with its grant in force and its
client bound there.

* `ScopeRef.choose`: the workspace of a reference;
* `CaseState.become`: the state afterwards; `exec_become`, `exec_prepare_granted`: the preparation;
* `permitsNeed_established`: what the tracking server permits from then on.
-/

namespace GrantProbe

open CaseTask (exec)

/-- The client of an identity in a workspace. -/
def Identity.clientIn (i : Identity) (scope : String) : Client := ⟨i.name, i.credential, scope⟩

/-- The state of a case that has just become someone and gone somewhere. -/
def CaseState.become (s : CaseState) (i : Identity) (scope : String) : CaseState :=
  { s with
    identity := some i, scope := scope, client := some (i.clientIn scope)
    identities := s.identities ++ [i] }

/-- The workspace of a reference, when there are two at least. -/
def ScopeRef.choose (home away : String) : ScopeRef → String
  | .primary => home
  | .secondary => away

theorem resolveScope_pair (home away : String) {more : List String} (ref : ScopeRef) :
    resolveScope (home :: away :: more) ref = .ok (ref.choose home away) := by
  cases ref <;> rfl

theorem choose_eq_home {home away : String} (hne : home ≠ away) (ref : ScopeRef) :
    (ref.choose home away == home) = (ref == .primary) := by
  cases ref with
  | primary => simp [ScopeRef.choose]
  | secondary => simp [ScopeRef.choose, hne.symm]

section
variable {draw : Nat → String} {fx : Fixture} {w : World} {home place : String} {ref : ScopeRef}

theorem exec_rebind_world (i : Identity) (p : Point World) (hi : p.state.identity = some i) :
    exec (World.answerWith draw) rebind p =
      (.ok (), { p with state := { p.state with client := some (i.clientIn p.state.scope) } }) := by
  rw [exec_rebind]
  simp [worldAfterBind, CaseState.boundClient?, hi, Identity.clientIn]

/-- **Becoming a new identity** of the primary workspace. -/
theorem exec_become (draw : Nat → String)
    (hhome : resolveScope fx.setting.scopes .primary = .ok home) (hlag : w.cluster.lag = 0)
    (hgroup : trackingGroup ∈ fx.setting.verifier.groups)
    (hnew : w.cluster.Lacks (fx.setting.nextName draw w) home) (c : Capability) (s : CaseState) :
    ∃ now, exec (World.answerWith draw) (establishIdentity fx ⟨.primary, c⟩) ⟨s, w⟩ =
        (.ok (), ⟨s.become (fx.setting.nextIdentity draw w home) home,
          (w.established (fx.setting.nextName draw w) home c).atTime now⟩) ∨
      (¬fx.setting.verifier.Settles ∧ ∃ p q,
        exec (World.answerWith draw) (establishIdentity fx ⟨.primary, c⟩) ⟨s, w⟩ =
          (.error (.panic p), q)) := by
  obtain ⟨now, hok | ⟨hno, p, hp⟩⟩ := exec_establish draw hlag hgroup hnew c
  · refine ⟨now, Or.inl ?_⟩
    unfold establishIdentity
    rw [hhome, CaseTask.exec_bind_ok (CaseTask.exec_check_ok _ _ home),
      CaseTask.exec_bind_ok (CaseTask.exec_lift_ok hok),
      CaseTask.exec_bind_ok (CaseTask.exec_modify ..)]
    exact exec_rebind_world (fx.setting.nextIdentity draw w home) _ rfl
  · refine ⟨now, Or.inr ⟨hno, p,
      ⟨s, (w.established (fx.setting.nextName draw w) home c).atTime now⟩, ?_⟩⟩
    unfold establishIdentity
    rw [hhome, CaseTask.exec_bind_ok (CaseTask.exec_check_ok _ _ home)]
    exact CaseTask.exec_bind_error (CaseTask.exec_lift_error hp) _

/-- **Preparing the first step** of a case, as a new identity. -/
theorem exec_prepare_granted (draw : Nat → String)
    (hhome : resolveScope fx.setting.scopes .primary = .ok home)
    (hplace : resolveScope fx.setting.scopes ref = .ok place) (hlag : w.cluster.lag = 0)
    (hgroup : trackingGroup ∈ fx.setting.verifier.groups)
    (hnew : w.cluster.Lacks (fx.setting.nextName draw w) home) (c : Capability) (step : Step)
    (s : CaseState) :
    ∃ now, exec (World.answerWith draw) ((Catalogue.asGranted c ref step).prepare fx) ⟨s, w⟩ =
        (.ok (), ⟨s.become (fx.setting.nextIdentity draw w home) place,
          (w.established (fx.setting.nextName draw w) home c).atTime now⟩) ∨
      (¬fx.setting.verifier.Settles ∧ ∃ p q,
        exec (World.answerWith draw) ((Catalogue.asGranted c ref step).prepare fx) ⟨s, w⟩ =
          (.error (.panic p), q)) := by
  obtain ⟨now, hbecome | ⟨hno, p, q, hbecome⟩⟩ := exec_become draw hhome hlag hgroup hnew c s
  · refine ⟨now, Or.inl ?_⟩
    rw [prepare_eq]
    refine (CaseTask.exec_bind_ok hbecome _).trans ?_
    refine (exec_useScope _ hplace _).trans ?_
    exact exec_rebind_world (fx.setting.nextIdentity draw w home) _ rfl
  · refine ⟨now, Or.inr ⟨hno, p, q, ?_⟩⟩
    rw [prepare_eq]
    exact CaseTask.exec_bind_error hbecome _

/-- A generated name is not that of the administrator: it has a hyphen. -/
theorem nextName_ne_admin (s : Setting) : s.nextName draw w ≠ adminName := by
  intro h
  have hmem : '-' ∈ (s.nextName draw w).toList := by simp [Setting.nextName]
  rw [h] at hmem
  exact absurd hmem (by decide)

/-- **What a new identity is permitted:** what its capability says, in its own workspace. -/
theorem permitsNeed_established (henforce : w.enforce = true)
    (hnew : w.cluster.Lacks (fx.setting.nextName draw w) home) (c : Capability) (now : Nat)
    (verb : Verb) (kind : ResourceKind) :
    ((w.established (fx.setting.nextName draw w) home c).atTime now).permitsNeed
        ((fx.setting.nextIdentity draw w home).clientIn place) (verb, kind) =
      (place == home && c.permits verb kind) := by
  have hadmin : (fx.setting.nextName draw w == adminName) = false :=
    beq_eq_false_iff_ne.mpr (nextName_ne_admin fx.setting)
  have hallows := hnew.allowsUnder_withGrant c.grantedRules trackingGroup place kind.text verb.text
  rw [rulesAllow_grantedRules] at hallows
  unfold World.permitsNeed
  rw [Cluster.allows_eq]
  change (fx.setting.nextName draw w == adminName || !w.enforce || _) = _
  rw [hadmin, henforce, Bool.not_true, Bool.false_or, Bool.false_or]
  exact hallows

end

end GrantProbe
