import GrantProbe.Proofs.Case.Become
import GrantProbe.Proofs.Cleanup.Balance
import GrantProbe.Proofs.Verification.Answers
import GrantProbe.Proofs.Verification.Evidence

/-!
# Becoming someone is all or nothing

An identity is established as a whole or not at all. If it is not, the case is where it was, and what
had been created is taken away again, whatever comes of that; the error is the one that the
authorization met.

* `Setting.Refusal`: how an authorization fails, with what it asked; `refusal_of_authorize`;
* `enrol_ok`, `enrol_error`: what follows a creation, from what the authorization did;
* `Evidence`: what an authorization has seen when it passes; `evidence_of_authorize`;
* `establishment_is_atomic`: becoming someone.
-/

namespace GrantProbe

open Program (Handler)
open CaseTask (exec dialogue)

/-! ## Authorizations -/

/-- The request for the role of an identity. -/
def Identity.roleCall (i : Identity) (c : Capability) : AccessCall :=
  .createRole i.scope (roleName i.name) c.grantedRules

def Identity.bindingCall (i : Identity) : AccessCall :=
  .createBinding i.scope (bindingName i.name) (roleName i.name) i.name

/-- **An authorization fails:** the role is not written, or the binding is not, or nothing allows a
request that is to be verified. Each comes with what has been asked up to then. -/
inductive Setting.Refusal (s : Setting) (i : Identity) (c : Capability) :
    List (Exchange probe) → Error → Prop
  | role (e : Error) : Setting.Refusal s i c [⟨.access (i.roleCall c), .error (.error e)⟩]
    (.provisioning i.name i.scope ("role " ++ roleName i.name ++ ": " ++ e.message))
  | binding (r : Creation) (e : Error) : Setting.Refusal s i c
    [⟨.access (i.roleCall c), .ok r⟩, ⟨.access i.bindingCall, .error (.error e)⟩]
    (.provisioning i.name i.scope ("binding " ++ bindingName i.name ++ ": " ++ e.message))
  | unverified (r b : Creation) {V : List (Exchange probe)} {verb : Verb} {kind : ResourceKind}
    (hpolls : ∀ x ∈ V, x.request.IsPoll) (hpolicy : s.verifier.policy = .enforce)
    (hverb : c.verificationVerb? = some verb) (hkind : kind ∈ c.resources) :
    Setting.Refusal s i c
      (⟨.access (i.roleCall c), .ok r⟩ :: ⟨.access i.bindingCall, .ok b⟩ :: V)
      (.exhausted i.name i.scope kind.text verb.text s.verifier.groups)

/-- **The evidence of an authorization:** the binding was written, and after that every kind of the
capability was allowed in some review, if there is a verb to ask for. -/
def Setting.Evidence (s : Setting) (i : Identity) (c : Capability) (D : List (Exchange probe)) :
    Prop :=
  ∃ before b after, D = before ++ ⟨.access i.bindingCall, .ok b⟩ :: after ∧
    ∀ verb, c.verificationVerb? = some verb → ∀ kind ∈ c.resources, ∃ group ∈ s.verifier.groups,
      Review.allowed ⟨i.name, i.scope, kind, verb, group⟩ ∈ after

section
variable {σ : Type} {h : Handler probe σ} {w w' : σ} {s : Setting} {i : Identity} {c : Capability}

/-! ### Granting -/

theorem dialogue_call (call : AccessCall) (f : Error → Error) :
    ((Probe.access call).retitle f).dialogue h w = [⟨.access call, (h (.access call) w).1⟩] :=
  Task.dialogue_retitle h w f _

theorem dialogue_call_ok {call : AccessCall} {f : Error → Error} {a : call.Answer}
    (hok : ((Probe.access call).retitle f).exec h w = (.ok a, w')) :
    ((Probe.access call).retitle f).dialogue h w = [⟨.access call, .ok a⟩] := by
  rw [Task.exec_retitle] at hok
  rcases hr : (Probe.access call).exec h w with ⟨(e | x) | b, v⟩ <;> rw [hr] at hok <;> cases hok
  have hanswer : (h (.access call) w).1 = .ok a := congrArg Prod.fst hr
  rw [dialogue_call, hanswer]

theorem dialogue_call_error {call : AccessCall} {f : Error → Error} {e : Error}
    (herr : ((Probe.access call).retitle f).exec h w = (.error (.error e), w')) :
    ∃ cause, e = f cause ∧ ((Probe.access call).retitle f).dialogue h w =
      [⟨.access call, .error (.error cause)⟩] := by
  rw [Task.exec_retitle] at herr
  rcases hr : (Probe.access call).exec h w with ⟨(cause | x) | b, v⟩ <;> rw [hr] at herr <;>
    cases herr
  have hanswer : (h (.access call) w).1 = .error (.error cause) := congrArg Prod.fst hr
  exact ⟨cause, rfl, by rw [dialogue_call, hanswer]⟩

theorem dialogue_grant_ok (hok : (grant Probe.access i.name i.scope c).exec h w = (.ok (), w')) :
    ∃ r b, (grant Probe.access i.name i.scope c).dialogue h w =
      [⟨.access (i.roleCall c), .ok r⟩, ⟨.access i.bindingCall, .ok b⟩] := by
  unfold grant at hok ⊢
  obtain ⟨r, v, hrole, hok₁⟩ := Task.exec_bind_eq_ok hok
  obtain ⟨b, v', hbinding, -⟩ := Task.exec_bind_eq_ok hok₁
  rw [Task.dialogue_bind_ok hrole, Task.dialogue_bind_ok hbinding, dialogue_call_ok hrole,
    dialogue_call_ok hbinding]
  exact ⟨r, b, rfl⟩

theorem refusal_of_authorize {e : Error}
    (herr : (s.authorize i c).exec h w = (.error (.error e), w')) :
    s.Refusal i c ((s.authorize i c).dialogue h w) e := by
  rw [s.authorize_eq] at herr ⊢
  rcases Task.exec_bind_eq_error herr with hgrant | ⟨⟨⟩, v, hgrant, hawait⟩
  · rw [Task.dialogue_bind_error hgrant]
    unfold grant at hgrant ⊢
    rcases Task.exec_bind_eq_error hgrant with hrole | ⟨r, v, hrole, hrest⟩
    · obtain ⟨cause, rfl, hasked⟩ := dialogue_call_error hrole
      rw [Task.dialogue_bind_error hrole, hasked]
      exact .role cause
    · rcases Task.exec_bind_eq_error hrest with hbinding | ⟨b, v', -, hpure⟩
      · obtain ⟨cause, rfl, hasked⟩ := dialogue_call_error hbinding
        rw [Task.dialogue_bind_ok hrole, Task.dialogue_bind_error hbinding, dialogue_call_ok hrole,
          hasked]
        exact .binding r cause
      · cases hpure
  · obtain ⟨r, b, hgranted⟩ := dialogue_grant_ok hgrant
    rw [Task.dialogue_bind_ok hgrant, hgranted]
    unfold Setting.awaitGrant at hawait ⊢
    cases hverb : c.verificationVerb? with
    | none =>
      rw [hverb] at hawait
      cases hawait
    | some verb =>
      simp only [hverb] at hawait ⊢
      obtain ⟨hpolicy, kind, hkind, rfl⟩ := error_of_verifyKinds hawait
      exact .unverified r b (fun x hx => (asks_verifyKinds ..).of_mem_dialogue hx) hpolicy hverb hkind

/-- **An authorization that passes** has its evidence, if it has to be verified. -/
theorem evidence_of_authorize (hpolicy : s.verifier.policy = .enforce)
    (hok : (s.authorize i c).exec h w = (.ok (), w')) :
    s.Evidence i c ((s.authorize i c).dialogue h w) := by
  rw [s.authorize_eq] at hok ⊢
  obtain ⟨⟨⟩, v, hgrant, hawait⟩ := Task.exec_bind_eq_ok hok
  obtain ⟨r, b, hgranted⟩ := dialogue_grant_ok hgrant
  rw [Task.dialogue_bind_ok hgrant, hgranted]
  refine ⟨[⟨.access (i.roleCall c), .ok r⟩], b, (s.awaitGrant i c).dialogue h v, rfl, ?_⟩
  intro verb hverb
  unfold Setting.awaitGrant at hawait ⊢
  simp only [hverb] at hawait ⊢
  exact allowed_of_verifyKinds hpolicy hawait

/-! ### Enrolling -/

theorem infallible_retire (i : Identity) : (Setting.retire i).Infallible := by
  refine Task.Infallible.bind (fun σ h w w' e => exec_revoke_ne_error e) fun _ => ?_
  exact Task.Infallible.bind (fun σ h w w' e => exec_reportFailure_ne_error _ _ e) fun _ =>
    Task.infallible_pure _

theorem enrol_ok {j : Identity} (hok : (s.enrol i c).exec h w = (.ok j, w')) :
    j = i ∧ (s.authorize i c).exec h w = (.ok (), w') ∧
      (s.enrol i c).dialogue h w = (s.authorize i c).dialogue h w := by
  unfold Setting.enrol at hok ⊢
  obtain ⟨r, v, hattempt, hrest⟩ := Task.exec_bind_eq_ok hok
  rw [Task.dialogue_bind_ok hattempt, Task.dialogue_attempt]
  rw [Task.exec_attempt] at hattempt
  rcases hauth : (s.authorize i c).exec h w with ⟨(e | x) | _, v'⟩ <;> rw [hauth] at hattempt <;>
    cases hattempt
  · obtain ⟨failures, v'', -, hfail⟩ := Task.exec_bind_eq_ok hrest
    cases hfail
  · cases hrest
    exact ⟨rfl, rfl, List.append_nil _⟩

/-- **An enrolment that fails** fails with the error of the authorization, after a retirement. -/
theorem enrol_error {e : Error} (herr : (s.enrol i c).exec h w = (.error (.error e), w')) :
    ∃ v failures, (s.authorize i c).exec h w = (.error (.error e), v) ∧
      (Setting.retire i).exec h v = (.ok failures, w') ∧
      (s.enrol i c).dialogue h w =
        (s.authorize i c).dialogue h w ++ (Setting.retire i).dialogue h v := by
  unfold Setting.enrol at herr ⊢
  rcases Task.exec_bind_eq_error herr with hattempt | ⟨r, v, hattempt, hrest⟩
  · exact absurd hattempt (Task.infallible_attempt _ h w w' e)
  rw [Task.dialogue_bind_ok hattempt, Task.dialogue_attempt]
  rw [Task.exec_attempt] at hattempt
  rcases hauth : (s.authorize i c).exec h w with ⟨(e' | x) | _, v'⟩ <;> rw [hauth] at hattempt <;>
    cases hattempt
  · -- Whatever fails in a retirement is reported, so the error is that of the authorization.
    rcases Task.exec_bind_eq_error hrest with hretire | ⟨failures, v'', hretire, hfail⟩
    · exact absurd hretire (infallible_retire i h v w' e)
    · cases hfail
      refine ⟨v, failures, rfl, hretire, ?_⟩
      simp only
      rw [Task.dialogue_bind_ok hretire]
      exact congrArg _ (List.append_nil _)
  · cases hrest

end

/-! ## Becoming someone -/

/-- **An identity is not established:** its workspace is not configured, or it is not created, or it
is not authorized, and then its binding, its role and its account are taken away, in this order. Each
comes with all that has been asked. -/
inductive NotEstablished (fx : Fixture) (spec : IdentitySpec) :
    List (Exchange probe) → Error → Prop
  | unresolved {e : Error} (hs : resolveScope fx.setting.scopes spec.scope = .error e) :
    NotEstablished fx spec [] e
  | uncreated {scope : String} (hs : resolveScope fx.setting.scopes spec.scope = .ok scope)
    (suffix : String) (e : Error) : NotEstablished fx spec [⟨.suffix, suffix⟩,
      ⟨.identity (.create (fx.setting.namePrefix ++ "-" ++ suffix) scope), .error (.error e)⟩] e
  | withdrawn {scope : String} (hs : resolveScope fx.setting.scopes spec.scope = .ok scope)
    (suffix : String) {i : Identity} {A R : List (Exchange probe)} {e : Error}
    (hrefusal : fx.setting.Refusal i spec.capability A e)
    (hwithdrawn : R.map Exchange.request = i.withdrawals) :
    NotEstablished fx spec (⟨.suffix, suffix⟩ ::
      ⟨.identity (.create (fx.setting.namePrefix ++ "-" ++ suffix) scope), .ok i⟩ :: (A ++ R)) e

section
variable {σ : Type} {h : Handler probe σ} {fx : Fixture} {spec : IdentitySpec}

theorem notEstablished_of_establish {scope : String} {w w' : σ} {e : Error}
    (hs : resolveScope fx.setting.scopes spec.scope = .ok scope)
    (herr : (fx.setting.establish scope spec.capability).exec h w = (.error (.error e), w')) :
    NotEstablished fx spec ((fx.setting.establish scope spec.capability).dialogue h w) e := by
  rcases hcreate : h (.identity (.create (fx.setting.drawnName h w) scope)) (h .suffix w).2 with
    ⟨stop | i, v⟩
  · obtain ⟨hexec, hasked⟩ := establish_not_created (c := spec.capability) hcreate
    rw [hexec] at herr
    cases herr
    rw [hasked]
    exact .uncreated hs _ e
  · obtain ⟨hexec, hasked⟩ := establish_created (c := spec.capability) hcreate
    rw [hexec] at herr
    obtain ⟨v', failures, hauth, hretire, henrolled⟩ := enrol_error herr
    obtain ⟨grants, v'', hrevoke, -⟩ := Task.exec_bind_eq_ok hretire
    have hwithdrawn : ((Setting.retire i).dialogue h v').map Exchange.request = i.withdrawals := by
      rw [Task.map_request_dialogue, trace_retire hrevoke]
    have hnot := NotEstablished.withdrawn hs (h .suffix w).1 (refusal_of_authorize hauth) hwithdrawn
    rw [hasked, henrolled]
    exact hnot

/-- **Becoming someone is all or nothing,** whatever the world answers. If it ends in an error, the
state is the one from before, and what has been created is withdrawn; the error is never one of the
withdrawal. If it ends well, the identity is active in its workspace and held for the teardown, and
under enforcement every kind of its capability has been allowed since the binding was written. -/
theorem establishment_is_atomic {p q : Point σ} {D : List (Exchange probe)} {o : Outcome Unit}
    (hrun : (establishIdentity fx spec).Runs h p D o q) :
    (∀ e, o = .error (.error e) → q.state = p.state ∧ NotEstablished fx spec D e) ∧
    (o = .ok () → ∃ scope suffix i A, resolveScope fx.setting.scopes spec.scope = .ok scope ∧
      D = ⟨.suffix, suffix⟩ ::
        ⟨.identity (.create (fx.setting.namePrefix ++ "-" ++ suffix) scope), .ok i⟩ ::
          (A ++ [⟨.bind ⟨i.name, i.credential, scope⟩, ()⟩]) ∧
      q.state = (p.state.becoming i).entering scope ∧
      (fx.setting.verifier.policy = .enforce → fx.setting.Evidence i spec.capability A)) := by
  obtain ⟨hexec, rfl⟩ := hrun
  rcases hs : resolveScope fx.setting.scopes spec.scope with e | scope
  · have hunresolved := runs_establishIdentity_unresolved h (p := p) hs
    rw [hunresolved.exec] at hexec
    cases hexec
    rw [hunresolved.dialogue]
    refine ⟨fun e' he' => ?_, nofun⟩
    cases he'
    exact ⟨rfl, .unresolved hs⟩
  rcases hest : (fx.setting.establish scope spec.capability).exec h p.world with ⟨stop | i, w⟩
  · have hfailed := runs_establishIdentity_error h hs hest
    rw [hfailed.exec] at hexec
    cases hexec
    rw [hfailed.dialogue]
    refine ⟨fun e he => ?_, nofun⟩
    cases he
    exact ⟨rfl, notEstablished_of_establish hs hest⟩
  · have hdone := runs_establishIdentity_ok h hs hest
    rw [hdone.exec] at hexec
    cases hexec
    refine ⟨nofun, fun _ => ?_⟩
    rcases hcreate : h (.identity (.create (fx.setting.drawnName h p.world) scope))
      (h .suffix p.world).2 with ⟨stop | j, v⟩
    · rw [(establish_not_created hcreate).1] at hest
      cases hest
    obtain ⟨hexec, hasked⟩ := establish_created (c := spec.capability) hcreate
    rw [hexec] at hest
    obtain ⟨rfl, hauth, henrolled⟩ := enrol_ok hest
    refine ⟨scope, (h .suffix p.world).1, i, (fx.setting.authorize i spec.capability).dialogue h v,
      rfl, ?_, rfl, fun hpolicy => evidence_of_authorize hpolicy hauth⟩
    rw [hdone.dialogue, hasked, henrolled]
    rfl

end

/-! ## A reader -/

/-- One workspace, in which grants are verified with four reviews. -/
def doorFixture : Fixture := ⟨⟨["workspace1"], ⟨"admin-token"⟩, pairVerifier, "test-user"⟩, .empty⟩

/-- Someone who reads the experiments of the first workspace. -/
def readerSpec : IdentitySpec := ⟨.primary, .ofPreset .read [.experiments]⟩

/-- A reader is established with evidence where grants are enforced at once, and withdrawn where they
take too long. -/
theorem reader_established_or_withdrawn :
    (∃ D q, (establishIdentity doorFixture readerSpec).Runs World.answer
      (doorFixture.opening (.fresh trackingGroup 0 true)) D (.ok ()) q ∧
      ∃ i A, doorFixture.setting.Evidence i readerSpec.capability A) ∧
    ∃ D q, (establishIdentity doorFixture readerSpec).Runs World.answer
      (doorFixture.opening (.fresh trackingGroup 9 true)) D (.error (.error (.exhausted "test-user-1"
        "workspace1" "experiments" "get" ["mlflow.org", trackingGroup]))) q ∧
      q.state = .fresh ["workspace1"] ∧ NotEstablished doorFixture readerSpec D
        (.exhausted "test-user-1" "workspace1" "experiments" "get" ["mlflow.org", trackingGroup]) := by
  have hgood := CaseTask.runs_self World.answer (establishIdentity doorFixture readerSpec)
    (doorFixture.opening (.fresh trackingGroup 0 true))
  have hok : (exec World.answer (establishIdentity doorFixture readerSpec)
      (doorFixture.opening (.fresh trackingGroup 0 true))).1 = .ok () := by decide +kernel
  have hbad := CaseTask.runs_self World.answer (establishIdentity doorFixture readerSpec)
    (doorFixture.opening (.fresh trackingGroup 9 true))
  have herr : (exec World.answer (establishIdentity doorFixture readerSpec)
      (doorFixture.opening (.fresh trackingGroup 9 true))).1 = .error (.error (.exhausted
        "test-user-1" "workspace1" "experiments" "get" ["mlflow.org", trackingGroup])) := by
    decide +kernel
  rw [hok] at hgood
  rw [herr] at hbad
  obtain ⟨scope, suffix, i, A, -, -, -, hevidence⟩ := (establishment_is_atomic hgood).2 rfl
  obtain ⟨hsame, hnot⟩ := (establishment_is_atomic hbad).1 _ rfl
  exact ⟨⟨_, _, hgood, i, A, hevidence rfl⟩, _, _, hbad, hsame, hnot⟩

end GrantProbe
