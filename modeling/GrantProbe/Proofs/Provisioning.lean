import GrantProbe.Probe.Setting
import GrantProbe.Proofs.Transcript

/-!
# What provisioning asks

The requests that an identity costs: which kinds of them its grant, its verification and its
retirement can make, whatever the world answers.

* `Setting.awaitGrant`, `Setting.enrol`: the parts of the protocol, with `establish_eq`;
* `Ask.IsGrant`, `Ask.IsPoll`, `Ask.IsWithdrawal`: the kinds of requests;
* `asks_grant`, `asks_verify`, `asks_retire`: which part makes which; `asks_authorize`,
  `asks_establish`: the whole protocol;
* `asks_establishIdentity`, `asks_useScope`: becoming someone and going somewhere, in a case;
* `dismiss`: the last part of a teardown, with `teardown_eq` and `asks_dismiss`.
-/

namespace GrantProbe

/-! ## The parts of the protocol -/

namespace Setting

variable (s : Setting)

/-- **Waiting for a grant,** once it is written. -/
def awaitGrant (i : Identity) (c : Capability) : Probe Unit :=
  match c.verificationVerb? with
  | none => pure ()
  | some verb => s.verifyKinds i.name i.scope verb c.resources

theorem authorize_eq (i : Identity) (c : Capability) :
    s.authorize i c = grant Probe.access i.name i.scope c >>= fun _ => s.awaitGrant i c := rfl

/-- **What follows the creation** of an identity. -/
def enrol (i : Identity) (c : Capability) : Probe Identity := do
  match ← (s.authorize i c).attempt with
  | .ok () => pure i
  | .error e =>
    let _ ← retire i
    Task.fail e

theorem establish_eq (scope : String) (c : Capability) :
    s.establish scope c = Probe.suffix >>= fun suffix =>
      Probe.identity (.create (s.namePrefix ++ "-" ++ suffix) scope) >>= fun i => s.enrol i c := rfl

end Setting

/-! ## The kinds of requests -/

namespace Ask

/-- A request that writes a grant. -/
inductive IsGrant : Ask → Prop
  | role (scope role : String) (rules : List Rule) : IsGrant (.access (.createRole scope role rules))
  | binding (scope binding role name : String) :
    IsGrant (.access (.createBinding scope binding role name))

/-- A request of a verification. -/
inductive IsPoll : Ask → Prop
  | review (q : Review) : IsPoll (.access (.review q))
  | sleep (d : Duration) : IsPoll (.sleep d)

/-- A request that takes a grant or an account away. -/
inductive IsWithdrawal : Ask → Prop
  | binding (scope binding : String) : IsWithdrawal (.access (.deleteBinding scope binding))
  | role (scope role : String) : IsWithdrawal (.access (.deleteRole scope role))
  | account (name scope : String) : IsWithdrawal (.identity (.delete name scope))

/-- **A request that an identity can cost.** -/
inductive IsProvisioning : Ask → Prop
  | suffix : IsProvisioning .suffix
  | create (name scope : String) : IsProvisioning (.identity (.create name scope))
  | authorize {r : Ask} (hr : r.IsGrant ∨ r.IsPoll) : IsProvisioning r
  | withdraw {r : Ask} (hr : r.IsWithdrawal) : IsProvisioning r

end Ask

/-! ## Granting and withdrawing -/

theorem asks_reportFailure {P : Ask → Prop} {t : Probe Unit} (ht : t.Asks P) (what : String) :
    (reportFailure what t).Asks P := by
  refine ht.attempt.bind fun r => ?_
  cases r <;> exact Task.asks_pure _

/-- **Granting** writes access and asks for nothing else. -/
theorem asks_grant (name scope : String) (c : Capability) :
    (grant Probe.access name scope c).Asks Ask.IsGrant := by
  have hrole : (Probe.access (.createRole scope (roleName name) c.grantedRules)).Asks Ask.IsGrant :=
    asks_access (.role ..)
  have hbinding : (Probe.access (.createBinding scope (bindingName name) (roleName name) name)).Asks
      Ask.IsGrant := asks_access (.binding ..)
  exact (hrole.retitle _).bind fun _ => (hbinding.retitle _).bind fun _ => Task.asks_pure _

/-- **Revoking** asks for two deletions of access. -/
theorem asks_revoke {P : Ask → Prop} {name scope : String}
    (hbinding : P (.access (.deleteBinding scope (bindingName name))))
    (hrole : P (.access (.deleteRole scope (roleName name)))) :
    (revoke Probe.access name scope).Asks P :=
  (asks_reportFailure (asks_access hbinding) _).bind fun _ =>
    (asks_reportFailure (asks_access hrole) _).bind fun _ => Task.asks_pure _

/-- **Retiring** asks for one deletion more. -/
theorem asks_retire (i : Identity) : (Setting.retire i).Asks Ask.IsWithdrawal := by
  have haccount : (Probe.identity (.delete i.name i.scope)).Asks Ask.IsWithdrawal :=
    asks_identity (.account ..)
  exact (asks_revoke (.binding ..) (.role ..)).bind fun _ =>
    (asks_reportFailure haccount _).bind fun _ => Task.asks_pure _

/-- Retiring identities takes things away, and nothing else. The induction is on the identities. -/
theorem asks_retireAll (is : List Identity) : (retireAll is).Asks Ask.IsWithdrawal := by
  induction is with
  | nil => exact Task.asks_pure _
  | cons i rest ih => exact (asks_retire i).bind fun _ => ih.bind fun _ => Task.asks_pure _

/-! ## Verifying -/

/-- Reviews under one group. The induction is on the reviews that are left. -/
theorem asks_reviewGroup (next : Duration → Except Panic Duration) (query : Review) (more : Nat)
    (delay : Duration) (seen : Tally) :
    (reviewGroup Probe.reviewer next query more delay seen).Asks Ask.IsPoll := by
  have hreview : (Probe.reviewer.review query).attempt.Asks Ask.IsPoll :=
    Task.Asks.attempt (asks_access (.review query))
  induction more generalizing delay seen with
  | zero =>
    unfold reviewGroup
    refine hreview.bind fun r => ?_
    rcases r with e | (_ | reason) <;> exact Task.asks_pure _
  | succ more ih =>
    have hrest (seen : Tally) : Task.Asks Ask.IsPoll (do
        Probe.reviewer.sleep delay
        let delay ← Task.checkPanic (next delay)
        reviewGroup Probe.reviewer next query more delay seen) :=
      Task.Asks.bind (asks_sleep (.sleep delay)) fun _ =>
        (Task.asks_checkPanic _).bind fun _ => ih _ _
    unfold reviewGroup
    refine hreview.bind fun r => ?_
    rcases r with e | (_ | reason)
    · exact hrest _
    · exact Task.asks_pure _
    · exact hrest _

theorem asks_reviewGroups (backoff : Backoff Duration) (more : Nat) (query : GrantQuery)
    (groups : List String) (seen : Tally) :
    (reviewGroups Probe.reviewer backoff more query groups seen).Asks Ask.IsPoll := by
  induction groups generalizing seen with
  | nil => exact Task.asks_pure _
  | cons group rest ih =>
    unfold reviewGroups
    refine (asks_reviewGroup _ _ _ _ _).bind fun r => ?_
    rcases r with ⟨_ | _, seen'⟩
    · exact ih seen'
    · exact Task.asks_pure _

/-- **A verification** asks for reviews and for time. -/
theorem asks_verify (c : VerifierConfig) (policy : VerificationPolicy) (query : GrantQuery) :
    (c.verify Probe.reviewer policy query).Asks Ask.IsPoll := by
  unfold VerifierConfig.verify verify
  refine (asks_reviewGroups _ _ _ _ _).bind fun r => ?_
  rcases r with ⟨_ | group, seen⟩
  · cases policy
    · exact Task.asks_stop _
    · exact Task.asks_pure _
  · exact Task.asks_pure _

theorem asks_verifyKinds (s : Setting) (name scope : String) (verb : Verb)
    (kinds : List ResourceKind) : (s.verifyKinds name scope verb kinds).Asks Ask.IsPoll := by
  induction kinds with
  | nil => exact Task.asks_pure _
  | cons kind rest ih => exact (asks_verify _ _ _).bind fun _ => ih

/-- **Granting with verification** takes nothing away. -/
theorem asks_authorize (s : Setting) (i : Identity) (c : Capability) :
    (s.authorize i c).Asks fun r : Ask => r.IsGrant ∨ r.IsPoll := by
  rw [s.authorize_eq]
  refine ((asks_grant i.name i.scope c).mono fun _ => Or.inl).bind fun _ => ?_
  unfold Setting.awaitGrant
  cases c.verificationVerb? with
  | none => exact Task.asks_pure _
  | some verb => exact (asks_verifyKinds _ _ _ _ _).mono fun _ => Or.inr

/-- **Establishing an identity** asks the cluster, and for time and chance. -/
theorem asks_establish (s : Setting) (scope : String) (c : Capability) :
    (s.establish scope c).Asks Ask.IsProvisioning := by
  have hcreate (name : String) : (Probe.identity (.create name scope)).Asks Ask.IsProvisioning :=
    asks_identity (.create ..)
  rw [s.establish_eq]
  refine (asks_suffix .suffix).bind fun suffix => (hcreate _).bind fun i => ?_
  refine ((asks_authorize s i c).mono fun _ => .authorize).attempt.bind fun r => ?_
  rcases r with e | _
  · exact ((asks_retire i).mono fun _ => .withdraw).bind fun _ => Task.asks_stop _
  · exact Task.asks_pure _

/-! ## Becoming someone and going somewhere -/

section
variable {P : Ask → Prop} (hbind : ∀ client, P (.bind client))
include hbind

theorem asks_rebind : CaseTask.Asks P rebind := by
  refine CaseTask.asks_get.bind fun s => ?_
  cases s.identity with
  | none => exact CaseTask.asks_set _
  | some i =>
    have hclient : (Setting.clientFor i s.scope).Asks P :=
      (asks_probeBind (hbind _)).bind fun _ => Task.asks_pure _
    exact (CaseTask.asks_lift hclient).bind fun _ => CaseTask.asks_set _

theorem asks_useScope (fx : Fixture) (ref : ScopeRef) : CaseTask.Asks P (useScope fx ref) :=
  (CaseTask.asks_check _).bind fun _ => (CaseTask.asks_modify _).bind fun _ => asks_rebind hbind

/-- **Becoming someone** costs an identity, and asks for a client. -/
theorem asks_establishIdentity (hcost : ∀ r : Ask, r.IsProvisioning → P r) (fx : Fixture)
    (spec : IdentitySpec) : CaseTask.Asks P (establishIdentity fx spec) :=
  (CaseTask.asks_check _).bind fun scope =>
    (CaseTask.asks_lift ((asks_establish fx.setting scope spec.capability).mono hcost)).bind
      fun _ => (CaseTask.asks_modify _).bind fun _ => asks_rebind hbind

end

/-! ## Taking leave -/

/-- **Retires the identities of a case,** and leaves nobody active. -/
def dismiss (earlier : CleanupReport) : CaseTask CleanupReport := do
  let s ← get
  set { s with identities := [] }
  let identities ← CaseTask.lift (retireAll s.identities)
  modify fun s => { s with identity := none, client := none }
  pure (earlier.append identities)

theorem teardown_eq (fx : Fixture) :
    teardown fx = cleanRegistry fx .run >>= fun runs => cleanRegistry fx .model >>= fun models =>
      cleanRegistry fx .experiment >>= fun experiments =>
        dismiss ((runs.append models).append experiments) := rfl

theorem asks_dismiss (earlier : CleanupReport) :
    CaseTask.Asks Ask.IsWithdrawal (dismiss earlier) :=
  CaseTask.asks_get.bind fun _ => (CaseTask.asks_set _).bind fun _ =>
    (CaseTask.asks_lift (asks_retireAll _)).bind fun _ => (CaseTask.asks_modify _).bind fun _ =>
      CaseTask.asks_pure _

end GrantProbe
