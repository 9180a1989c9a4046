import GrantProbe.Access.Grant
import GrantProbe.Probe.Signature

/-!
# The setting of a probe

What every case of a run shares, and the protocol by which an identity comes into being: create it, grant
it its capability, and wait until the grant is enforced.

* `Setting`: workspaces, administrative credential, verification settings;
* `Setting.establish`: the whole protocol; a failure after the creation retires the identity again;
* `Setting.retire`: the way back, which never fails;
* `Setting.clientFor`, `Setting.adminClientFor`: clients of the tracking service.
-/

namespace GrantProbe

/-- The name of the administrative identity. -/
def adminName : String := "admin"

/-- **What every case shares.** The first scope is the primary workspace. -/
structure Setting where
  scopes : List String
  adminCredential : Credential
  verifier : VerifierConfig
  namePrefix : String

namespace Setting

/-- Waits until the grant of a verb on each kind is enforced. Each kind is verified on its own, so a role
that is enforced in part does not pass. -/
def verifyKinds (s : Setting) (identity scope : String) (verb : Verb) :
    List ResourceKind → Probe Unit
  | [] => pure ()
  | kind :: rest => do
    let _ ← s.verifier.verify Probe.reviewer s.verifier.policy ⟨identity, scope, kind, verb⟩
    verifyKinds s identity scope verb rest

/-- Grants a capability and waits until it is enforced. There is nothing to wait for when no verb is
granted. -/
def authorize (s : Setting) (i : Identity) (c : Capability) : Probe Unit := do
  grant Probe.access i.name i.scope c
  match c.verificationVerb? with
  | none => pure ()
  | some verb => s.verifyKinds i.name i.scope verb c.resources

/-- **Retiring an identity:** its grant is revoked and it is deleted. All three deletions are attempted;
there is one message for each that failed. -/
def retire (i : Identity) : Probe (List String) := do
  let grants ← revoke Probe.access i.name i.scope
  let account ← reportFailure ("delete serviceaccount " ++ i.scope ++ "/" ++ i.name)
    (Probe.identity (.delete i.name i.scope))
  pure (grants ++ account)

/-- **Establishing an identity** in a scope, with a capability that is enforced when this succeeds. -/
def establish (s : Setting) (scope : String) (c : Capability) : Probe Identity := do
  let suffix ← Probe.suffix
  let i ← Probe.identity (.create (s.namePrefix ++ "-" ++ suffix) scope)
  match ← (s.authorize i c).attempt with
  | .ok () => pure i
  | .error e =>
    let _ ← retire i
    Task.fail e

/-- A verification for an identity that exists, which fails when nothing allows the request. -/
def verifyExisting (s : Setting) (query : GrantQuery) : Probe Verdict :=
  s.verifier.verify Probe.reviewer .enforce query

/-- A client acting as an identity. -/
def clientFor (i : Identity) (scope : String) : Probe Client := do
  let client : Client := ⟨i.name, i.credential, scope⟩
  Probe.bind client
  pure client

/-- A client acting as the administrative identity. -/
def adminClientFor (s : Setting) (scope : String) : Probe Client := do
  let client : Client := ⟨adminName, s.adminCredential, scope⟩
  Probe.bind client
  pure client

end Setting

end GrantProbe
