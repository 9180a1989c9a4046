import GrantProbe.Config
import GrantProbe.Probe.Setting
import GrantProbe.Wire.Cluster
import GrantProbe.Wire.Tracking

/-!
# A probe over the wire

What a probe asks of the world, asked of a cluster and a tracking service.

* `connectCluster`: the connection, which is tried again when it fails;
* `Endpoint.answer`: each request of a probe, as a program over the wire;
* `Endpoint.carry`: a whole probe over the wire;
* `Config.connect`: the setting that a configuration describes.
-/

namespace GrantProbe

/-- The settings of the retry of a connection. -/
def connectionRetry : RetryConfig := .withMaxAttempts 10

/-- One attempt at a connection. -/
def tryConnecting (kubeconfig : Option String) : Wire Unit := do
  match ← Task.always (Wire.connect kubeconfig) with
  | .ok () => pure ()
  | .error f => Task.fail (.internal f.message "create_client")

/-- **A connection to the cluster.** -/
def connectCluster (kubeconfig : Option String) : Wire Unit :=
  let pace := connectionRetry.pace .clock Wire.sleep Wire.factor
  Task.ofRetry
    (retryUpTo pace (tryConnecting kubeconfig).retryable (connectionRetry.maxAttempts - 1) pace.first)

/-- The reviews and the sleep of a verification, over the wire. -/
def Wire.reviewer : Reviewer wire Duration :=
  ⟨fun q => Wire.access (.review q), fun d => Task.always (Wire.sleep d)⟩

namespace Endpoint

/-- **The answer to a request of a probe** at an address of the tracking service. Building a client asks
nothing. -/
def answer (e : Endpoint) : (r : Ask) → Program wire r.Answer
  | .access c => (Wire.access c).run
  | .identity c => (Wire.accounts.identities c).run
  | .bind _ => .done ()
  | .tracking client c => (Service.perform ⟨e, client⟩ c).run
  | .sleep d => Wire.sleep d
  | .suffix => Wire.suffix
  | .clock => Wire.clock

/-- **A probe over the wire.** -/
def carry {α : Type} (e : Endpoint) (p : Probe α) : Wire α :=
  ExceptT.mk (p.run.interpret (S := probe) e.answer)

end Endpoint

/-- Makes sure that workspaces exist, in order. -/
def ensureWorkspaces : List String → Wire Unit
  | [] => pure ()
  | name :: rest => do
    ensureWorkspace name
    ensureWorkspaces rest

/-- The file of trusted certificates that settings name. -/
def readBundle : Option String → Wire (Option CaBundle)
  | none => pure none
  | some path => do return some (← Wire.certificates path)

/-- The setting of the probes under a configuration with an administrative token. -/
def Config.setting (c : Config) (adminToken : String) : Setting where
  scopes := c.workspaces
  adminCredential := ⟨adminToken⟩
  verifier := c.verifier
  namePrefix := c.namePrefix

/-- **Connecting.** The configuration is validated, the cluster is connected and has every workspace, and the
tracking service has a usable address. -/
def Config.connect (c : Config) : Wire (Setting × Endpoint) := do
  Task.check c.validate
  connectCluster c.kubeconfig
  ensureWorkspaces c.workspaces
  let endpoint ← Task.check (Endpoint.of c.tracking.baseUrl (← readBundle c.tracking.caBundle))
  match c.adminToken with
  | none => Task.fail (.invalidField "admin_token" "missing")
  | some token => pure (c.setting token, endpoint)

end GrantProbe
