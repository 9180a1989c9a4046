import GrantProbe.Access.Call
import GrantProbe.Backoff

/-!
# Verification of a grant

A role that has been written is not enforced at once. A verification asks for access reviews until one
allows the request. It walks a list of API groups, since clusters disagree on the group of the tracking
service's resources; every group has the same number of reviews, with delays that start over.

* `VerificationPolicy`, `VerifierConfig`: the settings, with `maxTotalSleep`;
* `reviewGroup`: the reviews under one group; `reviewGroups`: under all of them;
* `verify`: the verdict under a policy.
-/

namespace GrantProbe

/-- What to do when no group allowed the request. -/
inductive VerificationPolicy where
  | enforce | advisory
  deriving DecidableEq, Repr, Inhabited

namespace VerificationPolicy

def text : VerificationPolicy → String
  | enforce => "enforce"
  | advisory => "advisory"

/-- Reads a policy, letter case aside. -/
def ofText (s : String) : Except String VerificationPolicy :=
  let lowered := Text.asciiLower s
  if lowered = "enforce" then .ok enforce
  else if lowered = "advisory" then .ok advisory
  else .error ("unknown verification policy '" ++ lowered ++ "', expected enforce or advisory")

end VerificationPolicy

/-- The API groups that are tried unless others are configured. -/
def defaultGroups : List String := [trackingGroup, "mlflow.org", "kubeflow.org", ""]

/-- **The settings of a verification.** -/
structure VerifierConfig where
  maxRetries : Nat
  initialDelay : Duration
  multiplier : Float
  groups : List String
  policy : VerificationPolicy

namespace VerifierConfig

def standard : VerifierConfig := ⟨10, .ofSeconds 1, 1.2, defaultGroups, .enforce⟩

/-- The delays between reviews under one group. -/
def backoff (c : VerifierConfig) : Backoff Duration := .geometric c.initialDelay c.multiplier

/-- **The most time that one verification sleeps.** -/
def maxTotalSleep (c : VerifierConfig) : Except Panic Duration :=
  Duration.ofFloat (geometricTotal (-0.0) 1.0 c.initialDelay.seconds c.multiplier
    (UInt64.ofNat c.groups.length).toFloat (c.maxRetries - 1))

end VerifierConfig

/-- **The verdict** of a verification that did not fail. -/
inductive Verdict where
  /-- The request was allowed under `group`, after `attempts` reviews in all. -/
  | verified (group : String) (attempts : Nat)
  /-- Nothing allowed the request; `responder` is the first group under which a review was answered. -/
  | unverified (groups : List String) (responder : Option String) (attempts : Nat)
  deriving DecidableEq, Repr, Inhabited

/-- The request whose grant is verified. -/
structure GrantQuery where
  identity : String
  scope : String
  resource : ResourceKind
  verb : Verb
  deriving DecidableEq, Repr, Inhabited

/-- The review of the request under a group. -/
def GrantQuery.under (q : GrantQuery) (group : String) : Review :=
  ⟨q.identity, q.scope, q.resource, q.verb, group⟩

/-- What a verification needs of the world: reviews, and time. -/
structure Reviewer (S : Signature) (δ : Type) where
  review : Review → Task S Decision
  sleep : δ → Task S Unit

/-- What has been seen so far: the number of reviews, and the first group with an answer. -/
structure Tally where
  attempts : Nat
  responder : Option String
  deriving DecidableEq, Repr, Inhabited

/-- One review more, which was denied if it was answered at all. -/
def Tally.refused (t : Tally) (group : String) (answered : Bool) : Tally :=
  ⟨t.attempts + 1, if answered then t.responder <|> some group else t.responder⟩

variable {S : Signature} {δ : Type}

/-- **Reviews under one group,** `more` at most after the first. The answer tells whether the last one
was allowed. The delay grows after every sleep, so it is computed once more than it is slept. -/
def reviewGroup (world : Reviewer S δ) (next : δ → Except Panic δ) (query : Review) :
    (more : Nat) → δ → Tally → Task S (Bool × Tally)
  | more, delay, seen => do
    match ← (world.review query).attempt with
    | .ok .allowed => pure (true, ⟨seen.attempts + 1, seen.responder⟩)
    | answer =>
      let seen := seen.refused query.group (answer matches .ok _)
      match more with
      | 0 => pure (false, seen)
      | more + 1 =>
        world.sleep delay
        let delay ← Task.checkPanic (next delay)
        reviewGroup world next query more delay seen

/-- **Reviews under each group in turn,** up to the first that is allowed. -/
def reviewGroups (world : Reviewer S δ) (backoff : Backoff δ) (more : Nat) (query : GrantQuery) :
    (groups : List String) → Tally → Task S (Option String × Tally)
  | [], seen => pure (none, seen)
  | group :: rest, seen => do
    match ← reviewGroup world backoff.next (query.under group) more backoff.first seen with
    | (true, seen) => pure (some group, seen)
    | (false, seen) => reviewGroups world backoff more query rest seen

/-- **Verification.** Each group gets `maxRetries` reviews, and one if that is none. -/
def verify (world : Reviewer S δ) (backoff : Backoff δ) (maxRetries : Nat) (groups : List String)
    (policy : VerificationPolicy) (query : GrantQuery) : Task S Verdict := do
  match ← reviewGroups world backoff (maxRetries - 1) query groups ⟨0, none⟩ with
  | (some group, seen) => pure (.verified group seen.attempts)
  | (none, seen) =>
    match policy with
    | .enforce =>
      Task.fail (.exhausted query.identity query.scope query.resource.text query.verb.text groups)
    | .advisory => pure (.unverified groups seen.responder seen.attempts)

/-- Verification under settings. -/
def VerifierConfig.verify (c : VerifierConfig) (world : Reviewer S Duration)
    (policy : VerificationPolicy) (query : GrantQuery) : Task S Verdict :=
  GrantProbe.verify world c.backoff c.maxRetries c.groups policy query

end GrantProbe
