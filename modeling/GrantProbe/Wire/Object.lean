import GrantProbe.Access.Call
import GrantProbe.Access.Document

/-!
# Objects for the cluster

The cluster's objects as they are sent.

* `ObjectKind`: the kinds of objects, with the version of their API;
* `roleObject`, `bindingObject` and the others: the objects that are sent.
-/

namespace GrantProbe

/-- **A kind of object:** the version of its API and its name. -/
structure ObjectKind where
  version : String
  name : String
  deriving DecidableEq, Repr, Inhabited

namespace ObjectKind

def role : ObjectKind := ⟨rbacGroup ++ "/v1", "Role"⟩

def binding : ObjectKind := ⟨rbacGroup ++ "/v1", "RoleBinding"⟩

def review : ObjectKind := ⟨"authorization.k8s.io/v1", "SubjectAccessReview"⟩

def workspace : ObjectKind := ⟨"v1", "Namespace"⟩

def account : ObjectKind := ⟨"v1", "ServiceAccount"⟩

def token : ObjectKind := ⟨"authentication.k8s.io/v1", "TokenRequest"⟩

/-- An object of a kind. -/
def object (kind : ObjectKind) (entries : List (String × Json)) : Json :=
  .object ([("apiVersion", .text kind.version), ("kind", .text kind.name)] ++ entries)

end ObjectKind

/-- The label of the objects that belong to a run, and its value. -/
def managedBy : String × String := ("app.kubernetes.io/managed-by", "mlflow-rbac-harness")

/-- The labels of the objects that belong to a run. -/
def managedLabels : Json := .object [(managedBy.1, .text managedBy.2)]

/-- The head of an object that belongs to a run. -/
def managedHead (name scope : String) : String × Json :=
  ("metadata", .object [("labels", managedLabels), ("name", .text name), ("namespace", .text scope)])

/-- The head of an object that is not stored. -/
def emptyHead : String × Json := ("metadata", .object [])

/-- A role. -/
def roleObject (scope role : String) (rules : List Rule) : Json :=
  ObjectKind.role.object [managedHead role scope, ("rules", .list (rules.map Rule.document))]

/-- A binding of a role to an account of its scope. -/
def bindingObject (scope binding role identity : String) : Json :=
  ObjectKind.binding.object [managedHead binding scope,
    ("roleRef", .object [("apiGroup", .text rbacGroup), ("kind", .text "Role"), ("name", .text role)]),
    ("subjects", .list [.object [("kind", .text "ServiceAccount"), ("name", .text identity),
      ("namespace", .text scope)]])]

/-- A review. -/
def reviewObject (q : Review) : Json :=
  ObjectKind.review.object [emptyHead,
    ("spec", .object [
      ("resourceAttributes", .object [("group", .text q.group), ("namespace", .text q.scope),
        ("resource", .text q.resource.text), ("verb", .text q.verb.text)]),
      ("user", .text q.user)])]

/-- A workspace. -/
def workspaceObject (name : String) : Json :=
  ObjectKind.workspace.object [
    ("metadata", .object [("name", .text name), ("labels", managedLabels)])]

/-- A service account. -/
def accountObject (name scope : String) : Json := ObjectKind.account.object [managedHead name scope]

/-- The seconds for which a token is asked. -/
def tokenLifetime : Nat := 3600

/-- A request for a token. -/
def tokenObject : Json :=
  ObjectKind.token.object [emptyHead,
    ("spec", .object [("audiences", .list []), ("expirationSeconds", .count tokenLifetime)])]

end GrantProbe
