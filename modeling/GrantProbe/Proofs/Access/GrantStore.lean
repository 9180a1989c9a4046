import Mathlib.Logic.Function.Basic
import GrantProbe.Proofs.Cleanup.Balance
import GrantProbe.Proofs.World.Grant

/-!
# Grants over a store

Granting and revoking, over a world that keeps roles and bindings by scope and name: creating inserts
what is not there and leaves what is, deleting removes. What a list of calls leaves then depends on the
store alone, and a call touches one role and one binding of it, those named for its identity.

* `GrantStore`, `KeepsGrants`: a store, and a world that acts as one;
* `GrantCall`, `runCalls`: calls to grant and to revoke, and a list of them run in order;
* `KeepsGrants.exec_runCalls`: every call succeeds, and the store becomes what the calls make of it;
* `GrantCall.role_apply`, `GrantCall.binding_apply`: what a call does to one entry;
* `apply_comm`, `apply_grant_grant`, `apply_revoke_grant`, `apply_revoke_eq_self_iff`: laws of calls
  in sequence;
* `keepsGrants_answerWith`: a simulated world is such a world.
-/

namespace GrantProbe

open Program (Handler)
open Function (update)

/-! ## Stores -/

section
variable {κ α : Type} [DecidableEq κ]

/-- **Insertion.** What is there already stays. -/
def insertNew (m : κ → Option α) (k : κ) (a : α) : κ → Option α :=
  if (m k).isSome then m else update m k (some a)

/-- What an insertion reports. -/
def insertion (m : κ → Option α) (k : κ) : Creation := if (m k).isSome then .existed else .created

/-- An insertion sets one entry: to what it was, if it was anything. -/
theorem insertNew_eq_update (m : κ → Option α) (k : κ) (a : α) :
    insertNew m k a = update m k ((m k).or (some a)) := by
  unfold insertNew
  rcases hk : m k with _ | b
  · rfl
  · have hself := Function.update_eq_self k m
    rw [hk] at hself
    exact hself.symm

end

/-- **A store of grants:** the rules of each role, and the role and the subject of each binding, by
scope and name. -/
@[ext]
structure GrantStore where
  role : String × String → Option (List Rule)
  binding : String × String → Option (String × String)

/-- A store with nothing in it. -/
def GrantStore.empty : GrantStore := ⟨fun _ => none, fun _ => none⟩

variable {S : Signature} {σ : Type}

/-- **A world that keeps grants in a store.** No call fails, and the store behind `view` is all that
calls act on: creating inserts and reports whether it did, deleting removes. -/
structure KeepsGrants (cluster : AccessControl S) (h : Handler S σ) (view : σ → GrantStore) :
    Prop where
  createRole : ∀ w scope role rules, ∃ w',
    (cluster (.createRole scope role rules)).exec h w =
      (.ok (insertion (view w).role (scope, role)), w') ∧
    view w' = { view w with role := insertNew (view w).role (scope, role) rules }
  createBinding : ∀ w scope binding role identity, ∃ w',
    (cluster (.createBinding scope binding role identity)).exec h w =
      (.ok (insertion (view w).binding (scope, binding)), w') ∧
    view w' = { view w with
      binding := insertNew (view w).binding (scope, binding) (role, identity) }
  deleteRole : ∀ w scope role, ∃ w',
    (cluster (.deleteRole scope role)).exec h w = (.ok (), w') ∧
    view w' = { view w with role := update (view w).role (scope, role) none }
  deleteBinding : ∀ w scope binding, ∃ w',
    (cluster (.deleteBinding scope binding)).exec h w = (.ok (), w') ∧
    view w' = { view w with binding := update (view w).binding (scope, binding) none }

/-! ## Calls -/

/-- **A call** for an identity in a scope. -/
inductive GrantCall where
  | grant (identity scope : String) (capability : Capability)
  | revoke (identity scope : String)
  deriving DecidableEq, Repr, Inhabited

namespace GrantCall

/-- Who the call is for, and where. -/
def pair : GrantCall → String × String
  | grant identity scope _ => (identity, scope)
  | revoke identity scope => (identity, scope)

/-- **Running a call:** the failures that it reports, of which a grant has none. -/
def run (cluster : AccessControl S) : GrantCall → Task S (List String)
  | grant identity scope capability => do
    GrantProbe.grant cluster identity scope capability
    pure []
  | revoke identity scope => GrantProbe.revoke cluster identity scope

/-- **What a call makes of a store.** -/
def apply : GrantCall → GrantStore → GrantStore
  | grant identity scope capability, store =>
    ⟨insertNew store.role (scope, roleName identity) capability.grantedRules,
      insertNew store.binding (scope, bindingName identity) (roleName identity, identity)⟩
  | revoke identity scope, store =>
    ⟨update store.role (scope, roleName identity) none,
      update store.binding (scope, bindingName identity) none⟩

end GrantCall

/-- **Running calls** in order, with the failures that each reports. -/
def runCalls (cluster : AccessControl S) (calls : List GrantCall) : Task S (List (List String)) :=
  calls.mapM (GrantCall.run cluster)

namespace KeepsGrants

variable {cluster : AccessControl S} {h : Handler S σ} {view : σ → GrantStore}
  (hkeeps : KeepsGrants cluster h view)
include hkeeps

theorem exec_grant (identity scope : String) (capability : Capability) (w : σ) : ∃ w',
    (grant cluster identity scope capability).exec h w = (.ok (), w') ∧
      view w' = (GrantCall.grant identity scope capability).apply (view w) := by
  obtain ⟨w₁, hrole, hview₁⟩ :=
    hkeeps.createRole w scope (roleName identity) capability.grantedRules
  obtain ⟨w₂, hbinding, hview₂⟩ :=
    hkeeps.createBinding w₁ scope (bindingName identity) (roleName identity) identity
  refine ⟨w₂, ?_, ?_⟩
  · unfold grant
    rw [Task.exec_bind_ok (Task.exec_retitle_ok _ hrole),
      Task.exec_bind_ok (Task.exec_retitle_ok _ hbinding)]
    rfl
  · rw [hview₂, hview₁]
    rfl

theorem exec_revoke (identity scope : String) (w : σ) : ∃ w',
    (revoke cluster identity scope).exec h w = (.ok [], w') ∧
      view w' = (GrantCall.revoke identity scope).apply (view w) := by
  obtain ⟨w₁, hbinding, hview₁⟩ := hkeeps.deleteBinding w scope (bindingName identity)
  obtain ⟨w₂, hrole, hview₂⟩ := hkeeps.deleteRole w₁ scope (roleName identity)
  refine ⟨w₂, ?_, ?_⟩
  · unfold revoke
    rw [Task.exec_bind_ok (exec_reportFailure_ok hbinding),
      Task.exec_bind_ok (exec_reportFailure_ok hrole)]
    rfl
  · rw [hview₂, hview₁]
    rfl

/-- **A call succeeds,** reports no failure, and does to the store what it says. -/
theorem exec_run (call : GrantCall) (w : σ) : ∃ w',
    (call.run cluster).exec h w = (.ok [], w') ∧ view w' = call.apply (view w) := by
  cases call with
  | grant identity scope capability =>
    obtain ⟨w', hgrant, hview⟩ := hkeeps.exec_grant identity scope capability w
    exact ⟨w', Task.exec_bind_ok hgrant _, hview⟩
  | revoke identity scope => exact hkeeps.exec_revoke identity scope w

/-- **All calls succeed.** The induction is on the calls that are left. -/
theorem exec_runCalls (calls : List GrantCall) (w : σ) : ∃ w',
    (runCalls cluster calls).exec h w = (.ok (calls.map fun _ => []), w') ∧
      view w' = calls.foldl (fun store call => call.apply store) (view w) := by
  induction calls generalizing w with
  | nil => exact ⟨w, rfl, rfl⟩
  | cons call rest ih =>
    obtain ⟨w₁, hcall, hview₁⟩ := hkeeps.exec_run call w
    obtain ⟨w₂, hrest, hview₂⟩ := ih w₁
    refine ⟨w₂, ?_, ?_⟩
    · unfold runCalls at hrest ⊢
      rw [List.mapM_cons, Task.exec_bind_ok hcall, Task.exec_bind_ok hrest]
      rfl
    · rw [hview₂, hview₁]
      rfl

end KeepsGrants

/-! ## What a call does to an entry -/

namespace GrantCall

/-- What stands for the pair of a call after it, when `c` stood before: the first grant stays. -/
def stand (call : GrantCall) (c : Option Capability) : Option Capability :=
  match call with
  | grant _ _ capability => c.or (some capability)
  | revoke _ _ => none

variable (call : GrantCall) (store : GrantStore)

/-- The role that a call touches. -/
def roleKey : String × String := (call.pair.2, roleName call.pair.1)

/-- The binding that a call touches. -/
def bindingKey : String × String := (call.pair.2, bindingName call.pair.1)

theorem roleKey_ne {i s : String} (hpair : call.pair ≠ (i, s)) : (s, roleName i) ≠ call.roleKey := by
  intro hkey
  obtain ⟨hs, hi⟩ := Prod.mk.inj hkey
  exact hpair (Prod.ext (roleName_injective hi).symm hs.symm)

theorem bindingKey_ne {i s : String} (hpair : call.pair ≠ (i, s)) :
    (s, bindingName i) ≠ call.bindingKey := by
  intro hkey
  obtain ⟨hs, hi⟩ := Prod.mk.inj hkey
  exact hpair (Prod.ext (bindingName_injective hi).symm hs.symm)

/-- The rules of the role after a call. -/
def roleAfter (rules : Option (List Rule)) : Option (List Rule) :=
  match call with
  | grant _ _ capability => rules.or (some capability.grantedRules)
  | revoke _ _ => none

/-- What the binding grants after a call. -/
def bindingAfter (granted : Option (String × String)) : Option (String × String) :=
  match call with
  | grant identity _ _ => granted.or (some (roleName identity, identity))
  | revoke _ _ => none

theorem role_apply :
    (call.apply store).role = update store.role call.roleKey (call.roleAfter (store.role call.roleKey)) := by
  cases call with
  | grant identity scope capability => exact insertNew_eq_update _ _ _
  | revoke identity scope => rfl

theorem binding_apply : (call.apply store).binding =
    update store.binding call.bindingKey (call.bindingAfter (store.binding call.bindingKey)) := by
  cases call with
  | grant identity scope capability => exact insertNew_eq_update _ _ _
  | revoke identity scope => rfl

end GrantCall

/-! ## Laws of calls in sequence -/

section
variable {κ α : Type} [DecidableEq κ]

theorem update_update_comm {k l : κ} (hkl : k ≠ l) (m : κ → Option α) (f g : Option α → Option α) :
    update (update m k (f (m k))) l (g (update m k (f (m k)) l)) =
      update (update m l (g (m l))) k (f (update m l (g (m l)) k)) := by
  rw [Function.update_of_ne hkl.symm, Function.update_of_ne hkl, Function.update_comm hkl]

end

variable (store : GrantStore)

/-- **Calls for different pairs commute.** -/
theorem apply_comm {x y : GrantCall} (hpair : x.pair ≠ y.pair) :
    y.apply (x.apply store) = x.apply (y.apply store) := by
  have hrole : x.roleKey ≠ y.roleKey := y.roleKey_ne hpair.symm
  have hbinding : x.bindingKey ≠ y.bindingKey := y.bindingKey_ne hpair.symm
  refine GrantStore.ext ?_ ?_
  · rw [y.role_apply, x.role_apply, x.role_apply, y.role_apply]
    exact update_update_comm hrole _ x.roleAfter y.roleAfter
  · rw [y.binding_apply, x.binding_apply, x.binding_apply, y.binding_apply]
    exact update_update_comm hbinding _ x.bindingAfter y.bindingAfter

/-- **Granting again,** the same or anything else, changes nothing. -/
theorem apply_grant_grant (identity scope : String) (c c' : Capability) :
    (GrantCall.grant identity scope c').apply ((GrantCall.grant identity scope c).apply store) =
      (GrantCall.grant identity scope c).apply store := by
  have hkeep {κ α : Type} [DecidableEq κ] (m : κ → Option α) (k : κ) (a b : α) :
      insertNew (insertNew m k a) k b = insertNew m k a := by
    refine if_pos ?_
    rw [insertNew_eq_update, Function.update_self]
    cases m k <;> rfl
  exact GrantStore.ext (hkeep _ _ _ _) (hkeep _ _ _ _)

/-- **Revoking forgets** what was granted before. -/
theorem apply_revoke_grant (identity scope : String) (c : Capability) :
    (GrantCall.revoke identity scope).apply ((GrantCall.grant identity scope c).apply store) =
      (GrantCall.revoke identity scope).apply store := by
  have hforget {κ α : Type} [DecidableEq κ] (m : κ → Option α) (k : κ) (a : α) :
      update (insertNew m k a) k none = update m k none := by
    rw [insertNew_eq_update, Function.update_idem]
  exact GrantStore.ext (hforget _ _ _) (hforget _ _ _)

/-- **Revoking what is not there** changes nothing, and only that does. -/
theorem apply_revoke_eq_self_iff (identity scope : String) :
    (GrantCall.revoke identity scope).apply store = store ↔
      store.role (scope, roleName identity) = none ∧
        store.binding (scope, bindingName identity) = none := by
  constructor
  · intro h
    rw [← h]
    exact ⟨Function.update_self .., Function.update_self ..⟩
  · rintro ⟨hrole, hbinding⟩
    have hremove {κ α : Type} [DecidableEq κ] {m : κ → Option α} {k : κ} (hk : m k = none) :
        update m k none = m := by
      have hself := Function.update_eq_self k m
      rwa [hk] at hself
    exact GrantStore.ext (hremove hrole) (hremove hbinding)

/-! ## Simulated worlds -/

section
variable {α β κ : Type} [DecidableEq κ] (l : List α) (p : κ → α → Bool) (value : α → β)

/-- A list of objects as a store: the value of the first object that is at the key. -/
def lookUp (k : κ) : Option β := (l.find? (p k)).map value

variable {p} {key : α → κ} (hp : ∀ k x, p k x = true ↔ key x = k)
include hp

/-- An object at the end of the list is an insertion, unless the key is taken. -/
theorem lookUp_append {x : α} (hfree : lookUp l p value (key x) = none) :
    lookUp (l ++ [x]) p value = insertNew (lookUp l p value) (key x) (value x) := by
  funext k
  rw [insertNew_eq_update, hfree, Option.none_or]
  unfold lookUp at hfree ⊢
  rw [List.find?_append]
  by_cases hk : k = key x
  · subst hk
    rw [Option.map_eq_none_iff.mp hfree, Option.none_or,
      List.find?_cons_of_pos ((hp (key x) x).mpr rfl), Function.update_self]
    rfl
  · rw [List.find?_cons_of_neg (fun h => hk ((hp k x).mp h).symm), List.find?_nil, Option.or_none,
      Function.update_of_ne hk]

theorem lookUp_filter (k₀ : κ) :
    lookUp (l.filter fun x => !p k₀ x) p value = update (lookUp l p value) k₀ none := by
  funext k
  unfold lookUp
  rw [List.find?_filter]
  by_cases hk : k = k₀
  · subst hk
    rw [Function.update_self, Option.map_eq_none_iff, List.find?_eq_none]
    intro x _
    simp
  · rw [Function.update_of_ne hk]
    refine congrArg (fun q => (l.find? q).map value) (funext fun x => ?_)
    cases hx : p k x
    · simp
    · have hother : p k₀ x = false := by
        rw [Bool.eq_false_iff]
        exact fun h => hk (((hp k x).mp hx).symm.trans ((hp k₀ x).mp h))
      simp [hother]

end

/-- A role is at this place. -/
def StoredRole.isAt (k : String × String) (r : StoredRole) : Bool := r.scope == k.1 && r.name == k.2

/-- A binding is at this place. -/
def StoredBinding.isAt (k : String × String) (b : StoredBinding) : Bool :=
  b.scope == k.1 && b.name == k.2

/-- **The store of a simulated world.** -/
def World.grants (w : World) : GrantStore :=
  ⟨lookUp w.cluster.roles StoredRole.isAt StoredRole.rules,
    lookUp w.cluster.bindings StoredBinding.isAt fun b => (b.role, b.subject)⟩

theorem StoredRole.isAt_iff (k : String × String) (r : StoredRole) :
    r.isAt k = true ↔ (r.scope, r.name) = k := by
  rw [isAt, Bool.and_eq_true, beq_iff_eq, beq_iff_eq, Prod.ext_iff]

theorem StoredBinding.isAt_iff (k : String × String) (b : StoredBinding) :
    b.isAt k = true ↔ (b.scope, b.name) = k := by
  rw [isAt, Bool.and_eq_true, beq_iff_eq, beq_iff_eq, Prod.ext_iff]

theorem hasBinding_eq (w : World) (scope name : String) :
    w.cluster.hasBinding scope name = (w.grants.binding (scope, name)).isSome := by
  have hany : (w.grants.binding (scope, name)).isSome =
      (w.cluster.bindings.find? (StoredBinding.isAt (scope, name))).isSome := Option.isSome_map
  rw [hany, Bool.eq_iff_iff, List.find?_isSome, Cluster.hasBinding, List.any_eq_true]
  rfl

/-- A call that writes access, from what the cluster answers to it. -/
theorem exec_access_of_eq (draw : Nat → String) (w : World) {c : AccessCall}
    (hc : ∀ q, c ≠ .review q) {answer : c.Answer} {cluster : Cluster}
    (haccess : w.cluster.access c = (answer, cluster)) :
    (Probe.access c).exec (World.answerWith draw) w =
      (.ok answer, { w with cluster := cluster }) := by
  rw [exec_access, World.answerWith_access draw w hc, haccess]

/-- **A simulated world keeps grants in its store.** -/
theorem keepsGrants_answerWith (draw : Nat → String) :
    KeepsGrants Probe.access (World.answerWith draw) World.grants where
  createRole w scope role rules := by
    rcases hrole : w.grants.role (scope, role) with _ | old
    · have haccess : w.cluster.access (.createRole scope role rules) = (.created, { w.cluster with
          roles := w.cluster.roles ++ [⟨scope, role, rules⟩] }) :=
        if_neg (Bool.eq_false_iff.mp (congrArg Option.isSome hrole))
      have hadd := lookUp_append w.cluster.roles StoredRole.rules StoredRole.isAt_iff
        (x := ⟨scope, role, rules⟩) hrole
      rw [insertion, hrole]
      exact ⟨_, exec_access_of_eq draw w (by simp) haccess, GrantStore.ext hadd rfl⟩
    · have haccess : w.cluster.access (.createRole scope role rules) = (.existed, w.cluster) :=
        if_pos (congrArg Option.isSome hrole)
      have hkeep := (if_pos (congrArg Option.isSome hrole) : insertNew w.grants.role _ rules = _)
      rw [insertion, hrole]
      exact ⟨w, exec_access_of_eq draw w (by simp) haccess, GrantStore.ext hkeep.symm rfl⟩
  createBinding w scope binding role identity := by
    rcases hbinding : w.grants.binding (scope, binding) with _ | old
    · have haccess : w.cluster.access (.createBinding scope binding role identity) =
          (.created, { w.cluster with
            bindings := w.cluster.bindings ++ [⟨scope, binding, role, identity⟩] }) :=
        if_neg (by rw [hasBinding_eq, hbinding]; exact Bool.false_ne_true)
      have hadd := lookUp_append w.cluster.bindings (fun b => (b.role, b.subject))
        StoredBinding.isAt_iff (x := ⟨scope, binding, role, identity⟩) hbinding
      rw [insertion, hbinding]
      exact ⟨_, exec_access_of_eq draw w (by simp) haccess, GrantStore.ext rfl hadd⟩
    · have haccess : w.cluster.access (.createBinding scope binding role identity) =
          (.existed, w.cluster) := if_pos (by rw [hasBinding_eq, hbinding]; rfl)
      have hkeep := (if_pos (congrArg Option.isSome hbinding) :
        insertNew w.grants.binding _ (role, identity) = _)
      rw [insertion, hbinding]
      exact ⟨w, exec_access_of_eq draw w (by simp) haccess, GrantStore.ext rfl hkeep.symm⟩
  deleteRole w scope role := by
    have hdrop := lookUp_filter w.cluster.roles StoredRole.rules StoredRole.isAt_iff (scope, role)
    exact ⟨_, exec_access_of_eq draw w (by simp) rfl, GrantStore.ext hdrop rfl⟩
  deleteBinding w scope binding := by
    have hdrop := lookUp_filter w.cluster.bindings (fun b => (b.role, b.subject))
      StoredBinding.isAt_iff (scope, binding)
    exact ⟨_, exec_access_of_eq draw w (by simp) rfl, GrantStore.ext rfl hdrop⟩

end GrantProbe
