import Mathlib.Data.List.Basic
import GrantProbe.Proofs.World.Exact

/-!
# What a grant allows

The rules that are written for a capability allow, in the group of the tracking service, what the
capability says. An identity that nothing was stored for before is allowed what its own role allows,
in its own scope, and nothing elsewhere.

* `rulesAllow_mainRules_iff` and its like: what each part of the rules allows;
* `Capability.permits`: what a capability says; `rulesAllow_grantedRules`: the rules say the same;
* `Cluster.Lacks`: nothing is stored for an identity;
* `Cluster.withGrant`, `exec_grant`: the cluster after a grant; `allowsUnder_withGrant`: what it
  allows;
* `exec_retire`: retiring the identity undoes it all.
-/

namespace GrantProbe

/-! ## The rules of a capability -/

/-- **What a capability permits:** its verbs on its kinds, and creation on what it lists as a
sub-resource. -/
def Capability.permits (c : Capability) (verb : Verb) (kind : ResourceKind) : Bool :=
  (c.verbs.contains verb && c.resources.contains kind) ||
    (verb == .create && c.subresourceNames.contains kind.text)

theorem Verb.text_injective {u v : Verb} (h : u.text = v.text) : u = v := by
  cases u <;> cases v <;> first | rfl | exact absurd h (by decide)

theorem ResourceKind.text_injective {k l : ResourceKind} (h : k.text = l.text) : k = l := by
  cases k <;> cases l <;> first | rfl | exact absurd h (by decide)

theorem rulesAllow_append (rules others : List Rule) (group resource verb : String) :
    rulesAllow (rules ++ others) group resource verb =
      (rulesAllow rules group resource verb || rulesAllow others group resource verb) :=
  List.any_append

theorem rulesAllow_mainRules_iff (c : Capability) (group resource verb : String) :
    rulesAllow c.mainRules group resource verb = true ↔
      group = trackingGroup ∧ (∃ kind ∈ c.resources, kind.text = resource) ∧
        ∃ v ∈ c.verbs, v.text = verb := by
  unfold Capability.mainRules
  split_ifs with hempty
  · have hnone : c.verbs = [] ∨ c.resources = [] := by simpa using hempty
    rcases hnone with hv | hr <;> simp [rulesAllow, *]
  · simp [rulesAllow, Rule.allows, and_assoc]

theorem rulesAllow_subresourceRules_iff (c : Capability) (group resource verb : String) :
    rulesAllow c.subresourceRules group resource verb = true ↔
      group = trackingGroup ∧ resource ∈ c.subresourceNames ∧ verb = Verb.create.text := by
  unfold Capability.subresourceRules
  split_ifs with hempty
  · have hnone : c.subresourceNames = [] := by simpa using hempty
    simp [rulesAllow, hnone]
  · simp [rulesAllow, Rule.allows, and_assoc]

/-- **The rules of every identity** let it read three kinds of core objects, roles and bindings. -/
theorem rulesAllow_bootstrapRules_iff (group resource verb : String) :
    rulesAllow bootstrapRules group resource verb = true ↔
      (verb = "get" ∨ verb = "list") ∧
        (group = "" ∧ resource ∈ ["namespaces", "serviceaccounts", "secrets"] ∨
          group = rbacGroup ∧ resource ∈ ["roles", "rolebindings"]) := by
  simp only [rulesAllow, bootstrapRules, List.any_cons, List.any_nil, Bool.or_false, Bool.or_eq_true,
    Rule.allows, Bool.and_eq_true, List.contains_iff_mem, List.mem_cons, List.not_mem_nil, or_false]
  tauto

theorem rulesAllow_bootstrapRules (resource verb : String) :
    rulesAllow bootstrapRules trackingGroup resource verb = false := by
  have hcore : trackingGroup ≠ "" := by decide
  have hrbac : trackingGroup ≠ rbacGroup := by decide
  rw [Bool.eq_false_iff, ne_eq, rulesAllow_bootstrapRules_iff]
  rintro ⟨-, ⟨hgroup, -⟩ | ⟨hgroup, -⟩⟩
  · exact hcore hgroup
  · exact hrbac hgroup

theorem rulesAllow_mainRules (c : Capability) (verb : Verb) (kind : ResourceKind) :
    rulesAllow c.mainRules trackingGroup kind.text verb.text = true ↔
      verb ∈ c.verbs ∧ kind ∈ c.resources := by
  have hkind : (∃ k ∈ c.resources, k.text = kind.text) ↔ kind ∈ c.resources :=
    ⟨fun ⟨k, hk, ht⟩ => ResourceKind.text_injective ht ▸ hk, fun hk => ⟨kind, hk, rfl⟩⟩
  have hverb : (∃ v ∈ c.verbs, v.text = verb.text) ↔ verb ∈ c.verbs :=
    ⟨fun ⟨v, hv, ht⟩ => Verb.text_injective ht ▸ hv, fun hv => ⟨verb, hv, rfl⟩⟩
  rw [rulesAllow_mainRules_iff, hkind, hverb, eq_self, true_and, and_comm]

theorem rulesAllow_subresourceRules (c : Capability) (verb : Verb) (kind : ResourceKind) :
    rulesAllow c.subresourceRules trackingGroup kind.text verb.text = true ↔
      verb = .create ∧ kind.text ∈ c.subresourceNames := by
  have hverb : verb.text = Verb.create.text ↔ verb = .create :=
    ⟨Verb.text_injective, fun h => h ▸ rfl⟩
  rw [rulesAllow_subresourceRules_iff, hverb, eq_self, true_and, and_comm]

/-- **The rules that are written allow what the capability permits,** under the group of the
tracking service. -/
theorem rulesAllow_grantedRules (c : Capability) (verb : Verb) (kind : ResourceKind) :
    rulesAllow c.grantedRules trackingGroup kind.text verb.text = c.permits verb kind := by
  rw [Bool.eq_iff_iff, Capability.grantedRules, Capability.rules, rulesAllow_append,
    rulesAllow_append, rulesAllow_bootstrapRules, Bool.or_false, Bool.or_eq_true,
    rulesAllow_mainRules, rulesAllow_subresourceRules]
  simp [Capability.permits]

theorem verificationVerb?_mem {c : Capability} {verb : Verb} (h : c.verificationVerb? = some verb) :
    verb ∈ c.verbs := by
  unfold Capability.verificationVerb? at h
  split_ifs at h with hdelete
  · obtain rfl := Option.some.inj h
    simpa [Capability.grants] using hdelete
  · simpa [Capability.grants] using List.find?_some h

/-! ## The cluster -/

namespace Cluster

/-- **Nothing is stored for an identity** of this name: no role or binding of its own in the scope,
no account there, and no binding to it anywhere. -/
structure Lacks (c : Cluster) (name scope : String) : Prop where
  role : ∀ r ∈ c.roles, r.scope = scope → r.name ≠ roleName name
  binding : ∀ b ∈ c.bindings, b.scope = scope → b.name ≠ bindingName name
  subject : ∀ b ∈ c.bindings, b.subject ≠ name
  account : ∀ a ∈ c.accounts, a.scope = scope → a.name ≠ name

/-- **The cluster with an identity** and its grant. -/
def withGrant (c : Cluster) (name scope : String) (rules : List Rule) : Cluster :=
  { c with
    roles := c.roles ++ [⟨scope, roleName name, rules⟩]
    bindings := c.bindings ++ [⟨scope, bindingName name, roleName name, name⟩]
    accounts := c.accounts ++ [⟨name, scope⟩] }

variable {c : Cluster} {name scope : String}

theorem Lacks.role?_eq_none (h : c.Lacks name scope) : c.role? scope (roleName name) = none := by
  rw [role?, Option.map_eq_none_iff, List.find?_eq_none]
  intro r hr hat
  simp only [Bool.and_eq_true, beq_iff_eq] at hat
  exact h.role r hr hat.1 hat.2

theorem Lacks.hasBinding_eq_false (h : c.Lacks name scope) :
    c.hasBinding scope (bindingName name) = false := by
  rw [hasBinding, List.any_eq_false]
  intro b hb hat
  simp only [Bool.and_eq_true, beq_iff_eq] at hat
  exact h.binding b hb hat.1 hat.2

theorem Lacks.role?_withGrant (h : c.Lacks name scope) (rules : List Rule) :
    (c.withGrant name scope rules).role? scope (roleName name) = some rules := by
  have hnone := h.role?_eq_none
  unfold role? at hnone ⊢
  rw [withGrant, List.find?_append, Option.map_eq_none_iff.mp hnone]
  simp

/-- **A new identity is allowed what its role allows, where its role is.** -/
theorem Lacks.allowsUnder_withGrant (h : c.Lacks name scope) (rules : List Rule)
    (group place resource verb : String) :
    (c.withGrant name scope rules).allowsUnder group name place resource verb =
      (place == scope && rulesAllow rules group resource verb) := by
  have hold : c.bindings.any (fun b => b.scope == place && b.subject == name &&
      (((c.withGrant name scope rules).role? place b.role).any fun rules =>
        rulesAllow rules group resource verb)) = false := by
    rw [List.any_eq_false]
    intro b hb hat
    simp only [Bool.and_eq_true, beq_iff_eq] at hat
    exact h.subject b hb hat.1.2
  have hsplit : (c.withGrant name scope rules).bindings =
      c.bindings ++ [⟨scope, bindingName name, roleName name, name⟩] := rfl
  rw [allowsUnder, hsplit, List.any_append, hold, Bool.false_or]
  by_cases hplace : place = scope
  · subst hplace
    simp [h.role?_withGrant]
  · have hne : (scope == place) = false := by simpa using fun he => hplace he.symm
    simp [hne, hplace]

end Cluster

/-! ## Granting and retiring -/

section
variable {draw : Nat → String} {w : World} {name scope : String}

/-- The world after an identity has been created, before anything is granted to it. -/
def World.withAccount (w : World) (name scope : String) : World :=
  { w with cluster := { w.cluster with accounts := w.cluster.accounts ++ [⟨name, scope⟩] } }

/-- **Granting to a new identity** writes its role and its binding. -/
theorem exec_grant (draw : Nat → String) (h : w.cluster.Lacks name scope) (c : Capability) :
    (grant Probe.access name scope c).exec (World.answerWith draw) (w.withAccount name scope) =
      (.ok (), { w with cluster := w.cluster.withGrant name scope c.grantedRules }) := by
  have hrole : (Probe.access (.createRole scope (roleName name) c.grantedRules)).exec
      (World.answerWith draw) (w.withAccount name scope) = (.ok .created, { w with cluster :=
        { w.cluster with
          roles := w.cluster.roles ++ [⟨scope, roleName name, c.grantedRules⟩]
          accounts := w.cluster.accounts ++ [⟨name, scope⟩] } }) := by
    have hnone : (w.withAccount name scope).cluster.role? scope (roleName name) = none :=
      h.role?_eq_none
    rw [exec_access, World.answerWith_access draw _ (by simp), Cluster.access, hnone]
    rfl
  have hbinding : (Probe.access (.createBinding scope (bindingName name) (roleName name) name)).exec
      (World.answerWith draw) { w with cluster :=
        { w.cluster with
          roles := w.cluster.roles ++ [⟨scope, roleName name, c.grantedRules⟩]
          accounts := w.cluster.accounts ++ [⟨name, scope⟩] } } =
      (.ok .created, { w with cluster := w.cluster.withGrant name scope c.grantedRules }) := by
    have hnone : Cluster.hasBinding { w.cluster with
        roles := w.cluster.roles ++ [⟨scope, roleName name, c.grantedRules⟩]
        accounts := w.cluster.accounts ++ [⟨name, scope⟩] } scope (bindingName name) = false :=
      h.hasBinding_eq_false
    rw [exec_access, World.answerWith_access draw _ (by simp), Cluster.access, hnone]
    rfl
  unfold grant
  rw [Task.exec_bind_ok (Task.exec_retitle_ok _ hrole),
    Task.exec_bind_ok (Task.exec_retitle_ok _ hbinding)]
  rfl

theorem exec_reportFailure_ok {S : Signature} {σ : Type} {h : Program.Handler S σ} {what : String}
    {t : Task S Unit} {v v' : σ} (ht : t.exec h v = (.ok (), v')) :
    (reportFailure what t).exec h v = (.ok [], v') := by
  unfold reportFailure
  rw [Task.exec_bind_ok (Task.exec_attempt_ok ht)]
  rfl

/-- The cluster without an identity and its grant. -/
def Cluster.without (c : Cluster) (name scope : String) : Cluster :=
  { c with
    roles := c.roles.filter fun r => !(r.scope == scope && r.name == roleName name)
    bindings := c.bindings.filter fun b => !(b.scope == scope && b.name == bindingName name)
    accounts := c.accounts.filter fun a => !(a.name == name && a.scope == scope) }

/-- **Retiring** never fails, and removes the grant and the account. -/
theorem exec_retire (i : Identity) :
    (Setting.retire i).exec (World.answerWith draw) w =
      (.ok [], { w with cluster := w.cluster.without i.name i.scope }) := by
  have hcall (c : AccessCall) (hc : ∀ q, c ≠ .review q) (v : World) :
      (Probe.access c).exec (World.answerWith draw) v =
        (.ok (v.cluster.access c).1, { v with cluster := (v.cluster.access c).2 }) :=
    World.answerWith_access draw v hc
  have hrevoke : (revoke Probe.access i.name i.scope).exec (World.answerWith draw) w =
      (.ok [], { w with cluster := { w.cluster.without i.name i.scope with
        accounts := w.cluster.accounts } }) := by
    unfold revoke
    rw [Task.exec_bind_ok (exec_reportFailure_ok (hcall (.deleteBinding i.scope _) (by simp) w)),
      Task.exec_bind_ok (exec_reportFailure_ok (hcall (.deleteRole i.scope _) (by simp) _))]
    rfl
  unfold Setting.retire
  rw [Task.exec_bind_ok hrevoke, Task.exec_bind_ok (exec_reportFailure_ok (exec_identity _ _ _))]
  rfl

/-- A filter that drops what is in two places at once keeps a list without it. -/
theorem filter_not_and_eq_self {α : Type} {l : List α} {p q : α → Bool}
    (h : ∀ a ∈ l, p a = true → ¬q a = true) : (l.filter fun a => !(p a && q a)) = l := by
  refine List.filter_eq_self.mpr fun a ha => ?_
  rw [Bool.not_eq_eq_eq_not, Bool.not_true, Bool.and_eq_false_iff]
  cases hp : p a
  · exact Or.inl rfl
  · exact Or.inr (Bool.eq_false_iff.mpr (h a ha hp))

theorem Cluster.Lacks.without_withGrant {c : Cluster} (h : c.Lacks name scope) (rules : List Rule) :
    (c.withGrant name scope rules).without name scope = c := by
  have hroles : (c.roles.filter fun r => !(r.scope == scope && r.name == roleName name)) =
      c.roles := filter_not_and_eq_self (by simpa using h.role)
  have hbindings : (c.bindings.filter fun b => !(b.scope == scope && b.name == bindingName name)) =
      c.bindings := filter_not_and_eq_self (by simpa using h.binding)
  have haccounts : (c.accounts.filter fun a => !(a.name == name && a.scope == scope)) =
      c.accounts :=
    filter_not_and_eq_self (by simpa using fun a ha hn hs => h.account a ha hs hn)
  unfold without withGrant
  simp only [List.filter_append, hroles, hbindings, haccounts]
  simp

end

end GrantProbe
