import Mathlib.Data.List.Induction
import GrantProbe.Proofs.Access.GrantStore

/-!
# What stands after calls

After any calls to grant and to revoke, for any identities and scopes, the store holds a role and a
binding for exactly the pairs whose last call was a grant. The role has the rules of the first grant
since the last revocation, since granting again changes nothing.

* `lastFor`, `StandsFor`: the last call for a pair, and the capability that stands for it, read off
  the calls;
* `standing`: the same, computed call by call; `isSome_standing_iff`, `standing_eq_some_iff`;
* `Reflects`, `reflects_foldl`: the store after calls that begin with nothing;
* `store_of_runCalls`: the whole characterisation, with the laws of calls in sequence;
* `regranted_then_revoked`: a grant and its revocation do not restore a store that held a grant.
-/

namespace GrantProbe

open Program (Handler)
open Function (update)

variable {calls : List GrantCall} {i s : String} {c : Capability} {x : GrantCall}

/-! ## Reading it off the calls -/

/-- **The last call** for an identity in a scope. -/
def lastFor (calls : List GrantCall) (i s : String) : Option GrantCall :=
  (calls.filter fun call => call.pair == (i, s)).getLast?

/-- **The capability that stands** for an identity in a scope: it was granted, nothing was revoked
afterwards, and before it was granted none stood, as the last call for the pair, if there was any, was
no grant. -/
def StandsFor (calls : List GrantCall) (i s : String) (c : Capability) : Prop :=
  ∃ before after, calls = before ++ .grant i s c :: after ∧ GrantCall.revoke i s ∉ after ∧
    ∀ c', lastFor before i s ≠ some (.grant i s c')

theorem lastFor_append_self (hx : x.pair = (i, s)) : lastFor (calls ++ [x]) i s = some x := by
  have hkeep : [x].filter (fun call => call.pair == (i, s)) = [x] := by simp [hx]
  rw [lastFor, List.filter_append, hkeep, List.getLast?_concat]

theorem lastFor_append_other (hx : x.pair ≠ (i, s)) :
    lastFor (calls ++ [x]) i s = lastFor calls i s := by
  have hdrop : [x].filter (fun call => call.pair == (i, s)) = [] := by simp [hx]
  rw [lastFor, List.filter_append, hdrop, List.append_nil, lastFor]

/-- What stands after one more call: it is that call, or it stood before and the call revokes nothing
of it. -/
theorem standsFor_append_iff : StandsFor (calls ++ [x]) i s c ↔
    (x = .grant i s c ∧ ∀ c', lastFor calls i s ≠ some (.grant i s c')) ∨
      (x ≠ .revoke i s ∧ StandsFor calls i s c) := by
  constructor
  · rintro ⟨before, after, hcalls, hkept, hfirst⟩
    rcases List.eq_nil_or_concat after with rfl | ⟨rest, y, rfl⟩
    · obtain ⟨rfl, hx⟩ := List.append_inj' hcalls rfl
      exact Or.inl ⟨List.singleton_inj.mp hx, hfirst⟩
    · rw [List.concat_eq_append, ← List.cons_append, ← List.append_assoc] at hcalls
      obtain ⟨rfl, hx⟩ := List.append_inj' hcalls rfl
      obtain rfl := List.singleton_inj.mp hx
      rw [List.concat_eq_append, List.mem_append, List.mem_singleton, not_or] at hkept
      exact Or.inr ⟨Ne.symm hkept.2, before, rest, rfl, hkept.1, hfirst⟩
  · rintro (⟨rfl, hfirst⟩ | ⟨hx, before, after, rfl, hkept, hfirst⟩)
    · exact ⟨calls, [], rfl, List.not_mem_nil, hfirst⟩
    · refine ⟨before, after ++ [x], by simp, ?_, hfirst⟩
      rw [List.mem_append, List.mem_singleton, not_or]
      exact ⟨hkept, Ne.symm hx⟩

/-! ## Call by call -/

/-- **What stands for a pair,** computed along the calls. -/
def standing (calls : List GrantCall) (i s : String) : Option Capability :=
  calls.foldl (fun c call => if call.pair = (i, s) then call.stand c else c) none

theorem standing_append_self (hx : x.pair = (i, s)) :
    standing (calls ++ [x]) i s = x.stand (standing calls i s) := by
  rw [standing, List.foldl_append]
  exact if_pos hx

theorem standing_append_other (hx : x.pair ≠ (i, s)) :
    standing (calls ++ [x]) i s = standing calls i s := by
  rw [standing, List.foldl_append]
  exact if_neg hx

theorem GrantCall.eq_of_pair (hx : x.pair = (i, s)) :
    (∃ c, x = .grant i s c) ∨ x = .revoke i s := by
  cases x with
  | grant identity scope c =>
    cases hx
    exact Or.inl ⟨c, rfl⟩
  | revoke identity scope =>
    cases hx
    exact Or.inr rfl

/-- **Something stands where the last call was a grant.** The induction adds calls at the end. -/
theorem isSome_standing_iff (calls : List GrantCall) (i s : String) :
    (standing calls i s).isSome ↔ ∃ c, lastFor calls i s = some (.grant i s c) := by
  induction calls using List.reverseRecOn with
  | nil => exact ⟨nofun, fun ⟨_, h⟩ => nomatch h⟩
  | append_singleton calls x ih =>
    by_cases hx : x.pair = (i, s)
    · rw [standing_append_self hx, lastFor_append_self hx]
      obtain ⟨c, rfl⟩ | rfl := GrantCall.eq_of_pair hx
      · refine iff_of_true ?_ ⟨c, rfl⟩
        rw [GrantCall.stand]
        cases standing calls i s <;> rfl
      · exact iff_of_false Bool.false_ne_true fun ⟨_, h⟩ => nomatch h
    · rw [standing_append_other hx, lastFor_append_other hx]
      exact ih

/-- **What stands** is the first grant since the last revocation. The induction adds calls at the end.
-/
theorem standing_eq_some_iff (calls : List GrantCall) (i s : String) (c : Capability) :
    standing calls i s = some c ↔ StandsFor calls i s c := by
  induction calls using List.reverseRecOn with
  | nil => exact ⟨nofun, fun ⟨_, _, h, _⟩ => absurd h (by simp)⟩
  | append_singleton calls x ih =>
    have hnone : (∀ c', lastFor calls i s ≠ some (.grant i s c')) ↔ standing calls i s = none := by
      rw [← Option.not_isSome_iff_eq_none, isSome_standing_iff, not_exists]
    rw [standsFor_append_iff, hnone, ← ih]
    by_cases hx : x.pair = (i, s)
    · rw [standing_append_self hx]
      obtain ⟨c₀, rfl⟩ | rfl := GrantCall.eq_of_pair hx
      · rcases standing calls i s with _ | old <;> simp [GrantCall.stand]
      · simp [GrantCall.stand]
    · have hgrant : x ≠ .grant i s c := fun h => hx (h ▸ rfl)
      have hrevoke : x ≠ .revoke i s := fun h => hx (h ▸ rfl)
      rw [standing_append_other hx]
      simp [hgrant, hrevoke]

/-! ## The store after calls -/

/-- **A store that reflects calls:** for each pair it holds the role and the binding of what stands,
and it holds nothing else. -/
structure Reflects (calls : List GrantCall) (store : GrantStore) : Prop where
  role : ∀ i s, store.role (s, roleName i) = (standing calls i s).map Capability.grantedRules
  binding : ∀ i s, store.binding (s, bindingName i) =
    (standing calls i s).map fun _ => (roleName i, i)
  otherRole : ∀ n s, (∀ i, n ≠ roleName i) → store.role (s, n) = none
  otherBinding : ∀ n s, (∀ i, n ≠ bindingName i) → store.binding (s, n) = none

theorem GrantCall.roleAfter_map (x : GrantCall) (c : Option Capability) :
    x.roleAfter (c.map Capability.grantedRules) = (x.stand c).map Capability.grantedRules := by
  cases x <;> cases c <;> rfl

theorem GrantCall.bindingAfter_map (hx : x.pair = (i, s)) (c : Option Capability) :
    x.bindingAfter (c.map fun _ => (roleName i, i)) = (x.stand c).map fun _ => (roleName i, i) := by
  obtain ⟨c₀, rfl⟩ | rfl := GrantCall.eq_of_pair hx <;> cases c <;> rfl

/-- **One call more.** -/
theorem Reflects.apply {store : GrantStore} (h : Reflects calls store) (x : GrantCall) :
    Reflects (calls ++ [x]) (x.apply store) where
  role i s := by
    rw [x.role_apply]
    by_cases hx : x.pair = (i, s)
    · have hkey : x.roleKey = (s, roleName i) := by rw [GrantCall.roleKey, hx]
      rw [hkey, Function.update_self, h.role, standing_append_self hx, x.roleAfter_map]
    · rw [Function.update_of_ne (x.roleKey_ne hx), h.role, standing_append_other hx]
  binding i s := by
    rw [x.binding_apply]
    by_cases hx : x.pair = (i, s)
    · have hkey : x.bindingKey = (s, bindingName i) := by rw [GrantCall.bindingKey, hx]
      rw [hkey, Function.update_self, h.binding, standing_append_self hx,
        GrantCall.bindingAfter_map hx]
    · rw [Function.update_of_ne (x.bindingKey_ne hx), h.binding, standing_append_other hx]
  otherRole n s hn := by
    have hkey : (s, n) ≠ x.roleKey := fun hkey => hn _ (Prod.mk.inj hkey).2
    rw [x.role_apply, Function.update_of_ne hkey, h.otherRole n s hn]
  otherBinding n s hn := by
    have hkey : (s, n) ≠ x.bindingKey := fun hkey => hn _ (Prod.mk.inj hkey).2
    rw [x.binding_apply, Function.update_of_ne hkey, h.otherBinding n s hn]

/-- **The store after calls,** from one with nothing in it. -/
theorem reflects_foldl (calls : List GrantCall) :
    Reflects calls (calls.foldl (fun store call => call.apply store) .empty) := by
  induction calls using List.reverseRecOn with
  | nil => exact ⟨fun _ _ => rfl, fun _ _ => rfl, fun _ _ _ => rfl, fun _ _ _ => rfl⟩
  | append_singleton calls x ih =>
    rw [List.foldl_append]
    exact ih.apply x

/-! ## Running calls -/

section
variable {S : Signature} {σ : Type} (cluster : AccessControl S) (h : Handler S σ)
  (view : σ → GrantStore)

/-- **Calls leave a store:** run from `w`, every grant succeeds, every revocation reports no failure,
and the store afterwards is `store`. -/
def Leaves (calls : List GrantCall) (w : σ) (store : GrantStore) : Prop :=
  ∃ w', (runCalls cluster calls).exec h w = (.ok (calls.map fun _ => []), w') ∧ view w' = store

variable {cluster h view}

theorem KeepsGrants.leaves (hkeeps : KeepsGrants cluster h view) (calls : List GrantCall) (w : σ) :
    Leaves cluster h view calls w
      (calls.foldl (fun store call => call.apply store) (view w)) :=
  hkeeps.exec_runCalls calls w

end

/-- **What grants and revocations leave,** in every world that keeps grants in a store. From a store
with nothing in it, after any calls for any pairs: the role and the binding of a pair are there exactly
if its last call was a grant; the role has the rules of the first grant since the last revocation, and
the binding names that role and that identity; nothing else is there. From any store: calls for
different pairs commute, granting again changes nothing, and a grant that is revoked leaves what
revoking alone leaves, which is the store as it was exactly if the pair had nothing in it. -/
theorem store_of_runCalls {S : Signature} {σ : Type} {cluster : AccessControl S} {h : Handler S σ}
    {view : σ → GrantStore} (hkeeps : KeepsGrants cluster h view) :
    (∀ calls w, view w = .empty → ∃ store, Leaves cluster h view calls w store ∧
      (∀ i s, (store.role (s, roleName i)).isSome ↔
        ∃ c, lastFor calls i s = some (.grant i s c)) ∧
      (∀ i s, (store.binding (s, bindingName i)).isSome ↔
        ∃ c, lastFor calls i s = some (.grant i s c)) ∧
      (∀ i s rules, store.role (s, roleName i) = some rules ↔
        ∃ c, StandsFor calls i s c ∧ c.grantedRules = rules) ∧
      (∀ i s granted, store.binding (s, bindingName i) = some granted →
        granted = (roleName i, i)) ∧
      (∀ n s, (∀ i, n ≠ roleName i) → store.role (s, n) = none) ∧
      ∀ n s, (∀ i, n ≠ bindingName i) → store.binding (s, n) = none) ∧
    (∀ w x y, x.pair ≠ y.pair → ∃ store, Leaves cluster h view [x, y] w store ∧
      Leaves cluster h view [y, x] w store) ∧
    (∀ w i s c c', ∃ store, Leaves cluster h view [.grant i s c] w store ∧
      Leaves cluster h view [.grant i s c, .grant i s c'] w store) ∧
    ∀ w i s c, ∃ store, Leaves cluster h view [.revoke i s] w store ∧
      Leaves cluster h view [.grant i s c, .revoke i s] w store ∧
      (store = view w ↔ (view w).role (s, roleName i) = none ∧
        (view w).binding (s, bindingName i) = none) := by
  refine ⟨fun calls w hempty => ?_, fun w x y hpair => ?_, fun w i s c c' => ?_, fun w i s c => ?_⟩
  · have hstore := reflects_foldl calls
    have hleaves := hkeeps.leaves calls w
    rw [hempty] at hleaves
    refine ⟨_, hleaves, fun i s => ?_, fun i s => ?_, fun i s rules => ?_,
      fun i s granted hgranted => ?_, hstore.otherRole, hstore.otherBinding⟩
    · rw [hstore.role, Option.isSome_map, isSome_standing_iff]
    · rw [hstore.binding, Option.isSome_map, isSome_standing_iff]
    · simp only [hstore.role, Option.map_eq_some_iff, standing_eq_some_iff]
    · rw [hstore.binding, Option.map_eq_some_iff] at hgranted
      obtain ⟨c, -, hc⟩ := hgranted
      exact hc.symm
  · have hswap := hkeeps.leaves [y, x] w
    simp only [List.foldl_cons, List.foldl_nil, ← apply_comm (view w) hpair] at hswap
    exact ⟨_, hkeeps.leaves [x, y] w, hswap⟩
  · have hagain := hkeeps.leaves [.grant i s c, .grant i s c'] w
    simp only [List.foldl_cons, List.foldl_nil, apply_grant_grant] at hagain
    exact ⟨_, hkeeps.leaves [.grant i s c] w, hagain⟩
  · have hundone := hkeeps.leaves [.grant i s c, .revoke i s] w
    simp only [List.foldl_cons, List.foldl_nil, apply_revoke_grant] at hundone
    exact ⟨_, hkeeps.leaves [.revoke i s] w, hundone, apply_revoke_eq_self_iff (view w) i s⟩

/-- Reading experiments. -/
def readers : Capability := .ofPreset .read [.experiments]

/-- Anything with experiments. -/
def managers : Capability := .ofPreset .manage [.experiments]

/-- Two identities: one is granted something twice, the other loses what it was granted. -/
def twoIdentities : List GrantCall :=
  [.grant "alice" "team-a" readers, .grant "bob" "team-a" managers,
    .grant "alice" "team-a" managers, .revoke "bob" "team-a"]

/-- The first grant of the one stands, and nothing is left of the other. -/
theorem store_of_twoIdentities :
    KeepsGrants Probe.access (World.answerWith toString) World.grants ∧
    ∃ store, Leaves Probe.access (World.answerWith toString) World.grants twoIdentities
      (.fresh trackingGroup 0 true) store ∧
      store.role ("team-a", "alice-role") = some readers.grantedRules ∧
      (store.role ("team-a", "bob-role")).isSome = false := by
  have hkeeps := keepsGrants_answerWith toString
  obtain ⟨store, hleaves, hexists, -, hrules, -⟩ :=
    (store_of_runCalls hkeeps).1 twoIdentities (.fresh trackingGroup 0 true) rfl
  have hstands : StandsFor twoIdentities "alice" "team-a" readers :=
    ⟨[], _, rfl, by decide, fun _ h => nomatch h⟩
  refine ⟨hkeeps, store, hleaves, (hrules "alice" "team-a" _).mpr ⟨readers, hstands, rfl⟩, ?_⟩
  rw [Bool.eq_false_iff]
  intro hbob
  obtain ⟨c, hc⟩ := (hexists "bob" "team-a").mp hbob
  have hlast : lastFor twoIdentities "bob" "team-a" = some (.revoke "bob" "team-a") := by decide
  rw [hlast] at hc
  cases hc

/-- **A grant that is repeated and then revoked** does not restore the store that held it. -/
theorem regranted_then_revoked : ∃ w₁ w₂,
    (runCalls Probe.access [.grant "alice" "team-a" readers]).exec (World.answerWith toString)
      (.fresh trackingGroup 0 true) = (.ok [[]], w₁) ∧
    (runCalls Probe.access [.grant "alice" "team-a" readers, .revoke "alice" "team-a"]).exec
      (World.answerWith toString) w₁ = (.ok [[], []], w₂) ∧
    w₂.grants ≠ w₁.grants := by
  have hkeeps := keepsGrants_answerWith toString
  obtain ⟨w₁, hgrant, hview₁⟩ :=
    hkeeps.exec_runCalls [.grant "alice" "team-a" readers] (.fresh trackingGroup 0 true)
  obtain ⟨w₂, hundo, hview₂⟩ :=
    hkeeps.exec_runCalls [.grant "alice" "team-a" readers, .revoke "alice" "team-a"] w₁
  refine ⟨w₁, w₂, hgrant, hundo, fun hsame => ?_⟩
  have hheld : w₁.grants.role ("team-a", "alice-role") = some readers.grantedRules := by
    rw [hview₁]
    exact (reflects_foldl [.grant "alice" "team-a" readers]).role "alice" "team-a"
  have hgone : w₂.grants.role ("team-a", "alice-role") = none := by
    rw [hview₂, List.foldl_cons, List.foldl_cons, List.foldl_nil, GrantCall.role_apply]
    have hkey : (GrantCall.revoke "alice" "team-a").roleKey = ("team-a", "alice-role") := rfl
    rw [hkey, Function.update_self]
    rfl
  rw [hsame, hheld] at hgone
  cases hgone

end GrantProbe
