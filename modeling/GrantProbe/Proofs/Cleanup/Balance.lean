import GrantProbe.Proofs.Provisioning
import GrantProbe.Proofs.World.Exact

/-!
# The balance of identities

An identity that is created is deleted again or handed out. Counting creations and deletions in what
a run asks gives a balance, and establishing an identity keeps it, but for one way to end:
abnormally, after the creation. Nobody knows of the identity then.

* `Deletion`, `creations`, `deletions`: what is counted; `Balance`: the balance of a part of a run;
* `Ask.IsNeutral`: a request that does not count;
* `trace_retire`, `deletions_retire`: retiring counts once for each deletion;
* `Setting.Abandons`: establishing an identity loses it; `balance_establish`, `loss_establish`: what
  it does to the balance in either case.
-/

namespace GrantProbe

open Program (Handler)

/-! ## What is counted -/

/-- **The deletions** that retire an identity. -/
inductive Deletion where
  | binding | role | account
  deriving DecidableEq, Repr

/-- A request is this deletion, for an identity of this name and scope. -/
def Deletion.isCall (k : Deletion) (name scope : String) : Ask → Bool
  | .access (.deleteBinding s b) => k == .binding && (s == scope && b == bindingName name)
  | .access (.deleteRole s r) => k == .role && (s == scope && r == roleName name)
  | .identity (.delete n s) => k == .account && (s == scope && n == name)
  | _ => false

/-- The identity has this name and scope. -/
def Identity.isAt (i : Identity) (name scope : String) : Bool := i.scope == scope && i.name == name

/-- An exchange created an identity of this name and scope. -/
def isCreation (name scope : String) : Exchange probe → Bool
  | ⟨.identity (.create _ _), .ok i⟩ => i.isAt name scope
  | _ => false

/-- **The identities of this name and scope** that a dialogue created. -/
def creations (name scope : String) (D : List (Exchange probe)) : Nat :=
  D.countP (isCreation name scope)

/-- **The deletions of a kind** that a dialogue asked for. -/
def deletions (k : Deletion) (name scope : String) (D : List (Exchange probe)) : Nat :=
  D.countP fun x => k.isCall name scope x.request

/-- The identities that a case holds. -/
def CaseState.held (s : CaseState) (name scope : String) : Nat :=
  s.identities.countP (·.isAt name scope)

/-- **The balance of a part of a run:** what is created is deleted or held, but for `lost`. -/
def Balance (k : Deletion) (name scope : String) (D : List (Exchange probe)) (s s' : CaseState)
    (lost : Nat) : Prop :=
  creations name scope D + s.held name scope =
    deletions k name scope D + s'.held name scope + lost

section
variable {k : Deletion} {name scope : String} {D D' : List (Exchange probe)} {s s' s'' : CaseState}

theorem creations_append :
    creations name scope (D ++ D') = creations name scope D + creations name scope D' :=
  List.countP_append

theorem deletions_append :
    deletions k name scope (D ++ D') = deletions k name scope D + deletions k name scope D' :=
  List.countP_append

/-- Deletions can be counted in the requests alone. -/
theorem deletions_eq_countP :
    deletions k name scope D = (D.map Exchange.request).countP (k.isCall name scope) := by
  rw [List.countP_map]
  rfl

theorem Balance.append {m n : Nat} (h : Balance k name scope D s s' m)
    (h' : Balance k name scope D' s' s'' n) : Balance k name scope (D ++ D') s s'' (m + n) := by
  unfold Balance at h h' ⊢
  rw [creations_append, deletions_append]
  omega

end

theorem ite_eq_toNat (b : Bool) : (if b = true then 1 else 0) = b.toNat := by cases b <;> rfl

/-! ## Requests that do not count -/

/-- A request that neither creates an identity nor takes anything away. -/
def Ask.IsNeutral : Ask → Prop
  | .identity _ | .access (.deleteRole ..) | .access (.deleteBinding ..) => False
  | _ => True

theorem isNeutral_authorization {r : Ask} (h : r.IsGrant ∨ r.IsPoll) : r.IsNeutral := by
  rcases h with h | h <;> cases h <;> trivial

section
variable {name scope : String} {D : List (Exchange probe)}

theorem creations_eq_zero (h : ∀ x ∈ D, isCreation name scope x = false) :
    creations name scope D = 0 := List.countP_eq_zero.mpr fun x hx => by simp [h x hx]

theorem deletions_eq_zero {k : Deletion} (h : ∀ x ∈ D, k.isCall name scope x.request = false) :
    deletions k name scope D = 0 := List.countP_eq_zero.mpr fun x hx => by simp [h x hx]

theorem isCreation_eq_false {x : Exchange probe} (h : ∀ n s, x.request ≠ .identity (.create n s)) :
    isCreation name scope x = false := by
  rcases x with ⟨r, a⟩
  unfold isCreation
  split
  · rename_i heq
    cases heq
    exact absurd rfl (h _ _)
  · rfl

theorem Ask.IsNeutral.isCall_eq_false {r : Ask} (h : r.IsNeutral) (k : Deletion) :
    k.isCall name scope r = false := by
  unfold Deletion.isCall
  split
  · exact absurd h id
  · exact absurd h id
  · exact absurd h id
  · rfl

theorem Ask.IsNeutral.isCreation_eq_false {x : Exchange probe} (h : x.request.IsNeutral) :
    isCreation name scope x = false := by
  refine GrantProbe.isCreation_eq_false fun n s hx => ?_
  rw [hx] at h
  exact h

end

/-! ## Retiring -/

theorem roleName_injective {a b : String} (h : roleName a = roleName b) : a = b :=
  String.append_left_inj _ |>.mp h

theorem bindingName_injective {a b : String} (h : bindingName a = bindingName b) : a = b :=
  String.append_left_inj _ |>.mp h

/-- The deletions that retire an identity, in their order. -/
def Identity.withdrawals (i : Identity) : List Ask :=
  [.access (.deleteBinding i.scope (bindingName i.name)),
    .access (.deleteRole i.scope (roleName i.name)), .identity (.delete i.name i.scope)]

/-- **Retiring an identity** counts once for each deletion. -/
theorem countP_withdrawals (i : Identity) (k : Deletion) (name scope : String) :
    i.withdrawals.countP (k.isCall name scope) = (i.isAt name scope).toNat := by
  have hrole : (roleName i.name == roleName name) = (i.name == name) := by
    rw [Bool.eq_iff_iff, beq_iff_eq, beq_iff_eq]
    exact ⟨roleName_injective, fun h => h ▸ rfl⟩
  have hbinding : (bindingName i.name == bindingName name) = (i.name == name) := by
    rw [Bool.eq_iff_iff, beq_iff_eq, beq_iff_eq]
    exact ⟨bindingName_injective, fun h => h ▸ rfl⟩
  have honce (b : Bool) : 0 + (if (k == .account && b) = true then 1 else 0) +
      (if (k == .role && b) = true then 1 else 0) +
      (if (k == .binding && b) = true then 1 else 0) = b.toNat := by
    cases k <;> cases b <;> rfl
  unfold Identity.withdrawals Identity.isAt
  simp only [List.countP_cons, List.countP_nil, Deletion.isCall, hrole, hbinding]
  exact honce _

section
variable {σ : Type} {h : Handler probe σ} {w w' : σ}

theorem trace_reportFailure (what : String) (t : Probe Unit) :
    (reportFailure what t).trace h w = t.trace h w := by
  unfold reportFailure
  rw [Task.trace_bind, Task.trace_attempt]
  rcases t.attempt.exec h w with ⟨e | (_ | _), v⟩ <;> exact List.append_nil _

theorem exec_reportFailure_ne_error (what : String) (t : Probe Unit) (e : Error) :
    (reportFailure what t).exec h w ≠ (.error (.error e), w') := by
  unfold reportFailure
  rw [Task.exec_bind, Task.exec_attempt]
  rcases t.exec h w with ⟨(e | p) | _, v⟩ <;> simp

theorem trace_revoke {name scope : String} {failures : List String}
    (hok : (revoke Probe.access name scope).exec h w = (.ok failures, w')) :
    (revoke Probe.access name scope).trace h w =
      [.access (.deleteBinding scope (bindingName name)),
        .access (.deleteRole scope (roleName name))] := by
  unfold revoke at hok ⊢
  obtain ⟨first, w₁, hfirst, hok⟩ := Task.exec_bind_eq_ok hok
  obtain ⟨second, w₂, hsecond, -⟩ := Task.exec_bind_eq_ok hok
  have hruns₁ := Task.Runs.mk hfirst (trace_reportFailure ..)
  have hruns₂ := Task.Runs.mk hsecond (trace_reportFailure ..)
  have hruns : (revoke Probe.access name scope).Runs h w _ (.ok (first ++ second)) w₂ :=
    hruns₁.bind_ok (hruns₂.bind_ok (Task.runs_pure _))
  exact hruns.trace

theorem exec_revoke_ne_error {name scope : String} (e : Error) :
    (revoke Probe.access name scope).exec h w ≠ (.error (.error e), w') := by
  unfold revoke
  rw [Task.exec_bind]
  split
  · rw [Task.exec_bind]
    split
    · simp
    · rename_i hsecond
      rintro ⟨⟩
      exact exec_reportFailure_ne_error _ _ e hsecond
  · rename_i hfirst
    rintro ⟨⟩
    exact exec_reportFailure_ne_error _ _ e hfirst

/-- **A retirement whose revocation ends** asks for all three deletions. -/
theorem trace_retire {i : Identity} {failures : List String}
    (hok : (revoke Probe.access i.name i.scope).exec h w = (.ok failures, w')) :
    (Setting.retire i).trace h w = i.withdrawals := by
  unfold Setting.retire
  rw [Task.trace_bind, hok, trace_revoke hok]
  simp only [Task.trace_bind, trace_reportFailure]
  rcases (reportFailure ("delete serviceaccount " ++ i.scope ++ "/" ++ i.name)
    (Probe.identity (.delete i.name i.scope))).exec h w' with ⟨e | account, v⟩ <;> rfl

theorem deletions_retire {i : Identity} {failures : List String}
    (hok : (revoke Probe.access i.name i.scope).exec h w = (.ok failures, w')) (k : Deletion)
    (name scope : String) :
    deletions k name scope ((Setting.retire i).dialogue h w) = (i.isAt name scope).toNat := by
  rw [deletions_eq_countP, Task.map_request_dialogue, trace_retire hok, countP_withdrawals]

end

/-! ## Establishing -/

section
variable {σ : Type}

/-- **Enrolling an identity abandons it:** its authorization ends abnormally, or fails and so does
the revocation, abnormally. -/
def Setting.AbandonsEnrolled (s : Setting) (h : Handler probe σ) (i : Identity) (c : Capability)
    (w : σ) : Prop :=
  (∃ x v, (s.authorize i c).exec h w = (.error (.panic x), v)) ∨
    ∃ e v x v', (s.authorize i c).exec h w = (.error (.error e), v) ∧
      (revoke Probe.access i.name i.scope).exec h v = (.error (.panic x), v')

/-- The name that the next identity asks for. -/
abbrev Setting.drawnName (s : Setting) (h : Handler probe σ) (w : σ) : String :=
  s.namePrefix ++ "-" ++ (h .suffix w).1

/-- **Establishing an identity abandons it** once it has been created. -/
def Setting.Abandons (s : Setting) (h : Handler probe σ) (scope : String) (c : Capability) (w : σ) :
    Prop :=
  ∃ i v, h (.identity (.create (s.drawnName h w) scope)) (h .suffix w).2 = (.ok i, v) ∧
    s.AbandonsEnrolled h i c v

variable {s : Setting} {h : Handler probe σ} {i : Identity} {c : Capability} {w : σ}

theorem creations_enrol (name scope : String) :
    creations name scope ((s.enrol i c).dialogue h w) = 0 := by
  have hasks : (s.enrol i c).Asks fun r : Ask => ∀ n s, r ≠ .identity (.create n s) := by
    have hauth := (asks_authorize s i c).mono fun r (hr : r.IsGrant ∨ r.IsPoll) =>
      show ∀ n s, r ≠ .identity (.create n s) by rcases hr with hr | hr <;> cases hr <;> simp
    have hretire := (asks_retire i).mono fun r (hr : r.IsWithdrawal) =>
      show ∀ n s, r ≠ .identity (.create n s) by cases hr <;> simp
    refine hauth.attempt.bind fun r => ?_
    rcases r with e | _
    · exact hretire.bind fun _ => Task.asks_stop _
    · exact Task.asks_pure _
  exact creations_eq_zero fun x hx => isCreation_eq_false (hasks.of_mem_dialogue hx)

theorem deletions_authorize (k : Deletion) (name scope : String) :
    deletions k name scope ((s.authorize i c).dialogue h w) = 0 :=
  deletions_eq_zero fun _ hx =>
    (isNeutral_authorization ((asks_authorize s i c).of_mem_dialogue hx)).isCall_eq_false k

/-- **An identity that is not abandoned** is handed out, or its three deletions are asked for. -/
theorem enrol_kept (hno : ¬s.AbandonsEnrolled h i c w) :
    (∃ v, (s.enrol i c).exec h w = (.ok i, v) ∧
      ∀ k name scope, deletions k name scope ((s.enrol i c).dialogue h w) = 0) ∨
    (∃ e v, (s.enrol i c).exec h w = (.error e, v) ∧
      ∀ k name scope, deletions k name scope ((s.enrol i c).dialogue h w) =
        (i.isAt name scope).toNat) := by
  unfold Setting.enrol
  rcases hauth : (s.authorize i c).exec h w with ⟨(e | x) | _, v⟩
  · -- The authorization failed, and the revocation that follows comes to an end.
    right
    have hcaught := Task.exec_attempt_error hauth
    have hrevoke : ∃ failures v', (revoke Probe.access i.name i.scope).exec h v =
        (.ok failures, v') := by
      rcases hr : (revoke Probe.access i.name i.scope).exec h v with ⟨(e' | x) | failures, v'⟩
      · exact absurd hr (exec_revoke_ne_error e')
      · exact absurd (Or.inr ⟨e, v, x, v', hauth, hr⟩) hno
      · exact ⟨failures, v', rfl⟩
    obtain ⟨failures, v', hrevoke⟩ := hrevoke
    rw [Task.exec_bind_ok hcaught, Task.dialogue_bind_ok hcaught, Task.dialogue_attempt]
    rcases hr : (Setting.retire i).exec h v with ⟨e' | failures, v''⟩
    · refine ⟨e', v'', Task.exec_bind_error hr _, fun k name scope => ?_⟩
      rw [Task.dialogue_bind_error hr, deletions_append, deletions_authorize,
        deletions_retire hrevoke, Nat.zero_add]
    · refine ⟨_, v'', Task.exec_bind_ok hr _, fun k name scope => ?_⟩
      rw [Task.dialogue_bind_ok hr, deletions_append, deletions_append, deletions_authorize,
        deletions_retire hrevoke, Nat.zero_add]
      rfl
  · exact absurd (Or.inl ⟨x, v, hauth⟩) hno
  · left
    have hcaught := Task.exec_attempt_ok hauth
    rw [Task.exec_bind_ok hcaught, Task.dialogue_bind_ok hcaught, Task.dialogue_attempt]
    refine ⟨v, rfl, fun k name scope => ?_⟩
    rw [deletions_append, deletions_authorize]
    rfl

/-- **An identity that is abandoned** is handed to nobody, and its account is not deleted. -/
theorem enrol_abandoned (hyes : s.AbandonsEnrolled h i c w) :
    ∃ x v, (s.enrol i c).exec h w = (.error (.panic x), v) ∧
      deletions .account i.name i.scope ((s.enrol i c).dialogue h w) = 0 := by
  unfold Setting.enrol
  rcases hyes with ⟨x, v, hauth⟩ | ⟨e, v, x, v', hauth, hrevoke⟩
  · have hcaught := Task.exec_attempt_panic hauth
    refine ⟨x, v, Task.exec_bind_error hcaught _, ?_⟩
    rw [Task.dialogue_bind_error hcaught, Task.dialogue_attempt, deletions_authorize]
  · have hcaught := Task.exec_attempt_error hauth
    have hretire : (Setting.retire i).exec h v = (.error (.panic x), v') :=
      Task.exec_bind_error hrevoke _
    refine ⟨x, v', ?_, ?_⟩
    · rw [Task.exec_bind_ok hcaught]
      exact Task.exec_bind_error hretire _
    · have haccess : (revoke Probe.access i.name i.scope).Asks fun r : Ask =>
          Deletion.isCall .account i.name i.scope r = false := asks_revoke rfl rfl
      rw [Task.dialogue_bind_ok hcaught, Task.dialogue_attempt, deletions_append,
        deletions_authorize, Task.dialogue_bind_error hretire, Setting.retire,
        Task.dialogue_bind_error hrevoke, Nat.zero_add]
      exact deletions_eq_zero fun x hx => haccess.of_mem_dialogue hx

theorem dialogue_identity (call : IdentityCall) (v : σ) : (Probe.identity call).dialogue h v =
    [⟨.identity call, (h (.identity call) v).1⟩] := rfl

theorem establish_created {scope : String} {v : σ}
    (hi : h (.identity (.create (s.drawnName h w) scope)) (h .suffix w).2 = (.ok i, v)) :
    (s.establish scope c).exec h w = (s.enrol i c).exec h v ∧
      (s.establish scope c).dialogue h w = [⟨.suffix, (h .suffix w).1⟩,
        ⟨.identity (.create (s.drawnName h w) scope), .ok i⟩] ++ (s.enrol i c).dialogue h v := by
  have hcreate : (Probe.identity (.create (s.drawnName h w) scope)).exec h (h .suffix w).2 =
      (.ok i, v) := hi
  rw [s.establish_eq]
  constructor
  · rw [Task.exec_bind_ok (exec_suffix h w), Task.exec_bind_ok hcreate]
  · rw [Task.dialogue_bind_ok (exec_suffix h w), Task.dialogue_bind_ok hcreate, dialogue_identity,
      hi]
    rfl

theorem establish_not_created {scope : String} {e : Stop} {v : σ}
    (hi : h (.identity (.create (s.drawnName h w) scope)) (h .suffix w).2 = (.error e, v)) :
    (s.establish scope c).exec h w = (.error e, v) ∧
      (s.establish scope c).dialogue h w = [⟨.suffix, (h .suffix w).1⟩,
        ⟨.identity (.create (s.drawnName h w) scope), .error e⟩] := by
  have hcreate : (Probe.identity (.create (s.drawnName h w) scope)).exec h (h .suffix w).2 =
      (.error e, v) := hi
  rw [s.establish_eq]
  constructor
  · rw [Task.exec_bind_ok (exec_suffix h w), Task.exec_bind_error hcreate]
  · rw [Task.dialogue_bind_ok (exec_suffix h w), Task.dialogue_bind_error hcreate,
      dialogue_identity, hi]
    rfl

/-- What an outcome hands out. -/
def handedOut (o : Outcome Identity) (name scope : String) : Nat :=
  match o with
  | .ok i => (i.isAt name scope).toNat
  | .error _ => 0

/-- **Establishing an identity** that is not abandoned keeps the balance. -/
theorem balance_establish {scope : String} (hno : ¬s.Abandons h scope c w) (k : Deletion)
    (name place : String) :
    creations name place ((s.establish scope c).dialogue h w) =
      deletions k name place ((s.establish scope c).dialogue h w) +
        handedOut ((s.establish scope c).exec h w).1 name place := by
  rcases hi : h (.identity (.create (s.drawnName h w) scope)) (h .suffix w).2 with ⟨e | i, v⟩
  · obtain ⟨hexec, hdialogue⟩ := establish_not_created (c := c) hi
    rw [hexec, hdialogue]
    rfl
  · obtain ⟨hexec, hdialogue⟩ := establish_created (c := c) hi
    have hcreated : creations name place [⟨.suffix, (h .suffix w).1⟩,
        ⟨.identity (.create (s.drawnName h w) scope), .ok i⟩] = (i.isAt name place).toNat := by
      simp only [creations, List.countP_cons, List.countP_nil, isCreation, Nat.zero_add]
      exact ite_eq_toNat _
    have hdeleted : deletions k name place [⟨.suffix, (h .suffix w).1⟩,
        ⟨.identity (.create (s.drawnName h w) scope), .ok i⟩] = 0 := rfl
    rw [hexec, hdialogue, creations_append, deletions_append, hcreated, hdeleted, creations_enrol,
      Nat.add_zero, Nat.zero_add]
    rcases enrol_kept fun hyes => hno ⟨i, v, hi, hyes⟩ with ⟨v', hok, hnone⟩ | ⟨e, v', herr, hall⟩
    · rw [hok, hnone, Nat.zero_add]
      rfl
    · rw [herr, hall]
      rfl

/-- **Abandoning an identity** ends abnormally, with one creation more than deletions of accounts.
-/
theorem loss_establish {scope : String} (hyes : s.Abandons h scope c w) :
    ∃ name place x v, (s.establish scope c).exec h w = (.error (.panic x), v) ∧
      creations name place ((s.establish scope c).dialogue h w) =
        deletions .account name place ((s.establish scope c).dialogue h w) + 1 := by
  obtain ⟨i, v, hi, hyes⟩ := hyes
  obtain ⟨hexec, hdialogue⟩ := establish_created (c := c) hi
  obtain ⟨x, v', hpanic, hnone⟩ := enrol_abandoned hyes
  refine ⟨i.name, i.scope, x, v', hexec.trans hpanic, ?_⟩
  rw [hdialogue, creations_append, deletions_append, creations_enrol, hnone]
  change List.countP _ _ + 0 = 0 + 0 + 1
  simp [isCreation, Identity.isAt]

end

end GrantProbe
