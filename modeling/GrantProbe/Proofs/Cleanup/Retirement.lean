import GrantProbe.Proofs.Cleanup.Calm
import GrantProbe.Proofs.Cleanup.Tidy
import GrantProbe.Proofs.Verification.Answers

/-!
# Every identity is retired once

The identities that a case creates are held until its teardown retires them. Every part of a case
keeps the balance of identities, so in the end as many are retired as were created, unless the case
abandons one while establishing it.

* `Balances`, `Loses`: what a task of a case does to the balance, with `Balances.bind`;
* `CaseTask.Discreet`: a task that has nothing to do with identities; `Tidy.discreet`;
* `balances_establishIdentity`, `loses_establishIdentity`: establishing an identity;
* `AbandonsIdentity`: a case abandons an identity; `balances_runSteps`, `loses_runSteps`;
* `balances_teardown`: a teardown retires whoever is held; `lost_of_steps`: a whole case;
* `retired_once_iff`: the identities of a case are retired once, exactly unless it abandons one;
  `not_abandonsIdentity`: it abandons none while nothing ends abnormally.
-/

namespace GrantProbe

open Program (Handler)
open CaseTask (exec dialogue Keeps)

/-! ## Tasks of a case -/

section
variable {σ α β : Type}

/-- **A run of a task keeps every balance.** -/
def Balances (h : Handler probe σ) (t : CaseTask α) (p : Point σ) : Prop :=
  ∀ k name scope, Balance k name scope (dialogue h t p) p.state (exec h t p).2.state 0

/-- **A run of a task loses an identity:** an account that it has created is neither deleted nor
held. -/
def Loses (h : Handler probe σ) (t : CaseTask α) (p : Point σ) : Prop :=
  ∃ name scope, Balance .account name scope (dialogue h t p) p.state (exec h t p).2.state 1

variable {h : Handler probe σ} {p : Point σ} {t : CaseTask α} {k : α → CaseTask β}

theorem Balances.bind (ht : Balances h t p)
    (hk : ∀ a q, exec h t p = (.ok a, q) → Balances h (k a) q) : Balances h (t >>= k) p := by
  intro d name scope
  have hfirst := ht d name scope
  rcases hr : exec h t p with ⟨e | a, q⟩ <;> rw [hr] at hfirst
  · rw [CaseTask.dialogue_bind_error hr, CaseTask.exec_bind_error hr]
    exact hfirst
  · rw [CaseTask.dialogue_bind_ok hr, CaseTask.exec_bind_ok hr]
    exact hfirst.append (hk a q hr d name scope)

theorem Loses.bind_error {e : Stop} {q : Point σ} (ht : Loses h t p)
    (hr : exec h t p = (.error e, q)) : Loses h (t >>= k) p := by
  obtain ⟨name, scope, hloss⟩ := ht
  refine ⟨name, scope, ?_⟩
  rw [CaseTask.dialogue_bind_error hr, CaseTask.exec_bind_error hr]
  rw [hr] at hloss
  exact hloss

theorem Balances.bind_loses {a : α} {q : Point σ} (ht : Balances h t p)
    (hr : exec h t p = (.ok a, q)) (hk : Loses h (k a) q) : Loses h (t >>= k) p := by
  obtain ⟨name, scope, hloss⟩ := hk
  refine ⟨name, scope, ?_⟩
  have hfirst := ht .account name scope
  rw [hr] at hfirst
  rw [CaseTask.dialogue_bind_ok hr, CaseTask.exec_bind_ok hr]
  exact hfirst.append hloss

end

namespace CaseTask

/-- **A task that has nothing to do with identities:** it neither creates one nor takes anything
away, and keeps those that are held. -/
structure Discreet {α : Type} (t : CaseTask α) : Prop where
  asks : t.Asks Ask.IsNeutral
  keeps : Keeps CaseState.identities t

variable {σ α β : Type} {t : CaseTask α}

theorem Discreet.balances (ht : Discreet t) (h : Handler probe σ) (p : Point σ) :
    Balances h t p := by
  intro k name scope
  have hneutral : ∀ x ∈ dialogue h t p, x.request.IsNeutral := fun x hx =>
    ht.asks.of_mem_dialogue hx
  have hcreated : creations name scope (dialogue h t p) = 0 :=
    creations_eq_zero fun x hx => (hneutral x hx).isCreation_eq_false
  have hdeleted : deletions k name scope (dialogue h t p) = 0 :=
    deletions_eq_zero fun x hx => (hneutral x hx).isCall_eq_false k
  unfold Balance CaseState.held
  rw [hcreated, hdeleted, ht.keeps h p, Nat.add_zero]

theorem discreet_pure (a : α) : Discreet (pure a) := ⟨asks_pure a, keeps_pure a⟩

theorem discreet_check (r : Except Error α) : Discreet (check r) := ⟨asks_check r, keeps_check r⟩

theorem discreet_get : Discreet get := ⟨asks_get, keeps_get⟩

theorem discreet_modify {f : CaseState → CaseState} (hf : ∀ s, (f s).identities = s.identities) :
    Discreet (modify f) := ⟨asks_modify f, keeps_modify hf⟩

theorem discreet_lift {t : Probe α} (ht : t.Asks Ask.IsNeutral) : Discreet (lift t) :=
  ⟨asks_lift ht, keeps_lift t⟩

theorem Discreet.bind {k : α → CaseTask β} (ht : Discreet t) (hk : ∀ a, Discreet (k a)) :
    Discreet (t >>= k) := ⟨ht.asks.bind fun a => (hk a).asks, ht.keeps.bind fun a => (hk a).keeps⟩

theorem Discreet.attempt (ht : Discreet t) : Discreet t.attempt :=
  ⟨ht.asks.attempt, ht.keeps.attempt⟩

theorem isNeutral_of_isPlain {r : Ask} (h : r.IsPlain) : r.IsNeutral := by cases h <;> trivial

theorem Plain.discreet (ht : Plain t) : Discreet t :=
  ⟨ht.asks.mono fun _ => isNeutral_of_isPlain,
    fun _ h p => identities_eq_of_holdings (ht.keeps h p)⟩

theorem discreet_callAsActive (call : TrackingCall) : Discreet (Action.callAsActive call) :=
  discreet_get.bind fun s => (discreet_check s.activeClient).bind fun _ =>
    discreet_lift (asks_tracking trivial)

theorem discreet_create (kind : Cleanable) (arg : String) : Discreet (kind.create arg) := by
  cases kind <;> exact discreet_callAsActive _

theorem discreet_remove (kind : Cleanable) (id : String) : Discreet (kind.remove id) := by
  cases kind <;> exact discreet_callAsActive _

theorem identities_withRegistry (s : CaseState) (kind : Cleanable) (m : SortedMap String) :
    (s.withRegistry kind m).identities = s.identities := by
  cases kind <;> rfl

theorem discreet_registerHere (kind : Cleanable) (id : String) :
    Discreet (Action.registerHere kind id) := by
  refine ⟨asks_get.bind fun s => (asks_check _).bind fun s' => asks_set s', fun σ h p => ?_⟩
  unfold Action.registerHere CaseState.register
  rw [exec_bind_ok (exec_get h p)]
  split_ifs
  · rfl
  · rfl
  · rw [exec_bind_ok (exec_check_ok ..)]
    exact identities_withRegistry ..

theorem Tidy.discreet {t : CaseTask Unit} (ht : Tidy t) : Discreet t := by
  induction ht with
  | plain ht => exact ht.discreet
  | after ht _ ih => exact ht.discreet.bind ih
  | create kind arg hf =>
    refine (discreet_create kind arg).bind fun id => (discreet_registerHere kind id).bind fun _ => ?_
    exact discreet_modify fun s => identities_eq_of_holdings (hf id s)
  | delete kind id hf =>
    refine (discreet_remove kind id).bind fun _ => discreet_modify fun s => ?_
    exact (identities_eq_of_holdings (hf _)).trans (identities_withRegistry ..)

end CaseTask

open CaseTask

/-! ## Steps -/

section
variable {σ : Type} {fx : Fixture} {h : Handler probe σ} {p : Point σ}

theorem discreet_rebind : Discreet rebind :=
  ⟨asks_rebind fun _ => trivial, fun σ h p => by rw [exec_rebind]⟩

theorem discreet_useScope (ref : ScopeRef) : Discreet (useScope fx ref) :=
  (discreet_check _).bind fun scope =>
    Discreet.bind (discreet_modify (by intro s; rfl)) fun _ => discreet_rebind

/-- **Establishing an identity** that is not abandoned: it is held from then on. -/
theorem balances_establishIdentity {spec : IdentitySpec}
    (hno : ∀ scope, resolveScope fx.setting.scopes spec.scope = .ok scope →
      ¬fx.setting.Abandons h scope spec.capability p.world) :
    Balances h (establishIdentity fx spec) p := by
  unfold establishIdentity
  refine ((discreet_check _).balances h p).bind fun scope q hq => ?_
  obtain ⟨hscope, rfl⟩ : resolveScope fx.setting.scopes spec.scope = .ok scope ∧ p = q := by
    cases hs : resolveScope fx.setting.scopes spec.scope <;> simp_all
  intro k name place
  have hkept := balance_establish (hno scope hscope) k name place
  rcases hr : (fx.setting.establish scope spec.capability).exec h p.world with ⟨e | i, v⟩
  · rw [dialogue_bind_error (exec_lift_error hr), exec_bind_error (exec_lift_error hr),
      dialogue_lift]
    rw [hr] at hkept
    unfold Balance
    rw [hkept]
    rfl
  · rw [dialogue_bind_ok (exec_lift_ok hr), exec_bind_ok (exec_lift_ok hr), dialogue_lift,
      dialogue_bind_ok (exec_modify ..), exec_bind_ok (exec_modify ..), dialogue_modify,
      List.nil_append]
    refine Balance.append ?_ (discreet_rebind.balances h _ k name place)
    rw [hr] at hkept
    have hout : handedOut (.ok i : Outcome Identity) name place = (i.isAt name place).toNat := rfl
    unfold Balance CaseState.held
    rw [hkept, hout, List.countP_append, List.countP_singleton, ite_eq_toNat]
    simp only
    omega

/-- **Abandoning an identity** loses it, and ends the task. -/
theorem loses_establishIdentity {spec : IdentitySpec} {scope : String}
    (hscope : resolveScope fx.setting.scopes spec.scope = .ok scope)
    (hyes : fx.setting.Abandons h scope spec.capability p.world) :
    (∃ e q, exec h (establishIdentity fx spec) p = (.error e, q)) ∧
      Loses h (establishIdentity fx spec) p := by
  obtain ⟨name, place, x, v, hr, hlost⟩ := loss_establish hyes
  have hpanic : exec h (lift (fx.setting.establish scope spec.capability)) p =
      (.error (.panic x), { p with world := v }) := exec_lift_error hr
  unfold establishIdentity
  rw [hscope]
  refine ⟨⟨.panic x, { p with world := v }, ?_⟩, name, place, ?_⟩
  · rw [exec_bind_ok (exec_check_ok ..), exec_bind_error hpanic]
  · rw [dialogue_bind_ok (exec_check_ok ..), exec_bind_ok (exec_check_ok ..),
      dialogue_bind_error hpanic, exec_bind_error hpanic, dialogue_check, dialogue_lift,
      List.nil_append]
    unfold Balance
    rw [hlost]
    exact Nat.add_right_comm ..

/-- **A step abandons an identity** while establishing it. -/
def Step.Abandons (fx : Fixture) (h : Handler probe σ) (step : Step) (p : Point σ) : Prop :=
  ∃ spec scope, step.identity = some spec ∧ resolveScope fx.setting.scopes spec.scope = .ok scope ∧
    fx.setting.Abandons h scope spec.capability p.world

/-- **Steps abandon an identity:** the first of them does, or it passes and the others do. -/
def AbandonsIdentity (fx : Fixture) (h : Handler probe σ) : List Step → Point σ → Prop
  | [], _ => False
  | step :: rest, p => step.Abandons fx h p ∨
    ∃ report q, exec h (runStep fx step) p = (.ok report, q) ∧ AbandonsIdentity fx h rest q

/-- **The action and the check of a step** have nothing to do with identities. -/
structure Step.IsDiscreet (fx : Fixture) (step : Step) : Prop where
  action : ∀ a, step.action = some a → Discreet (a.run fx)
  check : ∀ c, step.check = some c → ∀ s, (c.test fx s).Asks Ask.IsNeutral

theorem isDiscreet_of_mem {step : Step} (haction : ∀ a, step.action = some a → a ∈ allActions)
    (hcheck : ∀ c, step.check = some c → c ∈ allChecks) : step.IsDiscreet fx :=
  ⟨fun a ha => (tidy_of_mem (haction a ha) fx).discreet,
    fun c hc s => (asks_of_mem (hcheck c hc) fx s).mono fun _ => isNeutral_of_isPlain⟩

variable {step : Step}

/-- What a step does once it is prepared. -/
def Step.proceed (fx : Fixture) (step : Step) : CaseTask StepReport := do
  let outcome ← step.act fx
  let check ← step.verify fx outcome
  let s ← get
  pure ⟨step.name, s.identityName, s.scope, outcome, check⟩

theorem runStep_eq (fx : Fixture) (step : Step) :
    runStep fx step = step.prepare fx >>= fun _ => step.proceed fx := rfl

theorem Step.IsDiscreet.act (hd : step.IsDiscreet fx) : Discreet (step.act fx) := by
  unfold Step.act
  split
  · exact discreet_pure _
  · rename_i a ha
    refine (hd.action a ha).attempt.bind fun r => ?_
    rcases r with e | _
    · exact (plain_recordFailure a.name e).discreet
    · exact (plain_recordSuccess a.name).discreet

theorem Step.IsDiscreet.verify (hd : step.IsDiscreet fx) (outcome : ActionOutcome) :
    Discreet (step.verify fx outcome) :=
  ⟨Step.asks_verify hd.check outcome, keeps_verify _ fx step outcome⟩

theorem Step.IsDiscreet.proceed (hd : step.IsDiscreet fx) : Discreet (step.proceed fx) :=
  hd.act.bind fun outcome => (hd.verify outcome).bind fun _ =>
    discreet_get.bind fun _ => discreet_pure _

theorem discreet_go : Discreet (step.go fx) := by
  unfold Step.go
  split
  · exact discreet_useScope _
  · exact discreet_pure _

theorem balances_runStep (hd : step.IsDiscreet fx) (hno : ¬step.Abandons fx h p) :
    Balances h (runStep fx step) p := by
  have hbecome : Balances h (step.become fx) p := by
    unfold Step.become
    split
    · rename_i spec hspec
      exact balances_establishIdentity fun scope hscope hyes => hno ⟨spec, scope, hspec, hscope, hyes⟩
    · exact (discreet_pure _).balances h p
  rw [runStep_eq, prepare_eq]
  refine (hbecome.bind fun _ q _ => discreet_go.balances h q).bind fun _ q _ => ?_
  exact hd.proceed.balances h q

theorem loses_runStep (hyes : step.Abandons fx h p) :
    (∃ e q, exec h (runStep fx step) p = (.error e, q)) ∧ Loses h (runStep fx step) p := by
  obtain ⟨spec, scope, hspec, hscope, hyes⟩ := hyes
  obtain ⟨⟨e, q, herr⟩, hloses⟩ := loses_establishIdentity hscope hyes
  have hbecome : step.become fx = establishIdentity fx spec := by rw [Step.become, hspec]
  rw [runStep_eq, prepare_eq, hbecome]
  exact ⟨⟨e, q, exec_bind_error (exec_bind_error herr _) _⟩,
    (hloses.bind_error herr).bind_error (exec_bind_error herr _)⟩

/-- **Steps that abandon nobody** keep the balance. The induction is on the steps. -/
theorem balances_runSteps {steps : List Step} (hd : ∀ step ∈ steps, step.IsDiscreet fx)
    (hno : ¬AbandonsIdentity fx h steps p) : Balances h (runSteps fx steps) p := by
  induction steps generalizing p with
  | nil => exact (discreet_pure _).balances h p
  | cons step rest ih =>
    have hfirst := balances_runStep (hd step List.mem_cons_self) fun hyes => hno (Or.inl hyes)
    refine hfirst.bind fun report q hq => Balances.bind ?_ fun _ r _ => (discreet_pure _).balances h r
    exact ih (fun s hs => hd s (List.mem_cons_of_mem _ hs)) fun hyes => hno (Or.inr ⟨report, q, hq, hyes⟩)

/-- **Steps that abandon somebody** lose one identity. -/
theorem loses_runSteps {steps : List Step} (hd : ∀ step ∈ steps, step.IsDiscreet fx)
    (hyes : AbandonsIdentity fx h steps p) :
    (∃ e q, exec h (runSteps fx steps) p = (.error e, q)) ∧ Loses h (runSteps fx steps) p := by
  induction steps generalizing p with
  | nil => exact absurd hyes id
  | cons step rest ih =>
    unfold runSteps
    -- Either the first step loses it, or the first step keeps the balance and a later one loses it.
    by_cases hfirst : step.Abandons fx h p
    · obtain ⟨⟨e, q, herr⟩, hloses⟩ := loses_runStep hfirst
      exact ⟨⟨e, q, exec_bind_error herr _⟩, hloses.bind_error herr⟩
    · obtain ⟨report, q, hq, hrest⟩ := hyes.resolve_left hfirst
      obtain ⟨⟨e, r, herr⟩, hloses⟩ := ih (fun s hs => hd s (List.mem_cons_of_mem _ hs)) hrest
      refine ⟨⟨e, r, ?_⟩, ?_⟩
      · rw [exec_bind_ok hq, exec_bind_error herr]
      · exact (balances_runStep (hd step List.mem_cons_self) hfirst).bind_loses hq
          (hloses.bind_error herr)

end

/-! ## Teardown -/

section
variable {σ : Type} {fx : Fixture} {h : Handler probe σ}

/-- **Retiring identities,** to the end: each is deleted once. The induction is on the identities.
-/
theorem deletions_retireAll {is : List Identity} {w v : σ} {report : CleanupReport}
    (hok : (retireAll is).exec h w = (.ok report, v)) (k : Deletion) (name scope : String) :
    deletions k name scope ((retireAll is).dialogue h w) = is.countP (·.isAt name scope) := by
  induction is generalizing w v report with
  | nil => rfl
  | cons i rest ih =>
    unfold retireAll at hok ⊢
    obtain ⟨failures, w₁, hfirst, hok⟩ := Task.exec_bind_eq_ok hok
    obtain ⟨others, w₂, hothers, -⟩ := Task.exec_bind_eq_ok hok
    obtain ⟨grants, w', hrevoke, -⟩ := Task.exec_bind_eq_ok hfirst
    have hlast (r : CleanupReport) :
        deletions k name scope ((pure r : Probe CleanupReport).dialogue h w₂) = 0 := rfl
    rw [Task.dialogue_bind_ok hfirst, Task.dialogue_bind_ok hothers, deletions_append,
      deletions_append, deletions_retire hrevoke, ih hothers, hlast, List.countP_cons, ite_eq_toNat]
    exact Nat.add_comm ..

theorem asks_removeResources {P : Ask → Prop} (hbind : ∀ client, P (.bind client))
    (hcall : ∀ client call, P (.tracking client call)) (s : Setting) (kind : Cleanable)
    (entries : List (String × String)) : (removeResources s kind entries).Asks P := by
  induction entries with
  | nil => exact Task.asks_pure _
  | cons entry rest ih =>
    have hclient : (s.adminClientFor entry.2).Asks P :=
      (asks_probeBind (hbind _)).bind fun _ => Task.asks_pure _
    have hdelete (client : Client) : (kind.delete client entry.1).Asks P := by
      cases kind <;> exact asks_tracking (hcall ..)
    have hfirst : (removeResource s kind entry.1 entry.2).Asks P := by
      refine hclient.bind fun client => (hdelete client).attempt.bind fun r => ?_
      rcases r with e | _
      · simp only
        split_ifs <;> exact Task.asks_pure _
      · exact Task.asks_pure _
    exact hfirst.bind fun _ => ih.bind fun _ => Task.asks_pure _

theorem discreet_cleanRegistry (kind : Cleanable) : Discreet (cleanRegistry fx kind) := by
  refine ⟨?_, fun σ h p => ?_⟩
  · exact asks_get.bind fun s => (asks_set _).bind fun _ =>
      asks_lift (asks_removeResources (fun _ => trivial) (fun _ _ => trivial) _ _ _)
  · unfold cleanRegistry
    rw [exec_bind_ok (exec_get h p), exec_bind_ok (exec_set ..), exec_lift]
    exact identities_withRegistry ..

/-- **The last part of a teardown,** to its end, retires whoever is held. -/
theorem balances_dismiss {earlier report : CleanupReport} {p q : Point σ}
    (hok : exec h (dismiss earlier) p = (.ok report, q)) :
    Balances h (dismiss earlier) p ∧ q.state.identities = [] := by
  unfold dismiss at hok ⊢
  rw [exec_bind_ok (exec_get h p), exec_bind_ok (exec_set ..)] at hok
  obtain ⟨retired, r, hlift, hok⟩ := exec_bind_eq_ok hok
  have hstate : r.state = { p.state with identities := [] } := by
    rw [exec_lift] at hlift
    rw [← (Prod.mk.inj hlift).2]
  have hretire : (retireAll p.state.identities).exec h p.world = (.ok retired, r.world) := by
    rw [exec_lift] at hlift
    obtain ⟨hout, rfl⟩ := Prod.mk.inj hlift
    exact Prod.ext hout rfl
  rw [exec_bind_ok (exec_modify ..), exec_pure] at hok
  obtain ⟨-, rfl⟩ := Prod.mk.inj hok
  refine ⟨fun k name scope => ?_, congrArg CaseState.identities hstate⟩
  have hcreated : creations name scope ((retireAll p.state.identities).dialogue h p.world) = 0 := by
    refine creations_eq_zero fun x hx => isCreation_eq_false fun n s hc => ?_
    have hwithdrawal := (asks_retireAll _).of_mem_dialogue hx
    rw [hc] at hwithdrawal
    cases hwithdrawal
  rw [dialogue_bind_ok (exec_get h p), exec_bind_ok (exec_get h p), dialogue_bind_ok (exec_set ..),
    exec_bind_ok (exec_set ..), dialogue_bind_ok hlift, exec_bind_ok hlift,
    dialogue_bind_ok (exec_modify ..), exec_bind_ok (exec_modify ..), dialogue_lift]
  simp only [dialogue_get, dialogue_set, dialogue_modify, dialogue_pure, exec_pure,
    List.nil_append, List.append_nil]
  unfold Balance
  rw [hcreated, deletions_retireAll hretire]
  simp [CaseState.held, hstate]

/-- **A teardown,** to its end, keeps the balance and leaves nobody held. -/
theorem balances_teardown {p q : Point σ} {report : CleanupReport}
    (hok : exec h (teardown fx) p = (.ok report, q)) :
    Balances h (teardown fx) p ∧ q.state.identities = [] := by
  rw [teardown_eq] at hok ⊢
  obtain ⟨runs, p₁, hruns, hok⟩ := exec_bind_eq_ok hok
  obtain ⟨models, p₂, hmodels, hok⟩ := exec_bind_eq_ok hok
  obtain ⟨experiments, p₃, hexperiments, hok⟩ := exec_bind_eq_ok hok
  have hclean (kind : Cleanable) {report : CleanupReport} {p q : Point σ}
      {k : CleanupReport → CaseTask CleanupReport}
      (hr : exec h (cleanRegistry fx kind) p = (.ok report, q)) (hk : Balances h (k report) q) :
      Balances h (cleanRegistry fx kind >>= k) p := by
    refine ((discreet_cleanRegistry kind).balances h p).bind fun a r ha => ?_
    obtain ⟨rfl, rfl⟩ : report = a ∧ q = r := by simpa [hr] using ha
    exact hk
  obtain ⟨hretires, hnobody⟩ := balances_dismiss hok
  exact ⟨hclean .run hruns (hclean .model hmodels (hclean .experiment hexperiments hretires)), hnobody⟩

end

/-! ## Cases -/

section
variable {σ : Type} {fx : Fixture} {h : Handler probe σ} {c : Case} {w w' : σ}

/-- **A case that is run to its end** runs its steps, then its teardown, and looks at the clock
before and after. -/
theorem dialogue_runOne {r : CaseResult} (hok : (runOne fx c).exec h w = (.ok r, w')) :
    ∃ report q start finish, exec h (teardown fx)
        (exec h (runSteps fx c.steps) (fx.opening (h .clock w).2)).2 = (.ok report, q) ∧
      (runOne fx c).dialogue h w = [⟨.clock, start⟩] ++
        (dialogue h (runSteps fx c.steps) (fx.opening (h .clock w).2) ++
          dialogue h (teardown fx)
            (exec h (runSteps fx c.steps) (fx.opening (h .clock w).2)).2 ++
          [⟨.clock, finish⟩]) := by
  unfold Fixture.opening
  generalize hp : (⟨.fresh fx.setting.scopes, (h .clock w).2⟩ : Point σ) = p
  have hcase : (exec h (runCase fx c) p).2 = (exec h (runSteps fx c.steps) p).2 ∧
      dialogue h (runCase fx c) p = dialogue h (runSteps fx c.steps) p := by
    unfold runCase
    rcases hr : exec h (runSteps fx c.steps) p with ⟨e | reports, q⟩
    · rw [exec_bind_error hr, dialogue_bind_error hr]
      exact ⟨rfl, rfl⟩
    · rw [exec_bind_ok hr, dialogue_bind_ok hr]
      exact ⟨rfl, List.append_nil _⟩
  have hclock (v : σ) : (Task.always Probe.clock).exec h v = (.ok (h .clock v).1, (h .clock v).2) :=
    Task.exec_always ..
  have hcaught := exec_caught h (runCase fx c) p
  rw [hcase.1] at hcaught
  unfold runOne at hok ⊢
  rw [Task.exec_bind_ok (hclock w)] at hok
  obtain ⟨result, v, hfresh, -⟩ := Task.exec_bind_eq_ok hok
  rcases hwhole : exec h (runAndTearDown fx c) p with ⟨o, q⟩
  obtain ⟨rfl, rfl⟩ : o = .ok result ∧ q.world = v := by
    rw [exec_inFreshState, hp, hwhole] at hfresh
    exact Prod.mk.inj hfresh
  unfold runAndTearDown at hwhole
  rw [exec_bind_ok hcaught] at hwhole
  obtain ⟨report, r, hteardown, -⟩ := exec_bind_eq_ok hwhole
  refine ⟨report, r, (h .clock w).1, (h .clock q.world).1, hteardown, ?_⟩
  rw [Task.dialogue_bind_ok (hclock w), Task.dialogue_bind_ok hfresh,
    Task.dialogue_bind_ok (hclock q.world), dialogue_inFreshState, hp, runAndTearDown,
    dialogue_bind_ok hcaught, dialogue_bind_ok hteardown, dialogue_caught, hcase.2]
  simp only [dialogue_pure, List.append_nil]
  rfl

/-- Where the next case of a suite begins, after a look at the clock. -/
def Suite.opening (s : Suite) (h : Handler probe σ) (w : σ) : Point σ :=
  s.fixture.opening (h .clock w).2

/-- **A case loses what its steps lose:** its teardown keeps the balance and leaves nobody held. -/
theorem lost_of_steps {s s' : Suite} (hok : (s.run c).exec h w = (.ok s', w')) {k : Deletion}
    {name scope : String} {n : Nat}
    (hsteps : Balance k name scope (dialogue h (runSteps s.fixture c.steps) (s.opening h w))
      (s.opening h w).state (exec h (runSteps s.fixture c.steps) (s.opening h w)).2.state n) :
    creations name scope ((s.run c).dialogue h w) =
      deletions k name scope ((s.run c).dialogue h w) + n := by
  obtain ⟨r, v, hone, -⟩ := Task.exec_bind_eq_ok hok
  have hrun : (s.run c).dialogue h w = (runOne s.fixture c).dialogue h w := by
    unfold Suite.run
    rw [Task.dialogue_bind_ok hone]
    exact List.append_nil _
  obtain ⟨report, q, start, finish, hteardown, hdialogue⟩ := dialogue_runOne hone
  obtain ⟨hretires, hnobody⟩ := balances_teardown hteardown
  have hwhole := hsteps.append (hretires k name scope)
  have hbegin : (s.opening h w).state.held name scope = 0 := rfl
  have hend : q.state.held name scope = 0 := by
    rw [CaseState.held, hnobody]
    rfl
  have hclock (a : Duration) : creations name scope [(⟨.clock, a⟩ : Exchange probe)] = 0 ∧
      deletions k name scope [(⟨.clock, a⟩ : Exchange probe)] = 0 := ⟨rfl, rfl⟩
  rw [hteardown] at hwhole
  unfold Balance at hwhole
  rw [hbegin, hend] at hwhole
  rw [hrun, hdialogue, creations_append, creations_append, deletions_append, deletions_append,
    (hclock _).1, (hclock _).2, (hclock _).1, (hclock _).2, Nat.zero_add, Nat.zero_add]
  exact hwhole

/-- **The identities of a case are retired once,** each with its three deletions, however the case
ends: exactly unless it abandons an identity that it establishes. -/
theorem retired_once_iff {s s' : Suite} (hsteps : ∀ step ∈ c.steps, step.IsDiscreet s.fixture)
    (hok : (s.run c).exec h w = (.ok s', w')) :
    (∀ k name scope, deletions k name scope ((s.run c).dialogue h w) =
        creations name scope ((s.run c).dialogue h w)) ↔
      ¬AbandonsIdentity s.fixture h c.steps (s.opening h w) := by
  constructor
  · -- The account of the identity that is lost is one deletion short.
    intro hall hyes
    obtain ⟨name, scope, hlost⟩ := (loses_runSteps hsteps hyes).2
    have hone := lost_of_steps hok hlost
    have hnone := hall .account name scope
    omega
  · intro hno k name scope
    exact (lost_of_steps hok (balances_runSteps hsteps hno k name scope)).symm

/-- **No case abandons an identity** while the delays of the verification last and no answer of the
cluster is an abnormal end. -/
theorem not_abandonsIdentity
    (hcalls : ∀ call w x, (h (.access call) w).1 ≠ .error (.panic x))
    (hlasts : fx.setting.verifier.backoff.Lasts (fx.setting.verifier.maxRetries - 1))
    (steps : List Step) (p : Point σ) : ¬AbandonsIdentity fx h steps p := by
  induction steps generalizing p with
  | nil => exact id
  | cons step rest ih =>
    rintro (⟨spec, scope, -, -, hyes⟩ | ⟨report, q, -, hrest⟩)
    · exact not_abandons hcalls hlasts scope spec.capability p.world hyes
    · exact ih q hrest

end

/-! ## A reader -/

/-- A case that establishes a reader. -/
def readerCase : Case :=
  ⟨"reader", [⟨"become", some ⟨.primary, .ofPreset .read [.experiments]⟩, none, none, none⟩]⟩

/-- A suite over one workspace. -/
def readerSuite (c : VerifierConfig) : Suite :=
  .withBaseline "suite" ⟨["workspace1"], ⟨"admin-token"⟩, c, "test-user"⟩ .empty

theorem exists_run {c : VerifierConfig} {w : World}
    (hok : (((readerSuite c).run readerCase).exec World.answer w).1.isOk = true) :
    ∃ s' w', ((readerSuite c).run readerCase).exec World.answer w = (.ok s', w') := by
  rcases hr : ((readerSuite c).run readerCase).exec World.answer w with ⟨e | s', w'⟩
  · rw [hr] at hok
    cases hok
  · exact ⟨s', w', rfl⟩

/-- The reader is verified after three refusals, and retired in the end. -/
theorem reader_retired :
    (∃ s' w', ((readerSuite pairVerifier).run readerCase).exec World.answer
      (.fresh trackingGroup 3 true) = (.ok s', w')) ∧
    (∀ step ∈ readerCase.steps, step.IsDiscreet (readerSuite pairVerifier).fixture) ∧
    ∀ k name scope, deletions k name scope (((readerSuite pairVerifier).run readerCase).dialogue
        World.answer (.fresh trackingGroup 3 true)) =
      creations name scope (((readerSuite pairVerifier).run readerCase).dialogue World.answer
        (.fresh trackingGroup 3 true)) := by
  have hrun := exists_run (c := pairVerifier) (w := .fresh trackingGroup 3 true) (by decide +kernel)
  have hsteps : ∀ step ∈ readerCase.steps, step.IsDiscreet (readerSuite pairVerifier).fixture := by
    intro step hstep
    obtain rfl := List.mem_singleton.mp hstep
    exact isDiscreet_of_mem nofun nofun
  obtain ⟨s', w', hok⟩ := hrun
  have hcalls (call : AccessCall) (w : World) (x : Panic) :
      (World.answer (.access call) w).1 ≠ .error (.panic x) := by
    intro hpanic
    cases hpanic
  exact ⟨⟨s', w', hok⟩, hsteps,
    (retired_once_iff hsteps hok).mpr (not_abandonsIdentity hcalls lasts_pairVerifier _ _)⟩

/-- **Delays that turn negative** end the verification abnormally, and the reader stays. -/
theorem reader_lost :
    (∃ s' w', ((readerSuite { pairVerifier with multiplier := -1.0 }).run readerCase).exec
      World.answer (.fresh trackingGroup 3 true) = (.ok s', w')) ∧
    creations "test-user-1" "workspace1"
      (((readerSuite { pairVerifier with multiplier := -1.0 }).run readerCase).dialogue World.answer
        (.fresh trackingGroup 3 true)) = 1 ∧
    ∀ k, deletions k "test-user-1" "workspace1"
      (((readerSuite { pairVerifier with multiplier := -1.0 }).run readerCase).dialogue World.answer
        (.fresh trackingGroup 3 true)) = 0 := by
  refine ⟨exists_run (by decide +kernel), by decide +kernel, fun k => ?_⟩
  cases k <;> decide +kernel

end GrantProbe
