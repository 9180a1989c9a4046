import GrantProbe.Proofs.Case.Reach
import GrantProbe.Proofs.Cleanup.Atomicity
import GrantProbe.Proofs.Confinement.Administrator

/-!
# Who calls, and where

Every call of the tracking service in a case is made as the identity that the case has established
last, with the credential issued to it, in the workspace that the case has asked for last.

* `issued`: the identities that a dialogue brought; `whereabouts`: where steps lead;
* `Follows`: who is active, and where, after steps that had a dialogue; `follows_steps`;
* `UnderWay`: how far a case has got at an exchange; `underWay_of_call`: a call is made by a step
  under way;
* `credentials_are_confined`: the whole of it, with what the administrator does.
-/

namespace GrantProbe

open Program (Handler)
open CaseTask (exec dialogue Keeps Confined)

/-! ## Identities that have been issued -/

def issued? : Exchange probe → Option Identity
  | ⟨.identity (.create _ _), .ok i⟩ => some i
  | _ => none

/-- **The identities that a dialogue brought,** in order. -/
def issued (D : List (Exchange probe)) : List Identity := D.filterMap issued?

theorem issued_append (D E : List (Exchange probe)) : issued (D ++ E) = issued D ++ issued E :=
  List.filterMap_append

theorem issued_eq_nil {D : List (Exchange probe)}
    (hD : ∀ x ∈ D, ∀ name scope, x.request ≠ .identity (.create name scope)) : issued D = [] := by
  refine List.filterMap_eq_nil_iff.mpr fun x hx => ?_
  have hx := hD x hx
  unfold issued?
  split
  · exact absurd rfl (hx _ _)
  · rfl

theorem issued_bindings (client : Option Client) : issued (bindings client) = [] := by
  refine issued_eq_nil fun x hx => ?_
  obtain ⟨c, -, rfl⟩ := List.mem_map.mp hx
  nofun

theorem Ask.IsActing.ne_create {client? : Option Client} {r : Ask} (h : r.IsActing client?)
    (name scope : String) : r ≠ .identity (.create name scope) := by
  cases h <;> nofun

theorem issued_establish {σ : Type} {h : Handler probe σ} {s : Setting} {scope : String}
    {c : Capability} {w w' : σ} {i : Identity} (hok : (s.establish scope c).exec h w = (.ok i, w')) :
    issued ((s.establish scope c).dialogue h w) = [i] := by
  rcases hcreate : h (.identity (.create (s.drawnName h w) scope)) (h .suffix w).2 with ⟨stop | j, v⟩
  · rw [(establish_not_created hcreate).1] at hok
    cases hok
  obtain ⟨hexec, hasked⟩ := establish_created (c := c) hcreate
  rw [hexec] at hok
  obtain ⟨rfl, -, henrolled⟩ := enrol_ok hok
  have hauthorized : issued ((s.authorize i c).dialogue h v) = [] := by
    refine issued_eq_nil fun x hx name scope hcreates => ?_
    have hkind := (asks_authorize s i c).of_mem_dialogue hx
    rw [hcreates] at hkind
    rcases hkind with hkind | hkind <;> cases hkind
  rw [hasked, henrolled, issued_append, hauthorized]
  rfl

/-! ## Where steps lead -/

/-- The workspaces that a step asks for: that of its identity, then its own. -/
def Step.refs (step : Step) : List ScopeRef :=
  (step.identity.map IdentitySpec.scope).toList ++ step.scope.toList

/-- The workspace after one has been asked for. -/
def visit (scopes : List String) (scope : String) (ref : ScopeRef) : String :=
  match resolveScope scopes ref with
  | .ok next => next
  | .error _ => scope

/-- **Where steps lead:** to the workspace that they asked for last. -/
def whereabouts (scopes : List String) (start : String) (steps : List Step) : String :=
  (steps.flatMap Step.refs).foldl (visit scopes) start

theorem whereabouts_append (scopes : List String) (start : String) (xs ys : List Step) :
    whereabouts scopes start (xs ++ ys) = whereabouts scopes (whereabouts scopes start xs) ys := by
  rw [whereabouts, List.flatMap_append, List.foldl_append]
  rfl

section
variable {σ : Type} {fx : Fixture} {h : Handler probe σ} {step : Step} {p q : Point σ}
  {D : List (Exchange probe)}

/-- **Who is active and where,** after a dialogue and the steps that had it. -/
structure Follows (fx : Fixture) (p : Point σ) (D : List (Exchange probe)) (steps : List Step)
    (q : Point σ) : Prop where
  identity : q.state.identity = (issued D).getLast?.or p.state.identity
  scope : q.state.scope = whereabouts fx.setting.scopes p.state.scope steps

theorem Follows.append {r : Point σ} {E : List (Exchange probe)} {xs ys : List Step}
    (hpq : Follows fx p D xs q) (hqr : Follows fx q E ys r) :
    Follows fx p (D ++ E) (xs ++ ys) r := by
  constructor
  · rw [hqr.identity, hpq.identity, issued_append, List.getLast?_append, Option.or_assoc]
  · rw [hqr.scope, hpq.scope, whereabouts_append]

theorem follows_become (hrun : (step.become fx).Runs h p D (.ok ()) q) :
    q.state.identity = (issued D).getLast?.or p.state.identity ∧
      q.state.scope = (step.identity.map IdentitySpec.scope).toList.foldl (visit fx.setting.scopes)
        p.state.scope := by
  obtain ⟨hexec, rfl⟩ := hrun
  unfold Step.become at hexec ⊢
  cases hspec : step.identity with
  | none =>
    simp only [hspec] at hexec ⊢
    cases hexec
    exact ⟨rfl, rfl⟩
  | some spec =>
    simp only [hspec] at hexec ⊢
    cases hs : resolveScope fx.setting.scopes spec.scope with
    | error e =>
      rw [(runs_establishIdentity_unresolved h hs).exec] at hexec
      cases hexec
    | ok scope =>
      rcases hest : (fx.setting.establish scope spec.capability).exec h p.world with ⟨e | i, w⟩
      · rw [(runs_establishIdentity_error h hs hest).exec] at hexec
        cases hexec
      · have hdone := runs_establishIdentity_ok h hs hest
        rw [hdone.exec] at hexec
        cases hexec
        have hvisit : visit fx.setting.scopes p.state.scope spec.scope = scope := by rw [visit, hs]
        rw [hdone.dialogue, issued_append, issued_establish hest, issued_bindings]
        exact ⟨rfl, hvisit.symm⟩

theorem follows_go (hrun : (step.go fx).Runs h p D (.ok ()) q) :
    issued D = [] ∧ q.state.identity = p.state.identity ∧
      q.state.scope = step.scope.toList.foldl (visit fx.setting.scopes) p.state.scope := by
  obtain ⟨hexec, rfl⟩ := hrun
  unfold Step.go at hexec ⊢
  cases hscope : step.scope with
  | none =>
    simp only [hscope] at hexec ⊢
    cases hexec
    exact ⟨rfl, rfl, rfl⟩
  | some ref =>
    simp only [hscope] at hexec ⊢
    cases hs : resolveScope fx.setting.scopes ref with
    | error e =>
      rw [(runs_useScope_unresolved h hs).exec] at hexec
      cases hexec
    | ok scope =>
      have hdone := runs_useScope h (p := p) hs
      rw [hdone.exec] at hexec
      cases hexec
      have hvisit : visit fx.setting.scopes p.state.scope ref = scope := by rw [visit, hs]
      rw [hdone.dialogue, issued_bindings]
      exact ⟨rfl, rfl, hvisit.symm⟩

/-- **Setting up a step** establishes its identity and leads to its scope. -/
theorem follows_enter (henter : step.Enters fx h p D q) : Follows fx p D [step] q := by
  obtain ⟨hbecome, hgo⟩ := henter
  obtain ⟨hidentity, hscope⟩ := follows_become hbecome
  obtain ⟨hnone, hsame, hplace⟩ := follows_go hgo
  constructor
  · rw [issued_append, hnone, List.append_nil, hsame, hidentity]
  · rw [hplace, hscope, whereabouts, List.flatMap_singleton, Step.refs, List.foldl_append]

/-! ## Steps of the catalogue -/

/-- **A step over the catalogue:** its action and its check are there. -/
structure Step.IsCatalogued (step : Step) : Prop where
  action : ∀ a, step.action = some a → a ∈ allActions
  check : ∀ c, step.check = some c → c ∈ allChecks

theorem confined_act (hstep : step.IsCatalogued) : Confined (step.act fx) := by
  unfold Step.act
  split
  · exact CaseTask.confined_pure _
  · rename_i a ha
    refine (confined_of_mem (hstep.action a ha) fx).attempt.bind fun r => ?_
    rcases r with e | _
    · exact CaseTask.confined_silent (fun _ _ _ => rfl) fun _ _ _ => rfl
    · exact Confined.bind (CaseTask.confined_modify (by intro s; rfl)) fun _ =>
        CaseTask.confined_pure _

theorem confined_verify (hstep : step.IsCatalogued) (outcome : ActionOutcome) :
    Confined (step.verify fx outcome) := by
  refine ⟨fun σ h p x hx => ?_, keeps_verify _ fx step outcome⟩
  unfold Step.verify at hx
  split at hx
  · cases hx
  · rename_i c hc
    rw [CaseTask.dialogue_bind_ok (CaseTask.exec_get h p)] at hx
    refine CaseTask.Asks.of_mem_dialogue (P := Ask.IsActing p.state.client) ?_ hx
    split
    · exact CaseTask.asks_check (.error _)
    · refine (CaseTask.asks_lift (asks_acting_of_mem (hstep.check c hc) fx p.state)).bind fun r => ?_
      rcases r with message | _
      · exact CaseTask.asks_check (.error _)
      · exact CaseTask.asks_pure _

/-- **What a step does once it is set up** is done through the client that is there. -/
theorem confined_proceed (hstep : step.IsCatalogued) : Confined (step.proceed fx) :=
  (confined_act hstep).bind fun outcome => (confined_verify hstep outcome).bind fun _ =>
    CaseTask.confined_get.bind fun _ => CaseTask.confined_pure _

theorem issued_confined {α : Type} {t : CaseTask α} (ht : Confined t)
    {E more : List (Exchange probe)} (hE : dialogue h t p = E ++ more) : issued E = [] := by
  refine issued_eq_nil fun x hx name scope => ?_
  have hmem : x ∈ dialogue h t p := hE ▸ List.mem_append_left more hx
  exact (ht.asks h p x hmem).ne_create name scope

theorem follows_pass (hstep : step.IsCatalogued) {report : StepReport}
    (hpass : step.Passes fx h p D report q) : Follows fx p D [step] q := by
  have hrun := runs_runStep_ok_iff.mpr hpass
  rw [runStep_eq] at hrun
  obtain ⟨⟨⟩, S, r, E, hprepare, hproceed, rfl⟩ := CaseTask.runs_bind_ok_iff.mp hrun
  have hentered := follows_enter (runs_prepare_ok_iff.mp hprepare)
  have hconfined : Confined (step.proceed fx) := confined_proceed hstep
  have hkept : q.state.standing = r.state.standing := by
    have hkeeps := hconfined.keeps h r
    rw [hproceed.exec] at hkeeps
    exact hkeeps
  have hidentity : q.state.identity = r.state.identity := congrArg Standing.identity hkept
  have hscope : q.state.scope = r.state.scope := congrArg Standing.scope hkept
  have hnone : issued E = [] :=
    issued_confined hconfined (hproceed.dialogue.trans (List.append_nil E).symm)
  constructor
  · rw [hidentity, hentered.identity, issued_append, hnone, List.append_nil]
  · rw [hscope, hentered.scope]

theorem follows_steps {steps : List Step} {reports : List StepReport}
    (hsteps : ∀ step ∈ steps, step.IsCatalogued) (hpass : StepsPass fx h steps p D reports q) :
    Follows fx p D steps q := by
  induction hpass with
  | nil => exact ⟨rfl, rfl⟩
  | cons hstep _ ih =>
    have hfirst := follows_pass (hsteps _ List.mem_cons_self) hstep
    exact hfirst.append (ih fun s hs => hsteps s (List.mem_cons_of_mem _ hs))

/-! ## Calls -/

/-- What stands after an element of two lists put together: it is in the first or in the second. -/
theorem append_eq_append_cons {α : Type} {A B C D : List α} {x : α} (h : A ++ B = C ++ x :: D) :
    (∃ E, A = C ++ x :: E) ∨ ∃ E, C = A ++ E ∧ B = E ++ x :: D := by
  rcases List.append_eq_append_iff.mp h with ⟨E, rfl, hB⟩ | ⟨E, rfl, hD⟩
  · exact Or.inr ⟨E, rfl, hB⟩
  · cases E with
    | nil => exact Or.inr ⟨[], by simp, hD.symm⟩
    | cons y E =>
      obtain ⟨rfl, -⟩ := List.cons.inj hD
      exact Or.inl ⟨E, rfl⟩

theorem asks_prepare : CaseTask.Asks (fun r => r.client? = none) (step.prepare fx) := by
  rw [prepare_eq]
  refine CaseTask.Asks.bind ?_ fun _ => ?_
  · unfold Step.become
    split
    · refine asks_establishIdentity (fun _ => rfl) (fun r hr => ?_) fx _
      rcases hr with _ | _ | (hr | hr) | hr
      · rfl
      · rfl
      · cases hr <;> rfl
      · cases hr <;> rfl
      · cases hr <;> rfl
    · exact CaseTask.asks_pure _
  · unfold Step.go
    split
    · exact asks_useScope (fun _ => rfl) fx _
    · exact CaseTask.asks_pure _

theorem exists_enters_of_call {D₁ D₂ : List (Exchange probe)} {x : Exchange probe} {client : Client}
    (hasked : dialogue h (runStep fx step) p = D₁ ++ x :: D₂)
    (hcall : x.request.client? = some client) :
    ∃ S r E more, step.Enters fx h p S r ∧ dialogue h (step.proceed fx) r = E ++ x :: more ∧
      D₁ = S ++ E := by
  have hno : x ∉ dialogue h (step.prepare fx) p := fun hx =>
    Option.some_ne_none client (hcall.symm.trans (asks_prepare.of_mem_dialogue hx))
  rw [runStep_eq] at hasked
  rcases hr : exec h (step.prepare fx) p with ⟨e | ⟨⟩, r⟩
  · rw [CaseTask.dialogue_bind_error hr] at hasked
    exact absurd (hasked ▸ List.mem_append_right D₁ List.mem_cons_self) hno
  · rw [CaseTask.dialogue_bind_ok hr] at hasked
    rcases append_eq_append_cons hasked with ⟨E, hfirst⟩ | ⟨E, rfl, hsecond⟩
    · exact absurd (hfirst ▸ List.mem_append_right D₁ List.mem_cons_self) hno
    · exact ⟨_, r, E, D₂, runs_prepare_ok_iff.mp ⟨hr, rfl⟩, hsecond, rfl⟩

/-- **A step is under way** at an exchange: the steps before it have passed, it has been set up, and
what it does then has asked for something already. With all that was asked, the steps begun, and the
point at which the last of them was set up. -/
inductive UnderWay (fx : Fixture) (h : Handler probe σ) (steps : List Step) (p : Point σ)
    (x : Exchange probe) : List (Exchange probe) → List Step → Point σ → Prop
  | intro {before after : List Step} {step : Step} {D S E more : List (Exchange probe)}
    {reports : List StepReport} {q r : Point σ} (hsteps : steps = before ++ step :: after)
    (hbefore : StepsPass fx h before p D reports q) (henter : step.Enters fx h q S r)
    (hproceed : dialogue h (step.proceed fx) r = E ++ x :: more) :
    UnderWay fx h steps p x (D ++ (S ++ E)) (before ++ [step]) r

theorem UnderWay.cons {first : Step} {rest begun : List Step} {report : StepReport}
    {E : List (Exchange probe)} {x : Exchange probe} {r : Point σ}
    (hfirst : first.Passes fx h p D report q) (hrest : UnderWay fx h rest q x E begun r) :
    UnderWay fx h (first :: rest) p x (D ++ E) (first :: begun) r := by
  obtain ⟨rfl, hbefore, henter, hproceed⟩ := hrest
  rw [← List.append_assoc]
  exact .intro rfl (.cons hfirst hbefore) henter hproceed

/-- **A call is made by a step under way,** as its action or its check. The induction is on the
steps. -/
theorem underWay_of_call {steps : List Step} {D₁ D₂ : List (Exchange probe)} {x : Exchange probe}
    {client : Client}
    (hasked : dialogue h (runSteps fx steps) p = D₁ ++ x :: D₂)
    (hcall : x.request.client? = some client) :
    ∃ begun r, UnderWay fx h steps p x D₁ begun r := by
  induction steps generalizing p D₁ with
  | nil => simp [runSteps] at hasked
  | cons first rest ih =>
    have hhere {D₂ : List (Exchange probe)}
        (hfirst : dialogue h (runStep fx first) p = D₁ ++ x :: D₂) :
        ∃ begun r, UnderWay fx h (first :: rest) p x D₁ begun r := by
      obtain ⟨S, r, E, more, henter, hproceed, rfl⟩ := exists_enters_of_call hfirst hcall
      exact ⟨[first], r, .intro rfl (.nil p) henter hproceed⟩
    unfold runSteps at hasked
    rcases hr : exec h (runStep fx first) p with ⟨e | report, q⟩
    · rw [CaseTask.dialogue_bind_error hr] at hasked
      exact hhere hasked
    · -- Putting the reports together asks for nothing.
      have hrest : dialogue h (runSteps fx rest >>= fun reports => pure (report :: reports)) q =
          dialogue h (runSteps fx rest) q := by
        rw [CaseTask.dialogue_bind]
        rcases exec h (runSteps fx rest) q with ⟨e | reports, r⟩ <;> exact List.append_nil _
      rw [CaseTask.dialogue_bind_ok hr, hrest] at hasked
      rcases append_eq_append_cons hasked with ⟨E, hfirst⟩ | ⟨E, rfl, hsecond⟩
      · exact hhere hfirst
      · obtain ⟨begun, r, hrest⟩ := ih hsecond
        exact ⟨first :: begun, r, hrest.cons (runs_runStep_ok_iff.mp ⟨hr, rfl⟩)⟩

/-- **A step under way** has its identity and its place from what was asked before. -/
theorem UnderWay.follows {steps begun : List Step} {x : Exchange probe} {r : Point σ}
    (hsteps : ∀ step ∈ steps, step.IsCatalogued) (hway : UnderWay fx h steps p x D begun r) :
    Follows fx p D begun r := by
  obtain ⟨rfl, hbefore, henter, hproceed⟩ := hway
  rename_i before after step B S E more reports q
  have hstep := hsteps step (List.mem_append_right before List.mem_cons_self)
  have hpassed := follows_steps (fun s hs => hsteps s (List.mem_append_left _ hs)) hbefore
  have hentered := hpassed.append (follows_enter henter)
  have hnone : issued E = [] := issued_confined (confined_proceed hstep) hproceed
  constructor
  · rw [hentered.identity, ← List.append_assoc, issued_append (B ++ S), hnone, List.append_nil]
  · exact hentered.scope

/-- **A step under way** was set up at a point that can be reached, and acts through its client. -/
theorem UnderWay.acting {steps begun : List Step} {x : Exchange probe} {r : Point σ}
    (hsteps : ∀ step ∈ steps, step.IsCatalogued) (hp : Reached fx h p)
    (hway : UnderWay fx h steps p x D begun r) :
    Reached fx h r ∧ x.request.IsActing r.state.client := by
  obtain ⟨rfl, hbefore, henter, hproceed⟩ := hway
  rename_i before after step B S E more reports q
  have hstep := hsteps step (List.mem_append_right before List.mem_cons_self)
  have hq := hp.pass (fun s hs => (hsteps s (List.mem_append_left _ hs)).action) hbefore
  have hmem : x ∈ dialogue h (step.proceed fx) r :=
    hproceed ▸ List.mem_append_right E List.mem_cons_self
  exact ⟨hq.enter henter, (confined_proceed hstep).asks h r x hmem⟩

end

/-! ## The current client -/

section
variable {σ : Type} {fx : Fixture} {h : Handler probe σ} {p : Point σ}

theorem client_of_reached (hp : Reached fx h p) : p.state.client =
    p.state.identity.map fun i => ⟨i.name, i.credential, p.state.scope⟩ :=
  isCurrent_of_reached hp

/-- **A call of a case** is made as the identity established last, in the workspace asked for last. -/
theorem client_of_call {c : Case} (hsteps : ∀ step ∈ c.steps, step.IsCatalogued) {w : σ}
    {D₁ D₂ : List (Exchange probe)} {x : Exchange probe} {client : Client}
    (hasked : dialogue h (runCase fx c) (fx.opening w) = D₁ ++ x :: D₂)
    (hcall : x.request.client? = some client) :
    ∃ begun r earlier i, UnderWay fx h c.steps (fx.opening w) x D₁ begun r ∧
      r.state.identity = some i ∧ issued D₁ = earlier ++ [i] ∧
      r.state.scope = whereabouts fx.setting.scopes (fx.opening w).state.scope begun ∧
      client = ⟨i.name, i.credential, r.state.scope⟩ := by
  have hrun : dialogue h (runCase fx c) (fx.opening w) =
      dialogue h (runSteps fx c.steps) (fx.opening w) := by
    unfold runCase
    rw [CaseTask.dialogue_bind]
    rcases exec h (runSteps fx c.steps) (fx.opening w) with ⟨e | reports, q⟩ <;>
      exact List.append_nil _
  rw [hrun] at hasked
  obtain ⟨begun, r, hway⟩ := underWay_of_call hasked hcall
  obtain ⟨hr, hacting⟩ := hway.acting hsteps (.opening w)
  have hfollows := hway.follows hsteps
  have hidentity : r.state.identity = (issued D₁).getLast? := by
    rw [hfollows.identity]
    exact Option.or_none ..
  have hclient := client_of_reached hr
  rw [hacting.client_eq hcall] at hclient
  obtain ⟨i, hactive, hi⟩ := Option.map_eq_some_iff.mp hclient.symm
  obtain ⟨earlier, hissued⟩ := List.getLast?_eq_some_iff.mp (hidentity.symm.trans hactive)
  exact ⟨begun, r, earlier, i, hway, hactive, hissued, hfollows.scope, hi.symm⟩

end

/-- **Who calls, and where.** In every point that can be reached the client is that of whoever is
active, in the active workspace, and where nobody is active an action asks the world for nothing but
chance. In a case over the catalogue every call is made as the identity established last, in the
workspace asked for last; if the credentials differ it is neither that of the administrator nor one
issued earlier. The administrator alone seeds, tears down and removes. -/
theorem credentials_are_confined {σ : Type} (fx : Fixture) (h : Handler probe σ) :
    (∀ p, Reached fx h p → p.state.client =
      p.state.identity.map fun i => ⟨i.name, i.credential, p.state.scope⟩) ∧
    (∀ p, Reached fx h p → p.state.identity = none → ∀ action ∈ allActions,
      ∀ x ∈ dialogue h (action.run fx) p, x.request = .suffix) ∧
    (∀ c : Case, (∀ step ∈ c.steps, step.IsCatalogued) → ∀ w D₁ x D₂ client,
      dialogue h (runCase fx c) (fx.opening w) = D₁ ++ x :: D₂ → x.request.client? = some client →
      ∃ begun r earlier i, UnderWay fx h c.steps (fx.opening w) x D₁ begun r ∧
        r.state.identity = some i ∧ issued D₁ = earlier ++ [i] ∧
        r.state.scope = whereabouts fx.setting.scopes (fx.opening w).state.scope begun ∧
        client = ⟨i.name, i.credential, r.state.scope⟩ ∧
        ((fx.setting.adminCredential :: (issued D₁).map Identity.credential).Nodup →
          client.credential ∉ fx.setting.adminCredential :: earlier.map Identity.credential)) ∧
    (seedBaseline fx.setting).Asks (Ask.IsByAdmin fx.setting) ∧
    CaseTask.Asks (Ask.IsByAdmin fx.setting) (teardown fx) ∧
    ∀ baseline, (removeBaseline fx.setting baseline).Asks (Ask.IsByAdmin fx.setting) := by
  refine ⟨fun p hp => client_of_reached hp, ?idle, ?calls, asks_seedBaseline _, asks_teardown fx,
    asks_removeBaseline⟩
  case idle =>
    intro p hp hnobody action haction x hx
    have hclient : p.state.client = none := by rw [client_of_reached hp, hnobody]; rfl
    have hacting := (confined_of_mem haction fx).asks h p x hx
    exact Ask.IsActing.eq_suffix (hclient ▸ hacting)
  case calls =>
    intro c hsteps w D₁ x D₂ client hasked hcall
    obtain ⟨begun, r, earlier, i, hway, hactive, hissued, hplace, hclient⟩ :=
      client_of_call hsteps hasked hcall
    refine ⟨begun, r, earlier, i, hway, hactive, hissued, hplace, hclient, fun hfresh => ?_⟩
    rw [hissued, List.map_append] at hfresh
    have hlast : (fx.setting.adminCredential :: earlier.map Identity.credential ++
        [i.credential]).Nodup := hfresh
    rw [hclient]
    exact fun hmem => (List.nodup_append.mp hlast).2.2 _ hmem _ List.mem_cons_self rfl

/-! ## A handover -/

/-- Two workspaces, and nothing seeded. -/
def handoverFixture : Fixture :=
  ⟨⟨["workspace1", "workspace2"], ⟨"admin-token"⟩, pairVerifier, "test-user"⟩, .empty⟩

/-- An editor creates an experiment, and a reader tries to create another elsewhere. -/
def handoverCase : Case :=
  ⟨"handover",
    [⟨"write", some ⟨.primary, .ofPreset .edit [.experiments]⟩, none, some .createExperiment,
        some .experimentCreated⟩,
      ⟨"read", some readerSpec, some .secondary, some .createExperiment, none⟩]⟩

/-- The last call of the handover is the reader's, and made where the reader has gone. -/
theorem reader_calls_elsewhere :
    (∀ step ∈ handoverCase.steps, step.IsCatalogued) ∧
    ∃ D x earlier i, dialogue World.answer (runCase handoverFixture handoverCase)
        (handoverFixture.opening (.fresh trackingGroup 0 true)) = D ++ [x] ∧
      x.request.client? = some ⟨"test-user-3", ⟨"token-for-test-user-3"⟩, "workspace2"⟩ ∧
      issued D = earlier ++ [i] ∧ i.name = "test-user-3" ∧
      ⟨"token-for-test-user-3"⟩ ∉ ⟨"admin-token"⟩ :: earlier.map Identity.credential := by
  have hcatalogued : ∀ step ∈ handoverCase.steps, step.IsCatalogued := by
    have hall : handoverCase.steps.Forall Step.IsCatalogued := by
      refine ⟨⟨?_, ?_⟩, ⟨?_, nofun⟩⟩ <;> rintro _ ⟨⟩ <;> simp [allActions, allChecks]
    exact fun step hstep => List.forall_iff_forall_mem.mp hall step hstep
  obtain ⟨D, hD⟩ : ∃ D, D = dialogue World.answer (runCase handoverFixture handoverCase)
      (handoverFixture.opening (.fresh trackingGroup 0 true)) := ⟨_, rfl⟩
  have hlast : D.getLast?.bind (fun x => x.request.client?) =
      some ⟨"test-user-3", ⟨"token-for-test-user-3"⟩, "workspace2"⟩ := by
    rw [hD]
    decide +kernel
  have hfresh : (⟨"admin-token"⟩ :: (issued D.dropLast).map Identity.credential).Nodup := by
    rw [hD]
    decide +kernel
  obtain ⟨x, hx, hclient⟩ := Option.bind_eq_some_iff.mp hlast
  have hsplit : D = D.dropLast ++ [x] := (List.dropLast_append_getLast? x hx).symm
  obtain ⟨-, -, hcalls, -⟩ := credentials_are_confined handoverFixture World.answer
  obtain ⟨begun, r, earlier, i, -, -, hissued, -, hi, hconfined⟩ :=
    hcalls handoverCase hcatalogued _ _ _ _ _ (hD.symm.trans hsplit) hclient
  exact ⟨hcatalogued, D.dropLast, x, earlier, i, hD.symm.trans hsplit, hclient, hissued,
    (congrArg Client.identity hi).symm, hconfined hfresh⟩

end GrantProbe
