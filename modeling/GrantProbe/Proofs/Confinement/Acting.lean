import GrantProbe.Proofs.Cleanup.Tidy
import GrantProbe.Proofs.Frame
import GrantProbe.Proofs.Transcript

/-!
# Acting as whoever is active

An action, and a check, calls the tracking service through the client of the case and through no
other, asks nothing of the cluster, and does not touch who is active and where.

* `Standing`: who is active, where, and the client;
* `Ask.client?`: the client of a call; `Ask.IsActing`: a request that may be made through a client, if
  there is one;
* `CaseTask.Confined`: a task that acts as whoever is active, with a lemma for each way to build one;
  `confined_of_mem`: every action of the catalogue is one;
* `asks_acting_of_mem`: so is every check.
-/

namespace GrantProbe

open Program (Handler)
open CaseTask (exec dialogue Keeps)

/-- **Who is active,** where, and the client to act through. -/
structure Standing where
  identity : Option Identity
  scope : String
  client : Option Client

def CaseState.standing (s : CaseState) : Standing := ⟨s.identity, s.scope, s.client⟩

/-- The client that a call of the tracking service is made through. -/
def Ask.client? : Ask → Option Client
  | tracking client _ => some client
  | _ => none

/-- **A request made in acting:** of chance, or of the tracking service through the client that is
there. -/
inductive Ask.IsActing (client? : Option Client) : Ask → Prop
  | suffix : IsActing client? .suffix
  | call {client : Client} (hc : client? = some client) (call : TrackingCall) :
    IsActing client? (.tracking client call)

theorem Ask.IsActing.client_eq {client? : Option Client} {r : Ask} {client : Client}
    (h : r.IsActing client?) (hr : r.client? = some client) : client? = some client := by
  cases h with
  | suffix => cases hr
  | call hc =>
    cases hr
    exact hc

theorem Ask.IsActing.eq_suffix {r : Ask} (h : r.IsActing none) : r = .suffix := by
  cases h with
  | suffix => rfl
  | call hc => cases hc

namespace CaseTask

/-- **A confined task** acts through the client that is there, and keeps it, with who is active and
where. -/
structure Confined {α : Type} (t : CaseTask α) : Prop where
  asks : ∀ ⦃σ : Type⦄ (h : Handler probe σ) (p : Point σ), ∀ x ∈ dialogue h t p,
    x.request.IsActing p.state.client
  keeps : Keeps CaseState.standing t

section
variable {α β : Type}

theorem confined_silent {t : CaseTask α} (hasks : ∀ ⦃σ : Type⦄ (h : Handler probe σ) (p : Point σ),
    dialogue h t p = []) (hkeeps : Keeps CaseState.standing t) : Confined t := by
  refine ⟨fun σ h p x hx => ?_, hkeeps⟩
  rw [hasks h p] at hx
  cases hx

theorem confined_pure (a : α) : Confined (pure a) :=
  confined_silent (fun _ _ _ => rfl) (keeps_pure a)

theorem confined_check (r : Except Error α) : Confined (check r) :=
  confined_silent (fun _ h p => dialogue_check h p r) (keeps_check r)

theorem confined_get : Confined get := confined_silent (fun _ _ _ => rfl) keeps_get

theorem confined_modify {f : CaseState → CaseState} (hf : ∀ s, (f s).standing = s.standing) :
    Confined (modify f) := confined_silent (fun _ _ _ => rfl) (keeps_modify hf)

theorem confined_suffix : Confined (lift Probe.suffix) := by
  refine ⟨fun σ h p x hx => ?_, keeps_lift _⟩
  obtain rfl := List.mem_singleton.mp hx
  exact .suffix

theorem Confined.bind {t : CaseTask α} {k : α → CaseTask β} (ht : Confined t)
    (hk : ∀ a, Confined (k a)) : Confined (t >>= k) := by
  refine ⟨fun σ h p x hx => ?_, ht.keeps.bind fun a => (hk a).keeps⟩
  rcases hr : exec h t p with ⟨e | a, q⟩
  · rw [dialogue_bind_error hr] at hx
    exact ht.asks h p x hx
  · rw [dialogue_bind_ok hr] at hx
    have hkept : q.state.client = p.state.client := by
      have hstanding := ht.keeps h p
      rw [hr] at hstanding
      exact congrArg Standing.client hstanding
    rcases List.mem_append.mp hx with hx | hx
    · exact ht.asks h p x hx
    · exact hkept ▸ (hk a).asks h q x hx

theorem Confined.attempt {t : CaseTask α} (ht : Confined t) : Confined t.attempt := by
  refine ⟨fun σ h p x hx => ?_, ht.keeps.attempt⟩
  rw [dialogue_attempt] at hx
  exact ht.asks h p x hx

/-- **A call as the active identity** is a call through its client, if there is one. -/
theorem confined_call (call : TrackingCall) : Confined (Action.callAsActive call) := by
  refine ⟨fun σ h p x hx => ?_, keeps_callAsActive _ call⟩
  unfold Action.callAsActive at hx
  rw [dialogue_bind_ok (exec_get h p)] at hx
  cases hclient : p.state.client with
  | none =>
    rw [CaseState.activeClient, hclient] at hx
    cases hx
  | some client =>
    rw [CaseState.activeClient, hclient] at hx
    obtain rfl := List.mem_singleton.mp hx
    exact .call rfl call

theorem confined_artifactOrSample : Confined Action.artifactOrSample := by
  refine confined_get.bind fun s => ?_
  split
  · exact confined_pure _
  · exact confined_suffix.bind fun suffix =>
      Confined.bind (confined_modify (by intro s; rfl)) fun _ => confined_pure _

theorem standing_withRegistry (s : CaseState) (kind : Cleanable) (m : SortedMap String) :
    (s.withRegistry kind m).standing = s.standing := by
  cases kind <;> rfl

theorem standing_register {s s' : CaseState} {kind : Cleanable} {id scope : String}
    (hr : s.register kind id scope = .ok s') : s'.standing = s.standing := by
  unfold CaseState.register at hr
  split_ifs at hr
  cases hr
  exact standing_withRegistry ..

theorem confined_registerHere (kind : Cleanable) (id : String) :
    Confined (Action.registerHere kind id) := by
  refine confined_silent (fun σ h p => ?_) fun σ h p => ?_
  · unfold Action.registerHere
    rw [dialogue_bind_ok (exec_get h p)]
    cases p.state.register kind id p.state.scope <;> rfl
  · unfold Action.registerHere
    rw [exec_bind_ok (exec_get h p)]
    cases hr : p.state.register kind id p.state.scope with
    | error e => rfl
    | ok s => exact standing_register hr

theorem confined_lookup (f : CaseState → Except Error α) {k : α → CaseTask β}
    (hk : ∀ a, Confined (k a)) : Confined (get >>= fun s => check (f s) >>= k) :=
  confined_get.bind fun s => (confined_check (f s)).bind hk

theorem confined_noted (call : TrackingCall) (f : call.Answer → CaseState → CaseState)
    (hf : ∀ r s, (f r s).standing = s.standing) :
    Confined (Action.callAsActive call >>= fun r => modify (f r)) :=
  (confined_call call).bind fun r => confined_modify (hf r)

theorem confined_created (kind : Cleanable) (arg : String) {f : String → CaseState → CaseState}
    (hf : ∀ id s, (f id s).standing = s.standing) :
    Confined (kind.create arg >>= fun id => Action.registerHere kind id >>= fun _ =>
      modify (f id)) := by
  have hcreate : Confined (kind.create arg) := by cases kind <;> exact confined_call _
  exact hcreate.bind fun id => (confined_registerHere kind id).bind fun _ => confined_modify (hf id)

theorem confined_deleted (kind : Cleanable) (id : String) {f : CaseState → CaseState}
    (hf : ∀ s, (f s).standing = s.standing) :
    Confined (kind.remove id >>= fun _ => modify fun s => f (s.forget kind id)) := by
  have hremove : Confined (kind.remove id) := by cases kind <;> exact confined_call _
  exact hremove.bind fun _ => confined_modify fun s => (hf _).trans (standing_withRegistry ..)

end

end CaseTask

open CaseTask

theorem OnlyNotes.standing {f : CaseState → CaseState} (hf : OnlyNotes f) (s : CaseState) :
    (f s).standing = s.standing := by
  obtain ⟨hholdings, hidentity⟩ := hf s
  unfold CaseState.standing
  rw [hidentity, scope_eq_of_holdings hholdings, client_eq_of_holdings hholdings]

/-- Deeds are confined. The induction is on their shape. -/
theorem CaseTask.Deed.confined {t : CaseTask Unit} (ht : Deed t) : Confined t := by
  induction ht with
  | look _ ih => exact confined_get.bind ih
  | weigh r _ ih => exact (confined_check r).bind ih
  | draw _ ih => exact confined_suffix.bind ih
  | note hf => exact confined_modify hf.standing
  | finish _ => exact confined_call _
  | upload _ _ => exact confined_call _
  | consult call f _ hf => exact confined_noted call f fun r => (hf r).standing
  | create kind arg hf => exact confined_created kind arg fun id => (hf id).standing
  | delete kind id hf => exact confined_deleted kind id hf.standing

/-- **Every action of the catalogue is confined.** -/
theorem confined_of_mem {action : Action} (ha : action ∈ allActions) (fx : Fixture) :
    Confined (action.run fx) := by
  by_cases hlog : action = Action.logArtifact
  · subst hlog
    exact confined_lookup _ fun id => confined_artifactOrSample.bind fun _ => confined_call _
  by_cases hload : action = Action.loadModel
  · subst hload
    exact confined_lookup _ fun uri => Confined.bind (confined_modify (by intro s; rfl)) fun _ =>
      confined_noted _ _ fun _ _ => rfl
  exact (deed_of_mem ha hlog hload fx).confined

/-! ## Checks -/

/-- **Every check of the catalogue** asks through the client that is there. -/
theorem asks_acting_of_mem {c : Check} (hc : c ∈ allChecks) (fx : Fixture) (s : CaseState) :
    (c.test fx s).Asks (Ask.IsActing s.client) := by
  have hverdict (r : Except String Unit) : (Check.verdict r).Asks (Ask.IsActing s.client) :=
    Task.asks_pure r
  exact test_of_mem (P := fun t => t.Asks (Ask.IsActing s.client)) hverdict
    (fun call test _ => asks_asking (fun _ hc => .call hc call) test) hc fx

end GrantProbe
