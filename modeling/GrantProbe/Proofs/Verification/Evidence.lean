import GrantProbe.Proofs.Provisioning

/-!
# The evidence of a verification

A verification that has to be passed passes because some review was allowed, and the review is in its
dialogue. It fails in one way, and names the request that nothing allowed.

* `mem_dialogue_of_reviewGroup`, `mem_dialogue_of_reviewGroups`: an allowed review was answered so;
* `allowed_of_verify`, `error_of_verify`: one verification; `allowed_of_verifyKinds`,
  `error_of_verifyKinds`: those of an identity.
-/

namespace GrantProbe

open Program (Handler)

/-- A review that was answered with a permission. -/
def Review.allowed (q : Review) : Exchange probe := ⟨.access (.review q), .ok .allowed⟩

section
variable {σ : Type} {h : Handler probe σ} {w w' : σ}

theorem mem_dialogue_review {query : Review}
    (hok : (Probe.reviewer.review query).attempt.exec h w = (.ok (.ok .allowed), w')) :
    query.allowed ∈ (Probe.reviewer.review query).attempt.dialogue h w := by
  rw [Task.exec_attempt] at hok
  rcases hr : (Probe.reviewer.review query).exec h w with ⟨(e | x) | d, v⟩ <;> rw [hr] at hok <;>
    cases hok
  have hanswer : (h (.access (.review query)) w).1 = .ok .allowed := congrArg Prod.fst hr
  have hdialogue : (Probe.reviewer.review query).dialogue h w =
      [⟨.access (.review query), (h (.access (.review query)) w).1⟩] := rfl
  rw [Task.dialogue_attempt, hdialogue, hanswer]
  exact List.mem_singleton_self _

/-- **Reviews under one group** that end with a permission. The induction is on the reviews that are
left. -/
theorem mem_dialogue_of_reviewGroup {next : Duration → Except Panic Duration} {query : Review}
    {more : Nat} {delay : Duration} {seen seen' : Tally}
    (hok : (reviewGroup Probe.reviewer next query more delay seen).exec h w =
      (.ok (true, seen'), w')) :
    query.allowed ∈ (reviewGroup Probe.reviewer next query more delay seen).dialogue h w := by
  induction more generalizing delay seen w with
  | zero =>
    unfold reviewGroup at hok ⊢
    obtain ⟨r, v, hreview, hrest⟩ := Task.exec_bind_eq_ok hok
    rw [Task.dialogue_bind_ok hreview]
    rcases r with e | (_ | reason)
    · cases hrest
    · exact List.mem_append_left _ (mem_dialogue_review hreview)
    · cases hrest
  | succ more ih =>
    have hlater {seen : Tally} {v : σ} (hk : Task.exec h (do
        Probe.reviewer.sleep delay
        let delay ← Task.checkPanic (next delay)
        reviewGroup Probe.reviewer next query more delay seen) v = (.ok (true, seen'), w')) :
        query.allowed ∈ Task.dialogue h (do
          Probe.reviewer.sleep delay
          let delay ← Task.checkPanic (next delay)
          reviewGroup Probe.reviewer next query more delay seen) v := by
      obtain ⟨⟨⟩, v₁, hsleep, hk₁⟩ := Task.exec_bind_eq_ok hk
      obtain ⟨later, v₂, hnext, hk₂⟩ := Task.exec_bind_eq_ok hk₁
      rw [Task.dialogue_bind_ok hsleep, Task.dialogue_bind_ok hnext]
      exact List.mem_append_right _ (List.mem_append_right _ (ih hk₂))
    unfold reviewGroup at hok ⊢
    obtain ⟨r, v, hreview, hrest⟩ := Task.exec_bind_eq_ok hok
    rw [Task.dialogue_bind_ok hreview]
    rcases r with e | (_ | reason)
    · exact List.mem_append_right _ (hlater hrest)
    · exact List.mem_append_left _ (mem_dialogue_review hreview)
    · exact List.mem_append_right _ (hlater hrest)

theorem mem_dialogue_of_reviewGroups {backoff : Backoff Duration} {more : Nat} {query : GrantQuery}
    {groups : List String} {group : String} {seen seen' : Tally}
    (hok : (reviewGroups Probe.reviewer backoff more query groups seen).exec h w =
      (.ok (some group, seen'), w')) :
    group ∈ groups ∧ (query.under group).allowed ∈
      (reviewGroups Probe.reviewer backoff more query groups seen).dialogue h w := by
  induction groups generalizing seen w with
  | nil => cases hok
  | cons first rest ih =>
    unfold reviewGroups at hok ⊢
    obtain ⟨⟨passed, seen₁⟩, v, hfirst, hrest⟩ := Task.exec_bind_eq_ok hok
    rw [Task.dialogue_bind_ok hfirst]
    cases passed with
    | true =>
      cases hrest
      exact ⟨List.mem_cons_self, List.mem_append_left _ (mem_dialogue_of_reviewGroup hfirst)⟩
    | false =>
      obtain ⟨hgroup, hmem⟩ := ih hrest
      exact ⟨List.mem_cons_of_mem _ hgroup, List.mem_append_right _ hmem⟩

/-- Errors of reviews are refusals, so reviews have none of their own. -/
theorem infallible_reviewGroup (next : Duration → Except Panic Duration) (query : Review) (more : Nat)
    (delay : Duration) (seen : Tally) :
    (reviewGroup Probe.reviewer next query more delay seen).Infallible := by
  have hreview := Task.infallible_attempt (Probe.reviewer.review query)
  induction more generalizing delay seen with
  | zero =>
    unfold reviewGroup
    refine hreview.bind fun r => ?_
    rcases r with e | (_ | reason) <;> exact Task.infallible_pure _
  | succ more ih =>
    have hrest (seen : Tally) : Task.Infallible (do
        Probe.reviewer.sleep delay
        let delay ← Task.checkPanic (next delay)
        reviewGroup Probe.reviewer next query more delay seen) :=
      Task.Infallible.bind (Task.infallible_always _) fun _ =>
        (Task.infallible_checkPanic _).bind fun _ => ih _ _
    unfold reviewGroup
    refine hreview.bind fun r => ?_
    rcases r with e | (_ | reason)
    · exact hrest _
    · exact Task.infallible_pure _
    · exact hrest _

theorem infallible_reviewGroups (backoff : Backoff Duration) (more : Nat) (query : GrantQuery)
    (groups : List String) (seen : Tally) :
    (reviewGroups Probe.reviewer backoff more query groups seen).Infallible := by
  induction groups generalizing seen with
  | nil => exact Task.infallible_pure _
  | cons group rest ih =>
    unfold reviewGroups
    refine (infallible_reviewGroup _ _ _ _ _).bind fun r => ?_
    rcases r with ⟨_ | _, seen'⟩
    · exact ih seen'
    · exact Task.infallible_pure _

/-! ## Verdicts -/

variable {c : VerifierConfig} {q : GrantQuery}

/-- **A verification that has to be passed** passes on a review that was allowed. -/
theorem allowed_of_verify {v : Verdict}
    (hok : (c.verify Probe.reviewer .enforce q).exec h w = (.ok v, w')) :
    ∃ group ∈ c.groups,
      (q.under group).allowed ∈ (c.verify Probe.reviewer .enforce q).dialogue h w := by
  unfold VerifierConfig.verify verify at hok ⊢
  obtain ⟨⟨found, seen⟩, w₁, hgroups, hrest⟩ := Task.exec_bind_eq_ok hok
  cases found with
  | none => cases hrest
  | some group =>
    obtain ⟨hgroup, hmem⟩ := mem_dialogue_of_reviewGroups hgroups
    rw [Task.dialogue_bind_ok hgroups]
    exact ⟨group, hgroup, List.mem_append_left _ hmem⟩

/-- **The error of a verification** says that nothing allowed the request. -/
theorem error_of_verify {policy : VerificationPolicy} {e : Error}
    (herr : (c.verify Probe.reviewer policy q).exec h w = (.error (.error e), w')) :
    policy = .enforce ∧ e = .exhausted q.identity q.scope q.resource.text q.verb.text c.groups := by
  unfold VerifierConfig.verify verify at herr
  rcases Task.exec_bind_eq_error herr with hgroups | ⟨⟨found, seen⟩, w₁, -, hrest⟩
  · exact absurd hgroups (infallible_reviewGroups _ _ _ _ _ h w w' e)
  · rcases found with _ | group
    · cases policy <;> cases hrest
      exact ⟨rfl, rfl⟩
    · cases hrest

variable {s : Setting} {name scope : String} {verb : Verb} {kinds : List ResourceKind}

/-- **Every kind has its evidence,** once all have been verified. The induction is on the kinds. -/
theorem allowed_of_verifyKinds (hpolicy : s.verifier.policy = .enforce)
    (hok : (s.verifyKinds name scope verb kinds).exec h w = (.ok (), w')) :
    ∀ kind ∈ kinds, ∃ group ∈ s.verifier.groups,
      Review.allowed ⟨name, scope, kind, verb, group⟩ ∈
        (s.verifyKinds name scope verb kinds).dialogue h w := by
  induction kinds generalizing w with
  | nil => nofun
  | cons first rest ih =>
    unfold Setting.verifyKinds at hok ⊢
    rw [hpolicy] at hok ⊢
    obtain ⟨verdict, w₁, hfirst, hrest⟩ := Task.exec_bind_eq_ok hok
    rw [Task.dialogue_bind_ok hfirst]
    intro kind hkind
    rcases List.mem_cons.mp hkind with rfl | hkind
    · obtain ⟨group, hgroup, hmem⟩ := allowed_of_verify hfirst
      exact ⟨group, hgroup, List.mem_append_left _ hmem⟩
    · obtain ⟨group, hgroup, hmem⟩ := ih hrest kind hkind
      exact ⟨group, hgroup, List.mem_append_right _ hmem⟩

theorem error_of_verifyKinds {e : Error}
    (herr : (s.verifyKinds name scope verb kinds).exec h w = (.error (.error e), w')) :
    s.verifier.policy = .enforce ∧
      ∃ kind ∈ kinds, e = .exhausted name scope kind.text verb.text s.verifier.groups := by
  induction kinds generalizing w with
  | nil => cases herr
  | cons first rest ih =>
    unfold Setting.verifyKinds at herr
    rcases Task.exec_bind_eq_error herr with hfirst | ⟨verdict, w₁, -, hrest⟩
    · obtain ⟨hpolicy, rfl⟩ := error_of_verify hfirst
      exact ⟨hpolicy, first, List.mem_cons_self, rfl⟩
    · obtain ⟨hpolicy, kind, hkind, rfl⟩ := ih hrest
      exact ⟨hpolicy, kind, List.mem_cons_of_mem _ hkind, rfl⟩

end

end GrantProbe
