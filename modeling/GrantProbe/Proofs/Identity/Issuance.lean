import Mathlib.Algebra.Group.Nat.Defs
import GrantProbe.Identity.Protocol
import GrantProbe.Proofs.Identity.Token
import GrantProbe.Proofs.Retry.Attempts

/-!
# How a credential is issued

Creating an identity is a short conversation: an account is created, a token is asked for until one is
given or five requests have failed, and an account whose token is no credential is deleted again. What
it asks and what it ends with depends on nothing but the replies, in their order.

* `AccountReplies`: a sequence of replies, and the world that gives them;
* `AccountReplies.FirstToken`: the request that is the first to be given a token;
* `tokenRequests`: the requests of an issuance, with the waits between them;
* `runs_issueCredential_token`, `runs_issueCredential_exhausted`: the two ways in which one goes;
* `runs_createIdentity_refused`, `runs_createIdentity_issued`, `runs_createIdentity_undone`: what the
  creation of an identity makes of that;
* `createIdentity_follows_replies`: the whole of it, for every sequence of replies.
-/

namespace GrantProbe

open Program (Handler)

/-! ## Replies -/

/-- **The replies of a cluster** to the creation of an account, to each request for a token, and to the
deletion of the account. -/
structure AccountReplies where
  creation : Except Error Creation
  token : Nat → Except Error String
  deletion : Except Error Unit

namespace AccountReplies

/-- **The world that gives these replies.** Its state is the number of tokens that were asked for. -/
def answer (replies : AccountReplies) : Handler accountSignature Nat
  | .call (.create ..), n => (replies.creation.mapError Stop.error, n)
  | .call (.requestToken ..), n => ((replies.token n).mapError Stop.error, n + 1)
  | .call (.delete ..), n => (replies.deletion.mapError Stop.error, n)
  | .sleep _, n => ((), n)

/-- **The first token** is the reply to the request that `n` failed ones precede. -/
structure FirstToken (replies : AccountReplies) (n : Nat) (t : String) : Prop where
  within : n < 5
  failures : ∀ i < n, ∃ e, replies.token i = .error e
  token : replies.token n = .ok t

/-- **No token:** five requests have failed, the last of them with `e`. -/
structure Exhausted (replies : AccountReplies) (e : Error) : Prop where
  failures : ∀ i < 4, ∃ e, replies.token i = .error e
  last : replies.token 4 = .error e

theorem firstToken_or_exhausted (replies : AccountReplies) :
    (∃ n t, replies.FirstToken n t) ∨ ∃ e, replies.Exhausted e := by
  rcases failures_or_success replies.token 5 with ⟨n, hn, hfail, t, ht⟩ | hall
  · exact Or.inl ⟨n, t, hn, hfail, ht⟩
  · obtain ⟨e, he⟩ := hall 4 (by omega)
    exact Or.inr ⟨e, fun i hi => hall i (by omega), he⟩

end AccountReplies

/-! ## Requests for a token -/

/-- **The wait** after a failed request: a second, and half as much again each time. -/
def tokenDelay (i : Nat) : Duration := ⟨Duration.nanosPerSecond * 3 ^ i / 2 ^ i⟩

theorem nextDelay_tokenRequest (i : Nat) (hi : i < 4) :
    RetryConfig.tokenRequest.nextDelay .clock (tokenDelay i) = .ok (tokenDelay (i + 1)) := by
  have hnext : ∀ j < 4, (RetryConfig.tokenRequest.nextDelay .clock (tokenDelay j)).toOption =
      some (tokenDelay (j + 1)) := by decide +kernel
  have hvalue := hnext i hi
  rcases hd : RetryConfig.tokenRequest.nextDelay .clock (tokenDelay i) with p | d
  · rw [hd] at hvalue
    cases hvalue
  · rw [hd] at hvalue
    rw [Option.some.inj hvalue]

section
variable {S : Signature} {σ α : Type} {h : Handler S σ} {w w' : σ} {asked : List S.Request}
  {reply : Except Error α}

theorem runs_retryable {t : Task S α} (ht : t.Runs h w asked (reply.mapError Stop.error) w') :
    t.retryable.run.Runs h w asked (.ok reply) w' := by
  have hrun : t.run.Runs h w asked (reply.mapError Stop.error) w' := ⟨ht.exec, ht.trace⟩
  rcases reply with e | a <;> exact hrun.bind_silent (Program.runs_done _)

theorem runs_ofRetry {t : ExceptT Panic (Program S) (Except Error α)}
    (ht : t.run.Runs h w asked (.ok reply) w') :
    (Task.ofRetry t).Runs h w asked (reply.mapError Stop.error) w' := by
  have hrun : (Task.ofRetry t).run.Runs h w asked (reply.mapError Stop.error) w' := by
    rcases reply with e | a <;> exact ht.bind_silent (Program.runs_done _)
  exact ⟨hrun.run, hrun.trace⟩

end

theorem runs_accountCall (replies : AccountReplies) (c : AccountCall) (n : Nat) :
    (issuing.call c).Runs replies.answer n [.call c] (replies.answer (.call c) n).1
      (replies.answer (.call c) n).2 := ⟨rfl, rfl⟩

theorem attempts_requestToken (replies : AccountReplies) (name scope : String) :
    Attempts replies.answer issuing.pace (issuing.call (.requestToken name scope)).retryable id
      (· + 1) (fun _ => [.call (.requestToken name scope)]) (fun i => [.sleep (tokenDelay i)])
      replies.token tokenDelay 4 where
  attempt _ := runs_retryable ⟨rfl, rfl⟩
  wait _ _ := ⟨rfl, rfl⟩
  next i hi := nextDelay_tokenRequest i hi

variable (replies : AccountReplies) (name scope : String)

/-- **The requests of an issuance** in which `n` requests fail and one more is made. -/
def tokenRequests (n : Nat) : List AccountAsk :=
  (List.range n).flatMap (fun i => [.call (.requestToken name scope)] ++ [.sleep (tokenDelay i)]) ++
    [.call (.requestToken name scope)]

section
variable {replies}

theorem runs_retry_requestToken {n : Nat} (hn : n ≤ 4)
    (hfail : ∀ i < n, ∃ e, replies.token i = .error e)
    (hstop : n = 4 ∨ ∃ t, replies.token n = .ok t) :
    (Task.ofRetry (retryUpTo issuing.pace (issuing.call (.requestToken name scope)).retryable
      moreTokenRequests issuing.pace.first)).Runs replies.answer 0 (tokenRequests name scope n)
      ((replies.token n).mapError Stop.error) (n + 1) :=
  runs_ofRetry ((attempts_requestToken replies name scope).runs hn (Nat.le_refl 4) hfail hstop)

/-- **The first token ends the requests,** and is a credential or is refused. -/
theorem runs_issueCredential_token {n : Nat} {t : String} (hfirst : replies.FirstToken n t) :
    (issueCredential issuing name scope).Runs replies.answer 0 (tokenRequests name scope n)
      ((Credential.issued t).mapError fun reason => .error (.identity name scope reason)) (n + 1) := by
  have hretry := runs_retry_requestToken name scope
    (Nat.le_of_lt_succ hfirst.within) hfirst.failures (Or.inr ⟨t, hfirst.token⟩)
  rw [hfirst.token] at hretry
  have htoken := hretry.retitle_ok fun e =>
    .identity name scope ("token request failed: " ++ e.message)
  rw [← List.append_nil (tokenRequests name scope n)]
  refine htoken.bind_ok ?_
  rcases Credential.issued t with reason | c <;> exact ⟨rfl, rfl⟩

/-- **Five failures end the requests,** with the last of them. -/
theorem runs_issueCredential_exhausted {e : Error} (hnone : replies.Exhausted e) :
    (issueCredential issuing name scope).Runs replies.answer 0 (tokenRequests name scope 4)
      (.error (.error (.identity name scope ("token request failed: " ++ e.message)))) 5 := by
  have hretry := runs_retry_requestToken name scope (Nat.le_refl 4) hnone.failures (Or.inl rfl)
  rw [hnone.last] at hretry
  exact (hretry.retitle_error _).bind_error

end

/-! ## The whole creation -/

section
variable {replies name scope}

theorem runs_createIdentity_refused {e : Error} (hcreation : replies.creation = .error e) :
    (createIdentity issuing name scope).Runs replies.answer 0 [.call (.create name scope)]
      (.error (.error (.identity name scope ("failed to create service account: " ++ e.message))))
      0 := by
  have haccount := runs_accountCall replies (.create name scope) 0
  simp only [AccountReplies.answer, hcreation, Except.mapError] at haccount
  exact (haccount.retitle_error _).bind_error

section
variable {outcome : Creation} {asked : List accountSignature.Request} {n : Nat}

theorem runs_makeAccount (hcreation : replies.creation = .ok outcome) (f : Error → Error) :
    ((issuing.call (.create name scope)).retitle f).Runs replies.answer 0
      [.call (.create name scope)] (.ok outcome) 0 := by
  have haccount := runs_accountCall replies (.create name scope) 0
  simp only [AccountReplies.answer, hcreation, Except.mapError] at haccount
  exact haccount.retitle_ok f

/-- The account is deleted, or its deletion fails; either way that is all. -/
theorem exists_runs_deleteAccount (replies : AccountReplies) (name scope : String) (n : Nat) :
    ∃ reply,
    (issuing.call (.delete name scope)).attempt.Runs replies.answer n
      [.call (.delete name scope)] (.ok reply) n := by
  have hdelete := runs_accountCall replies (.delete name scope) n
  rcases hdeletion : replies.deletion with e | ⟨⟩ <;>
    simp only [AccountReplies.answer, hdeletion, Except.mapError] at hdelete
  · exact ⟨_, hdelete.attempt_error⟩
  · exact ⟨_, hdelete.attempt_ok⟩

/-- **A credential was issued:** nothing else is asked. -/
theorem runs_createIdentity_issued (hcreation : replies.creation = .ok outcome) {c : Credential}
    (hissue : (issueCredential issuing name scope).Runs replies.answer 0 asked (.ok c) n) :
    (createIdentity issuing name scope).Runs replies.answer 0 (.call (.create name scope) :: asked)
      (.ok ⟨name, scope, c⟩) n := by
  rw [← List.append_nil asked]
  exact (runs_makeAccount hcreation _).bind_ok (hissue.attempt_ok.bind_ok (Task.runs_pure _))

/-- **No credential was issued:** the account is deleted, and the error stays what it was. -/
theorem runs_createIdentity_undone (hcreation : replies.creation = .ok outcome) {e : Error}
    (hissue : (issueCredential issuing name scope).Runs replies.answer 0 asked
      (.error (.error e)) n) :
    (createIdentity issuing name scope).Runs replies.answer 0
      (.call (.create name scope) :: (asked ++ [.call (.delete name scope)]))
      (.error (.error e)) n := by
  obtain ⟨reply, hdelete⟩ := exists_runs_deleteAccount replies name scope n
  have hundo := hdelete.bind_ok (k := fun _ => Task.fail (α := Identity) e) (Task.runs_fail e)
  rw [List.append_nil] at hundo
  exact (runs_makeAccount hcreation _).bind_ok (hissue.attempt_error.bind_ok hundo)

end

end

/-- The calls among the requests, without the waits. -/
def AccountAsk.call? : AccountAsk → Option AccountCall
  | call c => some c
  | sleep _ => none

/-- The calls of an issuance: `n` requests that fail, and one more. -/
theorem calls_tokenRequests (n : Nat) :
    (tokenRequests name scope n).filterMap AccountAsk.call? =
      List.replicate (n + 1) (.requestToken name scope) := by
  have hfailed : ((List.range n).flatMap fun i =>
      ([.call (.requestToken name scope)] ++ [.sleep (tokenDelay i)] : List AccountAsk)).filterMap
        AccountAsk.call? = List.replicate n (.requestToken name scope) := by
    induction n with
    | zero => rfl
    | succ n ih =>
      rw [List.range_succ, List.flatMap_append, List.filterMap_append, ih, List.replicate_succ']
      rfl
  rw [tokenRequests, List.filterMap_append, List.replicate_succ', ← hfailed]
  rfl

/-- **How the creation of an identity goes,** for every sequence of replies. If no account can be made,
nothing else is asked. Otherwise a token is asked for until one is given or five requests have failed.
The first token, if it looks like one, becomes the credential of the identity, and nothing is deleted;
if it does not, no other is asked for. In every failure after the account was made it is deleted once,
as the last request, and the error is that of the token, whatever comes of the deletion. -/
theorem createIdentity_follows_replies :
    (∀ e, replies.creation = .error e →
      (createIdentity issuing name scope).Runs replies.answer 0 [.call (.create name scope)]
        (.error (.error (.identity name scope ("failed to create service account: " ++ e.message))))
        0) ∧
    (∀ outcome, replies.creation = .ok outcome →
      (∀ n t, replies.FirstToken n t → IsToken t →
        (createIdentity issuing name scope).Runs replies.answer 0
          (.call (.create name scope) :: tokenRequests name scope n)
          (.ok ⟨name, scope, ⟨t⟩⟩) (n + 1)) ∧
      (∀ n t, replies.FirstToken n t → ¬IsToken t → ∃ reason, Credential.issued t = .error reason ∧
        (createIdentity issuing name scope).Runs replies.answer 0
          (.call (.create name scope) ::
            (tokenRequests name scope n ++ [.call (.delete name scope)]))
          (.error (.error (.identity name scope reason))) (n + 1)) ∧
      (∀ e, replies.Exhausted e →
        (createIdentity issuing name scope).Runs replies.answer 0
          (.call (.create name scope) ::
            (tokenRequests name scope 4 ++ [.call (.delete name scope)]))
          (.error (.error (.identity name scope ("token request failed: " ++ e.message)))) 5)) ∧
    ((∃ n t, replies.FirstToken n t) ∨ ∃ e, replies.Exhausted e) ∧
    ((∃ identity, ((createIdentity issuing name scope).exec replies.answer 0).1 = .ok identity) ↔
      (∃ outcome, replies.creation = .ok outcome) ∧ ∃ n t, replies.FirstToken n t ∧ IsToken t) ∧
    ∀ n, (tokenRequests name scope n).filterMap AccountAsk.call? =
      List.replicate (n + 1) (.requestToken name scope) := by
  have haccepted {outcome n t} (hcreation : replies.creation = .ok outcome)
      (hfirst : replies.FirstToken n t) (ht : IsToken t) :
      (createIdentity issuing name scope).Runs replies.answer 0
        (.call (.create name scope) :: tokenRequests name scope n)
        (.ok ⟨name, scope, ⟨t⟩⟩) (n + 1) := by
    have hissue := runs_issueCredential_token name scope hfirst
    rw [Credential.issued_eq_ok_iff.mpr ⟨ht, rfl⟩] at hissue
    exact runs_createIdentity_issued hcreation hissue
  have hmalformed {outcome n t} (hcreation : replies.creation = .ok outcome)
      (hfirst : replies.FirstToken n t) (ht : ¬IsToken t) : ∃ reason,
      Credential.issued t = .error reason ∧ (createIdentity issuing name scope).Runs replies.answer 0
        (.call (.create name scope) :: (tokenRequests name scope n ++ [.call (.delete name scope)]))
        (.error (.error (.identity name scope reason))) (n + 1) := by
    obtain ⟨reason, hreason⟩ := Credential.issued_error_of_not ht
    have hissue := runs_issueCredential_token name scope hfirst
    rw [hreason] at hissue
    exact ⟨reason, hreason, runs_createIdentity_undone hcreation hissue⟩
  have hexhausted {outcome e} (hcreation : replies.creation = .ok outcome)
      (hnone : replies.Exhausted e) :=
    runs_createIdentity_undone hcreation
      (runs_issueCredential_exhausted name scope hnone)
  refine ⟨fun e he => runs_createIdentity_refused he, fun outcome hcreation =>
    ⟨fun n t => haccepted hcreation, fun n t => hmalformed hcreation, fun e => hexhausted hcreation⟩,
    replies.firstToken_or_exhausted, ⟨fun ⟨identity, hok⟩ => ?_, ?_⟩,
    calls_tokenRequests name scope⟩
  · -- Every other way to go ends in an error.
    rcases hcreation : replies.creation with e | outcome
    · rw [(runs_createIdentity_refused hcreation).exec] at hok
      cases hok
    refine ⟨⟨outcome, rfl⟩, ?_⟩
    rcases replies.firstToken_or_exhausted with ⟨n, t, hfirst⟩ | ⟨e, hnone⟩
    · by_cases ht : IsToken t
      · exact ⟨n, t, hfirst, ht⟩
      · obtain ⟨reason, -, hrun⟩ := hmalformed hcreation hfirst ht
        rw [hrun.exec] at hok
        cases hok
    · rw [(hexhausted hcreation hnone).exec] at hok
      cases hok
  · rintro ⟨⟨outcome, hcreation⟩, n, t, hfirst, ht⟩
    exact ⟨_, congrArg Prod.fst (haccepted hcreation hfirst ht).exec⟩

/-- A text that looks like a token. -/
def goodToken : String := "header-0123456789.payload-0123456789.signature-0123456789"

/-- A text as long, with too few dots. -/
def badToken : String := "header-0123456789.payload-0123456789-signature-0123456789"

theorem isToken_goodToken : IsToken goodToken :=
  ⟨by decide, "header-0123456789", "payload-0123456789", "signature-0123456789", by decide, by decide⟩

theorem not_isToken_badToken : ¬IsToken badToken := by
  intro h
  have hissued : Credential.issued badToken = .ok ⟨badToken⟩ :=
    Credential.issued_eq_ok_iff.mpr ⟨h, rfl⟩
  have hrefused : (Credential.issued badToken).toOption = none := by decide
  rw [hissued] at hrefused
  cases hrefused

/-- A cluster that fails twice before it gives a token, and cannot delete an account. -/
def slowCluster (token : String) : AccountReplies where
  creation := .ok .created
  token n := if n < 2 then .error (.internalFailure "busy") else .ok token
  deletion := .error (.internalFailure "busy")

theorem firstToken_slowCluster (token : String) : (slowCluster token).FirstToken 2 token where
  within := by decide
  failures i hi := ⟨_, if_pos hi⟩
  token := rfl

/-- The third request is given the token; one that is malformed is the last that is asked for, and the
account goes. -/
theorem slowCluster_follows_replies :
    (createIdentity issuing "alice" "team-a").Runs (slowCluster goodToken).answer 0
      [.call (.create "alice" "team-a"), .call (.requestToken "alice" "team-a"),
        .sleep (.ofMillis 1000), .call (.requestToken "alice" "team-a"), .sleep (.ofMillis 1500),
        .call (.requestToken "alice" "team-a")] (.ok ⟨"alice", "team-a", ⟨goodToken⟩⟩) 3 ∧
    ∃ reason, (createIdentity issuing "alice" "team-a").Runs (slowCluster badToken).answer 0
      [.call (.create "alice" "team-a"), .call (.requestToken "alice" "team-a"),
        .sleep (.ofMillis 1000), .call (.requestToken "alice" "team-a"), .sleep (.ofMillis 1500),
        .call (.requestToken "alice" "team-a"), .call (.delete "alice" "team-a")]
      (.error (.error (.identity "alice" "team-a" reason))) 3 := by
  have hgood := (createIdentity_follows_replies (slowCluster goodToken) "alice" "team-a").2.1 .created
    rfl
  have hbad := (createIdentity_follows_replies (slowCluster badToken) "alice" "team-a").2.1 .created
    rfl
  obtain ⟨reason, -, hrun⟩ := hbad.2.1 2 badToken (firstToken_slowCluster _) not_isToken_badToken
  exact ⟨hgood.1 2 goodToken (firstToken_slowCluster _) isToken_goodToken, reason, hrun⟩

end GrantProbe
