import GrantProbe.Proofs.Identity.Issuance

/-!
# What a creation tells of a token

Two creations whose clusters reply alike, but for the characters of the tokens, ask the same and end
alike: with one error, or with identities that are shown alike. So an observer of requests, errors and
displayed identities learns no more of a token than its length and which of its segments are empty.

* `SameButForToken`, `AccountReplies.Similar`: replies that differ in their tokens at most;
* `Similar.firstToken`, `Similar.exhausted`: the requests are answered alike;
* `createIdentity_hides_token`: a law about two runs.
-/

namespace GrantProbe

/-- **Two replies that differ in the token at most,** and there not in its shape. -/
inductive SameButForToken : Except Error String → Except Error String → Prop where
  | failed (e : Error) : SameButForToken (.error e) (.error e)
  | given {t t' : String} (h : SameShape t t') : SameButForToken (.ok t) (.ok t')

theorem SameButForToken.error {reply reply' : Except Error String} (h : SameButForToken reply reply')
    {e : Error} (he : reply = .error e) : reply' = .error e := by
  cases h with
  | failed e' => exact he
  | given _ => cases he

theorem SameButForToken.ok {reply reply' : Except Error String} (h : SameButForToken reply reply')
    {t : String} (ht : reply = .ok t) : ∃ t', reply' = .ok t' ∧ SameShape t t' := by
  cases h with
  | failed e => cases ht
  | given hshape =>
    cases ht
    exact ⟨_, rfl, hshape⟩

namespace AccountReplies

/-- **Two sequences of replies that differ in the tokens at most.** -/
structure Similar (left right : AccountReplies) : Prop where
  creation : left.creation = right.creation
  token : ∀ n, SameButForToken (left.token n) (right.token n)
  deletion : left.deletion = right.deletion

namespace Similar

variable {left right : AccountReplies} (h : left.Similar right)
include h

theorem error {n : Nat} (hfail : ∃ e, left.token n = .error e) : ∃ e, right.token n = .error e := by
  obtain ⟨e, he⟩ := hfail
  exact ⟨e, (h.token n).error he⟩

/-- Their first tokens are given to one request, and have one shape. -/
theorem firstToken {n : Nat} {t : String} (hfirst : left.FirstToken n t) :
    ∃ t', right.FirstToken n t' ∧ SameShape t t' := by
  obtain ⟨t', ht', hshape⟩ := (h.token n).ok hfirst.token
  exact ⟨t', ⟨hfirst.within, fun i hi => h.error (hfirst.failures i hi), ht'⟩, hshape⟩

theorem exhausted {e : Error} (hnone : left.Exhausted e) : right.Exhausted e :=
  ⟨fun i hi => h.error (hnone.failures i hi), (h.token 4).error hnone.last⟩

end Similar

end AccountReplies

/-- **The two runs of a creation end alike:** after the same requests, with one error, or with
identities that cannot be told apart by what is shown of them. -/
def EndAlike (left right : AccountReplies) (name scope : String) : Prop :=
  ∃ asked n,
    (∃ e, (createIdentity issuing name scope).Runs left.answer 0 asked (.error (.error e)) n ∧
      (createIdentity issuing name scope).Runs right.answer 0 asked (.error (.error e)) n) ∨
    ∃ i j, (createIdentity issuing name scope).Runs left.answer 0 asked (.ok i) n ∧
      (createIdentity issuing name scope).Runs right.answer 0 asked (.ok j) n ∧
      i.name = j.name ∧ i.scope = j.scope ∧ i.display = j.display ∧
      i.credential.display = j.credential.display

section
variable {left right : AccountReplies} {outcome : Creation} (name scope : String)

theorem endAlike_of_firstToken (hleft : left.creation = .ok outcome)
    (hright : right.creation = .ok outcome) {n : Nat} {t t' : String}
    (hfirst : left.FirstToken n t) (hfirst' : right.FirstToken n t') (hshape : SameShape t t') :
    EndAlike left right name scope := by
  have hissue := runs_issueCredential_token name scope hfirst
  have hissue' := runs_issueCredential_token name scope hfirst'
  rcases hshape.issued with ⟨reason, hreason, hreason'⟩ | ⟨hok, hok'⟩
  · rw [hreason] at hissue
    rw [hreason'] at hissue'
    exact ⟨_, _, Or.inl ⟨_, runs_createIdentity_undone hleft hissue,
      runs_createIdentity_undone hright hissue'⟩⟩
  · rw [hok] at hissue
    rw [hok'] at hissue'
    exact ⟨_, _, Or.inr ⟨_, _, runs_createIdentity_issued hleft hissue,
      runs_createIdentity_issued hright hissue', rfl, rfl, hshape.display_identity name scope,
      hshape.display⟩⟩

theorem endAlike_of_exhausted (hleft : left.creation = .ok outcome)
    (hright : right.creation = .ok outcome) {e : Error} (hnone : left.Exhausted e)
    (hnone' : right.Exhausted e) : EndAlike left right name scope :=
  ⟨_, _, Or.inl ⟨_, runs_createIdentity_undone hleft (runs_issueCredential_exhausted name scope hnone),
    runs_createIdentity_undone hright (runs_issueCredential_exhausted name scope hnone')⟩⟩

end

/-- **No creation tells more of a token than its shape.** Two runs with replies that differ in the
tokens at most make the same requests and end with the same error or with identities that are shown
alike; and whatever is displayed of a credential or an identity, or said of a text that is refused as a
token, is the same for every text of that shape. -/
theorem createIdentity_hides_token :
    (∀ (name scope : String) (left right : AccountReplies), left.Similar right →
      EndAlike left right name scope) ∧
    ∀ t t' : String, SameShape t t' →
      (⟨t⟩ : Credential).display = (⟨t'⟩ : Credential).display ∧
      (∀ name scope, (⟨name, scope, ⟨t⟩⟩ : Identity).display =
        (⟨name, scope, ⟨t'⟩⟩ : Identity).display) ∧
      ∀ reason, Credential.issued t = .error reason ↔ Credential.issued t' = .error reason := by
  refine ⟨fun name scope left right h => ?_, fun t t' hshape =>
    ⟨hshape.display, hshape.display_identity, fun reason => ?_⟩⟩
  · rcases hleft : left.creation with e | outcome
    · have hright := h.creation.symm.trans hleft
      exact ⟨_, _, Or.inl ⟨_, runs_createIdentity_refused hleft, runs_createIdentity_refused hright⟩⟩
    · have hright := h.creation.symm.trans hleft
      rcases left.firstToken_or_exhausted with ⟨n, t, hfirst⟩ | ⟨e, hnone⟩
      · obtain ⟨t', hfirst', hshape⟩ := h.firstToken hfirst
        exact endAlike_of_firstToken name scope hleft hright hfirst hfirst' hshape
      · exact endAlike_of_exhausted name scope hleft hright hnone (h.exhausted hnone)
  · rcases hshape.issued with ⟨reason', hreason, hreason'⟩ | ⟨hok, hok'⟩
    · rw [hreason, hreason']
    · rw [hok, hok']
      exact ⟨nofun, nofun⟩

/-- Another text of the shape of `goodToken`. -/
def otherToken : String := "0123456789-header.0123456789-payload.0123456789-signature"

theorem sameShape_goodToken_otherToken : SameShape goodToken otherToken :=
  ⟨by decide, by decide⟩

theorem similar_slowCluster {t t' : String} (hshape : SameShape t t') :
    (slowCluster t).Similar (slowCluster t') where
  creation := rfl
  token n := by
    by_cases hn : n < 2
    · simp only [slowCluster, if_pos hn]
      exact .failed _
    · simp only [slowCluster, if_neg hn]
      exact .given hshape
  deletion := rfl

/-- Two tokens that share no segment. -/
theorem slowCluster_hides_token :
    goodToken ≠ otherToken ∧
      EndAlike (slowCluster goodToken) (slowCluster otherToken) "alice" "team-a" ∧
      (⟨goodToken⟩ : Credential).display = (⟨otherToken⟩ : Credential).display :=
  ⟨by decide,
    createIdentity_hides_token.1 _ _ _ _ (similar_slowCluster sameShape_goodToken_otherToken),
    (createIdentity_hides_token.2 _ _ sameShape_goodToken_otherToken).1⟩

end GrantProbe
