import GrantProbe.Proofs.Provisioning
import GrantProbe.Proofs.Verification.Answers
import GrantProbe.Proofs.World.Establish

/-!
# Waiting for a grant to take effect

A cluster may lag behind what it stores: it denies a number of reviews before it answers from its
roles and bindings. Establishing a new identity outlasts the lag if the schedule still has a review
to ask, under the group of the tracking service, when the lag is over; otherwise the identity is
retired again. The condition is exact.

* `World.later`: a world after a part of its lag;
* `World.Proves`: the reviews of a grant are allowed under one group alone;
* `VerifierConfig.Reaches`: the schedule outlasts the lag; `runs_verify_reached`,
  `runs_verify_unreached`: what a verification does in either case;
* `establish_waits_out_lag`: establishing an identity.
-/

namespace GrantProbe

open Program (Handler)

/-! ## A lagging world -/

/-- The world at another time, with a number of reviews left that it denies. -/
def World.later (w : World) (lag now : Nat) : World :=
  { w with cluster := { w.cluster with lag := lag }, now := now }

/-- **A grant is in the stored objects,** under the group of the tracking service and no other. -/
def World.Proves (w : World) (q : GrantQuery) : Prop :=
  ∀ group, w.cluster.decideExactly (q.under group) = .allowed ↔ group = trackingGroup

section
variable {w : World} {lag now : Nat}

@[simp] theorem later_lag : (w.later lag now).cluster.lag = lag := rfl

@[simp] theorem later_later {lag' now' : Nat} :
    (w.later lag now).later lag' now' = w.later lag' now' := rfl

theorem World.Proves.later {q : GrantQuery} (h : w.Proves q) (lag now : Nat) :
    (w.later lag now).Proves q := h

/-- A review takes one off the lag, and is answered from what is stored when there is none. -/
theorem answerWith_review_later (draw : Nat → String) (q : Review) :
    World.answerWith draw (.access (.review q)) (w.later lag now) =
      (.ok (if lag = 0 then w.cluster.decideExactly q else .denied none),
        w.later (lag - 1) now) := by
  cases lag with
  | zero => rfl
  | succ lag => rfl

theorem foldl_sleep_later (draw : Nat → String) (ds : List Duration) :
    ∃ now', ds.foldl (fun v d => (World.answerWith draw (.sleep d) v).2) (w.later lag now) =
      w.later lag now' := by
  induction ds generalizing now with
  | nil => exact ⟨now, rfl⟩
  | cons d ds ih =>
    have hsleep : (World.answerWith draw (.sleep d) (w.later lag now)).2 =
        w.later lag (now + d.millisToEnd) := rfl
    rw [List.foldl_cons, hsleep]
    exact ih

end

section
variable (c : VerifierConfig) (draw : Nat → String) (q : GrantQuery) (w : World)

/-- **Each review of the schedule takes one off the lag.** -/
theorem worldBefore_later (i : Nat) :
    ∃ now, c.worldBefore (World.answerWith draw) q w i = w.later (w.cluster.lag - i) now := by
  induction i with
  | zero => exact ⟨w.now, rfl⟩
  | succ i ih =>
    obtain ⟨now, hbefore⟩ := ih
    have hafter : c.worldAfter (World.answerWith draw) q w i =
        w.later (w.cluster.lag - (i + 1)) now := by
      rw [VerifierConfig.worldAfter, VerifierConfig.reviewAt, hbefore, answerWith_review_later]
      rfl
    rw [VerifierConfig.worldBefore_succ, hafter]
    exact foldl_sleep_later draw _

theorem worldAfter_later (i : Nat) :
    ∃ now, c.worldAfter (World.answerWith draw) q w i = w.later (w.cluster.lag - (i + 1)) now := by
  obtain ⟨now, hbefore⟩ := worldBefore_later c draw q w i
  refine ⟨now, ?_⟩
  rw [VerifierConfig.worldAfter, VerifierConfig.reviewAt, hbefore, answerWith_review_later]
  rfl

theorem reply_later (i : Nat) : c.reply (World.answerWith draw) q w i =
    .ok (if w.cluster.lag ≤ i then w.cluster.decideExactly (q.under (c.groupAt i))
      else .denied none) := by
  obtain ⟨now, hbefore⟩ := worldBefore_later c draw q w i
  rw [VerifierConfig.reply, hbefore, answerWith_review_later]
  simp only [Nat.sub_eq_zero_iff_le]

end

/-! ## A verification in a lagging world -/

/-- **The schedule outlasts a lag:** after as many reviews there is one left under the group of the
tracking service. -/
def VerifierConfig.Reaches (c : VerifierConfig) (lag : Nat) : Prop :=
  ∃ p, c.groups[p]? = some trackingGroup ∧ lag < (p + 1) * c.rounds

section
variable {c : VerifierConfig} (draw : Nat → String) {q : GrantQuery} {w : World}

/-- A review that can be allowed is one after the lag, under the group of the tracking service. -/
theorem reaches_iff {lag : Nat} :
    c.Reaches lag ↔ ∃ n, n < c.budget ∧ lag ≤ n ∧ c.groupAt n = trackingGroup := by
  constructor
  · rintro ⟨p, hgroup, hlag⟩
    have hp : p < c.groups.length := (List.getElem?_eq_some_iff.mp hgroup).1
    obtain ⟨k, hk, hle⟩ : ∃ k < c.rounds, lag ≤ p * c.rounds + k := by
      refine ⟨c.rounds - 1, by have := c.rounds_pos; omega, ?_⟩
      rw [Nat.succ_mul] at hlag
      omega
    refine ⟨p * c.rounds + k, ?_, hle, ?_⟩
    · calc p * c.rounds + k < (p + 1) * c.rounds := by rw [Nat.succ_mul]; omega
        _ ≤ c.groups.length * c.rounds := Nat.mul_le_mul_right _ hp
    · rw [c.groupAt_row hk, List.getD_eq_getElem?_getD, hgroup]
      rfl
  · rintro ⟨n, hn, hlag, hgroup⟩
    refine ⟨n / c.rounds, ?_, ?_⟩
    · rw [c.getElem?_groups hn, hgroup]
    · rw [Nat.mul_comm]
      exact Nat.lt_of_le_of_lt hlag (Nat.lt_mul_div_succ n c.rounds_pos)

variable (hproves : w.Proves q)
include hproves

theorem reply_eq_allowed_iff (i : Nat) : c.reply (World.answerWith draw) q w i = .ok .allowed ↔
    w.cluster.lag ≤ i ∧ c.groupAt i = trackingGroup := by
  rw [reply_later]
  split_ifs with hlag
  · simpa [hlag] using hproves (c.groupAt i)
  · simp [hlag]

theorem isRefused_reply {i : Nat} (h : ¬(w.cluster.lag ≤ i ∧ c.groupAt i = trackingGroup)) :
    IsRefused (c.reply (World.answerWith draw) q w i) := by
  have hne := mt (reply_eq_allowed_iff (c := c) draw hproves i).mp h
  rw [reply_later] at hne ⊢
  cases hd : (if w.cluster.lag ≤ i then w.cluster.decideExactly (q.under (c.groupAt i))
      else .denied none) with
  | allowed => exact absurd (congrArg Except.ok hd) hne
  | denied reason => exact Or.inl ⟨reason, rfl⟩

/-- **A verification that outlasts the lag** ends with it. When the tracking service is asked for
first, its last review is the first after the lag. -/
theorem runs_verify_reached (hlasts : c.backoff.Lasts (c.maxRetries - 1))
    (policy : VerificationPolicy) (hreach : c.Reaches w.cluster.lag) :
    ∃ n verdict now, (c.verify Probe.reviewer policy q).Runs (World.answerWith draw) w
        (c.schedule q (n + 1)) (.ok verdict) (w.later 0 now) ∧
      n < c.budget ∧
      (c.groups.head? = some trackingGroup → w.cluster.lag < c.rounds → n = w.cluster.lag) := by
  classical
  have hfind := reaches_iff.mp hreach
  obtain ⟨hn, hlag, hgroup⟩ := Nat.find_spec hfind
  have hbefore (i : Nat) (hi : i < Nat.find hfind) :
      IsRefused (c.reply (World.answerWith draw) q w i) :=
    isRefused_reply draw hproves fun h => Nat.find_min hfind hi ⟨Nat.lt_trans hi hn, h⟩
  have hrun := runs_verify_allowed c (World.answerWith draw) q w hlasts policy hn hbefore
    ((reply_eq_allowed_iff draw hproves _).mpr ⟨hlag, hgroup⟩)
  obtain ⟨now, hafter⟩ := worldAfter_later c draw q w (Nat.find hfind)
  rw [hafter, Nat.sub_eq_zero_of_le (Nat.le_succ_of_le hlag)] at hrun
  refine ⟨Nat.find hfind, _, now, hrun, hn, fun hhead hshort => ?_⟩
  have hfirst : c.groupAt w.cluster.lag = trackingGroup := by
    rw [VerifierConfig.groupAt, Nat.div_eq_of_lt hshort, List.getD_eq_getElem?_getD,
      ← List.head?_eq_getElem?, hhead]
    rfl
  exact Nat.le_antisymm
    (Nat.find_min' hfind ⟨Nat.lt_of_le_of_lt hlag hn, Nat.le_refl _, hfirst⟩) hlag

/-- **A verification that the lag outlasts** asks every row and is never allowed. -/
theorem runs_verify_unreached (hlasts : c.backoff.Lasts (c.maxRetries - 1))
    (policy : VerificationPolicy) (hreach : ¬c.Reaches w.cluster.lag) :
    ∃ responder now, (c.verify Probe.reviewer policy q).Runs (World.answerWith draw) w
        (c.schedule q c.budget) (giveUp c q responder policy)
        (w.later (w.cluster.lag - c.budget) now) := by
  have hrefused (i : Nat) (hi : i < c.budget) :
      IsRefused (c.reply (World.answerWith draw) q w i) :=
    isRefused_reply draw hproves fun h => hreach (reaches_iff.mpr ⟨i, hi, h⟩)
  have hrun := runs_verify_refused c (World.answerWith draw) q w hlasts policy hrefused
  obtain ⟨now, hbefore⟩ := worldBefore_later c draw q w c.budget
  rw [hbefore] at hrun
  exact ⟨_, now, hrun⟩

end

/-! ## The kinds of a capability -/

section
variable {s : Setting} (draw : Nat → String) {w : World} {name scope : String} {verb : Verb}
  (hlasts : s.verifier.backoff.Lasts (s.verifier.maxRetries - 1))
include hlasts

/-- **Once the lag is over** every kind is verified. The induction is on the kinds. -/
theorem runs_verifyKinds {kinds : List ResourceKind} (hgroup : trackingGroup ∈ s.verifier.groups)
    (hlag : w.cluster.lag = 0) (hproves : ∀ kind ∈ kinds, w.Proves ⟨name, scope, kind, verb⟩) :
    ∃ asked now, (s.verifyKinds name scope verb kinds).Runs (World.answerWith draw) w asked
        (.ok ()) (w.later 0 now) ∧
      (s.verifier.groups.head? = some trackingGroup → (reviewsIn asked).length = kinds.length) := by
  induction kinds generalizing w with
  | nil =>
    refine ⟨[], w.now, ?_, fun _ => rfl⟩
    rw [← hlag]
    exact Task.runs_pure _
  | cons kind rest ih =>
    have hreach : s.verifier.Reaches w.cluster.lag := by
      obtain ⟨p, hp⟩ := List.mem_iff_getElem?.mp hgroup
      refine ⟨p, hp, ?_⟩
      rw [hlag]
      exact Nat.mul_pos p.succ_pos s.verifier.rounds_pos
    obtain ⟨n, verdict, now, hfirst, hn, hcount⟩ := runs_verify_reached draw
      (hproves kind List.mem_cons_self) hlasts s.verifier.policy hreach
    obtain ⟨asked, later, hrest, hlength⟩ := ih (w := w.later 0 now) rfl
      fun k hk => (hproves k (List.mem_cons_of_mem _ hk)).later 0 now
    refine ⟨_, later, hfirst.bind_ok hrest, fun hhead => ?_⟩
    have hzero : n = 0 := (hcount hhead (by rw [hlag]; exact s.verifier.rounds_pos)).trans hlag
    rw [reviewsIn_append, List.length_append, hlength hhead, VerifierConfig.reviewsIn_schedule,
      List.length_map, List.length_range, hzero, List.length_cons, Nat.add_comm]

/-- **The first kind waits out the lag,** and the others find it over. -/
theorem runs_verifyKinds_reached {kind : ResourceKind} {rest : List ResourceKind}
    (hreach : s.verifier.Reaches w.cluster.lag)
    (hproves : ∀ k ∈ kind :: rest, w.Proves ⟨name, scope, k, verb⟩) :
    ∃ asked now, (s.verifyKinds name scope verb (kind :: rest)).Runs (World.answerWith draw) w
        asked (.ok ()) (w.later 0 now) ∧
      (s.verifier.groups.head? = some trackingGroup → w.cluster.lag < s.verifier.rounds →
        (reviewsIn asked).length = w.cluster.lag + (kind :: rest).length) := by
  have hgroup : trackingGroup ∈ s.verifier.groups := by
    obtain ⟨p, hp, -⟩ := hreach
    exact List.mem_of_getElem? hp
  obtain ⟨n, verdict, now, hfirst, hn, hcount⟩ := runs_verify_reached draw
    (hproves kind List.mem_cons_self) hlasts s.verifier.policy hreach
  obtain ⟨asked, later, hrest, hlength⟩ := runs_verifyKinds draw hlasts
    hgroup (w := w.later 0 now) rfl fun k hk => (hproves k (List.mem_cons_of_mem _ hk)).later 0 now
  refine ⟨_, later, hfirst.bind_ok hrest, fun hhead hshort => ?_⟩
  rw [reviewsIn_append, List.length_append, hlength hhead, VerifierConfig.reviewsIn_schedule,
    List.length_map, List.length_range, hcount hhead hshort, List.length_cons]
  omega

/-- **The first kind uses up the budget** when the lag is too long. -/
theorem runs_verifyKinds_unreached {kind : ResourceKind} (rest : List ResourceKind)
    (hpolicy : s.verifier.policy = .enforce) (hreach : ¬s.verifier.Reaches w.cluster.lag)
    (hproves : w.Proves ⟨name, scope, kind, verb⟩) :
    ∃ asked now, (s.verifyKinds name scope verb (kind :: rest)).Runs (World.answerWith draw) w
        asked (.error (.error (.exhausted name scope kind.text verb.text s.verifier.groups)))
        (w.later (w.cluster.lag - s.verifier.budget) now) ∧
      (reviewsIn asked).length = s.verifier.budget := by
  obtain ⟨responder, now, hrun⟩ := runs_verify_unreached draw hproves hlasts
    s.verifier.policy hreach
  rw [hpolicy] at hrun
  refine ⟨s.verifier.schedule ⟨name, scope, kind, verb⟩ s.verifier.budget, now, ?_, ?_⟩
  · unfold Setting.verifyKinds
    rw [hpolicy]
    exact hrun.bind_error
  · rw [VerifierConfig.reviewsIn_schedule, List.length_map, List.length_range]

end

/-! ## Grants under one group -/

theorem group_of_rulesAllow {c : Capability} {group verb : String} {kind : ResourceKind}
    (h : rulesAllow c.grantedRules group kind.text verb = true) : group = trackingGroup := by
  obtain ⟨rule, hrule, hallows⟩ := List.any_eq_true.mp h
  obtain ⟨⟨hgroup, hkind⟩, -⟩ : (rule.groups.contains group = true ∧
      rule.resources.contains kind.text = true) ∧ rule.verbs.contains verb = true := by
    simpa only [Rule.allows, Bool.and_eq_true] using hallows
  rcases List.mem_append.mp hrule with hown | hbootstrap
  · have htracking : rule.groups = [trackingGroup] := by
      rcases List.mem_append.mp hown with hmain | hsub
      · unfold Capability.mainRules at hmain
        split_ifs at hmain
        · exact absurd hmain List.not_mem_nil
        · rw [List.mem_singleton.mp hmain]
      · unfold Capability.subresourceRules at hsub
        split_ifs at hsub
        · exact absurd hsub List.not_mem_nil
        · rw [List.mem_singleton.mp hsub]
    rw [htracking] at hgroup
    simpa using hgroup
  · -- The rules of every identity are in other groups, but no kind is a resource of theirs.
    have hnone : ∀ r ∈ bootstrapRules, r.resources.contains kind.text = false := by
      cases kind <;> decide
    rw [hnone rule hbootstrap] at hkind
    cases hkind

theorem verificationVerb?_eq_none_iff {c : Capability} :
    c.verificationVerb? = none ↔ c.verbs = [] := by
  constructor
  · intro h
    unfold Capability.verificationVerb? at h
    split_ifs at h
    refine List.eq_nil_iff_forall_not_mem.mpr fun verb hverb => ?_
    have hall : verb ∈ Verb.all := by cases verb <;> decide
    exact List.find?_eq_none.mp h verb hall (by simpa [Capability.grants] using hverb)
  · intro h
    cases hverb : c.verificationVerb? with
    | none => rfl
    | some verb => exact absurd (verificationVerb?_mem hverb) (by simp [h])

section
variable {draw : Nat → String} {w : World} {name scope : String} {c : Capability}

/-- **A new grant is proved by its own reviews,** and by no others. -/
theorem proves_established (hnew : w.cluster.Lacks name scope) {verb : Verb} {kind : ResourceKind}
    (hverb : verb ∈ c.verbs) (hkind : kind ∈ c.resources) :
    (w.established name scope c).Proves ⟨name, scope, kind, verb⟩ := by
  intro group
  have hpermits : c.permits verb kind = true := by simp [Capability.permits, hverb, hkind]
  have hallows : (w.established name scope c).cluster.allowsUnder group name scope kind.text
      verb.text = rulesAllow c.grantedRules group kind.text verb.text := by
    change (w.cluster.withGrant name scope c.grantedRules).allowsUnder _ _ _ _ _ = _
    rw [hnew.allowsUnder_withGrant, beq_self_eq_true, Bool.true_and]
  rw [Cluster.decideExactly, GrantQuery.under, hallows]
  constructor
  · intro hallowed
    have hrules : rulesAllow c.grantedRules group kind.text verb.text = true := by
      by_contra hno
      rw [if_neg hno] at hallowed
      cases hallowed
    exact group_of_rulesAllow hrules
  · rintro rfl
    rw [rulesAllow_grantedRules, hpermits]
    rfl

/-- Retiring a new identity leaves what was there before, and the lag as it is. -/
theorem without_established (hnew : w.cluster.Lacks name scope) (lag now : Nat) :
    ((w.established name scope c).later lag now).cluster.without name scope =
      { w.cluster with lag := lag } :=
  congrArg (fun k : Cluster => { k with lag := lag }) (hnew.without_withGrant c.grantedRules)

end

/-! ## The protocol -/

/-- A request is no review. -/
def Ask.IsNoReview (r : Ask) : Prop := r.review? = none

theorem reviewsIn_trace {σ α : Type} {h : Handler probe σ} {v : σ} {t : Probe α}
    (ht : t.Asks Ask.IsNoReview) : reviewsIn (t.trace h v) = [] := by
  refine List.filterMap_eq_nil_iff.mpr fun r hr => ?_
  rw [← Task.map_request_dialogue] at hr
  obtain ⟨x, hx, rfl⟩ := List.mem_map.mp hr
  exact ht.of_mem_dialogue hx

theorem Ask.IsGrant.isNoReview {r : Ask} (h : r.IsGrant) : r.IsNoReview := by cases h <;> rfl

theorem Ask.IsWithdrawal.isNoReview {r : Ask} (h : r.IsWithdrawal) : r.IsNoReview := by
  cases h <;> rfl

section
variable {draw : Nat → String} {w : World} {s : Setting} {scope : String} {c : Capability}

variable (hnew : w.cluster.Lacks (s.nextName draw w) scope) {asked : List Ask} {w' : World}
include hnew

/-- The reviews of an authorization are those of waiting for its grant. -/
theorem runs_authorize {o : Outcome Unit}
    (hwait : (s.awaitGrant (s.nextIdentity draw w scope) c).Runs (World.answerWith draw)
      (w.established (s.nextName draw w) scope c) asked o w') :
    ∃ all, (s.authorize (s.nextIdentity draw w scope) c).Runs (World.answerWith draw)
        (World.withAccount { w with draws := w.draws + 1 } (s.nextName draw w) scope) all o w' ∧
      reviewsIn all = reviewsIn asked := by
  have hgrant : (grant Probe.access (s.nextName draw w) scope c).Runs (World.answerWith draw)
      (World.withAccount { w with draws := w.draws + 1 } (s.nextName draw w) scope) _ (.ok ())
      (w.established (s.nextName draw w) scope c) :=
    ⟨exec_grant (w := { w with draws := w.draws + 1 }) draw hnew c, rfl⟩
  refine ⟨_, hgrant.bind_ok hwait, ?_⟩
  rw [reviewsIn_append, reviewsIn_trace ((asks_grant _ _ c).mono fun _ => Ask.IsGrant.isNoReview),
    List.nil_append]

omit hnew in
theorem runs_establish {o : Outcome Identity}
    (henrol : (s.enrol (s.nextIdentity draw w scope) c).Runs (World.answerWith draw)
      (World.withAccount { w with draws := w.draws + 1 } (s.nextName draw w) scope) asked o w') :
    (s.establish scope c).Runs (World.answerWith draw) w
      ([.suffix] ++ ([.identity (.create (s.nextName draw w) scope)] ++ asked)) o w' := by
  have hsuffix : Probe.suffix.Runs (World.answerWith draw) w [.suffix] (.ok (draw w.draws))
      { w with draws := w.draws + 1 } := ⟨exec_suffix .., rfl⟩
  have hcreate : (Probe.identity (.create (s.nextName draw w) scope)).Runs (World.answerWith draw)
      { w with draws := w.draws + 1 } [.identity (.create (s.nextName draw w) scope)]
      (.ok (s.nextIdentity draw w scope))
      (World.withAccount { w with draws := w.draws + 1 } (s.nextName draw w) scope) :=
    ⟨exec_identity .., rfl⟩
  rw [s.establish_eq]
  exact hsuffix.bind_ok (hcreate.bind_ok henrol)

theorem runs_establish_ok (hwait : (s.awaitGrant (s.nextIdentity draw w scope) c).Runs
    (World.answerWith draw) (w.established (s.nextName draw w) scope c) asked (.ok ()) w') :
    ∃ all, (s.establish scope c).Runs (World.answerWith draw) w all
        (.ok (s.nextIdentity draw w scope)) w' ∧
      reviewsIn all = reviewsIn asked := by
  obtain ⟨written, hauth, hreviews⟩ := runs_authorize hnew hwait
  have henrol : (s.enrol (s.nextIdentity draw w scope) c).Runs (World.answerWith draw) _
      (written ++ []) (.ok (s.nextIdentity draw w scope)) w' :=
    hauth.attempt_ok.bind_ok (Task.runs_pure _)
  refine ⟨_, runs_establish henrol, ?_⟩
  simp only [reviewsIn_append, hreviews, List.append_nil]
  rfl

/-- **When waiting fails** the identity is retired, which asks for no review. -/
theorem runs_establish_error {e : Error} (hwait : (s.awaitGrant (s.nextIdentity draw w scope) c).Runs
    (World.answerWith draw) (w.established (s.nextName draw w) scope c) asked
    (.error (.error e)) w') :
    ∃ all, (s.establish scope c).Runs (World.answerWith draw) w all (.error (.error e))
        { w' with cluster := w'.cluster.without (s.nextName draw w) scope } ∧
      reviewsIn all = reviewsIn asked := by
  obtain ⟨written, hauth, hreviews⟩ := runs_authorize hnew hwait
  have hretire : (Setting.retire (s.nextIdentity draw w scope)).Runs (World.answerWith draw) w' _
      (.ok []) { w' with cluster := w'.cluster.without (s.nextName draw w) scope } :=
    ⟨exec_retire _, rfl⟩
  have hnone : reviewsIn ((Setting.retire (s.nextIdentity draw w scope)).trace
      (World.answerWith draw) w') = [] :=
    reviewsIn_trace ((asks_retire _).mono fun _ => Ask.IsWithdrawal.isNoReview)
  have henrol : (s.enrol (s.nextIdentity draw w scope) c).Runs (World.answerWith draw) _
      (written ++ ((Setting.retire (s.nextIdentity draw w scope)).trace (World.answerWith draw) w' ++
        [])) (.error (.error e)) { w' with cluster := w'.cluster.without (s.nextName draw w) scope } :=
    hauth.attempt_error.bind_ok (hretire.bind_ok (Task.runs_fail e))
  refine ⟨_, runs_establish henrol, ?_⟩
  simp only [reviewsIn_append, hreviews, hnone, List.append_nil]
  rfl

theorem runs_establish_nothing (hempty : c.verbs = [] ∨ c.resources = []) :
    ∃ all w', (s.establish scope c).Runs (World.answerWith draw) w all
        (.ok (s.nextIdentity draw w scope)) w' ∧
      reviewsIn all = [] := by
  have hawait : s.awaitGrant (s.nextIdentity draw w scope) c = pure () := by
    unfold Setting.awaitGrant
    rcases hempty with hverbs | hresources
    · rw [verificationVerb?_eq_none_iff.mpr hverbs]
    · rw [hresources]
      cases c.verificationVerb? <;> rfl
  have hwait := Task.runs_pure (h := World.answerWith draw)
    (w := w.established (s.nextName draw w) scope c) ()
  rw [← hawait] at hwait
  obtain ⟨all, hrun, hreviews⟩ := runs_establish_ok hnew hwait
  exact ⟨all, _, hrun, hreviews⟩

variable (hlasts : s.verifier.backoff.Lasts (s.verifier.maxRetries - 1)) {verb : Verb}
  {kind : ResourceKind} {rest : List ResourceKind} (hverb : c.verificationVerb? = some verb)
  (hkinds : c.resources = kind :: rest)
include hlasts hverb hkinds

omit hnew hlasts in
theorem awaitGrant_eq : s.awaitGrant (s.nextIdentity draw w scope) c =
    s.verifyKinds (s.nextName draw w) scope verb (kind :: rest) := by
  rw [Setting.awaitGrant, hverb, hkinds]
  rfl

omit hlasts in
theorem proves_kinds : ∀ k ∈ kind :: rest,
    (w.established (s.nextName draw w) scope c).Proves ⟨s.nextName draw w, scope, k, verb⟩ :=
  fun _ hk => proves_established hnew (verificationVerb?_mem hverb) (hkinds ▸ hk)

/-- **A lag that the schedule outlasts** only costs reviews. -/
theorem runs_establish_reached (hreach : s.verifier.Reaches w.cluster.lag) :
    ∃ all w', (s.establish scope c).Runs (World.answerWith draw) w all
        (.ok (s.nextIdentity draw w scope)) w' ∧
      (s.verifier.groups.head? = some trackingGroup → w.cluster.lag < s.verifier.rounds →
        (reviewsIn all).length = w.cluster.lag + c.resources.length) := by
  obtain ⟨asked, now, hwait, hcount⟩ := runs_verifyKinds_reached draw
    (w := w.established (s.nextName draw w) scope c) hlasts hreach (proves_kinds hnew hverb hkinds)
  rw [← awaitGrant_eq hverb hkinds] at hwait
  obtain ⟨all, hrun, hreviews⟩ := runs_establish_ok hnew hwait
  refine ⟨all, _, hrun, fun hhead hshort => ?_⟩
  rw [hreviews, hcount hhead hshort, hkinds]
  rfl

/-- **A lag that outlasts the schedule** costs all its reviews, and the identity is gone again. -/
theorem runs_establish_unreached (hpolicy : s.verifier.policy = .enforce)
    (hreach : ¬s.verifier.Reaches w.cluster.lag) :
    ∃ all w', (s.establish scope c).Runs (World.answerWith draw) w all
        (.error (.error (.exhausted (s.nextName draw w) scope kind.text verb.text
          s.verifier.groups))) w' ∧
      (reviewsIn all).length = s.verifier.budget ∧
      w'.cluster = { w.cluster with lag := w.cluster.lag - s.verifier.budget } ∧
      w'.cluster.Lacks (s.nextName draw w) scope := by
  obtain ⟨asked, now, hwait, hcount⟩ := runs_verifyKinds_unreached draw
    (w := w.established (s.nextName draw w) scope c) hlasts rest hpolicy hreach
    (proves_kinds hnew hverb hkinds kind List.mem_cons_self)
  rw [← awaitGrant_eq hverb hkinds] at hwait
  obtain ⟨all, hrun, hreviews⟩ := runs_establish_error hnew hwait
  have hcluster := without_established (c := c) hnew (w.cluster.lag - s.verifier.budget) now
  have hlacks : Cluster.Lacks { w.cluster with lag := w.cluster.lag - s.verifier.budget }
      (s.nextName draw w) scope := ⟨hnew.role, hnew.binding, hnew.subject, hnew.account⟩
  refine ⟨all, _, hrun, hreviews ▸ hcount, hcluster, ?_⟩
  rw [← hcluster] at hlacks
  exact hlacks

end

/-- **Establishing an identity waits out a lag,** exactly as long as the schedule has reviews left
to ask under the group of the tracking service. Nothing is stored for the name before. When the
group is the first, and has enough reviews, the lag costs a review each and every kind one more.
When the reviews run out, the first kind is reported and the cluster has only lost its lag. A
capability that grants nothing costs no review. -/
theorem establish_waits_out_lag (draw : Nat → String) (w : World) (s : Setting) (scope : String)
    (c : Capability) (hpolicy : s.verifier.policy = .enforce)
    (hlasts : s.verifier.backoff.Lasts (s.verifier.maxRetries - 1))
    (hnew : w.cluster.Lacks (s.nextName draw w) scope) :
    (c.verbs ≠ [] → c.resources ≠ [] →
      ((∃ i w', (s.establish scope c).exec (World.answerWith draw) w = (.ok i, w')) ↔
        ∃ p, s.verifier.groups[p]? = some trackingGroup ∧
          w.cluster.lag < (p + 1) * s.verifier.rounds) ∧
      (s.verifier.groups.head? = some trackingGroup → w.cluster.lag < s.verifier.rounds →
        (reviewsIn ((s.establish scope c).trace (World.answerWith draw) w)).length =
          w.cluster.lag + c.resources.length) ∧
      ((¬∃ i w', (s.establish scope c).exec (World.answerWith draw) w = (.ok i, w')) →
        ∃ kind verb w', c.resources.head? = some kind ∧ c.verificationVerb? = some verb ∧
          (s.establish scope c).exec (World.answerWith draw) w =
            (.error (.error (.exhausted (s.nextName draw w) scope kind.text verb.text
              s.verifier.groups)), w') ∧
          (reviewsIn ((s.establish scope c).trace (World.answerWith draw) w)).length =
            s.verifier.budget ∧
          w'.cluster = { w.cluster with lag := w.cluster.lag - s.verifier.budget } ∧
          w'.cluster.Lacks (s.nextName draw w) scope)) ∧
    (c.verbs = [] ∨ c.resources = [] →
      ∃ i w', (s.establish scope c).exec (World.answerWith draw) w = (.ok i, w') ∧
        reviewsIn ((s.establish scope c).trace (World.answerWith draw) w) = []) := by
  refine ⟨fun hverbs hresources => ?_, fun hempty => ?_⟩
  · obtain ⟨verb, hverb⟩ : ∃ verb, c.verificationVerb? = some verb :=
      Option.ne_none_iff_exists'.mp fun h => hverbs (verificationVerb?_eq_none_iff.mp h)
    obtain ⟨kind, rest, hkinds⟩ := List.exists_cons_of_ne_nil hresources
    by_cases hreach : s.verifier.Reaches w.cluster.lag
    · obtain ⟨all, w', hrun, hcount⟩ := runs_establish_reached hnew hlasts hverb hkinds hreach
      refine ⟨iff_of_true ⟨_, _, hrun.exec⟩ hreach, fun hhead hshort => ?_, fun hno => ?_⟩
      · rw [hrun.trace, hcount hhead hshort]
      · exact absurd ⟨_, _, hrun.exec⟩ hno
    · obtain ⟨all, w', hrun, hcount, hcluster, hlacks⟩ :=
        runs_establish_unreached hnew hlasts hverb hkinds hpolicy hreach
      refine ⟨iff_of_false ?_ hreach, fun hhead hshort => ?_, fun _ => ?_⟩
      · rintro ⟨i, v, hok⟩
        rw [hrun.exec] at hok
        cases hok
      · refine absurd ⟨0, ?_, ?_⟩ hreach
        · rw [← List.head?_eq_getElem?, hhead]
        · rw [Nat.zero_add, Nat.one_mul]
          exact hshort
      · refine ⟨kind, verb, w', by rw [hkinds]; rfl, hverb, hrun.exec, ?_, hcluster, hlacks⟩
        rw [hrun.trace, hcount]
  · obtain ⟨all, w', hrun, hreviews⟩ := runs_establish_nothing hnew hempty
    exact ⟨_, w', hrun.exec, hrun.trace ▸ hreviews⟩

/-- A setting with two reviews under each of two groups. -/
def pairSetting : Setting := ⟨["workspace1"], ⟨"admin-token"⟩, pairVerifier, "probe"⟩

/-- Four reviews, of which the last two are under the group of the tracking service, outlast a lag
of three, and no lag of four. -/
theorem pairSetting_waits :
    (∃ i w', (pairSetting.establish "workspace1" (.ofPreset .read [.jobs, .experiments])).exec
      (World.answerWith toString) (.fresh trackingGroup 3 true) = (.ok i, w')) ∧
    (∃ w', (pairSetting.establish "workspace1" (.ofPreset .read [.jobs, .experiments])).exec
        (World.answerWith toString) (.fresh trackingGroup 4 true) =
          (.error (.error (.exhausted "probe-0" "workspace1" "jobs" "get"
            ["mlflow.org", trackingGroup])), w') ∧
      w'.cluster = .empty trackingGroup 0) := by
  have hnew (lag : Nat) : (World.fresh trackingGroup lag true).cluster.Lacks
      (pairSetting.nextName toString (.fresh trackingGroup lag true)) "workspace1" :=
    ⟨nofun, nofun, nofun, nofun⟩
  have hrun (lag : Nat) := (establish_waits_out_lag toString (.fresh trackingGroup lag true)
    pairSetting "workspace1" (.ofPreset .read [.jobs, .experiments]) rfl lasts_pairVerifier
    (hnew lag)).1 (by decide) (by decide)
  have hshort : ¬∃ p, pairSetting.verifier.groups[p]? = some trackingGroup ∧
      4 < (p + 1) * pairSetting.verifier.rounds := by
    rintro ⟨p, hgroup, hlag⟩
    have hp : p < 2 := (List.getElem?_eq_some_iff.mp hgroup).1
    have hrounds : pairSetting.verifier.rounds = 2 := rfl
    rw [hrounds] at hlag
    omega
  refine ⟨(hrun 3).1.mpr ⟨1, rfl, by decide⟩, ?_⟩
  obtain ⟨kind, verb, w', hkind, hverb, hexec, -, hcluster, -⟩ :=
    (hrun 4).2.2 fun hok => hshort ((hrun 4).1.mp hok)
  obtain rfl : ResourceKind.jobs = kind := Option.some.inj hkind
  obtain rfl : Verb.get = verb := Option.some.inj hverb
  exact ⟨w', hexec, hcluster⟩

end GrantProbe
