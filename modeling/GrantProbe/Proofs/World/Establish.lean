import GrantProbe.Proofs.Verification.Schedule
import GrantProbe.Proofs.World.Grant

/-!
# Establishing an identity

In a world that answers reviews from what it stores, a verification of something that is granted
only takes time, or ends abnormally when a delay of its schedule cannot be represented. So
establishing a new identity ends with its grant in force.

* `VerifierConfig.Settles`: a verification never runs out of representable delays;
* `Waits`: a task that only takes time, with `Waits.bind`;
* `waits_verify`: verifying what is granted; `exec_establish`: establishing a new identity.
-/

namespace GrantProbe

/-- **A verification settles:** the group of the tracking service is asked under first, or every
delay can be represented. -/
def VerifierConfig.Settles (c : VerifierConfig) : Prop :=
  c.groups.head? = some trackingGroup ∨ c.backoff.Lasts (c.maxRetries - 1)

/-- The world at another time. -/
def World.atTime (w : World) (now : Nat) : World := { w with now := now }

@[simp] theorem World.atTime_cluster (w : World) (now : Nat) : (w.atTime now).cluster = w.cluster :=
  rfl

@[simp] theorem World.atTime_atTime (w : World) (m n : Nat) : (w.atTime m).atTime n = w.atTime n :=
  rfl

section
variable {α β : Type} {draw : Nat → String} {w : World} {ok : Prop}

/-! ## Tasks that wait -/

/-- **A task that waits:** it changes the time alone, and its result is as said unless it ends
abnormally, which it does not if `ok` holds. -/
def Waits (draw : Nat → String) (ok : Prop) (t : Probe α) (w : World) (Q : α → Prop) : Prop :=
  ∃ now, (∃ a, Q a ∧ t.exec (World.answerWith draw) w = (.ok a, w.atTime now)) ∨
    (¬ok ∧ ∃ p, t.exec (World.answerWith draw) w = (.error (.panic p), w.atTime now))

theorem waits_pure {a : α} {Q : α → Prop} (ha : Q a) : Waits draw ok (pure a) w Q :=
  ⟨w.now, Or.inl ⟨a, ha, rfl⟩⟩

theorem Waits.bind {t : Probe α} {k : α → Probe β} {Q : α → Prop} {R : β → Prop}
    (ht : Waits draw ok t w Q) (hk : ∀ a now, Q a → Waits draw ok (k a) (w.atTime now) R) :
    Waits draw ok (t >>= k) w R := by
  obtain ⟨now, ⟨a, ha, hok⟩ | ⟨hno, p, hp⟩⟩ := ht
  · obtain ⟨later, hlater⟩ := hk a now ha
    refine ⟨later, ?_⟩
    rw [Task.exec_bind_ok hok]
    exact hlater
  · exact ⟨now, Or.inr ⟨hno, p, Task.exec_bind_error hp k⟩⟩

/-! ## Reviews -/

theorem exec_review (hlag : w.cluster.lag = 0) (q : Review) :
    (Probe.reviewer.review q).exec (World.answerWith draw) w =
      (.ok (w.cluster.decideExactly q), w) := by
  change (Probe.access (.review q)).exec _ w = _
  rw [exec_access, World.answerWith_review, Cluster.reviewExactly, hlag]

theorem waits_sleep (d : Duration) :
    Waits draw ok (Probe.reviewer.sleep d) w fun _ => True :=
  ⟨(w.sleep d).now, Or.inl ⟨(), trivial, exec_sleep ..⟩⟩

theorem waits_checkPanic {r : Except Panic α} (h : ok → ∃ a, r = .ok a) :
    Waits draw ok (Task.checkPanic r) w fun a => r = .ok a := by
  cases r with
  | ok a => exact waits_pure rfl
  | error p => exact ⟨w.now, Or.inr ⟨fun hok => by simpa using h hok, p, rfl⟩⟩

variable (hlag : w.cluster.lag = 0)
include hlag

theorem waits_reviewGroup_allowed {q : Review} (hq : w.cluster.decideExactly q = .allowed)
    (next : Duration → Except Panic Duration) (more : Nat) (delay : Duration) (seen : Tally) :
    Waits draw ok (reviewGroup Probe.reviewer next q more delay seen) w fun r => r.1 = true := by
  refine ⟨w.now, Or.inl ⟨(true, ⟨seen.attempts + 1, seen.responder⟩), rfl, ?_⟩⟩
  unfold reviewGroup
  rw [Task.exec_bind_ok (Task.exec_attempt_ok (exec_review hlag q)), hq]
  rfl

/-- Reviews under a group go through its delays, whatever they find. The induction is on the reviews
that are left. -/
theorem waits_reviewGroup {b : Backoff Duration} {steps : Nat} (hok : ok → b.Lasts steps)
    (q : Review) {more i : Nat} (hi : i + more = steps) {delay : Duration}
    (hdelay : b.delay i = .ok delay) (seen : Tally) :
    Waits draw ok (reviewGroup Probe.reviewer b.next q more delay seen) w fun _ => True := by
  induction more generalizing i delay seen w with
  | zero =>
    unfold reviewGroup
    refine Waits.bind (Q := fun _ => True) ?_ ?_
    · exact ⟨w.now, Or.inl ⟨_, trivial, Task.exec_attempt_ok (exec_review hlag q)⟩⟩
    · rintro (e | (_ | reason)) now - <;> exact waits_pure (Q := fun _ => True) trivial
  | succ more ih =>
    have hrest (now : Nat) (seen : Tally) : Waits draw ok (do
        Probe.reviewer.sleep delay
        let delay ← Task.checkPanic (b.next delay)
        reviewGroup Probe.reviewer b.next q more delay seen) (w.atTime now) fun _ => True := by
      refine (waits_sleep delay).bind fun _ later _ => ?_
      have hnext : b.delay (i + 1) = b.next delay := Backoff.delay_succ hdelay
      have hlast : ok → ∃ d, b.next delay = .ok d := fun h => by
        obtain ⟨d, hd⟩ := hok h (i + 1) (by omega)
        exact ⟨d, hnext ▸ hd⟩
      refine (waits_checkPanic hlast).bind fun d later hd => ?_
      exact ih (by simpa using hlag) (by omega) (hnext.trans hd) seen
    unfold reviewGroup
    refine Waits.bind (Q := fun _ => True) ?_ ?_
    · exact ⟨w.now, Or.inl ⟨_, trivial, Task.exec_attempt_ok (exec_review hlag q)⟩⟩
    · rintro (e | (_ | reason)) now -
      · exact hrest now _
      · exact waits_pure (Q := fun _ => True) trivial
      · exact hrest now _

/-- **Reviews under each group** reach one that allows the request. The induction is on the
groups. -/
theorem waits_reviewGroups {b : Backoff Duration} {more : Nat} {q : GrantQuery}
    {groups : List String} {group : String} (hgroup : group ∈ groups)
    (hq : w.cluster.decideExactly (q.under group) = .allowed)
    (hok : ok → groups.head? = some group ∨ b.Lasts more) (seen : Tally) :
    Waits draw ok (reviewGroups Probe.reviewer b more q groups seen) w
      fun r => r.1.isSome = true := by
  induction groups generalizing seen w with
  | nil => exact absurd hgroup List.not_mem_nil
  | cons first rest ih =>
    unfold reviewGroups
    by_cases hfirst : w.cluster.decideExactly (q.under first) = .allowed
    · refine (waits_reviewGroup_allowed hlag hfirst b.next more b.first seen).bind ?_
      rintro ⟨allowed, seen'⟩ now rfl
      exact waits_pure (Q := fun r : Option String × Tally => r.1.isSome = true) rfl
    · have hne : first ≠ group := fun he => hfirst (he ▸ hq)
      have hlasts : ok → b.Lasts more := fun h =>
        (hok h).resolve_left fun he => hne (Option.some.inj he)
      have hrest : group ∈ rest := (List.mem_cons.mp hgroup).resolve_left hne.symm
      refine (waits_reviewGroup hlag hlasts (q.under first) (Nat.zero_add more) rfl seen).bind ?_
      rintro ⟨_ | _, seen'⟩ now -
      · exact ih (by simpa using hlag) hrest (by simpa using hq) (fun h => Or.inr (hlasts h)) seen'
      · exact waits_pure (Q := fun r : Option String × Tally => r.1.isSome = true) rfl

/-- **Verifying what is granted** only takes time. -/
theorem waits_verify (draw : Nat → String) {v : VerifierConfig} (q : GrantQuery)
    (hgroup : trackingGroup ∈ v.groups)
    (hq : w.cluster.decideExactly (q.under trackingGroup) = .allowed)
    (policy : VerificationPolicy) :
    Waits draw v.Settles (v.verify Probe.reviewer policy q) w fun _ => True := by
  unfold VerifierConfig.verify verify
  refine (waits_reviewGroups hlag hgroup hq (fun h => h) ⟨0, none⟩).bind ?_
  rintro ⟨_ | group, seen⟩ now hsome
  · exact absurd hsome (by simp)
  · exact waits_pure (Q := fun _ => True) trivial

theorem waits_verifyKinds {s : Setting} {name scope : String} {verb : Verb}
    {kinds : List ResourceKind} (hgroup : trackingGroup ∈ s.verifier.groups)
    (hkinds : ∀ kind ∈ kinds,
      w.cluster.decideExactly ⟨name, scope, kind, verb, trackingGroup⟩ = .allowed) :
    Waits draw s.verifier.Settles (s.verifyKinds name scope verb kinds) w fun _ => True := by
  induction kinds generalizing w with
  | nil => exact waits_pure (Q := fun _ => True) trivial
  | cons kind rest ih =>
    unfold Setting.verifyKinds
    have hkind := waits_verify hlag draw ⟨name, scope, kind, verb⟩ hgroup
      (hkinds kind List.mem_cons_self) s.verifier.policy
    refine hkind.bind fun _ now _ => ?_
    exact ih (by simpa using hlag) fun k hk => by simpa using hkinds k (List.mem_cons_of_mem _ hk)

end

/-! ## The protocol -/

section
variable {draw : Nat → String} {w : World} {s : Setting} {scope : String}

/-- The name of the identity that is established next. -/
def Setting.nextName (s : Setting) (draw : Nat → String) (w : World) : String :=
  s.namePrefix ++ "-" ++ draw w.draws

/-- The identity that is established next in a workspace. -/
def Setting.nextIdentity (s : Setting) (draw : Nat → String) (w : World) (scope : String) :
    Identity :=
  ⟨s.nextName draw w, scope, Cluster.tokenFor (s.nextName draw w)⟩

/-- The world once an identity has been established. -/
def World.established (w : World) (name scope : String) (c : Capability) : World :=
  { w with cluster := w.cluster.withGrant name scope c.grantedRules, draws := w.draws + 1 }

theorem decideExactly_withGrant {c : Cluster} {name : String} (h : c.Lacks name scope)
    {cap : Capability} {verb : Verb} {kind : ResourceKind} (hp : cap.permits verb kind = true) :
    (c.withGrant name scope cap.grantedRules).decideExactly
      ⟨name, scope, kind, verb, trackingGroup⟩ =
      .allowed := by
  rw [Cluster.decideExactly, h.allowsUnder_withGrant, rulesAllow_grantedRules, hp]
  simp

theorem waits_verification (draw : Nat → String) (hlag : w.cluster.lag = 0)
    (hgroup : trackingGroup ∈ s.verifier.groups) {name : String} (hnew : w.cluster.Lacks name scope)
    (c : Capability) :
    Waits draw s.verifier.Settles
      (match c.verificationVerb? with
        | none => pure ()
        | some verb => s.verifyKinds name scope verb c.resources)
      (w.established name scope c) fun _ => True := by
  cases hverb : c.verificationVerb? with
  | none => exact waits_pure (Q := fun _ => True) trivial
  | some verb =>
    refine waits_verifyKinds (w := w.established name scope c) hlag hgroup fun kind hkind => ?_
    have hpermits : c.permits verb kind = true := by
      simp [Capability.permits, verificationVerb?_mem hverb, hkind]
    exact decideExactly_withGrant hnew hpermits

/-- **Establishing a new identity** ends with its grant in force. -/
theorem exec_establish (draw : Nat → String) (hlag : w.cluster.lag = 0)
    (hgroup : trackingGroup ∈ s.verifier.groups) (hnew : w.cluster.Lacks (s.nextName draw w) scope)
    (c : Capability) :
    ∃ now, (s.establish scope c).exec (World.answerWith draw) w =
        (.ok ⟨s.nextName draw w, scope, Cluster.tokenFor (s.nextName draw w)⟩,
          (w.established (s.nextName draw w) scope c).atTime now) ∨
      (¬s.verifier.Settles ∧ ∃ p, (s.establish scope c).exec (World.answerWith draw) w =
        (.error (.panic p), (w.established (s.nextName draw w) scope c).atTime now)) := by
  have hgrant := exec_grant (w := { w with draws := w.draws + 1 }) draw hnew c
  obtain ⟨now, hwait⟩ := waits_verification draw hlag hgroup hnew c
  have hsuffix : Probe.suffix.exec (World.answerWith draw) w =
      (.ok (draw w.draws), { w with draws := w.draws + 1 }) := exec_suffix ..
  have hcreate : (Probe.identity (.create (s.namePrefix ++ "-" ++ draw w.draws) scope)).exec
      (World.answerWith draw) { w with draws := w.draws + 1 } =
        (.ok ⟨s.nextName draw w, scope, Cluster.tokenFor (s.nextName draw w)⟩,
          World.withAccount { w with draws := w.draws + 1 } (s.nextName draw w) scope) :=
          exec_identity ..
  refine ⟨now, ?_⟩
  unfold Setting.establish
  rw [Task.exec_bind_ok hsuffix, Task.exec_bind_ok hcreate]
  rcases hwait with ⟨_, -, hok⟩ | ⟨hno, p, hp⟩
  · left
    have hauth : (s.authorize
        ⟨s.nextName draw w, scope, Cluster.tokenFor (s.nextName draw w)⟩ c).exec
        (World.answerWith draw) (World.withAccount { w with draws := w.draws + 1 }
          (s.nextName draw w) scope) =
          (.ok (), (w.established (s.nextName draw w) scope c).atTime now) := by
      unfold Setting.authorize
      rw [Task.exec_bind_ok hgrant]
      exact hok
    rw [Task.exec_bind_ok (Task.exec_attempt_ok hauth)]
    rfl
  · right
    have hauth : (s.authorize
        ⟨s.nextName draw w, scope, Cluster.tokenFor (s.nextName draw w)⟩ c).exec
        (World.answerWith draw) (World.withAccount { w with draws := w.draws + 1 }
          (s.nextName draw w) scope) =
          (.error (.panic p), (w.established (s.nextName draw w) scope c).atTime now) := by
      unfold Setting.authorize
      rw [Task.exec_bind_ok hgrant]
      exact hp
    exact ⟨hno, p, Task.exec_bind_error (Task.exec_attempt_panic hauth) _⟩

end

end GrantProbe
