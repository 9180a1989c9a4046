import GrantProbe.Proofs.Cleanup.Completion
import GrantProbe.Proofs.Text.Part

/-!
# What a suite accounts for

A suite has one result for each of its cases, in their order, however each of them ends and whatever its
cleanup complains of. A case is run in a state of its own and torn down once, right after it; the baseline
is removed once, after the last case. Only a call of a cleanup that ends abnormally cuts a suite short.

* `CaseResult.Reports`: what a result says of a case, of its end and of its teardown;
* `Task.Sturdy`: tasks that stop short only where a call ends abnormally; `sturdy_removeBaseline`;
* `Fixture.RunsCase`, `Fixture.RunsCases`: cases that are run, torn down and reported, one after the
  other; `Fixture.CutsShort`: how a teardown can end that; `runOne_goes`, `runAll_goes`;
* `SuiteSummary.AccountsFor`: the numbers, the names and the text of a summary;
* `suite_accounts_for_cases`: how a whole suite goes.
-/

namespace GrantProbe

open Program (Handler)
open CaseTask (exec dialogue)

/-! ## What a result says -/

/-- **What a result says of a case** that ended with `o` and whose teardown reported `cleanup`: whether it
passed; if not, its error, which is marked exactly if the case ended abnormally; and what its teardown
complained of, which counts for nothing else. -/
structure CaseResult.Reports (r : CaseResult) (c : Case) (o : Outcome CaseReport)
    (cleanup : CleanupReport) : Prop where
  name : r.name = c.name
  passed_iff : r.passed = true ↔ ∃ report, o = .ok report
  error_eq_none_iff : r.error = none ↔ r.passed = true
  error_of_error : ∀ e, o = .error (.error e) → r.error = some e.message
  error_of_panic : ∀ p, o = .error (.panic p) → r.error = some ("PANIC: " ++ p.message)
  marked_iff : ∀ text, r.error = some text →
    (Text.startsWith "PANIC: " text = true ↔ ∃ p, o = .error (.panic p))
  cleanupFailures : r.cleanupFailures = cleanup.failures

namespace Text

theorem startsWith_append_eq_false {needle start : String} (s : String)
    (hlength : needle.toList.length ≤ start.toList.length)
    (hstart : startsWith needle start = false) : startsWith needle (start ++ s) = false := by
  rw [← Bool.not_eq_true] at hstart ⊢
  unfold startsWith at hstart ⊢
  rw [List.isPrefixOf_iff_prefix] at hstart ⊢
  intro hprefix
  rw [String.toList_append] at hprefix
  have hstarts : start.toList <+: start.toList ++ s.toList := List.prefix_append _ _
  exact hstart (List.prefix_of_prefix_length_le hprefix hstarts hlength)

end Text

/-- **No error is worded like an abnormal end.** -/
theorem startsWith_panic_message (e : Error) : Text.startsWith "PANIC: " e.message = false := by
  unfold Error.message
  cases e <;> simp only [String.append_assoc] <;>
    exact Text.startsWith_append_eq_false _ (by decide +kernel) (by decide +kernel)

theorem reports_failureMessage (c : Case) (o : Outcome CaseReport) (d : Duration)
    (cleanup : CleanupReport) :
    CaseResult.Reports ⟨c.name, (failureMessage o).isNone, d, failureMessage o, cleanup.failures⟩
      c o cleanup where
  name := rfl
  passed_iff := by rcases o with (e | p) | report <;> simp [failureMessage]
  error_eq_none_iff := Option.isNone_iff_eq_none.symm
  error_of_error := by rintro e rfl; rfl
  error_of_panic := by rintro p rfl; rfl
  marked_iff := by
    intro text htext
    rcases o with (e | p) | report
    · obtain rfl : e.message = text := Option.some.inj htext
      simp [startsWith_panic_message]
    · obtain rfl : "PANIC: " ++ p.message = text := Option.some.inj htext
      simp [Text.startsWith_append]
    · cases htext
  cleanupFailures := rfl

/-! ## Tasks that stop short where a call breaks them -/

/-- **A sturdy task** comes to an end unless one of its calls ends abnormally, and then it ends so. -/
def Task.Sturdy {α : Type} (t : Probe α) : Prop :=
  ∀ ⦃σ : Type⦄ (h : Handler probe σ) (w : σ),
    (∃ D a v, t.Talks h w D (.ok a) v ∧ ∀ x ∈ D, ¬x.Breaks) ∨
      ∃ D p v, t.Talks h w D (.error (.panic p)) v ∧ ∃ x ∈ D, x.Breaks

section
variable {α β : Type}

theorem Task.sturdy_pure (a : α) : Task.Sturdy (pure a : Probe α) :=
  fun _ _ w => Or.inl ⟨[], a, w, Task.talks_pure a, fun _ hx => absurd hx List.not_mem_nil⟩

theorem Task.Sturdy.bind {t : Probe α} {k : α → Probe β} (ht : Sturdy t) (hk : ∀ a, Sturdy (k a)) :
    Sturdy (t >>= k) := by
  intro σ h w
  rcases ht h w with ⟨D, a, v, hfirst, hcalm⟩ | ⟨D, p, v, hfirst, hbreak⟩
  · rcases hk a h v with ⟨E, b, v', hsecond, hcalm'⟩ | ⟨E, p, v', hsecond, x, hx, hbreaks⟩
    · refine Or.inl ⟨D ++ E, b, v', hfirst.bind_ok hsecond, fun x hx => ?_⟩
      exact (List.mem_append.mp hx).elim (hcalm x) (hcalm' x)
    · exact Or.inr ⟨D ++ E, p, v', hfirst.bind_ok hsecond, x, List.mem_append_right D hx, hbreaks⟩
  · exact Or.inr ⟨D, p, v, hfirst.bind_error k, hbreak⟩

theorem sturdy_adminClientFor (s : Setting) (scope : String) : Task.Sturdy (s.adminClientFor scope) := by
  intro σ h w
  refine Or.inl ⟨[⟨.bind (s.adminClient scope), ()⟩], s.adminClient scope, _, ⟨rfl, rfl⟩, ?_⟩
  intro x hx
  rw [List.mem_singleton.mp hx]
  exact nofun

theorem sturdy_attempt_delete (kind : Cleanable) (client : Client) (id : String) :
    Task.Sturdy (kind.delete client id).attempt := by
  intro σ h w
  obtain ⟨x, o, v, htalks, -, hstop⟩ := Probe.isCall_delete h kind client id w
  have hcalm (hne : ∀ p, o ≠ .error (.panic p)) : ∀ y ∈ [x], ¬y.Breaks := by
    rintro y hy ⟨p, hp⟩
    rw [List.mem_singleton.mp hy] at hp
    exact hne p ((hstop _).mp hp)
  rcases o with (e | p) | a
  · exact Or.inl ⟨[x], _, v, htalks.attempt_error, hcalm nofun⟩
  · refine Or.inr ⟨[x], p, v, ⟨Task.exec_attempt_panic htalks.exec, ?_⟩, x, List.mem_singleton_self x,
      p, (hstop _).mpr rfl⟩
    rw [Task.dialogue_attempt, htalks.dialogue]
  · exact Or.inl ⟨[x], _, v, htalks.attempt_ok, hcalm nofun⟩

theorem sturdy_removeSeeded (client : Client) (kind : Cleanable) (word id scope : String) :
    Task.Sturdy (removeSeeded client kind word id scope) := by
  unfold removeSeeded
  split_ifs
  · exact Task.sturdy_pure _
  · refine Task.Sturdy.bind ?_ fun _ => Task.sturdy_pure _
    refine (sturdy_attempt_delete kind client id).bind fun r => ?_
    rcases r with e | _ <;> exact Task.sturdy_pure _

theorem sturdy_removeScope (s : Setting) (scope : String) (b : Baseline) :
    Task.Sturdy (removeScope s scope b) :=
  (sturdy_adminClientFor s scope).bind fun _ => (sturdy_removeSeeded ..).bind fun _ =>
    (sturdy_removeSeeded ..).bind fun _ => (sturdy_removeSeeded ..).bind fun _ => Task.sturdy_pure _

/-- **The removal of a baseline** is sturdy. The induction is on its workspaces. -/
theorem sturdy_removeBaseline (s : Setting) (baseline : SortedMap Baseline) :
    Task.Sturdy (removeBaseline s baseline) := by
  unfold removeBaseline
  induction baseline.entries with
  | nil => exact Task.sturdy_pure _
  | cons x rest ih =>
    exact (sturdy_removeScope s x.1 x.2).bind fun _ => ih.bind fun _ => Task.sturdy_pure _

end

/-! ## How cases go -/

section
variable {σ : Type}

/-- **A case is run and reported:** from a state of its own, after a look at the clock; whatever its end,
it is torn down from where it stands; after another look at the clock, the result says what became of
it. -/
inductive Fixture.RunsCase (fx : Fixture) (h : Handler probe σ) (c : Case) (w : σ) :
    List (Exchange probe) → CaseResult → σ → Prop
  | intro {D E : List (Exchange probe)} {o : Outcome CaseReport} {p q : Point σ}
      {cleanup : CleanupReport} {r : CaseResult}
      (hcase : (runCase fx c).Runs h (fx.opening (h .clock w).2) D o p)
      (hteardown : (teardown fx).Runs h p E (.ok cleanup) q)
      (hreports : r.Reports c o cleanup)
      (hduration : r.duration = ⟨(h .clock q.world).1.nanos - (h .clock w).1.nanos⟩) :
      RunsCase fx h c w
        ([⟨.clock, (h .clock w).1⟩] ++ ((D ++ E) ++ [⟨.clock, (h .clock q.world).1⟩])) r
        (h .clock q.world).2

/-- **Cases are run and reported,** one after the other. -/
inductive Fixture.RunsCases (fx : Fixture) (h : Handler probe σ) :
    List Case → σ → List (Exchange probe) → List CaseResult → σ → Prop
  | nil (w : σ) : RunsCases fx h [] w [] [] w
  | cons {c : Case} {rest : List Case} {w v v' : σ} {D E : List (Exchange probe)} {r : CaseResult}
      {results : List CaseResult} (hone : fx.RunsCase h c w D r v)
      (hrest : RunsCases fx h rest v E results v') :
      RunsCases fx h (c :: rest) w (D ++ E) (r :: results) v'

/-- **Cases are cut short:** some are run and reported, and then a call of the teardown of the next one
ends abnormally. -/
inductive Fixture.CutsShort (fx : Fixture) (h : Handler probe σ) :
    List Case → σ → List (Exchange probe) → Panic → σ → Prop
  | here {c : Case} {rest : List Case} {w : σ} {D E : List (Exchange probe)} {o : Outcome CaseReport}
      {p q : Point σ} {x : Panic}
      (hcase : (runCase fx c).Runs h (fx.opening (h .clock w).2) D o p)
      (hteardown : (teardown fx).Runs h p E (.error (.panic x)) q) (hbreak : ∃ y ∈ E, y.Breaks) :
      CutsShort fx h (c :: rest) w ([⟨.clock, (h .clock w).1⟩] ++ (D ++ E)) x q.world
  | later {c : Case} {rest : List Case} {w v v' : σ} {D E : List (Exchange probe)} {r : CaseResult}
      {x : Panic} (hone : fx.RunsCase h c w D r v) (hrest : CutsShort fx h rest v E x v') :
      CutsShort fx h (c :: rest) w (D ++ E) x v'

section
variable {h : Handler probe σ} {w : σ} (fx : Fixture)

theorem runs_runAndTearDown (c : Case) (p : Point σ) : ∃ D o q E e r,
    (runCase fx c).Runs h p D o q ∧ (teardown fx).Runs h q E e r ∧
      (runAndTearDown fx c).Runs h p (D ++ E) (e.map fun cleanup => (o, cleanup)) r := by
  have hcase := CaseTask.runs_self h (runCase fx c) p
  have hteardown := CaseTask.runs_self h (teardown fx) (exec h (runCase fx c) p).2
  refine ⟨_, _, _, _, _, _, hcase, hteardown, ?_⟩
  have hcaught : (caught (runCase fx c)).Runs h p (dialogue h (runCase fx c) p)
      (.ok (exec h (runCase fx c) p).1) (exec h (runCase fx c) p).2 :=
    ⟨exec_caught .., dialogue_caught ..⟩
  refine hcaught.bind_ok ?_
  rcases hend : (exec h (teardown fx) (exec h (runCase fx c) p).2).1 with e | cleanup <;>
    rw [hend] at hteardown
  · exact hteardown.bind_error
  · exact hteardown.bind_silent (CaseTask.runs_pure _)

/-- **How one case goes:** it is run and reported, or cut short. -/
theorem runOne_goes (c : Case) :
    (∃ D r v, fx.RunsCase h c w D r v ∧ (runOne fx c).Talks h w D (.ok r) v) ∨
      ∃ D x v, (∀ rest, fx.CutsShort h (c :: rest) w D x v) ∧
        (runOne fx c).Talks h w D (.error (.panic x)) v := by
  have hclock (v : σ) : (Task.always Probe.clock).Talks h v [⟨.clock, (h .clock v).1⟩]
      (.ok (h .clock v).1) (h .clock v).2 := ⟨Task.exec_always .., rfl⟩
  obtain ⟨D, o, p, E, e, q, hcase, hteardown, hboth⟩ :=
    runs_runAndTearDown (h := h) fx c (fx.opening (h .clock w).2)
  have hfresh : (inFreshState fx.setting (runAndTearDown fx c)).Talks h (h .clock w).2 (D ++ E)
      (e.map fun cleanup => (o, cleanup)) q.world := by
    have hexec := hboth.exec
    have hdialogue := hboth.dialogue
    unfold Fixture.opening at hexec hdialogue
    exact ⟨by rw [exec_inFreshState, hexec], by rw [dialogue_inFreshState, hdialogue]⟩
  -- A teardown gives a report, or one of its calls ends abnormally.
  have hremoving : (teardown fx).Removing h p.state (p.state.dues fx.setting)
      (CleanupReport.mk p.state.pendingCleanup) p.state.tornDown := removing_teardown
  have hgoes := hremoving.goes p.world
  rw [hteardown.exec, hteardown.dialogue] at hgoes
  cases hgoes with
  | through hasked hcalm =>
    refine Or.inl ⟨_, _, _, .intro hcase hteardown (reports_failureMessage c o _ _) rfl, ?_⟩
    exact (hclock w).bind_ok (hfresh.bind_ok ((hclock q.world).bind_ok (Task.talks_pure _)))
  | broken hasked hbreak =>
    exact Or.inr ⟨_, _, _, fun rest => .here hcase hteardown hbreak,
      (hclock w).bind_ok (hfresh.bind_error _)⟩

/-- **How cases go.** The induction is on them. -/
theorem runAll_goes (cases : List Case) :
    (∃ D results v, fx.RunsCases h cases w D results v ∧
        (runAll fx cases).Talks h w D (.ok results) v) ∨
      ∃ D x v, fx.CutsShort h cases w D x v ∧
        (runAll fx cases).Talks h w D (.error (.panic x)) v := by
  induction cases generalizing w with
  | nil => exact Or.inl ⟨[], [], w, .nil w, Task.talks_pure _⟩
  | cons c rest ih =>
    rcases runOne_goes (h := h) (w := w) fx c with ⟨D, r, v, hone, htalks⟩ | ⟨D, x, v, hcut, htalks⟩
    · rcases ih (w := v) with ⟨E, results, v', hrest, hmore⟩ | ⟨E, x, v', hcut, hmore⟩
      · exact Or.inl ⟨D ++ E, r :: results, v', .cons hone hrest, htalks.bind_ok (hmore.map _)⟩
      · exact Or.inr ⟨D ++ E, x, v', .later hone hcut, htalks.bind_ok (hmore.bind_error _)⟩
    · exact Or.inr ⟨D, x, v, hcut rest, htalks.bind_error _⟩

theorem Fixture.RunsCases.names {fx : Fixture} {cases : List Case} {D : List (Exchange probe)}
    {results : List CaseResult} {v : σ} (hruns : fx.RunsCases h cases w D results v) :
    results.map (·.name) = cases.map (·.name) := by
  induction hruns with
  | nil w => rfl
  | cons hone hrest ih =>
    cases hone with
    | intro hcase hteardown hreports =>
      rw [List.map_cons, List.map_cons, hreports.name, ih]

end

end

/-! ## The summary -/

/-- **A summary accounts for cases:** it has one result for each, in order and under its name; every one
of them passed or failed; and its result is an error exactly if some case failed, with their number and
their names, in order. -/
structure SuiteSummary.AccountsFor (s : SuiteSummary) (cases : List Case) : Prop where
  names : s.results.map (·.name) = cases.map (·.name)
  passed_add_failed : s.passed + s.failed = cases.length
  result_ok_iff : s.result = .ok () ↔ ∀ r ∈ s.results, r.passed = true
  result_of_failed : s.failed ≠ 0 → s.result = .error (toString s.failed ++ " case(s) failed in " ++
    s.suite ++ ": " ++ ", ".intercalate
      (((cases.zip s.results).filter fun x => !x.2.passed).map fun x => x.1.name))

theorem map_name_filter {cases : List Case} {results : List CaseResult}
    (hnames : results.map (·.name) = cases.map (·.name)) :
    (results.filter (!·.passed)).map (·.name) =
      ((cases.zip results).filter fun x => !x.2.passed).map fun x => x.1.name := by
  induction cases generalizing results with
  | nil =>
    obtain rfl := List.map_eq_nil_iff.mp hnames
    rfl
  | cons c rest ih =>
    obtain ⟨r, more, rfl, hname, hmore⟩ := List.map_eq_cons_iff.mp hnames
    rw [List.zip_cons_cons, List.filter_cons, List.filter_cons]
    simp only
    split_ifs
    · rw [List.map_cons, List.map_cons, hname, ih hmore]
    · exact ih hmore

theorem accountsFor_of_names {s : SuiteSummary} {cases : List Case}
    (hnames : s.results.map (·.name) = cases.map (·.name)) : s.AccountsFor cases where
  names := hnames
  passed_add_failed := by
    have hlength : s.results.length = cases.length := by
      rw [← List.length_map (f := fun r : CaseResult => r.name), hnames, List.length_map]
    rw [← hlength]
    exact (List.length_eq_length_filter_add _).symm
  result_ok_iff := by
    unfold SuiteSummary.result
    simp only [List.isEmpty_iff, List.map_eq_nil_iff, List.filter_eq_nil_iff, Bool.not_eq_true',
      Bool.not_eq_false]
    split_ifs with hall
    · exact iff_of_true rfl hall
    · exact iff_of_false nofun hall
  result_of_failed := by
    intro hfailed
    have hsome : ((s.results.filter (!·.passed)).map (·.name)).isEmpty = false := by
      rw [List.isEmpty_eq_false_iff, ← List.length_pos_iff, List.length_map]
      exact Nat.pos_of_ne_zero hfailed
    unfold SuiteSummary.result SuiteSummary.failed
    rw [← map_name_filter hnames]
    simp only [hsome, Bool.false_eq_true, if_false, List.length_map]

/-! ## Whole suites -/

/-- **A suite accounts for its cases,** whatever each of them ends with, and whatever its teardown
complains of: they are run and reported one after the other, each torn down once; then the baseline is
removed, once; and the summary accounts for all of them. The only other way is that a call of a
teardown, or of the removal of the baseline, ends abnormally, and the suite with it. -/
theorem suite_accounts_for_cases (name : String) (fx : Fixture) (cases : List Case) {σ : Type}
    (h : Handler probe σ) (w : σ) :
    let whole : Probe SuiteSummary :=
      (Suite.withBaseline name fx.setting fx.baseline).runAll cases >>= Suite.finish
    (∃ D E results report v v', fx.RunsCases h cases w D results v ∧
        (removeBaseline fx.setting fx.baseline).Talks h v E (.ok report) v' ∧
        whole.Talks h w (D ++ E) (.ok ⟨name, results⟩) v' ∧
        SuiteSummary.AccountsFor ⟨name, results⟩ cases) ∨
      (∃ D x v, fx.CutsShort h cases w D x v ∧ whole.Talks h w D (.error (.panic x)) v) ∨
      ∃ D E results x v v', fx.RunsCases h cases w D results v ∧
        (removeBaseline fx.setting fx.baseline).Talks h v E (.error (.panic x)) v' ∧
        (∃ y ∈ E, y.Breaks) ∧ whole.Talks h w (D ++ E) (.error (.panic x)) v' := by
  intro whole
  rcases runAll_goes (h := h) (w := w) fx cases with
    ⟨D, results, v, hruns, htalks⟩ | ⟨D, x, v, hcut, htalks⟩
  · have hran : ((Suite.withBaseline name fx.setting fx.baseline).runAll cases).Talks h w D
        (.ok ⟨name, fx, results⟩) v := htalks.map fun results => (⟨name, fx, results⟩ : Suite)
    rcases sturdy_removeBaseline fx.setting fx.baseline h v with
      ⟨E, report, v', hremove, -⟩ | ⟨E, x, v', hremove, hbreak⟩
    · exact Or.inl ⟨D, E, results, report, v, v', hruns, hremove,
        hran.bind_ok (hremove.map fun _ => (⟨name, results⟩ : SuiteSummary)),
        accountsFor_of_names hruns.names⟩
    · exact Or.inr (Or.inr ⟨D, E, results, x, v, v', hruns, hremove, hbreak,
        hran.bind_ok (hremove.bind_error _)⟩)
  · have hcut' : ((Suite.withBaseline name fx.setting fx.baseline).runAll cases).Talks h w D
        (.error (.panic x)) v := htalks.bind_error _
    exact Or.inr (Or.inl ⟨D, x, v, hcut, hcut'.bind_error _⟩)

end GrantProbe
