import Mathlib.Data.List.Basic
import GrantProbe.CommandLine.Command

/-!
# What arguments store

An option that has a long name only, and is not among the arguments, is not given. So a property of
the draft that the other options keep holds of whatever is read from the arguments.

* `CommandOption.Keeps`: an option keeps a property of the draft, with a lemma for each kind of option;
  `CommandOption.IsBare`: an option that can be given in one way only;
* `Reading.Holds`: a property of a reading; `holds_readArguments`, `holds_complete`: it is kept, by
  induction on the arguments and on the options;
* `withoutBootstrap_eq_false`: a command without the flag has it off.
-/

namespace GrantProbe

variable {δ : Type} {P : δ → Prop}

theorem exists_of_bind_eq_ok {ε α β : Type} {x : Except ε α} {f : α → Except ε β} {b : β}
    (h : x >>= f = .ok b) : ∃ a, x = .ok a ∧ f a = .ok b := by
  rcases x with e | a
  · cases h
  · exact ⟨a, rfl, h⟩

/-! ## Options -/

namespace CommandOption

/-- **An option keeps a property** of the draft, whatever is given for it. -/
def Keeps (P : δ → Prop) (o : CommandOption δ) : Prop :=
  match o.use with
  | .value _ _ store => ∀ s d d', P d → store s d = .ok d' → P d'
  | .mark store => ∀ b d, P d → P (store b d)
  | .help | .version => True

/-- **An option that can be given by its long name only,** without a value. -/
structure IsBare (o : CommandOption δ) : Prop where
  takesValue : o.takesValue = false
  short : o.short = none
  envName : o.envName = none

/-- **Options keep a property** where the arguments are these: each does, or is not among them. -/
def AllKeep (P : δ → Prop) (options : List (CommandOption δ)) (args : List String) : Prop :=
  ∀ o ∈ options, o.Keeps P ∨ o.IsBare ∧ "--" ++ o.long ∉ args

end CommandOption

open CommandOption (Keeps IsBare AllKeep)

section
variable {α σ : Type} {Q : σ → Prop}

/-- An option with one value keeps what storing a value keeps. -/
theorem keeps_single {long placeholder : String} {read : ValueReader α} {put : δ → α → δ}
    {envName : Option String} {short : Option Char} (hput : ∀ d a, P d → P (put d a)) :
    (CommandOption.single long placeholder read put envName short).Keeps P := by
  intro s d d' hd h
  obtain ⟨a, -, h⟩ := exists_of_bind_eq_ok h
  cases h
  exact hput d a hd

theorem keeps_many {long placeholder : String} {read : ValueReader α} {add : δ → α → δ}
    (hadd : ∀ d a, P d → P (add d a)) : (CommandOption.many long placeholder read add).Keeps P := by
  intro s d d' hd h
  obtain ⟨a, -, h⟩ := exists_of_bind_eq_ok h
  cases h
  exact hadd d a hd

theorem keeps_flag {long : String} {put : δ → Bool → δ} {envName : Option String}
    (hput : ∀ d b, P d → P (put d b)) : (CommandOption.flag long put envName).Keeps P :=
  fun b d hd => hput d b hd

theorem CommandOption.Keeps.within {get : σ → δ} {put : σ → δ → σ} {o : CommandOption δ}
    (ho : o.Keeps P) (hget : ∀ d, Q d → P (get d)) (hput : ∀ d x, Q d → P x → Q (put d x)) :
    (o.within get put).Keeps Q := by
  obtain ⟨long, short, envName, use⟩ := o
  cases use with
  | value placeholder repeats store =>
    intro s d d' hd h
    obtain ⟨x, hx, h⟩ := exists_of_bind_eq_ok h
    cases h
    exact hput d x hd (ho s (get d) x (hget d hd) hx)
  | mark store => exact fun b d hd => hput d _ hd (ho b (get d) (hget d hd))
  | help => trivial
  | version => trivial

end

theorem CommandOption.AllKeep.tail {options : List (CommandOption δ)} {s : String} {args : List String}
    (h : AllKeep P options (s :: args)) : AllKeep P options args := fun o ho =>
  (h o ho).imp_right fun ⟨hbare, habsent⟩ => ⟨hbare, fun hmem => habsent (List.mem_cons_of_mem _ hmem)⟩

/-! ## Readings -/

/-- **A property holds of a reading,** and still does when the last option is taken. -/
structure Reading.Holds (P : δ → Prop) (r : Reading δ) : Prop where
  draft : P r.draft
  pending : ∀ o v, r.pending = some (o, v) → o.Keeps P

theorem holds_blank {d : δ} (hd : P d) : (Reading.blank d).Holds P :=
  ⟨hd, fun _ _ hnone => absurd hnone (Option.some_ne_none _).symm⟩

section
variable {r r' : Reading δ} {o : CommandOption δ} {v : Option String}

theorem keeps_storeAll {store : String → δ → Except ValueFault δ}
    (hstore : ∀ s d d', P d → store s d = .ok d' → P d') {title : String} {values : List String}
    {d d' : δ} (hd : P d) (h : Reading.storeAll title store values d = .ok d') : P d' := by
  induction values generalizing d with
  | nil =>
    cases h
    exact hd
  | cons s rest ih =>
    unfold Reading.storeAll at h
    rcases hs : store s d with f | d₁ <;> rw [hs] at h
    · cases h
    · exact ih (hstore s d d₁ hd hs) h

theorem note_eq_ok {source : OptionSource} {repeats : Bool} (h : r.note source o repeats = .ok r') :
    r'.draft = r.draft ∧ r'.pending = r.pending := by
  unfold Reading.note at h
  split_ifs at h <;> cases h <;> exact ⟨rfl, rfl⟩

/-- **Taking an option** that keeps the property. -/
theorem take_eq_ok {source : OptionSource} (ho : o.Keeps P) (hr : P r.draft)
    (h : r.take source o v = .ok r') : P r'.draft ∧ r'.pending = r.pending := by
  unfold Reading.take at h
  unfold Keeps at ho
  split at h
  · cases h
  · cases h
  · rename_i store huse
    rw [huse] at ho
    obtain ⟨r₁, hnote, h⟩ := exists_of_bind_eq_ok h
    obtain ⟨hdraft, hpending⟩ := note_eq_ok hnote
    rcases v with _ | s
    · cases h
      exact ⟨ho true _ (hdraft ▸ hr), hpending⟩
    · rcases hb : ValueReader.truth s with f | b <;> simp only [hb] at h <;> cases h
      exact ⟨ho b _ (hdraft ▸ hr), hpending⟩
  · rename_i placeholder repeats store huse
    rw [huse] at ho
    rcases v with _ | s
    · cases h
    · obtain ⟨r₁, hnote, h⟩ := exists_of_bind_eq_ok h
      obtain ⟨hdraft, hpending⟩ := note_eq_ok hnote
      obtain ⟨d, hstore, h⟩ := exists_of_bind_eq_ok h
      cases h
      exact ⟨keeps_storeAll ho (hdraft ▸ hr) hstore, hpending⟩

theorem settle_eq_ok (hr : r.Holds P) (h : r.settle = .ok r') : P r'.draft ∧ r'.pending = none := by
  unfold Reading.settle at h
  rcases hp : r.pending with _ | ⟨o, v⟩ <;> rw [hp] at h
  · cases h
    exact ⟨hr.draft, hp⟩
  · exact take_eq_ok (r := { r with pending := none }) (hr.pending o v hp) hr.draft h

theorem holds_next (hr : r.Holds P) (ho : o.Keeps P) (h : r.next o v = .ok r') : r'.Holds P := by
  obtain ⟨r₁, hsettle, htake⟩ := exists_of_bind_eq_ok h
  obtain ⟨hdraft, hpending⟩ := settle_eq_ok hr hsettle
  obtain ⟨hdraft', hpending'⟩ := take_eq_ok ho hdraft htake
  exact ⟨hdraft', fun o v hov => by rw [hpending', hpending] at hov; cases hov⟩

theorem holds_await (hr : r.Holds P) (ho : o.Keeps P) (h : r.await o = .ok r') : r'.Holds P := by
  obtain ⟨r₁, hsettle, h⟩ := exists_of_bind_eq_ok h
  cases h
  exact ⟨(settle_eq_ok hr hsettle).1, fun o' v hov => by cases hov; exact ho⟩

/-- An option that is found by its short name, or in the environment, keeps the property. -/
theorem CommandOption.AllKeep.keeps_of_short {options : List (CommandOption δ)} {args : List String}
    (h : AllKeep P options args) {c : Char} (ho : options.find? (·.short == some c) = some o) :
    o.Keeps P := by
  refine (h o (List.mem_of_find?_eq_some ho)).resolve_right fun ⟨hbare, _⟩ => ?_
  have hshort := List.find?_some ho
  rw [hbare.short] at hshort
  cases hshort

theorem holds_takeLong {options : List (CommandOption δ)} {name : String} {args : List String}
    (hoptions : AllKeep P options args) (hname : v = none → "--" ++ name ∈ args) (hr : r.Holds P)
    (h : r.takeLong options name v = .ok r') : r'.Holds P := by
  unfold Reading.takeLong at h
  rcases hfind : options.find? (·.long == name) with _ | o <;> rw [hfind] at h
  · cases h
  have hlong : o.long = name := by simpa using List.find?_some hfind
  have hkeeps (hgiven : o.takesValue = true ∨ v = none) : o.Keeps P := by
    refine (hoptions o (List.mem_of_find?_eq_some hfind)).resolve_right fun ⟨hbare, habsent⟩ => ?_
    rcases hgiven with hvalue | hnone
    · rw [hbare.takesValue] at hvalue
      cases hvalue
    · exact habsent (hlong ▸ hname hnone)
  rcases v with _ | s <;> dsimp only at h <;> split_ifs at h with htakes
  · exact holds_await hr (hkeeps (Or.inr rfl)) h
  · exact holds_next hr (hkeeps (Or.inr rfl)) h
  · exact holds_next hr (hkeeps (Or.inl htakes)) h

/-- Short names. The induction is on them. -/
theorem holds_takeShorts {options : List (CommandOption δ)} {args : List String}
    (hoptions : AllKeep P options args) {letters : List Char} (hr : r.Holds P)
    (h : r.takeShorts options letters = .ok r') : r'.Holds P := by
  induction letters generalizing r with
  | nil =>
    cases h
    exact hr
  | cons c rest ih =>
    unfold Reading.takeShorts at h
    rcases hfind : options.find? (·.short == some c) with _ | o <;> rw [hfind] at h
    · cases h
    have ho := hoptions.keeps_of_short hfind
    dsimp only at h
    split_ifs at h
    · split at h
      · exact holds_await hr ho h
      · exact holds_next hr ho h
      · exact holds_next hr ho h
    · obtain ⟨r₁, hnext, h⟩ := exists_of_bind_eq_ok h
      exact ih (holds_next hr ho hnext) h

/-- A long name alone is the whole argument. -/
theorem eq_of_of_eq_long {s name : String} (h : Argument.of s = .long name none) :
    s = "--" ++ name := by
  unfold Argument.of at h
  split at h
  · cases h
  · rename_i rest _ htext
    have hcut := cutAtEquals_append rest
    injection h with hfst hsnd
    rcases hvalue : (cutAtEquals rest).2 with _ | value <;> rw [hvalue] at hsnd hcut
    · rw [List.append_nil] at hcut
      refine String.toList_inj.mp ?_
      rw [htext, String.toList_append, ← hfst, hcut, String.toList_ofList (l := rest)]
      rfl
    · cases hsnd
  · cases h
  · cases h
  · cases h

theorem pending_of_awaiting? (h : r.awaiting? = some o) : r.pending = some (o, none) := by
  unfold Reading.awaiting? at h
  split at h
  · rename_i hpending
    rw [hpending, Option.some.inj h]
  · cases h

/-- **Reading arguments** keeps what the options keep. The induction is on the arguments. -/
theorem holds_readArguments {options : List (CommandOption δ)} {commands args : List String}
    {command : Option (String × List String)} (hoptions : AllKeep P options args) (hr : r.Holds P)
    (h : readArguments options commands args r = .ok (r', command)) : r'.Holds P := by
  induction args generalizing r with
  | nil =>
    cases h
    exact hr
  | cons s rest ih =>
    unfold readArguments at h
    split_ifs at h
    · cases h
      exact hr
    · split at h
      · refine ih hoptions.tail ?_ h
        exact ⟨hr.draft, hr.pending⟩
      · rename_i name value harg
        obtain ⟨r₁, hlong, h⟩ := exists_of_bind_eq_ok h
        refine ih hoptions.tail (holds_takeLong hoptions ?_ hr hlong) h
        rintro rfl
        exact eq_of_of_eq_long harg ▸ List.mem_cons_self
      · obtain ⟨r₁, hshorts, h⟩ := exists_of_bind_eq_ok h
        exact ih hoptions.tail (holds_takeShorts hoptions hr hshorts) h
      · rcases hwait : r.awaiting? with _ | o <;> rw [hwait] at h
        · cases h
        · dsimp only at h
          refine ih hoptions.tail ?_ h
          refine ⟨hr.draft, fun o' v hov => ?_⟩
          cases hov
          exact hr.pending o none (pending_of_awaiting? hwait)

theorem holds_fromEnvironment {options : List (CommandOption δ)} {args : List String}
    {env : Environment} (hoptions : AllKeep P options args) (hr : P r.draft)
    (h : Reading.fromEnvironment env options r = .ok r') : P r'.draft := by
  induction options generalizing r with
  | nil =>
    cases h
    exact hr
  | cons o rest ih =>
    have hrest : AllKeep P rest args := fun o ho => hoptions o (List.mem_cons_of_mem _ ho)
    unfold Reading.fromEnvironment at h
    rcases henv : o.envName.bind env with _ | s <;> rw [henv] at h
    · exact ih hrest hr h
    · dsimp only at h
      split_ifs at h
      · exact ih hrest hr h
      · obtain ⟨r₁, htake, h⟩ := exists_of_bind_eq_ok h
        refine ih hrest (take_eq_ok ?_ hr htake).1 h
        refine (hoptions o List.mem_cons_self).resolve_right fun ⟨hbare, _⟩ => ?_
        rw [hbare.envName] at henv
        cases henv

/-- **The end of the arguments** keeps what the options keep. -/
theorem holds_complete {options : List (CommandOption δ)} {args : List String} {env : Environment}
    (hoptions : AllKeep P options args) (hr : r.Holds P) (h : r.complete options env = .ok r') :
    P r'.draft := by
  obtain ⟨r₁, hsettle, h⟩ := exists_of_bind_eq_ok h
  exact holds_fromEnvironment hoptions (settle_eq_ok hr hsettle).1 h

theorem mem_of_readArguments {options : List (CommandOption δ)} {commands args rest : List String}
    {name : String} (h : readArguments options commands args r = .ok (r', some (name, rest))) :
    ∀ s ∈ rest, s ∈ args := by
  induction args generalizing r with
  | nil => cases h
  | cons s others ih =>
    refine fun t ht => ?_
    unfold readArguments at h
    split_ifs at h
    · cases h
      exact List.mem_cons_of_mem _ ht
    · refine List.mem_cons_of_mem _ ?_
      split at h
      · exact ih h t ht
      · obtain ⟨r₁, -, h⟩ := exists_of_bind_eq_ok h
        exact ih h t ht
      · obtain ⟨r₁, -, h⟩ := exists_of_bind_eq_ok h
        exact ih h t ht
      · rcases hwait : r.awaiting? with _ | o <;> rw [hwait] at h
        · cases h
        · exact ih h t ht

end

/-! ## The command that prints rules -/

theorem allKeep_rulesOptions {args : List String} (habsent : "--without-bootstrap" ∉ args) :
    AllKeep (fun d : Logged RulesRequest => d.draft.withoutBootstrap = false)
      (Logged.options rulesOptions) args := by
  have hwithin {o : CommandOption RulesRequest} (ho : o.Keeps (·.withoutBootstrap = false)) :
      (o.within Logged.draft fun d x => { d with draft := x }).Keeps
        fun d => d.draft.withoutBootstrap = false := ho.within (fun _ hd => hd) fun _ _ _ hx => hx
  intro o ho
  simp only [Logged.options, rulesOptions, List.map_cons, List.map_nil, List.cons_append,
    List.nil_append, List.mem_cons, List.not_mem_nil, or_false] at ho
  rcases ho with rfl | rfl | rfl | rfl | rfl | rfl | rfl | rfl
  · exact Or.inl (hwithin (keeps_many fun _ _ hd => hd))
  · exact Or.inl (hwithin (keeps_single fun _ _ hd => hd))
  · exact Or.inl (hwithin (keeps_many fun _ _ hd => hd))
  · exact Or.inl (hwithin (keeps_many fun _ _ hd => hd))
  · exact Or.inl (hwithin (keeps_flag fun _ _ hd => hd))
  · exact Or.inr ⟨⟨rfl, rfl, rfl⟩, habsent⟩
  · exact Or.inl (keeps_single fun _ _ hd => hd)
  · exact Or.inl trivial

/-- **A command without the flag** has it off. -/
theorem withoutBootstrap_eq_false {env : Environment} {args : List String} {format : LogFormat}
    {request : RulesRequest} (h : Invocation.parse env args = .ok ⟨format, .rules request⟩)
    (habsent : "--without-bootstrap" ∉ args) : request.withoutBootstrap = false := by
  obtain ⟨⟨r, command⟩, hfirst, h⟩ := exists_of_bind_eq_ok h
  rcases command with _ | ⟨name, rest⟩
  · obtain ⟨r', -, h⟩ := exists_of_bind_eq_ok h
    cases h
  have hrest : "--without-bootstrap" ∉ rest := fun hmem =>
    habsent (mem_of_readArguments hfirst _ hmem)
  dsimp only at h
  split_ifs at h
  obtain ⟨⟨command, format'⟩, hread, h⟩ := exists_of_bind_eq_ok h
  obtain ⟨r', -, h⟩ := exists_of_bind_eq_ok h
  cases h
  unfold Command.read at hread
  split at hread
  · obtain ⟨x, -, hread⟩ := exists_of_bind_eq_ok hread
    cases hread
  · obtain ⟨⟨request', format'⟩, hrules, hread⟩ := exists_of_bind_eq_ok hread
    cases hread
    obtain ⟨⟨r₁, command⟩, hargs, hrules⟩ := exists_of_bind_eq_ok hrules
    obtain ⟨r₂, hcomplete, hrules⟩ := exists_of_bind_eq_ok hrules
    obtain ⟨request', hcheck, hrules⟩ := exists_of_bind_eq_ok hrules
    cases hrules
    have hoptions := allKeep_rulesOptions hrest
    have hdraft := holds_complete hoptions (holds_readArguments hoptions (holds_blank rfl) hargs) hcomplete
    unfold RulesRequest.check at hcheck
    split_ifs at hcheck
    cases hcheck
    exact hdraft
  · obtain ⟨x, -, hread⟩ := exists_of_bind_eq_ok hread
    cases hread
  · cases hread

end GrantProbe
