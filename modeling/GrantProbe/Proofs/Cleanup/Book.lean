import Mathlib.Data.List.Perm.Basic
import GrantProbe.Proofs.Case.Enact
import GrantProbe.Proofs.Cleanup.Tidy
import GrantProbe.Proofs.Provisioning

/-!
# The book of a case

What a case asks of the tracking service, with the answers, is a book of what it created and
deleted. The registries of a case say the same as the books: whatever a case creates under a name in
a workspace that has one is registered there and then, and whatever it deletes is forgotten.

* `Entry`, `Cleanable.book`: the book of a kind, read off a dialogue;
* `createdIds`, `outstanding`: what was created, and what of it was not deleted later;
* `Entry.post`: an entry on a registry; `entries_foldl_post`: a book whose identifiers are new
  leaves what is outstanding;
* `CaseTask.Booked`: the registries after a task are its books; `booked_runSteps`: so it is for
  steps over the catalogue.
-/

namespace GrantProbe

open Program (Handler)

/-! ## Books -/

/-- **An entry:** a resource was created in a workspace, or deleted. -/
inductive Entry where
  | opened (id scope : String)
  | closed (id : String)
  deriving DecidableEq, Repr

/-- What an exchange enters into the book of a kind: a creation or a deletion that was answered with
success. A client works in the workspace that is active when it calls. -/
def Cleanable.entry? : Cleanable → Exchange probe → Option Entry
  | .run, ⟨.tracking client (.createRun _), .ok id⟩ => some (.opened id client.workspace)
  | .run, ⟨.tracking _ (.deleteRun id), .ok _⟩ => some (.closed id)
  | .model, ⟨.tracking client (.createRegisteredModel _), .ok name⟩ =>
    some (.opened name client.workspace)
  | .model, ⟨.tracking _ (.deleteRegisteredModel name), .ok _⟩ => some (.closed name)
  | .experiment, ⟨.tracking client (.createExperiment _), .ok id⟩ =>
    some (.opened id client.workspace)
  | .experiment, ⟨.tracking _ (.deleteExperiment id), .ok _⟩ => some (.closed id)
  | _, _ => none

/-- **The book of a kind.** -/
def Cleanable.book (kind : Cleanable) (D : List (Exchange probe)) : List Entry :=
  D.filterMap kind.entry?

/-- The identifiers of what was created, but for blank ones. -/
def createdIds (book : List Entry) : List String :=
  book.filterMap fun
    | .opened id _ => if Text.isAllBlank id then none else some id
    | .closed _ => none

/-- **What is outstanding:** created under an identifier that is not blank, and not deleted later.
-/
def outstanding : List Entry → List (String × String)
  | [] => []
  | .opened id scope :: rest =>
    if Text.isAllBlank id ∨ .closed id ∈ rest then outstanding rest
    else (id, scope) :: outstanding rest
  | .closed _ :: rest => outstanding rest

theorem fst_mem_of_mem_outstanding {book : List Entry} {x : String × String}
    (hx : x ∈ outstanding book) : x.1 ∈ createdIds book := by
  induction book with
  | nil => exact absurd hx List.not_mem_nil
  | cons e rest ih =>
    cases e with
    | closed id => exact ih hx
    | opened id scope =>
      unfold outstanding at hx
      split_ifs at hx with hgone
      · by_cases hid : Text.isAllBlank id
        · simpa [createdIds, hid] using ih hx
        · simpa [createdIds, hid] using Or.inr (ih hx)
      · have hid : ¬Text.isAllBlank id := fun hid => hgone (Or.inl hid)
        rcases List.mem_cons.mp hx with rfl | hx
        · simp [createdIds, hid]
        · simpa [createdIds, hid] using Or.inr (ih hx)

/-! ## Registries -/

/-- **An entry on a registry.** A blank identifier or workspace is not registered. -/
def Entry.post (m : SortedMap String) : Entry → SortedMap String
  | .opened id scope =>
    if Text.isAllBlank id || Text.isAllBlank scope then m else m.insert id scope
  | .closed id => m.erase id

theorem SortedMap.entries_insert_perm {α : Type} {m : SortedMap α} {key : String}
    (hnew : ∀ x ∈ m.entries, x.1 ≠ key) (a : α) :
    (m.insert key a).entries.Perm ((key, a) :: m.entries) := by
  obtain ⟨entries⟩ := m
  change (insertEntry key a entries).Perm _
  induction entries with
  | nil => exact .refl _
  | cons e rest ih =>
    unfold insertEntry
    rw [if_neg (hnew e List.mem_cons_self)]
    split_ifs with hlt
    · exact .refl _
    · have hrest := ih fun x hx => hnew x (List.mem_cons_of_mem _ hx)
      exact (hrest.cons e).trans (.swap (key, a) e rest)

theorem createdIds_opened (id scope : String) (rest : List Entry) :
    createdIds (.opened id scope :: rest) =
      if Text.isAllBlank id then createdIds rest else id :: createdIds rest := by
  cases hid : Text.isAllBlank id <;> simp [createdIds, hid]

theorem post_blank {id scope : String} (hblank : Text.isAllBlank id ∨ Text.isAllBlank scope)
    (m : SortedMap String) : Entry.post m (.opened id scope) = m := by
  rw [Entry.post, if_pos (Bool.or_eq_true_iff.mpr hblank)]

theorem post_named {id scope : String} (hblank : ¬(Text.isAllBlank id ∨ Text.isAllBlank scope))
    (m : SortedMap String) : Entry.post m (.opened id scope) = m.insert id scope := by
  rw [Entry.post, if_neg fun h => hblank (Bool.or_eq_true_iff.mp h)]

theorem filter_erase (m : SortedMap String) (id : String) (rest : List Entry) :
    (m.erase id).entries.filter (fun x => .closed x.1 ∉ rest) =
      m.entries.filter fun x => .closed x.1 ∉ Entry.closed id :: rest := by
  change (m.entries.filter _).filter _ = _
  rw [List.filter_filter]
  refine List.filter_congr fun x _ => ?_
  simp [Bool.and_comm]

theorem filter_opened (entries : List (String × String)) (id scope : String) (rest : List Entry) :
    entries.filter (fun x => .closed x.1 ∉ Entry.opened id scope :: rest) =
      entries.filter fun x => .closed x.1 ∉ rest := by
  refine List.filter_congr fun x _ => ?_
  simp

/-- **Posting a book** whose identifiers are new leaves what was there and is not deleted, and what
is outstanding in a workspace that has a name. The induction is on the entries. -/
theorem entries_foldl_post {book : List Entry} {m : SortedMap String}
    (hnodup : (createdIds book).Nodup)
    (hnew : ∀ id ∈ createdIds book, ∀ x ∈ m.entries, x.1 ≠ id) :
    (book.foldl Entry.post m).entries.Perm
      (m.entries.filter (fun x => .closed x.1 ∉ book) ++
        (outstanding book).filter fun x => !Text.isAllBlank x.2) := by
  induction book generalizing m with
  | nil => simp [outstanding]
  | cons e rest ih =>
    rw [List.foldl_cons]
    cases e with
    | closed id =>
      have hrest := ih (m := m.erase id) hnodup fun id' hid' x hx =>
        hnew id' hid' x (List.mem_of_mem_filter hx)
      rw [filter_erase] at hrest
      exact hrest
    | opened id scope =>
      rw [filter_opened]
      by_cases hid : Text.isAllBlank id
      · rw [createdIds_opened, if_pos hid] at hnodup hnew
        rw [post_blank (Or.inl hid), outstanding, if_pos (Or.inl hid)]
        exact ih hnodup hnew
      rw [createdIds_opened, if_neg hid] at hnodup hnew
      obtain ⟨hfresh, hnodup⟩ := List.nodup_cons.mp hnodup
      have hnew' : ∀ id' ∈ createdIds rest, ∀ x ∈ m.entries, x.1 ≠ id' := fun id' hid' =>
        hnew id' (List.mem_cons_of_mem _ hid')
      by_cases hscope : Text.isAllBlank scope
      · have hout : (outstanding (.opened id scope :: rest)).filter (fun x => !Text.isAllBlank x.2) =
            (outstanding rest).filter fun x => !Text.isAllBlank x.2 := by
          rw [outstanding]
          split_ifs
          · rfl
          · exact List.filter_cons_of_neg (by simpa using hscope)
        rw [post_blank (Or.inr hscope), hout]
        exact ih hnodup hnew'
      -- The entry is registered; what is deleted later decides whether it stays.
      have hinsert := SortedMap.entries_insert_perm (hnew id List.mem_cons_self) scope
      have hrest := ih (m := m.insert id scope) hnodup fun id' hid' x hx => by
        rcases List.mem_cons.mp (hinsert.mem_iff.mp hx) with rfl | hx
        · rintro rfl
          exact hfresh hid'
        · exact hnew' id' hid' x hx
      rw [post_named (not_or.mpr ⟨hid, hscope⟩)]
      refine hrest.trans (((hinsert.filter _).append_right _).trans ?_)
      by_cases hgone : .closed id ∈ rest
      · rw [outstanding, if_pos (Or.inr hgone), List.filter_cons_of_neg (by simpa using hgone)]
      · rw [outstanding, if_neg (not_or.mpr ⟨hid, hgone⟩),
          List.filter_cons_of_pos (by simpa using hgone),
          List.filter_cons_of_pos (by simpa using hscope)]
        exact List.perm_middle.symm

/-! ## Tasks that keep their books -/

/-- A request that enters nothing into any book. -/
def Ask.IsUnbooked : Ask → Prop
  | .tracking _ call => call.IsPlain
  | _ => True

theorem isUnbooked_of_isPlain {r : Ask} (h : r.IsPlain) : r.IsUnbooked := by
  cases h with
  | suffix => trivial
  | call client h => exact h

theorem isUnbooked_of_isProvisioning {r : Ask} (h : r.IsProvisioning) : r.IsUnbooked := by
  cases h with
  | suffix => trivial
  | create name scope => trivial
  | authorize hr => rcases hr with hr | hr <;> cases hr <;> trivial
  | withdraw hr => cases hr <;> trivial

theorem entry?_eq_none {kind : Cleanable} {x : Exchange probe} (h : x.request.IsUnbooked) :
    kind.entry? x = none := by
  unfold Cleanable.entry?
  split
  all_goals first
    | rfl
    | exact absurd h id

theorem book_append (kind : Cleanable) (D D' : List (Exchange probe)) :
    kind.book (D ++ D') = kind.book D ++ kind.book D' := List.filterMap_append ..

theorem book_eq_nil {kind : Cleanable} {D : List (Exchange probe)}
    (h : ∀ x ∈ D, x.request.IsUnbooked) : kind.book D = [] :=
  List.filterMap_eq_nil_iff.mpr fun x hx => entry?_eq_none (h x hx)

/-- **The client of a case works in the active workspace.** -/
def CaseState.Bound (s : CaseState) : Prop := ∀ c, s.client = some c → c.workspace = s.scope

theorem registry_withRegistry (s : CaseState) (kind k : Cleanable) (m : SortedMap String) :
    (s.withRegistry kind m).registry k = if k = kind then m else s.registry k := by
  cases kind <;> cases k <;> rfl

theorem bound_of_holdings {s t : CaseState} (h : s.holdings = t.holdings) (hb : t.Bound) :
    s.Bound := by
  intro c hc
  rw [client_eq_of_holdings h] at hc
  rw [scope_eq_of_holdings h]
  exact hb c hc

theorem bound_withRegistry {s : CaseState} (hb : s.Bound) (kind : Cleanable)
    (m : SortedMap String) : (s.withRegistry kind m).Bound := by
  cases kind <;> exact hb

/-- **One entry,** in the book and in the registries. -/
theorem booked_entry {s t : CaseState} {kind : Cleanable} {e : Entry} {D : List (Exchange probe)}
    (hb : s.Bound) (ht : t.holdings = (s.withRegistry kind (e.post (s.registry kind))).holdings)
    (hD : ∀ k : Cleanable, k.book D = if k = kind then [e] else []) :
    t.Bound ∧ ∀ k : Cleanable, t.registry k = (k.book D).foldl Entry.post (s.registry k) := by
  refine ⟨bound_of_holdings ht (bound_withRegistry hb _ _), fun k => ?_⟩
  rw [registry_eq_of_holdings ht, registry_withRegistry, hD]
  split_ifs with hk
  · rw [hk]
    rfl
  · rfl

namespace CaseTask

section
variable {α β : Type}

/-- **A task keeps its books:** its client works in the active workspace before and after, and the
registries after it are its books, posted on those before it. -/
def Booked (t : CaseTask α) : Prop :=
  ∀ ⦃σ : Type⦄ (h : Handler probe σ) (p : Point σ), p.state.Bound →
    (exec h t p).2.state.Bound ∧ ∀ kind : Cleanable, (exec h t p).2.state.registry kind =
      (kind.book (dialogue h t p)).foldl Entry.post (p.state.registry kind)

/-- A task that asks nothing of the kind, and leaves client and registries alone. -/
theorem booked_of_unbooked {t : CaseTask α} (hasks : t.Asks Ask.IsUnbooked)
    (hregistry : ∀ kind : Cleanable, Keeps (·.registry kind) t)
    (hbound : ∀ ⦃σ : Type⦄ (h : Handler probe σ) (p : Point σ), p.state.Bound →
      (exec h t p).2.state.Bound) : Booked t := by
  intro σ h p hb
  refine ⟨hbound h p hb, fun kind => ?_⟩
  rw [book_eq_nil fun x hx => hasks.of_mem_dialogue hx]
  exact hregistry kind h p

theorem Plain.booked {t : CaseTask α} (ht : Plain t) : Booked t :=
  booked_of_unbooked (ht.asks.mono fun _ => isUnbooked_of_isPlain)
    (fun kind _ h p => registry_eq_of_holdings (ht.keeps h p) kind)
    fun _ h p => bound_of_holdings (ht.keeps h p)

theorem Booked.bind {t : CaseTask α} {k : α → CaseTask β} (ht : Booked t)
    (hk : ∀ a, Booked (k a)) : Booked (t >>= k) := by
  intro σ h p hb
  obtain ⟨hfirst, hbooks⟩ := ht h p hb
  rcases hr : exec h t p with ⟨e | a, q⟩ <;> rw [hr] at hfirst hbooks
  · rw [exec_bind_error hr, dialogue_bind_error hr]
    exact ⟨hfirst, hbooks⟩
  · rw [exec_bind_ok hr, dialogue_bind_ok hr]
    obtain ⟨hsecond, hmore⟩ := hk a h q hfirst
    refine ⟨hsecond, fun kind => ?_⟩
    rw [book_append, List.foldl_append, hmore kind, hbooks kind]

theorem Booked.attempt {t : CaseTask α} (ht : Booked t) : Booked t.attempt := by
  intro σ h p hb
  have hp := ht h p hb
  rw [dialogue_attempt, exec_attempt]
  rcases hr : exec h t p with ⟨(e | x) | a, q⟩ <;> rw [hr] at hp <;> exact hp

end

/-! ## Actions -/

section
variable {σ : Type} (h : Handler probe σ) (p : Point σ)

/-- **A call as the active identity** fails, or enters what its answer says. -/
theorem call_cases (call : TrackingCall) :
    (∃ e q, exec h (Action.callAsActive call) p = (.error e, q) ∧ q.state = p.state ∧
      ∀ k : Cleanable, k.book (dialogue h (Action.callAsActive call) p) = []) ∨
    ∃ c a q, p.state.client = some c ∧ exec h (Action.callAsActive call) p = (.ok a, q) ∧
      q.state = p.state ∧ ∀ k : Cleanable, k.book (dialogue h (Action.callAsActive call) p) =
        (k.entry? ⟨.tracking c call, .ok a⟩).toList := by
  rcases hc : p.state.client with _ | c
  · have hcheck : p.state.activeClient = .error noIdentityError := by rw [CaseState.activeClient, hc]
    left
    unfold Action.callAsActive
    rw [exec_bind_ok (exec_get h p), dialogue_bind_ok (exec_get h p), hcheck]
    exact ⟨_, p, rfl, rfl, fun k => rfl⟩
  · have hcheck : p.state.activeClient = .ok c := by rw [CaseState.activeClient, hc]
    have hdialogue : dialogue h (Action.callAsActive call) p =
        [⟨.tracking c call, (h (.tracking c call) p.world).1⟩] := by
      unfold Action.callAsActive
      rw [dialogue_bind_ok (exec_get h p), hcheck, dialogue_bind_ok (exec_check_ok h p c),
        dialogue_lift]
      rfl
    rw [exec_callAsActive hc, hdialogue]
    rcases (h (.tracking c call) p.world).1 with e | a
    · left
      refine ⟨e, _, rfl, rfl, fun k => ?_⟩
      cases k <;> cases call <;> rfl
    · right
      refine ⟨c, a, _, rfl, rfl, rfl, fun k => ?_⟩
      rw [Cleanable.book, List.filterMap_cons]
      cases k.entry? ⟨.tracking c call, .ok a⟩ <;> rfl

/-- **Creating a resource** fails, or opens it in the workspace of the client. -/
theorem create_cases (kind : Cleanable) (arg : String) :
    (∃ e q, exec h (kind.create arg) p = (.error e, q) ∧ q.state = p.state ∧
      ∀ k : Cleanable, k.book (dialogue h (kind.create arg) p) = []) ∨
    ∃ c id q, p.state.client = some c ∧ exec h (kind.create arg) p = (.ok id, q) ∧
      q.state = p.state ∧ ∀ k : Cleanable, k.book (dialogue h (kind.create arg) p) =
        if k = kind then [.opened id c.workspace] else [] := by
  cases kind with
  | run =>
    refine (call_cases h p (.createRun arg)).imp_right ?_
    rintro ⟨c, id, q, hc, hr, hq, hbook⟩
    exact ⟨c, id, q, hc, hr, hq, fun k => (hbook k).trans (by cases k <;> rfl)⟩
  | model =>
    refine (call_cases h p (.createRegisteredModel arg)).imp_right ?_
    rintro ⟨c, id, q, hc, hr, hq, hbook⟩
    exact ⟨c, id, q, hc, hr, hq, fun k => (hbook k).trans (by cases k <;> rfl)⟩
  | experiment =>
    refine (call_cases h p (.createExperiment arg)).imp_right ?_
    rintro ⟨c, id, q, hc, hr, hq, hbook⟩
    exact ⟨c, id, q, hc, hr, hq, fun k => (hbook k).trans (by cases k <;> rfl)⟩

/-- **Deleting a resource** fails, or closes it. -/
theorem remove_cases (kind : Cleanable) (id : String) :
    (∃ e q, exec h (kind.remove id) p = (.error e, q) ∧ q.state = p.state ∧
      ∀ k : Cleanable, k.book (dialogue h (kind.remove id) p) = []) ∨
    ∃ q, exec h (kind.remove id) p = (.ok (), q) ∧ q.state = p.state ∧
      ∀ k : Cleanable, k.book (dialogue h (kind.remove id) p) =
        if k = kind then [.closed id] else [] := by
  cases kind with
  | run =>
    refine (call_cases h p (.deleteRun id)).imp_right ?_
    rintro ⟨c, a, q, -, hr, hq, hbook⟩
    exact ⟨q, hr, hq, fun k => (hbook k).trans (by cases k <;> rfl)⟩
  | model =>
    refine (call_cases h p (.deleteRegisteredModel id)).imp_right ?_
    rintro ⟨c, a, q, -, hr, hq, hbook⟩
    exact ⟨q, hr, hq, fun k => (hbook k).trans (by cases k <;> rfl)⟩
  | experiment =>
    refine (call_cases h p (.deleteExperiment id)).imp_right ?_
    rintro ⟨c, a, q, -, hr, hq, hbook⟩
    exact ⟨q, hr, hq, fun k => (hbook k).trans (by cases k <;> rfl)⟩

theorem exec_registerHere_blank (kind : Cleanable) {id : String}
    (hblank : Text.isAllBlank id ∨ Text.isAllBlank p.state.scope) :
    ∃ e, exec h (Action.registerHere kind id) p = (.error e, p) := by
  have hrefused : ∃ e, p.state.register kind id p.state.scope = .error e := by
    unfold CaseState.register
    split_ifs with hid hscope
    · exact ⟨_, rfl⟩
    · exact ⟨_, rfl⟩
    · exact absurd hblank (not_or.mpr ⟨hid, hscope⟩)
  obtain ⟨e, he⟩ := hrefused
  refine ⟨.error e, ?_⟩
  unfold Action.registerHere
  rw [exec_bind_ok (exec_get h p), he]
  rfl

theorem dialogue_registerHere (kind : Cleanable) (id : String) :
    dialogue h (Action.registerHere kind id) p = [] := by
  unfold Action.registerHere
  rw [dialogue_bind_ok (exec_get h p), dialogue_get, List.nil_append]
  cases p.state.register kind id p.state.scope <;> rfl

theorem exec_registerHere_named (kind : Cleanable) {id : String}
    (hblank : ¬(Text.isAllBlank id ∨ Text.isAllBlank p.state.scope)) :
    exec h (Action.registerHere kind id) p =
      (.ok ⟨⟩, { p with state := p.state.registered kind id }) := by
  rw [not_or, Bool.not_eq_true, Bool.not_eq_true] at hblank
  exact exec_registerHere_ok kind hblank.1 hblank.2

/-- **Registering what has been created,** in the active workspace: it is posted, or refused and
then posting it would change nothing. -/
theorem exec_registerHere (kind : Cleanable) (id : String) :
    ∃ r, exec h (Action.registerHere kind id) p =
      (r, ⟨p.state.withRegistry kind ((Entry.opened id p.state.scope).post (p.state.registry kind)),
        p.world⟩) := by
  by_cases hblank : Text.isAllBlank id ∨ Text.isAllBlank p.state.scope
  · obtain ⟨e, he⟩ := exec_registerHere_blank h p kind hblank
    refine ⟨.error e, ?_⟩
    rw [he, post_blank hblank]
    cases kind <;> rfl
  · refine ⟨.ok ⟨⟩, (exec_registerHere_named h p kind hblank).trans ?_⟩
    rw [post_named hblank]
    rfl

end

/-- **A tidy task keeps its books.** One case for each shape. -/
theorem Tidy.booked {t : CaseTask Unit} (ht : Tidy t) : Booked t := by
  induction ht with
  | plain ht => exact ht.booked
  | after ht _ ih => exact ht.booked.bind ih
  | create kind arg hf =>
    intro σ h p hb
    rcases create_cases h p kind arg with ⟨e, q, hr, hq, hbook⟩ | ⟨c, id, q, hc, hr, hq, hbook⟩
    · rw [exec_bind_error hr, dialogue_bind_error hr]
      refine ⟨hq ▸ hb, fun k => ?_⟩
      rw [hbook, hq]
      rfl
    · -- The client works in the active workspace, so what is entered is what is registered.
      obtain ⟨r, hregister⟩ := exec_registerHere h q kind id
      rw [exec_bind_ok hr, dialogue_bind_ok hr]
      rw [hq, ← hb c hc] at hregister
      rcases r with e | ⟨⟩
      · rw [exec_bind_error hregister, dialogue_bind_error hregister, dialogue_registerHere,
          List.append_nil]
        exact booked_entry hb rfl hbook
      · rw [exec_bind_ok hregister, dialogue_bind_ok hregister, dialogue_registerHere,
          dialogue_modify, List.append_nil, List.append_nil]
        exact booked_entry hb (hf id _) hbook
  | delete kind id hf =>
    intro σ h p hb
    rcases remove_cases h p kind id with ⟨e, q, hr, hq, hbook⟩ | ⟨q, hr, hq, hbook⟩
    · rw [exec_bind_error hr, dialogue_bind_error hr]
      refine ⟨hq ▸ hb, fun k => ?_⟩
      rw [hbook, hq]
      rfl
    · rw [exec_bind_ok hr, dialogue_bind_ok hr, dialogue_modify, List.append_nil, exec_modify, hq]
      exact booked_entry hb (hf _) hbook

/-- **A tidy task that fails** leaves the registries alone. -/
theorem Tidy.registry_of_error {t : CaseTask Unit} (ht : Tidy t) {σ : Type} {h : Handler probe σ}
    {p q : Point σ} {e : Stop} (herr : exec h t p = (.error e, q)) (k : Cleanable) :
    q.state.registry k = p.state.registry k := by
  induction ht generalizing p with
  | plain ht =>
    have hkept := ht.keeps h p
    rw [herr] at hkept
    exact registry_eq_of_holdings hkept k
  | after ht _ ih =>
    rename_i t k' _
    have hkept := ht.keeps h p
    rcases hr : exec h t p with ⟨e' | a, r⟩ <;> rw [hr] at hkept
    · rw [exec_bind_error hr] at herr
      cases herr
      exact registry_eq_of_holdings hkept k
    · rw [exec_bind_ok hr] at herr
      exact (ih a herr).trans (registry_eq_of_holdings hkept k)
  | create kind arg hf =>
    rcases create_cases h p kind arg with ⟨e', r, hr, hq, -⟩ | ⟨c, id, r, -, hr, hq, -⟩
    · rw [exec_bind_error hr] at herr
      cases herr
      rw [hq]
    · rw [exec_bind_ok hr] at herr
      by_cases hblank : Text.isAllBlank id ∨ Text.isAllBlank r.state.scope
      · obtain ⟨e', he'⟩ := exec_registerHere_blank h r kind hblank
        rw [exec_bind_error he'] at herr
        cases herr
        rw [hq]
      · rw [exec_bind_ok (exec_registerHere_named h r kind hblank)] at herr
        cases herr
  | delete kind id hf =>
    rcases remove_cases h p kind id with ⟨e', r, hr, hq, -⟩ | ⟨r, hr, -, -⟩
    · rw [exec_bind_error hr] at herr
      cases herr
      rw [hq]
    · rw [exec_bind_ok hr] at herr
      cases herr

end CaseTask

end GrantProbe
