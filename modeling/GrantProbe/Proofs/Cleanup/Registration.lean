import GrantProbe.Proofs.Case.Reach
import GrantProbe.Proofs.Cleanup.Leftover

/-!
# What is registered is removed

A registry holds one workspace for each identifier, the last that was registered for it. So what a
teardown removes is what was registered, unless one identifier was registered in two workspaces: then
only the last of them is cleaned.

* `SortedMap.IsSorted`: no key is repeated; `isSorted_of_reached`: so it is with every registry;
* `CaseState.registerAll`: registering in turn; `lastScope?`: the workspace of an identifier then;
* `registrations_are_removed_iff`: when all that was registered is removed.
-/

namespace GrantProbe

open Program (Handler)
open CaseTask (exec dialogue Keeps Preserves Tidy)

/-! ## Sorted maps -/

namespace SortedMap

variable {α : Type} {m : SortedMap α} {entries : List (String × α)} {key : String} {value : α}

/-- **The entries are in the order of their keys,** so no key is repeated. -/
def IsSorted (m : SortedMap α) : Prop := m.entries.Pairwise fun x y => x.1 < y.1

theorem isSorted_empty : (empty : SortedMap α).IsSorted := List.Pairwise.nil

theorem IsSorted.erase (hm : m.IsSorted) (key : String) : (m.erase key).IsSorted :=
  List.Pairwise.filter _ hm

theorem eq_or_mem_of_mem_insertEntry {x : String × α} (hx : x ∈ insertEntry key value entries) :
    x = (key, value) ∨ x ∈ entries := by
  induction entries with
  | nil => exact Or.inl (List.mem_singleton.mp hx)
  | cons e rest ih =>
    unfold insertEntry at hx
    split_ifs at hx
    · exact (List.mem_cons.mp hx).imp_right (List.mem_cons_of_mem e)
    · exact List.mem_cons.mp hx
    · rcases List.mem_cons.mp hx with rfl | hx
      · exact Or.inr List.mem_cons_self
      · exact (ih hx).imp_right (List.mem_cons_of_mem e)

/-- An entry is inserted at its place. The induction is on the entries. -/
theorem IsSorted.insert (hm : m.IsSorted) (key : String) (value : α) :
    (m.insert key value).IsSorted := by
  obtain ⟨entries⟩ := m
  have hsorted : entries.Pairwise fun x y => x.1 < y.1 := hm
  change (insertEntry key value entries).Pairwise fun x y => x.1 < y.1
  clear hm
  induction entries with
  | nil => exact List.pairwise_singleton ..
  | cons e rest ih =>
    obtain ⟨hhead, hrest⟩ := List.pairwise_cons.mp hsorted
    unfold insertEntry
    split_ifs with hsame hbefore
    · exact List.pairwise_cons.mpr ⟨fun x hx => hsame ▸ hhead x hx, hrest⟩
    · refine List.pairwise_cons.mpr ⟨fun x hx => ?_, hsorted⟩
      rcases List.mem_cons.mp hx with rfl | hx
      · exact hbefore
      · exact String.lt_trans hbefore (hhead x hx)
    · have hafter : e.1 < key := Std.lt_of_le_of_ne (String.not_lt.mp hbefore) hsame
      refine List.pairwise_cons.mpr ⟨fun x hx => ?_, ih hrest⟩
      rcases eq_or_mem_of_mem_insertEntry hx with rfl | hx
      · exact hafter
      · exact hhead x hx

/-- **In a sorted map** an entry is what its key is looked up as. The induction is on the entries. -/
theorem IsSorted.mem_iff (hm : m.IsSorted) : (key, value) ∈ m.entries ↔ m.get? key = some value := by
  obtain ⟨entries⟩ := m
  have hsorted : entries.Pairwise fun x y => x.1 < y.1 := hm
  change (key, value) ∈ entries ↔ lookup key entries = some value
  clear hm
  induction entries with
  | nil => simp [lookup]
  | cons e rest ih =>
    obtain ⟨hhead, hrest⟩ := List.pairwise_cons.mp hsorted
    rw [List.mem_cons, lookup]
    split_ifs with hkey
    · subst hkey
      have hno : (e.1, value) ∉ rest := fun hmem => String.lt_irrefl e.1 (hhead (e.1, value) hmem)
      rw [or_iff_left hno, Option.some_inj]
      exact ⟨fun heq => (congrArg Prod.snd heq).symm, fun heq => heq ▸ rfl⟩
    · have hne : (key, value) ≠ e := fun heq => hkey (congrArg Prod.fst heq).symm
      rw [← ih hrest]
      exact or_iff_right hne

theorem IsSorted.nodup_keys (hm : m.IsSorted) : (m.entries.map Prod.fst).Nodup := by
  have hne {x y : String} (hlt : x < y) : x ≠ y := fun heq => String.lt_irrefl y (heq ▸ hlt)
  exact List.pairwise_map.mpr (List.Pairwise.imp hne hm)

end SortedMap

/-! ## Registries -/

/-- **The registries are sorted.** -/
def CaseState.IsSorted (s : CaseState) : Prop := ∀ kind, (s.registry kind).IsSorted

theorem CaseState.IsSorted.withRegistry {s : CaseState} (hs : s.IsSorted) {m : SortedMap String}
    (hm : m.IsSorted) (kind : Cleanable) : (s.withRegistry kind m).IsSorted := by
  intro k
  rw [registry_withRegistry]
  split_ifs
  · exact hm
  · exact hs k

theorem registry_register {s s' : CaseState} {kind : Cleanable} {id scope : String}
    (hr : s.register kind id scope = .ok s') :
    s' = s.withRegistry kind ((s.registry kind).insert id scope) := by
  unfold CaseState.register at hr
  split_ifs at hr
  cases hr
  rfl

theorem CaseState.IsSorted.register {s s' : CaseState} {kind : Cleanable} {id scope : String}
    (hs : s.IsSorted) (hr : s.register kind id scope = .ok s') : s'.IsSorted := by
  rw [registry_register hr]
  exact hs.withRegistry ((hs kind).insert id scope) kind

theorem CaseState.IsSorted.forget {s : CaseState} (hs : s.IsSorted) (kind : Cleanable)
    (id : String) : (s.forget kind id).IsSorted := hs.withRegistry ((hs kind).erase id) kind

theorem CaseState.IsSorted.of_registry {s s' : CaseState} (h : s'.registry = s.registry)
    (hs : s.IsSorted) : s'.IsSorted := by
  intro kind
  rw [h]
  exact hs kind

theorem CaseState.IsSorted.of_holdings {s s' : CaseState} (h : s'.holdings = s.holdings)
    (hs : s.IsSorted) : s'.IsSorted := hs.of_registry (funext (registry_eq_of_holdings h))

namespace CaseTask

/-- **What a tidy task preserves:** what noting, registering and forgetting preserve. The induction
is on its shape. -/
theorem Tidy.preserves {I : CaseState → Prop}
    (hholdings : ∀ s s' : CaseState, s'.holdings = s.holdings → I s → I s')
    (hregister : ∀ s s' kind id scope, CaseState.register s kind id scope = .ok s' → I s → I s')
    (hforget : ∀ s kind id, I s → I (CaseState.forget s kind id)) {t : CaseTask Unit}
    (ht : Tidy t) : Preserves I t := by
  have hplain {α : Type} {t : CaseTask α} (ht : Keeps CaseState.holdings t) : Preserves I t :=
    ht.preserves fun s s' => hholdings s s'
  have hnote {f : CaseState → CaseState} (hf : ∀ s, (f s).holdings = s.holdings) :
      Preserves I (modify f) := hplain (keeps_modify hf)
  induction ht with
  | plain ht => exact hplain ht.keeps
  | after ht _ ih => exact (hplain ht.keeps).bind ih
  | create kind arg hf =>
    have hcreate : Keeps CaseState.holdings (kind.create arg) := by
      cases kind <;> exact keeps_callAsActive _ _
    refine (hplain hcreate).bind fun id => Preserves.bind ?_ fun _ => hnote (hf id)
    intro σ h p hp
    unfold Action.registerHere
    rw [exec_bind_ok (exec_get h p)]
    cases hr : p.state.register kind id p.state.scope with
    -- A registration that is refused leaves the state alone.
    | error e => exact hp
    | ok s => exact hregister _ _ _ _ _ hr hp
  | delete kind id hf =>
    have hremove : Keeps CaseState.holdings (kind.remove id) := by
      cases kind <;> exact keeps_callAsActive _ _
    refine (hplain hremove).bind fun _ σ h p hp => ?_
    exact hholdings _ _ (hf _) (hforget p.state kind id hp)

end CaseTask

/-- **In every point that can be reached the registries are sorted.** The induction is on how it is
reached. -/
theorem isSorted_of_reached {σ : Type} {fx : Fixture} {h : Handler probe σ} {p : Point σ}
    (hp : Reached fx h p) : p.state.IsSorted := by
  have hforgets : ForgetsIdentity CaseState.registry := by
    intro s i scope client is
    funext kind
    cases kind <;> rfl
  induction hp with
  | opening =>
    intro kind
    cases kind <;> exact SortedMap.isSorted_empty
  | later _ _ ih => exact ih
  | establish _ spec ih => exact ih.of_registry (keeps_establishIdentity hforgets fx spec h _)
  | go _ ref ih => exact ih.of_registry (keeps_useScope hforgets fx ref h _)
  | perform _ ha ih =>
    have htidy : Preserves CaseState.IsSorted _ := (tidy_of_mem ha fx).preserves
      (fun s s' hsame hs => hs.of_holdings hsame) (fun s s' kind id scope hr hs => hs.register hr)
      fun s kind id hs => hs.forget kind id
    exact htidy h _ ih
  | succeed _ _ ih => exact ih.of_holdings rfl
  | fail _ _ _ ih => exact ih.of_holdings rfl
  | register _ hr ih => exact ih.register hr
  | forget _ kind id ih => exact ih.forget kind id
  | teardown _ ih =>
    have hteardown : Preserves CaseState.IsSorted (teardown fx) :=
      preserves_teardown (fun s kind hs => hs.withRegistry SortedMap.isSorted_empty kind)
        (fun s hs => hs.of_registry (hforgets s s.identity s.scope s.client []))
        fun s hs => hs.of_registry (hforgets s none s.scope none s.identities)
    exact hteardown h _ ih

/-! ## Registering in turn -/

/-- **Something registered for cleanup.** -/
structure Registration where
  kind : Cleanable
  id : String
  scope : String

/-- **Registering in turn,** up to the first that is refused. -/
def CaseState.registerAll (s : CaseState) (rs : List Registration) : Except Error CaseState :=
  rs.foldlM (fun s r => s.register r.kind r.id r.scope) s

/-- The workspace of a registration, if it is one of the identifier. -/
def Registration.scopeOf? (kind : Cleanable) (id : String) (r : Registration) : Option String :=
  if r.kind = kind ∧ r.id = id then some r.scope else none

/-- **The workspace that an identifier was registered in last.** -/
def lastScope? (kind : Cleanable) (id : String) (rs : List Registration) : Option String :=
  (rs.filterMap (Registration.scopeOf? kind id)).getLast?

/-- No identifier of a kind is registered in two workspaces. -/
def OneScopeEach (rs : List Registration) : Prop :=
  ∀ r ∈ rs, ∀ r' ∈ rs, r.kind = r'.kind → r.id = r'.id → r.scope = r'.scope

section
variable {kind : Cleanable} {id scope : String} {r : Registration} {rs : List Registration}
  {s s' : CaseState}

theorem lastScope?_cons : lastScope? kind id (r :: rs) =
    (lastScope? kind id rs).or (r.scopeOf? kind id) := by
  unfold lastScope?
  cases hr : r.scopeOf? kind id with
  | none => rw [List.filterMap_cons_none hr, Option.or_none]
  | some scope => rw [List.filterMap_cons_some hr, List.getLast?_cons, Option.or_some]

theorem lastScope?_eq_some (h : lastScope? kind id rs = some scope) :
    ∃ r ∈ rs, r.kind = kind ∧ r.id = id ∧ r.scope = scope := by
  obtain ⟨r, hr, hscope⟩ := List.mem_filterMap.mp (List.mem_of_getLast? h)
  unfold Registration.scopeOf? at hscope
  split_ifs at hscope with hsame
  exact ⟨r, hr, hsame.1, hsame.2, Option.some.inj hscope⟩

theorem exists_lastScope? (hr : r ∈ rs) : ∃ scope, lastScope? r.kind r.id rs = some scope := by
  have hmem : r.scope ∈ rs.filterMap (Registration.scopeOf? r.kind r.id) :=
    List.mem_filterMap.mpr ⟨r, hr, if_pos ⟨rfl, rfl⟩⟩
  exact Option.ne_none_iff_exists'.mp fun hnone =>
    List.ne_nil_of_mem hmem (List.getLast?_eq_none_iff.mp hnone)

theorem get?_register (hr : s.register r.kind r.id r.scope = .ok s') :
    (s'.registry kind).get? id = (r.scopeOf? kind id).or ((s.registry kind).get? id) := by
  rw [registry_register hr, registry_withRegistry, Registration.scopeOf?]
  by_cases hkind : r.kind = kind
  · subst hkind
    rw [if_pos rfl, SortedMap.get?_insert]
    simp only [true_and]
    split_ifs <;> rfl
  · rw [if_neg (Ne.symm hkind), if_neg fun hsame => hkind hsame.1]
    rfl

theorem registerAll_cons_ok (hreg : s.registerAll (r :: rs) = .ok s') :
    ∃ t, s.register r.kind r.id r.scope = .ok t ∧ t.registerAll rs = .ok s' := by
  unfold CaseState.registerAll at hreg
  rw [List.foldlM_cons] at hreg
  cases hr : s.register r.kind r.id r.scope with
  | error e =>
    rw [hr] at hreg
    cases hreg
  | ok t =>
    rw [hr] at hreg
    exact ⟨t, rfl, hreg⟩

/-- **A registry holds the workspace registered last.** The induction is on the registrations. -/
theorem get?_registerAll (hreg : s.registerAll rs = .ok s') :
    (s'.registry kind).get? id = (lastScope? kind id rs).or ((s.registry kind).get? id) := by
  induction rs generalizing s with
  | nil =>
    cases hreg
    rfl
  | cons r rest ih =>
    obtain ⟨t, hr, hrest⟩ := registerAll_cons_ok hreg
    rw [ih hrest, get?_register hr, lastScope?_cons, Option.or_assoc]

end

section
variable {σ : Type} {fx : Fixture} {h : Handler probe σ} {p : Point σ}

theorem Reached.registerAll (hp : Reached fx h p) {rs : List Registration} {s : CaseState}
    (hreg : p.state.registerAll rs = .ok s) : Reached fx h ⟨s, p.world⟩ := by
  induction rs generalizing p with
  | nil =>
    cases hreg
    exact hp
  | cons r rest ih =>
    obtain ⟨t, hr, hrest⟩ := registerAll_cons_ok hreg
    exact ih (p := ⟨t, p.world⟩) (hp.register hr) hrest

variable (hcalls : ∀ client call w x, (h (.tracking client call) w).1 ≠ .error (.panic x))
include hcalls

/-- **A teardown removes** what the registries hold, from where they hold it. -/
theorem mem_removals_teardown (hp : p.state.IsSorted) {kind : Cleanable} {id scope : String} :
    (fx.setting.adminClient scope, id) ∈ kind.removals (dialogue h (teardown fx) p) ↔
      (p.state.registry kind).get? id = some scope := by
  rw [removals_teardown hcalls, ← (hp kind).mem_iff, Setting.asAdmin, List.mem_map]
  constructor
  · rintro ⟨⟨id', scope'⟩, hmem, heq⟩
    obtain ⟨hclient, rfl⟩ := Prod.mk.inj heq
    obtain rfl : scope' = scope := congrArg Client.workspace hclient
    exact hmem
  · exact fun hmem => ⟨(id, scope), hmem, rfl⟩

/-- **When what is registered is removed.** After registrations in turn the teardown deletes each
identifier of a kind at most once, in the workspace it was registered in last. So all that was
registered is deleted where it is exactly when no identifier was registered in two workspaces. -/
theorem registrations_are_removed_iff (hp : Reached fx h p) {rs : List Registration} {s : CaseState}
    (hreg : p.state.registerAll rs = .ok s) (w : σ) :
    (∀ kind : Cleanable, ((kind.removals (dialogue h (teardown fx) ⟨s, w⟩)).map Prod.snd).Nodup) ∧
    (∀ (kind : Cleanable) id scope,
      (fx.setting.adminClient scope, id) ∈ kind.removals (dialogue h (teardown fx) ⟨s, w⟩) ↔
        (lastScope? kind id rs).or ((p.state.registry kind).get? id) = some scope) ∧
    ((∀ r ∈ rs, (fx.setting.adminClient r.scope, r.id) ∈
        r.kind.removals (dialogue h (teardown fx) ⟨s, w⟩)) ↔ OneScopeEach rs) := by
  have hsorted : s.IsSorted := isSorted_of_reached (hp.registerAll hreg)
  have hremoved (kind : Cleanable) (id scope : String) : (fx.setting.adminClient scope, id) ∈
      kind.removals (dialogue h (teardown fx) ⟨s, w⟩) ↔
        (lastScope? kind id rs).or ((p.state.registry kind).get? id) = some scope := by
    rw [← get?_registerAll hreg]
    exact mem_removals_teardown hcalls (p := ⟨s, w⟩) hsorted
  refine ⟨fun kind => ?_, hremoved, fun hall r hr r' hr' hkind hid => ?_, fun hone r hr => ?_⟩
  · rw [removals_teardown hcalls, Setting.asAdmin, List.map_map]
    exact (hsorted kind).nodup_keys
  · have hfirst := (hremoved r.kind r.id r.scope).mp (hall r hr)
    have hsecond := (hremoved r'.kind r'.id r'.scope).mp (hall r' hr')
    rw [← hkind, ← hid, hfirst] at hsecond
    exact Option.some.inj hsecond
  · obtain ⟨scope, hlast⟩ := exists_lastScope? hr
    obtain ⟨r', hr', hkind, hid, rfl⟩ := lastScope?_eq_some hlast
    have hscope : r'.scope = r.scope := hone r' hr' r hr hkind hid
    rw [hremoved, hlast, hscope]
    rfl

end

/-! ## A harvest -/

/-- Two models and a run. The run has the identifier of a model, and is elsewhere. -/
def harvest : List Registration :=
  [⟨.model, "model-a", "workspace1"⟩, ⟨.model, "model-b", "workspace2"⟩,
    ⟨.run, "model-a", "workspace2"⟩]

/-- All of the harvest is removed. -/
theorem harvest_is_removed : OneScopeEach harvest ∧
    ∃ s, ((authorFixture "workspace1").opening (World.fresh trackingGroup 0 true)).state.registerAll
        harvest = .ok s ∧
      ∀ r ∈ harvest, ((authorFixture "workspace1").setting.adminClient r.scope, r.id) ∈
        r.kind.removals (dialogue World.answer (teardown (authorFixture "workspace1"))
          ⟨s, .fresh trackingGroup 0 true⟩) := by
  have hone : OneScopeEach harvest := by
    unfold OneScopeEach
    decide
  obtain ⟨s, hreg⟩ : ∃ s, ((authorFixture "workspace1").opening
      (World.fresh trackingGroup 0 true)).state.registerAll harvest = .ok s := ⟨_, rfl⟩
  obtain ⟨-, -, hiff⟩ := registrations_are_removed_iff tracking_ne_panic (.opening _) hreg
    (.fresh trackingGroup 0 true)
  exact ⟨hone, s, hreg, hiff.mpr hone⟩

/-- One name in two workspaces. -/
def namesakes : List Registration :=
  [⟨.model, "model-a", "workspace1"⟩, ⟨.model, "model-a", "workspace2"⟩]

/-- **The first of two namesakes is lost:** nobody removes it. -/
theorem namesake_is_lost :
    ¬ ∀ (rs : List Registration) (s : CaseState),
      ((authorFixture "workspace1").opening (World.fresh trackingGroup 0 true)).state.registerAll rs =
        .ok s →
      ∀ r ∈ rs, ((authorFixture "workspace1").setting.adminClient r.scope, r.id) ∈
        r.kind.removals (dialogue World.answer (teardown (authorFixture "workspace1"))
          ⟨s, .fresh trackingGroup 0 true⟩) := by
  intro hall
  obtain ⟨s, hreg, hasked⟩ : ∃ s, ((authorFixture "workspace1").opening
      (World.fresh trackingGroup 0 true)).state.registerAll namesakes = .ok s ∧
      Cleanable.model.removals (dialogue World.answer (teardown (authorFixture "workspace1"))
        ⟨s, .fresh trackingGroup 0 true⟩) =
          [((authorFixture "workspace1").setting.adminClient "workspace2", "model-a")] :=
    ⟨_, rfl, by decide +kernel⟩
  have hfirst := hall namesakes s hreg ⟨.model, "model-a", "workspace1"⟩ List.mem_cons_self
  rw [hasked] at hfirst
  revert hfirst
  decide

end GrantProbe
