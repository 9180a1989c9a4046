import Mathlib.Data.List.Nodup

/-!
# First occurrences

A list without its repetitions keeps of each member the first occurrence, in order.

* `FirstOccurrences`: the list without repetitions, as a relation; there is one
  (`FirstOccurrences.unique`), and erasing repetitions makes it (`firstOccurrences_eraseDups`);
* `eraseDups_eraseDups`, `eraseDups_filter`, `eraseDups_flatMap`: erasing repetitions again, of some
  of the members, and of parts that have nothing in common.
-/

namespace GrantProbe

/-- **A list without its repetitions,** in the order in which its members occur first. -/
structure FirstOccurrences {α : Type} [DecidableEq α] (firsts xs : List α) : Prop where
  mem_iff : ∀ a, a ∈ firsts ↔ a ∈ xs
  ordered : firsts.Pairwise fun a b => xs.idxOf a < xs.idxOf b

section
variable {α β : Type} [DecidableEq α] [DecidableEq β]

theorem FirstOccurrences.nodup {firsts xs : List α} (h : FirstOccurrences firsts xs) :
    firsts.Nodup :=
  h.ordered.imp fun hlt heq => absurd (heq ▸ hlt) (Nat.lt_irrefl _)

theorem idxOf_lt_idxOf_of_filter {p : α → Bool} {xs : List α} {a b : α} (ha : p a = true)
    (hb : p b = true) (hlt : (xs.filter p).idxOf a < (xs.filter p).idxOf b) :
    xs.idxOf a < xs.idxOf b := by
  induction xs with
  | nil => exact absurd hlt (Nat.lt_irrefl _)
  | cons x rest ih =>
    by_cases hx : p x = true
    · rw [List.filter_cons_of_pos hx] at hlt
      rcases eq_or_ne x b with rfl | hxb
      · rw [List.idxOf_cons_self] at hlt
        exact absurd hlt (Nat.not_lt_zero _)
      rw [List.idxOf_cons_ne _ hxb] at hlt ⊢
      rcases eq_or_ne x a with rfl | hxa
      · rw [List.idxOf_cons_self]
        exact Nat.succ_pos _
      · rw [List.idxOf_cons_ne _ hxa] at hlt ⊢
        exact Nat.succ_lt_succ (ih (Nat.lt_of_succ_lt_succ hlt))
    · rw [List.filter_cons_of_neg hx] at hlt
      have hxa : x ≠ a := fun heq => hx (heq ▸ ha)
      have hxb : x ≠ b := fun heq => hx (heq ▸ hb)
      rw [List.idxOf_cons_ne _ hxa, List.idxOf_cons_ne _ hxb]
      exact Nat.succ_lt_succ (ih hlt)

/-- **Erasing repetitions** keeps first occurrences. The recursion is that of erasing them. -/
theorem firstOccurrences_eraseDups (xs : List α) : FirstOccurrences xs.eraseDups xs := by
  refine ⟨fun a => List.mem_eraseDups, ?_⟩
  match xs with
  | [] => exact List.Pairwise.nil
  | x :: rest =>
    have hrest := (firstOccurrences_eraseDups (rest.filter fun b => !b == x)).ordered
    have hkept : ∀ b ∈ (rest.filter fun b => !b == x).eraseDups, (!b == x) = true := fun b hb =>
      (List.mem_filter.mp (List.mem_eraseDups.mp hb)).2
    have hne : ∀ b ∈ (rest.filter fun b => !b == x).eraseDups, x ≠ b := by
      rintro b hb rfl
      have hself := hkept x hb
      rw [beq_self_eq_true] at hself
      cases hself
    rw [List.eraseDups_cons, List.pairwise_cons]
    refine ⟨fun b hb => ?_, hrest.imp_of_mem fun {a b} ha hb hlt => ?_⟩
    · rw [List.idxOf_cons_self, List.idxOf_cons_ne _ (hne b hb)]
      exact Nat.succ_pos _
    · rw [List.idxOf_cons_ne _ (hne a ha), List.idxOf_cons_ne _ (hne b hb)]
      exact Nat.succ_lt_succ (idxOf_lt_idxOf_of_filter (hkept a ha) (hkept b hb) hlt)
termination_by xs.length
decreasing_by exact Nat.lt_succ_of_le (List.length_filter_le _ _)

theorem idxOf_map {f : α → β} (hf : Function.Injective f) (xs : List α) (a : α) :
    (xs.map f).idxOf (f a) = xs.idxOf a := by
  induction xs with
  | nil => rfl
  | cons x rest ih =>
    by_cases hx : x = a
    · subst hx
      simp
    · rw [List.map_cons, List.idxOf_cons_ne _ hx, List.idxOf_cons_ne _ fun heq => hx (hf heq), ih]

theorem FirstOccurrences.filter {firsts xs : List α} (h : FirstOccurrences firsts xs) (p : α → Bool) :
    FirstOccurrences (firsts.filter p) (xs.filter p) where
  mem_iff a := by simp only [List.mem_filter, h.mem_iff]
  ordered := by
    refine (h.ordered.filter p).imp_of_mem fun {a b} ha hb hlt => ?_
    have hpa := (List.mem_filter.mp ha).2
    have hpb := (List.mem_filter.mp hb).2
    have hmem : a ∈ xs.filter p :=
      List.mem_filter.mpr ⟨(h.mem_iff a).mp (List.mem_filter.mp ha).1, hpa⟩
    -- the other two orders would be those of the whole list
    rcases Nat.lt_trichotomy ((xs.filter p).idxOf a) ((xs.filter p).idxOf b) with hab | hab | hab
    · exact hab
    · rw [(List.idxOf_inj hmem).mp hab] at hlt
      exact absurd hlt (Nat.lt_irrefl _)
    · exact absurd (idxOf_lt_idxOf_of_filter hpb hpa hab) (Nat.lt_asymm hlt)

theorem FirstOccurrences.map {f : α → β} (hf : Function.Injective f) {firsts xs : List α}
    (h : FirstOccurrences firsts xs) : FirstOccurrences (firsts.map f) (xs.map f) where
  mem_iff b := by simp only [List.mem_map, h.mem_iff]
  ordered := List.pairwise_map.mpr <| h.ordered.imp fun {a b} hlt => by
    rwa [idxOf_map hf, idxOf_map hf]

theorem FirstOccurrences.unique {firsts firsts' xs : List α} (h : FirstOccurrences firsts xs)
    (h' : FirstOccurrences firsts' xs) : firsts = firsts' := by
  have hperm : firsts.Perm firsts' :=
    (List.perm_ext_iff_of_nodup h.nodup h'.nodup).mpr fun a => (h.mem_iff a).trans (h'.mem_iff a).symm
  exact hperm.eq_of_pairwise (fun a b _ _ hab hba => absurd hab (Nat.lt_asymm hba)) h.ordered h'.ordered

theorem eraseDups_of_nodup {xs : List α} (h : xs.Nodup) : xs.eraseDups = xs := by
  refine (firstOccurrences_eraseDups xs).unique ⟨fun _ => Iff.rfl, ?_⟩
  refine List.pairwise_iff_getElem.mpr fun i j hi hj hij => ?_
  rwa [h.idxOf_getElem i hi, h.idxOf_getElem j hj]

theorem eraseDups_eraseDups (xs : List α) : xs.eraseDups.eraseDups = xs.eraseDups :=
  eraseDups_of_nodup (firstOccurrences_eraseDups xs).nodup

theorem eraseDups_filter (p : α → Bool) (xs : List α) :
    (xs.filter p).eraseDups = xs.eraseDups.filter p :=
  (firstOccurrences_eraseDups _).unique ((firstOccurrences_eraseDups xs).filter p)

theorem isEmpty_eraseDups (xs : List α) : xs.eraseDups.isEmpty = xs.isEmpty := by
  cases xs with
  | nil => rfl
  | cons x rest => rw [List.eraseDups_cons, List.isEmpty_cons, List.isEmpty_cons]

section
variable {f : α → List β} (hdisjoint : ∀ a b, a ≠ b → ∀ x ∈ f a, x ∉ f b)
include hdisjoint

theorem removeAll_flatMap (xs : List α) (a : α) :
    (xs.flatMap f).removeAll (f a) = (xs.filter fun b => !b == a).flatMap f := by
  rw [List.removeAll, List.filter_flatMap]
  induction xs with
  | nil => rfl
  | cons b rest ih =>
    rw [List.flatMap_cons, ih]
    by_cases hab : b = a
    · subst hab
      rw [List.filter_cons_of_neg (by simp), List.filter_eq_nil_iff.mpr (by simp), List.nil_append]
    · rw [List.filter_cons_of_pos (by simpa using hab), List.flatMap_cons,
        List.filter_eq_self.mpr fun x hx => by simpa using hdisjoint b a hab x hx]

/-- Parts that have nothing in common can be put together first. -/
theorem eraseDups_flatMap (hnodup : ∀ a, (f a).Nodup) (xs : List α) :
    (xs.flatMap f).eraseDups = xs.eraseDups.flatMap f := by
  match xs with
  | [] => rfl
  | a :: rest =>
    rw [List.flatMap_cons, List.eraseDups_append, eraseDups_of_nodup (hnodup a),
      removeAll_flatMap hdisjoint, eraseDups_flatMap hnodup, List.eraseDups_cons, List.flatMap_cons]
termination_by xs.length
decreasing_by exact Nat.lt_succ_of_le (List.length_filter_le _ _)

end

end

end GrantProbe
