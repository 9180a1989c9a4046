import GrantProbe.Proofs.Json.Numbers

/-!
# Passing over values by the grammar

A value that nothing asks for is passed over if and only if the grammar has it there, whatever its
numbers and texts are.

* `Reader.derives_of_pass`, by induction on the fuel, and `Reader.passes_of_derives`, by induction on
  the derivation;
* `Reader.passValue_eq_ok_iff`: both, for any value;
* `Derives.value_unique`, `Derives.items_unique`, `Derives.entries_unique`: what the grammar has at a
  place, and where it ends, is unique.
-/

namespace GrantProbe.Json

variable {x y z t : Input}

namespace Reader

/-! ## Values -/

section
variable {fuel : Nat}

theorem passValueWith_text (h : pastGaps x = some '"' :: y) :
    passValueWith (fuel + 1) x = passText (some '"' :: y) := by
  rw [passValueWith, peekPast_bind, h]
  rfl

theorem passValueWith_list (h : pastGaps x = some '[' :: y) :
    passValueWith (fuel + 1) x = passItems fuel true y := by
  rw [passValueWith, peekPast_bind, h]
  rfl

theorem passValueWith_object (h : pastGaps x = some '\x7b' :: y) :
    passValueWith (fuel + 1) x = passEntries fuel true y := by
  rw [passValueWith, peekPast_bind, h]
  rfl

theorem passValueWith_word {w : List Char} {v : Shape} (hw : (w, v) ∈ valueWords)
    (h : pastGaps x = w.map some ++ t) : passValueWith (fuel + 1) x = .ok ((), t) := by
  rw [passValueWith, peekPast_bind, h]
  simp only [valueWords, List.mem_cons, Prod.mk.injEq, List.not_mem_nil, or_false] at hw
  rcases hw with ⟨rfl, -⟩ | ⟨rfl, -⟩ | ⟨rfl, -⟩ <;> exact word_eq_ok_iff.mpr rfl

theorem passValueWith_numeral {c : Option Char} (hc : startsNumeral c = true)
    (h : pastGaps x = c :: y) : passValueWith (fuel + 1) x = passNumber (c :: y) := by
  have hstart : c = some '-' ∨ (digit? c).isSome = true := by
    simpa [startsNumeral, isDecimal] using hc
  have hmarks : (['"', '[', '\x7b', 'n', 't', 'f'].all fun d => !startsNumeral (some d)) = true := by
    decide
  have hother : ∀ d ∈ ['"', '[', '\x7b', 'n', 't', 'f'], c ≠ some d := by
    rintro d hd rfl
    have hmark := List.all_eq_true.mp hmarks d hd
    rw [hc] at hmark
    exact Bool.noConfusion hmark
  simp only [List.forall_mem_cons] at hother
  obtain ⟨hquote, hlist, hobject, hn, ht, hf, -⟩ := hother
  rw [passValueWith, peekPast_bind, h]
  simp [hstart]

theorem passKey_eq_ok_iff : passKey x = .ok ((), t) ↔
    ∃ k z, pastGaps x = some '"' :: k ∧ Quoted k z ∧ pastGaps z = some ':' :: t := by
  rw [passKey, peekPast_bind]
  cases pastGaps x with
  | nil => simp
  | cons c k =>
    by_cases hc : c = some '"'
    · subst hc
      simp only [List.head?_cons]
      rw [bind_eq_ok_iff]
      constructor
      · rintro ⟨u, z, htext, hcolon⟩
        exact ⟨k, z, rfl, passText_eq_ok_iff.mp htext, colon_eq_ok_iff.mp hcolon⟩
      · rintro ⟨k', z, hk, htext, hcolon⟩
        rw [List.tail_eq_of_cons_eq hk]
        exact ⟨(), z, passText_eq_ok_iff.mpr htext, colon_eq_ok_iff.mpr hcolon⟩
    · simp [hc]

/-- **What is passed over is a value,** if that holds of lists and objects with less fuel. -/
theorem exists_value_of_passValueWith
    (hitems : ∀ y t, passItems fuel true y = .ok ((), t) → ∃ vs, Derives (.items true vs) y t)
    (hentries : ∀ y t, passEntries fuel true y = .ok ((), t) → ∃ es, Derives (.entries true es) y t)
    (h : passValueWith (fuel + 1) x = .ok ((), t)) : ∃ v, Derives (.value v) (pastGaps x) t := by
  cases hx : pastGaps x with
  | nil =>
    rw [passValueWith, peekPast_bind, hx] at h
    cases h
  | cons c y =>
    by_cases hquote : c = some '"'
    · subst hquote
      rw [passValueWith_text hx, passText_eq_ok_iff] at h
      obtain ⟨said, hsaid⟩ := h.exists_textIs
      exact ⟨_, .text hsaid⟩
    by_cases hlist : c = some '['
    · subst hlist
      rw [passValueWith_list hx] at h
      obtain ⟨vs, hvs⟩ := hitems y t h
      exact ⟨_, .list hvs⟩
    by_cases hobject : c = some '\x7b'
    · subst hobject
      rw [passValueWith_object hx] at h
      obtain ⟨es, hes⟩ := hentries y t h
      exact ⟨_, .object hes⟩
    rw [passValueWith, peekPast_bind, hx] at h
    by_cases hn : c = some 'n'
    · subst hn
      have hword : y = ['u', 'l', 'l'].map some ++ t := word_eq_ok_iff.mp h
      rw [hword]
      exact ⟨.null, .word (w := ['n', 'u', 'l', 'l']) (by simp [valueWords])⟩
    by_cases ht : c = some 't'
    · subst ht
      have hword : y = ['r', 'u', 'e'].map some ++ t := word_eq_ok_iff.mp h
      rw [hword]
      exact ⟨.other, .word (w := ['t', 'r', 'u', 'e']) (by simp [valueWords])⟩
    by_cases hf : c = some 'f'
    · subst hf
      have hword : y = ['a', 'l', 's', 'e'].map some ++ t := word_eq_ok_iff.mp h
      rw [hword]
      exact ⟨.other, .word (w := ['f', 'a', 'l', 's', 'e']) (by simp [valueWords])⟩
    by_cases hstart : c = some '-' ∨ (digit? c).isSome = true
    · have hnumber : passNumber (c :: y) = .ok ((), t) := by simpa [hstart] using h
      exact ⟨_, .numeral (passNumber_eq_ok_iff.mp hnumber)⟩
    · simp [hstart] at h

/-- **What is passed over is in the grammar.** -/
theorem derives_of_pass (fuel : Nat) :
    (∀ x t, passValueWith fuel x = .ok ((), t) → ∃ v, Derives (.value v) (pastGaps x) t) ∧
    (∀ isFirst x t, passItems fuel isFirst x = .ok ((), t) → ∃ vs, Derives (.items isFirst vs) x t) ∧
    (∀ isFirst x t, passEntries fuel isFirst x = .ok ((), t) →
      ∃ es, Derives (.entries isFirst es) x t) := by
  induction fuel with
  | zero =>
    refine ⟨fun x t h => ?_, fun isFirst x t h => ?_, fun isFirst x t h => ?_⟩ <;> cases h
  | succ fuel ih =>
    obtain ⟨ihvalue, ihitems, ihentries⟩ := ih
    refine ⟨fun x t h => exists_value_of_passValueWith (ihitems true) (ihentries true) h, ?_, ?_⟩
    · intro isFirst x t h
      rw [passItems] at h
      obtain ⟨goesOn, y, hmore, hrest⟩ := bind_eq_ok_iff.mp h
      cases goesOn with
      | false =>
        have hy : y = t := by simpa using hrest
        rw [hy] at hmore
        exact ⟨_, .itemsEnd (passMoreItems_eq_false_iff.mp hmore)⟩
      | true =>
        obtain ⟨z, hnext, hyz⟩ := passMoreItems_eq_true hmore
        rw [if_pos rfl] at hrest
        obtain ⟨u, w, hvalue, hitems⟩ := bind_eq_ok_iff.mp hrest
        obtain ⟨v, hv⟩ := ihvalue y w hvalue
        obtain ⟨vs, hvs⟩ := ihitems false w t hitems
        rw [hyz] at hv
        exact ⟨_, .item hnext hv hvs⟩
    · intro isFirst x t h
      rw [passEntries] at h
      obtain ⟨goesOn, y, hmore, hrest⟩ := bind_eq_ok_iff.mp h
      cases goesOn with
      | false =>
        have hy : y = t := by simpa using hrest
        rw [hy] at hmore
        exact ⟨_, .entriesEnd (passMoreKeys_eq_false_iff.mp hmore)⟩
      | true =>
        obtain ⟨z, hnext, hyz⟩ := passMoreKeys_eq_true hmore
        rw [if_pos rfl] at hrest
        obtain ⟨u, w, hkey, hbehind⟩ := bind_eq_ok_iff.mp hrest
        obtain ⟨u', w', hvalue, hentries⟩ := bind_eq_ok_iff.mp hbehind
        obtain ⟨k, z', hquote, hname, hcolon⟩ := passKey_eq_ok_iff.mp hkey
        obtain ⟨name, hsaid⟩ := hname.exists_textIs
        obtain ⟨v, hv⟩ := ihvalue w w' hvalue
        obtain ⟨es, hes⟩ := ihentries false w' t hentries
        rw [hyz] at hquote
        exact ⟨_, .entry hnext hquote hsaid hcolon hv hes⟩

end

end Reader

/-! ## What a value takes -/

theorem Derives.length_lt {p : Part} (h : Derives p x t) : t.length < x.length := by
  induction h with
  | word hw =>
    simp only [valueWords, List.mem_cons, Prod.mk.injEq, List.not_mem_nil, or_false] at hw
    rcases hw with ⟨rfl, -⟩ | ⟨rfl, -⟩ | ⟨rfl, -⟩ <;>
      simp only [List.length_append, List.length_map, List.length_cons] <;> omega
  | numeral hnumber => exact hnumber.length_lt
  | text hsaid => exact Nat.lt_succ_of_lt hsaid.quoted.length_lt
  | list _ ih => exact Nat.lt_succ_of_lt ih
  | object _ ih => exact Nat.lt_succ_of_lt ih
  | @itemsEnd _ x t hend =>
    have hlength := length_pastGaps_le x
    rw [hend, List.length_cons] at hlength
    omega
  | @item _ x y z _ _ _ hnext _ _ ihvalue ihrest =>
    have hy := hnext.length_le
    have hgaps := length_pastGaps_le y
    omega
  | @entriesEnd _ x t hend =>
    have hlength := length_pastGaps_le x
    rw [hend, List.length_cons] at hlength
    omega
  | @entry _ x y k z u w _ _ _ _ hnext hquote hname hcolon _ _ ihvalue ihrest =>
    have hu := length_behindName_lt hnext hquote hname.quoted hcolon
    have hgaps := length_pastGaps_le u
    omega

/-- A value does not begin with a blank, nor with what ends a list. -/
theorem Derives.value_exists_cons {v : Shape} (h : Derives (.value v) x t) :
    ∃ c y, x = c :: y ∧ isGap c = false ∧ c ≠ some ']' := by
  cases h with
  | word hw =>
    simp only [valueWords, List.mem_cons, Prod.mk.injEq, List.not_mem_nil, or_false] at hw
    rcases hw with ⟨rfl, -⟩ | ⟨rfl, -⟩ | ⟨rfl, -⟩ <;> exact ⟨_, _, rfl, by decide, by decide⟩
  | numeral hnumber =>
    obtain ⟨c, y, rfl, hc⟩ := hnumber.exists_cons
    refine ⟨c, y, rfl, ?_, ?_⟩
    · unfold isGap
      split <;> first | rfl | exact absurd hc (by decide)
    · rintro rfl
      exact absurd hc (by decide)
  | text _ => exact ⟨_, _, rfl, by decide, by decide⟩
  | list _ => exact ⟨_, _, rfl, by decide, by decide⟩
  | object _ => exact ⟨_, _, rfl, by decide, by decide⟩

/-! ### The other way round -/

namespace Reader

/-- A part of a document is passed over, given as much fuel as it takes. -/
def Passes : Part → Input → Input → Prop
  | .value _, x, t => ∀ fuel y, pastGaps y = x → 2 * x.length ≤ fuel →
      passValueWith fuel y = .ok ((), t)
  | .items isFirst _, x, t => ∀ fuel, 2 * x.length + 1 ≤ fuel →
      passItems fuel isFirst x = .ok ((), t)
  | .entries isFirst _, x, t => ∀ fuel, 2 * x.length + 1 ≤ fuel →
      passEntries fuel isFirst x = .ok ((), t)

/-- **What is in the grammar is passed over.** -/
theorem passes_of_derives {p : Part} (h : Derives p x t) : Passes p x t := by
  induction h with
  | @word w v t hw =>
    intro fuel y hy hfuel
    have hlength := (Derives.word hw : Derives (.value v) (w.map some ++ t) t).length_lt
    cases fuel with
    | zero => omega
    | succ fuel => exact passValueWith_word hw hy
  | numeral hnumber =>
    intro fuel y hy hfuel
    obtain ⟨c, z, rfl, hc⟩ := hnumber.exists_cons
    cases fuel with
    | zero => cases hfuel
    | succ fuel =>
      rw [passValueWith_numeral hc hy]
      exact passNumber_eq_ok_iff.mpr hnumber
  | text hsaid =>
    intro fuel y hy hfuel
    cases fuel with
    | zero => cases hfuel
    | succ fuel =>
      rw [passValueWith_text hy]
      exact passText_eq_ok_iff.mpr hsaid.quoted
  | list _ ih =>
    intro fuel y hy hfuel
    cases fuel with
    | zero => cases hfuel
    | succ fuel =>
      rw [List.length_cons] at hfuel
      rw [passValueWith_list hy]
      exact ih fuel (by omega)
  | object _ ih =>
    intro fuel y hy hfuel
    cases fuel with
    | zero => cases hfuel
    | succ fuel =>
      rw [List.length_cons] at hfuel
      rw [passValueWith_object hy]
      exact ih fuel (by omega)
  | itemsEnd hend =>
    intro fuel hfuel
    cases fuel with
    | zero => cases hfuel
    | succ fuel =>
      rw [passItems, bind_of_ok (passMoreItems_eq_false_iff.mpr hend)]
      rfl
  | @item isFirst x y z v vs t hnext hvalue hrest ihvalue ihrest =>
    intro fuel hfuel
    cases fuel with
    | zero => cases hfuel
    | succ fuel =>
      obtain ⟨c, w, hw, -, hc⟩ := hvalue.value_exists_cons
      obtain ⟨y', hmore, hy'⟩ := exists_passMoreItems_eq_true hnext hw hc
      have hy := hnext.length_le
      have hgaps := length_pastGaps_le y
      have hz := hvalue.length_lt
      have hread : passValueWith fuel y' = .ok ((), z) := ihvalue fuel y' hy' (by omega)
      rw [passItems, bind_of_ok hmore, if_pos rfl, bind_of_ok hread]
      exact ihrest fuel (by omega)
  | entriesEnd hend =>
    intro fuel hfuel
    cases fuel with
    | zero => cases hfuel
    | succ fuel =>
      rw [passEntries, bind_of_ok (passMoreKeys_eq_false_iff.mpr hend)]
      rfl
  | @entry isFirst x y k z u w t name v es hnext hquote hname hcolon hvalue hrest ihvalue ihrest =>
    intro fuel hfuel
    cases fuel with
    | zero => cases hfuel
    | succ fuel =>
      obtain ⟨y', hmore, hy'⟩ := exists_passMoreKeys_eq_true hnext hquote
      have hkey : passKey y' = .ok ((), u) :=
        passKey_eq_ok_iff.mpr ⟨k, z, hy'.trans hquote, hname.quoted, hcolon⟩
      have hu := length_behindName_lt hnext hquote hname.quoted hcolon
      have hgaps := length_pastGaps_le u
      have hw := hvalue.length_lt
      have hread : passValueWith fuel u = .ok ((), w) := ihvalue fuel u rfl (by omega)
      rw [passEntries, bind_of_ok hmore, if_pos rfl, bind_of_ok hkey, bind_of_ok hread]
      exact ihrest fuel (by omega)

/-- **A value is passed over** if and only if the grammar has one. -/
theorem passValue_eq_ok_iff :
    passValue x = .ok ((), t) ↔ ∃ v, Derives (.value v) (pastGaps x) t := by
  rw [passValue, remaining_bind]
  constructor
  · exact (derives_of_pass _).1 x t
  · rintro ⟨v, hv⟩
    have hgaps := length_pastGaps_le x
    exact passes_of_derives hv _ x rfl (by omega)

end Reader

/-! ## What the grammar has is unique -/

open Reader

theorem Derives.value_end_unique {v v' : Shape} {t' : Input} (h : Derives (.value v) x t)
    (h' : Derives (.value v') x t') : t = t' := by
  have hgaps : pastGaps x = x := by
    obtain ⟨c, y, rfl, hc, -⟩ := h.value_exists_cons
    exact pastGaps_cons hc y
  have hread : passValue x = .ok ((), t) := passValue_eq_ok_iff.mpr ⟨v, by rwa [hgaps]⟩
  have hread' : passValue x = .ok ((), t') := passValue_eq_ok_iff.mpr ⟨v', by rwa [hgaps]⟩
  rw [hread, Except.ok.injEq, Prod.mk.injEq] at hread'
  exact hread'.2

/-- A value is a text, or its shape can be told from its first letter. -/
theorem Derives.value_shape {v : Shape} (h : Derives (.value v) x t) :
    (∃ y said, x = some '"' :: y ∧ TextIs y said t ∧ v = .ofText said) ∨
      (x.head? ≠ some (some '"') ∧
        v = if x.head? = some (some 'n') then .null else .other) := by
  cases h with
  | word hw =>
    simp only [valueWords, List.mem_cons, Prod.mk.injEq, List.not_mem_nil, or_false] at hw
    rcases hw with ⟨rfl, rfl⟩ | ⟨rfl, rfl⟩ | ⟨rfl, rfl⟩ <;> exact Or.inr (by simp)
  | numeral hnumber =>
    obtain ⟨c, y, rfl, hc⟩ := hnumber.exists_cons
    refine Or.inr ⟨?_, (if_neg ?_).symm⟩ <;> intro hhead <;>
      rw [Option.some.inj hhead] at hc <;> exact absurd hc (by decide)
  | text hsaid => exact Or.inl ⟨_, _, rfl, hsaid, rfl⟩
  | list _ => exact Or.inr (by simp)
  | object _ => exact Or.inr (by simp)

/-- **A value is one value.** -/
theorem Derives.value_unique {v v' : Shape} {t' : Input} (h : Derives (.value v) x t)
    (h' : Derives (.value v') x t') : v = v' ∧ t = t' := by
  refine ⟨?_, h.value_end_unique h'⟩
  rcases h.value_shape with ⟨y, said, rfl, hsaid, rfl⟩ | ⟨hquote, rfl⟩
  · rcases h'.value_shape with ⟨y', said', hy, hsaid', rfl⟩ | ⟨hquote', -⟩
    · rw [← List.tail_eq_of_cons_eq hy] at hsaid'
      rw [(hsaid.unique hsaid').1]
    · exact absurd rfl hquote'
  · rcases h'.value_shape with ⟨y', said', rfl, -, -⟩ | ⟨-, rfl⟩
    · exact absurd rfl hquote
    · rfl

theorem Next.head_ne {isFirst : Bool} {c d : Option Char} (h : Next isFirst x y)
    (hx : pastGaps x = c :: t) (hcomma : c ≠ some ',') (hy : pastGaps y = d :: z) (hd : d ≠ c) :
    False := by
  cases isFirst with
  | true =>
    have hxy : y = x := h
    rw [hxy, hx] at hy
    exact hd (List.head_eq_of_cons_eq hy).symm
  | false => exact hcomma (List.head_eq_of_cons_eq (hx.symm.trans h))

/-- **A list has one list of items.** -/
theorem Derives.items_unique {isFirst : Bool} {vs vs' : List Shape} {t' : Input}
    (h : Derives (.items isFirst vs) x t) (h' : Derives (.items isFirst vs') x t') :
    vs = vs' ∧ t = t' := by
  induction vs generalizing isFirst x vs' with
  | nil =>
    cases h with
    | itemsEnd hend =>
      cases h' with
      | itemsEnd hend' => exact ⟨rfl, List.tail_eq_of_cons_eq (hend.symm.trans hend')⟩
      | item hnext hvalue _ =>
        obtain ⟨c, w, hw, -, hc⟩ := hvalue.value_exists_cons
        exact (hnext.head_ne hend (by decide) hw hc).elim
  | cons v vs ih =>
    cases h with
    | item hnext hvalue hrest =>
      cases h' with
      | itemsEnd hend' =>
        obtain ⟨c, w, hw, -, hc⟩ := hvalue.value_exists_cons
        exact (hnext.head_ne hend' (by decide) hw hc).elim
      | item hnext' hvalue' hrest' =>
        obtain rfl := hnext.unique hnext'
        obtain ⟨rfl, rfl⟩ := hvalue.value_unique hvalue'
        obtain ⟨rfl, rfl⟩ := ih hrest hrest'
        exact ⟨rfl, rfl⟩

/-- **An object has one list of entries.** -/
theorem Derives.entries_unique {isFirst : Bool} {es es' : List Entry} {t' : Input}
    (h : Derives (.entries isFirst es) x t) (h' : Derives (.entries isFirst es') x t') :
    es = es' ∧ t = t' := by
  induction es generalizing isFirst x es' with
  | nil =>
    cases h with
    | entriesEnd hend =>
      cases h' with
      | entriesEnd hend' => exact ⟨rfl, List.tail_eq_of_cons_eq (hend.symm.trans hend')⟩
      | entry hnext hquote _ _ _ _ =>
        exact (hnext.head_ne hend (by decide) hquote (by decide)).elim
  | cons e es ih =>
    cases h with
    | entry hnext hquote hname hcolon hvalue hrest =>
      cases h' with
      | entriesEnd hend' => exact (hnext.head_ne hend' (by decide) hquote (by decide)).elim
      | entry hnext' hquote' hname' hcolon' hvalue' hrest' =>
        obtain rfl := hnext.unique hnext'
        obtain rfl := List.tail_eq_of_cons_eq (hquote.symm.trans hquote')
        obtain ⟨rfl, rfl⟩ := hname.unique hname'
        obtain rfl := List.tail_eq_of_cons_eq (hcolon.symm.trans hcolon')
        obtain ⟨rfl, rfl⟩ := hvalue.value_unique hvalue'
        obtain ⟨rfl, rfl⟩ := ih hrest hrest'
        exact ⟨rfl, rfl⟩

end GrantProbe.Json
