import GrantProbe.Json.Record

/-!
# Steps of reading

A reader runs from one document to what it leaves of it. What each of the small readers does is said
once: the marks between the parts of a document, and whether a list or an object goes on.

* `pastGaps`, `Next`: the document behind blanks, and behind the comma before another item;
* `Reader.bind_eq_ok_iff`: a reader after another;
* `Reader.word_eq_ok_iff`, `Reader.moreItems_eq_false_iff` and the others: the marks.
-/

namespace GrantProbe.Json

/-- The document behind the blanks at its front. -/
def pastGaps (x : Input) : Input := x.dropWhile isGap

theorem pastGaps_cons {c : Option Char} (h : isGap c = false) (x : Input) :
    pastGaps (c :: x) = c :: x := by
  rw [pastGaps, List.dropWhile_cons_of_neg (by simp [h])]

theorem isGap_eq_false_of_pastGaps {x y : Input} {c : Option Char} (h : pastGaps x = c :: y) :
    isGap c = false := by
  have hhead := List.head?_dropWhile_not isGap x
  rw [show x.dropWhile isGap = c :: y from h] at hhead
  exact hhead

@[simp] theorem pastGaps_pastGaps (x : Input) : pastGaps (pastGaps x) = pastGaps x := by
  cases h : pastGaps x with
  | nil => rfl
  | cons c y => exact pastGaps_cons (isGap_eq_false_of_pastGaps h) y

theorem length_pastGaps_le (x : Input) : (pastGaps x).length ≤ x.length :=
  (List.dropWhile_sublist _).length_le

/-- **Where the next item begins,** at the first one or behind a comma. -/
def Next : (isFirst : Bool) → Input → Input → Prop
  | true, x, z => z = x
  | false, x, z => pastGaps x = some ',' :: z

theorem Next.length_le {isFirst : Bool} {x z : Input} (h : Next isFirst x z) :
    z.length ≤ x.length := by
  cases isFirst with
  | true => exact Nat.le_of_eq (congrArg List.length h)
  | false =>
    have hlen := length_pastGaps_le x
    rw [show pastGaps x = some ',' :: z from h, List.length_cons] at hlen
    omega

theorem Next.unique {isFirst : Bool} {x z z' : Input} (h : Next isFirst x z)
    (h' : Next isFirst x z') : z = z' := by
  cases isFirst with
  | true => exact Eq.trans h (Eq.symm h')
  | false => exact List.tail_eq_of_cons_eq (Eq.trans (Eq.symm h) h')

namespace Reader

variable {α β : Type} {x y t : Input}

/-! ## One reader after another -/

section
variable {r : Reader α} {k : α → Reader β}

theorem bind_of_ok {a : α} (h : r x = .ok (a, y)) : (r >>= k) x = k a y := by
  show (r x >>= fun p => k p.1 p.2) = k a y
  rw [h]
  rfl

theorem bind_eq_ok_iff {b : β} :
    (r >>= k) x = .ok (b, t) ↔ ∃ a y, r x = .ok (a, y) ∧ k a y = .ok (b, t) := by
  constructor
  · intro h
    cases hr : r x with
    | error e =>
      have hbind : (r x >>= fun p => k p.1 p.2) = .ok (b, t) := h
      rw [hr] at hbind
      cases hbind
    | ok p =>
      rw [bind_of_ok hr] at h
      exact ⟨p.1, p.2, rfl, h⟩
  · rintro ⟨a, y, hr, hk⟩
    rw [bind_of_ok hr, hk]

@[simp] theorem pure_apply (a : α) (x : Input) : (pure a : Reader α) x = .ok (a, x) := rfl

@[simp] theorem fail_apply (e : ReadError) (x : Input) : (fail e : Reader α) x = .error e := rfl

@[simp] theorem peek_bind (k : Option (Option Char) → Reader β) (x : Input) :
    (peek >>= k) x = k x.head? x := rfl

@[simp] theorem peekPast_bind (k : Option (Option Char) → Reader β) (x : Input) :
    (peekPast >>= k) x = k (pastGaps x).head? (pastGaps x) := rfl

@[simp] theorem advance_apply (x : Input) : advance x = .ok ((), x.tail) := rfl

@[simp] theorem advance_bind (k : Unit → Reader β) (x : Input) :
    (advance >>= k) x = k () x.tail := rfl

@[simp] theorem advance_seqRight (r : Reader β) (x : Input) : (advance *> r) x = r x.tail := rfl

@[simp] theorem remaining_bind (k : Nat → Reader β) (x : Input) :
    (remaining >>= k) x = k x.length x := rfl

end

/-! ## Marks -/

theorem word_eq_ok_iff {cs : List Char} :
    word cs x = .ok ((), t) ↔ x = cs.map some ++ t := by
  induction cs generalizing x with
  | nil => simp [word]
  | cons c rest ih =>
    rw [word, peek_bind]
    cases x with
    | nil => simp
    | cons d x =>
      by_cases hd : d = some c
      · simp [hd, ih]
      · simp [hd]

theorem colon_eq_ok_iff : colon x = .ok ((), t) ↔ pastGaps x = some ':' :: t := by
  rw [colon, peekPast_bind]
  cases pastGaps x with
  | nil => simp
  | cons c y =>
    by_cases hc : c = some ':'
    · simp [hc]
    · simp only [List.head?_cons]
      simp [hc]

/-! ## Lists -/

theorem moreItems_eq_false_iff {isFirst : Bool} :
    moreItems isFirst x = .ok (false, y) ↔ ∃ t, pastGaps x = some ']' :: t ∧ y = some ']' :: t := by
  rw [moreItems, peekPast_bind]
  cases pastGaps x with
  | nil => simp
  | cons c z =>
    by_cases hc : c = some ']'
    · simp [hc, eq_comm]
    · cases isFirst with
      | true => simp [hc]
      | false =>
        by_cases hcomma : c = some ','
        · cases hz : pastGaps z with
          | nil => simp [hcomma, hz]
          | cons d w => by_cases hd : d = some ']' <;> simp [hcomma, hz, hd]
        · simp [hc, hcomma]

theorem moreItems_eq_true {isFirst : Bool} (h : moreItems isFirst x = .ok (true, y)) :
    ∃ z, Next isFirst x z ∧ pastGaps z = y ∧ pastGaps y = y := by
  rw [moreItems, peekPast_bind] at h
  cases hx : pastGaps x with
  | nil => simp [hx] at h
  | cons c z =>
    by_cases hc : c = some ']'
    · simp [hx, hc] at h
    · cases isFirst with
      | true =>
        have hy : c :: z = y := by simpa [hx, hc] using h
        exact ⟨x, rfl, hx.trans hy, by rw [← hy, ← hx, pastGaps_pastGaps]⟩
      | false =>
        by_cases hcomma : c = some ','
        · cases hz : pastGaps z with
          | nil => simp [hx, hcomma, hz] at h
          | cons d w =>
            by_cases hd : d = some ']'
            · simp [hx, hcomma, hz, hd] at h
            · have hy : d :: w = y := by simpa [hx, hcomma, hz, hd] using h
              exact ⟨z, hx.trans (by rw [hcomma]), hz.trans hy,
                by rw [← hy, ← hz, pastGaps_pastGaps]⟩
        · simp [hx, hcomma] at h

/-- **A list goes on** where an item may begin. -/
theorem moreItems_of_next {isFirst : Bool} {z w : Input} {c : Option Char} (h : Next isFirst x z)
    (hw : pastGaps z = c :: w) (hc : c ≠ some ']') :
    moreItems isFirst x = .ok (true, c :: w) := by
  rw [moreItems, peekPast_bind]
  cases isFirst with
  | true =>
    have hz : z = x := h
    rw [hz] at hw
    simp [hw]
  | false =>
    have hx : pastGaps x = some ',' :: z := h
    simp [hx, hw]

theorem endOfList_eq_ok_iff : endOfList x = .ok ((), t) ↔ pastGaps x = some ']' :: t := by
  rw [endOfList, peekPast_bind]
  cases pastGaps x with
  | nil => simp
  | cons c z =>
    by_cases hc : c = some ']'
    · simp [hc]
    · by_cases hcomma : c = some ','
      · cases hz : pastGaps z with
        | nil => simp [hcomma, hz]
        | cons d w => by_cases hd : d = some ']' <;> simp [hcomma, hz, hd]
      · simp [hc]

/-- Passing over a list, its end is taken as well. -/
theorem passMoreItems_eq_false_iff {isFirst : Bool} :
    passMoreItems isFirst x = .ok (false, t) ↔ pastGaps x = some ']' :: t := by
  rw [passMoreItems, peekPast_bind]
  cases pastGaps x with
  | nil => simp
  | cons c z =>
    by_cases hc : c = some ']'
    · simp [hc]
    · cases isFirst with
      | true => simp [hc]
      | false => by_cases hcomma : c = some ',' <;> simp [hc, hcomma]

theorem passMoreItems_eq_true {isFirst : Bool} (h : passMoreItems isFirst x = .ok (true, y)) :
    ∃ z, Next isFirst x z ∧ pastGaps y = pastGaps z := by
  rw [passMoreItems, peekPast_bind] at h
  cases hx : pastGaps x with
  | nil => simp [hx] at h
  | cons c z =>
    by_cases hc : c = some ']'
    · simp [hx, hc] at h
    · cases isFirst with
      | true =>
        have hy : c :: z = y := by simpa [hx, hc] using h
        exact ⟨x, rfl, by rw [← hy, ← hx, pastGaps_pastGaps]⟩
      | false =>
        by_cases hcomma : c = some ','
        · have hy : z = y := by simpa [hx, hcomma] using h
          exact ⟨z, hx.trans (by rw [hcomma]), by rw [hy]⟩
        · simp [hx, hcomma] at h

theorem exists_passMoreItems_eq_true {isFirst : Bool} {z w : Input} {c : Option Char}
    (h : Next isFirst x z) (hw : pastGaps z = c :: w) (hc : c ≠ some ']') :
    ∃ y, passMoreItems isFirst x = .ok (true, y) ∧ pastGaps y = pastGaps z := by
  rw [passMoreItems, peekPast_bind]
  cases isFirst with
  | true =>
    have hz : z = x := h
    rw [hz] at hw ⊢
    exact ⟨c :: w, by simp [hw], by rw [← hw, pastGaps_pastGaps]⟩
  | false =>
    have hx : pastGaps x = some ',' :: z := h
    exact ⟨z, by simp [hx], rfl⟩

/-! ## Objects -/

theorem moreKeys_eq_false_iff {isFirst : Bool} :
    moreKeys isFirst x = .ok (false, y) ↔
      ∃ t, pastGaps x = some '\x7d' :: t ∧ y = some '\x7d' :: t := by
  rw [moreKeys, peekPast_bind]
  cases pastGaps x with
  | nil => simp
  | cons c z =>
    by_cases hc : c = some '\x7d'
    · simp [hc, eq_comm]
    · cases isFirst with
      | true => by_cases hquote : c = some '"' <;> simp [hc, hquote]
      | false =>
        by_cases hcomma : c = some ','
        · cases hz : pastGaps z with
          | nil => simp [hcomma, hz]
          | cons d w =>
            by_cases hquote : d = some '"'
            · simp [hcomma, hz, hquote]
            · by_cases hd : d = some '\x7d' <;> simp [hcomma, hz, hd]
        · simp [hc, hcomma]

theorem moreKeys_eq_true_iff {isFirst : Bool} :
    moreKeys isFirst x = .ok (true, y) ↔
      ∃ z k, Next isFirst x z ∧ pastGaps z = some '"' :: k ∧ y = some '"' :: k := by
  rw [moreKeys, peekPast_bind]
  cases hx : pastGaps x with
  | nil => cases isFirst <;> simp [Next, hx]
  | cons c z =>
    by_cases hc : c = some '\x7d'
    · cases isFirst <;> simp [Next, hx, hc]
    · cases isFirst with
      | true => by_cases hquote : c = some '"' <;> simp [Next, hx, hquote, eq_comm]
      | false =>
        by_cases hcomma : c = some ','
        · cases hz : pastGaps z with
          | nil => simp [Next, hx, hcomma, hz]
          | cons d w =>
            by_cases hquote : d = some '"'
            · simp [Next, hx, hcomma, hz, hquote, eq_comm]
            · by_cases hd : d = some '\x7d' <;> simp [Next, hx, hcomma, hz, hquote, hd]
        · simp [Next, hx, hcomma]

theorem passMoreKeys_eq_false_iff {isFirst : Bool} :
    passMoreKeys isFirst x = .ok (false, t) ↔ pastGaps x = some '\x7d' :: t := by
  rw [passMoreKeys, peekPast_bind]
  cases pastGaps x with
  | nil => simp
  | cons c z =>
    by_cases hc : c = some '\x7d'
    · simp [hc]
    · cases isFirst with
      | true => simp [hc]
      | false => by_cases hcomma : c = some ',' <;> simp [hc, hcomma]

theorem passMoreKeys_eq_true {isFirst : Bool} (h : passMoreKeys isFirst x = .ok (true, y)) :
    ∃ z, Next isFirst x z ∧ pastGaps y = pastGaps z := by
  rw [passMoreKeys, peekPast_bind] at h
  cases hx : pastGaps x with
  | nil => simp [hx] at h
  | cons c z =>
    by_cases hc : c = some '\x7d'
    · simp [hx, hc] at h
    · cases isFirst with
      | true =>
        have hy : c :: z = y := by simpa [hx, hc] using h
        exact ⟨x, rfl, by rw [← hy, ← hx, pastGaps_pastGaps]⟩
      | false =>
        by_cases hcomma : c = some ','
        · have hy : z = y := by simpa [hx, hcomma] using h
          exact ⟨z, hx.trans (by rw [hcomma]), by rw [hy]⟩
        · simp [hx, hcomma] at h

theorem exists_passMoreKeys_eq_true {isFirst : Bool} {z k : Input} (h : Next isFirst x z)
    (hk : pastGaps z = some '"' :: k) :
    ∃ y, passMoreKeys isFirst x = .ok (true, y) ∧ pastGaps y = pastGaps z := by
  rw [passMoreKeys, peekPast_bind]
  cases isFirst with
  | true =>
    have hz : z = x := h
    rw [hz] at hk ⊢
    exact ⟨some '"' :: k, by simp [hk], by rw [← hk, pastGaps_pastGaps]⟩
  | false =>
    have hx : pastGaps x = some ',' :: z := h
    exact ⟨z, by simp [hx], rfl⟩

end Reader

end GrantProbe.Json
