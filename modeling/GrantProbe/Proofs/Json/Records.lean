import GrantProbe.Proofs.Json.Values

/-!
# Reading records by the grammar

A record is made from what the grammar has in the document and from nothing else: not from the order
of reading, nor from how its texts and blanks are written.

* `Reader.Decodes`: a reader that makes its result from the shape of a value, with
  `decodes_text` and `Decodes.option`; `Reader.Accepts`: one that does so at least for some shapes,
  with `accepts_variant`;
* `RecordShape.absorb`, `RecordShape.fill`: what the entries of an object and the items of a list make
  of a draft;
* `RecordShape.read_of_isObject`: a record that an object holds, if its fields are accepted;
* `RecordShape.read_eq_ok_iff`: the record that a document holds, if they are decoded.
-/

namespace GrantProbe.Json

variable {α β σ : Type} {x y z t : Input}

namespace Reader

/-! ## Values of the wrong kind -/

/-- **A reader that never ends well.** -/
def Fails (r : Reader α) : Prop := ∀ x p, r x ≠ .ok p

theorem fails_fail (e : ReadError) : Fails (fail e : Reader α) := by
  intro x p h
  cases h

theorem fails_bind {r : Reader β} {k : β → Reader α} (h : ∀ b, Fails (k b)) : Fails (r >>= k) := by
  rintro x ⟨a, t⟩ hok
  obtain ⟨b, y, -, hk⟩ := bind_eq_ok_iff.mp hok
  exact h b y _ hk

theorem fails_mismatch (expected : String) : Fails (mismatch expected : Reader α) := by
  refine fails_bind fun c => ?_
  split
  · exact fails_fail _
  · exact fails_bind fun _ => fails_fail _
  · exact fails_fail _
  · exact fails_fail _
  · exact fails_bind fun _ => fails_bind fun _ => fails_fail _
  · exact fails_bind fun _ => fails_bind fun _ => fails_fail _
  · exact fails_bind fun _ => fails_bind fun _ => fails_fail _
  · split
    · refine fails_bind fun n => ?_
      cases n <;> exact fails_fail _
    · exact fails_fail _

/-! ## Values of a known kind -/

/-- **The reader decodes a value:** it takes a value of the grammar, and its result is made from what
that holds. -/
def Decodes (r : Reader α) (f : Shape → Option α) : Prop :=
  ∀ x a t, r x = .ok (a, t) ↔ ∃ v, Derives (.value v) (pastGaps x) t ∧ f v = some a

/-- **The reader accepts a value:** it takes every value of which something is made, and perhaps
others. -/
def Accepts (r : Reader α) (f : Shape → Option α) : Prop :=
  ∀ x v a t, Derives (.value v) (pastGaps x) t → f v = some a → r x = .ok (a, t)

theorem Decodes.accepts {r : Reader α} {f : Shape → Option α} (h : Decodes r f) : Accepts r f :=
  fun x v a t hv hf => (h x a t).mpr ⟨v, hv, hf⟩

end Reader

/-- What a value says, if it is a text. -/
def Shape.said? : Shape → Option String
  | .text s => some s
  | _ => none

/-- What a value stands for, if it is one of a list of names. -/
def Shape.oneOf? (known : List (String × α)) (v : Shape) : Option α := do
  (known.find? (·.1 == (← v.said?))).map Prod.snd

/-- What is made of a value that may be null. -/
def Shape.orNull (f : Shape → Option α) : Shape → Option (Option α)
  | .null => some none
  | v => (f v).map some

namespace Reader

theorem said?_ofText {said : Option String} {s : String} :
    (Shape.ofText said).said? = some s ↔ said = some s := by
  cases said with
  | none => simp [Shape.ofText, Shape.said?]
  | some r => simp [Shape.ofText, Shape.said?]

theorem quotedText_of_said? {v : Shape} {s : String} (hv : Derives (.value v) (pastGaps x) t)
    (hsaid : v.said? = some s) :
    ∃ y, pastGaps x = some '"' :: y ∧ quotedText (some '"' :: y) = .ok (s, t) := by
  rcases hv.value_shape with ⟨y, said, hy, htext, rfl⟩ | ⟨-, rfl⟩
  · exact ⟨y, hy, quotedText_eq_ok_iff.mpr ((htext.said_iff s).mp (said?_ofText.mp hsaid))⟩
  · split at hsaid <;> cases hsaid

theorem decodes_textAs (expected : String) : Decodes (textAs expected) Shape.said? := by
  intro x s t
  rw [textAs, peekPast_bind]
  constructor
  · intro h
    by_cases hquote : (pastGaps x).head? = some (some '"')
    · obtain ⟨y, hy⟩ := List.head?_eq_some_iff.mp hquote
      rw [if_pos hquote, hy, quotedText_eq_ok_iff] at h
      rw [hy]
      exact ⟨_, .text h.textIs, by rw [String.ofList_toList]; rfl⟩
    · rw [if_neg hquote] at h
      exact absurd h (fails_mismatch expected _ _)
  · rintro ⟨v, hv, hsaid⟩
    obtain ⟨y, hy, hread⟩ := quotedText_of_said? hv hsaid
    rw [hy, List.head?_cons, if_pos rfl, hread]

/-- **A text is decoded.** -/
theorem decodes_text : Decodes text Shape.said? := decodes_textAs _

/-- **A name is accepted** as a text. -/
theorem accepts_variant (known : List (String × α)) :
    Accepts (variant known) (Shape.oneOf? known) := by
  intro x v a t hv ha
  obtain ⟨s, hsaid, hnamed⟩ := Option.bind_eq_some_iff.mp ha
  obtain ⟨⟨key, b⟩, hfind, rfl⟩ := Option.map_eq_some_iff.mp hnamed
  obtain ⟨y, hy, hread⟩ := quotedText_of_said? hv hsaid
  rw [variant, peekPast_bind, hy]
  refine (bind_of_ok hread).trans ?_
  rw [named, hfind]
  rfl

theorem derives_null_iff {v : Shape} :
    Derives (.value v) (some 'n' :: y) t ↔ v = .null ∧ y = ['u', 'l', 'l'].map some ++ t := by
  constructor
  · intro h
    refine ⟨?_, ?_⟩
    · rcases h.value_shape with ⟨y', said, hy, -, -⟩ | ⟨-, hv⟩
      · exact absurd (List.head_eq_of_cons_eq hy) (by decide)
      · exact hv
    · have hgaps : pastGaps (some 'n' :: y) = some 'n' :: y := pastGaps_cons rfl y
      have hread : passValue (some 'n' :: y) = .ok ((), t) :=
        passValue_eq_ok_iff.mpr ⟨v, by rwa [hgaps]⟩
      rw [passValue, remaining_bind, List.length_cons, passValueWith, peekPast_bind, hgaps] at hread
      exact word_eq_ok_iff.mp hread
  · rintro ⟨rfl, rfl⟩
    exact .word (w := ['n', 'u', 'l', 'l']) (by simp [valueWords])

/-- **A value that may be null is decoded** if its value is. -/
theorem Decodes.option {r : Reader α} {f : Shape → Option α} (h : Decodes r f) :
    Decodes (option r) (Shape.orNull f) := by
  intro x a t
  rw [Reader.option, peekPast_bind]
  have hsome : (do return some (← r) : Reader (Option α)) (pastGaps x) = .ok (a, t) ↔
      ∃ v, Derives (.value v) (pastGaps x) t ∧ (f v).map some = some a := by
    rw [bind_eq_ok_iff]
    constructor
    · rintro ⟨b, y, hread, hpure⟩
      obtain ⟨rfl, rfl⟩ : some b = a ∧ y = t := by simpa using hpure
      obtain ⟨v, hv, hf⟩ := (h _ _ _).mp hread
      rw [pastGaps_pastGaps] at hv
      exact ⟨v, hv, by rw [hf]; rfl⟩
    · rintro ⟨v, hv, hf⟩
      obtain ⟨b, hb, rfl⟩ := Option.map_eq_some_iff.mp hf
      exact ⟨b, t, (h _ _ _).mpr ⟨v, by rwa [pastGaps_pastGaps], hb⟩, rfl⟩
  by_cases hn : (pastGaps x).head? = some (some 'n')
  · obtain ⟨y, hy⟩ := List.head?_eq_some_iff.mp hn
    rw [if_pos hn, hy]
    have hread : (do advance; word ['u', 'l', 'l']; pure none : Reader (Option α)) (some 'n' :: y) =
        .ok (a, t) ↔ y = ['u', 'l', 'l'].map some ++ t ∧ none = a := by
      rw [advance_bind, bind_eq_ok_iff]
      constructor
      · rintro ⟨u, z, hword, hpure⟩
        obtain ⟨hnone, rfl⟩ : none = a ∧ z = t := by simpa using hpure
        exact ⟨word_eq_ok_iff.mp hword, hnone⟩
      · rintro ⟨hword, rfl⟩
        exact ⟨(), t, word_eq_ok_iff.mpr hword, rfl⟩
    rw [hread]
    constructor
    · rintro ⟨hword, rfl⟩
      exact ⟨.null, derives_null_iff.mpr ⟨rfl, hword⟩, rfl⟩
    · rintro ⟨v, hv, hf⟩
      obtain ⟨rfl, hword⟩ := derives_null_iff.mp hv
      exact ⟨hword, Option.some.inj hf⟩
  · rw [if_neg hn, hsome]
    refine exists_congr fun v => and_congr_right fun hv => ?_
    rcases hv.value_shape with ⟨y, said, -, -, rfl⟩ | ⟨-, rfl⟩
    · cases said <;> rfl
    · rw [if_neg hn]
      rfl

theorem Accepts.field {value : Reader β} {f : Shape → Option β} (h : Accepts value f) (name : String)
    (optional : Bool) (get : σ → Option β) (put : σ → β → σ) (draft : σ) :
    Accepts ((Field.of name optional get put value).read draft) fun v => (f v).map (put draft) := by
  intro x v d t hv hd
  obtain ⟨b, hb, rfl⟩ := Option.map_eq_some_iff.mp hd
  exact (bind_of_ok (h x v b t hv hb)).trans rfl

theorem Decodes.field {value : Reader β} {f : Shape → Option β} (h : Decodes value f) (name : String)
    (optional : Bool) (get : σ → Option β) (put : σ → β → σ) (draft : σ) :
    Decodes ((Field.of name optional get put value).read draft) fun v => (f v).map (put draft) := by
  intro x d t
  constructor
  · intro hread
    obtain ⟨b, y, hvalue, hpure⟩ := bind_eq_ok_iff.mp hread
    obtain ⟨rfl, rfl⟩ : put draft b = d ∧ y = t := by simpa using hpure
    obtain ⟨v, hv, hf⟩ := (h _ _ _).mp hvalue
    exact ⟨v, hv, congrArg (Option.map (put draft)) hf⟩
  · rintro ⟨v, hv, hd⟩
    exact h.accepts.field name optional get put draft x v d t hv hd

theorem check_eq_ok_iff {r : Except ReadError α} {a : α} :
    check r x = .ok (a, t) ↔ r = .ok a ∧ x = t := by
  cases r <;> simp [check]

theorem whole_eq_ok_iff {r : Reader α} {a : α} :
    whole r x = .ok a ↔ ∃ t, r x = .ok (a, t) ∧ t.all isGap = true := by
  unfold whole
  cases r x with
  | error e => simp
  | ok p =>
    obtain ⟨b, t⟩ := p
    have hpair : ∀ t', (.ok (b, t) : Except ReadError (α × Input)) = .ok (a, t') ↔ b = a ∧ t = t' := by
      simp
    simp only [hpair]
    split
    next ht =>
      constructor
      · intro h
        exact ⟨t, ⟨Except.ok.inj h, rfl⟩, ht⟩
      · rintro ⟨t', ⟨rfl, -⟩, -⟩
        rfl
    next ht =>
      constructor
      · intro h
        cases h
      · rintro ⟨t', ⟨-, rfl⟩, ht'⟩
        exact absurd ht' ht

end Reader

/-! ## Entries of an object -/

/-- **An entry stands at a place,** with the place behind it. -/
inductive EntryAt (isFirst : Bool) (x : Input) : Entry → Input → Prop
  | parts {y k z u w : Input} {name : Option String} {v : Shape} (hnext : Next isFirst x y)
    (hquote : pastGaps y = some '"' :: k) (hname : TextIs k name z)
    (hcolon : pastGaps z = some ':' :: u) (hvalue : Derives (.value v) (pastGaps u) w) :
    EntryAt isFirst x ⟨name, v⟩ w

theorem EntryAt.length_lt {isFirst : Bool} {e : Entry} (h : EntryAt isFirst x e y) :
    y.length < x.length := by
  cases h with
  | @parts y k z u w name v hnext hquote hname hcolon hvalue =>
    have hu := length_behindName_lt hnext hquote hname.quoted hcolon
    have hgaps := length_pastGaps_le u
    have hw := hvalue.length_lt
    omega

theorem derives_entries_nil_iff {isFirst : Bool} :
    Derives (.entries isFirst []) x t ↔ pastGaps x = some '\x7d' :: t := by
  constructor
  · intro h
    cases h with
    | entriesEnd hend => exact hend
  · exact .entriesEnd

theorem derives_entries_cons_iff {isFirst : Bool} {e : Entry} {es : List Entry} :
    Derives (.entries isFirst (e :: es)) x t ↔
      ∃ y, EntryAt isFirst x e y ∧ Derives (.entries false es) y t := by
  constructor
  · intro h
    cases h with
    | entry hnext hquote hname hcolon hvalue hrest =>
      exact ⟨_, .parts hnext hquote hname hcolon hvalue, hrest⟩
  · rintro ⟨y, hentry, hrest⟩
    cases hentry with
    | parts hnext hquote hname hcolon hvalue =>
      exact .entry hnext hquote hname hcolon hvalue hrest

namespace RecordShape

open Reader

variable (shape : RecordShape σ α) (take : String → σ → Shape → Option σ)

/-- **The fields are decoded:** what a value makes of a draft is what `take` says for the name of its
field. -/
def Takes : Prop :=
  ∀ field ∈ shape.fields, ∀ draft, Decodes (field.read draft) (take field.name draft)

/-- **The fields are accepted,** if nothing more than `take` says is asked of them. -/
def Accepts : Prop :=
  ∀ field ∈ shape.fields, ∀ draft, Reader.Accepts (field.read draft) (take field.name draft)

/-- **What an entry makes of a draft.** A name has to say something and a field is not repeated; a
name that is unknown counts for nothing. -/
def takeEntry (draft : σ) (e : Entry) : Option σ :=
  match e.name with
  | none => none
  | some name =>
    match shape.fields.find? (·.name == name) with
    | some field => if field.isSet draft then none else take name draft e.value
    | none => some draft

/-- **What the entries of an object make of a draft,** one after the other. -/
def absorb (draft : σ) (es : List Entry) : Option σ := es.foldlM (shape.takeEntry take) draft

variable {shape take}

theorem absorb_cons (draft : σ) (e : Entry) (es : List Entry) :
    shape.absorb take draft (e :: es) =
      (shape.takeEntry take draft e).bind fun d => shape.absorb take d es := by
  rw [absorb, List.foldlM_cons]
  rfl

theorem absorb_concat (draft : σ) (es : List Entry) (e : Entry) :
    shape.absorb take draft (es ++ [e]) =
      (shape.absorb take draft es).bind fun d => shape.takeEntry take d e := by
  rw [absorb, List.foldlM_append]
  simp only [List.foldlM_cons, List.foldlM_nil, bind_pure]
  rfl

theorem Takes.accepts (h : shape.Takes take) : shape.Accepts take :=
  fun field hfield draft => (h field hfield draft).accepts

theorem takeEntry_of_find {key : String} {field : Field σ}
    (hfind : shape.fields.find? (·.name == key) = some field) (draft : σ) (v : Shape) :
    shape.takeEntry take draft ⟨some key, v⟩ =
      if field.isSet draft then none else take key draft v := by
  simp only [takeEntry, hfind]

theorem takeEntry_of_unknown {key : String} (hfind : shape.fields.find? (·.name == key) = none)
    (draft : σ) (v : Shape) : shape.takeEntry take draft ⟨some key, v⟩ = some draft := by
  simp only [takeEntry, hfind]

theorem colon_bind_of_accepts {r : Reader σ} {f : Shape → Option σ} (h : Reader.Accepts r f)
    {rest : σ → Reader β} {u w : Input} {v : Shape} {d : σ} (hcolon : pastGaps x = some ':' :: u)
    (hv : Derives (.value v) (pastGaps u) w) (hf : f v = some d) :
    (do colon; rest (← r) : Reader β) x = rest d w := by
  rw [bind_of_ok (colon_eq_ok_iff.mpr hcolon), bind_of_ok (h _ _ _ _ hv hf)]

theorem colon_bind_eq_ok_iff {r : Reader σ} {f : Shape → Option σ} (h : Decodes r f)
    {rest : σ → Reader β} {b : β} :
    (do colon; rest (← r) : Reader β) x = .ok (b, t) ↔
      ∃ u v w d, pastGaps x = some ':' :: u ∧ Derives (.value v) (pastGaps u) w ∧ f v = some d ∧
        rest d w = .ok (b, t) := by
  constructor
  · intro hread
    obtain ⟨_, u, hcolon, hbehind⟩ := bind_eq_ok_iff.mp hread
    obtain ⟨d, w, hvalue, hrest⟩ := bind_eq_ok_iff.mp hbehind
    obtain ⟨v, hv, hf⟩ := (h _ _ _).mp hvalue
    exact ⟨u, v, w, d, colon_eq_ok_iff.mp hcolon, hv, hf, hrest⟩
  · rintro ⟨u, v, w, d, hcolon, hv, hf, hrest⟩
    rw [colon_bind_of_accepts h.accepts hcolon hv hf, hrest]

theorem decodes_passValue (draft : σ) :
    Decodes (do passValue; pure draft) fun _ => some draft := by
  intro x d t
  rw [bind_eq_ok_iff]
  constructor
  · rintro ⟨u, y, hpass, hpure⟩
    obtain ⟨rfl, rfl⟩ : draft = d ∧ y = t := by simpa using hpure
    obtain ⟨v, hv⟩ := passValue_eq_ok_iff.mp hpass
    exact ⟨v, hv, rfl⟩
  · rintro ⟨v, hv, hd⟩
    obtain rfl := Option.some.inj hd
    exact ⟨(), t, passValue_eq_ok_iff.mpr ⟨v, hv⟩, rfl⟩

/-- Reads what stands behind a name, and what follows that. -/
def behindName (shape : RecordShape σ α) (key : String) (draft : σ) (rest : σ → Reader β) :
    Reader β :=
  match shape.fields.find? (·.name == key) with
  | some field =>
    if field.isSet draft then fail (.duplicateField key)
    else do
      colon
      rest (← field.read draft)
  | none => do
    colon
    passValue
    rest draft

theorem behindName_of_unknown {key : String} (hfind : shape.fields.find? (·.name == key) = none)
    (draft : σ) (rest : σ → Reader β) :
    shape.behindName key draft rest =
      (do colon; rest (← (do passValue; pure draft)) : Reader β) := by
  simp only [behindName, hfind, bind_assoc, pure_bind]

theorem behindName_of_find {key : String} {field : Field σ}
    (hfind : shape.fields.find? (·.name == key) = some field) (draft : σ) (rest : σ → Reader β) :
    shape.behindName key draft rest =
      if field.isSet draft then fail (.duplicateField key)
      else (do colon; rest (← field.read draft) : Reader β) := by
  simp only [behindName, hfind]

theorem mem_of_find {key : String} {field : Field σ}
    (hfind : shape.fields.find? (·.name == key) = some field) :
    field ∈ shape.fields ∧ field.name = key :=
  ⟨List.mem_of_find?_eq_some hfind, by simpa using List.find?_some hfind⟩

theorem behindName_of_takeEntry (haccepts : shape.Accepts take) {key : String} {draft d : σ}
    {rest : σ → Reader β} {u w : Input} {v : Shape} (hcolon : pastGaps x = some ':' :: u)
    (hv : Derives (.value v) (pastGaps u) w)
    (htaken : shape.takeEntry take draft ⟨some key, v⟩ = some d) :
    shape.behindName key draft rest x = rest d w := by
  cases hfind : shape.fields.find? (·.name == key) with
  | none =>
    rw [takeEntry_of_unknown hfind] at htaken
    rw [behindName_of_unknown hfind]
    exact colon_bind_of_accepts (decodes_passValue draft).accepts hcolon hv htaken
  | some field =>
    obtain ⟨hmem, hname⟩ := mem_of_find hfind
    have haccept := haccepts field hmem draft
    rw [hname] at haccept
    rw [takeEntry_of_find hfind] at htaken
    rw [behindName_of_find hfind]
    cases hset : field.isSet draft with
    | true =>
      rw [hset] at htaken
      cases htaken
    | false =>
      rw [hset] at htaken
      exact colon_bind_of_accepts haccept hcolon hv htaken

/-- What stands behind a name is its value, and that makes of the draft what the entry makes. -/
theorem exists_of_behindName (htake : shape.Takes take) {key : String} {draft : σ}
    {rest : σ → Reader β} {b : β} (h : shape.behindName key draft rest x = .ok (b, t)) :
    ∃ u v w d, pastGaps x = some ':' :: u ∧ Derives (.value v) (pastGaps u) w ∧
      shape.takeEntry take draft ⟨some key, v⟩ = some d ∧ rest d w = .ok (b, t) := by
  cases hfind : shape.fields.find? (·.name == key) with
  | none =>
    simp only [takeEntry_of_unknown hfind]
    rw [behindName_of_unknown hfind] at h
    exact (colon_bind_eq_ok_iff (decodes_passValue draft)).mp h
  | some field =>
    obtain ⟨hmem, hname⟩ := mem_of_find hfind
    have hdecodes := htake field hmem draft
    rw [hname] at hdecodes
    simp only [takeEntry_of_find hfind]
    rw [behindName_of_find hfind] at h
    cases hset : field.isSet draft with
    | true =>
      rw [hset] at h
      cases h
    | false =>
      rw [hset] at h
      exact (colon_bind_eq_ok_iff hdecodes).mp h

theorem entries_succ (fuel : Nat) (isFirst : Bool) (draft : σ) :
    shape.entries (fuel + 1) isFirst draft =
      (do
        if ← moreKeys isFirst then
          let key ← quotedText
          shape.behindName key draft (shape.entries fuel false)
        else pure draft) := rfl

/-- **An object that is taken:** its entries make a draft. By induction on the entries. -/
theorem entries_of_derives (haccepts : shape.Accepts take) {fuel : Nat} {isFirst : Bool}
    {draft d : σ} {es : List Entry} (hes : Derives (.entries isFirst es) x t)
    (habsorbed : shape.absorb take draft es = some d) (hfuel : x.length < fuel) :
    shape.entries fuel isFirst draft x = .ok (d, some '\x7d' :: t) := by
  induction es generalizing fuel isFirst draft x with
  | nil =>
    have hend := derives_entries_nil_iff.mp hes
    obtain rfl := Option.some.inj habsorbed
    cases fuel with
    | zero => exact absurd hfuel (Nat.not_lt_zero _)
    | succ fuel =>
      rw [entries_succ, bind_of_ok (moreKeys_eq_false_iff.mpr ⟨t, hend, rfl⟩)]
      rfl
  | cons e es ih =>
    obtain ⟨z, hentry, hrest⟩ := derives_entries_cons_iff.mp hes
    obtain ⟨d', htaken, hgo⟩ := Option.bind_eq_some_iff.mp habsorbed
    have hz := hentry.length_lt
    cases fuel with
    | zero => exact absurd hfuel (Nat.not_lt_zero _)
    | succ fuel =>
      cases hentry with
      | @parts y k z' u w name v hnext hquote hname hcolon hvalue =>
        cases name with
        | none => cases htaken
        | some name =>
          have hkey : quotedText (some '"' :: k) = .ok (name, z') :=
            quotedText_eq_ok_iff.mpr ((hname.said_iff name).mp rfl)
          rw [entries_succ, bind_of_ok (moreKeys_eq_true_iff.mpr ⟨y, k, hnext, hquote, rfl⟩),
            if_pos rfl, bind_of_ok hkey, behindName_of_takeEntry haccepts hcolon hvalue htaken]
          exact ih hrest hgo (by omega)

theorem entries_succ_cases (htake : shape.Takes take) {fuel : Nat} {isFirst : Bool} {draft d : σ}
    (h : shape.entries (fuel + 1) isFirst draft x = .ok (d, y)) :
    (∃ t, pastGaps x = some '\x7d' :: t ∧ y = some '\x7d' :: t ∧ draft = d) ∨
      ∃ e z d', EntryAt isFirst x e z ∧ shape.takeEntry take draft e = some d' ∧
        shape.entries fuel false d' z = .ok (d, y) := by
  rw [entries_succ] at h
  obtain ⟨goesOn, z, hmore, hrest⟩ := bind_eq_ok_iff.mp h
  cases goesOn with
  | false =>
    obtain ⟨t, hx, rfl⟩ := moreKeys_eq_false_iff.mp hmore
    obtain ⟨rfl, rfl⟩ : draft = d ∧ some '\x7d' :: t = y := by simpa using hrest
    exact Or.inl ⟨t, hx, rfl, rfl⟩
  | true =>
    obtain ⟨k, z', hnext, hquote, rfl⟩ := moreKeys_eq_true_iff.mp hmore
    rw [if_pos rfl] at hrest
    obtain ⟨key, w, hkey, hbehind⟩ := bind_eq_ok_iff.mp hrest
    obtain ⟨u, v, w', d', hcolon, hv, htaken, hgo⟩ := exists_of_behindName htake hbehind
    have hname := (quotedText_eq_ok_iff.mp hkey).textIs
    rw [String.ofList_toList] at hname
    exact Or.inr ⟨_, w', d', .parts hnext hquote hname hcolon hv, htaken, hgo⟩

/-- **The rest of an object** is what the grammar has there, and what its entries make of the draft.
By induction on the fuel, which is more than the document is long. -/
theorem entries_eq_ok_iff (htake : shape.Takes take) {fuel : Nat} {isFirst : Bool} {draft d : σ}
    (hfuel : x.length < fuel) :
    shape.entries fuel isFirst draft x = .ok (d, y) ↔
      ∃ es t, Derives (.entries isFirst es) x t ∧ y = some '\x7d' :: t ∧
        shape.absorb take draft es = some d := by
  constructor
  · intro h
    induction fuel generalizing isFirst draft x with
    | zero => exact absurd hfuel (Nat.not_lt_zero _)
    | succ fuel ih =>
      rcases entries_succ_cases htake h with ⟨t, hx, rfl, rfl⟩ | ⟨e, z, d', hentry, htaken, hgo⟩
      · exact ⟨[], t, .entriesEnd hx, rfl, rfl⟩
      · have hz := hentry.length_lt
        obtain ⟨es, t, hes, rfl, habsorbed⟩ := ih (by omega) hgo
        refine ⟨e :: es, t, derives_entries_cons_iff.mpr ⟨z, hentry, hes⟩, rfl, ?_⟩
        rw [absorb_cons, htaken]
        exact habsorbed
  · rintro ⟨es, t, hes, rfl, habsorbed⟩
    exact entries_of_derives htake.accepts hes habsorbed hfuel

/-! ## Items of a list -/

/-- **What the items of a list make of a draft.** The first goes to the first field and so on; a list
may be too short for fields that may be left out, and never too long. -/
def fill (take : String → σ → Shape → Option σ) : List (Field σ) → σ → List Shape → Option σ
  | [], draft, [] => some draft
  | [], _, _ :: _ => none
  | field :: fields, draft, [] => if field.optional then fill take fields draft [] else none
  | field :: fields, draft, v :: vs => do fill take fields (← take field.name draft v) vs

/-- **The rest of a list** is what the grammar has there, and what its items make of the draft. By
induction on the fields that are left. -/
theorem elements_eq_ok_iff {fields : List (Field σ)} {draft d : σ}
    (htake : ∀ field ∈ fields, ∀ draft, Decodes (field.read draft) (take field.name draft))
    (index : Nat) :
    (∃ y, shape.elements index fields draft x = .ok (d, y) ∧ pastGaps y = some ']' :: t) ↔
      ∃ vs, Derives (.items (index == 0) vs) x t ∧ fill take fields draft vs = some d := by
  induction fields generalizing index draft x with
  | nil =>
    constructor
    · rintro ⟨y, hread, hend⟩
      obtain ⟨rfl, rfl⟩ : draft = d ∧ x = y := by simpa [elements] using hread
      exact ⟨[], .itemsEnd hend, rfl⟩
    · rintro ⟨vs, hvs, hfill⟩
      cases hvs with
      | itemsEnd hend =>
        obtain rfl := Option.some.inj hfill
        exact ⟨x, rfl, hend⟩
      | item _ _ _ => cases hfill
  | cons field fields ih =>
    have htakeRest : ∀ field ∈ fields, ∀ draft, Decodes (field.read draft) (take field.name draft) :=
      fun field hfield => htake field (List.mem_cons_of_mem _ hfield)
    constructor
    · rintro ⟨y, hread, hend⟩
      rw [elements] at hread
      obtain ⟨goesOn, z, hmore, hrest⟩ := bind_eq_ok_iff.mp hread
      cases goesOn with
      | false =>
        obtain ⟨t', hx, rfl⟩ := moreItems_eq_false_iff.mp hmore
        cases hoptional : field.optional with
        | false => simp [hoptional] at hrest
        | true =>
          have hskip : shape.elements (index + 1) fields draft (some ']' :: t') = .ok (d, y) := by
            simpa [hoptional] using hrest
          obtain ⟨vs, hvs, hfill⟩ := (ih htakeRest (index + 1)).mp ⟨y, hskip, hend⟩
          have hnone : Derives (.items (index + 1 == 0) []) (some ']' :: t') t' :=
            .itemsEnd (pastGaps_cons rfl t')
          obtain ⟨rfl, rfl⟩ := hnone.items_unique hvs
          exact ⟨[], .itemsEnd hx, by rw [fill, if_pos hoptional, hfill]⟩
      | true =>
        obtain ⟨z', hnext, hz, hgaps⟩ := moreItems_eq_true hmore
        rw [if_pos rfl] at hrest
        obtain ⟨d', w, hvalue, hgo⟩ := bind_eq_ok_iff.mp hrest
        obtain ⟨v, hv, htaken⟩ := (htake field List.mem_cons_self draft _ _ _).mp hvalue
        obtain ⟨vs, hvs, hfill⟩ := (ih htakeRest (index + 1)).mp ⟨y, hgo, hend⟩
        rw [hgaps, ← hz] at hv
        refine ⟨v :: vs, .item hnext hv hvs, ?_⟩
        rw [fill, htaken]
        exact hfill
    · rintro ⟨vs, hvs, hfill⟩
      cases hvs with
      | itemsEnd hx =>
        cases hoptional : field.optional with
        | false => simp [fill, hoptional] at hfill
        | true =>
          have hfillRest : fill take fields draft [] = some d := by simpa [fill, hoptional] using hfill
          obtain ⟨y, hskip, hend⟩ := (ih htakeRest (index + 1)).mpr
            ⟨[], .itemsEnd (pastGaps_cons rfl t), hfillRest⟩
          refine ⟨y, ?_, hend⟩
          rw [elements, bind_of_ok (moreItems_eq_false_iff.mpr ⟨t, hx, rfl⟩)]
          simpa [hoptional] using hskip
      | @item _ _ z w _ v vs hnext hvalue hrest =>
        obtain ⟨d', htaken, hfillRest⟩ := Option.bind_eq_some_iff.mp hfill
        obtain ⟨c, u, hz, hgap, hc⟩ := hvalue.value_exists_cons
        obtain ⟨y, hgo, hend⟩ := (ih htakeRest (index + 1)).mpr ⟨vs, hrest, hfillRest⟩
        have hread : field.read draft (c :: u) = .ok (d', w) := by
          refine (htake field List.mem_cons_self draft _ _ _).mpr ⟨v, ?_, htaken⟩
          rwa [pastGaps_cons hgap, ← hz]
        refine ⟨y, ?_, hend⟩
        rw [elements, bind_of_ok (moreItems_of_next hnext hz hc), if_pos rfl, bind_of_ok hread]
        exact hgo

/-! ## Records -/

theorem listRecord_eq_ok_iff (htake : shape.Takes take) {a : α} :
    (do
      let a ← check (shape.finish (← shape.elements 0 shape.fields shape.blank))
      endOfList
      pure a : Reader α) x = .ok (a, t) ↔
      ∃ vs d, Derives (.items true vs) x t ∧ fill take shape.fields shape.blank vs = some d ∧
        shape.finish d = .ok a := by
  constructor
  · intro h
    obtain ⟨d, y, hread, hchecked⟩ := bind_eq_ok_iff.mp h
    obtain ⟨b, z, hcheck, hended⟩ := bind_eq_ok_iff.mp hchecked
    obtain ⟨hfinish, rfl⟩ := check_eq_ok_iff.mp hcheck
    obtain ⟨_, w, hend, hpure⟩ := bind_eq_ok_iff.mp hended
    obtain ⟨rfl, rfl⟩ : b = a ∧ w = t := by simpa using hpure
    obtain ⟨vs, hvs, hfill⟩ :=
      (elements_eq_ok_iff htake 0).mp ⟨y, hread, endOfList_eq_ok_iff.mp hend⟩
    exact ⟨vs, d, hvs, hfill, hfinish⟩
  · rintro ⟨vs, d, hvs, hfill, hfinish⟩
    obtain ⟨y, hread, hend⟩ := (elements_eq_ok_iff htake 0).mpr ⟨vs, hvs, hfill⟩
    rw [bind_of_ok hread, bind_of_ok (check_eq_ok_iff.mpr ⟨hfinish, rfl⟩),
      bind_of_ok (endOfList_eq_ok_iff.mpr hend)]
    rfl

/-- Reads the rest of an object and makes a record of it. -/
def objectRecord (shape : RecordShape σ α) : Reader α := do
  let a ← check (shape.finish (← shape.entries ((← remaining) + 1) true shape.blank))
  advance
  pure a

theorem objectRecord_of_derives (haccepts : shape.Accepts take) {es : List Entry} {d : σ} {a : α}
    (hes : Derives (.entries true es) x t) (habsorbed : shape.absorb take shape.blank es = some d)
    (hfinish : shape.finish d = .ok a) : shape.objectRecord x = .ok (a, t) := by
  have hread : shape.entries (x.length + 1) true shape.blank x = .ok (d, some '\x7d' :: t) :=
    entries_of_derives haccepts hes habsorbed (Nat.lt_succ_self _)
  rw [objectRecord, remaining_bind, bind_of_ok hread, bind_of_ok (check_eq_ok_iff.mpr ⟨hfinish, rfl⟩)]
  rfl

theorem objectRecord_eq_ok_iff (htake : shape.Takes take) {a : α} :
    shape.objectRecord x = .ok (a, t) ↔
      ∃ es d, Derives (.entries true es) x t ∧ shape.absorb take shape.blank es = some d ∧
        shape.finish d = .ok a := by
  constructor
  · intro h
    rw [objectRecord, remaining_bind] at h
    obtain ⟨d, y, hread, hchecked⟩ := bind_eq_ok_iff.mp h
    obtain ⟨b, z, hcheck, hended⟩ := bind_eq_ok_iff.mp hchecked
    obtain ⟨hfinish, rfl⟩ := check_eq_ok_iff.mp hcheck
    obtain ⟨es, t', hes, rfl, habsorbed⟩ :=
      (entries_eq_ok_iff htake (Nat.lt_succ_self _)).mp hread
    obtain ⟨rfl, rfl⟩ : b = a ∧ t' = t := by simpa using hended
    exact ⟨es, d, hes, habsorbed, hfinish⟩
  · rintro ⟨es, d, hes, habsorbed, hfinish⟩
    exact objectRecord_of_derives htake.accepts hes habsorbed hfinish

theorem reader_of_object (hx : pastGaps x = some '\x7b' :: y) :
    shape.reader x = shape.objectRecord y := by
  rw [reader, peekPast_bind, hx]
  rfl

/-- **An object that is read:** the grammar has entries there that make a draft. -/
theorem read_of_isObject (haccepts : shape.Accepts take) {es : List Entry} {d : σ} {a : α}
    (hes : IsObject es x) (habsorbed : shape.absorb take shape.blank es = some d)
    (hfinish : shape.finish d = .ok a) : shape.read x = .ok a := by
  obtain ⟨y, t, hx, hderives, hend⟩ := hes
  refine whole_eq_ok_iff.mpr ⟨t, ?_, hend⟩
  rw [reader_of_object hx]
  exact objectRecord_of_derives haccepts hderives habsorbed hfinish

/-- **Reading a record:** an object or a list stands there, and its parts make a draft that can be
finished. -/
theorem reader_eq_ok_iff (htake : shape.Takes take) {a : α} :
    shape.reader x = .ok (a, t) ↔
      (∃ y es d, pastGaps x = some '\x7b' :: y ∧ Derives (.entries true es) y t ∧
        shape.absorb take shape.blank es = some d ∧ shape.finish d = .ok a) ∨
      ∃ y vs d, pastGaps x = some '[' :: y ∧ Derives (.items true vs) y t ∧
        fill take shape.fields shape.blank vs = some d ∧ shape.finish d = .ok a := by
  rw [reader, peekPast_bind]
  cases hx : pastGaps x with
  | nil => simpa using fails_mismatch shape.title [] (a, t)
  | cons c y =>
    by_cases hlist : c = some '['
    · subst hlist
      simpa using listRecord_eq_ok_iff htake
    · by_cases hobject : c = some '\x7b'
      · subst hobject
        simpa [objectRecord] using objectRecord_eq_ok_iff htake
      · simpa [hlist, hobject] using fails_mismatch shape.title (c :: y) (a, t)

/-- **The record that a document holds.** -/
theorem read_eq_ok_iff (htake : shape.Takes take) {a : α} :
    shape.read x = .ok a ↔
      (∃ es d, IsObject es x ∧ shape.absorb take shape.blank es = some d ∧
        shape.finish d = .ok a) ∨
      ∃ vs d, IsList vs x ∧ fill take shape.fields shape.blank vs = some d ∧
        shape.finish d = .ok a := by
  rw [read, whole_eq_ok_iff]
  simp only [reader_eq_ok_iff htake]
  constructor
  · rintro ⟨t, ⟨y, es, d, hx, hes, hd⟩ | ⟨y, vs, d, hx, hvs, hd⟩, hend⟩
    · exact Or.inl ⟨es, d, ⟨y, t, hx, hes, hend⟩, hd⟩
    · exact Or.inr ⟨vs, d, ⟨y, t, hx, hvs, hend⟩, hd⟩
  · rintro (⟨es, d, ⟨y, t, hx, hes, hend⟩, hd⟩ | ⟨vs, d, ⟨y, t, hx, hvs, hend⟩, hd⟩)
    · exact ⟨t, Or.inl ⟨y, es, d, hx, hes, hd⟩, hend⟩
    · exact ⟨t, Or.inr ⟨y, vs, d, hx, hvs, hd⟩, hend⟩

end RecordShape

/-! ## A document is one document -/

theorem IsObject.unique {es es' : List Entry} (h : IsObject es x) (h' : IsObject es' x) :
    es = es' := by
  obtain ⟨y, t, hx, hes, -⟩ := h
  obtain ⟨y', t', hx', hes', -⟩ := h'
  obtain rfl := List.tail_eq_of_cons_eq (hx.symm.trans hx')
  exact (hes.entries_unique hes').1

theorem IsList.unique {vs vs' : List Shape} (h : IsList vs x) (h' : IsList vs' x) : vs = vs' := by
  obtain ⟨y, t, hx, hvs, -⟩ := h
  obtain ⟨y', t', hx', hvs', -⟩ := h'
  obtain rfl := List.tail_eq_of_cons_eq (hx.symm.trans hx')
  exact (hvs.items_unique hvs').1

theorem IsObject.head?_pastGaps {es : List Entry} (h : IsObject es x) :
    (pastGaps x).head? = some (some '\x7b') := by
  obtain ⟨y, t, hx, -, -⟩ := h
  rw [hx, List.head?_cons]

theorem IsList.head?_pastGaps {vs : List Shape} (h : IsList vs x) :
    (pastGaps x).head? = some (some '[') := by
  obtain ⟨y, t, hx, -, -⟩ := h
  rw [hx, List.head?_cons]

theorem IsObject.not_isList {es : List Entry} {vs : List Shape} (h : IsObject es x) :
    ¬IsList vs x := by
  intro hlist
  exact absurd (h.head?_pastGaps.symm.trans hlist.head?_pastGaps) (by decide)

end GrantProbe.Json
