import GrantProbe.Proofs.Json.Records
import GrantProbe.Tracking.Failure

/-!
# The error that a body holds

The body of a refusal is searched for an error of the service. What is found depends only on what the
body is: an object, a list, or no document at all.

* `ServiceError.Clear`: objects whose code and message can be told;
* `ServiceError.ofBody_of_clear`: an object holds the error that it says, if it is clear;
* `ServiceError.ofBody_of_ofItems?`: a list may be taken for an error, too;
* `ServiceError.ofBody_of_neither`: anything else holds none.
-/

namespace GrantProbe.ServiceError

open Json

/-! ## The fields of an error -/

/-- What a value makes of what has been read of an error, by the name of its field. -/
def take (name : String) (draft : Draft) (v : Shape) : Option Draft :=
  (v.orNull Shape.said?).map fun said =>
    if name = "error_code" then { draft with code := some said }
    else { draft with message := some said }

theorem takes_shape : shape.Takes take := by
  intro field hfield draft
  have hsaid := Reader.decodes_text.option
  simp only [shape, List.mem_cons, List.not_mem_nil, or_false] at hfield
  rcases hfield with rfl | rfl
  · exact hsaid.field "error_code" true Draft.code _ draft
  · exact hsaid.field "message" true Draft.message _ draft

theorem takeEntry_code (draft : Draft) (v : Shape) :
    shape.takeEntry take draft ⟨some "error_code", v⟩ =
      if draft.code.isSome then none
      else (v.orNull Shape.said?).map fun said => { draft with code := some said } := rfl

theorem takeEntry_message (draft : Draft) (v : Shape) :
    shape.takeEntry take draft ⟨some "message", v⟩ =
      if draft.message.isSome then none
      else (v.orNull Shape.said?).map fun said => { draft with message := some said } := rfl

theorem takeEntry_other {name : String} (hcode : name ≠ "error_code") (hmessage : name ≠ "message")
    (draft : Draft) (v : Shape) : shape.takeEntry take draft ⟨some name, v⟩ = some draft := by
  refine RecordShape.takeEntry_of_unknown ?_ draft v
  have hnames : shape.fields.map (·.name) = ["error_code", "message"] := rfl
  rw [List.find?_eq_none]
  intro field hfield hname
  have hmem : field.name ∈ ["error_code", "message"] := hnames ▸ List.mem_map_of_mem hfield
  rw [eq_of_beq hname] at hmem
  simp [hcode, hmessage] at hmem

/-! ## Objects -/

/-- The values of a field, one for each time that an object has it. -/
def valuesOf (name : String) (es : List Entry) : List Shape :=
  (es.filter (·.name == some name)).map Entry.value

/-- What a field says, if it is there once and is a text. -/
def saidBy (name : String) (es : List Entry) : Option String :=
  ((valuesOf name es).head?.map Shape.said?).join

/-- **A clear object:** every name says something, code and message are there at most once, and
each of them is a text or null. -/
structure Clear (es : List Entry) : Prop where
  named : ∀ e ∈ es, e.name ≠ none
  once : ∀ name ∈ ["error_code", "message"], (valuesOf name es).length ≤ 1
  readable : ∀ name ∈ ["error_code", "message"], ∀ v ∈ valuesOf name es, v ≠ .other

/-- What a field is read as, from what has been read of it and the values that follow. -/
def readOn : Option (Option String) → List Shape → Option (Option (Option String))
  | held, [] => some held
  | none, v :: vs => do readOn (some (← v.orNull Shape.said?)) vs
  | some _, _ :: _ => none

theorem valuesOf_cons_self (name : String) (v : Shape) (es : List Entry) :
    valuesOf name (⟨some name, v⟩ :: es) = v :: valuesOf name es := by
  rw [valuesOf, List.filter_cons_of_pos (by simp)]
  rfl

theorem valuesOf_cons_of_ne {name name' : String} (h : name' ≠ name) (v : Shape) (es : List Entry) :
    valuesOf name (⟨some name', v⟩ :: es) = valuesOf name es := by
  rw [valuesOf, List.filter_cons_of_neg (by simpa using h)]
  rfl

/-- **The entries of an object** are read field by field. -/
theorem absorb_eq_some_iff {es : List Entry} {draft d : Draft} :
    shape.absorb take draft es = some d ↔
      (∀ e ∈ es, e.name ≠ none) ∧ readOn draft.code (valuesOf "error_code" es) = some d.code ∧
        readOn draft.message (valuesOf "message" es) = some d.message := by
  induction es generalizing draft with
  | nil =>
    obtain ⟨code, message⟩ := draft
    obtain ⟨code', message'⟩ := d
    simp [RecordShape.absorb, valuesOf, readOn]
  | cons e es ih =>
    obtain ⟨name, v⟩ := e
    rw [RecordShape.absorb_cons, List.forall_mem_cons]
    cases name with
    | none => simp [RecordShape.takeEntry]
    | some name =>
      by_cases hcode : name = "error_code"
      · subst hcode
        rw [takeEntry_code, valuesOf_cons_self, valuesOf_cons_of_ne (by decide)]
        obtain ⟨_ | held, message⟩ := draft
        · cases hv : v.orNull Shape.said? with
          | none => simp [readOn, hv]
          | some said => simp [readOn, hv, ih]
        · simp [readOn]
      by_cases hmessage : name = "message"
      · subst hmessage
        rw [takeEntry_message, valuesOf_cons_self, valuesOf_cons_of_ne (by decide)]
        obtain ⟨code, _ | held⟩ := draft
        · cases hv : v.orNull Shape.said? with
          | none => simp [readOn, hv]
          | some said => simp [readOn, hv, ih]
        · simp [readOn]
      rw [takeEntry_other hcode hmessage, valuesOf_cons_of_ne hcode, valuesOf_cons_of_ne hmessage,
        Option.bind_some, ih]
      simp

theorem orNull_said?_eq {v : Shape} (h : v ≠ .other) :
    v.orNull Shape.said? = some v.said? := by
  cases v with
  | null => rfl
  | text s => rfl
  | other => exact absurd rfl h

/-- A field that may be left out is read if it is there at most once, with a text or null. -/
theorem readOn_none_eq {vs : List Shape} (honce : vs.length ≤ 1) (hreadable : ∀ v ∈ vs, v ≠ .other) :
    readOn none vs = some (vs.head?.map Shape.said?) := by
  cases vs with
  | nil => rfl
  | cons v rest =>
    obtain rfl : rest = [] := by simpa using honce
    rw [readOn, orNull_said?_eq (hreadable v List.mem_cons_self)]
    rfl

theorem of_readOn_none {vs : List Shape} {held : Option (Option String)}
    (h : readOn none vs = some held) : vs.length ≤ 1 ∧ ∀ v ∈ vs, v ≠ .other := by
  match vs with
  | [] => exact ⟨Nat.zero_le 1, fun v hv => absurd hv List.not_mem_nil⟩
  | [v] =>
    refine ⟨Nat.le_refl 1, fun w hw => ?_⟩
    obtain rfl := List.mem_singleton.mp hw
    rintro rfl
    cases h
  | v :: w :: rest =>
    obtain ⟨said, -, hsecond⟩ := Option.bind_eq_some_iff.mp h
    cases hsecond

/-- **The draft of an object** is made if and only if the object is clear. -/
theorem absorb_blank_eq_some_iff {es : List Entry} {d : Draft} :
    shape.absorb take shape.blank es = some d ↔
      Clear es ∧ (valuesOf "error_code" es).head?.map Shape.said? = d.code ∧
        (valuesOf "message" es).head?.map Shape.said? = d.message := by
  rw [absorb_eq_some_iff]
  constructor
  · rintro ⟨hnamed, hcode, hmessage⟩
    have hread : readOn none (valuesOf "error_code" es) = some d.code := hcode
    have hread' : readOn none (valuesOf "message" es) = some d.message := hmessage
    obtain ⟨honce, hreadable⟩ := of_readOn_none hread
    obtain ⟨honce', hreadable'⟩ := of_readOn_none hread'
    rw [readOn_none_eq honce hreadable] at hread
    rw [readOn_none_eq honce' hreadable'] at hread'
    refine ⟨⟨hnamed, ?_, ?_⟩, Option.some.inj hread, Option.some.inj hread'⟩
    · simpa using ⟨honce, honce'⟩
    · simpa using ⟨hreadable, hreadable'⟩
  · rintro ⟨hclear, hcode, hmessage⟩
    refine ⟨hclear.named, ?_, ?_⟩
    · rw [← hcode]
      exact readOn_none_eq (hclear.once _ (by simp)) (hclear.readable _ (by simp))
    · rw [← hmessage]
      exact readOn_none_eq (hclear.once _ (by simp)) (hclear.readable _ (by simp))

theorem mem_of_saidBy_eq_some {name s : String} {es : List Entry} (h : saidBy name es = some s) :
    ⟨some name, .text s⟩ ∈ es := by
  obtain ⟨v, hv, hsaid⟩ := Option.map_eq_some_iff.mp (Option.join_eq_some_iff.mp h)
  obtain ⟨e, he, rfl⟩ := List.mem_map.mp (List.mem_of_mem_head? hv)
  obtain ⟨hmem, hname⟩ := List.mem_filter.mp he
  obtain ⟨name', v⟩ := e
  obtain rfl : name' = some name := eq_of_beq hname
  cases v with
  | text r => rwa [← Option.some.inj hsaid]
  | null => cases hsaid
  | other => cases hsaid

theorem saidBy_eq_some_of_mem {name s : String} {es : List Entry}
    (honce : (valuesOf name es).length ≤ 1) (h : ⟨some name, .text s⟩ ∈ es) :
    saidBy name es = some s := by
  have hmem : Shape.text s ∈ valuesOf name es :=
    List.mem_map.mpr ⟨_, List.mem_filter.mpr ⟨h, by simp⟩, rfl⟩
  unfold saidBy
  match hvalues : valuesOf name es with
  | [] =>
    rw [hvalues] at hmem
    exact absurd hmem List.not_mem_nil
  | [v] =>
    rw [hvalues] at hmem
    rw [← List.mem_singleton.mp hmem]
    rfl
  | v :: w :: rest =>
    rw [hvalues] at honce
    simp at honce

/-! ## Lists -/

/-- **The error that a list is taken for:** its first item is the code and its second the message. -/
def ofItems? : List Shape → Option ServiceError
  | [] => some ⟨none, none⟩
  | [v] => do return ⟨← v.orNull Shape.said?, none⟩
  | [v, w] => do return ⟨← v.orNull Shape.said?, ← w.orNull Shape.said?⟩
  | _ => none

theorem fill_eq (vs : List Shape) :
    (RecordShape.fill take shape.fields shape.blank vs).map (fun d => ⟨d.code.join, d.message.join⟩) =
      ofItems? vs := by
  match vs with
  | [] => rfl
  | [v] =>
    cases hv : v.orNull Shape.said? <;> simp [RecordShape.fill, shape, take, ofItems?, hv, Field.of]
  | [v, w] =>
    cases hv : v.orNull Shape.said? <;> cases hw : w.orNull Shape.said? <;>
      simp [RecordShape.fill, shape, take, ofItems?, hv, hw, Field.of]
  | v :: w :: u :: rest =>
    cases hv : v.orNull Shape.said? <;> cases hw : w.orNull Shape.said? <;>
      simp [RecordShape.fill, shape, take, ofItems?, hv, hw, Field.of]

/-! ## Bodies -/

variable {body : String}

theorem read_eq_ok_iff {e : ServiceError} :
    shape.read (Input.ofText body) = .ok e ↔
      (∃ es, IsObject es (Input.ofText body) ∧ Clear es ∧
        e = ⟨saidBy "error_code" es, saidBy "message" es⟩) ∨
      ∃ vs, IsList vs (Input.ofText body) ∧ ofItems? vs = some e := by
  rw [RecordShape.read_eq_ok_iff takes_shape]
  refine or_congr (exists_congr fun es => ?_) ?_
  · constructor
    · rintro ⟨d, hes, habsorbed, hfinish⟩
      obtain ⟨hclear, hcode, hmessage⟩ := absorb_blank_eq_some_iff.mp habsorbed
      refine ⟨hes, hclear, (Except.ok.inj hfinish).symm.trans ?_⟩
      rw [← hcode, ← hmessage]
      rfl
    · rintro ⟨hes, hclear, rfl⟩
      exact ⟨⟨_, _⟩, hes, absorb_blank_eq_some_iff.mpr ⟨hclear, rfl, rfl⟩, rfl⟩
  · simp only [← fill_eq, Option.map_eq_some_iff]
    constructor
    · rintro ⟨vs, d, hvs, hfill, hfinish⟩
      exact ⟨vs, hvs, d, hfill, Except.ok.inj hfinish⟩
    · rintro ⟨vs, hvs, d, hfill, rfl⟩
      exact ⟨vs, d, hvs, hfill, rfl⟩

theorem ofBody_eq_of_read {e : ServiceError} (h : shape.read (Input.ofText body) = .ok e) :
    ofBody body = e := by
  rw [ofBody, h]

/-- **An object holds the error that it says,** if it is clear. -/
theorem ofBody_of_clear {es : List Entry} (h : IsObject es (Input.ofText body)) (hclear : Clear es) :
    ofBody body = ⟨saidBy "error_code" es, saidBy "message" es⟩ :=
  ofBody_eq_of_read (read_eq_ok_iff.mpr (Or.inl ⟨es, h, hclear, rfl⟩))

/-- **A list holds the error that it is taken for.** -/
theorem ofBody_of_ofItems? {vs : List Shape} {e : ServiceError} (h : IsList vs (Input.ofText body))
    (hitems : ofItems? vs = some e) : ofBody body = e :=
  ofBody_eq_of_read (read_eq_ok_iff.mpr (Or.inr ⟨vs, h, hitems⟩))

/-- **Nothing else holds an error.** -/
theorem ofBody_of_neither (hobject : ∀ es, IsObject es (Input.ofText body) → ¬Clear es)
    (hlist : ∀ vs, IsList vs (Input.ofText body) → ofItems? vs = none) :
    ofBody body = ⟨none, none⟩ := by
  cases hread : shape.read (Input.ofText body) with
  | error e => rw [ofBody, hread]
  | ok e =>
    rcases read_eq_ok_iff.mp hread with ⟨es, hes, hclear, -⟩ | ⟨vs, hvs, hitems⟩
    · exact absurd hclear (hobject es hes)
    · rw [hlist vs hvs] at hitems
      cases hitems

/-- **A code comes from an object or from a list.** -/
theorem exists_of_code {code : String} {message : Option String}
    (h : ofBody body = ⟨some code, message⟩) :
    (∃ es, IsObject es (Input.ofText body) ∧ ⟨some "error_code", .text code⟩ ∈ es) ∨
      ∃ vs, IsList vs (Input.ofText body) ∧ ofItems? vs = some ⟨some code, message⟩ := by
  cases hread : shape.read (Input.ofText body) with
  | error e =>
    rw [ofBody, hread] at h
    cases h
  | ok e =>
    rw [ofBody_eq_of_read hread] at h
    subst h
    rcases read_eq_ok_iff.mp hread with ⟨es, hes, -, hsaid⟩ | ⟨vs, hvs, hitems⟩
    · rw [mk.injEq] at hsaid
      exact Or.inl ⟨es, hes, mem_of_saidBy_eq_some hsaid.1.symm⟩
    · exact Or.inr ⟨vs, hvs, hitems⟩

end GrantProbe.ServiceError
