import Mathlib.Data.List.Nodup
import Mathlib.Data.List.Pairwise
import GrantProbe.Proofs.Json.Records

/-!
# Fields that are stored apart

A draft whose fields have places of their own does not depend on the order in which the entries of an
object come.

* `Slot`: a field with the place of the draft that holds it; `Slot.Apart`: two fields that do not touch
  each other's place;
* `RecordShape.LaidOut`: a record whose fields are slots, each apart from the others;
* `RecordShape.accepts_of_laidOut`: what such a record takes from a value;
* `RecordShape.absorb_perm`: the order of the entries counts for nothing.
-/

namespace GrantProbe.Json

variable {σ α : Type}

/-! ## Slots -/

/-- **A field and its place** in a draft of type `σ`, with what is made of a value. -/
structure Slot (σ : Type) where
  {β : Type}
  name : String
  optional : Bool
  get : σ → Option β
  put : σ → β → σ
  value : Reader β
  made : Shape → Option β
  accepts : Reader.Accepts value made
  get_put : ∀ d b, get (put d b) = some b

namespace Slot

/-- A text that has to be there, or may be left out. -/
def ofText (name : String) (optional : Bool) (get : σ → Option String) (put : σ → String → σ)
    (get_put : ∀ d s, get (put d s) = some s) : Slot σ :=
  ⟨name, optional, get, put, .text, Shape.said?, Reader.decodes_text.accepts, get_put⟩

/-- A text that may be null. -/
def ofTextOrNull (name : String) (optional : Bool) (get : σ → Option (Option String))
    (put : σ → Option String → σ) (get_put : ∀ d s, get (put d s) = some s) : Slot σ :=
  ⟨name, optional, get, put, .option .text, Shape.orNull Shape.said?,
    Reader.decodes_text.option.accepts, get_put⟩

/-- One of a list of names. -/
def ofName {β : Type} (known : List (String × β)) (name : String) (optional : Bool)
    (get : σ → Option β) (put : σ → β → σ) (get_put : ∀ d b, get (put d b) = some b) : Slot σ :=
  ⟨name, optional, get, put, .variant known, Shape.oneOf? known, Reader.accepts_variant known, get_put⟩

variable (s : Slot σ)

/-- The field as it is read. -/
def field : Field σ := .of s.name s.optional s.get s.put s.value

/-- What a value makes of a draft. -/
def take (draft : σ) (v : Shape) : Option σ := (s.made v).map (s.put draft)

theorem accepts_field (draft : σ) : Reader.Accepts (s.field.read draft) (s.take draft) :=
  s.accepts.field s.name s.optional s.get s.put draft

/-- **Two fields apart:** they have different names, and neither is in the place of the other. -/
structure Apart (a b : Slot σ) : Prop where
  name_ne : a.name ≠ b.name
  put_comm : ∀ d x y, b.put (a.put d x) y = a.put (b.put d y) x
  get_left : ∀ d y, a.get (b.put d y) = a.get d
  get_right : ∀ d x, b.get (a.put d x) = b.get d

instance : Std.Symm (@Apart σ) :=
  ⟨fun _ _ h => ⟨h.name_ne.symm, fun d y x => (h.put_comm d x y).symm, h.get_right, h.get_left⟩⟩

/-- What an entry makes of a draft: its place has to be free. -/
def enter (draft : σ) (v : Shape) : Option σ := if (s.get draft).isSome then none else s.take draft v

theorem enter_eq_some_iff {s : Slot σ} {draft d : σ} {v : Shape} :
    s.enter draft v = some d ↔
      s.get draft = none ∧ ∃ b, s.made v = some b ∧ s.put draft b = d := by
  rw [enter]
  cases s.get draft with
  | none => simp [take, Option.map_eq_some_iff]
  | some b => simp

/-- **A field is not entered twice.** -/
theorem enter_enter_self (draft : σ) (v w : Shape) :
    (s.enter draft v).bind (s.enter · w) = none := by
  rw [Option.bind_eq_none_iff]
  intro d hd
  obtain ⟨-, b, -, rfl⟩ := enter_eq_some_iff.mp hd
  rw [enter, s.get_put, Option.isSome_some, if_pos rfl]

/-- **Fields apart are entered in either order.** -/
theorem Apart.enter_comm {a b : Slot σ} (h : a.Apart b) (draft : σ) (v w : Shape) :
    (a.enter draft v).bind (b.enter · w) = (b.enter draft w).bind (a.enter · v) := by
  ext d
  simp only [Option.bind_eq_some_iff, enter_eq_some_iff]
  constructor
  · rintro ⟨_, ⟨ha, x, hx, rfl⟩, hb, y, hy, rfl⟩
    rw [h.get_right] at hb
    exact ⟨_, ⟨hb, y, hy, rfl⟩, by rw [h.get_left, ha], x, hx, (h.put_comm draft x y).symm⟩
  · rintro ⟨_, ⟨hb, y, hy, rfl⟩, ha, x, hx, rfl⟩
    rw [h.get_left] at ha
    exact ⟨_, ⟨ha, x, hx, rfl⟩, by rw [h.get_right, hb], y, hy, h.put_comm draft x y⟩

end Slot

namespace RecordShape

variable {shape : RecordShape σ α} {slots : List (Slot σ)}

/-! ## Records of slots -/

/-- **The fields of the record are slots,** each apart from the others. -/
structure LaidOut (shape : RecordShape σ α) (slots : List (Slot σ)) : Prop where
  fields_eq : shape.fields = slots.map Slot.field
  apart : slots.Pairwise Slot.Apart

/-- What a value makes of a draft, by the name of its field. -/
def takeOf (slots : List (Slot σ)) (name : String) (draft : σ) (v : Shape) : Option σ :=
  (slots.find? (·.name == name)).bind fun s => s.take draft v

theorem LaidOut.find_fields (h : shape.LaidOut slots) (key : String) :
    shape.fields.find? (·.name == key) = (slots.find? (·.name == key)).map Slot.field := by
  rw [h.fields_eq, List.find?_map]
  rfl

theorem LaidOut.find_name (h : shape.LaidOut slots) {s : Slot σ} (hs : s ∈ slots) :
    slots.find? (·.name == s.name) = some s := by
  have hnodup : (slots.map Slot.name).Nodup :=
    List.pairwise_map.mpr (h.apart.imp fun hapart => hapart.name_ne)
  cases hfind : slots.find? (·.name == s.name) with
  | none => exact absurd (beq_self_eq_true s.name) (List.find?_eq_none.mp hfind s hs)
  | some s' =>
    have hname : s'.name = s.name := by simpa using List.find?_some hfind
    rw [List.inj_on_of_nodup_map hnodup (List.mem_of_find?_eq_some hfind) hs hname]

/-- **The fields of the record are accepted.** -/
theorem accepts_of_laidOut (h : shape.LaidOut slots) : shape.Accepts (takeOf slots) := by
  intro field hfield draft
  rw [h.fields_eq] at hfield
  obtain ⟨s, hs, rfl⟩ := List.mem_map.mp hfield
  have htake : takeOf slots s.field.name draft = s.take draft := by
    funext v
    have hfind : slots.find? (·.name == s.field.name) = some s := h.find_name hs
    rw [takeOf, hfind]
    rfl
  rw [htake]
  exact s.accepts_field draft

/-- **What an entry makes of a draft,** by the slot of its name. -/
theorem takeEntry_of_slot (h : shape.LaidOut slots) {key : String} {s : Slot σ}
    (hfind : slots.find? (·.name == key) = some s) (draft : σ) (v : Shape) :
    shape.takeEntry (takeOf slots) draft ⟨some key, v⟩ = s.enter draft v := by
  have hfield : shape.fields.find? (·.name == key) = some s.field := by
    rw [h.find_fields, hfind]
    rfl
  rw [takeEntry_of_find hfield, takeOf, hfind]
  rfl

theorem takeEntry_of_no_slot (h : shape.LaidOut slots) {key : String}
    (hfind : slots.find? (·.name == key) = none) (draft : σ) (v : Shape) :
    shape.takeEntry (takeOf slots) draft ⟨some key, v⟩ = some draft := by
  refine takeEntry_of_unknown ?_ draft v
  rw [h.find_fields, hfind]
  rfl

/-! ## The order of the entries -/

/-- **Two entries make the same of a draft in either order.** -/
theorem takeEntry_comm (h : shape.LaidOut slots) (draft : σ) (e e' : Entry) :
    (shape.takeEntry (takeOf slots) draft e).bind (shape.takeEntry (takeOf slots) · e') =
      (shape.takeEntry (takeOf slots) draft e').bind (shape.takeEntry (takeOf slots) · e) := by
  obtain ⟨_ | key, v⟩ := e
  · simp [takeEntry]
  obtain ⟨_ | key', w⟩ := e'
  · simp [takeEntry]
  cases hfind : slots.find? (·.name == key) with
  | none => simp [takeEntry_of_no_slot h hfind]
  | some s =>
    cases hfind' : slots.find? (·.name == key') with
    | none => simp [takeEntry_of_no_slot h hfind']
    | some s' =>
      simp only [takeEntry_of_slot h hfind, takeEntry_of_slot h hfind']
      by_cases hsame : key = key'
      · obtain rfl : s = s' := Option.some.inj (hfind.symm.trans (hsame ▸ hfind'))
        rw [s.enter_enter_self, s.enter_enter_self]
      · have hname : s.name = key := by simpa using List.find?_some hfind
        have hname' : s'.name = key' := by simpa using List.find?_some hfind'
        have hne : s ≠ s' := by
          rintro rfl
          exact hsame (hname.symm.trans hname')
        exact (h.apart.forall (List.mem_of_find?_eq_some hfind) (List.mem_of_find?_eq_some hfind')
          hne).enter_comm draft v w

/-- **The order of the entries counts for nothing.** -/
theorem absorb_perm (h : shape.LaidOut slots) {es es' : List Entry} (hperm : es.Perm es') (draft : σ) :
    shape.absorb (takeOf slots) draft es = shape.absorb (takeOf slots) draft es' := by
  induction hperm generalizing draft with
  | nil => rfl
  | cons e _ ih => simp only [absorb_cons, ih]
  | swap e e' es =>
    simp only [absorb_cons, ← Option.bind_assoc]
    rw [takeEntry_comm h]
  | trans _ _ ih ih' => rw [ih, ih']

end RecordShape

end GrantProbe.Json
