import GrantProbe.Proofs.Json.Printing
import GrantProbe.Proofs.Json.Slots

/-!
# Documents that still hold a record

A record is read from its document also when the document says more than the record has, says it in
another order, or leaves out what goes without saying.

* `Amended`: what may be done to a document; `IsTextOf`: any way to write it down;
* `RecordShape.FoundIn`: a document that holds a record; what is done to it leaves it so, step by step
  (`FoundIn.add`, `FoundIn.leaveOut`, `FoundIn.reorder`) and as a whole (`FoundIn.amended`);
* `RecordShape.comesBack_of_amended`: the record is read from the document, however it is written.
-/

namespace GrantProbe.Json

variable {σ α : Type}

/-! ## Documents -/

/-- **What becomes of a document** when entries with unknown keys are added, entries with default values
are left out, and the entries are reordered, any number of times. -/
inductive Amended (known : List String) (defaults : List (String × Json)) (written : Json) : Json → Prop
  | asWritten : Amended known defaults written written
  | add {members : List (String × Json)} (h : Amended known defaults written (object members))
    {key : String} (hkey : key ∉ known) (v : Json) :
    Amended known defaults written (object ((key, v) :: members))
  | leaveOut {member : String × Json} {members : List (String × Json)}
    (h : Amended known defaults written (object (member :: members))) (hdefault : member ∈ defaults) :
    Amended known defaults written (object members)
  | reorder {members members' : List (String × Json)}
    (h : Amended known defaults written (object members)) (hperm : members.Perm members') :
    Amended known defaults written (object members')

/-- **A text of an object,** with any blanks, any escapes and any spelling of numbers. -/
def IsTextOf (j : Json) (x : Input) : Prop :=
  ∃ members, j = object members ∧ IsObject (members.map Entry.of) x

theorem isTextOf_compact (members : List (String × Json)) :
    IsTextOf (object members) (Input.ofText (object members).compact) :=
  ⟨members, rfl, isObject_compact members⟩

namespace RecordShape

/-- The names of the fields. -/
def keys (shape : RecordShape σ α) : List String := shape.fields.map Field.name

/-- **A record comes back** from a document: it is read from its text on one line, and from any other. -/
structure ComesBack (shape : RecordShape σ α) (a : α) (j : Json) : Prop where
  compact : shape.read (Input.ofText j.compact) = .ok a
  anyText : ∀ x, IsTextOf j x → shape.read x = .ok a

/-- **A record is found in an object:** the entries make a draft that can be finished. -/
inductive FoundIn (shape : RecordShape σ α) (slots : List (Slot σ)) (a : α) : Json → Prop
  | object {members : List (String × Json)} {d : σ}
    (habsorbed : shape.absorb (takeOf slots) shape.blank (members.map Entry.of) = some d)
    (hfinish : shape.finish d = .ok a) : FoundIn shape slots a (object members)

/-- **An entry that goes without saying:** the record is the same without it. -/
def GoesUnsaid (shape : RecordShape σ α) (slots : List (Slot σ)) (member : String × Json) : Prop :=
  ∀ draft d, shape.takeEntry (takeOf slots) draft (Entry.of member) = some d →
    shape.finish d = shape.finish draft

variable {shape : RecordShape σ α} {slots : List (Slot σ)} {a : α} {members : List (String × Json)}

theorem foundIn_object_iff : shape.FoundIn slots a (.object members) ↔
    ∃ d, shape.absorb (takeOf slots) shape.blank (members.map Entry.of) = some d ∧
      shape.finish d = .ok a :=
  ⟨fun ⟨habsorbed, hfinish⟩ => ⟨_, habsorbed, hfinish⟩,
    fun ⟨_, habsorbed, hfinish⟩ => .object habsorbed hfinish⟩

/-- A value goes without saying if it makes no difference in the place of its field. -/
theorem goesUnsaid_of_slot (h : shape.LaidOut slots) {s : Slot σ} (hs : s ∈ slots) {v : Json} {b : s.β}
    (hmade : s.made v.held = some b)
    (hsame : ∀ draft, s.get draft = none → shape.finish (s.put draft b) = shape.finish draft) :
    shape.GoesUnsaid slots (s.name, v) := by
  intro draft d hd
  rw [Entry.of, takeEntry_of_slot h (h.find_name hs), Slot.enter_eq_some_iff] at hd
  obtain ⟨hfree, b', hb', rfl⟩ := hd
  obtain rfl := Option.some.inj (hmade.symm.trans hb')
  exact hsame draft hfree

/-! ## One step -/

/-- **An entry with an unknown key** is passed over. -/
theorem FoundIn.add (h : shape.FoundIn slots a (.object members)) {key : String} (hkey : key ∉ shape.keys)
    (v : Json) : shape.FoundIn slots a (.object ((key, v) :: members)) := by
  obtain ⟨habsorbed, hfinish⟩ := h
  have hfind : shape.fields.find? (·.name == key) = none := by
    rw [List.find?_eq_none]
    intro field hfield hname
    exact hkey (eq_of_beq hname ▸ List.mem_map_of_mem hfield)
  refine .object ?_ hfinish
  rw [List.map_cons, absorb_cons, Entry.of, takeEntry_of_unknown hfind]
  exact habsorbed

/-- **The order of the entries** counts for nothing. -/
theorem FoundIn.reorder (hlaid : shape.LaidOut slots) (h : shape.FoundIn slots a (.object members))
    {members' : List (String × Json)} (hperm : members.Perm members') :
    shape.FoundIn slots a (.object members') := by
  obtain ⟨habsorbed, hfinish⟩ := h
  rw [absorb_perm hlaid (hperm.map Entry.of)] at habsorbed
  exact .object habsorbed hfinish

/-- **An entry that goes without saying** may be left out: it could as well have come last. -/
theorem FoundIn.leaveOut (hlaid : shape.LaidOut slots) {member : String × Json}
    (h : shape.FoundIn slots a (.object (member :: members))) (hunsaid : shape.GoesUnsaid slots member) :
    shape.FoundIn slots a (.object members) := by
  have hlast := h.reorder hlaid (List.perm_append_singleton member members).symm
  obtain ⟨d, habsorbed, hfinish⟩ := foundIn_object_iff.mp hlast
  rw [List.map_append, List.map_singleton, absorb_concat] at habsorbed
  obtain ⟨draft, hdraft, hmember⟩ := Option.bind_eq_some_iff.mp habsorbed
  exact .object hdraft ((hunsaid draft d hmember).symm.trans hfinish)

/-! ## All steps -/

/-- **Whatever is done to a document, it holds the record.** By induction on what is done. -/
theorem FoundIn.amended (hlaid : shape.LaidOut slots) {defaults : List (String × Json)}
    (hunsaid : ∀ member ∈ defaults, shape.GoesUnsaid slots member) {written j : Json}
    (h : shape.FoundIn slots a written) (hj : Amended shape.keys defaults written j) :
    shape.FoundIn slots a j := by
  induction hj with
  | asWritten => exact h
  | add _ hkey v ih => exact ih.add hkey v
  | leaveOut _ hdefault ih => exact ih.leaveOut hlaid (hunsaid _ hdefault)
  | reorder _ hperm ih => exact ih.reorder hlaid hperm

theorem FoundIn.comesBack (hlaid : shape.LaidOut slots) {j : Json} (h : shape.FoundIn slots a j) :
    shape.ComesBack a j := by
  obtain ⟨habsorbed, hfinish⟩ := h
  rename_i members d
  have hread : ∀ x, IsTextOf (.object members) x → shape.read x = .ok a := by
    rintro x ⟨members', hmembers, hx⟩
    obtain rfl := Json.object.inj hmembers
    exact read_of_isObject (accepts_of_laidOut hlaid) hx habsorbed hfinish
  exact ⟨hread _ (isTextOf_compact members), hread⟩

/-- **A record comes back** from its document, and from whatever may be made of that. -/
theorem comesBack_of_amended (hlaid : shape.LaidOut slots) {defaults : List (String × Json)}
    (hunsaid : ∀ member ∈ defaults, shape.GoesUnsaid slots member) {written j : Json}
    (h : shape.FoundIn slots a written) (hj : Amended shape.keys defaults written j) :
    shape.ComesBack a j := (h.amended hlaid hunsaid hj).comesBack hlaid

end RecordShape

end GrantProbe.Json
