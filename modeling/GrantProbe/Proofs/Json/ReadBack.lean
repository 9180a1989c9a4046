import Mathlib.Data.List.Forall2
import GrantProbe.Json.Document
import GrantProbe.Proofs.Json.Printing

/-!
# What is printed over several lines is read back

A value whose parts are texts, lists and objects comes back from the lines on which it was printed,
with its items and entries in their order.

* `Reader.ReadsBack`: a reader that takes a value back from its characters;
* `behindLine`: what follows a part that has a line of its own; `listRest_block`,
  `entriesRest_block`: the parts between two brackets;
* `IsTree`: the values; `parse_pretty`: they are read back, whatever blanks follow.
-/

namespace GrantProbe.Json

variable {α : Type} {x y z t w : Input}

open Reader

/-! ## Lines -/

theorem pastGaps_newLine (level : Nat) (x : Input) :
    pastGaps ((newLine level).map some ++ x) = pastGaps x := by
  refine List.dropWhile_append_of_pos fun c hc => ?_
  obtain ⟨d, hd, rfl⟩ := List.mem_map.mp hc
  rcases List.mem_cons.mp hd with rfl | hblank
  · rfl
  · rw [List.eq_of_mem_replicate hblank]
    rfl

/-- What follows a part that has a line of its own: the other parts, on lines of theirs behind
commas, and the end. -/
def behindLine (level : Nat) (closing : Char) (t : Input) : List (List Char) → Input
  | [] => (newLine level).map some ++ some closing :: t
  | part :: rest =>
    some ',' :: ((newLine (level + 1)).map some ++ (part.map some ++ behindLine level closing t rest))

theorem block_cons (opening closing : Char) (level : Nat) (part : List Char)
    (parts : List (List Char)) (t : Input) :
    (block opening closing level (part :: parts)).map some ++ t = some opening ::
      ((newLine (level + 1)).map some ++ (part.map some ++ behindLine level closing t parts)) := by
  have hbehind : behindLine level closing t parts =
      (parts.flatMap (',' :: newLine (level + 1) ++ ·) ++ newLine level ++ [closing]).map some ++
        t := by
    induction parts with
    | nil => simp [behindLine]
    | cons next rest ih => simp [behindLine, ih]
  rw [hbehind, block, if_neg (by simp), joinChars_cons]
  simp

/-! ## Parts -/

namespace Reader

/-- **The reader reads a value back** from its characters, behind any blanks. -/
structure ReadsBack (r : Reader α) (cs : List Char) (a : α) : Prop where
  starts : ∃ c rest, cs = c :: rest ∧ isGap (some c) = false ∧ c ≠ ']'
  reads : ∀ x t, pastGaps x = cs.map some ++ t → r x = .ok (a, t)

section
variable {r : Reader α} {cs : List Char} {a : α} {parts : List (List Char)} {fuel level : Nat}
  {isFirst : Bool}

theorem ReadsBack.pastGaps (h : ReadsBack r cs a) (x : Input) :
    Json.pastGaps (cs.map some ++ x) = cs.map some ++ x := by
  obtain ⟨c, rest, rfl, hgap, -⟩ := h.starts
  exact pastGaps_cons hgap _

/-! ### Items -/

theorem listRest_item {as : List α} (h : ReadsBack r cs a) (hnext : Next isFirst x z)
    (hz : Json.pastGaps z = cs.map some ++ y) (hrest : listRest r fuel false y = .ok (as, w)) :
    listRest r (fuel + 1) isFirst x = .ok (a :: as, w) := by
  have hread := h.reads _ y (h.pastGaps y)
  obtain ⟨c, rest, rfl, -, hclosing⟩ := h.starts
  rw [listRest, bind_of_ok (moreItems_of_next hnext hz (by simpa using hclosing)), if_pos rfl]
  exact (bind_of_ok hread).trans (bind_of_ok hrest)

theorem listRest_behindLine {as : List α} (h : List.Forall₂ (ReadsBack r) parts as)
    (hfuel : (behindLine level ']' t parts).length < fuel) :
    listRest r fuel false (behindLine level ']' t parts) = .ok (as, some ']' :: t) := by
  induction h generalizing fuel with
  | nil =>
    obtain ⟨fuel, rfl⟩ := Nat.exists_eq_add_one_of_ne_zero (Nat.ne_zero_of_lt hfuel)
    have hend : moreItems false (behindLine level ']' t []) = .ok (false, some ']' :: t) :=
      moreItems_eq_false_iff.mpr ⟨t, (pastGaps_newLine level _).trans (pastGaps_cons rfl t), rfl⟩
    rw [listRest, bind_of_ok hend]
    rfl
  | cons hpart _ ih =>
    obtain ⟨fuel, rfl⟩ := Nat.exists_eq_add_one_of_ne_zero (Nat.ne_zero_of_lt hfuel)
    refine listRest_item hpart (pastGaps_cons rfl _)
      ((pastGaps_newLine _ _).trans (hpart.pastGaps _)) (ih ?_)
    simp only [behindLine, List.length_cons, List.length_append] at hfuel
    omega

/-- **A list is read back** from its items, up to its closing bracket. -/
theorem listRest_block {as : List α} (h : List.Forall₂ (ReadsBack r) parts as)
    (hx : (block '[' ']' level parts).map some ++ t = some '[' :: x) :
    listRest r (x.length + 1) true x = .ok (as, some ']' :: t) := by
  cases h with
  | nil =>
    obtain rfl : some ']' :: t = x := List.tail_eq_of_cons_eq hx
    have hend : moreItems true (some ']' :: t) = .ok (false, some ']' :: t) :=
      moreItems_eq_false_iff.mpr ⟨t, pastGaps_cons rfl t, rfl⟩
    rw [listRest, bind_of_ok hend]
    rfl
  | cons hpart hrest =>
    rw [block_cons] at hx
    obtain rfl := List.tail_eq_of_cons_eq hx
    refine listRest_item hpart rfl ((pastGaps_newLine _ _).trans (hpart.pastGaps _))
      (listRest_behindLine hrest ?_)
    simp only [newLine, List.map_cons, List.length_cons, List.length_append]
    omega

/-! ### Entries -/

/-- **The entry is read back** from the characters of its name and its value. -/
inductive ReadsEntry (r : Reader α) : List Char → String × α → Prop
  | parts {key : String} {cs : List Char} {a : α} (hvalue : ReadsBack r cs a) :
    ReadsEntry r (escape key ++ ':' :: ' ' :: cs) (key, a)

theorem escape_map_append (key : String) (x : Input) : (escape key).map some ++ x =
    some '"' :: ((key.toList.flatMap escapeChar).map some ++ some '"' :: x) := by
  simp [escape]

theorem ReadsEntry.pastGaps {e : String × α} (h : ReadsEntry r cs e) (x : Input) :
    Json.pastGaps (cs.map some ++ x) = cs.map some ++ x := by
  obtain ⟨hvalue⟩ := h
  rw [List.map_append, List.append_assoc, escape_map_append]
  exact pastGaps_cons rfl _

theorem entriesRest_entry {e : String × α} {es : List (String × α)} (h : ReadsEntry r cs e)
    (hnext : Next isFirst x z) (hz : Json.pastGaps z = cs.map some ++ y)
    (hrest : entriesRest r fuel false y = .ok (es, w)) :
    entriesRest r (fuel + 1) isFirst x = .ok (e :: es, w) := by
  obtain ⟨hvalue⟩ := h
  rename_i key cs a
  rw [List.map_append, List.append_assoc, escape_map_append] at hz
  have hkey := quotedText_eq_ok_iff.mpr (spells_escape key.toList
    ((':' :: ' ' :: cs).map some ++ y))
  have hcolon : colon ((':' :: ' ' :: cs).map some ++ y) = .ok ((), some ' ' :: (cs.map some ++ y)) :=
    colon_eq_ok_iff.mpr (pastGaps_cons rfl _)
  have hread : r (some ' ' :: (cs.map some ++ y)) = .ok (a, y) := hvalue.reads _ y (hvalue.pastGaps y)
  rw [entriesRest, bind_of_ok (moreKeys_eq_true_iff.mpr ⟨z, _, hnext, hz, rfl⟩), if_pos rfl]
  exact (bind_of_ok hkey).trans ((bind_of_ok hcolon).trans ((bind_of_ok hread).trans
    (bind_of_ok hrest)))

theorem entriesRest_behindLine {es : List (String × α)} (h : List.Forall₂ (ReadsEntry r) parts es)
    (hfuel : (behindLine level '\x7d' t parts).length < fuel) :
    entriesRest r fuel false (behindLine level '\x7d' t parts) = .ok (es, some '\x7d' :: t) := by
  induction h generalizing fuel with
  | nil =>
    obtain ⟨fuel, rfl⟩ := Nat.exists_eq_add_one_of_ne_zero (Nat.ne_zero_of_lt hfuel)
    have hend : moreKeys false (behindLine level '\x7d' t []) = .ok (false, some '\x7d' :: t) :=
      moreKeys_eq_false_iff.mpr ⟨t, (pastGaps_newLine level _).trans (pastGaps_cons rfl t), rfl⟩
    rw [entriesRest, bind_of_ok hend]
    rfl
  | cons hpart _ ih =>
    obtain ⟨fuel, rfl⟩ := Nat.exists_eq_add_one_of_ne_zero (Nat.ne_zero_of_lt hfuel)
    refine entriesRest_entry hpart (pastGaps_cons rfl _)
      ((pastGaps_newLine _ _).trans (hpart.pastGaps _)) (ih ?_)
    simp only [behindLine, List.length_cons, List.length_append] at hfuel
    omega

/-- **An object is read back** from its entries, up to its closing brace. -/
theorem entriesRest_block {es : List (String × α)} (h : List.Forall₂ (ReadsEntry r) parts es)
    (hx : (block '\x7b' '\x7d' level parts).map some ++ t = some '\x7b' :: x) :
    entriesRest r (x.length + 1) true x = .ok (es, some '\x7d' :: t) := by
  cases h with
  | nil =>
    obtain rfl : some '\x7d' :: t = x := List.tail_eq_of_cons_eq hx
    have hend : moreKeys true (some '\x7d' :: t) = .ok (false, some '\x7d' :: t) :=
      moreKeys_eq_false_iff.mpr ⟨t, pastGaps_cons rfl t, rfl⟩
    rw [entriesRest, bind_of_ok hend]
    rfl
  | cons hpart hrest =>
    rw [block_cons] at hx
    obtain rfl := List.tail_eq_of_cons_eq hx
    refine entriesRest_entry hpart rfl ((pastGaps_newLine _ _).trans (hpart.pastGaps _))
      (entriesRest_behindLine hrest ?_)
    simp only [newLine, List.map_cons, List.length_cons, List.length_append]
    omega

end

end Reader

/-! ## Values -/

/-- **A tree of texts:** texts, and lists and objects of such values down to a depth. -/
inductive IsTree : (depth : Nat) → Json → Prop
  | text {depth : Nat} (s : String) : IsTree depth (.text s)
  | list {depth : Nat} {items : List Json} (h : ∀ v ∈ items, IsTree depth v) :
    IsTree (depth + 1) (.list items)
  | object {depth : Nat} {entries : List (String × Json)} (h : ∀ e ∈ entries, IsTree depth e.2) :
    IsTree (depth + 1) (.object entries)

theorem exists_block_eq (opening closing : Char) (level : Nat) (parts : List (List Char)) :
    ∃ rest, block opening closing level parts = opening :: rest := by
  unfold block
  split_ifs
  · exact ⟨_, rfl⟩
  · exact ⟨_, rfl⟩

theorem prettyItems_eq_map (level : Nat) (items : List Json) :
    prettyItems level items = items.map (prettyChars level) := by
  induction items with
  | nil => rfl
  | cons v rest ih => rw [prettyItems, ih, List.map_cons]

theorem prettyEntries_eq_map (level : Nat) (entries : List (String × Json)) :
    prettyEntries level entries =
      entries.map fun e => escape e.1 ++ ':' :: ' ' :: prettyChars level e.2 := by
  induction entries with
  | nil => rfl
  | cons e rest ih => rw [prettyEntries, ih, List.map_cons]

theorem value_of_text (depth : Nat) {s : String} (hx : pastGaps x = (escape s).map some ++ t) :
    value depth x = .ok (.text s, t) := by
  have hspells := escape_map_append s t
  rw [hspells] at hx
  have hread := quotedText_eq_ok_iff.mpr (spells_escape s.toList t)
  have hscalar : scalar (pastGaps x) = .ok (.text s, t) := by
    rw [scalar, peekPast_bind, pastGaps_pastGaps, hx]
    exact bind_of_ok hread
  cases depth with
  | zero =>
    rw [value, peekPast_bind, hx]
    rwa [hx] at hscalar
  | succ depth =>
    rw [value, peekPast_bind, hx]
    rwa [hx] at hscalar

theorem value_of_list {depth : Nat} (hx : pastGaps x = some '[' :: y) :
    value (depth + 1) x = (do
      let items ← listRest (value depth) ((← remaining) + 1) true
      endOfList
      pure (.list items) : Reader Json) y := by
  rw [value, peekPast_bind, hx]
  rfl

theorem value_of_object {depth : Nat} (hx : pastGaps x = some '\x7b' :: y) :
    value (depth + 1) x = (do
      let entries ← entriesRest (value depth) ((← remaining) + 1) true
      advance
      pure (.object entries) : Reader Json) y := by
  rw [value, peekPast_bind, hx]
  rfl

/-- **A tree is read back** from its lines. By induction on the tree. -/
theorem IsTree.readsBack {depth : Nat} {v : Json} (h : IsTree depth v) (level : Nat) :
    ReadsBack (value depth) (prettyChars level v) v := by
  induction h generalizing level with
  | text s => exact ⟨⟨'"', _, rfl, rfl, by decide⟩, fun x t hx => value_of_text _ hx⟩
  | @list depth items _ ih =>
    have hitems : List.Forall₂ (ReadsBack (value depth)) (prettyItems (level + 1) items) items := by
      rw [prettyItems_eq_map, List.forall₂_map_left_iff, List.forall₂_same]
      exact fun v hv => ih v hv (level + 1)
    obtain ⟨rest, hrest⟩ := exists_block_eq '[' ']' level (prettyItems (level + 1) items)
    refine ⟨⟨'[', rest, hrest, rfl, by decide⟩, fun x t hx => ?_⟩
    have hopens := hx
    rw [prettyChars, hrest] at hopens
    have hread := listRest_block hitems (hx.symm.trans hopens)
    rw [value_of_list hopens, remaining_bind, bind_of_ok hread,
      bind_of_ok (endOfList_eq_ok_iff.mpr (pastGaps_cons rfl t))]
    rfl
  | @object depth entries _ ih =>
    have hentries : List.Forall₂ (ReadsEntry (value depth)) (prettyEntries (level + 1) entries)
        entries := by
      rw [prettyEntries_eq_map, List.forall₂_map_left_iff, List.forall₂_same]
      exact fun e he => .parts (ih e he (level + 1))
    obtain ⟨rest, hrest⟩ := exists_block_eq '\x7b' '\x7d' level (prettyEntries (level + 1) entries)
    refine ⟨⟨'\x7b', rest, hrest, rfl, by decide⟩, fun x t hx => ?_⟩
    have hopens := hx
    rw [prettyChars, hrest] at hopens
    have hread := entriesRest_block hentries (hx.symm.trans hopens)
    rw [value_of_object hopens, remaining_bind, bind_of_ok hread, advance_bind]
    rfl

/-- **A tree that is printed over several lines is read back** as it was, whatever blanks follow. -/
theorem parse_pretty {v : Json} (h : IsTree maxDepth v) {blanks : String}
    (hblanks : ∀ c ∈ blanks.toList, isGap (some c) = true) :
    parse (v.pretty ++ blanks) = .ok v := by
  have hback := h.readsBack 0
  have hinput : Input.ofText (v.pretty ++ blanks) =
      (prettyChars 0 v).map some ++ blanks.toList.map some := by
    rw [Input.ofText, String.toList_append, pretty, String.toList_ofList, List.map_append]
  have hread := hback.reads _ _ (hback.pastGaps (blanks.toList.map some))
  rw [← hinput] at hread
  rw [parse, whole, hread]
  simpa using hblanks

end GrantProbe.Json
