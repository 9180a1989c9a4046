import Mathlib.Data.List.Basic
import GrantProbe.Identity.Credential
import GrantProbe.Proofs.Text.Pieces

/-!
# The shape of a token

A token is accepted for its length and its segments, and nothing else of it is looked at. What stands
between the dots matters only in being there.

* `Text.splitAtEach_eq_three_iff`: three parts between separators;
* `IsToken`: long enough, and three parts with a dot between them; `issued_eq_ok_iff`: exactly these
  texts are credentials;
* `SameShape`: two texts that an observer of lengths and of empty segments cannot tell apart;
* `SameShape.issued`, `SameShape.display`: they are refused for the same reason or both accepted, and
  shown alike.
-/

namespace GrantProbe

/-! ## Parts between separators -/

namespace Text

variable {sep : Char}

/-- **Three parts** are two separators with parts around them. -/
theorem splitAtEach_eq_three_iff {s a b c : List Char} :
    splitAtEach sep s = [a, b, c] ↔
      s = a ++ sep :: (b ++ sep :: c) ∧ sep ∉ a ∧ sep ∉ b ∧ sep ∉ c := by
  constructor
  · intro hs
    have hpart {part : List Char} (h : part ∈ [a, b, c]) : sep ∉ part :=
      not_mem_of_mem_splitAtEach (hs ▸ h)
    refine ⟨?_, hpart (by simp), hpart (by simp), hpart (by simp)⟩
    rw [← intercalate_splitAtEach sep s, hs]
    simp [List.intercalate, List.intersperse]
  · rintro ⟨rfl, ha, hb, hc⟩
    rw [splitAtEach_append_cons ha, splitAtEach_append_cons hb, splitAtEach_of_not_mem hc]

end Text

/-! ## What is accepted -/

/-- **What an issued token looks like:** it has at least 50 bytes, and it is three texts without dots,
none of them empty, with a dot between them. -/
def IsToken (t : String) : Prop :=
  50 ≤ t.utf8ByteSize ∧ ∃ a b c : String, t = a ++ "." ++ b ++ "." ++ c ∧
    ∀ part ∈ [a, b, c], part ≠ "" ∧ '.' ∉ part.toList

namespace Credential

theorem segments_eq_three_iff {t a b c : String} :
    segments t = [a, b, c] ↔
      t = a ++ "." ++ b ++ "." ++ c ∧ '.' ∉ a.toList ∧ '.' ∉ b.toList ∧ '.' ∉ c.toList := by
  have hsegments : segments t = [a, b, c] ↔
      Text.splitAtEach '.' t.toList = [a.toList, b.toList, c.toList] := by
    rw [segments, Text.pieces]
    constructor
    · intro h
      have hback := congrArg (List.map String.toList) h
      simpa [List.map_map, Function.comp_def] using hback
    · intro h
      simp [h]
  rw [hsegments, Text.splitAtEach_eq_three_iff, ← String.toList_inj]
  simp

theorem exists_three_segments_iff (t : String) :
    ¬((segments t).length ≠ 3 ∨ (segments t).any (·.isEmpty)) ↔
      ∃ a b c : String, t = a ++ "." ++ b ++ "." ++ c ∧
        ∀ part ∈ [a, b, c], part ≠ "" ∧ '.' ∉ part.toList := by
  constructor
  · intro h
    obtain ⟨hlength, hfull⟩ := not_or.mp h
    obtain ⟨a, b, c, hsegments⟩ := List.length_eq_three.mp (not_not.mp hlength)
    obtain ⟨ht, ha, hb, hc⟩ := segments_eq_three_iff.mp hsegments
    refine ⟨a, b, c, ht, ?_⟩
    simp only [hsegments, List.any_cons, List.any_nil, Bool.or_false, Bool.or_eq_true, not_or,
      String.isEmpty_iff] at hfull
    simp only [List.forall_mem_cons, List.not_mem_nil, false_imp_iff, implies_true, and_true]
    exact ⟨⟨hfull.1, ha⟩, ⟨hfull.2.1, hb⟩, hfull.2.2, hc⟩
  · rintro ⟨a, b, c, ht, hparts⟩
    simp only [List.forall_mem_cons, List.not_mem_nil, false_imp_iff, implies_true, and_true]
      at hparts
    obtain ⟨⟨ha, ha'⟩, ⟨hb, hb'⟩, hc, hc'⟩ := hparts
    rw [segments_eq_three_iff.mpr ⟨ht, ha', hb', hc'⟩]
    simp [ha, hb, hc]

/-- **Exactly the texts that look like tokens** are issued as credentials, as they are. -/
theorem issued_eq_ok_iff {t : String} {c : Credential} :
    issued t = .ok c ↔ IsToken t ∧ c = ⟨t⟩ := by
  rw [IsToken, ← exists_three_segments_iff, issued, minLength]
  constructor
  · intro h
    split at h
    · cases h
    split at h
    · cases h
    · next hlength hsegments =>
      cases h
      exact ⟨⟨Nat.le_of_not_lt hlength, hsegments⟩, rfl⟩
  · rintro ⟨⟨hlength, hsegments⟩, rfl⟩
    rw [if_neg (Nat.not_lt_of_le hlength), if_neg hsegments]

theorem issued_error_of_not {t : String} (ht : ¬IsToken t) : ∃ reason, issued t = .error reason := by
  rcases h : issued t with reason | c
  · exact ⟨reason, rfl⟩
  · exact absurd (issued_eq_ok_iff.mp h).1 ht

end Credential

/-! ## What is seen -/

/-- **Two texts of one shape:** as many bytes, as many segments, and the same segments empty. -/
structure SameShape (t t' : String) : Prop where
  bytes : t.utf8ByteSize = t'.utf8ByteSize
  segments : (Credential.segments t).map (·.isEmpty) = (Credential.segments t').map (·.isEmpty)

namespace SameShape

variable {t t' : String}

theorem length_segments (h : SameShape t t') :
    (Credential.segments t).length = (Credential.segments t').length := by
  have hlength := congrArg List.length h.segments
  rwa [List.length_map, List.length_map] at hlength

theorem any_segments (h : SameShape t t') :
    (Credential.segments t).any (·.isEmpty) = (Credential.segments t').any (·.isEmpty) := by
  have hany := congrArg (List.any · id) h.segments
  simp only [List.any_map] at hany
  exact hany

/-- **Both are refused for the same reason,** or both are accepted. -/
theorem issued (h : SameShape t t') :
    (∃ reason, Credential.issued t = .error reason ∧ Credential.issued t' = .error reason) ∨
      (Credential.issued t = .ok ⟨t⟩ ∧ Credential.issued t' = .ok ⟨t'⟩) := by
  unfold Credential.issued
  rw [h.bytes, h.length_segments, h.any_segments]
  split
  · exact Or.inl ⟨_, rfl, rfl⟩
  split
  · exact Or.inl ⟨_, rfl, rfl⟩
  · exact Or.inr ⟨rfl, rfl⟩

/-- **Both are shown alike.** -/
theorem display (h : SameShape t t') :
    (⟨t⟩ : Credential).display = (⟨t'⟩ : Credential).display := by
  unfold Credential.display
  rw [h.bytes]

theorem display_identity (h : SameShape t t') (name scope : String) :
    (⟨name, scope, ⟨t⟩⟩ : Identity).display = (⟨name, scope, ⟨t'⟩⟩ : Identity).display := by
  unfold Identity.display
  rw [h.display]

end SameShape

end GrantProbe
