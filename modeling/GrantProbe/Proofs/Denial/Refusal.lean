import GrantProbe.Failure
import GrantProbe.Probe.Suffix
import GrantProbe.Proofs.Text.Part
import GrantProbe.World.Server

/-!
# How the failures of a tracking server read

The server fails a call in two ways: it refuses it, or it does not find what the call is about. The
text of a refusal always reads as a denial. The text of the other has a name in it, and reads as a
missing resource when the name is one that a case has generated.

* `code_refusal`: refusals are denials;
* `IsTestModel`, `IsSeededModel`: the names of the models that cases create, and of those that are
  seeded; `code_missing_model`, `code_missing_seeded`: one that is not there.
-/

namespace GrantProbe

open Text (occursIn lowerChars lowerChar)

/-! ## Refusals are denials -/

theorem ofLowered_permissionDenied {lowered : List Char}
    (hpermission : occursIn "permission".toList lowered = true)
    (hdenied : occursIn "denied".toList lowered = true) :
    FailureCode.ofLowered lowered = .permissionDenied := by
  have hrow : Pattern.covers ⟨.permissionDenied, [["permission", "denied"]]⟩ lowered = true := by
    simp only [Pattern.covers, List.any_cons, List.all_cons, hpermission, hdenied]
    rfl
  have hpatterns : patterns = ⟨.permissionDenied, [["permission", "denied"]]⟩ :: patterns.drop 1 :=
    rfl
  rw [FailureCode.ofLowered, hpatterns, List.find?_cons, hrow]

theorem ofLowered_lowerChars_permissionDenied (before after : List Char) :
    FailureCode.ofLowered (lowerChars (before ++ ("PERMISSION_DENIED".toList ++ after))) =
      .permissionDenied := by
  have hpart := Text.infix_lowerChars (x := "PERMISSION_DENIED".toList) (by decide) before after
  have hlowered : "PERMISSION_DENIED".toList.flatMap lowerChar = "permission_denied".toList := by
    decide +kernel
  rw [hlowered] at hpart
  refine ofLowered_permissionDenied ?_ ?_ <;> rw [Text.occursIn_iff_isInfix]
  · exact List.IsInfix.trans ⟨[], "_denied".toList, rfl⟩ hpart
  · exact List.IsInfix.trans ⟨"permission_".toList, [], rfl⟩ hpart

theorem toList_message_refusal (call : TrackingCall) :
    ∃ before after, (refusal call).message.toList =
      before ++ ("PERMISSION_DENIED".toList ++ after) := by
  have hparts (a b c d e f op verb kind : String) :
      (a ++ b ++ c ++ op ++ d ++ (("PERMISSION_DENIED" ++ e) ++ verb ++ f ++ kind)).toList =
        (a ++ b ++ c ++ op ++ d).toList
          ++ ("PERMISSION_DENIED".toList ++ (e ++ verb ++ f ++ kind).toList) := by
    simp only [String.toList_append, List.append_assoc]
  exact ⟨_, _, hparts "tracking service error [" (toString 403) "] during " ": "
    ": Permission denied for " " on " call.name call.needs.1.text call.needs.2.text⟩

/-- **A refusal is a denial.** -/
theorem code_refusal (call : TrackingCall) :
    FailureCode.ofMessage (refusal call).message = .permissionDenied := by
  obtain ⟨before, after, hmessage⟩ := toList_message_refusal call
  rw [FailureCode.ofMessage, hmessage]
  exact ofLowered_lowerChars_permissionDenied before after

/-! ## What is missing is not found -/

theorem mem_suffixAlphabet {s : String} (h : isSuffix s = true) :
    ∀ c ∈ s.toList, c ∈ suffixAlphabet := by
  simp only [isSuffix, Bool.and_eq_true, List.all_eq_true, List.contains_iff_mem] at h
  exact h.2

theorem length_suffix {s : String} (h : isSuffix s = true) : s.toList.length = 8 := by
  simp only [isSuffix, Bool.and_eq_true, beq_iff_eq] at h
  exact h.1

theorem flatMap_lowerChar_suffix {s : String} (h : isSuffix s = true) :
    s.toList.flatMap lowerChar = s.toList := by
  have hascii : suffixAlphabet.all (fun c => c.toNat < 0x80 && Text.asciiLowerChar c == c) = true := by
    decide +kernel
  have hsame : s.toList.flatMap lowerChar = s.toList.flatMap fun c => [c] := by
    refine List.flatMap_congr fun c hc => ?_
    have hchar := List.all_eq_true.mp hascii c (mem_suffixAlphabet h c hc)
    simp only [Bool.and_eq_true, decide_eq_true_eq, beq_iff_eq] at hchar
    rw [lowerChar, if_pos hchar.1, hchar.2]
  rw [hsame]
  exact List.flatMap_singleton' _

theorem sigma_not_mem_suffix {s : String} (h : isSuffix s = true) : 'Σ' ∉ s.toList := fun hmem =>
  absurd (mem_suffixAlphabet h 'Σ' hmem) (by decide)

/-- A word that is longer than what stands between a hyphen and a space, and has neither, is not
there. -/
theorem occursIn_around {word before suffix after : List Char} (hdash : '-' ∉ word)
    (hspace : ' ' ∉ word) (hlength : suffix.length < word.length)
    (hbefore : occursIn word before = false) (hafter : occursIn word after = false) :
    occursIn word (before ++ '-' :: (suffix ++ ' ' :: after)) = false := by
  have hsuffix : occursIn word suffix = false := by
    rw [Bool.eq_false_iff, ne_eq, Text.occursIn_iff_isInfix]
    exact fun hinfix => absurd hinfix.length_le (Nat.not_le.mpr hlength)
  rw [Text.occursIn_append_cons hdash, Text.occursIn_append_cons hspace, hbefore, hsuffix, hafter]
  rfl

/-- The name of a model that a case creates. -/
def IsTestModel (name : String) : Prop := ∃ x, isSuffix x = true ∧ name = "test-model-" ++ x

theorem IsTestModel.ne_baseline {name : String} (h : IsTestModel name) (x : String) :
    name ≠ "baseline-model-" ++ x := by
  obtain ⟨y, -, hy⟩ := h
  intro heq
  have hhead := congrArg (fun s : String => s.toList.head?) (hy.symm.trans heq)
  simp at hhead

/-- The name of a model that is seeded. -/
def IsSeededModel (name : String) : Prop := ∃ x, isSuffix x = true ∧ name = "baseline-model-" ++ x

/-- The text of a missing model, up to the hyphen before its suffix. -/
def missingModelStart (operation stem : String) : String :=
  "tracking service error [" ++ toString 404 ++ "] during " ++ operation ++ ": " ++
    "RESOURCE_DOES_NOT_EXIST: " ++ "Registered Model " ++ stem

theorem toList_message_missing_model (call : TrackingCall) (stem suffix : String) :
    (missing call ("Registered Model " ++ (stem ++ "-" ++ suffix))).message.toList =
      (missingModelStart call.name stem).toList ++
        ("-".toList ++ (suffix.toList ++ " not found".toList)) := by
  have hparts (a b c d e f g i : String) :
      (a ++ b ++ c ++ d ++ e ++ (f ++ (g ++ (stem ++ "-" ++ suffix)) ++ i)).toList =
        (a ++ b ++ c ++ d ++ e ++ f ++ g ++ stem).toList ++
          ("-".toList ++ (suffix.toList ++ i.toList)) := by
    simp only [String.toList_append, List.append_assoc]
  exact hparts "tracking service error [" (toString 404) "] during " call.name ": "
    "RESOURCE_DOES_NOT_EXIST: " "Registered Model " " not found"

/-- A word of each row that comes before that of missing resources. -/
def denialWords : List String := ["permission", "unauthenticated", "forbidden", "authentication"]

/-- A text that says that something was not found, with none of these words, reports a missing
resource. -/
theorem ofLowered_resourceNotFound {lowered : List Char}
    (hwords : ∀ word ∈ denialWords, occursIn word.toList lowered = false)
    (hfound : occursIn "not found".toList lowered = true) :
    FailureCode.ofLowered lowered = .resourceNotFound := by
  have hpatterns : patterns = patterns.take 4 ++
      ⟨.resourceNotFound, [["not found"], ["does not exist"], ["resource_does_not_exist"]]⟩ ::
        patterns.drop 5 := rfl
  have hrow : Pattern.covers ⟨.resourceNotFound,
      [["not found"], ["does not exist"], ["resource_does_not_exist"]]⟩ lowered = true := by
    simp only [Pattern.covers, List.any_cons, List.all_cons, hfound]
    rfl
  have hnone : (patterns.take 4).find? (·.covers lowered) = none := by
    have hpermission := hwords "permission" (by decide)
    have hunauthenticated := hwords "unauthenticated" (by decide)
    have hforbidden := hwords "forbidden" (by decide)
    have hauthentication := hwords "authentication" (by decide)
    simp only [patterns, List.take_succ_cons, List.take_zero, List.find?_cons, Pattern.covers,
      List.any_cons, List.any_nil, List.all_cons, List.all_nil, hpermission, hunauthenticated,
      hforbidden, hauthentication, Bool.false_and, Bool.or_false, List.find?_nil]
  rw [FailureCode.ofLowered, hpatterns, List.find?_append, hnone, List.find?_cons, hrow]
  rfl

/-- The text up to the suffix says nothing of a denial. -/
def IsPlainStart (start : List Char) : Prop :=
  'Σ' ∉ start ∧ ∀ word ∈ denialWords, occursIn word.toList (start.flatMap lowerChar) = false

theorem isPlainStart_missingModelStart :
    ∀ operation ∈ ["get_registered_model", "delete_registered_model"],
      ∀ stem ∈ ["test-model", "baseline-model"],
        IsPlainStart (missingModelStart operation stem).toList := by
  unfold IsPlainStart
  decide +kernel

theorem code_missing {call : TrackingCall} {stem suffix : String} (hsuffix : isSuffix suffix = true)
    (hstart : IsPlainStart (missingModelStart call.name stem).toList) :
    FailureCode.ofMessage
      (missing call ("Registered Model " ++ (stem ++ "-" ++ suffix))).message =
      .resourceNotFound := by
  have hlength := length_suffix hsuffix
  have hplain : ∀ word ∈ denialWords, '-' ∉ word.toList ∧ ' ' ∉ word.toList ∧
      8 < word.toList.length ∧ occursIn word.toList "not found".toList = false := by decide +kernel
  have hlowered : lowerChars
      (missing call ("Registered Model " ++ (stem ++ "-" ++ suffix))).message.toList =
        (missingModelStart call.name stem).toList.flatMap lowerChar ++ '-' ::
          (suffix.toList ++ ' ' :: "not found".toList) := by
    rw [toList_message_missing_model, lowerChars, Text.lowerFrom_append hstart.1,
      Text.lowerFrom_append (by decide), Text.lowerFrom_append (sigma_not_mem_suffix hsuffix),
      flatMap_lowerChar_suffix hsuffix]
    rfl
  rw [FailureCode.ofMessage, hlowered]
  refine ofLowered_resourceNotFound ?_ ?_
  · intro word hword
    obtain ⟨hdash, hspace, hlong, hafter⟩ := hplain word hword
    exact occursIn_around hdash hspace (hlength ▸ hlong) (hstart.2 word hword) hafter
  · have hend : "not found".toList <:+: suffix.toList ++ ' ' :: "not found".toList :=
      (List.infix_cons List.infix_rfl).trans (List.suffix_append _ _).isInfix
    rw [Text.occursIn_iff_isInfix]
    exact (List.infix_cons hend).trans (List.suffix_append _ _).isInfix

/-- **A missing model of a case reads as a missing resource.** -/
theorem code_missing_model {name : String} (h : IsTestModel name) :
    FailureCode.ofMessage
      (missing (.getRegisteredModel name) ("Registered Model " ++ name)).message =
      .resourceNotFound := by
  obtain ⟨suffix, hsuffix, rfl⟩ := h
  have hname : "test-model-" ++ suffix = "test-model" ++ "-" ++ suffix :=
    congrArg (· ++ suffix) (by decide)
  rw [hname]
  exact code_missing hsuffix
    (isPlainStart_missingModelStart "get_registered_model" (by decide) "test-model" (by decide))

/-- **A seeded model that is missing** reads as a missing resource, whoever asks for it. -/
theorem code_missing_seeded {name : String} (h : IsSeededModel name) :
    ∀ call ∈ [TrackingCall.getRegisteredModel name, TrackingCall.deleteRegisteredModel name],
      FailureCode.ofMessage (missing call ("Registered Model " ++ name)).message =
        .resourceNotFound := by
  obtain ⟨suffix, hsuffix, rfl⟩ := h
  intro call hcall
  have hoperation : call.name ∈ ["get_registered_model", "delete_registered_model"] := by
    rcases List.mem_pair.mp hcall with rfl | rfl
    · exact List.mem_cons_self
    · exact List.mem_cons_of_mem _ List.mem_cons_self
  have hname : "baseline-model-" ++ suffix = "baseline-model" ++ "-" ++ suffix :=
    congrArg (· ++ suffix) (by decide)
  rw [hname]
  exact code_missing hsuffix
    (isPlainStart_missingModelStart call.name hoperation "baseline-model" (by decide))

end GrantProbe
