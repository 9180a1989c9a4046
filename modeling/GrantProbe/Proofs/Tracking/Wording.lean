import Mathlib.Data.List.Find
import Mathlib.Tactic.SplitIfs
import GrantProbe.Failure
import GrantProbe.Proofs.Text.Part
import GrantProbe.Tracking.Failure

/-!
# The words that classify a failure

The classification table asks of a text which of its words it says, and nothing else. So a text that
is put together from parts is classified by the words of its parts, as long as no word of the table
reaches from one part into the next.

* `Text.mentions`, `FailureCode.ofWords`: the words of a text, and the kind that they make;
* `saysRefused`, `saysDenied`: the words that make a denial, with `isPermission_ofWords`;
* `mentions_append_colon`: parts with a colon and a space between them say what one of them says;
* `ofMessage_tracking`: what an error of the tracking service says in front of its text counts for
  nothing;
* `failureText_eq`, `ofMessage_failureText`: the wording of a refusal, in two parts.
-/

namespace GrantProbe

open Text (occursIn overhangs lowerChars lowerChar)

/-- The text says a word, in any letter case. -/
def Text.mentions (text word : String) : Bool := occursIn word.toList (lowerChars text.toList)

/-- Every word of the classification table. -/
def tableWords : List String := patterns.flatMap fun p => p.anyOf.flatten

/-- The row matches a text that says the words `has`. -/
def Pattern.coversWords (has : String → Bool) (p : Pattern) : Bool :=
  p.anyOf.any fun group => group.all has

/-- The kind of failure that words make, by the first of some rows that matches them. -/
def FailureCode.ofRows (has : String → Bool) (rows : List Pattern) : FailureCode :=
  match rows.find? (Pattern.coversWords has) with
  | some p => p.code
  | none => .internalError

/-- **The kind of failure** that words make. -/
def FailureCode.ofWords (has : String → Bool) : FailureCode := .ofRows has patterns

theorem FailureCode.ofRows_cons (has : String → Bool) (p : Pattern) (rows : List Pattern) :
    ofRows has (p :: rows) = if p.coversWords has then p.code else ofRows has rows := by
  unfold ofRows
  rw [List.find?_cons]
  cases p.coversWords has <;> rfl

/-- **Classification** looks at the words that a text says. -/
theorem FailureCode.ofMessage_eq_ofWords (message : String) :
    ofMessage message = ofWords (Text.mentions message) := rfl

theorem mem_tableWords {p : Pattern} (hp : p ∈ patterns) {group : List String}
    (hgroup : group ∈ p.anyOf) {word : String} (hword : word ∈ group) : word ∈ tableWords :=
  List.mem_flatMap.mpr ⟨p, hp, List.mem_flatten.mpr ⟨group, hgroup, hword⟩⟩

theorem FailureCode.ofWords_congr {has has' : String → Bool}
    (h : ∀ word ∈ tableWords, has word = has' word) : ofWords has = ofWords has' := by
  have hrows : ∀ p ∈ patterns, p.coversWords has = p.coversWords has' := by
    intro p hp
    rw [Bool.eq_iff_iff]
    simp only [Pattern.coversWords, List.any_eq_true, List.all_eq_true]
    refine exists_congr fun group => and_congr_right fun hgroup => forall₂_congr fun word hword => ?_
    rw [h word (mem_tableWords hp hgroup hword)]
  unfold ofWords ofRows
  rw [List.find?_congr hrows]

/-! ## Words of a denial -/

/-- The words of a refusal that the table looks for before anything else. -/
def saysRefused (has : String → Bool) : Bool :=
  (has "permission" && has "denied") || has "unauthenticated" || has "forbidden" ||
    (has "authentication" && has "failed")

/-- The words for something that is not there. -/
def saysMissing (has : String → Bool) : Bool :=
  has "not found" || has "does not exist" || has "resource_does_not_exist"

/-- The words for something that is there already. -/
def saysTaken (has : String → Bool) : Bool :=
  has "already exists" || has "duplicate" || has "resource_already_exists"

/-- **The words of a denial:** a refusal, or a workspace with its access or with something denied
where nothing is said to be missing or there already. -/
def saysDenied (has : String → Bool) : Bool :=
  saysRefused has ||
    (has "workspace" && (has "access" || has "denied") && !saysMissing has && !saysTaken has)

theorem FailureCode.ofWords_eq (has : String → Bool) :
    ofWords has =
      if has "permission" && has "denied" then .permissionDenied
      else if has "unauthenticated" then .unauthenticated
      else if has "forbidden" then .forbidden
      else if has "authentication" && has "failed" then .authenticationFailed
      else if saysMissing has then .resourceNotFound
      else if saysTaken has then .resourceAlreadyExists
      else if has "workspace" && (has "access" || has "denied") then .workspaceAccessDenied
      else if has "quota" || has "limit" then .quotaExceeded
      else if has "invalid" || has "bad request" then .invalidRequest
      else .internalError := by
  have hnone : ofRows has [] = .internalError := rfl
  unfold ofWords patterns saysMissing saysTaken
  simp only [ofRows_cons, hnone, Pattern.coversWords, List.any_cons, List.any_nil, List.all_cons,
    List.all_nil, Bool.and_true, Bool.or_false, Bool.or_assoc, Bool.and_or_distrib_left]

/-- **The words of a denial** are those that the table takes for one. -/
theorem FailureCode.isPermission_ofWords (has : String → Bool) :
    (ofWords has).isPermission = saysDenied has := by
  rw [ofWords_eq]
  unfold saysDenied saysRefused
  simp only [apply_ite isPermission]
  simp only [isPermission, ite_self, Bool.if_true_left, Bool.if_false_left, Bool.if_false_right,
    Bool.decide_eq_true, Bool.or_assoc, Bool.and_true]
  cases saysMissing has <;> cases saysTaken has <;> simp

/-- **The words for something missing,** without a refusal. -/
theorem FailureCode.ofWords_eq_resourceNotFound_iff (has : String → Bool) :
    ofWords has = .resourceNotFound ↔ saysRefused has = false ∧ saysMissing has = true := by
  rw [ofWords_eq]
  unfold saysRefused
  split_ifs <;> simp_all

/-! ## Texts in two parts -/

theorem not_colon_of_mem_tableWords {word : String} (h : word ∈ tableWords) :
    ':' ∉ word.toList ∧ overhangs word.toList [' '] = false ∧ word.toList ≠ [] := by
  have hall : ∀ word ∈ tableWords,
      ':' ∉ word.toList ∧ overhangs word.toList [' '] = false ∧ word.toList ≠ [] := by
    decide +kernel
  exact hall word h

theorem toList_append_colon (a b : String) :
    (a ++ ": " ++ b).toList = a.toList ++ ':' :: ' ' :: b.toList := by
  rw [String.toList_append, String.toList_append, List.append_assoc]
  rfl

/-- **Two texts with a colon and a space between them** say what one of them says. -/
theorem mentions_append_colon {word : String} (h : word ∈ tableWords) (a b : String) :
    Text.mentions (a ++ ": " ++ b) word = (Text.mentions a word || Text.mentions b word) := by
  obtain ⟨hcolon, hspace, hne⟩ := not_colon_of_mem_tableWords h
  unfold Text.mentions
  rw [toList_append_colon, Text.lowerChars_append_colon,
    Text.occursIn_append_colon hcolon hspace hne]

/-- **The kind of a text in two parts** is made by the words of both. -/
theorem ofMessage_append_colon (a b : String) :
    FailureCode.ofMessage (a ++ ": " ++ b) =
      FailureCode.ofWords fun word => Text.mentions a word || Text.mentions b word := by
  rw [FailureCode.ofMessage_eq_ofWords]
  exact FailureCode.ofWords_congr fun word hword => mentions_append_colon hword a b

/-! ## What an error says in front of its text -/

/-- **The operations** that errors of the tracking service name. -/
def operationNames : List String := [
  "create_experiment", "get_experiment", "delete_experiment", "create_run", "get_run", "end_run",
  "delete_run", "log_artifact", "list_artifacts", "download_artifact", "log_model",
  "get_logged_model", "load_model", "create_registered_model", "get_registered_model",
  "delete_registered_model"]

/-- What an error says in front of its text. -/
def trackingHeading (operation : String) (status : Nat) : String :=
  "tracking service error [" ++ toString status ++ "] during " ++ operation

theorem message_tracking (operation : String) (status : Nat) (message : String) :
    (Error.tracking operation status message).message =
      trackingHeading operation status ++ ": " ++ message := rfl

theorem isDigit_of_mem_toString {n : Nat} {c : Char} (h : c ∈ (toString n).toList) :
    c.isDigit = true := by
  change c ∈ n.repr.toList at h
  rw [Nat.toList_repr] at h
  exact Nat.isDigit_of_mem_toDigits (by decide) (by decide) h

theorem not_occursIn_toString {word : String} (h : word ∈ tableWords) (n : Nat) :
    occursIn word.toList (toString n).toList = false := by
  have hall : ∀ word ∈ tableWords, (word.toList.any fun c => !c.isDigit) = true := by
    decide +kernel
  obtain ⟨c, hc, hdigit⟩ := List.any_eq_true.mp (hall word h)
  rw [← Bool.not_eq_true, Text.occursIn_iff_isInfix]
  intro hin
  rw [isDigit_of_mem_toString (hin.subset hc)] at hdigit
  exact Bool.noConfusion hdigit

theorem lowerChar_of_isDigit {c : Char} (h : c.isDigit = true) : lowerChar c = [c] := by
  simp only [Char.isDigit, Bool.and_eq_true, decide_eq_true_eq] at h
  have hhigh : c.toNat ≤ 57 := h.2
  have hascii : c.toNat < 0x80 := by omega
  have hupper : ¬('A' ≤ c ∧ c ≤ 'Z') := by
    rintro ⟨hA, -⟩
    have hA' : 65 ≤ c.toNat := hA
    omega
  rw [lowerChar, if_pos hascii, Text.asciiLowerChar, if_neg hupper]

theorem flatMap_lowerChar_toString (n : Nat) :
    (toString n).toList.flatMap lowerChar = (toString n).toList := by
  have hall : ∀ l : List Char, (∀ c ∈ l, c.isDigit = true) → l.flatMap lowerChar = l := by
    intro l hl
    induction l with
    | nil => rfl
    | cons c rest ih =>
      rw [List.flatMap_cons, lowerChar_of_isDigit (hl c List.mem_cons_self),
        ih fun d hd => hl d (List.mem_cons_of_mem _ hd)]
      rfl
  exact hall _ fun _ hc => isDigit_of_mem_toString hc

theorem toList_trackingHeading (operation : String) (status : Nat) :
    (trackingHeading operation status).toList =
      "tracking service error ".toList ++
        '[' :: ((toString status).toList ++ ']' :: (" during " ++ operation).toList) := by
  have hopen : "tracking service error [" = "tracking service error " ++ "[" := by decide
  have hclose : "] during " = "]" ++ " during " := by decide
  unfold trackingHeading
  rw [hopen, hclose]
  simp only [String.toList_append, List.append_assoc]
  rfl

theorem lowerChars_trackingHeading {operation : String} (h : operation ∈ operationNames)
    (status : Nat) :
    lowerChars (trackingHeading operation status).toList =
      (trackingHeading operation status).toList := by
  have hbegin : 'Σ' ∉ "tracking service error ".toList ∧
      "tracking service error ".toList.flatMap lowerChar = "tracking service error ".toList := by
    decide +kernel
  have hend : ∀ operation ∈ operationNames, 'Σ' ∉ (" during " ++ operation).toList ∧
      (" during " ++ operation).toList.flatMap lowerChar = (" during " ++ operation).toList := by
    decide +kernel
  have hmarks : lowerChar '[' = ['['] ∧ lowerChar ']' = [']'] := by decide +kernel
  have hdigits : 'Σ' ∉ (toString status).toList := fun hmem =>
    absurd (isDigit_of_mem_toString hmem) (by decide)
  obtain ⟨hsigma, hlowered⟩ := hend operation h
  rw [toList_trackingHeading]
  refine Text.lowerChars_of_lowered ?_ ?_
  · simp only [List.mem_append, List.mem_cons, not_or]
    exact ⟨hbegin.1, by decide, hdigits, by decide, hsigma⟩
  · simp only [List.flatMap_append, List.flatMap_cons, hbegin.2, hlowered, hmarks.1, hmarks.2,
      flatMap_lowerChar_toString, List.singleton_append]

theorem mentions_trackingHeading {operation : String} (h : operation ∈ operationNames) (status : Nat)
    {word : String} (hword : word ∈ tableWords) :
    Text.mentions (trackingHeading operation status) word = false := by
  have hbegin : ∀ word ∈ tableWords, '[' ∉ word.toList ∧ ']' ∉ word.toList ∧
      occursIn word.toList "tracking service error ".toList = false := by decide +kernel
  have hend : ∀ operation ∈ operationNames, ∀ word ∈ tableWords,
      occursIn word.toList (" during " ++ operation).toList = false := by decide +kernel
  obtain ⟨hopen, hclose, hfirst⟩ := hbegin word hword
  unfold Text.mentions
  rw [lowerChars_trackingHeading h, toList_trackingHeading, Text.occursIn_append_cons hopen,
    Text.occursIn_append_cons hclose, hfirst, not_occursIn_toString hword,
    hend operation h word hword]
  rfl

/-- **An error of the tracking service** is classified by its text alone. -/
theorem ofMessage_tracking {operation : String} (h : operation ∈ operationNames) (status : Nat)
    (message : String) :
    FailureCode.ofMessage (Error.tracking operation status message).message =
      FailureCode.ofMessage message := by
  rw [message_tracking, ofMessage_append_colon, FailureCode.ofMessage_eq_ofWords]
  refine FailureCode.ofWords_congr fun word hword => ?_
  rw [mentions_trackingHeading h status hword, Bool.false_or]

/-! ## The wording of a refusal -/

/-- **The first part** of the wording of a refusal: the code of the service, or what the status
implies. -/
def failureHead (status : Nat) (body : String) : String :=
  (ServiceError.ofBody body).code.getD (statusReason status)

/-- **The second part** of the wording of a refusal, if it has one: the message of the service, or
the whole body if the body is no error. -/
def failureTail? (body : String) : Option String :=
  match ServiceError.ofBody body with
  | ⟨_, some message⟩ => some message
  | ⟨some _, none⟩ => none
  | ⟨none, none⟩ => if Text.isAllBlank body then none else some (Text.trim body)

theorem failureText_eq (status : Nat) (body : String) :
    failureText status body =
      match failureTail? body with
      | some tail => failureHead status body ++ ": " ++ tail
      | none => failureHead status body := by
  unfold failureText failureTail? failureHead
  rcases ServiceError.ofBody body with ⟨_ | code, _ | message⟩
  · cases Text.isAllBlank body <;> rfl
  · rfl
  · rfl
  · rfl

/-- The words of the wording of a refusal. -/
def failureSays (status : Nat) (body word : String) : Bool :=
  Text.mentions (failureHead status body) word ||
    (failureTail? body).any fun tail => Text.mentions tail word

/-- **A refusal is classified** by the words of the two parts of its wording. -/
theorem ofMessage_failureText (status : Nat) (body : String) :
    FailureCode.ofMessage (failureText status body) =
      FailureCode.ofWords (failureSays status body) := by
  rw [failureText_eq]
  unfold failureSays
  cases failureTail? body with
  | none =>
    rw [FailureCode.ofMessage_eq_ofWords]
    exact FailureCode.ofWords_congr fun word _ => (Bool.or_false _).symm
  | some tail => exact ofMessage_append_colon _ tail

end GrantProbe
