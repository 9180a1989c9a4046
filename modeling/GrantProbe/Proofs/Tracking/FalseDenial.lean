import GrantProbe.Proofs.Tracking.Refused

/-!
# Denials that a text makes up

A refused request is classified by the words of its wording, and the wording ends with whatever the
service or a gateway in front of it says. So a failure that has nothing to do with permissions reads
as a denial when its text has the words for it, and only then.

* `DeniedByText`: the texts that do;
* `Service.refusal_is_denial_iff`: they are the only ones, for every operation and every status that
  is no denial by itself.
-/

namespace GrantProbe

open Program (Handler)

/-- **The text behind a refusal makes it a denial:** there is one, and its words and those in front
of it are the words of a denial. -/
def DeniedByText (status : Nat) (body : String) : Prop :=
  ∃ tail, failureTail? body = some tail ∧ saysDenied (failureSays status body) = true

/-! ## What stands in front of the text -/

/-- The ranges of statuses outside of which none has words of its own. -/
def wordedStatuses : List Nat :=
  List.range' 100 4 ++ List.range' 200 9 ++ 226 :: List.range' 300 9 ++ List.range' 400 32 ++
    451 :: List.range' 500 12

theorem reason?_eq_none {status : Nat} (h : status ∉ wordedStatuses) :
    Http.reason? status = none := by
  unfold Http.reason?
  split <;> first | rfl | exact absurd (by decide) h

/-- **A status says nothing of a denial,** unless it is one. -/
theorem saysDenied_statusReason {status : Nat} (h401 : status ≠ 401) (h403 : status ≠ 403) :
    saysDenied (Text.mentions (statusReason status)) = false := by
  by_cases hworded : status ∈ wordedStatuses
  · have hall : ∀ status ∈ wordedStatuses, status ≠ 401 → status ≠ 403 →
        saysDenied (Text.mentions (statusReason status)) = false := by decide +kernel
    exact hall status hworded h401 h403
  · have himplied : impliedCode? status = none := by
      unfold impliedCode?
      split <;> first | rfl | exact absurd (by decide) hworded
    have hunknown : statusReason status = "Unknown" := by
      unfold statusReason
      rw [himplied, reason?_eq_none hworded]
      rfl
    rw [hunknown]
    decide +kernel

/-- **What stands in front of the text** is no denial if neither the code of the service nor the
status is one. -/
theorem saysDenied_failureHead {status : Nat} {body : String} (h401 : status ≠ 401)
    (h403 : status ≠ 403)
    (hcode : ∀ code, (ServiceError.ofBody body).code = some code →
      (FailureCode.ofMessage code).isPermission = false) :
    saysDenied (Text.mentions (failureHead status body)) = false := by
  unfold failureHead
  cases hc : (ServiceError.ofBody body).code with
  | none => exact saysDenied_statusReason h401 h403
  | some code =>
    have hdenied := hcode code hc
    rw [FailureCode.ofMessage_eq_ofWords, FailureCode.isPermission_ofWords] at hdenied
    exact hdenied

/-- **The wording of a refusal** reads as a denial if and only if the text in it makes it one. -/
theorem isPermission_failureText_iff {status : Nat} {body : String}
    (hhead : saysDenied (Text.mentions (failureHead status body)) = false) :
    (FailureCode.ofMessage (failureText status body)).isPermission = true ↔
      DeniedByText status body := by
  rw [ofMessage_failureText, FailureCode.isPermission_ofWords]
  constructor
  · intro hdenied
    cases htail : failureTail? body with
    | some tail => exact ⟨tail, htail, hdenied⟩
    | none =>
      have hwords : failureSays status body = Text.mentions (failureHead status body) := by
        funext word
        rw [failureSays, htail]
        exact Bool.or_false _
      rw [hwords, hhead] at hdenied
      exact Bool.noConfusion hdenied
  · rintro ⟨tail, -, hdenied⟩
    exact hdenied

/-! ## Something missing -/

/-- **What stands in front of the text tells of something missing:** the code of the service, or the
status without one. -/
def TellsMissing (status : Nat) (body : String) : Prop :=
  (ServiceError.ofBody body).code = some "RESOURCE_DOES_NOT_EXIST" ∨
    status = 404 ∧ (ServiceError.ofBody body).code = none

/-- The words that `saysRefused` looks for. -/
def refusedWords : List String :=
  ["permission", "denied", "unauthenticated", "forbidden", "authentication", "failed"]

theorem saysRefused_congr {has has' : String → Bool}
    (h : ∀ word ∈ refusedWords, has word = has' word) :
    saysRefused has = saysRefused has' := by
  simp only [refusedWords, List.forall_mem_cons] at h
  obtain ⟨hp, hd, hu, hf, ha, hfailed, -⟩ := h
  rw [saysRefused, saysRefused, hp, hd, hu, hf, ha, hfailed]

theorem saysMissing_mono {has has' : String → Bool} (h : ∀ word, has word = true → has' word = true)
    (hmissing : saysMissing has = true) : saysMissing has' = true := by
  simp only [saysMissing, Bool.or_eq_true] at hmissing ⊢
  exact hmissing.imp (Or.imp (h _) (h _)) (h _)

theorem TellsMissing.mentions_failureHead {status : Nat} {body : String}
    (h : TellsMissing status body) :
    saysMissing (Text.mentions (failureHead status body)) = true ∧
      ∀ word ∈ refusedWords, Text.mentions (failureHead status body) word = false := by
  have hheads : ∀ head ∈ ["RESOURCE_DOES_NOT_EXIST", "RESOURCE_DOES_NOT_EXIST: Not Found"],
      saysMissing (Text.mentions head) = true ∧
        ∀ word ∈ refusedWords, Text.mentions head word = false := by decide +kernel
  refine hheads _ ?_
  unfold failureHead
  rcases h with hcode | ⟨rfl, hcode⟩
  · rw [hcode]
    exact List.mem_cons_self
  · rw [hcode]
    exact List.mem_cons_of_mem _ List.mem_cons_self

/-- **Something missing reads as such** if and only if the text has no words of a refusal. -/
theorem TellsMissing.ofMessage_failureText_iff {status : Nat} {body : String}
    (h : TellsMissing status body) :
    FailureCode.ofMessage (failureText status body) = .resourceNotFound ↔
      ∀ tail, failureTail? body = some tail → saysRefused (Text.mentions tail) = false := by
  obtain ⟨hmissing, hwords⟩ := h.mentions_failureHead
  have hsaysMissing : saysMissing (failureSays status body) = true :=
    saysMissing_mono (fun word hword => by rw [failureSays, hword, Bool.true_or]) hmissing
  have hsaysRefused : saysRefused (failureSays status body) =
      saysRefused fun word => (failureTail? body).any fun tail => Text.mentions tail word :=
    saysRefused_congr fun word hword => by rw [failureSays, hwords word hword, Bool.false_or]
  rw [ofMessage_failureText, FailureCode.ofWords_eq_resourceNotFound_iff, hsaysRefused,
    and_iff_left hsaysMissing]
  cases failureTail? body with
  | none => simp [saysRefused]
  | some tail => simp [Option.any]

/-! ## Every operation -/

/-- **When a refused request reads as a denial.** Whatever the service replies to an operation, with a
status that is no success, the operation fails with an error of the tracking service.

* It is classified as a permission error by the words of both parts of its wording.
* If neither the status nor the code in the reply is a denial, it is so classified if and only if the
  text behind them makes it one.
* If the status or the code tells of something missing, it is classified as that if and only if the
  text has no words of a refusal. -/
theorem Service.refusal_is_denial_iff {σ : Type} (s : Service) (c : TrackingCall)
    (h : Handler wire σ) (w : σ) {status : Nat} {body : Bytes}
    (hrefused : (status, body) ∈ refusals ((s.perform c).dialogue h w)) :
    ∃ operation message, ((s.perform c).exec h w).1 =
        .error (.error (.tracking operation status message)) ∧
      (FailureCode.ofMessage (Error.tracking operation status message).message).isPermission =
        saysDenied (failureSays status (Text.lossy body)) ∧
      (status ≠ 401 → status ≠ 403 →
        (∀ code, (ServiceError.ofBody (Text.lossy body)).code = some code →
          (FailureCode.ofMessage code).isPermission = false) →
        ((FailureCode.ofMessage
            (Error.tracking operation status message).message).isPermission = true ↔
          DeniedByText status (Text.lossy body))) ∧
      (TellsMissing status (Text.lossy body) →
        (FailureCode.ofMessage (Error.tracking operation status message).message =
            .resourceNotFound ↔
          ∀ tail, failureTail? (Text.lossy body) = some tail →
            saysRefused (Text.mentions tail) = false)) := by
  obtain ⟨operation, hop, hexec⟩ := exec_of_mem_refusals hrefused
  refine ⟨operation, failureText status (Text.lossy body), hexec, ?_, ?_, ?_⟩
  · rw [ofMessage_tracking hop, ofMessage_failureText, FailureCode.isPermission_ofWords]
  · intro h401 h403 hcode
    rw [ofMessage_tracking hop]
    exact isPermission_failureText_iff (saysDenied_failureHead h401 h403 hcode)
  · intro hmissing
    rw [ofMessage_tracking hop]
    exact hmissing.ofMessage_failureText_iff

/-- A page that tells of something missing, without a code. -/
def notHerePage : Bytes := utf8Bytes "<h1>Not Here</h1>"

/-- Looking up an experiment where a gateway answers with a page fails, and the page is no denial. -/
theorem Service.notHerePage_is_missing :
    (404, notHerePage) ∈ refusals
        ((sampleService.perform (.getExperiment "1")).dialogue
          (everyReply (.response 404 notHerePage)) ()) ∧
      ∃ operation message,
        ((sampleService.perform (.getExperiment "1")).exec
            (everyReply (.response 404 notHerePage)) ()).1 =
          .error (.error (.tracking operation 404 message)) ∧
        FailureCode.ofMessage (Error.tracking operation 404 message).message =
          .resourceNotFound := by
  have hrefused : (404, notHerePage) ∈ refusals
      ((sampleService.perform (.getExperiment "1")).dialogue
        (everyReply (.response 404 notHerePage)) ()) := by decide +kernel
  have hcode : (ServiceError.ofBody (Text.lossy notHerePage)).code = none := by decide +kernel
  have htail : ∀ tail ∈ failureTail? (Text.lossy notHerePage),
      saysRefused (Text.mentions tail) = false := by decide +kernel
  obtain ⟨operation, message, hexec, -, -, hmissing⟩ :=
    Service.refusal_is_denial_iff sampleService (.getExperiment "1")
      (everyReply (.response 404 notHerePage)) () hrefused
  exact ⟨hrefused, operation, message, hexec, (hmissing (Or.inr ⟨rfl, hcode⟩)).mpr htail⟩

/-- The reply of the service when a model is missing whose name has a word of a refusal. -/
def forbiddenCityReply : Bytes :=
  utf8Bytes ("\x7b\"error_code\":\"RESOURCE_DOES_NOT_EXIST\"," ++
    "\"message\":\"Registered Model with name=forbidden-city not found\"\x7d")

/-- **A missing model reads as a denial** because of its name: the code of the reply is no permission
error, and the error of the operation is one. -/
theorem Service.forbiddenCity_is_denied :
    (404, forbiddenCityReply) ∈ refusals
        ((sampleService.perform (.getRegisteredModel "forbidden-city")).dialogue
          (everyReply (.response 404 forbiddenCityReply)) ()) ∧
      (ServiceError.ofBody (Text.lossy forbiddenCityReply)).code = some "RESOURCE_DOES_NOT_EXIST" ∧
      FailureCode.ofMessage "RESOURCE_DOES_NOT_EXIST" = .resourceNotFound ∧
      ∃ operation message,
        ((sampleService.perform (.getRegisteredModel "forbidden-city")).exec
            (everyReply (.response 404 forbiddenCityReply)) ()).1 =
          .error (.error (.tracking operation 404 message)) ∧
        FailureCode.ofMessage (Error.tracking operation 404 message).message = .forbidden := by
  have hrefused : (404, forbiddenCityReply) ∈ refusals
      ((sampleService.perform (.getRegisteredModel "forbidden-city")).dialogue
        (everyReply (.response 404 forbiddenCityReply)) ()) := by decide +kernel
  have hforbidden : FailureCode.ofMessage (failureText 404 (Text.lossy forbiddenCityReply)) =
      .forbidden := by decide +kernel
  obtain ⟨operation, hop, hexec⟩ := exec_of_mem_refusals hrefused
  exact ⟨hrefused, by decide +kernel, by decide +kernel, operation, _, hexec,
    (ofMessage_tracking hop 404 _).trans hforbidden⟩

end GrantProbe
