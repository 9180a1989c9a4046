import GrantProbe.Proofs.Tracking.Body
import GrantProbe.Proofs.Tracking.Refused

/-!
# Denials that a body hides

A request that is denied fails with a denial, whatever stands in the body of the reply, except for two
kinds of bodies. A list is taken for an error of the service, and its first item then stands in place
of the status. An object that says the code of a denial is no error if it is not clear, and its text
is then looked at as it was written.

* `CarriesCode`, `MistakenFor`: the two ways in which a body comes to a code;
* `Service.denial_is_seen_iff`: when a denial is classified as one, for every operation.
-/

namespace GrantProbe

open Json (Input IsObject IsList)
open Program (Handler)
open ServiceError (ofItems?)

/-- **The body is an object with a code.** -/
def CarriesCode (body code : String) : Prop :=
  ∃ es, IsObject es (Input.ofText body) ∧ ⟨some "error_code", .text code⟩ ∈ es

/-- **The body is a list that is taken for an error** with a code, and perhaps a message. -/
def MistakenFor (body code : String) (message : Option String) : Prop :=
  ∃ vs, IsList vs (Input.ofText body) ∧ ofItems? vs = some ⟨some code, message⟩

/-- The words of an error of the service. -/
def errorSays (code : String) (message : Option String) (word : String) : Bool :=
  Text.mentions code word || message.any fun message => Text.mentions message word

/-- The words that the table looks for first. -/
def saysPermissionDenied (has : String → Bool) : Bool := has "permission" && has "denied"

theorem FailureCode.ofWords_eq_permissionDenied_iff (has : String → Bool) :
    ofWords has = .permissionDenied ↔ saysPermissionDenied has = true := by
  rw [ofWords_eq, saysPermissionDenied]
  split_ifs <;> simp_all

/-! ## The code of a body -/

variable {status : Nat} {body : String}

theorem ofBody_of_mistakenFor {code : String} {message : Option String}
    (h : MistakenFor body code message) : ServiceError.ofBody body = ⟨some code, message⟩ := by
  obtain ⟨vs, hvs, hitems⟩ := h
  exact ServiceError.ofBody_of_ofItems? hvs hitems

theorem failureSays_of_code {code : String} {message : Option String}
    (h : ServiceError.ofBody body = ⟨some code, message⟩) (status : Nat) :
    failureSays status body = errorSays code message := by
  funext word
  unfold failureSays errorSays failureHead failureTail?
  rw [h]
  cases message <;> rfl

/-- The words of a refusal whose body is no error and not blank. -/
theorem failureSays_of_no_error (h : ServiceError.ofBody body = ⟨none, none⟩)
    (hblank : Text.isAllBlank body = false) : failureSays status body = fun word =>
      Text.mentions (statusReason status) word || Text.mentions (Text.trim body) word := by
  have hhead : failureHead status body = statusReason status := by
    rw [failureHead, h, Option.getD_none]
  have htail : failureTail? body = some (Text.trim body) := by
    unfold failureTail?
    simp only [h, hblank, Bool.false_eq_true, if_false]
  funext word
  rw [failureSays, hhead, htail, Option.any_some]

/-- **A body without a code** leaves the status in front. -/
theorem failureHead_eq_statusReason (hcarries : ∀ code, ¬CarriesCode body code)
    (hmistaken : ∀ code message, ¬MistakenFor body code message) :
    failureHead status body = statusReason status := by
  unfold failureHead
  cases h : ServiceError.ofBody body with
  | mk code message =>
    cases code with
    | none => rfl
    | some code =>
      rcases ServiceError.exists_of_code h with hobject | hlist
      · exact absurd hobject (hcarries code)
      · exact absurd hlist (hmistaken code message)

theorem failureSays_of_head {word : String} (h : Text.mentions (failureHead status body) word = true) :
    failureSays status body word = true := by
  rw [failureSays, h, Bool.true_or]

/-- **A property that the words of the status ensure** holds of the refusal of any body without a
code, unless the body is taken for an error without the property. -/
theorem failureSays_iff_of_no_code {P : (String → Bool) → Prop}
    (hstatus : ∀ has,
      (∀ word, Text.mentions (statusReason status) word = true → has word = true) → P has)
    (hcarries : ∀ code, ¬CarriesCode body code) :
    P (failureSays status body) ↔
      ∀ code message, MistakenFor body code message → P (errorSays code message) := by
  constructor
  · intro hwords code message hmistaken
    rwa [failureSays_of_code (ofBody_of_mistakenFor hmistaken)] at hwords
  · intro hall
    by_cases hmistaken : ∃ code message, MistakenFor body code message
    · obtain ⟨code, message, hmistaken⟩ := hmistaken
      rw [failureSays_of_code (ofBody_of_mistakenFor hmistaken)]
      exact hall code message hmistaken
    · have hhead : failureHead status body = statusReason status :=
        failureHead_eq_statusReason hcarries fun code message h => hmistaken ⟨code, message, h⟩
      exact hstatus _ fun word hword => failureSays_of_head (by rwa [hhead])

theorem mentions_statusReason_of_implied {code word : String} (hword : word ∈ tableWords)
    (himplied : impliedCode? status = some code) (hsaid : Text.mentions code word = true) :
    Text.mentions (statusReason status) word = true := by
  unfold statusReason
  rw [himplied, mentions_append_colon hword, hsaid, Bool.true_or]

theorem mentions_denialCodes :
    Text.mentions "PERMISSION_DENIED" "permission" = true ∧
      Text.mentions "PERMISSION_DENIED" "denied" = true ∧
      Text.mentions "UNAUTHENTICATED" "unauthenticated" = true := by decide +kernel

theorem saysPermissionDenied_of_forbidden {has : String → Bool}
    (h : ∀ word, Text.mentions (statusReason 403) word = true → has word = true) :
    saysPermissionDenied has = true := by
  obtain ⟨hpermission, hdenied, -⟩ := mentions_denialCodes
  have hpermission' : has "permission" = true :=
    h _ (mentions_statusReason_of_implied (by decide) rfl hpermission)
  have hdenied' : has "denied" = true :=
    h _ (mentions_statusReason_of_implied (by decide) rfl hdenied)
  rw [saysPermissionDenied, hpermission', hdenied']
  rfl

theorem saysDenied_of_unauthorized {has : String → Bool}
    (h : ∀ word, Text.mentions (statusReason 401) word = true → has word = true) :
    saysDenied has = true := by
  have hunauthenticated : has "unauthenticated" = true :=
    h _ (mentions_statusReason_of_implied (by decide) rfl mentions_denialCodes.2.2)
  simp [saysDenied, saysRefused, hunauthenticated]

/-! ## Objects with the code of a denial -/

theorem isAllBlank_eq_false_of_isObject {es : List Json.Entry} (h : IsObject es (Input.ofText body)) :
    Text.isAllBlank body = false := by
  obtain ⟨x, t, hx, -, -⟩ := h
  have hmem : some '\x7b' ∈ Input.ofText body := by
    refine (List.dropWhile_suffix Json.isGap).subset ?_
    rw [show (Input.ofText body).dropWhile Json.isGap = some '\x7b' :: x from hx]
    exact List.mem_cons_self
  obtain ⟨c, hc, hbrace⟩ := List.mem_map.mp hmem
  rw [← Bool.not_eq_true, Text.isAllBlank, List.all_eq_true]
  intro hall
  have hblank := hall c hc
  rw [Option.some.inj hbrace] at hblank
  exact absurd hblank (by decide)

/-- **An object with the code of a denial** is classified as one if it is clear, or else if the status
and the text of the object say so. -/
theorem ofMessage_failureText_of_isObject {es : List Json.Entry}
    (h : IsObject es (Input.ofText body))
    (hcode : ⟨some "error_code", .text "PERMISSION_DENIED"⟩ ∈ es) :
    FailureCode.ofMessage (failureText status body) = .permissionDenied ↔
      ServiceError.Clear es ∨ saysPermissionDenied (fun word =>
        Text.mentions (statusReason status) word || Text.mentions (Text.trim body) word) = true := by
  rw [ofMessage_failureText, FailureCode.ofWords_eq_permissionDenied_iff]
  by_cases hclear : ServiceError.Clear es
  · have hsaid : ServiceError.saidBy "error_code" es = some "PERMISSION_DENIED" :=
      ServiceError.saidBy_eq_some_of_mem (hclear.once _ (by simp)) hcode
    have hbody := ServiceError.ofBody_of_clear h hclear
    rw [hsaid] at hbody
    refine iff_of_true ?_ (Or.inl hclear)
    rw [failureSays_of_code hbody]
    obtain ⟨hpermission, hdenied, -⟩ := mentions_denialCodes
    rw [saysPermissionDenied, errorSays, errorSays, hpermission, hdenied]
    rfl
  · have hbody : ServiceError.ofBody body = ⟨none, none⟩ :=
      ServiceError.ofBody_of_neither (fun es' h' => by rwa [h'.unique h])
        fun vs hvs => absurd hvs h.not_isList
    rw [or_iff_right hclear]
    rw [failureSays_of_no_error hbody (isAllBlank_eq_false_of_isObject h)]

/-! ## Every operation -/

/-- **When a denial is seen.** Whatever the service replies to an operation, with a status that is no
success, the operation fails with an error of the tracking service.

* Without a code in the body, status 403 is classified as a denied permission, unless the body is a
  list that is taken for an error whose words are no such denial.
* Without a code in the body, status 401 is classified as a permission error with the same exception.
* An object with the code of a denied permission is classified as one, with any status, if the object
  is clear; otherwise if the status and the text of the body say so. -/
theorem Service.denial_is_seen_iff {σ : Type} (s : Service) (c : TrackingCall) (h : Handler wire σ)
    (w : σ) {status : Nat} {body : Bytes}
    (hrefused : (status, body) ∈ refusals ((s.perform c).dialogue h w)) :
    ∃ operation message, ((s.perform c).exec h w).1 =
        .error (.error (.tracking operation status message)) ∧
      (status = 403 → (∀ code, ¬CarriesCode (Text.lossy body) code) →
        (FailureCode.ofMessage (Error.tracking operation status message).message =
            .permissionDenied ↔
          ∀ code message, MistakenFor (Text.lossy body) code message →
            saysPermissionDenied (errorSays code message) = true)) ∧
      (status = 401 → (∀ code, ¬CarriesCode (Text.lossy body) code) →
        ((FailureCode.ofMessage
            (Error.tracking operation status message).message).isPermission = true ↔
          ∀ code message, MistakenFor (Text.lossy body) code message →
            saysDenied (errorSays code message) = true)) ∧
      (∀ es, IsObject es (Input.ofText (Text.lossy body)) →
        ⟨some "error_code", .text "PERMISSION_DENIED"⟩ ∈ es →
        (FailureCode.ofMessage (Error.tracking operation status message).message =
            .permissionDenied ↔
          ServiceError.Clear es ∨ saysPermissionDenied (fun word =>
            Text.mentions (statusReason status) word ||
              Text.mentions (Text.trim (Text.lossy body)) word) = true)) := by
  obtain ⟨operation, hop, hexec⟩ := exec_of_mem_refusals hrefused
  refine ⟨operation, failureText status (Text.lossy body), hexec, ?_, ?_, ?_⟩
  · rintro rfl hcarries
    rw [ofMessage_tracking hop, ofMessage_failureText, FailureCode.ofWords_eq_permissionDenied_iff]
    exact failureSays_iff_of_no_code (P := fun has => saysPermissionDenied has = true)
      (fun _ => saysPermissionDenied_of_forbidden) hcarries
  · rintro rfl hcarries
    rw [ofMessage_tracking hop, ofMessage_failureText, FailureCode.isPermission_ofWords]
    exact failureSays_iff_of_no_code (P := fun has => saysDenied has = true)
      (fun _ => saysDenied_of_unauthorized) hcarries
  · intro es hes hcode
    rw [ofMessage_tracking hop]
    exact ofMessage_failureText_of_isObject hes hcode

/-- A page that a gateway may answer with. -/
def notForYouPage : Bytes := utf8Bytes "<h1>Not for You</h1>"

/-- Creating an experiment where a gateway forbids it with a page of its own is seen as a denial. -/
theorem Service.notForYouPage_is_denied :
    (403, notForYouPage) ∈ refusals
        ((sampleService.perform (.createExperiment "e")).dialogue
          (everyReply (.response 403 notForYouPage)) ()) ∧
      (∀ code, ¬CarriesCode (Text.lossy notForYouPage) code) ∧
      ∃ operation message,
        ((sampleService.perform (.createExperiment "e")).exec
            (everyReply (.response 403 notForYouPage)) ()).1 =
          .error (.error (.tracking operation 403 message)) ∧
        FailureCode.ofMessage (Error.tracking operation 403 message).message =
          .permissionDenied := by
  have hrefused : (403, notForYouPage) ∈ refusals
      ((sampleService.perform (.createExperiment "e")).dialogue
        (everyReply (.response 403 notForYouPage)) ()) := by decide +kernel
  have hhead : (Json.pastGaps (Input.ofText (Text.lossy notForYouPage))).head? =
      some (some '<') := by decide +kernel
  have hcarries : ∀ code, ¬CarriesCode (Text.lossy notForYouPage) code := by
    rintro code ⟨es, hes, -⟩
    exact absurd (hhead.symm.trans hes.head?_pastGaps) (by decide)
  obtain ⟨operation, message, hexec, hforbidden, -, -⟩ :=
    Service.denial_is_seen_iff sampleService (.createExperiment "e")
      (everyReply (.response 403 notForYouPage)) () hrefused
  refine ⟨hrefused, hcarries, operation, message, hexec, (hforbidden rfl hcarries).mpr ?_⟩
  rintro code message ⟨vs, hvs, -⟩
  exact absurd (hhead.symm.trans hvs.head?_pastGaps) (by decide)

/-- A list that a gateway may answer with. -/
def badGatewayReply : Bytes := utf8Bytes "[\"BAD_GATEWAY\",\"upstream\"]"

/-- **A list hides a denial:** the status forbids the operation and the body is no object, and the
error of the operation is an internal one. -/
theorem Service.badGateway_is_internal :
    (403, badGatewayReply) ∈ refusals
        ((sampleService.perform (.createExperiment "e")).dialogue
          (everyReply (.response 403 badGatewayReply)) ()) ∧
      (∀ code, ¬CarriesCode (Text.lossy badGatewayReply) code) ∧
      ∃ operation message,
        ((sampleService.perform (.createExperiment "e")).exec
            (everyReply (.response 403 badGatewayReply)) ()).1 =
          .error (.error (.tracking operation 403 message)) ∧
        FailureCode.ofMessage (Error.tracking operation 403 message).message =
          .internalError := by
  have hrefused : (403, badGatewayReply) ∈ refusals
      ((sampleService.perform (.createExperiment "e")).dialogue
        (everyReply (.response 403 badGatewayReply)) ()) := by decide +kernel
  have hhead : (Json.pastGaps (Input.ofText (Text.lossy badGatewayReply))).head? =
      some (some '[') := by decide +kernel
  have hinternal : FailureCode.ofMessage (failureText 403 (Text.lossy badGatewayReply)) =
      .internalError := by decide +kernel
  obtain ⟨operation, hop, hexec⟩ := exec_of_mem_refusals hrefused
  refine ⟨hrefused, ?_, operation, _, hexec, (ofMessage_tracking hop 403 _).trans hinternal⟩
  rintro code ⟨es, hes, -⟩
  exact absurd (hhead.symm.trans hes.head?_pastGaps) (by decide)

end GrantProbe
