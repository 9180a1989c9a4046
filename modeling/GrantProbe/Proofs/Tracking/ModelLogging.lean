import GrantProbe.Proofs.Http.Names
import GrantProbe.Proofs.Tracking.Refused
import GrantProbe.Proofs.Tracking.Sending

/-!
# How a model is logged and read back

A model is logged by four requests, each of which needs the one before: its run is looked up, the model is
announced, its bytes are stored at the root that was answered, and it is declared ready. It is loaded by
two: the root is looked up under the id, and the bytes are fetched from where they were stored. The id
stands in the address as it is, so a server reads another id in it if the text of the id is not literal.

* `Service.FindsRun`, `Service.Announces`, `Service.Stores`, `Service.Declares`: the stages;
* `Service.LogsModel`, `Service.LoadsModel`, `Service.MovesOfRun`: how a model is logged and loaded, and an
  artifact of a run sent and fetched; `logModel_goes`, `loadModel_goes`, `logArtifact_goes`,
  `downloadArtifact_goes`: every run is one of these;
* `Service.Moves.url?_eq`: what is stored is fetched from the same address;
  `Service.Fetches.names?_eq_iff`: when a model is asked for by its id;
* `models_are_logged_in_stages`: the whole.
-/

namespace GrantProbe

open Program (Handler)
open Http (Method Url IsBase isPlain isLiteral namesIn)
open Json (Reader)

namespace Service

/-! ## Stages -/

section
variable (s : Service)

/-- **A run is looked up.** -/
def FindsRun (runId : String) : List (Exchange wire) → Except Error RunInfo → Prop :=
  s.Fetches "get_run" .get "runs/get" [("run_id", runId)] .none Answers.run

/-- **A model is announced,** as one of a run. -/
def Announces (runId : String) (run : RunInfo) :
    List (Exchange wire) → Except Error Answers.LoggedModel → Prop :=
  s.Fetches "log_model" .post "logged-models" [] (.document (.object
    [("experiment_id", .text run.experimentId), ("name", .text loggedModelName),
      ("source_run_id", .text runId)])) Answers.loggedModel

/-- **The bytes of a model are stored** at its root. -/
def Stores (model : LinearModel) (root : String) :
    List (Exchange wire) → Except Error (Nat × Bytes) → Prop :=
  s.Moves "log_model" .put root modelFile (.bytes (utf8Bytes model.stored))

/-- **A model is declared ready.** -/
def Declares (id : String) : List (Exchange wire) → Except Error Answers.LoggedModel → Prop :=
  s.Fetches "log_model" .patch (loggedModelPath id) [] (.document (.object
    [("model_id", .text id), ("status", .text "LOGGED_MODEL_READY")])) Answers.loggedModel

/-- **A logged model is looked up.** -/
def FindsModel (id : String) : List (Exchange wire) → Except Error Answers.LoggedModel → Prop :=
  s.Fetches "get_logged_model" .get (loggedModelPath id) [] .none Answers.loggedModel

end

/-- **How a model is logged:** up to the first stage that fails, or through all of them, with the id that
was answered when it was announced. -/
inductive LogsModel (s : Service) (runId : String) (model : LinearModel) :
    List (Exchange wire) → Except Error String → Prop
  | noRun {D : List (Exchange wire)} {e : Error} (hrun : s.FindsRun runId D (.error e)) :
    LogsModel s runId model D (.error e)
  | notAnnounced {D E : List (Exchange wire)} {run : RunInfo} {e : Error}
    (hrun : s.FindsRun runId D (.ok run)) (hannounced : s.Announces runId run E (.error e)) :
    LogsModel s runId model (D ++ E) (.error e)
  | notStored {D E F : List (Exchange wire)} {run : RunInfo} {created : Answers.LoggedModel} {e : Error}
    (hrun : s.FindsRun runId D (.ok run)) (hannounced : s.Announces runId run E (.ok created))
    (hstored : s.Stores model created.root F (.error e)) :
    LogsModel s runId model (D ++ (E ++ F)) (.error e)
  | notDeclared {D E F G : List (Exchange wire)} {run : RunInfo} {created : Answers.LoggedModel}
    {reply : Nat × Bytes} {e : Error}
    (hrun : s.FindsRun runId D (.ok run)) (hannounced : s.Announces runId run E (.ok created))
    (hstored : s.Stores model created.root F (.ok reply))
    (hdeclared : s.Declares created.id G (.error e)) :
    LogsModel s runId model (D ++ (E ++ (F ++ G))) (.error e)
  | logged {D E F G : List (Exchange wire)} {run : RunInfo} {created final : Answers.LoggedModel}
    {reply : Nat × Bytes}
    (hrun : s.FindsRun runId D (.ok run)) (hannounced : s.Announces runId run E (.ok created))
    (hstored : s.Stores model created.root F (.ok reply))
    (hdeclared : s.Declares created.id G (.ok final)) :
    LogsModel s runId model (D ++ (E ++ (F ++ G))) (.ok (modelScheme ++ created.id))

/-- **How a model is loaded** by its id: its root is looked up, and its bytes are fetched and read. -/
inductive LoadsModel (s : Service) (id : String) :
    List (Exchange wire) → Except Error LinearModel → Prop
  | notFound {D : List (Exchange wire)} {e : Error} (hfound : s.FindsModel id D (.error e)) :
    LoadsModel s id D (.error e)
  | notFetched {D E : List (Exchange wire)} {found : Answers.LoggedModel} {e : Error}
    (hfound : s.FindsModel id D (.ok found))
    (hfetched : s.Moves "load_model" .get found.root modelFile .none E (.error e)) :
    LoadsModel s id (D ++ E) (.error e)
  | fetched {D E : List (Exchange wire)} {found : Answers.LoggedModel} {status : Nat} {body : Bytes}
    (hfound : s.FindsModel id D (.ok found))
    (hfetched : s.Moves "load_model" .get found.root modelFile .none E (.ok (status, body))) :
    LoadsModel s id (D ++ E) (LinearModel.load body)

/-- **How the root of a run is found.** -/
inductive FindsRoot (s : Service) (operation runId : String) :
    List (Exchange wire) → Except Error String → Prop
  | noRun {D : List (Exchange wire)} {e : Error} (hrun : s.FindsRun runId D (.error e)) :
    FindsRoot s operation runId D (.error e)
  | noRoot {D : List (Exchange wire)} {run : RunInfo} (hrun : s.FindsRun runId D (.ok run))
    (hroot : run.artifactUri = none) : FindsRoot s operation runId D
      (.error (.tracking operation 200 ("run " ++ runId ++ " has no artifact root")))
  | found {D : List (Exchange wire)} {run : RunInfo} {uri : String}
    (hrun : s.FindsRun runId D (.ok run)) (hroot : run.artifactUri = some uri) :
    FindsRoot s operation runId D (.ok uri)

/-- **How an artifact of a run is sent or fetched:** below the root of the run, once that is found. -/
inductive MovesOfRun (s : Service) (operation runId : String) (method : Method) (name : String)
    (content : Content) : List (Exchange wire) → Except Error (Nat × Bytes) → Prop
  | noRoot {D : List (Exchange wire)} {e : Error} (hroot : s.FindsRoot operation runId D (.error e)) :
    MovesOfRun s operation runId method name content D (.error e)
  | moved {D E : List (Exchange wire)} {uri : String} {r : Except Error (Nat × Bytes)}
    (hroot : s.FindsRoot operation runId D (.ok uri))
    (hmoved : s.Moves operation method uri name content E r) :
    MovesOfRun s operation runId method name content (D ++ E) r

/-! ## Every run goes so -/

section
variable {σ : Type} (s : Service) (h : Handler wire σ) (w : σ)

theorem logModel_goes (runId : String) (model : LinearModel) : ∃ D r v,
    (s.logModel runId model).Talks h w D (outcomeOf r) v ∧ s.LogsModel runId model D r := by
  unfold logModel
  obtain ⟨D, run, v₁, htalks₁, hrun⟩ :=
    s.call_goes h w "get_run" .get "runs/get" [("run_id", runId)] .none Answers.run
  rcases run with e | run
  · exact ⟨D, .error e, v₁, htalks₁.bind_error _, .noRun hrun⟩
  obtain ⟨E, created, v₂, htalks₂, hannounced⟩ := s.call_goes h v₁ "log_model" .post "logged-models" []
    (.document (.object [("experiment_id", .text run.experimentId), ("name", .text loggedModelName),
      ("source_run_id", .text runId)])) Answers.loggedModel
  rcases created with e | created
  · exact ⟨D ++ E, .error e, v₂, htalks₁.bind_ok (htalks₂.bind_error _), .notAnnounced hrun hannounced⟩
  obtain ⟨F, reply, v₃, htalks₃, hstored⟩ :=
    s.upload_goes h v₂ "log_model" created.root modelFile (utf8Bytes model.stored)
  rcases reply with e | reply
  · exact ⟨D ++ (E ++ F), .error e, v₃, htalks₁.bind_ok (htalks₂.bind_ok (htalks₃.bind_error _)),
      .notStored hrun hannounced hstored⟩
  obtain ⟨G, final, v₄, htalks₄, hdeclared⟩ := s.call_goes h v₃ "log_model" .patch
    (loggedModelPath created.id) [] (.document (.object [("model_id", .text created.id),
      ("status", .text "LOGGED_MODEL_READY")])) Answers.loggedModel
  rcases final with e | final
  · exact ⟨D ++ (E ++ (F ++ G)), .error e, v₄,
      htalks₁.bind_ok (htalks₂.bind_ok (htalks₃.bind_ok (htalks₄.bind_error _))),
      .notDeclared hrun hannounced hstored hdeclared⟩
  · exact ⟨D ++ (E ++ (F ++ G)), .ok (modelScheme ++ created.id), v₄,
      htalks₁.bind_ok (htalks₂.bind_ok (htalks₃.bind_ok (htalks₄.map fun _ => _))),
      .logged hrun hannounced hstored hdeclared⟩

/-- **The URI of a logged model** is its scheme with an id, which is not empty and has no slash. -/
theorem modelId_eq_ok_iff {uri id : String} :
    modelId uri = .ok id ↔ uri = modelScheme ++ id ∧ id ≠ "" ∧ '/' ∉ id.toList := by
  unfold modelId
  constructor
  · intro hok
    split at hok
    · next found hfound =>
      split_ifs at hok with hbad
      obtain rfl := Except.ok.inj hok
      simp only [Bool.or_eq_true, String.isEmpty_iff, List.contains_iff_mem, not_or] at hbad
      exact ⟨Text.stripStart?_eq_some_iff.mp hfound, hbad⟩
    · cases hok
  · rintro ⟨huri, hne, hslash⟩
    rw [Text.stripStart?_eq_some_iff.mpr huri]
    have hgood : ¬(id.isEmpty || id.toList.contains '/') = true := by
      simp only [Bool.or_eq_true, String.isEmpty_iff, List.contains_iff_mem, not_or]
      exact ⟨hne, hslash⟩
    exact if_neg hgood

theorem loadModel_goes {uri id : String} (hid : modelId uri = .ok id) : ∃ D r v,
    (s.loadModel uri).Talks h w D (outcomeOf r) v ∧ s.LoadsModel id D r := by
  unfold loadModel
  rw [hid]
  obtain ⟨D, found, v₁, htalks₁, hfound⟩ :=
    s.call_goes h w "get_logged_model" .get (loggedModelPath id) [] .none Answers.loggedModel
  rcases found with e | found
  · exact ⟨D, .error e, v₁, (Task.talks_pure id).bind_ok (htalks₁.bind_error _), .notFound hfound⟩
  obtain ⟨E, reply, v₂, htalks₂, hfetched⟩ := s.download_goes h v₁ "load_model" found.root modelFile
  rcases reply with e | ⟨status, body⟩
  · exact ⟨D ++ E, .error e, v₂,
      (Task.talks_pure id).bind_ok (htalks₁.bind_ok (htalks₂.bind_error _)), .notFetched hfound hfetched⟩
  · exact ⟨D ++ E, LinearModel.load body, v₂,
      (Task.talks_pure id).bind_ok (htalks₁.bind_ok (htalks₂.check LinearModel.load)),
      .fetched hfound hfetched⟩

theorem loadModel_refuses {uri : String}
    (hno : ¬∃ id, uri = modelScheme ++ id ∧ id ≠ "" ∧ '/' ∉ id.toList) :
    ∃ e, (s.loadModel uri).Talks h w [] (.error (.error e)) w := by
  unfold loadModel
  rcases hid : modelId uri with e | id
  · exact ⟨e, (Task.talks_fail e).bind_error _⟩
  · exact absurd ⟨id, modelId_eq_ok_iff.mp hid⟩ hno

theorem artifactRootOf_goes (operation runId : String) : ∃ D r v,
    (s.artifactRootOf operation runId).Talks h w D (outcomeOf r) v ∧
      s.FindsRoot operation runId D r := by
  unfold artifactRootOf
  obtain ⟨D, run, v, htalks, hrun⟩ :=
    s.call_goes h w "get_run" .get "runs/get" [("run_id", runId)] .none Answers.run
  rcases run with e | run
  · exact ⟨D, .error e, v, htalks.bind_error _, .noRun hrun⟩
  rcases hroot : run.artifactUri with _ | uri
  · refine ⟨D, _, v, htalks.bind_silent ?_, .noRoot hrun hroot⟩
    rw [hroot]
    exact Task.talks_fail _
  · refine ⟨D, _, v, htalks.bind_silent ?_, .found hrun hroot⟩
    rw [hroot]
    exact Task.talks_pure uri

theorem logArtifact_goes (runId : String) (artifact : Artifact) : ∃ D r v,
    (s.perform (.logArtifact runId artifact)).Talks h w D (outcomeOf (r.map fun _ => ())) v ∧
      s.MovesOfRun "log_artifact" runId .put artifact.name (.bytes artifact.content) D r := by
  obtain ⟨D, root, v₁, htalks₁, hroot⟩ := s.artifactRootOf_goes h w "log_artifact" runId
  rcases root with e | uri
  · exact ⟨D, .error e, v₁, htalks₁.bind_error _, .noRoot hroot⟩
  · obtain ⟨E, r, v₂, htalks₂, hmoved⟩ :=
      s.upload_goes h v₁ "log_artifact" uri artifact.name artifact.content
    exact ⟨D ++ E, r, v₂, htalks₁.bind_ok htalks₂, .moved hroot hmoved⟩

theorem downloadArtifact_goes (runId path : String) : ∃ D r v,
    (s.perform (.downloadArtifact runId path)).Talks h w D (outcomeOf (r.map (·.2))) v ∧
      s.MovesOfRun "download_artifact" runId .get path .none D r := by
  obtain ⟨D, root, v₁, htalks₁, hroot⟩ := s.artifactRootOf_goes h w "download_artifact" runId
  rcases root with e | uri
  · exact ⟨D, .error e, v₁, htalks₁.bind_error _, .noRoot hroot⟩
  · obtain ⟨E, r, v₂, htalks₂, hmoved⟩ := s.download_goes h v₁ "download_artifact" uri path
    exact ⟨D ++ E, r, v₂, htalks₁.bind_ok htalks₂, .moved hroot hmoved⟩

end

/-! ## Stages in order -/

section
variable {α : Type} {s : Service} {operation path uri name runId : String} {method : Method}
  {query : List (String × String)} {content : Content} {reader : Reader α} {D : List (Exchange wire)}

/-- The methods of the requests of a dialogue. -/
def methodsOf (D : List (Exchange wire)) : List (Option Method) := D.map (·.request.method?)

theorem methodsOf_append (D E : List (Exchange wire)) :
    methodsOf (D ++ E) = methodsOf D ++ methodsOf E := List.map_append

theorem Fetches.methodsOf_eq {a : α}
    (h : s.Fetches operation method path query content reader D (.ok a)) :
    methodsOf D = [some method] := by
  obtain ⟨q, hsends, hq⟩ := h
  rcases hsends.methods with ⟨-, e, rfl⟩ | hone
  · cases hq
  · exact hone

theorem Fetches.methodsOf_prefix {r : Except Error α}
    (h : s.Fetches operation method path query content reader D r) :
    methodsOf D <+: [some method] := by
  obtain ⟨q, hsends, -⟩ := h
  rcases hsends.methods with ⟨hnone, -⟩ | hone
  · rw [methodsOf, hnone]
    exact List.nil_prefix
  · rw [methodsOf, hone]

theorem Moves.methodsOf_eq {x : Nat × Bytes} (h : s.Moves operation method uri name content D (.ok x)) :
    methodsOf D = [some method] := by
  cases h with
  | served hroot hsends =>
    rcases hsends.methods with ⟨-, e, he⟩ | hone
    · cases he
    · exact hone

theorem Moves.methodsOf_prefix {r : Except Error (Nat × Bytes)}
    (h : s.Moves operation method uri name content D r) : methodsOf D <+: [some method] := by
  cases h with
  | refused hroot => exact List.nil_prefix
  | served hroot hsends =>
    rcases hsends.methods with ⟨hnone, -⟩ | hone
    · rw [methodsOf, hnone]
      exact List.nil_prefix
    · rw [methodsOf, hone]

/-- The methods of the stages of logging a model. -/
def loggingMethods : List (Option Method) := [some .get, some .post, some .put, some .patch]

/-- **The stages are gone through in order,** each of them once, and only the whole of them succeeds. -/
theorem LogsModel.methodsOf_prefix {model : LinearModel} {r : Except Error String}
    (h : s.LogsModel runId model D r) :
    methodsOf D <+: loggingMethods ∧ ∀ uri, r = .ok uri → methodsOf D = loggingMethods := by
  cases h with
  | noRun hrun => exact ⟨hrun.methodsOf_prefix.trans ⟨_, rfl⟩, nofun⟩
  | notAnnounced hrun hannounced =>
    rw [methodsOf_append, hrun.methodsOf_eq]
    refine ⟨((List.prefix_append_right_inj [some .get]).mpr hannounced.methodsOf_prefix).trans ⟨_, rfl⟩,
      nofun⟩
  | notStored hrun hannounced hstored =>
    rw [methodsOf_append, methodsOf_append, hrun.methodsOf_eq, hannounced.methodsOf_eq]
    exact ⟨((List.prefix_append_right_inj [some .get, some .post]).mpr
      hstored.methodsOf_prefix).trans ⟨_, rfl⟩, nofun⟩
  | notDeclared hrun hannounced hstored hdeclared =>
    rw [methodsOf_append, methodsOf_append, methodsOf_append, hrun.methodsOf_eq,
      hannounced.methodsOf_eq, hstored.methodsOf_eq]
    exact ⟨(List.prefix_append_right_inj [some .get, some .post, some .put]).mpr
      hdeclared.methodsOf_prefix, nofun⟩
  | logged hrun hannounced hstored hdeclared =>
    rw [methodsOf_append, methodsOf_append, methodsOf_append, hrun.methodsOf_eq,
      hannounced.methodsOf_eq, hstored.methodsOf_eq, hdeclared.methodsOf_eq]
    exact ⟨List.prefix_refl _, fun _ _ => rfl⟩

end

/-! ## Where the requests go -/

/-- **What is stored is fetched from the same address,** by clients of one endpoint, whatever form the
root has. -/
theorem Moves.url?_eq {s s' : Service} {operation operation' uri uri' name : String}
    {method method' : Method} {content content' : Content} {D D' : List (Exchange wire)}
    {r r' : Except Error (Nat × Bytes)} (hend : s'.endpoint = s.endpoint)
    (hroot : proxiedRoot uri' = proxiedRoot uri) (h : s.Moves operation method uri name content D r)
    (h' : s'.Moves operation' method' uri' name content' D' r') {x y : Exchange wire} (hx : x ∈ D)
    (hy : y ∈ D') : x.request.url? = y.request.url? := by
  cases h with
  | refused => exact absurd hx List.not_mem_nil
  | served hserved hsends =>
    cases h' with
    | refused => exact absurd hy List.not_mem_nil
    | served hserved' hsends' =>
      obtain rfl := Except.ok.inj (hserved.symm.trans (hroot.symm.trans hserved'))
      rw [hend] at hsends'
      exact hsends.url?_eq hsends' hx hy

/-- The path of the logged models. -/
def modelsPath : String := apiPath ++ "/logged-models"

theorem apiAddress_loggedModelPath (base id : String) :
    apiAddress base (loggedModelPath id) = base ++ "/" ++ modelsPath ++ "/" ++ id := by
  have hslashes : "/logged-models" ++ "/" = "/" ++ "logged-models/" := by decide
  have hbehind : "/logged-models" ++ ("/" ++ id) = "/" ++ ("logged-models/" ++ id) := by
    rw [← String.append_assoc, ← String.append_assoc, hslashes]
  simp only [apiAddress, loggedModelPath, modelsPath, String.append_assoc]
  rw [hbehind]

/-- **A model is asked for by its id** exactly if the id is literal. -/
theorem Fetches.names?_eq_iff {α : Type} {s : Service} {u : Url} (hbase : IsBase s.endpoint.baseUrl u)
    {operation id : String} {method : Method} {content : Content} {reader : Reader α}
    {D : List (Exchange wire)} {r : Except Error α} (hslash : '/' ∉ id.toList)
    (h : s.Fetches operation method (loggedModelPath id) [] content reader D r) {x : Exchange wire}
    (hx : x ∈ D) :
    x.request.url?.map Url.names = some (u.placeNames ++ namesIn modelsPath ++ [utf8Bytes id]) ↔
      isLiteral id.toList = true := by
  obtain ⟨q, hsends, -⟩ := h
  obtain ⟨v, hv, hurl, -⟩ := hsends.url?_of_mem hx
  obtain ⟨v', hv', -, -, hnames, -⟩ := hbase.exists_read (x := modelsPath) (by decide +kernel) id
  rw [apiAddress_loggedModelPath, hv'] at hv
  obtain rfl := Option.some.inj hv
  have hone : namesIn id = [utf8Bytes id] := by
    rw [namesIn, Text.pieces, Text.splitAtEach_of_not_mem hslash, List.map_singleton,
      List.map_singleton, String.ofList_toList]
  rw [hone] at hnames
  rw [hurl, Option.map_some, Option.some.injEq, ← hnames]
  rfl

theorem proxiedRoot_refuses_iff (uri : String) :
    (∃ e, proxiedRoot uri = .error e) ↔ Text.startsWith proxiedScheme uri = false := by
  unfold proxiedRoot
  rcases hstrip : Text.stripStart? proxiedScheme uri with _ | rest
  · refine iff_of_true ⟨_, rfl⟩ (Bool.eq_false_iff.mpr fun hstarts => ?_)
    have hprefix : proxiedScheme.toList.isPrefixOf uri.toList = true := hstarts
    unfold Text.stripStart? Text.dropStart? at hstrip
    rw [if_pos hprefix] at hstrip
    cases hstrip
  · have hstarts : Text.startsWith proxiedScheme uri = true := by
      rw [Text.stripStart?_eq_some_iff.mp hstrip]
      exact Text.startsWith_append ..
    rw [hstarts]
    refine iff_of_false ?_ Bool.true_eq_false.mp
    rintro ⟨e, he⟩
    simp only at he
    split at he <;> cases he

/-! ## The whole -/

/-- **Models are logged in stages and read back,** whatever the server answers.

* Logging goes through its stages in order, up to the first that fails; it succeeds after all four, with
  the id that was answered when the model was announced. Nothing is stored at a root of another scheme.
* A URI with an id is loaded by looking that id up, and then fetching; any other URI is not asked for.
* Artifacts of a run are sent and fetched below its root. What is sent to a root under a name is fetched
  from the same address by any client of the endpoint.
* Behind a base, a model is asked for, and declared ready, by its id exactly if the id is literal. -/
theorem models_are_logged_in_stages (s : Service) :
    (∀ runId model {σ : Type} (h : Handler wire σ) w, ∃ D r v,
      (s.perform (.logModel runId model)).Talks h w D (outcomeOf r) v ∧ s.LogsModel runId model D r) ∧
    (∀ runId model D r, s.LogsModel runId model D r → methodsOf D <+: loggingMethods ∧
      ∀ uri, r = .ok uri → methodsOf D = loggingMethods) ∧
    (∀ uri, (∃ e, proxiedRoot uri = .error e) ↔ Text.startsWith proxiedScheme uri = false) ∧
    (∀ id, id ≠ "" → '/' ∉ id.toList → ∀ {σ : Type} (h : Handler wire σ) w, ∃ D r v,
      (s.perform (.loadModel (modelScheme ++ id))).Talks h w D (outcomeOf r) v ∧ s.LoadsModel id D r) ∧
    (∀ uri, (¬∃ id, uri = modelScheme ++ id ∧ id ≠ "" ∧ '/' ∉ id.toList) →
      ∀ {σ : Type} (h : Handler wire σ) w, ∃ e,
        (s.perform (.loadModel uri)).Talks h w [] (.error (.error e)) w) ∧
    (∀ runId artifact {σ : Type} (h : Handler wire σ) w, ∃ D r v,
      (s.perform (.logArtifact runId artifact)).Talks h w D (outcomeOf (r.map fun _ => ())) v ∧
        s.MovesOfRun "log_artifact" runId .put artifact.name (.bytes artifact.content) D r) ∧
    (∀ runId path {σ : Type} (h : Handler wire σ) w, ∃ D r v,
      (s.perform (.downloadArtifact runId path)).Talks h w D (outcomeOf (r.map (·.2))) v ∧
        s.MovesOfRun "download_artifact" runId .get path .none D r) ∧
    (∀ (s' : Service) operation operation' method method' uri uri' name content content' D D' r r',
      s'.endpoint = s.endpoint → proxiedRoot uri' = proxiedRoot uri →
      s.Moves operation method uri name content D r →
      s'.Moves operation' method' uri' name content' D' r' →
      ∀ x ∈ D, ∀ y ∈ D', x.request.url? = y.request.url?) ∧
    (∀ u, IsBase s.endpoint.baseUrl u → ∀ id, '/' ∉ id.toList →
      (∀ D r, s.FindsModel id D r → ∀ x ∈ D,
        (x.request.url?.map Url.names = some (u.placeNames ++ namesIn modelsPath ++ [utf8Bytes id]) ↔
          isLiteral id.toList = true)) ∧
      ∀ D r, s.Declares id D r → ∀ x ∈ D,
        (x.request.url?.map Url.names = some (u.placeNames ++ namesIn modelsPath ++ [utf8Bytes id]) ↔
          isLiteral id.toList = true)) := by
  refine ⟨fun runId model _ h w => s.logModel_goes h w runId model,
    fun _ _ _ _ hlogs => hlogs.methodsOf_prefix, proxiedRoot_refuses_iff, fun id hne hslash _ h w => ?_,
    fun _ hno _ h w => s.loadModel_refuses h w hno,
    fun runId artifact _ h w => s.logArtifact_goes h w runId artifact,
    fun runId path _ h w => s.downloadArtifact_goes h w runId path, ?_, fun u hbase id hslash => ?_⟩
  · exact s.loadModel_goes h w (modelId_eq_ok_iff.mpr ⟨rfl, hne, hslash⟩)
  · intro s' operation operation' method method' uri uri' name content content' D D' r r' hend hroot hfirst
      hsecond x hx y hy
    exact hfirst.url?_eq hend hroot hsecond hx hy
  · exact ⟨fun D r hfinds x hx => hfinds.names?_eq_iff hbase hslash hx,
      fun D r hdeclares x hx => hdeclares.names?_eq_iff hbase hslash hx⟩

/-- The address of the sample service. -/
def sampleAddress : Url :=
  ⟨"http", some ⟨⟨"", none⟩, some (.name "mlflow"), some 5000⟩, .segments [""], none, none⟩

theorem isBase_sampleAddress : IsBase sampleService.endpoint.baseUrl sampleAddress where
  parse := by decide +kernel
  web := by decide +kernel
  query := rfl
  fragment := rfl

/-- A model with a plain id is asked for by that id. -/
theorem plain_id_is_asked_for : "m-1" ≠ "" ∧ '/' ∉ "m-1".toList ∧
    ∃ D r, sampleService.FindsModel "m-1" D r ∧ D ≠ [] ∧ ∀ x ∈ D, x.request.url?.map Url.names =
      some (sampleAddress.placeNames ++ namesIn modelsPath ++ [utf8Bytes "m-1"]) := by
  have hslash : '/' ∉ "m-1".toList := by decide +kernel
  obtain ⟨-, -, -, hloads, -, -, -, -, hasks⟩ := models_are_logged_in_stages sampleService
  obtain ⟨D, r, v, htalks, hloaded⟩ := hloads "m-1" (by decide) hslash (everyReply (.failed "")) ()
  have hone : methodsOf D = [some .get] := by
    rw [methodsOf, ← htalks.dialogue]
    decide +kernel
  have hnonempty {E : List (Exchange wire)} (hE : methodsOf E = [some .get]) : E ≠ [] := by
    rintro rfl
    cases hE
  have hfound : ∃ D r, sampleService.FindsModel "m-1" D r ∧ D ≠ [] := by
    cases hloaded with
    | notFound hfound => exact ⟨_, _, hfound, hnonempty hone⟩
    | notFetched hfound => exact ⟨_, _, hfound, hnonempty hfound.methodsOf_eq⟩
    | fetched hfound => exact ⟨_, _, hfound, hnonempty hfound.methodsOf_eq⟩
  obtain ⟨D, r, hfinds, hne⟩ := hfound
  refine ⟨by decide, hslash, D, r, hfinds, hne, fun x hx => ?_⟩
  exact ((hasks _ isBase_sampleAddress "m-1" hslash).1 D r hfinds x hx).mpr (by decide +kernel)

/-- **A question mark in an id** ends the address: another model is asked for. -/
theorem question_mark_asks_for_another : "a?b" ≠ "" ∧ '/' ∉ "a?b".toList ∧
    ((sampleService.perform (.loadModel (modelScheme ++ "a?b"))).trace (everyReply (.failed "")) ()).map
      (fun r => r.url?.map Url.names) =
        [some (["api", "2.0", "mlflow", "logged-models", "a"].map utf8Bytes)] ∧
    utf8Bytes "a" ≠ utf8Bytes "a?b" := by
  decide +kernel

end Service

end GrantProbe
