import GrantProbe.Proofs.Http.Names
import GrantProbe.Proofs.Tracking.ModelLogging

/-!
# Where artifacts are addressed

The address of an artifact is put together of the base, the path of the artifacts, the root and the name,
with nothing escaped. A server reads the root and the name in it exactly if their text is literal. A name
that does not climb stays below a plain root, though another artifact may be read in it.

* `artifactText`, `artifactAddress_eq`: the text of an artifact, behind the path of the artifacts;
* `Service.Moves.goes_to`: where an artifact is sent, or fetched from;
* `Service.artifacts_are_read_as_named_iff`: what is read in the address of an artifact.
-/

namespace GrantProbe

open Program (Handler)
open Http (Method Url IsBase isPlain isLiteral climbs namesIn)

/-! ## The text of an artifact -/

/-- A name without the slashes in front. -/
def withoutLeadingSlashes (name : String) : String :=
  String.ofList (name.toList.dropWhile (· == '/'))

/-- **The text of an artifact** below the path of the artifacts. -/
def artifactText (root name : String) : String :=
  if root.isEmpty then withoutLeadingSlashes name else root ++ "/" ++ withoutLeadingSlashes name

theorem artifactAddress_eq (base root name : String) :
    artifactAddress base root name = base ++ "/" ++ artifactsPath ++ "/" ++ artifactText root name := by
  unfold artifactAddress artifactText withoutLeadingSlashes
  split_ifs
  · rfl
  · simp only [String.append_assoc]

theorem withoutLeadingSlashes_eq_of_artifactText {root name name' : String}
    (h : artifactText root name = artifactText root name') :
    withoutLeadingSlashes name = withoutLeadingSlashes name' := by
  unfold artifactText at h
  split_ifs at h
  · exact h
  · refine String.toList_injective ?_
    have hlist := congrArg String.toList h
    rw [toList_append_slash, toList_append_slash] at hlist
    exact List.tail_eq_of_cons_eq (List.append_cancel_left hlist)

/-! ## Where an artifact goes -/

namespace Service

/-- **An artifact goes to the address of its name** below its root, if the service serves that. -/
theorem Moves.goes_to {s : Service} {operation uri name : String} {method : Method} {content : Content}
    {D : List (Exchange wire)} {r : Except Error (Nat × Bytes)}
    (h : s.Moves operation method uri name content D r) {x : Exchange wire} (hx : x ∈ D) :
    ∃ root v, proxiedRoot uri = .ok root ∧
      Url.parse? (artifactAddress s.endpoint.baseUrl root name) = some v ∧
      x.request.url? = some v.withoutCredentials := by
  cases h with
  | refused => exact absurd hx List.not_mem_nil
  | served hroot hsends =>
    obtain ⟨v, hv, hurl, -⟩ := hsends.url?_of_mem hx
    exact ⟨_, v, hroot, hv, hurl⟩

/-! ## What is read in the address of an artifact -/

/-- **The names of the place** where artifacts with a root are. -/
def placeOf (u : Url) (root : String) : List Bytes :=
  u.placeNames ++ namesIn artifactsPath ++ if root.isEmpty then [] else namesIn root

theorem isPlain_artifactsPath : isPlain artifactsPath.toList = true := by decide +kernel

theorem placeOf_prefix {base : String} {u v : Url} (hbase : IsBase base u) {root name : String}
    (hv : Url.parse? (artifactAddress base root name) = some v) (hroot : isPlain root.toList = true)
    (hclimbs : climbs (withoutLeadingSlashes name).toList = false) : placeOf u root <+: v.names := by
  unfold placeOf
  by_cases hempty : root.isEmpty = true
  · obtain ⟨v', hv', -, -, -, hbelow⟩ :=
      hbase.exists_read isPlain_artifactsPath (withoutLeadingSlashes name)
    have haddress : artifactAddress base root name =
        base ++ "/" ++ artifactsPath ++ "/" ++ withoutLeadingSlashes name := by
      rw [artifactAddress_eq, artifactText, if_pos hempty]
    rw [haddress, hv'] at hv
    obtain rfl := Option.some.inj hv
    rw [if_pos hempty, List.append_nil]
    exact hbelow hclimbs
  · obtain ⟨v', hv', -, -, -, hbelow⟩ := hbase.exists_read
      (Http.isPlain_append isPlain_artifactsPath hroot) (withoutLeadingSlashes name)
    have haddress : artifactAddress base root name =
        base ++ "/" ++ (artifactsPath ++ "/" ++ root) ++ "/" ++ withoutLeadingSlashes name := by
      rw [artifactAddress_eq, artifactText, if_neg hempty]
      simp only [String.append_assoc]
    rw [haddress, hv'] at hv
    obtain rfl := Option.some.inj hv
    rw [if_neg hempty, List.append_assoc, ← Http.namesIn_append]
    exact hbelow hclimbs

/-- **What is read in the address of an artifact.** Artifacts and models go to the address of their name
below the root that was answered for them, if the service serves that root. Behind a base, the address of
an artifact is one of the same server, and

* its root and its name are read in it exactly if their text is literal;
* it is below its root if the root is plain and the name does not climb;
* of literal texts, no two are read in one address: their names are the same up to slashes in front. -/
theorem artifacts_are_read_as_named_iff (s : Service) {u : Url} (hbase : IsBase s.endpoint.baseUrl u) :
    (∀ runId artifact {σ : Type} (h : Handler wire σ) w, ∃ D r v,
      (s.perform (.logArtifact runId artifact)).Talks h w D (outcomeOf (r.map fun _ => ())) v ∧
        s.MovesOfRun "log_artifact" runId .put artifact.name (.bytes artifact.content) D r) ∧
    (∀ runId path {σ : Type} (h : Handler wire σ) w, ∃ D r v,
      (s.perform (.downloadArtifact runId path)).Talks h w D (outcomeOf (r.map (·.2))) v ∧
        s.MovesOfRun "download_artifact" runId .get path .none D r) ∧
    (∀ runId model {σ : Type} (h : Handler wire σ) w, ∃ D r v,
      (s.perform (.logModel runId model)).Talks h w D (outcomeOf r) v ∧ s.LogsModel runId model D r) ∧
    (∀ operation method uri name content D r, s.Moves operation method uri name content D r →
      ∀ x ∈ D, ∃ root v, proxiedRoot uri = .ok root ∧
        Url.parse? (artifactAddress s.endpoint.baseUrl root name) = some v ∧
        x.request.url? = some v.withoutCredentials) ∧
    ∀ uri root name, proxiedRoot uri = .ok root →
      ∃ v, Url.parse? (artifactAddress s.endpoint.baseUrl root name) = some v ∧
        v.scheme = u.scheme ∧ v.authority = u.authority ∧
        (v.names = u.placeNames ++ namesIn artifactsPath ++ namesIn (artifactText root name) ↔
          isLiteral (artifactText root name).toList = true) ∧
        (isPlain root.toList = true → climbs (withoutLeadingSlashes name).toList = false →
          placeOf u root <+: v.names) ∧
        ∀ name' v', isLiteral (artifactText root name).toList = true →
          isLiteral (artifactText root name').toList = true →
          Url.parse? (artifactAddress s.endpoint.baseUrl root name') = some v' → v'.names = v.names →
          withoutLeadingSlashes name' = withoutLeadingSlashes name := by
  refine ⟨fun runId artifact _ h w => s.logArtifact_goes h w runId artifact,
    fun runId path _ h w => s.downloadArtifact_goes h w runId path,
    fun runId model _ h w => s.logModel_goes h w runId model,
    fun _ _ _ _ _ _ _ hmoves x hx => hmoves.goes_to hx, fun uri root name _ => ?_⟩
  obtain ⟨v, hv, hscheme, hauthority, hnames, -⟩ :=
    hbase.exists_read isPlain_artifactsPath (artifactText root name)
  rw [← artifactAddress_eq] at hv
  refine ⟨v, hv, hscheme, hauthority, hnames, placeOf_prefix hbase hv, ?_⟩
  intro name' v' hliteral hliteral' hv' hsame
  obtain ⟨v'', hv'', -, -, hnames', -⟩ :=
    hbase.exists_read isPlain_artifactsPath (artifactText root name')
  rw [← artifactAddress_eq, hv'] at hv''
  obtain rfl := Option.some.inj hv''
  rw [hnames.mpr hliteral, hnames'.mpr hliteral'] at hsame
  exact withoutLeadingSlashes_eq_of_artifactText
    (Http.namesIn_injective (List.append_cancel_left hsame))

/-- A note is read below the root of its run. -/
theorem note_is_read_as_named : IsBase sampleService.endpoint.baseUrl sampleAddress ∧
    ∃ v, Url.parse? (artifactAddress sampleService.endpoint.baseUrl "7/r1/artifacts" "notes.txt") =
        some v ∧
      v.names = ["api", "2.0", "mlflow-artifacts", "artifacts", "7", "r1", "artifacts",
        "notes.txt"].map utf8Bytes := by
  obtain ⟨-, -, -, -, haddress⟩ :=
    artifacts_are_read_as_named_iff sampleService isBase_sampleAddress
  obtain ⟨v, hv, -, -, hnames, -⟩ :=
    haddress "mlflow-artifacts:/7/r1/artifacts" "7/r1/artifacts" "notes.txt" (by decide +kernel)
  refine ⟨isBase_sampleAddress, v, hv, ?_⟩
  rw [hnames.mpr (by decide +kernel)]
  decide +kernel

/-- A reply with a run and the root of its artifacts. -/
def runReply : Http.Reply := .response 200 (utf8Bytes ("\x7b\"run\":\x7b\"info\":\x7b\"run_id\":\"r1\"," ++
  "\"experiment_id\":\"7\",\"artifact_uri\":\"mlflow-artifacts:/7/r1/artifacts\"\x7d\x7d\x7d"))

/-- What a server reads in the addresses of a download, when it gives every request the same run. -/
def readInDownload (name : String) : List (Option (List Bytes)) :=
  ((sampleService.perform (.downloadArtifact "r1" name)).trace (everyReply runReply) ()).map
    (·.url?.map Url.names)

/-- **Names that leave their root, or meet in one address:** dots lead to the artifacts of another run,
and a question mark ends the path. -/
theorem dots_leave_the_root :
    proxiedRoot "mlflow-artifacts:/7/r1/artifacts" = .ok "7/r1/artifacts" ∧
    readInDownload "../../r2/artifacts/notes.txt" =
      [some (["api", "2.0", "mlflow", "runs", "get"].map utf8Bytes),
        some (["api", "2.0", "mlflow-artifacts", "artifacts", "7", "r2", "artifacts",
          "notes.txt"].map utf8Bytes)] ∧
    (placeOf sampleAddress "7/r1/artifacts").isPrefixOf
      (["api", "2.0", "mlflow-artifacts", "artifacts", "7", "r2", "artifacts",
        "notes.txt"].map utf8Bytes) = false ∧
    readInDownload "a?b" = readInDownload "a" ∧
    withoutLeadingSlashes "a?b" ≠ withoutLeadingSlashes "a" := by
  decide +kernel

end Service

end GrantProbe
