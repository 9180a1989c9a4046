import GrantProbe.Proofs.Tracking.Heading
import GrantProbe.Wire.Probe
import Mathlib.Data.List.TakeWhile

/-!
# Connecting under a valid configuration

A run begins with a configuration that has been validated. Connecting then prepares the cluster, which
makes requests, and only after that looks at the address of the tracking service. The two look at it
differently: validation asks for a character that is not blank, and an address has to have one that is no
slash.

* `Task.failsWith_ofRetry`: a retry fails with an error of one of its attempts;
* `Config.prepareCluster`: what connecting does before it looks at the address, with `connect_eq`;
* `valid_config_is_usable_iff`: a valid configuration is usable exactly unless its address consists of
  slashes; then connecting fails once every workspace has been made sure of, as in
  `slash_is_valid_but_unusable`.
-/

namespace GrantProbe

open Program (Handler)

/-! ## Errors of a retry -/

section
variable {S : Signature} {α δ : Type} {P : Error → Prop}

theorem run_bind_eq_ok {ε β : Type} {x : ExceptT ε (Program S) α} {k : α → ExceptT ε (Program S) β}
    {σ : Type} {h : Handler S σ} {w : σ} {b : β} (hok : ((x >>= k).run.run h w).1 = .ok b) :
    ∃ a w', x.run.run h w = (.ok a, w') ∧ ((k a).run.run h w').1 = .ok b := by
  have hrun : (x >>= k).run = Program.bind x.run (ExceptT.bindCont k) := rfl
  rw [hrun, Program.run_bind] at hok
  rcases hx : x.run.run h w with ⟨e | a, w'⟩ <;> rw [hx] at hok
  · cases hok
  · exact ⟨a, w', rfl, hok⟩

theorem run_retryable {t : Task S α} (ht : t.FailsWith P) {σ : Type} (h : Handler S σ) (w : σ)
    {e : Error} (hfail : (t.retryable.run.run h w).1 = .ok (.error e)) : P e := by
  have hrun : t.retryable.run = Program.bind t.run _ := rfl
  rw [hrun, Program.run_bind] at hfail
  rcases hr : t.exec h w with ⟨(e' | x) | a, w'⟩ <;> rw [Task.exec] at hr <;> rw [hr] at hfail <;>
    cases hfail
  exact ht h w w' e hr

/-- A retry whose last result is an error has it from an attempt. The induction is on the attempts that
are left. -/
theorem run_retryUpTo {t : Task S α} (ht : t.FailsWith P) (pace : Pace S δ) (more : Nat) (d : δ)
    {σ : Type} (h : Handler S σ) (w : σ) {e : Error}
    (hfail : ((retryUpTo pace t.retryable more d).run.run h w).1 = .ok (.error e)) : P e := by
  induction more generalizing d w with
  | zero => exact run_retryable ht h w hfail
  | succ more ih =>
    unfold retryUpTo at hfail
    obtain ⟨r, w₁, -, hafter⟩ := run_bind_eq_ok hfail
    rcases r with e' | a
    · obtain ⟨_, w₂, -, hwaited⟩ := run_bind_eq_ok hafter
      obtain ⟨d', w₃, -, hmore⟩ := run_bind_eq_ok hwaited
      exact ih d' w₃ hmore
    · cases hafter

/-- **A retry fails with an error of one of its attempts.** -/
theorem Task.failsWith_ofRetry {t : Task S α} (ht : t.FailsWith P) (pace : Pace S δ) (more : Nat)
    (d : δ) : (Task.ofRetry (retryUpTo pace t.retryable more d)).FailsWith P := by
  intro σ h w w' e hfail
  have hrun : (Task.ofRetry (retryUpTo pace t.retryable more d)).run =
      Program.bind (retryUpTo pace t.retryable more d).run _ := rfl
  rw [Task.exec, hrun, Program.run_bind] at hfail
  rcases hr : (retryUpTo pace t.retryable more d).run.run h w with ⟨p | e' | a, w₁⟩ <;>
    rw [hr] at hfail <;> cases hfail
  exact run_retryUpTo ht pace more d h w (congrArg Prod.fst hr)

end

/-! ## Preparing the cluster -/

/-- The error is that of a configuration: a value that is unusable. -/
def Error.IsInvalid : Error → Prop
  | .invalid .. => True
  | _ => False

/-- The request that makes sure that a workspace exists. -/
def workspaceRequest (name : String) : Except ClusterFailure Http.Request := do
  checkName name
  clusterRequest .patch ("/api/v1/namespaces/" ++ name ++ "?fieldManager=" ++ managedBy.2)
    (workspaceObject name)

theorem ensureWorkspace_eq (name : String) : ensureWorkspace name =
    orFail (exchange (workspaceRequest name) (readReply Reply.workspace)) := rfl

/-- **What connecting does before it looks at the address:** the cluster is connected and has every
workspace. -/
def Config.prepareCluster (c : Config) : Wire Unit := do
  connectCluster c.kubeconfig
  ensureWorkspaces c.workspaces

theorem failsWith_tryConnecting (kubeconfig : Option String) :
    (tryConnecting kubeconfig).FailsWith (¬·.IsInvalid) := by
  unfold tryConnecting
  refine (Task.failsWith_always _).bind fun r => ?_
  rcases r with f | _
  · exact Task.failsWith_fail id
  · exact Task.failsWith_pure _

theorem failsWith_ensureWorkspace (name : String) :
    (ensureWorkspace name).FailsWith (¬·.IsInvalid) := by
  rw [ensureWorkspace_eq]
  unfold orFail
  have hasked : (exchange (workspaceRequest name) (readReply Reply.workspace)).FailsWith
      (¬·.IsInvalid) := by
    unfold exchange
    cases workspaceRequest name with
    | error f => exact Task.failsWith_pure _
    | ok r => exact (Task.failsWith_always _).bind fun _ => Task.failsWith_pure _
  refine hasked.bind fun r => ?_
  rcases r with f | _
  · exact Task.failsWith_fail id
  · exact Task.failsWith_pure _

theorem Config.failsWith_prepareCluster (c : Config) :
    c.prepareCluster.FailsWith (¬·.IsInvalid) := by
  unfold prepareCluster
  refine Task.FailsWith.bind (Task.failsWith_ofRetry (failsWith_tryConnecting _) ..) fun _ => ?_
  induction c.workspaces with
  | nil => exact Task.failsWith_pure _
  | cons name rest ih => exact (failsWith_ensureWorkspace name).bind fun _ => ih

section
variable {σ : Type} {h : Handler wire σ} {w w' : σ}

theorem mem_trace_ensureWorkspace {name : String}
    (hok : (ensureWorkspace name).exec h w = (.ok (), w')) :
    ∃ r, workspaceRequest name = .ok r ∧ WireAsk.cluster r ∈ (ensureWorkspace name).trace h w := by
  rw [ensureWorkspace_eq] at hok ⊢
  unfold exchange at hok ⊢
  cases hr : workspaceRequest name with
  | error f =>
    rw [hr] at hok
    cases hok
  | ok r => exact ⟨r, rfl, List.mem_cons_self⟩

theorem mem_trace_ensureWorkspaces {names : List String}
    (hok : (ensureWorkspaces names).exec h w = (.ok (), w')) :
    ∀ name ∈ names, ∃ r, workspaceRequest name = .ok r ∧
      WireAsk.cluster r ∈ (ensureWorkspaces names).trace h w := by
  induction names generalizing w with
  | nil => exact fun _ hname => absurd hname List.not_mem_nil
  | cons first rest ih =>
    obtain ⟨_, w₁, hfirst, hrest⟩ := Task.exec_bind_eq_ok hok
    have htrace : (ensureWorkspaces (first :: rest)).trace h w =
        (ensureWorkspace first).trace h w ++ (ensureWorkspaces rest).trace h w₁ := by
      rw [ensureWorkspaces, Task.trace_bind, hfirst]
    rw [htrace]
    rintro name (_ | ⟨_, hname⟩)
    · obtain ⟨r, hr, hmem⟩ := mem_trace_ensureWorkspace hfirst
      exact ⟨r, hr, List.mem_append_left _ hmem⟩
    · obtain ⟨r, hr, hmem⟩ := ih hrest name hname
      exact ⟨r, hr, List.mem_append_right _ hmem⟩

/-- **Every workspace has been asked for** in a cluster that is prepared. -/
theorem Config.mem_trace_prepareCluster {c : Config}
    (hok : c.prepareCluster.exec h w = (.ok (), w')) :
    ∀ name ∈ c.workspaces, ∃ r, workspaceRequest name = .ok r ∧
      WireAsk.cluster r ∈ c.prepareCluster.trace h w := by
  obtain ⟨_, w₁, hconnect, hensure⟩ := Task.exec_bind_eq_ok hok
  have htrace : c.prepareCluster.trace h w =
      (connectCluster c.kubeconfig).trace h w ++ (ensureWorkspaces c.workspaces).trace h w₁ := by
    unfold prepareCluster
    rw [Task.trace_bind, hconnect]
  intro name hname
  obtain ⟨r, hr, hmem⟩ := mem_trace_ensureWorkspaces hensure name hname
  exact ⟨r, hr, htrace ▸ List.mem_append_right _ hmem⟩

end

/-! ## The address -/

/-- The text consists of slashes alone, or is empty. -/
def OnlySlashes (s : String) : Prop := ∀ ch ∈ s.toList, ch = '/'

theorem isEmpty_trimSlashes (s : String) : (trimSlashes s).isEmpty = true ↔ OnlySlashes s := by
  have hempty (l : List Char) : (String.ofList l).isEmpty = true ↔ l = [] := by
    rw [String.isEmpty_iff, ← String.toList_eq_nil_iff, String.toList_ofList]
  unfold trimSlashes Text.stripEnd OnlySlashes
  rw [hempty, List.reverse_eq_nil_iff, List.dropWhile_eq_nil_iff]
  simp only [List.mem_reverse, beq_iff_eq]

/-- Without a bundle of certificates, all that counts is whether a character is left. -/
theorem endpoint_of_none (baseUrl : String) : Endpoint.of baseUrl none =
    if (trimSlashes baseUrl).isEmpty then
      .error (.invalidField "tracking_uri" "tracking URI cannot be empty")
    else .ok ⟨trimSlashes baseUrl⟩ := rfl

/-- **An address is usable** exactly if it has a character that is no slash. -/
theorem exists_endpoint_iff (baseUrl : String) :
    (∃ e, Endpoint.of baseUrl none = .ok e) ↔ ¬OnlySlashes baseUrl := by
  rw [endpoint_of_none, ← isEmpty_trimSlashes]
  cases (trimSlashes baseUrl).isEmpty <;> simp

/-! ## Connecting -/

namespace Config

variable {c : Config}

theorem exists_adminToken (h : c.validate = .ok ()) : ∃ token, c.adminToken = some token := by
  cases htoken : c.adminToken with
  | some token => exact ⟨token, rfl⟩
  | none =>
    have hmissing : (c.adminToken.getD "").isEmpty = true := by rw [htoken]; rfl
    unfold validate at h
    rw [if_pos hmissing] at h
    split_ifs at h

/-- **Connecting** under a valid configuration prepares the cluster, and then the address decides. -/
theorem connect_eq {token : String} (hbundle : c.tracking.caBundle = none)
    (hvalid : c.validate = .ok ()) (htoken : c.adminToken = some token) :
    c.connect = c.prepareCluster >>= fun _ =>
      Task.check (Endpoint.of c.tracking.baseUrl none) >>= fun e => pure (c.setting token, e) := by
  unfold connect prepareCluster
  rw [hvalid, hbundle, htoken, bind_assoc]
  rfl

variable {σ : Type} {h : Handler wire σ} {w w' : σ}

theorem exec_connect_error {e : Stop} (hbundle : c.tracking.caBundle = none)
    (hvalid : c.validate = .ok ()) (hfail : c.prepareCluster.exec h w = (.error e, w')) :
    c.connect.exec h w = (.error e, w') := by
  obtain ⟨token, htoken⟩ := exists_adminToken hvalid
  rw [connect_eq hbundle hvalid htoken]
  exact Task.exec_bind_error hfail _

/-- Where the cluster is prepared, an address without a character that is no slash is refused. -/
theorem exec_connect_onlySlashes (hbundle : c.tracking.caBundle = none)
    (hvalid : c.validate = .ok ()) (hok : c.prepareCluster.exec h w = (.ok (), w'))
    (hslashes : OnlySlashes c.tracking.baseUrl) :
    c.connect.exec h w =
      (.error (.error (.invalidField "tracking_uri" "tracking URI cannot be empty")), w') := by
  obtain ⟨token, htoken⟩ := exists_adminToken hvalid
  rw [connect_eq hbundle hvalid htoken, Task.exec_bind_ok hok, endpoint_of_none,
    if_pos ((isEmpty_trimSlashes _).mpr hslashes)]
  rfl

theorem exec_connect_usable (hbundle : c.tracking.caBundle = none) (hvalid : c.validate = .ok ())
    (hok : c.prepareCluster.exec h w = (.ok (), w')) (hslashes : ¬OnlySlashes c.tracking.baseUrl) :
    ∃ r, c.connect.exec h w = (.ok r, w') := by
  obtain ⟨token, htoken⟩ := exists_adminToken hvalid
  obtain ⟨e, he⟩ := (exists_endpoint_iff _).mpr hslashes
  refine ⟨(c.setting token, e), ?_⟩
  rw [connect_eq hbundle hvalid htoken, Task.exec_bind_ok hok, he]
  rfl

theorem trace_connect (hbundle : c.tracking.caBundle = none) (hvalid : c.validate = .ok ())
    (h : Handler wire σ) (w : σ) : c.connect.trace h w = c.prepareCluster.trace h w := by
  obtain ⟨token, htoken⟩ := exists_adminToken hvalid
  rw [connect_eq hbundle hvalid htoken, Task.trace_bind]
  rcases c.prepareCluster.exec h w with ⟨e | _, w'⟩
  · exact List.append_nil _
  · cases Endpoint.of c.tracking.baseUrl none <;> exact List.append_nil _

end Config

/-- **A valid configuration is usable exactly unless its address consists of slashes.** Of a configuration
without a bundle of certificates that has been validated:

* the tracking service takes its address exactly if that has a character that is no slash;
* in no world does connecting find fault with it before the cluster is prepared; it does so exactly if the
  address consists of slashes and the cluster could be prepared, and then each workspace has been asked
  for, so that it exists;
* with any other address, connecting succeeds as soon as the cluster is prepared. -/
theorem valid_config_is_usable_iff {c : Config} (hbundle : c.tracking.caBundle = none)
    (hvalid : c.validate = .ok ()) :
    ((∃ e, Endpoint.of c.tracking.baseUrl none = .ok e) ↔ ¬OnlySlashes c.tracking.baseUrl) ∧
    ∀ {σ : Type} (h : Handler wire σ) (w : σ),
      ((∃ e w', c.connect.exec h w = (.error (.error e), w') ∧ e.IsInvalid) ↔
        OnlySlashes c.tracking.baseUrl ∧ ∃ w', c.prepareCluster.exec h w = (.ok (), w')) ∧
      ∀ w', c.prepareCluster.exec h w = (.ok (), w') →
        (∀ name ∈ c.workspaces, ∃ r, workspaceRequest name = .ok r ∧
          WireAsk.cluster r ∈ c.connect.trace h w) ∧
        (¬OnlySlashes c.tracking.baseUrl → ∃ r, c.connect.exec h w = (.ok r, w')) := by
  refine ⟨exists_endpoint_iff _, fun h w => ⟨⟨?_, ?_⟩, fun w' hok => ⟨?_, ?_⟩⟩⟩
  · rintro ⟨e, w', hfail, hinvalid⟩
    rcases hprepared : c.prepareCluster.exec h w with ⟨e' | _, w₁⟩
    · rw [Config.exec_connect_error hbundle hvalid hprepared] at hfail
      cases hfail
      exact absurd hinvalid (c.failsWith_prepareCluster h w _ e hprepared)
    · refine ⟨?_, w₁, rfl⟩
      by_contra hslashes
      obtain ⟨r, hr⟩ := Config.exec_connect_usable hbundle hvalid hprepared hslashes
      rw [hr] at hfail
      cases hfail
  · rintro ⟨hslashes, w', hok⟩
    exact ⟨_, w', Config.exec_connect_onlySlashes hbundle hvalid hok hslashes, trivial⟩
  · rw [Config.trace_connect hbundle hvalid]
    exact Config.mem_trace_prepareCluster hok
  · exact Config.exec_connect_usable hbundle hvalid hok

/-- A cluster that is connected at once and grants every request. -/
def grantingCluster : Handler wire Unit := fun request _ =>
  match request with
  | .connect _ => (.ok (), ())
  | .cluster _ => (.response 200 (utf8Bytes "\x7b\x7d"), ())
  | .tracking .. => (.failed Http.connectFailure, ())
  | .certificates path => (⟨path, none⟩, ())
  | .sleep _ => ((), ())
  | .suffix => ("", ())
  | .factor => ((1.0 : Float), ())
  | .clock => (.ofMillis 0, ())

/-- The defaults, with a token. -/
def configAt (baseUrl : String) : Config := { Config.new baseUrl with adminToken := some "token" }

/-- An address with slashes at both ends is taken, and the two workspaces exist by then. -/
theorem slashed_config_connects :
    (configAt "//mlflow//").validate = .ok () ∧
    (∃ r, (configAt "//mlflow//").connect.exec grantingCluster () = (.ok r, ())) ∧
    ∃ r, workspaceRequest "workspace2" = .ok r ∧
      WireAsk.cluster r ∈ (configAt "//mlflow//").connect.trace grantingCluster () := by
  have hvalid : (configAt "//mlflow//").validate = .ok () := by decide +kernel
  have hok : (configAt "//mlflow//").prepareCluster.exec grantingCluster () = (.ok (), ()) := by
    decide +kernel
  have hslashes : ¬OnlySlashes (configAt "//mlflow//").tracking.baseUrl :=
    fun h => absurd (h 'm' (by decide)) (by decide)
  obtain ⟨-, hconnects⟩ := valid_config_is_usable_iff (c := configAt "//mlflow//") rfl hvalid
  obtain ⟨hworkspaces, husable⟩ := (hconnects grantingCluster ()).2 () hok
  exact ⟨hvalid, husable hslashes, hworkspaces "workspace2" (by decide +kernel)⟩

/-- **One slash is a valid address and no usable one:** connecting fails with the fault of a configuration,
after it has asked for both workspaces. -/
theorem slash_is_valid_but_unusable :
    (configAt "/").tracking.caBundle = none ∧ (configAt "/").validate = .ok () ∧
    Endpoint.of (configAt "/").tracking.baseUrl none =
      .error (.invalidField "tracking_uri" "tracking URI cannot be empty") ∧
    ((configAt "/").connect.exec grantingCluster ()).1 =
      .error (.error (.invalidField "tracking_uri" "tracking URI cannot be empty")) ∧
    (configAt "/").workspaces = ["workspace1", "workspace2"] ∧
    ∀ name ∈ ["workspace1", "workspace2"], ∃ r, workspaceRequest name = .ok r ∧
      WireAsk.cluster r ∈ (configAt "/").connect.trace grantingCluster () := by
  have hvalid : (configAt "/").validate = .ok () := by decide +kernel
  have hok : (configAt "/").prepareCluster.exec grantingCluster () = (.ok (), ()) := by
    decide +kernel
  have hslashes : OnlySlashes (configAt "/").tracking.baseUrl := by
    intro ch hch
    exact List.mem_singleton.mp hch
  have hworkspaces : (configAt "/").workspaces = ["workspace1", "workspace2"] := by decide +kernel
  refine ⟨rfl, hvalid, by decide +kernel, ?_, hworkspaces, ?_⟩
  · rw [Config.exec_connect_onlySlashes rfl hvalid hok hslashes]
  · rw [Config.trace_connect rfl hvalid, ← hworkspaces]
    exact Config.mem_trace_prepareCluster hok

end GrantProbe
