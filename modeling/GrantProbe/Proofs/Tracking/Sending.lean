import Mathlib.Tactic.SplitIfs
import GrantProbe.Proofs.Transcript
import GrantProbe.Wire.Tracking

/-!
# Requests of a client and their replies

An operation of the tracking service is built of requests. Each of them either cannot be made, and then
nothing is sent, or is sent once, and the reply decides what comes of it.

* `Service.Sends`: what comes of a request to an address; `Service.Fetches`: of an operation;
  `Service.Moves`: of an artifact below a root;
* `Service.send_goes`, `Service.call_goes`, `Service.upload_goes`, `Service.download_goes`: every run of
  such a task is one of these;
* `WireAsk.url?`, `WireAsk.method?`: where a request goes, and how; `Service.Sends.url?_eq`: clients of one
  endpoint send to the same address.
-/

namespace GrantProbe

open Program (Handler)
open Http (Method Reply Url)
open Json (Reader)

variable {α β σ : Type}

/-- A result as the end of a task that does not end abnormally. -/
def outcomeOf (r : Except Error α) : Outcome α := r.mapError .error

namespace Task

variable {S : Signature} {h : Handler S σ} {w v : σ}

theorem Talks.check {t : Task S α} {D : List (Exchange S)} {a : α} (ht : t.Talks h w D (.ok a) v)
    (r : α → Except Error β) : (t >>= fun a => check (r a)).Talks h w D (outcomeOf (r a)) v := by
  refine ht.bind_silent ?_
  cases r a <;> exact ⟨rfl, rfl⟩

end Task

/-! ## Where a request goes -/

namespace WireAsk

/-- The address that a request to the tracking service goes to. -/
def url? : WireAsk → Option Url
  | tracking url _ => some url
  | _ => none

/-- The method of a request to the tracking service. -/
def method? : WireAsk → Option Method
  | tracking _ request => some request.method
  | _ => none

end WireAsk

/-! ## What comes of a request -/

namespace Service

/-- **What comes of a request:** it cannot be made, and nothing is sent; or it is sent, once, and its
reply decides. -/
inductive Sends (s : Service) (operation : String) (method : Method) (address : String)
    (query : List (String × String)) (content : Content) :
    List (Exchange wire) → Except Error (Nat × Bytes) → Prop
  | unmade {cause : String} (hgoal : s.goal address query = .error cause) :
    Sends s operation method address query content []
      (.error (.tracking operation 0 ("request failed: " ++ cause)))
  | sent {url : Url} (hgoal : s.goal address query = .ok url) (reply : Reply) :
    Sends s operation method address query content
      [⟨.tracking url (s.request method url content), reply⟩] (replyBody operation url reply)

/-- **What comes of an operation:** what comes of its request, with the record in the body. -/
def Fetches (s : Service) (operation : String) (method : Method) (path : String)
    (query : List (String × String)) (content : Content) (reader : Reader α) (D : List (Exchange wire))
    (r : Except Error α) : Prop :=
  ∃ q, s.Sends operation method (apiAddress s.endpoint.baseUrl path) query content D q ∧
    r = q >>= fun x => decode operation reader x.1 x.2

/-- **What comes of an artifact below a root:** nothing is sent unless the service serves the root. -/
inductive Moves (s : Service) (operation : String) (method : Method) (uri name : String)
    (content : Content) : List (Exchange wire) → Except Error (Nat × Bytes) → Prop
  | refused {e : Error} (hroot : proxiedRoot uri = .error e) :
    Moves s operation method uri name content [] (.error e)
  | served {root : String} {D : List (Exchange wire)} {r : Except Error (Nat × Bytes)}
    (hroot : proxiedRoot uri = .ok root)
    (hsends : s.Sends operation method (artifactAddress s.endpoint.baseUrl root name) [] content D r) :
    Moves s operation method uri name content D r

section
variable (s : Service) (h : Handler wire σ) (w : σ) (operation : String)

theorem send_goes (method : Method) (address : String) (query : List (String × String))
    (content : Content) : ∃ D r v,
      (s.send operation method address query content).Talks h w D (outcomeOf r) v ∧
        s.Sends operation method address query content D r := by
  unfold send
  rcases hgoal : s.goal address query with cause | url
  · exact ⟨_, _, _, Task.talks_fail _, .unmade hgoal⟩
  · have hreply : (Wire.tracking url (s.request method url content)).Talks h w
        [⟨.tracking url (s.request method url content),
          (h (.tracking url (s.request method url content)) w).1⟩]
        (.ok (h (.tracking url (s.request method url content)) w).1)
        (h (.tracking url (s.request method url content)) w).2 := ⟨rfl, rfl⟩
    exact ⟨_, _, _, hreply.check (replyBody operation url), .sent hgoal _⟩

theorem call_goes (method : Method) (path : String) (query : List (String × String))
    (content : Content) (reader : Reader α) : ∃ D r v,
      (s.call operation method path query content reader).Talks h w D (outcomeOf r) v ∧
        s.Fetches operation method path query content reader D r := by
  obtain ⟨D, q, v, htalks, hsends⟩ :=
    s.send_goes h w operation method (apiAddress s.endpoint.baseUrl path) query content
  refine ⟨D, _, v, ?_, q, hsends, rfl⟩
  unfold call
  rcases q with e | ⟨status, body⟩
  · exact htalks.bind_error _
  · exact htalks.check fun x => decode operation reader x.1 x.2

/-- An artifact that is sent or fetched below a root, with what is made of the reply. -/
theorem moves_goes (method : Method) (uri name : String) (content : Content) (f : Nat × Bytes → α) :
    ∃ D r v, (Task.check (proxiedRoot uri) >>= fun root =>
        s.send operation method (artifactAddress s.endpoint.baseUrl root name) [] content >>= fun x =>
          pure (f x)).Talks h w D (outcomeOf (r.map f)) v ∧
      s.Moves operation method uri name content D r := by
  rcases hroot : proxiedRoot uri with e | root
  · exact ⟨[], .error e, w, (Task.talks_fail e).bind_error _, .refused hroot⟩
  · obtain ⟨D, r, v, htalks, hsends⟩ :=
      s.send_goes h w operation method (artifactAddress s.endpoint.baseUrl root name) [] content
    refine ⟨D, r, v, ?_, .served hroot hsends⟩
    refine Task.Talks.bind_ok (D := []) (Task.talks_pure root) ?_
    rcases r with e | x
    · exact htalks.bind_error _
    · exact htalks.map f

theorem upload_goes (uri name : String) (bytes : Bytes) : ∃ D r v,
    (s.upload operation uri name bytes).Talks h w D (outcomeOf (r.map fun _ => ())) v ∧
      s.Moves operation .put uri name (.bytes bytes) D r :=
  s.moves_goes h w operation .put uri name (.bytes bytes) fun _ => ()

theorem download_goes (uri name : String) : ∃ D r v,
    (s.download operation uri name).Talks h w D (outcomeOf (r.map (·.2))) v ∧
      s.Moves operation .get uri name .none D r :=
  s.moves_goes h w operation .get uri name .none (·.2)

end

/-! ## Addresses -/

section
variable {s s' : Service} {operation operation' address : String} {method method' : Method}
  {query : List (String × String)} {content content' : Content} {D D' : List (Exchange wire)}

/-- A request goes to what its address stands for, without credentials and with its parameters. -/
theorem goal_eq_ok {url : Url} (h : s.goal address query = .ok url) :
    ∃ v, Url.parse? address = some v ∧ url = v.withoutCredentials.withQuery query := by
  unfold goal at h
  split at h
  · cases h
  · next v hv =>
    split_ifs at h
    simp only at h
    split_ifs at h
    exact ⟨v, hv, (Except.ok.inj h).symm⟩

theorem Sends.url?_of_mem {r : Except Error (Nat × Bytes)}
    (hs : s.Sends operation method address query content D r) {x : Exchange wire} (hx : x ∈ D) :
    ∃ v, Url.parse? address = some v ∧
      x.request.url? = some (v.withoutCredentials.withQuery query) ∧ x.request.method? = some method := by
  cases hs with
  | unmade => exact absurd hx List.not_mem_nil
  | sent hgoal reply =>
    obtain ⟨v, hv, rfl⟩ := goal_eq_ok hgoal
    rw [List.mem_singleton.mp hx]
    exact ⟨v, hv, rfl, rfl⟩

/-- **Requests to one address go to one place,** whoever sends them. -/
theorem Sends.url?_eq {r r' : Except Error (Nat × Bytes)}
    (hs : s.Sends operation method address query content D r)
    (hs' : s'.Sends operation' method' address query content' D' r') {x y : Exchange wire} (hx : x ∈ D)
    (hy : y ∈ D') : x.request.url? = y.request.url? := by
  obtain ⟨v, hv, hurl, -⟩ := hs.url?_of_mem hx
  obtain ⟨v', hv', hurl', -⟩ := hs'.url?_of_mem hy
  obtain rfl := Option.some.inj (hv.symm.trans hv')
  rw [hurl, hurl']

/-- A request that succeeds was sent, once; no other is sent more often. -/
theorem Sends.methods {r : Except Error (Nat × Bytes)}
    (hs : s.Sends operation method address query content D r) :
    (D.map (·.request.method?) = [] ∧ ∃ e, r = .error e) ∨ D.map (·.request.method?) = [some method] := by
  cases hs with
  | unmade => exact Or.inl ⟨rfl, _, rfl⟩
  | sent hgoal reply => exact Or.inr rfl

end

end Service

end GrantProbe
