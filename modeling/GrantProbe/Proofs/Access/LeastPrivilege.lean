import GrantProbe.CommandLine.Perform
import GrantProbe.Proofs.CommandLine.Storing
import GrantProbe.Proofs.FirstOccurrences
import GrantProbe.Proofs.Json.ReadBack
import GrantProbe.Proofs.Transcript
import GrantProbe.Proofs.World.Grant

/-!
# The least privilege

The rules that are written for a capability allow what it asks for and nothing else, in the fewest
words: no name is repeated, and repeating one in the capability changes nothing.

* `Capability.requestedSubresources`: the sub-resources that are asked for;
* `rulesAllow_rules_iff`, `rulesAllow_bootstrapRules_iff`: what is allowed, under every group;
* `rulesOfText?`: the rules that a printed text lists, with `rulesOfText?_printed`;
* `rules_are_least`: the rules of a capability, as they are written and as they are printed.
-/

namespace GrantProbe

open Program (Handler)

/-! ## The rules of a capability -/

namespace ResourceKind

theorem nodup_subresources (kind : ResourceKind) : kind.subresources.Nodup := by
  cases kind <;> decide

theorem disjoint_subresources (kind other : ResourceKind) (hne : kind ≠ other) :
    ∀ name ∈ kind.subresources, name ∉ other.subresources := by
  cases kind <;> cases other <;> first | exact absurd rfl hne | decide

end ResourceKind

namespace Capability

/-- **The sub-resources that a capability asks for:** those that are listed, if a list is given, else
those that its kinds declare, if it creates. -/
def requestedSubresources (c : Capability) : List String :=
  match c.subresources with
  | some names => names
  | none => if .create ∈ c.verbs then c.resources.flatMap ResourceKind.subresources else []

/-- The capability without repetitions. -/
def dedup (c : Capability) : Capability where
  verbs := c.verbs.eraseDups
  resources := c.resources.eraseDups
  subresources := c.subresources.map List.eraseDups

variable (c : Capability)

theorem grants_iff (v : Verb) : c.grants v = true ↔ v ∈ c.verbs := List.contains_iff_mem

theorem subresourceNames_eq : c.subresourceNames = c.requestedSubresources.eraseDups := by
  unfold subresourceNames requestedSubresources
  rcases c.subresources with _ | names
  · simp only [grants_iff]
    split_ifs
    · exact (eraseDups_flatMap ResourceKind.disjoint_subresources ResourceKind.nodup_subresources _).symm
    · rfl
  · rfl

/-- **Repetitions do not matter.** -/
theorem rules_dedup : c.dedup.rules = c.rules := by
  have hmain : c.dedup.mainRules = c.mainRules := by
    simp only [mainRules, dedup, eraseDups_eraseDups, isEmpty_eraseDups]
  have hnames : c.dedup.subresourceNames = c.subresourceNames := by
    unfold subresourceNames dedup grants
    rcases c.subresources with _ | names
    · simp [eraseDups_eraseDups]
    · exact eraseDups_eraseDups names
  rw [rules, rules, hmain, subresourceRules, subresourceRules, hnames]

/-- **What the rules of a capability allow,** under any group: its verbs on its kinds, and creation
on its sub-resources. -/
theorem rulesAllow_rules_iff (group resource verb : String) :
    rulesAllow c.rules group resource verb = true ↔ group = trackingGroup ∧
      ((∃ kind ∈ c.resources, kind.text = resource) ∧ (∃ v ∈ c.verbs, v.text = verb) ∨
        verb = Verb.create.text ∧ resource ∈ c.requestedSubresources) := by
  rw [rules, rulesAllow_append, Bool.or_eq_true, rulesAllow_mainRules_iff,
    rulesAllow_subresourceRules_iff, subresourceNames_eq, List.mem_eraseDups, ← and_or_left,
    and_comm (a := resource ∈ _)]

/-- There is at most one rule on the kinds and one on the sub-resources. -/
theorem length_rules_le : c.rules.length ≤ 2 := by
  have hmain : c.mainRules.length ≤ 1 := by
    unfold mainRules
    split_ifs <;> simp
  have hsub : c.subresourceRules.length ≤ 1 := by
    unfold subresourceRules
    split_ifs <;> simp
  rw [rules, List.length_append]
  exact Nat.add_le_add hmain hsub

end Capability

/-- **A rule in the fewest words:** it is on something and allows something, and it names each resource
and each verb that is asked for once, in the order in which they are asked for first. -/
structure Rule.IsTerse (r : Rule) (resources verbs : List String) : Prop where
  resources_ne_nil : r.resources ≠ []
  verbs_ne_nil : r.verbs ≠ []
  resources_eq : FirstOccurrences r.resources resources
  verbs_eq : FirstOccurrences r.verbs verbs

section
variable {c : Capability} {r : Rule}

theorem eraseDups_ne_nil {α : Type} [DecidableEq α] {xs : List α} (h : xs.isEmpty = false) :
    xs.eraseDups ≠ [] := by
  rw [← List.isEmpty_eq_false_iff, isEmpty_eraseDups, h]

theorem isTerse_of_mem_mainRules (hr : r ∈ c.mainRules) :
    r.IsTerse (c.resources.map ResourceKind.text) (c.verbs.map Verb.text) := by
  unfold Capability.mainRules at hr
  split_ifs at hr with hempty
  · exact absurd hr List.not_mem_nil
  · obtain rfl := List.mem_singleton.mp hr
    rw [Bool.or_eq_true, not_or, Bool.not_eq_true, Bool.not_eq_true] at hempty
    exact ⟨fun h => eraseDups_ne_nil hempty.2 (List.map_eq_nil_iff.mp h),
      fun h => eraseDups_ne_nil hempty.1 (List.map_eq_nil_iff.mp h),
      (firstOccurrences_eraseDups _).map fun _ _ => ResourceKind.text_injective,
      (firstOccurrences_eraseDups _).map fun _ _ => Verb.text_injective⟩

theorem isTerse_of_mem_subresourceRules (hr : r ∈ c.subresourceRules) :
    r.IsTerse c.requestedSubresources [Verb.create.text] := by
  unfold Capability.subresourceRules at hr
  split_ifs at hr with hempty
  · exact absurd hr List.not_mem_nil
  · obtain rfl := List.mem_singleton.mp hr
    refine ⟨fun h => hempty (List.isEmpty_iff.mpr h), List.cons_ne_nil _ _, ?_,
      fun _ => Iff.rfl, List.pairwise_singleton _ _⟩
    rw [Capability.subresourceNames_eq]
    exact firstOccurrences_eraseDups _

end

/-! ## The role -/

/-- The rules of the role that a request is to create. -/
def Ask.roleRules? : Ask → Option (List Rule)
  | .access (.createRole _ _ rules) => some rules
  | _ => none

/-- **Granting writes one role,** with the rules of the capability and those of every identity. -/
theorem roleRules_grant {σ : Type} (h : Handler probe σ) (w : σ) (identity scope : String)
    (c : Capability) : ((grant Probe.access identity scope c).trace h w).filterMap Ask.roleRules? =
      [c.rules ++ bootstrapRules] := by
  unfold grant
  rw [Task.trace_bind, Task.trace_retitle, List.filterMap_append]
  have hrole : ((Probe.access (.createRole scope (roleName identity) c.grantedRules)).trace h
      w).filterMap Ask.roleRules? = [c.rules ++ bootstrapRules] := rfl
  rw [hrole]
  rcases Task.exec h _ w with ⟨e | _, w'⟩
  · rfl
  · simp only []
    rw [Task.trace_bind, Task.trace_retitle, List.filterMap_append]
    rcases Task.exec h _ w' with ⟨e | _, w''⟩ <;> rfl

/-! ## The printed role -/

/-- The rule of an object that has its groups, its resources and its verbs, each a list of texts. -/
def Rule.ofDocument? : Json → Option Rule
  | .object [("apiGroups", .list groups), ("resources", .list resources), ("verbs", .list verbs)] =>
    return ⟨← groups.mapM Json.text?, ← resources.mapM Json.text?, ← verbs.mapM Json.text?⟩
  | _ => none

/-- **The rules that a text lists:** it is a document, and each of its items is a rule. -/
def rulesOfText? (text : String) : Option (List Rule) := do
  let document ← (Json.parse text).toOption
  (← document.items?).mapM Rule.ofDocument?

theorem mapM_map_eq_some {α β : Type} {write : α → β} {read? : β → Option α}
    (h : ∀ a, read? (write a) = some a) (xs : List α) : (xs.map write).mapM read? = some xs := by
  induction xs with
  | nil => rfl
  | cons x rest ih => simp [h, ih]

theorem ofDocument?_document (r : Rule) : Rule.ofDocument? r.document = some r := by
  have htexts (texts : List String) : (texts.map Json.text).mapM Json.text? = some texts :=
    mapM_map_eq_some (fun s => show Json.text? (.text s) = some s from rfl) texts
  simp only [Rule.document, Json.texts, Rule.ofDocument?, htexts]
  rfl

theorem isTree_rules (rules : List Rule) :
    Json.IsTree Json.Reader.maxDepth (.list (rules.map Rule.document)) := by
  have htexts {depth : Nat} (texts : List String) : Json.IsTree (depth + 1) (.texts texts) := by
    refine .list fun v hv => ?_
    obtain ⟨s, -, rfl⟩ := List.mem_map.mp hv
    exact .text s
  refine .list fun v hv => ?_
  obtain ⟨r, -, rfl⟩ := List.mem_map.mp hv
  refine .object fun e he => ?_
  simp only [List.mem_cons, List.not_mem_nil, or_false] at he
  rcases he with rfl | rfl | rfl <;> exact htexts _

/-- **Printed rules are read back.** -/
theorem rulesOfText?_printed (rules : List Rule) :
    rulesOfText? (printed [(Json.list (rules.map Rule.document)).pretty]) = some rules := by
  have hblank : ∀ c ∈ "\n".toList, Json.isGap (some c) = true := List.all_eq_true.mp rfl
  have hparse := Json.parse_pretty (isTree_rules rules) hblank
  have hprinted : printed [(Json.list (rules.map Rule.document)).pretty] =
      (Json.list (rules.map Rule.document)).pretty ++ "\n" := by
    simp [printed]
  rw [hprinted, rulesOfText?, hparse]
  exact mapM_map_eq_some ofDocument?_document rules

/-- **The command prints the role** that would be written, or its first part. -/
theorem exec_perform_rules {σ : Type} (h : Handler wire σ) (w : σ) (r : RulesRequest) :
    ∃ text, (Command.rules r).perform.exec h w = (.ok (.ok text), w) ∧
      rulesOfText? text =
        some (r.capability.rules ++ if r.withoutBootstrap then [] else bootstrapRules) := by
  have hrules : r.rules = r.capability.rules ++ if r.withoutBootstrap then [] else bootstrapRules := by
    unfold RulesRequest.rules
    split_ifs
    · exact (List.append_nil _).symm
    · rfl
  rw [← hrules]
  exact ⟨_, rfl, rulesOfText?_printed r.rules⟩

/-- **The role of a capability has the least privilege:** its rules allow what is asked for and nothing
else, in the fewest words; they are what granting writes and what the command prints, in front of
the rules of every identity, which only read. -/
theorem rules_are_least (c : Capability) :
    (∀ group resource verb, rulesAllow c.rules group resource verb = true ↔ group = trackingGroup ∧
      ((∃ kind ∈ c.resources, kind.text = resource) ∧ (∃ v ∈ c.verbs, v.text = verb) ∨
        verb = Verb.create.text ∧ resource ∈ c.requestedSubresources)) ∧
    (c.rules.length ≤ 2 ∧ ∀ r ∈ c.rules,
      r.IsTerse (c.resources.map ResourceKind.text) (c.verbs.map Verb.text) ∨
        r.IsTerse c.requestedSubresources [Verb.create.text]) ∧
    c.dedup.rules = c.rules ∧
    (∀ {σ : Type} (h : Handler probe σ) (w : σ) (identity scope : String),
      ((grant Probe.access identity scope c).trace h w).filterMap Ask.roleRules? =
        [c.rules ++ bootstrapRules]) ∧
    (∀ (env : Environment) (args : List String) (format : LogFormat) (request : RulesRequest),
      Invocation.parse env args = .ok ⟨format, .rules request⟩ → "--without-bootstrap" ∉ args →
      request.capability = c → ∀ {σ : Type} (h : Handler wire σ) (w : σ),
        ∃ text, (Command.rules request).perform.exec h w = (.ok (.ok text), w) ∧
          rulesOfText? text = some (c.rules ++ bootstrapRules)) ∧
    ∀ group resource verb, rulesAllow bootstrapRules group resource verb = true ↔
      (verb = "get" ∨ verb = "list") ∧
        (group = "" ∧ resource ∈ ["namespaces", "serviceaccounts", "secrets"] ∨
          group = rbacGroup ∧ resource ∈ ["roles", "rolebindings"]) := by
  refine ⟨c.rulesAllow_rules_iff, ⟨c.length_rules_le, fun r hr => ?_⟩, c.rules_dedup,
    fun h w identity scope => roleRules_grant h w identity scope c, ?_,
    rulesAllow_bootstrapRules_iff⟩
  · exact (List.mem_append.mp hr).imp isTerse_of_mem_mainRules isTerse_of_mem_subresourceRules
  · rintro env args format request hparse habsent rfl σ h w
    obtain ⟨text, hexec, hread⟩ := exec_perform_rules h w request
    rw [withoutBootstrap_eq_false hparse habsent] at hread
    exact ⟨text, hexec, hread⟩

/-- A command line that asks to use secrets of the gateway. -/
def useSecrets : List String := ["rules", "--role", "use", "--resources", "gatewaysecrets"]

/-- It prints the rules for secrets and for their use, and those of every identity. -/
theorem useSecrets_prints : ∃ request,
    Invocation.parse (fun _ => none) useSecrets = .ok ⟨.text, .rules request⟩ ∧
    "--without-bootstrap" ∉ useSecrets ∧ request.capability = ⟨[.create], [.gatewaySecrets], none⟩ ∧
    rulesAllow request.capability.rules trackingGroup "gatewaysecrets/use" "create" = true ∧
    ∀ (h : Handler wire Unit), ∃ text, (Command.rules request).perform.exec h () =
      (.ok (.ok text), ()) ∧
        rulesOfText? text = some ([⟨[trackingGroup], ["gatewaysecrets"], ["create"]⟩,
          ⟨[trackingGroup], ["gatewaysecrets/use"], ["create"]⟩] ++ bootstrapRules) := by
  have hparse : Invocation.parse (fun _ => none) useSecrets =
      .ok ⟨.text, .rules ⟨[], some .use, [.gatewaySecrets], none, false, false⟩⟩ := by rfl
  have habsent : "--without-bootstrap" ∉ useSecrets := by decide
  have hrules : Capability.rules ⟨[.create], [.gatewaySecrets], none⟩ =
      [⟨[trackingGroup], ["gatewaysecrets"], ["create"]⟩,
        ⟨[trackingGroup], ["gatewaysecrets/use"], ["create"]⟩] := by decide +kernel
  obtain ⟨hallows, -, -, -, hprints, -⟩ := rules_are_least ⟨[.create], [.gatewaySecrets], none⟩
  refine ⟨_, hparse, habsent, rfl, ?_, fun h => ?_⟩
  · exact (hallows _ _ _).mpr ⟨rfl, Or.inr ⟨rfl, by decide⟩⟩
  · rw [← hrules]
    exact hprints _ _ _ _ hparse habsent rfl h ()

end GrantProbe
