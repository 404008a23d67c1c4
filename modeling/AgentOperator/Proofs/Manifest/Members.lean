import AgentOperator.Proofs.Manifest.Clash
import AgentOperator.Proofs.Manifest.Selection
import AgentOperator.Reconcile.Report

/-!
# The members of the desired set

An agent is made of what its spec asks for, each object once, and of nothing else.  What
a spec asks for is said here without the builders: by the mode, by the settings that are
given, and by the ports that were resolved.
-/

namespace AgentOperator

variable {c : Context} {m : Manifest} {d : Desired} {kind : Kind} {name : String}

/-! ## Where manifests come from -/

/-- The ways in which something is a part of an agent, one for each builder. -/
inductive Manifest.IsPartOf (c : Context) : Manifest → Prop
  | workload {w : Workload} (hw : Workload.ofContext? c = some w) : IsPartOf c (workload w)
  | config : IsPartOf c (configMap (.agent c))
  | pipelines {m : ConfigMap} (hm : ConfigMap.pipelines? c = some m) :
    IsPartOf c (configMap m)
  | account {a : ServiceAccount} (ha : ServiceAccount.generated? c = some a) :
    IsPartOf c (serviceAccount a)
  | receivers {s : Service} (hs : Service.receivers? c = some s) : IsPartOf c (service s)
  | headless {s : Service} (hs : Service.headless? c = some s) : IsPartOf c (service s)
  | monitoring : IsPartOf c (service (.monitoring c))
  | ingress {i : Ingress} (hi : Ingress.ofContext? c = some i) : IsPartOf c (ingress i)
  | route {r : Route} (hr : r ∈ Route.allOfContext c) : IsPartOf c (route r)
  | autoscaler {h : HorizontalAutoscaler} (hh : HorizontalAutoscaler.ofContext? c = some h) :
    IsPartOf c (autoscaler h)
  | podBudget {b : PodBudget} (hb : PodBudget.ofContext? c = some b) :
    IsPartOf c (podBudget b)

theorem Manifest.mem_allOfContext : m ∈ allOfContext c ↔ m.IsPartOf c := by
  constructor
  · intro hm
    simp only [allOfContext, List.mem_append, Option.mem_toList, Option.map_eq_some_iff,
      List.mem_cons, List.not_mem_nil, or_false, List.mem_map, or_assoc] at hm
    rcases hm with ⟨w, hw, rfl⟩ | rfl | ⟨m, hm, rfl⟩ | ⟨a, ha, rfl⟩ | ⟨s, hs, rfl⟩ |
      ⟨s, hs, rfl⟩ | rfl | ⟨i, hi, rfl⟩ | ⟨r, hr, rfl⟩ | ⟨h, hh, rfl⟩ | ⟨b, hb, rfl⟩
    · exact .workload hw
    · exact .config
    · exact .pipelines hm
    · exact .account ha
    · exact .receivers hs
    · exact .headless hs
    · exact .monitoring
    · exact .ingress hi
    · exact .route hr
    · exact .autoscaler hh
    · exact .podBudget hb
  · intro hm
    cases hm with
    | config | monitoring => simp [allOfContext]
    | workload hpart | pipelines hpart | account hpart | receivers hpart | headless hpart
    | ingress hpart | route hpart | autoscaler hpart | podBudget hpart =>
        simp [allOfContext, hpart]

theorem Context.mem_desired : d ∈ c.desired ↔ ∃ m : Manifest, m.IsPartOf c ∧ m.desired = d := by
  simp only [desired, List.mem_map, Manifest.mem_allOfContext]

/-! ## When there is something to build -/

theorem Context.pipelines?_eq_some_iff {text : String} :
    c.pipelines? = some text ↔
      c.agent.spec.otelConfig = some text ∧ Text.isBlankText text = false := by
  simp [pipelines?, Text.given?, Option.filter_eq_some_iff]

theorem ConfigMap.exists_pipelines_iff :
    (∃ m, pipelines? c = some m) ↔
      ∃ text, c.agent.spec.otelConfig = some text ∧ Text.isBlankText text = false := by
  simp only [pipelines?, Option.map_eq_some_iff, Context.pipelines?_eq_some_iff]
  constructor
  · rintro ⟨_, text, htext, -⟩
    exact ⟨text, htext⟩
  · rintro ⟨text, htext⟩
    exact ⟨_, text, htext, rfl⟩

theorem Context.givenAccount?_eq_some_iff :
    c.givenAccount? = some name ↔ c.agent.spec.serviceAccount = some name ∧ name ≠ "" := by
  simp [givenAccount?, Option.filter_eq_some_iff]

theorem ServiceAccount.exists_generated_iff :
    (∃ a, generated? c = some a) ↔
      ∀ name, c.agent.spec.serviceAccount = some name → name = "" := by
  unfold generated?
  cases hgiven : c.givenAccount? with
  | some name =>
      obtain ⟨hname, hne⟩ := Context.givenAccount?_eq_some_iff.mp hgiven
      simp [hname, hne]
  | none =>
      have hnone : ∀ name, ¬ (c.agent.spec.serviceAccount = some name ∧ name ≠ "") := by
        intro name hname
        rw [Context.givenAccount?_eq_some_iff.mpr hname] at hgiven
        simp at hgiven
      simpa using hnone

theorem Service.exists_receivers_iff : (∃ s, receivers? c = some s) ↔ c.ports ≠ [] := by
  unfold receivers?
  split
  next hempty => simpa using hempty
  next hports => simpa using hports

theorem Service.exists_headless_iff :
    (∃ s, headless? c = some s) ↔ c.ports ≠ [] ∨ c.mode = .statefulSet := by
  unfold headless?
  split
  next hneither => simpa using hneither
  next heither =>
    have hcases : c.ports = [] → c.mode = .statefulSet := by simpa using heither
    simpa using Decidable.imp_iff_not_or.mp hcases

theorem Context.exposure?_eq_some_iff {exposure : Exposure} {s : IngressSettings} :
    c.exposure? exposure = some s ↔
      c.agent.spec.ingress = some s ∧ s.exposure = exposure ∧ c.ports ≠ [] := by
  simp [exposure?, Option.filter_eq_some_iff]

theorem IngressSettings.host?_eq_some_iff {s : IngressSettings} {host : String} :
    s.host? = some host ↔ s.hostname = some host ∧ host ≠ "" := by
  simp [host?, Option.filter_eq_some_iff]

theorem Ingress.exists_rules_iff {s : IngressSettings} :
    (∃ rules, rules? c s = some rules) ↔
      (s.ruleType = .subdomain → ∃ host, s.hostname = some host ∧ host ≠ "") := by
  unfold rules?
  cases s.ruleType with
  | path => simp
  | subdomain =>
      simp only [Option.map_eq_some_iff, IngressSettings.host?_eq_some_iff, forall_const]
      constructor
      · rintro ⟨_, host, hhost, -⟩
        exact ⟨host, hhost⟩
      · rintro ⟨host, hhost⟩
        exact ⟨_, host, hhost, rfl⟩

theorem Ingress.exists_ofContext_iff :
    (∃ i, ofContext? c = some i) ↔
      ∃ s, c.agent.spec.ingress = some s ∧ s.exposure = .ingress ∧ c.ports ≠ [] ∧
        (s.ruleType = .subdomain → ∃ host, s.hostname = some host ∧ host ≠ "") := by
  simp only [ofContext?, Option.bind_eq_some_iff, Option.map_eq_some_iff]
  constructor
  · rintro ⟨_, s, hs, rules, hrules, -⟩
    obtain ⟨hsettings, hexposure, hports⟩ := Context.exposure?_eq_some_iff.mp hs
    exact ⟨s, hsettings, hexposure, hports, exists_rules_iff.mp ⟨rules, hrules⟩⟩
  · rintro ⟨s, hsettings, hexposure, hports, hhost⟩
    obtain ⟨rules, hrules⟩ := exists_rules_iff.mpr hhost
    exact ⟨_, s, Context.exposure?_eq_some_iff.mpr ⟨hsettings, hexposure, hports⟩, rules,
      hrules, rfl⟩

theorem Route.mem_allOfContext {r : Route} :
    r ∈ allOfContext c ↔
      ∃ s, c.agent.spec.ingress = some s ∧ s.exposure = .route ∧
        ∃ p ∈ c.ports, r = ofPort c s p := by
  unfold allOfContext
  cases hexposure : c.exposure? .route with
  | some s =>
      obtain ⟨hsettings, hroute, -⟩ := Context.exposure?_eq_some_iff.mp hexposure
      simp only [List.mem_map, hsettings, Option.some.injEq, exists_eq_left', hroute, true_and,
        eq_comm]
  | none =>
      simp only [List.not_mem_nil, false_iff]
      rintro ⟨s, hsettings, hroute, p, hp, -⟩
      have hsome := Context.exposure?_eq_some_iff.mpr
        ⟨hsettings, hroute, List.ne_nil_of_mem hp⟩
      rw [hexposure] at hsome
      simp at hsome

theorem HorizontalAutoscaler.exists_ofContext_iff :
    (∃ h, ofContext? c = some h) ↔
      (∃ a, c.agent.spec.autoscaler = some a) ∧
        (c.mode = .deployment ∨ c.mode = .statefulSet) := by
  unfold ofContext?
  split
  next hmode => cases c.agent.spec.autoscaler <;> simp [hmode]
  next hmode => simp [hmode]

theorem PodBudget.exists_ofContext_iff :
    (∃ b, ofContext? c = some b) ↔
      (∃ budget, c.agent.spec.podDisruptionBudget = some budget) ∧ c.mode ≠ .sidecar := by
  unfold ofContext?
  split
  next hmode => simp [hmode]
  next hmode => cases c.agent.spec.podDisruptionBudget <;> simp [hmode]

/-! ## What is asked for -/

/-- The objects that the spec of an agent asks for, by kind and name. -/
inductive Context.Requests (c : Context) : Kind → String → Prop
  | workload {kind : Kind} (hmode : c.mode.workloadKind? = some kind) : Requests c kind c.name
  | config : Requests c .configMap c.name
  | pipelines {text : String} (hgiven : c.agent.spec.otelConfig = some text)
    (hfilled : Text.isBlankText text = false) : Requests c .configMap (c.childName "otel")
  | account (hnone : ∀ name, c.agent.spec.serviceAccount = some name → name = "") :
    Requests c .serviceAccount c.name
  | receivers (hports : c.ports ≠ []) : Requests c .service c.name
  /-- Replicas with identities need the service even without ports. -/
  | headless (hneeded : c.ports ≠ [] ∨ c.mode = .statefulSet) :
    Requests c .service (c.childName "headless")
  | monitoring : Requests c .service (c.childName "monitoring")
  /-- Hosts of their own need a host above. -/
  | ingress {s : IngressSettings} (hsettings : c.agent.spec.ingress = some s)
    (hexposure : s.exposure = .ingress) (hports : c.ports ≠ [])
    (hhost : s.ruleType = .subdomain → ∃ host, s.hostname = some host ∧ host ≠ "") :
    Requests c .ingress (c.childName "ingress")
  | route {s : IngressSettings} {p : Port} (hsettings : c.agent.spec.ingress = some s)
    (hexposure : s.exposure = .route) (hp : p ∈ c.ports) :
    Requests c .route (c.childName p.name)
  | autoscaler {a : Autoscaler} (hautoscaler : c.agent.spec.autoscaler = some a)
    (hmode : c.mode = .deployment ∨ c.mode = .statefulSet) :
    Requests c .horizontalPodAutoscaler c.name
  | podBudget {b : DisruptionBudget} (hbudget : c.agent.spec.podDisruptionBudget = some b)
    (hmode : c.mode ≠ .sidecar) : Requests c .podDisruptionBudget c.name

theorem WorkloadForm.map_kind_ofMode? (c : Context) (mode : Mode) :
    (ofMode? c mode).map WorkloadForm.kind = mode.workloadKind? := by
  cases mode <;> rfl

/-- Every part of an agent was asked for. -/
theorem Manifest.IsPartOf.requested (hm : m.IsPartOf c) : c.Requests m.kind m.name := by
  have hnamed : ∀ {m : Manifest} {name : String}, m.metadata.IsOf c name →
      c.Requests m.kind name → c.Requests m.kind m.name := by
    intro m name hmeta hrequest
    rwa [name_eq_of_isOf hmeta]
  cases hm with
  | @workload w hw =>
      refine hnamed (Workload.metadata_isOf hw) (.workload ?_)
      obtain ⟨form, hform, rfl⟩ := Option.map_eq_some_iff.mp hw
      rw [← WorkloadForm.map_kind_ofMode?, hform]
      rfl
  | config => exact hnamed ConfigMap.metadata_isOf_agent .config
  | pipelines hm =>
      obtain ⟨text, hgiven, hfilled⟩ := ConfigMap.exists_pipelines_iff.mp ⟨_, hm⟩
      exact hnamed (ConfigMap.metadata_isOf_pipelines hm) (.pipelines hgiven hfilled)
  | account ha =>
      have hmeta := ServiceAccount.metadata_isOf ha
      rw [Context.accountName_of_generated ha] at hmeta
      exact hnamed hmeta (.account (ServiceAccount.exists_generated_iff.mp ⟨_, ha⟩))
  | receivers hs =>
      exact hnamed (Service.isMade_receivers hs).metadata
        (.receivers (Service.exists_receivers_iff.mp ⟨_, hs⟩))
  | headless hs =>
      exact hnamed (Service.isMade_headless hs).metadata
        (.headless (Service.exists_headless_iff.mp ⟨_, hs⟩))
  | monitoring => exact hnamed Service.isMade_monitoring.metadata .monitoring
  | ingress hi =>
      obtain ⟨s, hsettings, hexposure, hports, hhost⟩ :=
        Ingress.exists_ofContext_iff.mp ⟨_, hi⟩
      exact hnamed (Ingress.metadata_isOf hi) (.ingress hsettings hexposure hports hhost)
  | route hr =>
      obtain ⟨s, hsettings, hexposure, p, hp, rfl⟩ := Route.mem_allOfContext.mp hr
      exact hnamed ⟨_, _, rfl⟩ (.route hsettings hexposure hp)
  | autoscaler hh =>
      obtain ⟨⟨a, ha⟩, hmode⟩ := HorizontalAutoscaler.exists_ofContext_iff.mp ⟨_, hh⟩
      exact hnamed (HorizontalAutoscaler.metadata_isOf hh) (.autoscaler ha hmode)
  | podBudget hb =>
      obtain ⟨⟨budget, hbudget⟩, hmode⟩ := PodBudget.exists_ofContext_iff.mp ⟨_, hb⟩
      exact hnamed (PodBudget.metadata_isOf hb) (.podBudget hbudget hmode)

/-- For everything that is asked for there is a part. -/
theorem Context.Requests.exists_part (hrequest : c.Requests kind name) :
    ∃ m : Manifest, m.IsPartOf c ∧ m.kind = kind ∧ m.name = name := by
  cases hrequest with
  | workload hmode =>
      rw [← WorkloadForm.map_kind_ofMode? c] at hmode
      obtain ⟨form, hform, rfl⟩ := Option.map_eq_some_iff.mp hmode
      have hw : Workload.ofContext? c = some (.ofForm c form) :=
        Option.map_eq_some_iff.mpr ⟨form, hform, rfl⟩
      exact ⟨_, .workload hw, rfl, rfl⟩
  | config => exact ⟨_, .config, rfl, rfl⟩
  | pipelines hgiven hfilled =>
      obtain ⟨m, hm⟩ := ConfigMap.exists_pipelines_iff.mpr ⟨_, hgiven, hfilled⟩
      exact ⟨_, .pipelines hm, rfl,
        Manifest.name_eq_of_isOf (ConfigMap.metadata_isOf_pipelines hm)⟩
  | account hnone =>
      obtain ⟨a, ha⟩ := ServiceAccount.exists_generated_iff.mpr hnone
      have hmeta := ServiceAccount.metadata_isOf ha
      rw [Context.accountName_of_generated ha] at hmeta
      exact ⟨_, .account ha, rfl, Manifest.name_eq_of_isOf hmeta⟩
  | receivers hports =>
      obtain ⟨s, hs⟩ := Service.exists_receivers_iff.mpr hports
      exact ⟨_, .receivers hs, rfl, Manifest.name_eq_of_isOf (Service.isMade_receivers hs).metadata⟩
  | headless hneeded =>
      obtain ⟨s, hs⟩ := Service.exists_headless_iff.mpr hneeded
      exact ⟨_, .headless hs, rfl, Manifest.name_eq_of_isOf (Service.isMade_headless hs).metadata⟩
  | monitoring => exact ⟨_, .monitoring, rfl, rfl⟩
  | ingress hsettings hexposure hports hhost =>
      obtain ⟨i, hi⟩ := Ingress.exists_ofContext_iff.mpr ⟨_, hsettings, hexposure, hports, hhost⟩
      exact ⟨_, .ingress hi, rfl, Manifest.name_eq_of_isOf (Ingress.metadata_isOf hi)⟩
  | route hsettings hexposure hp =>
      have hr := Route.mem_allOfContext.mpr ⟨_, hsettings, hexposure, _, hp, rfl⟩
      exact ⟨_, .route hr, rfl, rfl⟩
  | autoscaler ha hmode =>
      obtain ⟨h, hh⟩ := HorizontalAutoscaler.exists_ofContext_iff.mpr ⟨⟨_, ha⟩, hmode⟩
      exact ⟨_, .autoscaler hh, rfl,
        Manifest.name_eq_of_isOf (HorizontalAutoscaler.metadata_isOf hh)⟩
  | podBudget hbudget hmode =>
      obtain ⟨b, hb⟩ := PodBudget.exists_ofContext_iff.mpr ⟨⟨_, hbudget⟩, hmode⟩
      exact ⟨_, .podBudget hb, rfl, Manifest.name_eq_of_isOf (PodBudget.metadata_isOf hb)⟩

theorem Context.requests_iff :
    c.Requests kind name ↔ ∃ d ∈ c.desired, d.kind = kind ∧ d.object.name = name := by
  constructor
  · intro hrequest
    obtain ⟨m, hm, hkind, hname⟩ := hrequest.exists_part
    exact ⟨m.desired, mem_desired.mpr ⟨m, hm, rfl⟩, hkind, hname⟩
  · rintro ⟨d, hd, rfl, rfl⟩
    obtain ⟨m, hm, rfl⟩ := mem_desired.mp hd
    exact hm.requested

/-! ## Keys and workloads -/

theorem Context.namespaceName_of_mem (hd : d ∈ c.desired) :
    d.namespaceName = c.namespaceName := by
  obtain ⟨m, hm, rfl⟩ := List.mem_map.mp hd
  obtain ⟨name, hmeta⟩ := Manifest.metadata_isOf hm
  exact hmeta.namespaceName_eq

theorem Context.nodup_keys (hports : Port.NamesDistinct c.ports) :
    (c.desired.map fun d => (d.kind, d.namespaceName, d.object.name)).Nodup := by
  unfold desired
  rw [List.map_map, List.Nodup, List.pairwise_map]
  refine (Manifest.pairwise_allOfContext hports).imp ?_
  intro m other hapart heq
  simp only [Function.comp_apply, Prod.mk.injEq] at heq
  exact hapart ⟨heq.1, heq.2.2⟩

theorem Manifest.exists_others (c : Context) :
    ∃ others, allOfContext c = ((Workload.ofContext? c).map workload).toList ++ others ∧
      ∀ m ∈ others, m.kind ∉ Kind.workloads := by
  refine ⟨?others, ?split, ?kinds⟩
  case split =>
    unfold allOfContext
    simp only [List.append_assoc]
    rfl
  intro m hm
  simp only [List.mem_append, Option.mem_toList, Option.map_eq_some_iff, List.mem_cons,
    List.not_mem_nil, or_false, List.mem_map] at hm
  rcases hm with rfl | ⟨_, -, rfl⟩ | ⟨_, -, rfl⟩ | ⟨_, -, rfl⟩ | ⟨_, -, rfl⟩ | rfl |
    ⟨_, -, rfl⟩ | ⟨_, -, rfl⟩ | ⟨_, -, rfl⟩ | ⟨_, -, rfl⟩ <;> simp [kind, Kind.workloads]

/-- The only workload is that of the mode. -/
theorem Context.workloads_desired (c : Context) :
    (c.desired.map Desired.kind).filter (fun kind => kind ∈ Kind.workloads) =
      c.mode.workloadKind?.toList := by
  obtain ⟨others, hall, hothers⟩ := Manifest.exists_others c
  have hfirst : ((Workload.ofContext? c).map Manifest.workload).toList.map Manifest.kind =
      c.mode.workloadKind?.toList := by
    rw [← WorkloadForm.map_kind_ofMode? c]
    unfold Workload.ofContext?
    cases WorkloadForm.ofMode? c c.mode <;> rfl
  have hkept : c.mode.workloadKind?.toList.filter (fun kind => kind ∈ Kind.workloads) =
      c.mode.workloadKind?.toList := by
    cases c.mode <;> rfl
  have hdropped : (others.map Manifest.kind).filter (fun kind => kind ∈ Kind.workloads) = [] := by
    simpa [List.filter_eq_nil_iff] using hothers
  calc
    (c.desired.map Desired.kind).filter (fun kind => kind ∈ Kind.workloads) =
        ((Manifest.allOfContext c).map Manifest.kind).filter
          (fun kind => kind ∈ Kind.workloads) := by
      unfold desired
      rw [List.map_map]
      rfl
    _ = c.mode.workloadKind?.toList := by
      rw [hall, List.map_append, List.filter_append, hfirst, hkept, hdropped, List.append_nil]

/-- What is desired is exactly what is asked for. -/
structure Context.ExactlyRequested (c : Context) : Prop where
  /-- Each object has a key of its own. -/
  keys : (c.desired.map fun d => (d.kind, d.namespaceName, d.object.name)).Nodup
  home : ∀ d ∈ c.desired, d.namespaceName = c.agent.namespaceName
  /-- There is one workload, of the kind of the mode, or none where the mode has none. -/
  workload : (c.desired.map Desired.kind).filter (fun kind => kind ∈ Kind.workloads) =
    c.agent.spec.mode.workloadKind?.toList
  members : ∀ kind name,
    (∃ d ∈ c.desired, d.kind = kind ∧ d.object.name = name) ↔ c.Requests kind name
  /-- The route of each port is one of its own. -/
  routes : (c.ports.map fun p => c.childName p.name).Nodup

/-- What is desired for an agent is exactly what is asked for, whatever the agent, the
configuration of the operator and the families of receivers. -/
theorem desired_is_exactly_requested (agent : Agent) (config : OperatorConfig)
    (families : List Family) : (Context.ofAgent agent config families).ExactlyRequested := by
  have hports := Context.namesDistinct_ofAgent agent config families
  refine ⟨Context.nodup_keys hports, fun d hd => Context.namespaceName_of_mem hd,
    Context.workloads_desired _, fun kind name => Context.requests_iff.symm, ?_⟩
  rw [List.Nodup, List.pairwise_map]
  refine hports.imp ?_
  intro p q hne heq
  exact hne (Context.childName_injective _ heq)

end AgentOperator
