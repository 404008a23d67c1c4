import AgentOperator.Proofs.Manifest.Contents

/-!
# What valid specs are made into

The rules for a spec and the objects that are made of it are written apart from each other.
A spec is valid exactly if its settings are well formed, each for the mode; what is made of
a valid spec keeps the bounds that the cluster expects, and nothing it asks for is passed
over.
-/

namespace AgentOperator

variable {c : Context}

/-! ## Valid specs -/

structure Autoscaler.WellFormed (a : Autoscaler) (mode : Mode) : Prop where
  mode : mode = .deployment ∨ mode = .statefulSet
  least : 1 ≤ a.leastReplicas.toInt
  most : a.leastReplicas.toInt ≤ a.maxReplicas.toInt
  targetCpu : ∀ target, a.targetCpu = some target → 1 ≤ target.toInt ∧ target.toInt ≤ 99
  targetMemory : ∀ target, a.targetMemory = some target → 1 ≤ target.toInt ∧ target.toInt ≤ 99

structure IngressSettings.WellFormed (s : IngressSettings) (mode : Mode) : Prop where
  mode : mode ≠ .sidecar
  host : s.ruleType = .subdomain → ∃ host, s.hostname = some host ∧ host ≠ ""

structure PortOverride.WellFormed (o : PortOverride) : Prop where
  port : 1 ≤ o.port.toInt ∧ o.port.toInt ≤ 65535
  targetPort : ∀ target, o.targetPort = some target → 1 ≤ target.toInt ∧ target.toInt ≤ 65535

structure Spec.WellFormed (s : Spec) : Prop where
  replicas : 0 ≤ s.replicas.toInt
  autoscaler : ∀ a, s.autoscaler = some a → a.WellFormed s.mode
  budget : ∀ b, s.podDisruptionBudget = some b → s.mode ≠ .sidecar
  ingress : ∀ i, s.ingress = some i → i.WellFormed s.mode
  ports : ∀ o ∈ s.ports, o.WellFormed

theorem isPortNumber_iff {n : Int} : isPortNumber n = true ↔ 1 ≤ n ∧ n ≤ 65535 := by
  simp [isPortNumber]

theorem isUtilization_iff {n : Int} : isUtilization n = true ↔ 1 ≤ n ∧ n ≤ 99 := by
  simp [isUtilization]

theorem Autoscaler.objections_eq_nil_iff {a : Autoscaler} {mode : Mode} :
    a.objections mode = [] ↔ a.WellFormed mode := by
  have hmode : ¬ (mode = .daemonSet ∨ mode = .sidecar) ↔
      mode = .deployment ∨ mode = .statefulSet := by
    cases mode <;> simp
  have hleast : ¬ a.leastReplicas < 1 ↔ 1 ≤ a.leastReplicas.toInt := by
    rw [Int32.lt_iff_toInt_lt, Int.not_lt]
    rfl
  have hmost : ¬ a.maxReplicas < a.leastReplicas ↔
      a.leastReplicas.toInt ≤ a.maxReplicas.toInt := by
    rw [Int32.lt_iff_toInt_lt, Int.not_lt]
  have htarget : ∀ target? : Option Int32,
      (target?.all fun n => isUtilization n.toInt) = true ↔
        ∀ target, target? = some target → 1 ≤ target.toInt ∧ target.toInt ≤ 99 := by
    intro target?
    cases target? <;> simp [isUtilization_iff]
  simp only [objections, List.append_eq_nil_iff, ite_eq_right_iff, ite_eq_left_iff,
    List.cons_ne_nil, imp_false, Decidable.not_not, hmode, hleast, hmost, htarget]
  constructor
  · rintro ⟨⟨⟨⟨hmode, hleast⟩, hmost⟩, hcpu⟩, hmemory⟩
    exact ⟨hmode, hleast, hmost, hcpu, hmemory⟩
  · rintro ⟨hmode, hleast, hmost, hcpu, hmemory⟩
    exact ⟨⟨⟨⟨hmode, hleast⟩, hmost⟩, hcpu⟩, hmemory⟩

theorem IngressSettings.objections_eq_nil_iff {s : IngressSettings} {mode : Mode} :
    s.objections mode = [] ↔ s.WellFormed mode := by
  have hhost : ¬ (s.ruleType = .subdomain ∧ s.host? = none) ↔
      (s.ruleType = .subdomain → ∃ host, s.hostname = some host ∧ host ≠ "") := by
    simp only [← IngressSettings.host?_eq_some_iff, not_and, ← Option.ne_none_iff_exists', ne_eq]
  simp only [objections, List.append_eq_nil_iff, ite_eq_right_iff, List.cons_ne_nil, imp_false,
    hhost]
  constructor
  · rintro ⟨hmode, hhost⟩
    exact ⟨hmode, hhost⟩
  · rintro ⟨hmode, hhost⟩
    exact ⟨hmode, hhost⟩

theorem Objection.elim_eq_nil_iff {α : Type} {objections : α → List Objection} {x? : Option α} :
    x?.elim [] objections = [] ↔ ∀ x, x? = some x → objections x = [] := by
  cases x? <;> simp

theorem PortOverride.objections_eq_nil_iff {o : PortOverride} {index : Nat} :
    o.objections index = [] ↔ o.WellFormed := by
  have hsplit : o.objections index =
      (if isPortNumber o.port.toInt then [] else [.portOutOfRange index]) ++
        o.targetPort.elim [] fun target =>
          if isPortNumber target.toInt then [] else [.targetPortOutOfRange index target] := by
    unfold objections
    cases o.targetPort <;> rfl
  rw [hsplit, List.append_eq_nil_iff, Objection.elim_eq_nil_iff]
  simp only [ite_eq_left_iff, List.cons_ne_nil, imp_false, Decidable.not_not, isPortNumber_iff]
  constructor
  · rintro ⟨hport, htarget⟩
    exact ⟨hport, htarget⟩
  · rintro ⟨hport, htarget⟩
    exact ⟨hport, htarget⟩

/-- A spec passes validation exactly if its settings are well formed. -/
theorem Spec.isValid_iff {s : Spec} : s.isValid = true ↔ s.WellFormed := by
  have hsplit : s.objections =
      (if s.replicas < 0 then [.negativeReplicas] else []) ++
        s.autoscaler.elim [] (fun a => a.objections s.mode) ++
        (if s.podDisruptionBudget.isSome ∧ s.mode = .sidecar then [.budgetUnsupported] else []) ++
        s.ingress.elim [] (fun i => i.objections s.mode) ++
        s.ports.zipIdx.flatMap fun entry => entry.1.objections entry.2 := by
    unfold objections
    cases s.autoscaler <;> cases s.ingress <;> rfl
  have hreplicas : ¬ s.replicas < 0 ↔ 0 ≤ s.replicas.toInt := by
    rw [Int32.lt_iff_toInt_lt, Int.not_lt]
    rfl
  have hbudget : ¬ (s.podDisruptionBudget.isSome = true ∧ s.mode = .sidecar) ↔
      ∀ b, s.podDisruptionBudget = some b → s.mode ≠ .sidecar := by
    cases s.podDisruptionBudget <;> simp
  have hports : (∀ entry ∈ s.ports.zipIdx, entry.1.WellFormed) ↔
      ∀ o ∈ s.ports, o.WellFormed := by
    rw [← List.forall_mem_map (f := Prod.fst) (P := PortOverride.WellFormed),
      List.zipIdx_map_fst]
  rw [isValid, List.isEmpty_iff, hsplit]
  simp only [List.append_eq_nil_iff, ite_eq_right_iff, List.cons_ne_nil, imp_false,
    Objection.elim_eq_nil_iff, List.flatMap_eq_nil_iff, Autoscaler.objections_eq_nil_iff,
    IngressSettings.objections_eq_nil_iff, PortOverride.objections_eq_nil_iff, hreplicas,
    hbudget, hports]
  constructor
  · rintro ⟨⟨⟨⟨hreplicas, hautoscaler⟩, hbudget⟩, hingress⟩, hports⟩
    exact ⟨hreplicas, hautoscaler, hbudget, hingress, hports⟩
  · rintro ⟨hreplicas, hautoscaler, hbudget, hingress, hports⟩
    exact ⟨⟨⟨⟨hreplicas, hautoscaler⟩, hbudget⟩, hingress⟩, hports⟩

/-! ## Objects that the cluster admits -/

/-- What is desired keeps the bounds that the cluster expects, and each section of the spec
is made into something. -/
structure Context.Admissible (c : Context) : Prop where
  autoscalers : ∀ d ∈ c.desired, d.kind = .horizontalPodAutoscaler →
    ∃ least most : Int,
      d.object.body.at? ["spec", "minReplicas"] = some (.int least) ∧
      d.object.body.at? ["spec", "maxReplicas"] = some (.int most) ∧
      1 ≤ least ∧ least ≤ most ∧
      d.object.body.listAt ["spec", "metrics"] ≠ [] ∧
      ∀ metric ∈ d.object.body.listAt ["spec", "metrics"], ∃ target : Int,
        metric.at? ["resource", "target", "averageUtilization"] = some (.int target) ∧
        1 ≤ target ∧ target ≤ 99
  /-- A budget has just one of the bounds where its section does not set both, and both as
  they are given where it does. -/
  budgets : ∀ d ∈ c.desired, d.kind = .podDisruptionBudget →
    ∃ b, c.agent.spec.podDisruptionBudget = some b ∧
      (b.minAvailable = none ∨ b.maxUnavailable = none →
        (d.object.body.at? ["spec", "minAvailable"]).isSome ≠
          (d.object.body.at? ["spec", "maxUnavailable"]).isSome) ∧
      ∀ least most, b.minAvailable = some least → b.maxUnavailable = some most →
        d.object.body.at? ["spec", "minAvailable"] = some least.toJson ∧
        d.object.body.at? ["spec", "maxUnavailable"] = some most.toJson
  /-- Each port that has a host of its own has it below the one that is given. -/
  hosts : ∀ s, c.agent.spec.ingress = some s → s.ruleType = .subdomain →
    ∃ hostname, s.hostname = some hostname ∧ hostname ≠ "" ∧
      (∀ d ∈ c.desired, d.kind = .ingress → ∀ rule ∈ d.object.body.listAt ["spec", "rules"],
        ∃ p ∈ c.ports, rule.at? ["host"] = some (.str (p.name ++ "." ++ hostname)) ∧
          ∀ path ∈ rule.listAt ["http", "paths"],
            path.at? ["backend", "service", "port", "name"] = some (.str p.name)) ∧
      ∀ d ∈ c.desired, d.kind = .route →
        ∃ p ∈ c.ports,
          d.object.body.at? ["spec", "host"] = some (.str (p.name ++ "." ++ hostname)) ∧
          d.object.body.at? ["spec", "port", "targetPort"] = some (.str p.name)
  /-- A workload that has a number of replicas has no negative one. -/
  replicas : ∀ d ∈ c.desired, d.kind = .deployment ∨ d.kind = .statefulSet →
    ∃ n : Nat, d.object.body.at? ["spec", "replicas"] = some (.int n)
  autoscalerKept : ∀ a, c.agent.spec.autoscaler = some a → c.Has .horizontalPodAutoscaler c.name
  budgetKept : ∀ b, c.agent.spec.podDisruptionBudget = some b → c.Has .podDisruptionBudget c.name
  ingressKept : ∀ s, c.agent.spec.ingress = some s → c.ports ≠ [] →
    match s.exposure with
    | .ingress => c.Has .ingress (c.childName "ingress")
    | .route => ∀ p ∈ c.ports, c.Has .route (c.childName p.name)

theorem HorizontalAutoscaler.metricsOf_ne_nil (a : Autoscaler) : metricsOf a ≠ [] := by
  dsimp only [metricsOf]
  split
  · simp
  next hnamed => simpa using hnamed

theorem HorizontalAutoscaler.percentage_of_mem_metricsOf {a : Autoscaler} {mode : Mode}
    (ha : a.WellFormed mode) {t : UtilizationTarget} (ht : t ∈ metricsOf a) :
    1 ≤ t.percentage.toInt ∧ t.percentage.toInt ≤ 99 := by
  dsimp only [metricsOf] at ht
  split at ht
  · obtain rfl := List.mem_singleton.mp ht
    decide
  · simp only [List.mem_append, Option.mem_toList, Option.map_eq_some_iff] at ht
    rcases ht with ⟨target, htarget, rfl⟩ | ⟨target, htarget, rfl⟩
    · exact ha.targetCpu target htarget
    · exact ha.targetMemory target htarget

theorem HorizontalAutoscaler.bounds {h : HorizontalAutoscaler}
    (hwell : c.agent.spec.WellFormed) (hh : ofContext? c = some h) :
    1 ≤ h.minReplicas.toInt ∧ h.minReplicas.toInt ≤ h.maxReplicas.toInt ∧ h.metrics ≠ [] ∧
      ∀ t ∈ h.metrics, 1 ≤ t.percentage.toInt ∧ t.percentage.toInt ≤ 99 := by
  unfold ofContext? at hh
  split at hh
  · obtain ⟨a, ha, rfl⟩ := Option.map_eq_some_iff.mp hh
    have hscaler := hwell.autoscaler a ha
    exact ⟨hscaler.least, hscaler.most, metricsOf_ne_nil a,
      fun t ht => percentage_of_mem_metricsOf hscaler ht⟩
  · simp at hh

theorem PodBudget.boundsOf_single {given : DisruptionBudget}
    (hsingle : given.minAvailable = none ∨ given.maxUnavailable = none) :
    (boundsOf given).1.isSome ≠ (boundsOf given).2.isSome := by
  cases hleast : given.minAvailable <;> cases hmost : given.maxUnavailable <;>
    simp_all [boundsOf]

theorem PodBudget.boundsOf_both {given : DisruptionBudget} {least most : PodCount}
    (hleast : given.minAvailable = some least) (hmost : given.maxUnavailable = some most) :
    boundsOf given = (some least, some most) := by
  simp [boundsOf, hleast, hmost]

theorem PodBudget.exists_boundsOf {b : PodBudget} (hb : ofContext? c = some b) :
    ∃ given, c.agent.spec.podDisruptionBudget = some given ∧
      b.minAvailable = (boundsOf given).1 ∧ b.maxUnavailable = (boundsOf given).2 := by
  unfold ofContext? at hb
  split at hb
  · simp at hb
  · obtain ⟨given, hgiven, rfl⟩ := Option.map_eq_some_iff.mp hb
    exact ⟨given, hgiven, rfl, rfl⟩

theorem Ingress.rules_of_subdomain {s : IngressSettings} (hs : c.agent.spec.ingress = some s)
    (hsubdomain : s.ruleType = .subdomain) {hostname : String}
    (hhost : s.host? = some hostname) {i : Ingress} (hi : ofContext? c = some i) :
    i.rules =
      c.ports.map fun p => { host := some (subdomain p hostname), paths := [.ofPort c "/" p] } := by
  obtain ⟨settings, hsettings, hmade⟩ := Option.bind_eq_some_iff.mp hi
  obtain rfl : settings = s :=
    Option.some.inj ((Context.exposure?_eq_some_iff.mp hsettings).1.symm.trans hs)
  obtain ⟨rules, hrules, rfl⟩ := Option.map_eq_some_iff.mp hmade
  simpa only [rules?, hsubdomain, hhost, Option.map_some, Option.some.injEq, eq_comm] using hrules

/-- Each rule of an ingress is for one port, under a host that begins with its name. -/
theorem Ingress.exists_host {s : IngressSettings} (hs : c.agent.spec.ingress = some s)
    (hsubdomain : s.ruleType = .subdomain) {hostname : String}
    (hhost : s.host? = some hostname) {i : Ingress} (hi : ofContext? c = some i)
    {rule : Json} (hrule : rule ∈ i.body.listAt ["spec", "rules"]) :
    ∃ p ∈ c.ports, rule.at? ["host"] = some (.str (subdomain p hostname)) ∧
      ∀ path ∈ rule.listAt ["http", "paths"],
        path.at? ["backend", "service", "port", "name"] = some (.str p.name) := by
  rw [i.listAt_rules, rules_of_subdomain hs hsubdomain hhost hi, List.map_map] at hrule
  obtain ⟨p, hp, rfl⟩ := List.mem_map.mp hrule
  refine ⟨p, hp, IngressRule.at?_host _, ?_⟩
  intro path hpath
  rw [Function.comp_apply, IngressRule.listAt_paths] at hpath
  obtain rfl := List.mem_singleton.mp hpath
  exact IngressPath.at?_portName _

theorem Route.exists_host {s : IngressSettings} (hs : c.agent.spec.ingress = some s)
    (hsubdomain : s.ruleType = .subdomain) {hostname : String}
    (hhost : s.host? = some hostname) {r : Route} (hr : r ∈ allOfContext c) :
    ∃ p ∈ c.ports, r.body.at? ["spec", "host"] = some (.str (subdomain p hostname)) ∧
      r.body.at? ["spec", "port", "targetPort"] = some (.str p.name) := by
  obtain ⟨settings, hsettings, -, p, hp, rfl⟩ := mem_allOfContext.mp hr
  obtain rfl : settings = s := Option.some.inj (hsettings.symm.trans hs)
  obtain ⟨hhostname, -⟩ := IngressSettings.host?_eq_some_iff.mp hhost
  have hfilled : subdomain p hostname ≠ "" := by
    simp [subdomain]
  have hmade : (ofPort c settings p).host = some (subdomain p hostname) := by
    simp [ofPort, hsubdomain, hhostname, hfilled]
  refine ⟨p, hp, ?_, at?_portName _⟩
  rw [at?_host, hmade]
  rfl

theorem Workload.at?_replicas {form : WorkloadForm}
    (hform : WorkloadForm.ofMode? c c.mode = some form)
    (hkind : form.kind = .deployment ∨ form.kind = .statefulSet) :
    (ofForm c form).body.at? ["spec", "replicas"] =
      some (.ofInt32 c.agent.spec.replicas) := by
  apply at?_body_of_mem
  cases hmode : c.mode with
  | deployment | statefulSet =>
      rw [hmode] at hform
      obtain rfl := Option.some.inj hform
      simp [specFields, ofForm, WorkloadForm.fields]
  | daemonSet =>
      rw [hmode] at hform
      obtain rfl := Option.some.inj hform
      simp [WorkloadForm.kind] at hkind
  | sidecar => simp [hmode, WorkloadForm.ofMode?] at hform

theorem Context.admissible (hwell : c.agent.spec.WellFormed) : c.Admissible := by
  refine ⟨?autoscalers, ?budgets, ?hosts, ?replicas, ?autoscalerKept, ?budgetKept, ?ingressKept⟩
  case autoscalers =>
    intro d hd hkind
    obtain ⟨_, ⟨h, hh, rfl⟩, rfl⟩ := exists_part_of_mem hd hkind
    obtain ⟨hleast, hmost, hmetrics, htargets⟩ := HorizontalAutoscaler.bounds hwell hh
    have hlisted : (Manifest.autoscaler h).desired.object.body.listAt ["spec", "metrics"] =
        h.metrics.map UtilizationTarget.toJson := h.listAt_metrics
    refine ⟨_, _, h.at?_minReplicas, h.at?_maxReplicas, hleast, hmost, ?_, ?_⟩
    · rw [hlisted]
      simpa using hmetrics
    · intro metric hmetric
      rw [hlisted] at hmetric
      obtain ⟨t, ht, rfl⟩ := List.mem_map.mp hmetric
      exact ⟨_, t.at?_percentage, htargets t ht⟩
  case budgets =>
    intro d hd hkind
    obtain ⟨_, ⟨b, hb, rfl⟩, rfl⟩ := exists_part_of_mem hd hkind
    have hleast : (Manifest.podBudget b).desired.object.body.at? ["spec", "minAvailable"] =
        b.minAvailable.map PodCount.toJson := b.at?_minAvailable
    have hmost : (Manifest.podBudget b).desired.object.body.at? ["spec", "maxUnavailable"] =
        b.maxUnavailable.map PodCount.toJson := b.at?_maxUnavailable
    obtain ⟨given, hgiven, hfirst, hsecond⟩ := PodBudget.exists_boundsOf hb
    rw [hleast, hmost, hfirst, hsecond]
    refine ⟨given, hgiven, fun hsingle => ?_, fun least most hl hm => ?_⟩
    · simpa using PodBudget.boundsOf_single hsingle
    · rw [PodBudget.boundsOf_both hl hm]
      exact ⟨rfl, rfl⟩
  case hosts =>
    intro s hs hsubdomain
    obtain ⟨hostname, hhostname, hne⟩ := (hwell.ingress s hs).host hsubdomain
    have hhost := IngressSettings.host?_eq_some_iff.mpr ⟨hhostname, hne⟩
    refine ⟨hostname, hhostname, hne, ?_, ?_⟩
    · intro d hd hkind rule hrule
      obtain ⟨_, ⟨i, hi, rfl⟩, rfl⟩ := exists_part_of_mem hd hkind
      exact Ingress.exists_host hs hsubdomain hhost hi hrule
    · intro d hd hkind
      obtain ⟨_, ⟨r, hr, rfl⟩, rfl⟩ := exists_part_of_mem hd hkind
      exact Route.exists_host hs hsubdomain hhost hr
  case replicas =>
    intro d hd hkind
    have hworkload : d.kind ∈ Kind.workloads := by
      rcases hkind with hkind | hkind <;> simp [hkind, Kind.workloads]
    obtain ⟨form, hform, rfl⟩ := exists_workload_of_mem hd hworkload
    obtain ⟨n, hn⟩ := Int.eq_ofNat_of_zero_le hwell.replicas
    refine ⟨n, (Workload.at?_replicas hform hkind).trans ?_⟩
    rw [Json.ofInt32, hn]
  case autoscalerKept =>
    intro a ha
    exact (Requests.autoscaler ha (hwell.autoscaler a ha).mode).has
  case budgetKept =>
    intro b hb
    exact (Requests.podBudget hb (hwell.budget b hb)).has
  case ingressKept =>
    intro s hs hports
    split
    next hexposure => exact (Requests.ingress hs hexposure hports (hwell.ingress s hs).host).has
    next hexposure => exact fun p hp => (Requests.route hs hexposure hp).has

/-- What a valid spec is made into keeps the bounds that the cluster expects, and each of its
sections is made into something, whatever the configuration of the operator and the families
of receivers.  Only a budget whose section sets both bounds is left with both. -/
theorem valid_desired_is_admissible {agent : Agent} (hvalid : agent.spec.isValid = true)
    (config : OperatorConfig) (families : List Family) :
    (Context.ofAgent agent config families).Admissible :=
  Context.admissible (Spec.isValid_iff.mp hvalid)

/-- An agent that is scaled, keeps half of its pods, and has a host for each port. -/
def Agent.scaled : Agent :=
  { metadata := { name := some "a", namespaceName := some "ns" }
    spec :=
      { ports := [{ name := "otlp", port := 4317, protocol := .tcp, targetPort := none }]
        autoscaler := some
          { minReplicas := none, maxReplicas := 3, targetCpu := some 80, targetMemory := none }
        podDisruptionBudget := some
          { minAvailable := some (.text "50%"), maxUnavailable := none }
        ingress := some
          { exposure := .ingress
            hostname := some "example.com"
            ruleType := .subdomain
            className := none
            annotations := ∅
            tlsSecretName := none } }
    status := none }

theorem valid_desired_is_admissible_scaled :
    Agent.scaled.spec.isValid = true ∧
      ((Context.ofAgent Agent.scaled {} Family.table).desired.map Desired.kind).filter
          (fun kind => kind ∈ [.ingress, .horizontalPodAutoscaler, .podDisruptionBudget]) =
        [.ingress, .horizontalPodAutoscaler, .podDisruptionBudget] ∧
      (Context.ofAgent Agent.scaled {} Family.table).Admissible := by
  have hvalid : Agent.scaled.spec.isValid = true := by decide
  exact ⟨hvalid, by decide +kernel, valid_desired_is_admissible hvalid {} Family.table⟩

/-- An agent whose budget sets both bounds. -/
def Agent.doublyBudgeted : Agent :=
  { metadata := { name := some "a", namespaceName := some "ns" }
    spec :=
      { podDisruptionBudget := some
          { minAvailable := some (.count 1), maxUnavailable := some (.count 1) } }
    status := none }

/-- A spec whose budget sets both bounds is valid, and its budget is left with both. -/
theorem valid_budget_with_both_bounds :
    Agent.doublyBudgeted.spec.isValid = true ∧
      ∃ d ∈ (Context.ofAgent Agent.doublyBudgeted {} Family.table).desired,
        d.kind = .podDisruptionBudget ∧
          d.object.body.at? ["spec", "minAvailable"] = some (.int 1) ∧
          d.object.body.at? ["spec", "maxUnavailable"] = some (.int 1) := by
  decide +kernel

end AgentOperator
