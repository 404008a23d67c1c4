import AgentOperator.Proofs.Manifest.Contents
import AgentOperator.Proofs.Port.Groups

/-!
# References among desired objects

The objects of an agent refer to each other by name: a way in to a service and one of its
ports, a stateful set to the service that governs it, pods to config maps and to an account.
Each reference and what it refers to are built apart from each other, and every reference
leads to an object that is desired as well.  What several objects list, they list alike.
-/

namespace AgentOperator

variable {c : Context} {d : Desired} {service port : String}

/-! ## What is referred to -/

/-- A service of the name is desired that carries a port of the name. -/
def Context.Serves (c : Context) (service port : String) : Prop :=
  ∃ d ∈ c.desired, (d.kind = .service ∧ d.object.name = service) ∧
    ∃ p ∈ d.object.body.listAt ["spec", "ports"], p.at? ["name"] = some (.str port)

/-- A config map of the name is desired that has the key. -/
def Context.Provides (c : Context) (configMap key : String) : Prop :=
  ∃ d ∈ c.desired, (d.kind = .configMap ∧ d.object.name = configMap) ∧
    ∃ text, d.object.body.at? ["data", key] = some (.str text)

/-- A port as it is listed: its name, its protocol, and the port of the container, which
stands at a key of its own. -/
def Json.listedPort? (target : String) (p : Json) : Option (String × String × Int) := do
  let name ← (p.at? ["name"]).bind Json.str?
  let protocol ← (p.at? ["protocol"]).bind Json.str?
  let number ← (p.at? [target]).bind Json.int?
  return (name, protocol, number)

/-- The services of the receivers and the containers, those that are desired, list these
ports: names, protocols and the ports of the container. -/
structure Context.ListsPorts (c : Context) (listing : List (String × String × Int)) :
    Prop where
  names : (listing.map Prod.fst).Nodup
  services : ∀ d ∈ c.desired, d.kind = .service →
    d.object.name = c.name ∨ d.object.name = c.childName "headless" →
    (d.object.body.listAt ["spec", "ports"]).map (Json.listedPort? "targetPort") =
      listing.map some
  containers : ∀ d ∈ c.desired, d.kind ∈ Kind.workloads →
    ∃ container,
      d.object.body.listAt ["spec", "template", "spec", "containers"] = [container] ∧
      (container.listAt ["ports"]).map (Json.listedPort? "containerPort") = listing.map some

/-- The agent is watched at the port: the service for that has it, and pods announce it. -/
structure Context.WatchedAt (c : Context) (n : Int) : Prop where
  lower : 1 ≤ n
  upper : n ≤ 65535
  present : c.Has .service (c.childName "monitoring")
  services : ∀ d ∈ c.desired, d.kind = .service → d.object.name = c.childName "monitoring" →
    (d.object.body.listAt ["spec", "ports"]).map (fun p => p.at? ["port"]) = [some (.int n)]
  pods : ∀ d ∈ c.desired, d.kind ∈ Kind.workloads →
    d.object.body.at? ["spec", "template", "metadata", "annotations", "prometheus.io/port"] =
      some (.str (toString n))

/-- What is desired refers to what is desired. -/
structure Context.RefersWithin (c : Context) : Prop where
  ingress : ∀ d ∈ c.desired, d.kind = .ingress →
    ∀ rule ∈ d.object.body.listAt ["spec", "rules"], ∀ path ∈ rule.listAt ["http", "paths"],
      ∃ service port,
        path.at? ["backend", "service", "name"] = some (.str service) ∧
        path.at? ["backend", "service", "port", "name"] = some (.str port) ∧
        c.Serves service port
  routes : ∀ d ∈ c.desired, d.kind = .route →
    d.object.body.at? ["spec", "to", "kind"] = some (.str Kind.service.name) ∧
      ∃ service port,
        d.object.body.at? ["spec", "to", "name"] = some (.str service) ∧
        d.object.body.at? ["spec", "port", "targetPort"] = some (.str port) ∧
        c.Serves service port
  governing : ∀ d ∈ c.desired, d.kind = .statefulSet →
    ∃ service, d.object.body.at? ["spec", "serviceName"] = some (.str service) ∧
      c.Has .service service
  /-- Pods have one volume, made of keys of config maps. -/
  files : ∀ d ∈ c.desired, d.kind ∈ Kind.workloads →
    ∃ volume, d.object.body.listAt ["spec", "template", "spec", "volumes"] = [volume] ∧
      ∀ source ∈ volume.listAt ["projected", "sources"],
        ∃ configMap, source.at? ["configMap", "name"] = some (.str configMap) ∧
          ∀ item ∈ source.listAt ["configMap", "items"],
            ∃ key, item.at? ["key"] = some (.str key) ∧ c.Provides configMap key
  /-- Pods run as an account that is desired, or as the one that the agent names. -/
  accounts : ∀ d ∈ c.desired, d.kind ∈ Kind.workloads →
    ∃ account,
      d.object.body.at? ["spec", "template", "spec", "serviceAccountName"] =
        some (.str account) ∧
      (c.Has .serviceAccount account ∨
        c.agent.spec.serviceAccount = some account ∧ account ≠ "")
  ports : ∃ listing, c.ListsPorts listing
  watched : ∃ n, c.WatchedAt n

/-! ## Ways in -/

/-- Whatever leads to a port of the agent leads to one that its service carries. -/
theorem Context.serves_of_mem {p : Port} (hp : p ∈ c.ports) : c.Serves c.name p.name := by
  obtain ⟨s, hs⟩ := Service.exists_receivers_iff.mpr (List.ne_nil_of_mem hp)
  refine ⟨_, mem_desired.mpr ⟨_, .receivers hs, rfl⟩,
    ⟨rfl, Manifest.name_eq_of_isOf (Service.isMade_receivers hs).metadata⟩,
    (ServicePort.ofPort p).toJson, ?_, (ServicePort.ofPort p).at?_name⟩
  show (ServicePort.ofPort p).toJson ∈ s.body.listAt ["spec", "ports"]
  rw [s.listAt_ports, Service.ports_of_receivers hs]
  exact List.mem_map_of_mem (List.mem_map_of_mem hp)

theorem Ingress.exists_port {i : Ingress} (hi : ofContext? c = some i) {r : IngressRule}
    (hr : r ∈ i.rules) {way : IngressPath} (hway : way ∈ r.paths) :
    ∃ p ∈ c.ports, way.service = c.name ∧ way.portName = p.name := by
  obtain ⟨s, -, hmade⟩ := Option.bind_eq_some_iff.mp hi
  obtain ⟨rules, hrules, rfl⟩ := Option.map_eq_some_iff.mp hmade
  unfold rules? at hrules
  split at hrules
  · obtain rfl := Option.some.inj hrules
    obtain rfl := List.mem_singleton.mp hr
    obtain ⟨p, hp, rfl⟩ := List.mem_map.mp hway
    exact ⟨p, hp, rfl, rfl⟩
  · obtain ⟨host, -, rfl⟩ := Option.map_eq_some_iff.mp hrules
    obtain ⟨p, hp, rfl⟩ := List.mem_map.mp hr
    obtain rfl := List.mem_singleton.mp hway
    exact ⟨p, hp, rfl, rfl⟩

/-- Each path of an ingress leads to a port of a service. -/
theorem Ingress.exists_backend {i : Ingress} (hi : ofContext? c = some i) {rule path : Json}
    (hrule : rule ∈ i.body.listAt ["spec", "rules"])
    (hpath : path ∈ rule.listAt ["http", "paths"]) :
    ∃ service port,
      path.at? ["backend", "service", "name"] = some (.str service) ∧
      path.at? ["backend", "service", "port", "name"] = some (.str port) ∧
      c.Serves service port := by
  rw [i.listAt_rules] at hrule
  obtain ⟨r, hr, rfl⟩ := List.mem_map.mp hrule
  rw [r.listAt_paths] at hpath
  obtain ⟨way, hway, rfl⟩ := List.mem_map.mp hpath
  obtain ⟨p, hp, hservice, hport⟩ := exists_port hi hr hway
  refine ⟨_, _, way.at?_service, way.at?_portName, ?_⟩
  rw [hservice, hport]
  exact Context.serves_of_mem hp

/-! ## Pods -/

theorem ConfigMap.get?_data_single (c : Context) (name key value : String) :
    (single c name key value).data.get? key = some value :=
  Dict.get?_insert_self ∅ key value

theorem PodTemplate.provides_of_mem_filesOf {f : ConfigFile} (hf : f ∈ filesOf c) :
    c.Provides f.configMap f.key := by
  rcases List.mem_cons.mp hf with rfl | hpipelines
  · refine ⟨_, Context.mem_desired.mpr ⟨_, .config, rfl⟩, ⟨rfl, rfl⟩, c.agent.spec.config, ?_⟩
    show (ConfigMap.agent c).body.at? ["data", agentConfigKey] = _
    rw [ConfigMap.at?_data, ConfigMap.agent, ConfigMap.get?_data_single]
    rfl
  · split at hpipelines
    next text htext =>
      obtain rfl := List.mem_singleton.mp hpipelines
      have hm : ConfigMap.pipelines? c =
          some (.single c (c.childName "otel") otelConfigKey text) :=
        Option.map_eq_some_iff.mpr ⟨text, htext, rfl⟩
      refine ⟨_, Context.mem_desired.mpr ⟨_, .pipelines hm, rfl⟩, ⟨rfl, rfl⟩, text, ?_⟩
      show (ConfigMap.single c _ otelConfigKey text).body.at? ["data", otelConfigKey] = _
      rw [ConfigMap.at?_data, ConfigMap.get?_data_single]
      rfl
    next => simp at hpipelines

/-- Each source of the volume of the pods names keys that a config map has. -/
theorem PodTemplate.provides_of_mem_sources {source : Json}
    (hsource : source ∈ (filesOf c).map ConfigFile.toJson) :
    ∃ configMap, source.at? ["configMap", "name"] = some (.str configMap) ∧
      ∀ item ∈ source.listAt ["configMap", "items"],
        ∃ key, item.at? ["key"] = some (.str key) ∧ c.Provides configMap key := by
  obtain ⟨f, hf, rfl⟩ := List.mem_map.mp hsource
  refine ⟨_, f.at?_name, ?_⟩
  intro item hitem
  rw [f.listAt_items] at hitem
  obtain rfl := List.mem_singleton.mp hitem
  exact ⟨f.key, by simp, provides_of_mem_filesOf hf⟩

theorem Context.has_account_or_given (c : Context) :
    c.Has .serviceAccount c.accountName ∨
      c.agent.spec.serviceAccount = some c.accountName ∧ c.accountName ≠ "" := by
  unfold accountName
  cases hgiven : c.givenAccount? with
  | some name => exact .inr (givenAccount?_eq_some_iff.mp hgiven)
  | none =>
      refine .inl (Requests.account ?_).has
      intro name hname
      by_cases hempty : name = ""
      · exact hempty
      · rw [givenAccount?_eq_some_iff.mpr ⟨hname, hempty⟩] at hgiven
        simp at hgiven

/-! ## Listed ports -/

/-- The ports of an agent as they are to be listed. -/
def Context.listing (c : Context) : List (String × String × Int) :=
  c.ports.map fun p => (p.name, p.protocol.name, p.containerPort)

theorem ServicePort.listedPort?_toJson (p : ServicePort) :
    p.toJson.listedPort? "targetPort" = some (p.name, p.protocol.name, p.targetPort) := by
  simp [Json.listedPort?, toJson, Json.str?, Json.int?]

theorem ContainerPort.listedPort?_toJson (p : ContainerPort) :
    p.toJson.listedPort? "containerPort" = some (p.name, p.protocol.name, p.containerPort) := by
  simp [Json.listedPort?, toJson, Json.str?, Json.int?]

theorem Service.map_listedPort? {s : Service} (hs : s.ports = portsOf c) :
    (s.body.listAt ["spec", "ports"]).map (Json.listedPort? "targetPort") =
      c.listing.map some := by
  rw [s.listAt_ports, hs, portsOf, Context.listing, List.map_map, List.map_map, List.map_map]
  exact List.map_congr_left fun p _ => (ServicePort.ofPort p).listedPort?_toJson

theorem Container.map_listedPort? (c : Context) :
    ((Container.ofContext c).toJson.listAt ["ports"]).map (Json.listedPort? "containerPort") =
      c.listing.map some := by
  rw [Container.listAt_ports, ofContext, Context.listing, List.map_map, List.map_map,
    List.map_map]
  exact List.map_congr_left fun p _ => (ContainerPort.ofPort p).listedPort?_toJson

/-- The service that an agent is watched by is neither of those for its receivers. -/
theorem Service.ports_eq_of_name {s : Service}
    (hs : receivers? c = some s ∨ headless? c = some s ∨ s = monitoring c)
    (hname : (Manifest.service s).name = c.name ∨
      (Manifest.service s).name = c.childName "headless") : s.ports = portsOf c := by
  rcases hs with hreceivers | hheadless | rfl
  · exact ports_of_receivers hreceivers
  · exact ports_of_headless hheadless
  · exfalso
    rw [Manifest.name_eq_of_isOf (m := .service _) isMade_monitoring.metadata] at hname
    rcases hname with hname | hname
    · exact c.childName_ne_name _ hname
    · exact absurd (c.childName_injective hname) (by decide)

theorem Context.listsPorts_listing (hports : Port.NamesDistinct c.ports) :
    c.ListsPorts c.listing := by
  refine ⟨?names, ?services, ?containers⟩
  case names =>
    unfold listing
    rw [List.map_map, List.Nodup, List.pairwise_map]
    exact hports
  case services =>
    intro d hd hkind hname
    obtain ⟨_, ⟨s, hs, rfl⟩, rfl⟩ := exists_part_of_mem hd hkind
    exact Service.map_listedPort? (Service.ports_eq_of_name hs hname)
  case containers =>
    intro d hd hkind
    obtain ⟨form, -, rfl⟩ := exists_workload_of_mem hd hkind
    refine ⟨_, ?_, Container.map_listedPort? c⟩
    show (Workload.ofForm c form).body.listAt _ = _
    rw [Workload.listAt_template, PodTemplate.listAt_containers]
    rfl

/-! ## Where an agent is watched -/

theorem Receiver.monitoringPort_range (otel : Option String) :
    1 ≤ monitoringPort otel ∧ monitoringPort otel ≤ 65535 := by
  unfold monitoringPort
  cases hport : ((Text.given? otel).bind Yaml.read?).bind monitoringPortOf? with
  | none => decide
  | some number =>
      obtain ⟨document, -, hdocument⟩ := Option.bind_eq_some_iff.mp hport
      exact Port.range_of_address hdocument

theorem PodTemplate.get?_monitoringPort (c : Context) :
    (annotationsOf c).get? "prometheus.io/port" = some (toString c.monitoringPort) :=
  get?_annotationsOf_of_mem (by simp [operatorAnnotations])

theorem Context.watchedAt_monitoringPort
    (hrange : 1 ≤ c.monitoringPort ∧ c.monitoringPort ≤ 65535) :
    c.WatchedAt c.monitoringPort := by
  refine ⟨hrange.1, hrange.2, Requests.monitoring.has, ?services, ?pods⟩
  case services =>
    intro d hd hkind hname
    obtain ⟨_, ⟨s, hs, rfl⟩, rfl⟩ := exists_part_of_mem hd hkind
    have hmonitoring : s = .monitoring c := by
      rcases hs with hs | hs | hs
      · exact absurd (hname.symm.trans
          (Manifest.name_eq_of_isOf (Service.isMade_receivers hs).metadata))
          (c.childName_ne_name _)
      · have hheadless := Manifest.name_eq_of_isOf (m := .service s)
          (Service.isMade_headless hs).metadata
        exact absurd (c.childName_injective (hname.symm.trans hheadless)) (by decide)
      · exact hs
    subst hmonitoring
    show ((Service.monitoring c).body.listAt _).map _ = _
    rw [Service.listAt_ports]
    simp [Service.monitoring, ServicePort.toJson]
  case pods =>
    intro d hd hkind
    obtain ⟨form, -, rfl⟩ := exists_workload_of_mem hd hkind
    show (Workload.ofForm c form).body.at? _ = _
    rw [Workload.at?_template, PodTemplate.at?_annotation]
    exact congrArg (Option.map Json.str) (PodTemplate.get?_monitoringPort c)

/-! ## Every reference -/

theorem Context.refersWithin (hports : Port.NamesDistinct c.ports)
    (hrange : 1 ≤ c.monitoringPort ∧ c.monitoringPort ≤ 65535) : c.RefersWithin := by
  refine ⟨?ingress, ?routes, ?governing, ?files, ?accounts, ⟨_, listsPorts_listing hports⟩,
    ⟨_, watchedAt_monitoringPort hrange⟩⟩
  case ingress =>
    intro d hd hkind rule hrule path hpath
    obtain ⟨_, ⟨i, hi, rfl⟩, rfl⟩ := exists_part_of_mem hd hkind
    exact Ingress.exists_backend hi hrule hpath
  case routes =>
    intro d hd hkind
    obtain ⟨_, ⟨r, hr, rfl⟩, rfl⟩ := exists_part_of_mem hd hkind
    obtain ⟨s, -, -, p, hp, rfl⟩ := Route.mem_allOfContext.mp hr
    exact ⟨Route.at?_kind _, _, _, Route.at?_service _, Route.at?_portName _, serves_of_mem hp⟩
  case governing =>
    intro d hd hkind
    obtain ⟨form, hform, rfl⟩ := exists_workload_of_mem hd (by simp [hkind, Kind.workloads])
    cases hmode : c.mode with
    | statefulSet =>
        rw [hmode] at hform
        obtain rfl := Option.some.inj hform
        exact ⟨_, Workload.at?_serviceName _ _ _, (Requests.headless (.inr hmode)).has⟩
    | deployment | daemonSet =>
        rw [hmode] at hform
        obtain rfl := Option.some.inj hform
        cases hkind
    | sidecar => simp [hmode, WorkloadForm.ofMode?] at hform
  case files =>
    intro d hd hkind
    obtain ⟨form, -, rfl⟩ := exists_workload_of_mem hd hkind
    obtain ⟨volume, hvolume, hsources⟩ := (PodTemplate.ofContext c).exists_volume
    refine ⟨volume, ?_, ?_⟩
    · show (Workload.ofForm c form).body.listAt _ = _
      rw [Workload.listAt_template]
      exact hvolume
    · intro source hsource
      rw [hsources] at hsource
      exact PodTemplate.provides_of_mem_sources hsource
  case accounts =>
    intro d hd hkind
    obtain ⟨form, -, rfl⟩ := exists_workload_of_mem hd hkind
    refine ⟨c.accountName, ?_, c.has_account_or_given⟩
    show (Workload.ofForm c form).body.at? _ = _
    rw [Workload.at?_template, PodTemplate.at?_accountName]
    rfl

/-- Every reference among the objects that are desired for an agent leads to one of them,
whatever the agent, the configuration of the operator and the families of receivers. -/
theorem desired_refers_within (agent : Agent) (config : OperatorConfig)
    (families : List Family) : (Context.ofAgent agent config families).RefersWithin :=
  Context.refersWithin (Context.namesDistinct_ofAgent agent config families)
    (Receiver.monitoringPort_range _)

end AgentOperator
