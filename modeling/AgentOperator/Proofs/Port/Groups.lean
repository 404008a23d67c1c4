import AgentOperator.Port.Resolver
import AgentOperator.Proofs.Port.Address
import AgentOperator.Proofs.Port.Registry

/-!
# Groups of ports

Where the ports of an agent come from.  Each port of a usual family has the tag of the
family for its feature.
-/

namespace AgentOperator

/-! ## The groups of a configuration -/

namespace Family

theorem groupsOfText_append (first second : List Family) (config : String) :
    groupsOfText (first ++ second) config =
      groupsOfText first config ++ groupsOfText second config := by
  unfold groupsOfText groupsOf
  cases Json.read? config with
  | none => rfl
  | some document => exact List.flatMap_append

/-- The groups of a configuration are those of the blocks of its document. -/
theorem mem_groupsOfText {families : List Family} {config : String} {group : PortGroup} :
    group ∈ groupsOfText families config ↔
      ∃ document, Json.read? config = some document ∧
        ∃ family ∈ families, group ∈ family.groupsIn document := by
  unfold groupsOfText groupsOf
  cases Json.read? config with
  | none => simp
  | some document => simp

theorem exists_block_of_mem {family : Family} {document : Json} {group : PortGroup}
    (hmem : group ∈ family.groupsIn document) :
    ∃ block, family.groupsIn document = family.groups block := by
  unfold groupsIn at *
  split at hmem
  next block hblock => exact ⟨block, rfl⟩
  next => simp at hmem

/-- Whatever the block, no port of the family passes for an override. -/
def TagsApart (family : Family) : Prop :=
  ∀ block, ∀ group ∈ family.groups block, ∀ p ∈ group, p.feature ≠ Port.overrideFeature

/-! ## The usual families -/

/-- The tags of the usual families with the names of their ports. -/
def usualNames : List (String × String) :=
  [("application_signals", "appsig-grpc"), ("application_signals", "appsig-http"),
    ("application_signals", "appsig-xray"), ("statsd", "statsd"), ("collectd", "collectd"),
    ("jmx", "jmx-http"), ("otlp-metrics", "otlp-grpc"), ("otlp-metrics", "otlp-http"),
    ("emf", "emf-tcp"), ("emf", "emf-udp"), ("otlp-logs", "otlp-grpc"),
    ("otlp-logs", "otlp-http"), ("xray", "aws-traces"), ("xray", "aws-proxy"),
    ("otlp-traces", "otlp-grpc"), ("otlp-traces", "otlp-http")]

/-- The names that ports of several families have. -/
def sharedNames : List String := ["otlp-grpc", "otlp-http"]

/-- The port is one of a usual family with the tag. -/
structure IsUsual (tag : String) (p : Port) : Prop where
  feature : p.feature = tag
  named : (tag, p.name) ∈ usualNames
  number : 1 ≤ p.number ∧ p.number ≤ 65535
  target : p.target = none

/-- What the groups of a usual family with the tag satisfy. -/
structure AreUsual (tag : String) (groups : List PortGroup) : Prop where
  usual : ∀ group ∈ groups, ∀ p ∈ group, IsUsual tag p
  /-- No two ports of the family have one name. -/
  names : (groups.flatten.map Port.name).Nodup
  addresses : ∀ group ∈ groups, group.Pairwise fun p q => p.address ≠ q.address
  alone : ∀ group ∈ groups, ∀ p ∈ group, p.name ∈ sharedNames → group = [p]

theorem addressPort_range (block : Json) (key : String) (usual : Int)
    (husual : 1 ≤ usual ∧ usual ≤ 65535) :
    1 ≤ addressPort block key usual ∧ addressPort block key usual ≤ 65535 := by
  unfold addressPort
  split
  next n hport =>
    obtain ⟨address, -, haddress⟩ := Option.bind_eq_some_iff.mp hport
    have hrange := Port.range_of_ofAddress? haddress
    omega
  next => exact husual

@[simp] theorem isUsual_port {tag name : String} {number : Int} {protocol : Protocol} :
    IsUsual tag (port tag name number protocol) ↔
      (tag, name) ∈ usualNames ∧ 1 ≤ number ∧ number ≤ 65535 :=
  ⟨fun husual => ⟨husual.named, husual.number⟩,
    fun ⟨hnamed, hnumber⟩ => ⟨rfl, hnamed, hnumber, rfl⟩⟩

/-- A port that the family takes on its own. -/
theorem areUsual_single {tag : String} {p : Port} (husual : IsUsual tag p) :
    AreUsual tag [[p]] := by
  constructor
  · simpa using husual
  · simp
  · simp
  · simp

theorem areUsual_applicationSignals (block : Json) :
    AreUsual "application_signals"
      (applicationSignalsGroups block "application_signals") := by
  unfold applicationSignalsGroups
  constructor
  · simp [usualNames]
  · simp [port]
  · simp [port, Port.address]
  · simp [port, sharedNames]

theorem areUsual_statsd (block : Json) : AreUsual "statsd" (statsdGroups block "statsd") := by
  have hrange := addressPort_range block "service_address" 8125 (by decide)
  exact areUsual_single (by simp [usualNames, hrange])

theorem areUsual_collectd (block : Json) :
    AreUsual "collectd" (collectdGroups block "collectd") := by
  have hrange := addressPort_range block "service_address" 25826 (by decide)
  exact areUsual_single (by simp [usualNames, hrange])

theorem areUsual_jmx (block : Json) : AreUsual "jmx" (jmxGroups block "jmx") :=
  areUsual_single (by simp [usualNames])

theorem areUsual_otlp {tag : String} (hnamed : ∀ name ∈ sharedNames, (tag, name) ∈ usualNames)
    (block : Json) : AreUsual tag (otlpGroups block tag) := by
  have hgrpc := addressPort_range block "grpc_endpoint" 4317 (by decide)
  have hhttp := addressPort_range block "http_endpoint" 4318 (by decide)
  unfold otlpGroups
  constructor
  · have hgrpcNamed := hnamed "otlp-grpc" (by decide)
    have hhttpNamed := hnamed "otlp-http" (by decide)
    simp [hgrpcNamed, hhttpNamed, hgrpc, hhttp]
  · simp [port]
  · simp
  · simp

theorem areUsual_emf (block : Json) : AreUsual "emf" (emfGroups block "emf") := by
  have hrange := addressPort_range block "service_address" 25888 (by decide)
  unfold emfGroups
  constructor
  · simp [usualNames, hrange]
  · simp [port]
  · simp [port, Port.address]
  · simp [port, sharedNames]

theorem areUsual_xray (block : Json) : AreUsual "xray" (xrayGroups block "xray") := by
  have htraces := addressPort_range block "bind_address" 2000 (by decide)
  have hproxy := addressPort_range ((block.field? "tcp_proxy").getD .null) "bind_address" 2000
    (by decide)
  unfold xrayGroups
  constructor
  · simp [usualNames, htraces, hproxy]
  · simp [port]
  · simp [port, Port.address]
  · simp [port, sharedNames]

theorem areUsual_of_mem_table {family : Family} (hfamily : family ∈ table) (block : Json) :
    AreUsual family.tag (family.groups block) := by
  simp only [table, List.mem_cons, List.not_mem_nil, or_false] at hfamily
  rcases hfamily with rfl | rfl | rfl | rfl | rfl | rfl | rfl | rfl | rfl
  · exact areUsual_applicationSignals block
  · exact areUsual_statsd block
  · exact areUsual_collectd block
  · exact areUsual_jmx block
  · exact areUsual_otlp (by decide) block
  · exact areUsual_emf block
  · exact areUsual_otlp (by decide) block
  · exact areUsual_xray block
  · exact areUsual_otlp (by decide) block

theorem tag_ne_of_usualNames :
    ∀ entry ∈ usualNames, entry.1 ≠ Port.overrideFeature ∧ entry.1 ≠ Receiver.feature := by
  decide

theorem tagsApart_of_mem_table {family : Family} (hfamily : family ∈ table) :
    family.TagsApart := by
  intro block group hgroup p hp
  have husual := (areUsual_of_mem_table hfamily block).usual group hgroup p hp
  rw [husual.feature]
  exact (tag_ne_of_usualNames _ husual.named).1

end Family

end AgentOperator
