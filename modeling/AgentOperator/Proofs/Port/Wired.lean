import AgentOperator.Proofs.Port.Groups

/-!
# Receivers that pipelines refer to

What is not wired into a pipeline opens no port.  The groups of ports of a document are
determined by the receivers that some pipeline lists and by the order in which they are
configured; which pipelines list them, how often, and what else the document has makes no
difference.
-/

namespace AgentOperator

namespace Receiver

open Yaml (Value)

variable {document other config block : Value} {name text : String} {p : Port}
  {group : PortGroup}

/-! ## What is wired -/

/-- Some pipeline of the document lists a receiver of the name. -/
def IsWired (document : Value) (name : String) : Prop :=
  ∃ pipelines, (document.at? ["service", "pipelines"]).bind Value.map? = some pipelines ∧
    ∃ pipeline ∈ pipelines,
      ∃ listed, (pipeline.2.get? "receivers").bind Value.seq? = some listed ∧
        ∃ receiver ∈ listed, receiver.str? = some name

theorem mem_enabled_iff : name ∈ enabled document ↔ IsWired document name := by
  unfold enabled IsWired
  cases (document.at? ["service", "pipelines"]).bind Value.map? with
  | none => simp
  | some pipelines =>
      simp only [List.mem_flatMap, List.mem_filterMap, Option.some.injEq, exists_eq_left']
      refine exists_congr fun pipeline => and_congr_right fun _ => ?_
      cases (pipeline.2.get? "receivers").bind Value.seq? <;> simp

instance : Decidable (IsWired document name) := decidable_of_iff _ mem_enabled_iff

/-- The receivers of the document that have texts for keys, in order. -/
def named (document : Value) : List (String × Value) :=
  (((document.get? "receivers").bind Value.map?).getD []).filterMap fun entry =>
    entry.1.str?.map fun name => (name, entry.2)

/-- The receivers of the document that are wired, in order. -/
def wired (document : Value) : List (String × Value) :=
  (named document).filter fun entry => IsWired document entry.1

/-- The groups of a document come from the receivers that are wired, one after the other. -/
theorem groupsOf_eq (document : Value) :
    groupsOf document =
      (wired document).flatMap fun entry => (ports entry.1 entry.2).map fun p => [p] := by
  unfold groupsOf wired named
  cases (document.get? "receivers").bind Value.map? with
  | none => rfl
  | some receivers =>
      simp only [Option.getD_some]
      induction receivers with
      | nil => rfl
      | cons entry rest ih =>
          rw [List.flatMap_cons, ih]
          cases hkey : entry.1.str? with
          | none => simp [hkey]
          | some name =>
              by_cases hwired : IsWired document name
              · simp [hkey, hwired, mem_enabled_iff.mpr hwired]
              · simp [hkey, hwired, mt mem_enabled_iff.mp hwired]

/-! ## Ports of receivers -/

theorem range_endpointPort? (block : Value) {usual : Int} (husual : 1 ≤ usual ∧ usual ≤ 65535) :
    1 ≤ (endpointPort? block).getD usual ∧ (endpointPort? block).getD usual ≤ 65535 := by
  cases hport : endpointPort? block with
  | none => exact husual
  | some number => exact Port.range_of_address hport

theorem range_perProtocol : ∀ row ∈ perProtocol, 1 ≤ row.2.2.1 ∧ row.2.2.1 ≤ 65535 := by
  decide

theorem range_singlePort : ∀ row ∈ singlePort, 1 ≤ row.2.1 ∧ row.2.1 ≤ 65535 := by
  decide

theorem exists_port_of_mem_ports (hmem : p ∈ ports name config) :
    ∃ label number protocol,
      p = port label number protocol ∧ 1 ≤ number ∧ number ≤ 65535 := by
  unfold ports at hmem
  simp only at hmem
  split at hmem
  next row rows hrows =>
    split at hmem
    · simp at hmem
    · obtain ⟨used, hused, hport⟩ := List.mem_filterMap.mp hmem
      obtain ⟨block, -, rfl⟩ := Option.map_eq_some_iff.mp hport
      rw [← hrows] at hused
      have husual := range_perProtocol used (List.mem_filter.mp hused).1
      exact ⟨_, _, _, rfl, range_endpointPort? block husual⟩
  next =>
    split at hmem
    next kind usual transport hfound =>
      obtain rfl := List.mem_singleton.mp hmem
      have husual := range_singlePort _ (List.mem_of_find?_eq_some hfound)
      exact ⟨_, _, _, rfl, range_endpointPort? config husual⟩
    next =>
      split at hmem
      next number hnumber =>
        obtain rfl := List.mem_singleton.mp hmem
        exact ⟨_, _, _, rfl, Port.range_of_address hnumber⟩
      next => simp at hmem

/-- Each port of a document is a group of its own. -/
theorem exists_port_of_mem_groupsOf (hgroup : group ∈ groupsOf document) :
    ∃ label number protocol,
      group = [port label number protocol] ∧ 1 ≤ number ∧ number ≤ 65535 := by
  rw [groupsOf_eq] at hgroup
  obtain ⟨entry, -, hentry⟩ := List.mem_flatMap.mp hgroup
  obtain ⟨p, hp, rfl⟩ := List.mem_map.mp hentry
  obtain ⟨label, number, protocol, rfl, hrange⟩ := exists_port_of_mem_ports hp
  exact ⟨label, number, protocol, rfl, hrange⟩

theorem exists_port_of_mem_groupsOfText (hgroup : group ∈ groupsOfText text) :
    ∃ label number protocol,
      group = [port label number protocol] ∧ 1 ≤ number ∧ number ≤ 65535 := by
  unfold groupsOfText at hgroup
  split at hgroup
  · exact exists_port_of_mem_groupsOf hgroup
  · simp at hgroup

/-- Two documents in which the same receivers are wired, in one order, ask for the same
groups of ports, each of one port of the pipelines.  The names that pipelines list and
under which nothing is configured make no difference either. -/
theorem only_wired_receivers_matter (hwired : wired document = wired other) :
    groupsOf document = groupsOf other ∧
      (∀ text same, Yaml.read? text = some document → Yaml.read? same = some other →
        groupsOfText text = groupsOfText same) ∧
      ∀ group ∈ groupsOf document,
        ∃ p, group = [p] ∧ 1 ≤ p.number ∧ p.number ≤ 65535 ∧ p.feature = "otel" := by
  have hgroups : groupsOf document = groupsOf other := by
    rw [groupsOf_eq, groupsOf_eq, hwired]
  refine ⟨hgroups, ?_, ?_⟩
  · intro text same hread hsame
    unfold groupsOfText
    rw [hread, hsame]
    exact hgroups
  · intro group hgroup
    obtain ⟨label, number, protocol, rfl, hlower, hupper⟩ := exists_port_of_mem_groupsOf hgroup
    exact ⟨_, rfl, hlower, hupper, rfl⟩

/-- One receiver for traces, and one that no pipeline lists. -/
def plainDocument : Value :=
  .map [
    (.str "receivers", .map [
      (.str "otlp/in", .map [(.str "protocols", .map [(.str "grpc", .null)])]),
      (.str "zipkin", .null)]),
    (.str "service", .map [(.str "pipelines", .map [
      (.str "traces", .map [(.str "receivers", .seq [.str "otlp/in"])])])])]

/-- The same receiver for metrics and logs, among others that no pipeline lists. -/
def crowdedDocument : Value :=
  .map [
    (.str "exporters", .map [(.str "debug", .null)]),
    (.str "service", .map [(.str "pipelines", .map [
      (.str "metrics", .map [(.str "receivers", .seq [.str "otlp/in", .int 1, .str "otlp/in"])]),
      (.str "logs", .map [(.str "receivers", .seq [.str "otlp/in"])])])]),
    (.str "receivers", .map [
      (.str "statsd", .null),
      (.int 7, .null),
      (.str "otlp/in", .map [(.str "protocols", .map [(.str "grpc", .null)])])])]

theorem only_wired_receivers_matter_crowded :
    wired plainDocument = wired crowdedDocument ∧
      groupsOf plainDocument = groupsOf crowdedDocument ∧
      groupsOf plainDocument = [[port "otlp-in-grpc" 4317 .tcp]] := by
  have hwired : wired plainDocument = wired crowdedDocument := by rfl
  exact ⟨hwired, (only_wired_receivers_matter hwired).1, by decide +kernel⟩

end Receiver

end AgentOperator
