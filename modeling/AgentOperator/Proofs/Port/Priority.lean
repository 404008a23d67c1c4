import AgentOperator.Proofs.Port.Listing
import AgentOperator.Proofs.Port.Wired

/-!
# Priority of sources

Ports are taken from the overrides first, then from the rows of the table in order,
then from the pipelines.  Each stage goes through its input in that order and only
adds to what it has, so what comes later in the input takes nothing away from what
comes earlier.
-/

namespace AgentOperator.Port

variable {families first second : List Family} {config : String} {otel : Option String}
  {overrides : List PortOverride} {accepted ports more : List Port} {p q : Port}

/-! ## Accepting more -/

/-- Accepting ports adds some of them, perhaps under other names, to what was accepted. -/
theorem exists_foldl_accept (accepted ports : List Port) :
    ∃ added, ports.foldl accept accepted = accepted ++ added ∧
      ∀ q ∈ added, ∃ p ∈ ports, q = { p with name := q.name } := by
  induction ports generalizing accepted with
  | nil => exact ⟨[], by simp, by simp⟩
  | cons p rest ih =>
      obtain ⟨added, hfold, horigin⟩ := ih (accept accepted p)
      have hrest : ∀ q ∈ added, ∃ other ∈ p :: rest, q = { other with name := q.name } := by
        intro q hq
        obtain ⟨other, hother, heq⟩ := horigin q hq
        exact ⟨other, List.mem_cons_of_mem p hother, heq⟩
      rcases accept_cases accepted p with hsame | ⟨name, -, -, hadded⟩
      · exact ⟨added, by rw [List.foldl_cons, hfold, hsame], hrest⟩
      · refine ⟨{ p with name } :: added, ?_, ?_⟩
        · rw [List.foldl_cons, hfold, hadded, List.append_assoc]
          rfl
        · intro q hq
          rcases List.mem_cons.mp hq with rfl | hlater
          · exact ⟨p, List.mem_cons_self, rfl⟩
          · exact hrest q hlater

theorem mem_finalize : p ∈ finalize ports ↔ p ∈ ports.foldl accept [] :=
  (finalize_perm ports).mem_iff

/-- What is listed of some candidates is listed with more candidates behind them. -/
theorem finalize_subset_of_prefix (hfront : ports <+: more) :
    finalize ports ⊆ finalize more := by
  obtain ⟨behind, rfl⟩ := hfront
  intro p hmem
  rw [mem_finalize] at *
  obtain ⟨added, hfold, -⟩ := exists_foldl_accept (ports.foldl accept []) behind
  rw [List.foldl_append, hfold]
  exact List.mem_append_left added hmem

/-! ## The ports that are derived -/

/-- The groups of the pipelines, if there are any. -/
def pipelineGroups (otel : Option String) : List PortGroup :=
  match Text.given? otel with
  | some text => Receiver.groupsOfText text
  | none => []

theorem derived_eq (families : List Family) (config : String) (otel : Option String) :
    derived families config otel =
      (PortRegistry.registerAll {}
        (Family.groupsOfText families config ++ pipelineGroups otel)).ports :=
  rfl

theorem exists_port_of_mem_pipelineGroups {group : PortGroup}
    (hgroup : group ∈ pipelineGroups otel) :
    ∃ label number protocol, group = [Receiver.port label number protocol] := by
  unfold pipelineGroups at hgroup
  split at hgroup
  · obtain ⟨label, number, protocol, hport, -⟩ := Receiver.exists_port_of_mem_groupsOfText hgroup
    exact ⟨label, number, protocol, hport⟩
  · simp at hgroup

theorem feature_of_mem_pipelineGroups {group : PortGroup}
    (hgroup : group ∈ pipelineGroups otel) (hp : p ∈ group) :
    p.feature = Receiver.feature := by
  obtain ⟨label, number, protocol, rfl⟩ := exists_port_of_mem_pipelineGroups hgroup
  obtain rfl := List.mem_singleton.mp hp
  rfl

/-- What the first rows of a table give stands in front of all that is derived. -/
theorem derived_prefix_append (first second : List Family) (config : String)
    (otel : Option String) :
    derived first config none <+: derived (first ++ second) config otel := by
  have hnone : pipelineGroups none = [] := rfl
  rw [derived_eq, derived_eq, hnone, List.append_nil, Family.groupsOfText_append,
    List.append_assoc, PortRegistry.registerAll_append]
  exact PortRegistry.prefix_registerAll _ _

theorem candidates_prefix_candidates (hfront : ports <+: more) (overrides : List Port) :
    candidates overrides ports <+: candidates overrides more :=
  (List.prefix_append_right_inj overrides).mpr (hfront.filter _)

/-- A derived port is one of a block of the table or of the pipelines. -/
theorem mem_derived (hmem : p ∈ derived families config otel) :
    (∃ family ∈ families, ∃ block, ∃ group ∈ family.groups block, p ∈ group) ∨
      ∃ label number protocol, p = Receiver.port label number protocol := by
  rw [derived_eq] at hmem
  rcases PortRegistry.mem_registerAll hmem with hnone | ⟨group, hgroup, hp, -⟩
  · simp at hnone
  · rcases List.mem_append.mp hgroup with hfamily | hpipeline
    · obtain ⟨document, -, family, hmem, hin⟩ := Family.mem_groupsOfText.mp hfamily
      obtain ⟨block, hblock⟩ := Family.exists_block_of_mem hin
      exact .inl ⟨family, hmem, block, group, hblock ▸ hin, hp⟩
    · obtain ⟨label, number, protocol, rfl⟩ := exists_port_of_mem_pipelineGroups hpipeline
      exact .inr ⟨label, number, protocol, List.mem_singleton.mp hp⟩

theorem feature_ne_of_mem_derived (hapart : ∀ family ∈ families, family.TagsApart)
    (hmem : p ∈ derived families config otel) : p.feature ≠ overrideFeature := by
  rcases mem_derived hmem with ⟨family, hfamily, block, group, hgroup, hp⟩ | hpipeline
  · exact hapart family hfamily block group hgroup p hp
  · obtain ⟨label, number, protocol, rfl⟩ := hpipeline
    show Receiver.feature ≠ overrideFeature
    decide

/-! ## The ports of overrides -/

/-- The ports that a list of overrides gives. -/
def ofOverrides (overrides : List PortOverride) : List Port :=
  finalize (overrides.map ofOverride)

theorem feature_of_mem_ofOverrides (hmem : p ∈ ofOverrides overrides) :
    p.feature = overrideFeature := by
  obtain ⟨added, hfold, horigin⟩ := exists_foldl_accept [] (overrides.map ofOverride)
  have hadded : p ∈ added := by
    have haccepted := mem_finalize.mp hmem
    rwa [hfold, List.nil_append] at haccepted
  obtain ⟨d, hd, heq⟩ := horigin p hadded
  obtain ⟨o, -, rfl⟩ := List.mem_map.mp hd
  rw [heq]
  rfl

/-- What is resolved is what the overrides give on their own, and beside it derived
ports, perhaps under other names. -/
theorem exists_resolve_perm (families : List Family) (config : String)
    (otel : Option String) (overrides : List PortOverride) :
    ∃ rest, (resolve families config otel overrides).Perm (ofOverrides overrides ++ rest) ∧
      ∀ q ∈ rest, ∃ d ∈ derived families config otel, q = { d with name := q.name } := by
  obtain ⟨rest, hfold, horigin⟩ := exists_foldl_accept
    ((overrides.map ofOverride).foldl accept [])
    ((derived families config otel).filter fun d =>
      !(overrides.map ofOverride).any d.isReplacedBy)
  refine ⟨rest, ?_, ?_⟩
  · calc
      (resolve families config otel overrides).Perm
          ((candidates (overrides.map ofOverride)
            (derived families config otel)).foldl accept []) := finalize_perm _
      _ = (overrides.map ofOverride).foldl accept [] ++ rest := by
          rw [← hfold]
          exact List.foldl_append
      List.Perm _ (ofOverrides overrides ++ rest) :=
          (finalize_perm _).symm.append_right rest
  · intro q hq
    obtain ⟨d, hd, heq⟩ := horigin q hq
    exact ⟨d, (List.mem_filter.mp hd).1, heq⟩

/-- Where no row of the table passes its ports off as overrides, the ports of overrides
are those with their feature. -/
theorem filter_resolve (hapart : ∀ family ∈ families, family.TagsApart) :
    (resolve families config otel overrides).filter
        (fun p => p.feature == overrideFeature) = ofOverrides overrides := by
  obtain ⟨rest, hperm, horigin⟩ := exists_resolve_perm families config otel overrides
  have hown : (ofOverrides overrides).filter (fun p => p.feature == overrideFeature) =
      ofOverrides overrides := by
    rw [List.filter_eq_self]
    intro p hmem
    simpa using feature_of_mem_ofOverrides hmem
  have hrest : rest.filter (fun p => p.feature == overrideFeature) = [] := by
    rw [List.filter_eq_nil_iff]
    intro q hq
    obtain ⟨d, hd, heq⟩ := horigin q hq
    rw [heq]
    simpa using feature_ne_of_mem_derived hapart hd
  have hfiltered := hperm.filter fun p => p.feature == overrideFeature
  rw [List.filter_append, hown, hrest, List.append_nil] at hfiltered
  refine hfiltered.eq_of_pairwise ?_ ((precedes_finalize _).filter _) (precedes_finalize _)
  intro p q _ _ hpq hqp
  exact absurd hqp hpq.asymm

/-- A configuration in which two receivers want one port. -/
def contestedConfig : String :=
  "\x7b\"metrics\":\x7b\"metrics_collected\":\x7b\"statsd\":\x7b\x7d," ++
    "\"collectd\":\x7b\"service_address\":\":8125\"\x7d\x7d\x7d\x7d"

/-- Pipelines with a receiver of their own. -/
def zipkinPipelines : String :=
  "receivers:\n  zipkin:\nservice:\n  pipelines:\n    traces:\n      receivers: [zipkin]\n"

/-- An override that nothing else asks for. -/
def extraOverride : PortOverride :=
  { name := "extra", port := 9000, protocol := .tcp, targetPort := some 9001 }

/-- A row that passes its ports off as overrides. -/
def disguisedStatsd : Family := { Family.statsd with tag := overrideFeature }

end AgentOperator.Port
