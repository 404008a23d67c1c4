import AgentOperator.Proofs.Port.Refusal
import Mathlib.Data.List.Nodup

/-!
# Ports that are never lost

Without overrides a port that a usual family registers is resolved, under its own name
or under the one made from its number.  Names are shared only by ports that are
registered on their own, so the number of a port that has to give way to another is its
alone, and the name made from it is free.  A group is registered whole or not at all,
so it is resolved whole or not at all.
-/

namespace AgentOperator

open Family (IsUsual AreUsual sharedNames usualNames)

/-! ## What tells registered ports apart -/

namespace Port

variable {accepted before ports : List Port} {p q d : Port} {tag : String}

/-- A port and one that is registered behind it. -/
structure Apart (q p : Port) : Prop where
  address : q.address ≠ p.address
  /-- Only ports of the open protocol share their names. -/
  name : q.name = p.name → p.name ∈ sharedNames
  /-- A port with a shared name has a number of its own. -/
  number : p.name ∈ sharedNames → q.number ≠ p.number

end Port

namespace Family

theorem usualNames_valid : ∀ entry ∈ usualNames,
    Port.isValidName entry.2 = true ∧ Port.truncateName entry.2 = entry.2 ∧
      entry.2.toList.head? ≠ some 'p' := by
  decide

theorem usualNames_shared : ∀ entry ∈ usualNames, ∀ other ∈ usualNames,
    entry.2 = other.2 → entry.1 = other.1 ∨ other.2 ∈ sharedNames := by
  decide

theorem eq_of_tag_eq {family other : Family} (hfamily : family ∈ table)
    (hother : other ∈ table) (htag : family.tag = other.tag) : family = other := by
  have hdistinct : (table.map Family.tag).Nodup := by decide
  exact List.inj_on_of_nodup_map hdistinct hfamily hother htag

/-- Two usual ports of one document with one name are the same, unless the name is
shared. -/
theorem eq_of_name_eq {family other : Family} (hfamily : family ∈ table)
    (hother : other ∈ table) {document : Json} {group another : PortGroup}
    (hgroup : group ∈ family.groupsIn document) (hanother : another ∈ other.groupsIn document)
    {q p : Port} (hq : q ∈ group) (hp : p ∈ another) (hname : q.name = p.name)
    (hown : p.name ∉ sharedNames) : q = p := by
  obtain ⟨block, hblock⟩ := exists_block_of_mem hgroup
  obtain ⟨block', hblock'⟩ := exists_block_of_mem hanother
  have husual := areUsual_of_mem_table hfamily block
  have husual' := areUsual_of_mem_table hother block'
  have hqUsual := husual.usual group (hblock ▸ hgroup) q hq
  have hpUsual := husual'.usual another (hblock' ▸ hanother) p hp
  have htag : family.tag = other.tag :=
    (usualNames_shared _ hqUsual.named _ hpUsual.named hname).resolve_right hown
  obtain rfl := eq_of_tag_eq hfamily hother htag
  rw [hblock] at hgroup hanother
  exact List.inj_on_of_nodup_map husual.names
    (List.mem_flatten_of_mem hgroup hq) (List.mem_flatten_of_mem hanother hp) hname

end Family

/-! ## Registering usual groups -/

namespace PortRegistry

variable {document : Json} {group : PortGroup}

/-- The registry holds usual ports of the document that are told apart. -/
structure HoldsUsual (document : Json) (r : PortRegistry) : Prop where
  origin : ∀ p ∈ r.ports, ∃ family ∈ Family.table, ∃ group ∈ family.groupsIn document,
    p ∈ group
  apart : r.ports.Pairwise Port.Apart

theorem pairwise_apart_of_areUsual {tag : String} {groups : List PortGroup}
    (husual : AreUsual tag groups) (hgroup : group ∈ groups) :
    group.Pairwise Port.Apart := by
  have hnames : group.Pairwise fun q p => q.name ≠ p.name := by
    have hnodup := husual.names.sublist
      ((List.sublist_flatten_of_mem hgroup).map Port.name)
    exact List.pairwise_map.mp hnodup
  refine (hnames.and (husual.addresses group hgroup)).imp_of_mem ?_
  intro q p hq hp hne
  refine ⟨hne.2, fun heq => absurd heq hne.1, fun hshared => ?_⟩
  have halone := husual.alone group hgroup p hp hshared
  rw [halone] at hq
  exact absurd (List.mem_singleton.mp hq) fun heq => hne.1 (by rw [heq])

theorem holdsUsual_registerAll {groups : List PortGroup}
    (hgroups : ∀ group ∈ groups, ∃ family ∈ Family.table, group ∈ family.groupsIn document) :
    HoldsUsual document (registerAll {} groups) := by
  constructor
  · intro p hp
    rcases mem_registerAll hp with hnone | ⟨group, hgroup, hin, -⟩
    · simp at hnone
    · obtain ⟨family, hfamily, hdocument⟩ := hgroups group hgroup
      exact ⟨family, hfamily, group, hdocument, hin⟩
  · apply pairwise_registerAll
    · intro group hgroup
      obtain ⟨family, hfamily, hdocument⟩ := hgroups group hgroup
      obtain ⟨block, hblock⟩ := Family.exists_block_of_mem hdocument
      exact pairwise_apart_of_areUsual (Family.areUsual_of_mem_table hfamily block)
        (hblock ▸ hdocument)
    · intro another hanother group hgroup q hq p hp hnumber
      refine ⟨fun heq => hnumber (congrArg Prod.fst heq), ?_, fun _ => hnumber⟩
      intro hname
      by_contra hown
      obtain ⟨other, hother, hanotherIn⟩ := hgroups another hanother
      obtain ⟨family, hfamily, hgroupIn⟩ := hgroups group hgroup
      exact hnumber (congrArg Port.number
        (Family.eq_of_name_eq hother hfamily hanotherIn hgroupIn hq hp hname hown))

end PortRegistry

namespace Family

/-- What usual families register is usual, and told apart. -/
theorem registered_usual {families : List Family}
    (hfamilies : ∀ family ∈ families, family ∈ table) (config : String) :
    (∀ p ∈ (PortRegistry.registerAll {} (groupsOfText families config)).ports,
      ∃ tag, IsUsual tag p) ∧
    (PortRegistry.registerAll {} (groupsOfText families config)).ports.Pairwise
      Port.Apart := by
  cases hread : Json.read? config with
  | none =>
      have hnone : groupsOfText families config = [] := by
        unfold groupsOfText
        rw [hread]
      rw [hnone]
      exact ⟨by simp [PortRegistry.registerAll], .nil⟩
  | some document =>
      have hgroups : ∀ group ∈ groupsOfText families config,
          ∃ family ∈ table, group ∈ family.groupsIn document := by
        intro group hmem
        obtain ⟨document', hread', family, hfamily, hgroup⟩ := mem_groupsOfText.mp hmem
        obtain rfl := Option.some.inj (hread.symm.trans hread')
        exact ⟨family, hfamilies family hfamily, hgroup⟩
      have hholds := PortRegistry.holdsUsual_registerAll hgroups
      refine ⟨?_, hholds.apart⟩
      intro p hmem
      obtain ⟨family, hfamily, group, hgroup, hp⟩ := hholds.origin p hmem
      obtain ⟨block, hblock⟩ := exists_block_of_mem hgroup
      exact ⟨family.tag, (areUsual_of_mem_table hfamily block).usual group
        (hblock ▸ hgroup) p hp⟩

end Family

/-! ## Accepting usual ports -/

namespace Port

variable {families : List Family} {config : String} {otel : Option String}
  {accepted before ports : List Port} {p q d e : Port} {tag : String}

/-- The port, under its own name or under the one made from its number. -/
def StandsFor (q p : Port) : Prop := q = p ∨ q = { p with name := p.fallbackName }

theorem StandsFor.address (hstands : StandsFor q p) : q.address = p.address := by
  rcases hstands with rfl | rfl <;> rfl

theorem number_eq_of_fallbackName (hp : 1 ≤ p.number) (hd : 1 ≤ d.number)
    (heq : p.fallbackName = d.fallbackName) : p.number = d.number := by
  obtain ⟨m, hm⟩ : ∃ m : Nat, p.number = m := ⟨p.number.toNat, by omega⟩
  obtain ⟨n, hn⟩ : ∃ n : Nat, d.number = n := ⟨d.number.toNat, by omega⟩
  unfold fallbackName at heq
  rw [hm, hn] at heq
  have hsame : m = n := Text.eq_of_toString_eq ((String.append_right_inj _).mp heq)
  rw [hm, hn, hsame]

/-- No usual port has the name made from a number. -/
theorem name_ne_fallbackName (hp : IsUsual tag p) (d : Port) : p.name ≠ d.fallbackName := by
  intro heq
  have hhead := (Family.usualNames_valid _ hp.named).2.2
  apply hhead
  show p.name.toList.head? = some 'p'
  rw [heq, fallbackName, String.toList_append]
  rfl

/-- An accepted port that has the name of a usual one stands for a port with that name. -/
theorem name_eq_of_standsFor (hp : IsUsual tag p) (hstands : StandsFor q d)
    (hname : q.name = p.name) : d.name = p.name := by
  rcases hstands with rfl | rfl
  · exact hname
  · exact absurd hname.symm (name_ne_fallbackName hp d)

/-- The name made from the number of a usual port is free, if no port before it has
its number. -/
theorem name_ne_fallbackName_of_standsFor (hp : IsUsual tag p) {other : String}
    (hd : IsUsual other d) (hnumber : d.number ≠ p.number) (hstands : StandsFor q d) :
    q.name ≠ p.fallbackName := by
  rcases hstands with rfl | rfl
  · exact name_ne_fallbackName hd p
  · intro heq
    exact hnumber (number_eq_of_fallbackName hd.number.1 hp.number.1 heq)

/-- A usual port that is told apart from those before it is accepted. -/
theorem exists_accept (hp : IsUsual tag p)
    (hbefore : ∀ d ∈ before, (∃ tag, IsUsual tag d) ∧ Apart d p)
    (haccepted : ∀ q ∈ accepted, ∃ d ∈ before, StandsFor q d) :
    ∃ q, StandsFor q p ∧ accept accepted p = accepted ++ [q] := by
  obtain ⟨hvalid, htruncated, -⟩ := Family.usualNames_valid _ hp.named
  have hnot : ¬ IsRefused accepted p := by
    intro hrefused
    cases hrefused with
    | unpublishable hunfit =>
        have hcontainer : p.containerPort = p.number := by simp [containerPort, hp.target]
        have hpublishable : p.isPublishable = true :=
          isPublishable_iff.mpr ⟨htruncated.symm ▸ hvalid, hp.number, hcontainer ▸ hp.number⟩
        rw [hpublishable] at hunfit
        contradiction
    | addressTaken htaken =>
        obtain ⟨q, hq, haddress⟩ := htaken
        obtain ⟨d, hd, hstands⟩ := haccepted q hq
        exact (hbefore d hd).2.address (hstands.address.symm.trans haddress)
    | namesTaken hown hfallback =>
        -- Only a port of a shared name can have taken the name, and none of these has
        -- taken the other one.
        obtain ⟨q, hq, hname⟩ := hown
        obtain ⟨d, hd, hstands⟩ := haccepted q hq
        have hshared := (hbefore d hd).2.name
          (name_eq_of_standsFor hp hstands (hname.trans htruncated))
        obtain ⟨r, hr, hsame⟩ := hfallback
        obtain ⟨e, he, hother⟩ := haccepted r hr
        obtain ⟨⟨other, husual⟩, hapart⟩ := hbefore e he
        exact name_ne_fallbackName_of_standsFor hp husual (hapart.number hshared) hother hsame
  obtain ⟨-, q, hlisted, hadded⟩ := exists_accept_of_not_isRefused hnot
  refine ⟨q, ?_, hadded⟩
  rw [hlisted.rest]
  rcases hlisted.named with hname | hname
  · rw [hname, htruncated]
    exact .inl rfl
  · rw [hname]
    exact .inr rfl

/-- Usual ports that are told apart are all accepted. -/
theorem exists_standsFor_foldl (before accepted : List Port)
    (husual : ∀ p ∈ before ++ ports, ∃ tag, IsUsual tag p)
    (hapart : (before ++ ports).Pairwise Apart)
    (haccepted : ∀ q ∈ accepted, ∃ d ∈ before, StandsFor q d) :
    ∀ p ∈ ports, ∃ q ∈ ports.foldl accept accepted, StandsFor q p := by
  induction ports generalizing before accepted with
  | nil => simp
  | cons first rest ih =>
      obtain ⟨tag, hfirst⟩ := husual first (by simp)
      obtain ⟨q, hstands, hadded⟩ := exists_accept (p := first) hfirst (fun d hd =>
        ⟨husual d (List.mem_append_left _ hd),
          (List.pairwise_append.mp hapart).2.2 d hd first List.mem_cons_self⟩) haccepted
      have hassoc : before ++ first :: rest = (before ++ [first]) ++ rest := by simp
      rw [hassoc] at husual hapart
      have hnext : ∀ other ∈ accepted ++ [q], ∃ d ∈ before ++ [first], StandsFor other d := by
        intro other hmem
        rcases List.mem_append.mp hmem with hold | hnew
        · obtain ⟨d, hd, hother⟩ := haccepted other hold
          exact ⟨d, List.mem_append_left _ hd, hother⟩
        · obtain rfl := List.mem_singleton.mp hnew
          exact ⟨first, by simp, hstands⟩
      intro p hp
      rw [List.foldl_cons, hadded]
      rcases List.mem_cons.mp hp with rfl | hlater
      · obtain ⟨added, hfold, -⟩ := exists_foldl_accept (accepted ++ [q]) rest
        rw [hfold]
        exact ⟨q, by simp, hstands⟩
      · exact ih _ _ husual hapart hnext p hlater

/-! ## What is resolved -/

/-- A port that usual families register is resolved, whatever the pipelines. -/
theorem exists_standsFor_resolve (hfamilies : ∀ family ∈ families, family ∈ Family.table)
    (config : String) (otel : Option String) :
    ∀ p ∈ (PortRegistry.registerAll {} (Family.groupsOfText families config)).ports,
      ∃ q ∈ resolve families config otel [], StandsFor q p := by
  obtain ⟨husual, hapart⟩ := Family.registered_usual hfamilies config
  have hfront : (PortRegistry.registerAll {} (Family.groupsOfText families config)).ports <+:
      candidates [] (derived families config otel) := by
    rw [derived_eq, PortRegistry.registerAll_append]
    simpa [candidates] using PortRegistry.prefix_registerAll _ (pipelineGroups otel)
  intro p hp
  obtain ⟨q, hq, hstands⟩ := exists_standsFor_foldl [] [] husual hapart (by simp) p hp
  exact ⟨q, finalize_subset_of_prefix hfront (mem_finalize.mpr hq), hstands⟩

theorem StandsFor.exists_name (hstands : StandsFor q p) :
    ∃ name, (name = p.name ∨ name = p.fallbackName) ∧ q = { p with name } := by
  rcases hstands with rfl | rfl
  · exact ⟨_, .inl rfl, rfl⟩
  · exact ⟨_, .inr rfl, rfl⟩

/-- The families that take several ports in one group. -/
def compoundFamilies : List Family := [.applicationSignals, .emf, .xray]

theorem mem_table_of_compound {family : Family} (hcompound : family ∈ compoundFamilies) :
    family ∈ Family.table := by
  have hrows : ∀ family ∈ compoundFamilies, family ∈ Family.table := by
    simp [compoundFamilies, Family.table]
  exact hrows family hcompound

theorem exists_groups_of_compound {family : Family} (hcompound : family ∈ compoundFamilies)
    (block : Json) : ∃ group, family.groups block = [group] := by
  simp only [compoundFamilies, List.mem_cons, List.not_mem_nil, or_false] at hcompound
  rcases hcompound with rfl | rfl | rfl <;> exact ⟨_, rfl⟩

/-- A port with the tag of a usual family is derived from one of its groups, and the group
is registered whole. -/
theorem exists_group_of_feature (hfamilies : ∀ family ∈ families, family ∈ Family.table)
    {family : Family} (hfamily : family ∈ Family.table)
    (hq : q ∈ resolve families config otel []) (hfeature : q.feature = family.tag) :
    ∃ document, Json.read? config = some document ∧ ∃ group ∈ family.groupsIn document,
      ∀ p ∈ group,
        p ∈ (PortRegistry.registerAll {} (Family.groupsOfText families config)).ports := by
  obtain ⟨rest, hperm, horigin⟩ := exists_resolve_perm families config otel []
  obtain ⟨d, hd, heq⟩ := horigin q (by simpa [ofOverrides, finalize] using hperm.mem_iff.mp hq)
  have htag : d.feature = family.tag := by rwa [heq] at hfeature
  rw [derived_eq, PortRegistry.registerAll_append] at hd
  rcases PortRegistry.mem_registerAll hd with hagent | ⟨group, hgroup, hin, -⟩
  · rcases PortRegistry.mem_registerAll hagent with hnone | ⟨group, hgroup, hin, hwhole⟩
    · simp at hnone
    · obtain ⟨document, hread, other, hother, hgroup⟩ := Family.mem_groupsOfText.mp hgroup
      obtain ⟨block, hblock⟩ := Family.exists_block_of_mem hgroup
      have hotherTable := hfamilies other hother
      have husual := (Family.areUsual_of_mem_table hotherTable block).usual group
        (hblock ▸ hgroup) d hin
      obtain rfl := Family.eq_of_tag_eq hotherTable hfamily (husual.feature.symm.trans htag)
      exact ⟨document, hread, group, hgroup, hwhole⟩
  · have hpipeline := feature_of_mem_pipelineGroups hgroup hin
    have hnone : ∀ family ∈ Family.table, family.tag ≠ Receiver.feature := by
      simp [Family.table, Family.applicationSignals, Family.statsd, Family.collectd,
        Family.jmx, Family.otlpMetrics, Family.emf, Family.otlpLogs, Family.xray,
        Family.otlpTraces, Receiver.feature]
    exact absurd (htag.symm.trans hpipeline) (hnone family hfamily)

/-- Without overrides each port that usual families register is resolved under its own name
or under the one made from its number.  The groups of the families that take several ports
at once are resolved whole, or nothing of the family is. -/
theorem resolve_retains_agent_ports {families : List Family}
    (hfamilies : ∀ family ∈ families, family ∈ Family.table) (config : String)
    (otel : Option String) :
    (∀ p ∈ (PortRegistry.registerAll {} (Family.groupsOfText families config)).ports,
      ∃ name, (name = p.name ∨ name = "port-" ++ toString p.number) ∧
        { p with name } ∈ resolve families config otel []) ∧
    ∀ family ∈ [Family.applicationSignals, Family.emf, Family.xray],
      ∀ group ∈ Family.groupsOfText [family] config,
        (∀ p ∈ group, ∃ name, (name = p.name ∨ name = "port-" ++ toString p.number) ∧
          { p with name } ∈ resolve families config otel []) ∨
        ∀ q ∈ resolve families config otel [], q.feature ≠ family.tag := by
  have hretained : ∀ p ∈
      (PortRegistry.registerAll {} (Family.groupsOfText families config)).ports,
      ∃ name, (name = p.name ∨ name = "port-" ++ toString p.number) ∧
        { p with name } ∈ resolve families config otel [] := by
    intro p hp
    obtain ⟨q, hq, hstands⟩ := exists_standsFor_resolve hfamilies config otel p hp
    obtain ⟨name, hname, rfl⟩ := hstands.exists_name
    exact ⟨name, hname, hq⟩
  refine ⟨hretained, ?_⟩
  intro family hcompound group hgroup
  by_cases hshown : ∃ q ∈ resolve families config otel [], q.feature = family.tag
  · obtain ⟨q, hq, hfeature⟩ := hshown
    obtain ⟨document, hread, other, hother, hwhole⟩ :=
      exists_group_of_feature hfamilies (mem_table_of_compound hcompound) hq hfeature
    obtain ⟨document', hread', other', hsingle, hin⟩ := Family.mem_groupsOfText.mp hgroup
    obtain rfl := Option.some.inj (hread.symm.trans hread')
    obtain rfl := List.mem_singleton.mp hsingle
    obtain ⟨block, hblock⟩ := Family.exists_block_of_mem hin
    obtain ⟨only, honly⟩ := exists_groups_of_compound hcompound block
    rw [hblock, honly] at hin hother
    obtain rfl := List.mem_singleton.mp hin
    obtain rfl := List.mem_singleton.mp hother
    exact .inl fun p hp => hretained p (hwhole p hp)
  · exact .inr fun q hq hfeature => hshown ⟨q, hq, hfeature⟩

/-- A configuration in which two receivers share a name and two want one port. -/
def crowdedConfig : String :=
  "\x7b\"metrics\":\x7b\"metrics_collected\":\x7b\"otlp\":\x7b\x7d\x7d\x7d," ++
    "\"logs\":\x7b\"metrics_collected\":\x7b\"emf\":\x7b\x7d\x7d\x7d," ++
    "\"traces\":\x7b\"traces_collected\":\x7b\"otlp\":\x7b\"grpc_endpoint\":\":5317\"\x7d," ++
    "\"xray\":\x7b\"bind_address\":\":4318\"\x7d\x7d\x7d\x7d"

/-- A table with a row that stands twice. -/
def doubledTable : List Family :=
  [.otlpMetrics, .emf, .otlpTraces, .xray, .emf]

set_option maxRecDepth 10000 in
theorem resolve_retains_agent_ports_crowded :
    (∃ name, (name = "otlp-grpc" ∨ name = "port-5317") ∧
      { Family.port "otlp-traces" "otlp-grpc" 5317 .tcp with name } ∈
        resolve doubledTable crowdedConfig none []) ∧
    ∃ name, (name = "emf-udp" ∨ name = "port-25888") ∧
      { Family.port "emf" "emf-udp" 25888 .udp with name } ∈
        resolve doubledTable crowdedConfig none [] := by
  have hrows : ∀ family ∈ doubledTable, family ∈ Family.table := by
    simp [doubledTable, Family.table]
  obtain ⟨hretained, hwhole⟩ := resolve_retains_agent_ports hrows crowdedConfig none
  obtain ⟨hregistered, hgroup, hshown⟩ :
      Family.port "otlp-traces" "otlp-grpc" 5317 .tcp ∈ (PortRegistry.registerAll {}
        (Family.groupsOfText doubledTable crowdedConfig)).ports ∧
      [Family.port "emf" "emf-tcp" 25888 .tcp, Family.port "emf" "emf-udp" 25888 .udp] ∈
        Family.groupsOfText [.emf] crowdedConfig ∧
      Family.port "emf" "emf-tcp" 25888 .tcp ∈
        (candidates [] (derived doubledTable crowdedConfig none)).foldl accept [] := by
    decide +kernel
  refine ⟨hretained _ hregistered, ?_⟩
  rcases hwhole .emf (by simp) _ hgroup with hall | hnone
  · exact hall (Family.port "emf" "emf-udp" 25888 .udp) (by simp)
  · exact absurd rfl (hnone _ (mem_finalize.mpr hshown))

end Port

end AgentOperator
