import AgentOperator.Proofs.Port.Refusal
import Mathlib.Data.List.Nodup

/-!
# What overrides take the place of

A derived port is dropped for an override that has its address or its name as the
configuration gives it.  The name under which the port would have been published is not
looked at, and neither is whether the override itself can be published.  So a derived
port may stand beside the override that was to replace it, and an override that is not
listed may still take a derived port away.  The two main results say exactly when.
-/

namespace AgentOperator

/-! ## Addresses of derived ports -/

namespace Family

/-- Whatever the block, no two ports of one group have one address. -/
def AddressesApart (family : Family) : Prop :=
  ∀ block, ∀ group ∈ family.groups block, group.Pairwise fun p q => p.address ≠ q.address

theorem addressesApart_of_mem_table {family : Family} (hfamily : family ∈ table) :
    family.AddressesApart :=
  fun block => (areUsual_of_mem_table hfamily block).addresses

end Family

namespace PortRegistry

variable {groups : List PortGroup}

/-- No two of the registered ports have one address. -/
def AddressesApart (r : PortRegistry) : Prop :=
  r.ports.Pairwise fun p q => p.address ≠ q.address

theorem addressesApart_registerAll
    (hgroups : ∀ group ∈ groups, group.Pairwise fun p q => p.address ≠ q.address) :
    (registerAll {} groups).AddressesApart := by
  refine pairwise_registerAll hgroups ?_
  intro group _ other _ p _ q _ hnumber heq
  exact hnumber (congrArg Prod.fst heq)

end PortRegistry

namespace Port

variable {families : List Family} {config : String} {otel : Option String}
  {overrides : List PortOverride} {d e p q : Port}

theorem eq_of_address_eq (hfamilies : ∀ family ∈ families, family.AddressesApart)
    (hd : d ∈ derived families config otel) (he : e ∈ derived families config otel)
    (heq : d.address = e.address) : d = e := by
  have hgroups : ∀ group ∈ Family.groupsOfText families config ++ pipelineGroups otel,
      group.Pairwise fun p q => p.address ≠ q.address := by
    intro group hmem
    rcases List.mem_append.mp hmem with hfamily | hpipeline
    · obtain ⟨document, -, family, hrow, hgroup⟩ := Family.mem_groupsOfText.mp hfamily
      obtain ⟨block, hblock⟩ := Family.exists_block_of_mem hgroup
      rw [hblock] at hgroup
      exact hfamilies family hrow block group hgroup
    · obtain ⟨label, number, protocol, rfl⟩ := exists_port_of_mem_pipelineGroups hpipeline
      exact List.pairwise_singleton _ _
  have hapart := PortRegistry.addressesApart_registerAll hgroups
  exact List.inj_on_of_nodup_map (List.pairwise_map.mpr hapart) hd he heq

/-! ## Ports that give way -/

/-- An override has the address of the port, or its whole name. -/
def IsOverridden (overrides : List PortOverride) (d : Port) : Prop :=
  ∃ o ∈ overrides, o.name = d.name ∨ (ofOverride o).address = d.address

theorem any_isReplacedBy_iff :
    (overrides.map ofOverride).any d.isReplacedBy = true ↔ d.IsOverridden overrides := by
  simp [isReplacedBy, IsOverridden, ofOverride]

theorem resolve_eq (families : List Family) (config : String) (otel : Option String)
    (overrides : List PortOverride) :
    resolve families config otel overrides =
      finalize (overrides.map ofOverride ++ (derived families config otel).filter
        fun d => !(overrides.map ofOverride).any d.isReplacedBy) :=
  rfl

theorem mem_candidates :
    p ∈ candidates (overrides.map ofOverride) (derived families config otel) ↔
      (∃ o ∈ overrides, ofOverride o = p) ∨
        p ∈ derived families config otel ∧ ¬ p.IsOverridden overrides := by
  unfold candidates
  rw [List.mem_append, List.mem_map, List.mem_filter, Bool.not_eq_true', ← Bool.not_eq_true,
    any_isReplacedBy_iff]

/-- What is resolved is an override or a derived port that gives way to none, under one of
the names that it may be given. -/
theorem exists_listedAs_of_mem_resolve (hq : q ∈ resolve families config otel overrides) :
    (∃ o ∈ overrides, (ofOverride o).isPublishable = true ∧ ListedAs (ofOverride o) q) ∨
      ∃ d ∈ derived families config otel, ¬ d.IsOverridden overrides ∧
        d.isPublishable = true ∧ ListedAs d q := by
  rcases exists_listedAs_of_mem (mem_finalize.mp hq) with hnone | ⟨p, hp, hpublishable, hlisted⟩
  · simp at hnone
  · rcases mem_candidates.mp hp with ⟨o, ho, rfl⟩ | ⟨hd, hkept⟩
    · exact .inl ⟨o, ho, hpublishable, hlisted⟩
    · exact .inr ⟨p, hd, hkept, hpublishable, hlisted⟩

/-- A derived port that gives way to no override is resolved, or it is refused beside what
is resolved. -/
theorem exists_listedAs_or_isRefused (hd : d ∈ derived families config otel)
    (hkept : ¬ d.IsOverridden overrides) :
    (∃ q ∈ resolve families config otel overrides, ListedAs d q) ∨
      IsRefused (resolve families config otel overrides) d := by
  rcases listedAs_or_isRefused [] (mem_candidates.mpr (.inr ⟨hd, hkept⟩)) with
    ⟨q, hq, hlisted⟩ | hrefused
  · exact .inl ⟨q, mem_finalize.mpr hq, hlisted⟩
  · exact .inr (hrefused.mono fun q hq => mem_finalize.mpr hq)

/-- What is resolved with the address of a derived port, which has it for itself, is an
override with that address, or it is the port, which gives way to no override. -/
theorem origin_of_address_eq
    (halone : ∀ e ∈ derived families config otel, e.address = d.address → e = d)
    (hq : q ∈ resolve families config otel overrides) (haddress : q.address = d.address) :
    (∃ o ∈ overrides, (ofOverride o).isPublishable = true ∧
        (ofOverride o).address = d.address ∧ q.feature = overrideFeature) ∨
      ¬ d.IsOverridden overrides ∧ d.isPublishable = true ∧ ListedAs d q := by
  rcases exists_listedAs_of_mem_resolve hq with ⟨o, ho, hpublishable, hlisted⟩ | hderived
  · exact .inl
      ⟨o, ho, hpublishable, hlisted.address.symm.trans haddress, hlisted.feature⟩
  · obtain ⟨e, he, hkept, hpublishable, hlisted⟩ := hderived
    obtain rfl := halone e he (hlisted.address.symm.trans haddress)
    exact .inr ⟨hkept, hpublishable, hlisted⟩

theorem eq_of_name_eq (hp : p ∈ resolve families config otel overrides)
    (hq : q ∈ resolve families config otel overrides) (heq : p.name = q.name) : p = q :=
  List.inj_on_of_nodup_map
    (List.pairwise_map.mpr (namesDistinct_resolve families config otel overrides)) hp hq heq

/-- The port cannot be resolved beside the others: it cannot be published at all, or others
have taken both the name that it would be published under and the one made from its
number. -/
def IsCrowdedOut (resolved : List Port) (d : Port) : Prop :=
  d.isPublishable = false ∨
    (∃ q ∈ resolved, q.name = truncateName d.name ∧ q.address ≠ d.address) ∧
      ∃ q ∈ resolved, q.name = d.fallbackName ∧ q.address ≠ d.address

theorem isCrowdedOut_of_not_resolved (hd : d ∈ derived families config otel)
    (hkept : ¬ d.IsOverridden overrides)
    (hnone : ∀ q ∈ resolve families config otel overrides, q.address ≠ d.address) :
    IsCrowdedOut (resolve families config otel overrides) d := by
  rcases exists_listedAs_or_isRefused hd hkept with ⟨q, hq, hlisted⟩ | hrefused
  · exact absurd hlisted.address (hnone q hq)
  · cases hrefused with
    | unpublishable hnot => exact .inl hnot
    | addressTaken htaken =>
        obtain ⟨q, hq, haddress⟩ := htaken
        exact absurd haddress (hnone q hq)
    | namesTaken hown hfallback =>
        obtain ⟨q, hq, hqName⟩ := hown
        obtain ⟨r, hr, hrName⟩ := hfallback
        exact .inr ⟨⟨q, hq, hqName, hnone q hq⟩, ⟨r, hr, hrName, hnone r hr⟩⟩

theorem not_isCrowdedOut (hq : q ∈ resolve families config otel overrides)
    (hpublishable : d.isPublishable = true) (hlisted : ListedAs d q) :
    ¬ IsCrowdedOut (resolve families config otel overrides) d := by
  rintro (hnot | ⟨⟨r, hr, hname, hne⟩, ⟨s, hs, hname', hne'⟩⟩)
  · rw [hpublishable] at hnot
    contradiction
  · rcases hlisted.named with hown | hfallback
    · obtain rfl := eq_of_name_eq hr hq (hname.trans hown.symm)
      exact hne hlisted.address
    · obtain rfl := eq_of_name_eq hs hq (hname'.trans hfallback.symm)
      exact hne' hlisted.address

/-! ## When an override replaces a port -/

/-- A derived port, which has its address for itself and is not tagged as an override, leaves
no trace of its feature and address in what is resolved exactly if an override has its
address or its whole name, or if it is crowded out.  That an override has the name under
which the port is published is not enough. -/
theorem resolve_replaces_iff (hd : d ∈ derived families config otel)
    (halone : ∀ e ∈ derived families config otel, e.address = d.address → e = d)
    (hfeature : d.feature ≠ overrideFeature) :
    (∀ q ∈ resolve families config otel overrides,
        ¬ (q.feature = d.feature ∧ q.number = d.number ∧ q.protocol = d.protocol)) ↔
      (∃ o ∈ overrides, o.name = d.name ∨ o.port.toInt = d.number ∧ o.protocol = d.protocol) ∨
        IsCrowdedOut (resolve families config otel overrides) d := by
  have hover : (∃ o ∈ overrides,
      o.name = d.name ∨ o.port.toInt = d.number ∧ o.protocol = d.protocol) ↔
        d.IsOverridden overrides := by
    simp [IsOverridden, address, ofOverride]
  rw [hover]
  constructor
  · intro hnone
    by_cases hoverridden : d.IsOverridden overrides
    · exact .inl hoverridden
    · refine .inr (isCrowdedOut_of_not_resolved hd hoverridden ?_)
      intro q hq haddress
      rcases origin_of_address_eq halone hq haddress with ⟨o, ho, -, hsame, -⟩ | hown
      · exact hoverridden ⟨o, ho, .inr hsame⟩
      · exact hnone q hq ⟨hown.2.2.feature, Prod.mk.inj haddress⟩
  · rintro hreason q hq ⟨hsame, hnumber, hprotocol⟩
    have haddress : q.address = d.address := Prod.ext hnumber hprotocol
    rcases origin_of_address_eq halone hq haddress with ⟨o, -, -, -, hoverride⟩ | hown
    · exact hfeature (hsame.symm.trans hoverride)
    · obtain ⟨hkept, hpublishable, hlisted⟩ := hown
      rcases hreason with hoverridden | hcrowded
      · exact hkept hoverridden
      · exact not_isCrowdedOut hq hpublishable hlisted hcrowded

/-- Pipelines with a port whose name is too long to be published whole. -/
def compactPipelines : String :=
  "receivers:\n  jaeger:\n    protocols:\n      thrift_compact:\n" ++
    "service:\n  pipelines:\n    traces:\n      receivers: [jaeger]\n"

def compactPort : Port := Receiver.port "jaeger-thrift-compact" 6831 .udp

def namedOverride (name : String) : PortOverride :=
  { name, port := 9000, protocol := .udp, targetPort := none }

set_option maxRecDepth 10000 in
theorem resolve_replaces_iff_compact :
    compactPort ∈ derived Family.table "" (some compactPipelines) ∧
      ∀ q ∈ resolve Family.table "" (some compactPipelines)
          [namedOverride "jaeger-thrift-compact"],
        ¬ (q.feature = compactPort.feature ∧ q.number = compactPort.number ∧
          q.protocol = compactPort.protocol) := by
  have hderived : compactPort ∈ derived Family.table "" (some compactPipelines) := by
    decide +kernel
  have halone : ∀ e ∈ derived Family.table "" (some compactPipelines),
      e.address = compactPort.address → e = compactPort := by
    intro e he
    exact eq_of_address_eq (fun _ hrow => Family.addressesApart_of_mem_table hrow) he hderived
  refine ⟨hderived, (resolve_replaces_iff hderived halone (by decide)).mpr (.inl ?_)⟩
  exact ⟨namedOverride "jaeger-thrift-compact", List.mem_singleton_self _, .inl rfl⟩

set_option maxRecDepth 10000 in
/-- An override with the name under which a port is published does not replace the port:
both are listed, the port under the name made from its number. -/
theorem overridden_port_survives :
    ∃ d ∈ derived Family.table "" (some compactPipelines), ∃ o,
      truncateName o.name = truncateName d.name ∧
      ofOverride o ∈ resolve Family.table "" (some compactPipelines) [o] ∧
      ∃ q ∈ resolve Family.table "" (some compactPipelines) [o],
        q.feature = d.feature ∧ q.number = d.number ∧ q.protocol = d.protocol := by
  obtain ⟨hderived, hoverride, hfallback⟩ :
      compactPort ∈ derived Family.table "" (some compactPipelines) ∧
      ofOverride (namedOverride "jaeger-thrift-c") ∈
        (candidates [ofOverride (namedOverride "jaeger-thrift-c")]
          (derived Family.table "" (some compactPipelines))).foldl accept [] ∧
      { compactPort with name := "port-6831" } ∈
        (candidates [ofOverride (namedOverride "jaeger-thrift-c")]
          (derived Family.table "" (some compactPipelines))).foldl accept [] := by
    decide +kernel
  exact ⟨compactPort, hderived, namedOverride "jaeger-thrift-c", by decide,
    mem_finalize.mpr hoverride, _, mem_finalize.mpr hfallback, rfl, rfl, rfl⟩

/-! ## When an override that is not listed is inert -/

/-- The overrides that can be published. -/
def publishableOverrides (overrides : List PortOverride) : List PortOverride :=
  overrides.filter fun o => (ofOverride o).isPublishable

theorem IsOverridden.of_publishable (hover : d.IsOverridden (publishableOverrides overrides)) :
    d.IsOverridden overrides := by
  obtain ⟨o, ho, hnames⟩ := hover
  exact ⟨o, (List.mem_filter.mp ho).1, hnames⟩

/-- Overrides that cannot be published are not accepted. -/
theorem foldl_accept_publishableOverrides (overrides : List PortOverride) :
    ((publishableOverrides overrides).map ofOverride).foldl accept [] =
      (overrides.map ofOverride).foldl accept [] := by
  have hfilter : (publishableOverrides overrides).map ofOverride =
      (overrides.map ofOverride).filter isPublishable := by
    unfold publishableOverrides
    rw [List.filter_map]
    rfl
  rw [hfilter]
  exact foldl_accept_filter fun p _ hnot => .inl hnot

/-- With all overrides the derived ports are kept that give way to none of the publishable
ones, less those that give way to another one. -/
theorem filter_kept (overrides : List PortOverride) (ports : List Port) :
    ports.filter (fun d => !(overrides.map ofOverride).any d.isReplacedBy) =
      (ports.filter fun d =>
        !((publishableOverrides overrides).map ofOverride).any d.isReplacedBy).filter
          fun d => !(overrides.map ofOverride).any d.isReplacedBy := by
  rw [List.filter_filter]
  apply List.filter_congr
  intro d _
  rw [Bool.eq_iff_iff]
  simp only [Bool.and_eq_true, Bool.not_eq_true', ← Bool.not_eq_true, any_isReplacedBy_iff]
  exact ⟨fun hkept => ⟨hkept, fun hover => hkept hover.of_publishable⟩, And.left⟩

/-- Each derived port that gives way to unpublishable overrides alone would not be resolved
without them either. -/
def UnpublishableTakeNothing (families : List Family) (config : String) (otel : Option String)
    (overrides : List PortOverride) : Prop :=
  ∀ d ∈ derived families config otel, d.IsOverridden overrides →
    ¬ d.IsOverridden (publishableOverrides overrides) →
      ∀ q ∈ resolve families config otel (publishableOverrides overrides),
        q.address ≠ d.address

theorem resolve_of_unpublishableTakeNothing
    (hnone : UnpublishableTakeNothing families config otel overrides) :
    resolve families config otel (publishableOverrides overrides) =
      resolve families config otel overrides := by
  -- Both runs have accepted the same overrides when the derived ports come.
  rw [resolve_eq, resolve_eq, filter_kept overrides]
  unfold finalize
  rw [List.foldl_append, List.foldl_append, foldl_accept_publishableOverrides]
  congr 1
  symm
  apply foldl_accept_filter
  intro d hd hdropped
  obtain ⟨hderived, hkept⟩ := List.mem_filter.mp hd
  rw [Bool.not_eq_false', any_isReplacedBy_iff] at hdropped
  rw [Bool.not_eq_true', ← Bool.not_eq_true, any_isReplacedBy_iff] at hkept
  refine .inr fun q hq => hnone d hderived hdropped hkept q (mem_finalize.mpr ?_)
  unfold candidates
  rwa [List.foldl_append, foldl_accept_publishableOverrides]

/-- Overrides that cannot be published are inert if they take nothing away, and only then
where the rows of the table have an address for each port. -/
theorem resolve_publishableOverrides (families : List Family) (config : String)
    (otel : Option String) (overrides : List PortOverride) :
    (UnpublishableTakeNothing families config otel overrides →
      resolve families config otel (publishableOverrides overrides) =
        resolve families config otel overrides) ∧
    ((∀ family ∈ families, family.AddressesApart) →
      resolve families config otel (publishableOverrides overrides) =
        resolve families config otel overrides →
      UnpublishableTakeNothing families config otel overrides) := by
  refine ⟨resolve_of_unpublishableTakeNothing, ?_⟩
  intro hfamilies hsame d hd hover hkept q hq haddress
  have halone : ∀ e ∈ derived families config otel, e.address = d.address → e = d :=
    fun e he => eq_of_address_eq hfamilies he hd
  rw [hsame] at hq
  rcases origin_of_address_eq halone hq haddress with ⟨o, ho, hpublishable, ho', -⟩ | hown
  · exact hkept ⟨o, List.mem_filter.mpr ⟨ho, hpublishable⟩, .inr ho'⟩
  · exact hown.1 hover

def statsdPort : Port := Family.port "statsd" "statsd" 8125 .udp

/-- An override whose name is not valid. -/
def misnamedOverride (port : Int32) : PortOverride :=
  { name := "Bad_Name", port, protocol := .udp, targetPort := none }

set_option maxRecDepth 10000 in
theorem resolve_publishableOverrides_aside :
    publishableOverrides [misnamedOverride 9001, extraOverride] = [extraOverride] ∧
      resolve Family.table contestedConfig none
          (publishableOverrides [misnamedOverride 9001, extraOverride]) =
        resolve Family.table contestedConfig none [misnamedOverride 9001, extraOverride] := by
  refine ⟨by decide, (resolve_publishableOverrides _ _ _ _).1 ?_⟩
  have hapart : ((derived Family.table contestedConfig none).any fun d =>
      ([misnamedOverride 9001, extraOverride].map ofOverride).any d.isReplacedBy) = false := by
    decide +kernel
  intro d hd hover
  have hnot := List.any_eq_false.mp hapart d hd
  exact absurd (any_isReplacedBy_iff.mpr hover) hnot

set_option maxRecDepth 10000 in
/-- An override that is dropped for its name takes away the port at its number. -/
theorem misnamed_override_takes_port :
    publishableOverrides [misnamedOverride 8125] = [] ∧
      statsdPort ∈ resolve Family.table contestedConfig none
        (publishableOverrides [misnamedOverride 8125]) ∧
      statsdPort ∉ resolve Family.table contestedConfig none [misnamedOverride 8125] := by
  unfold resolve
  rw [mem_finalize, mem_finalize]
  decide +kernel

end Port

end AgentOperator
