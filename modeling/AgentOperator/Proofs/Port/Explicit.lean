import AgentOperator.Proofs.Port.Overrides
import AgentOperator.Proofs.Port.Retention

/-!
# Inferred ports made explicit

Ports that can be listed side by side are accepted as they are.  So the ports that were
resolved, given as overrides, are accepted first and whole.  Each derived port either
gives way to the override that it was listed as, or was refused and is refused again
beside the same names and addresses.
-/

namespace AgentOperator.Port

variable {families : List Family} {config : String} {otel : Option String}
  {accepted ports others : List Port} {d p q : Port} {name : String}

/-! ## Ports that can be listed side by side -/

theorem truncateName_of_isValidName (hvalid : isValidName name = true) :
    truncateName name = name := by
  have hlength : name.toList.length ≤ maxNameLength := by
    unfold isValidName at hvalid
    simp only [Bool.and_eq_true, decide_eq_true_eq] at hvalid
    exact hvalid.1.1.1.1.1.2
  unfold truncateName
  rw [List.take_of_length_le hlength, String.ofList_toList]

theorem accept_of_isListable (hp : IsListable p) (haddress : ∀ q ∈ accepted, q.address ≠ p.address)
    (hname : ∀ q ∈ accepted, q.name ≠ p.name) : accept accepted p = accepted ++ [p] := by
  have hadmissible : isAdmissible accepted p = true :=
    isAdmissible_iff.mpr ⟨hp.number, hp.containerPort, haddress⟩
  have hfree : (accepted.any fun q => q.name == p.name) = false := by
    simpa using hname
  unfold accept acceptedName?
  simp [hadmissible, truncateName_of_isValidName hp.name, hp.name, hfree]

theorem foldl_accept_of_listable (hports : Listable (accepted ++ ports))
    (hnames : NamesDistinct (accepted ++ ports)) :
    ports.foldl accept accepted = accepted ++ ports := by
  induction ports generalizing accepted with
  | nil => simp
  | cons first rest ih =>
      have hadded : accept accepted first = accepted ++ [first] := by
        apply accept_of_isListable (hports.each first (by simp))
        · intro q hq
          exact (List.pairwise_append.mp hports.apart).2.2 q hq first List.mem_cons_self
        · intro q hq
          exact (List.pairwise_append.mp hnames).2.2 q hq first List.mem_cons_self
      rw [List.append_cons] at hports hnames ⊢
      rw [List.foldl_cons, hadded]
      exact ih hports hnames

/-- Ports that are listed in order are the whole result, if every other candidate is
refused beside them. -/
theorem finalize_of_listable (hports : Listable ports) (hnames : NamesDistinct ports)
    (hordered : ports.Pairwise Precedes) (hrefused : ∀ d ∈ others, IsRefused ports d) :
    finalize (ports ++ others) = ports := by
  have haccepted : ports.foldl accept [] = ports :=
    foldl_accept_of_listable hports hnames
  unfold finalize
  rw [List.foldl_append, haccepted, foldl_accept_of_isRefused hrefused]
  apply List.mergeSort_of_pairwise
  exact hordered.imp fun hprecedes => isBefore_iff.mpr (.inl hprecedes)

/-! ## Resolved ports as overrides -/

/-- The override that asks for the port as it is. -/
def asOverride (p : Port) : PortOverride :=
  { name := p.name, port := .ofInt p.number, protocol := p.protocol, targetPort := none }

/-- The port, asked for by an override. -/
def explicit (p : Port) : Port := { p with feature := overrideFeature }

theorem ofOverride_asOverride (hp : IsListable p) (htarget : p.target = none) :
    ofOverride p.asOverride = p.explicit := by
  have hnumber : (Int32.ofInt p.number).toInt = p.number := by
    have hrange := hp.number
    exact Int32.toInt_ofInt_of_le (by omega) (by omega)
  unfold ofOverride asOverride explicit
  rw [hnumber, htarget]
  rfl

theorem Listable.map_explicit (hports : Listable ports) : Listable (ports.map explicit) := by
  constructor
  · intro q hq
    obtain ⟨p, hp, rfl⟩ := List.mem_map.mp hq
    obtain ⟨hname, hnumber, hcontainer⟩ := hports.each p hp
    exact ⟨hname, hnumber, hcontainer⟩
  · exact List.pairwise_map.mpr hports.apart

/-- Usual families and pipelines take ports of the container under their own numbers. -/
theorem target_of_mem_derived (hfamilies : ∀ family ∈ families, family ∈ Family.table)
    (hd : d ∈ derived families config otel) : d.target = none := by
  rcases mem_derived hd with ⟨family, hfamily, block, group, hgroup, hp⟩ | hpipeline
  · have husual := Family.areUsual_of_mem_table (hfamilies family hfamily) block
    exact (husual.usual group hgroup d hp).target
  · obtain ⟨label, number, protocol, rfl⟩ := hpipeline
    rfl

theorem not_isOverridden_nil (d : Port) : ¬ d.IsOverridden [] := by
  rintro ⟨o, ho, -⟩
  simp at ho

theorem target_of_mem_resolve (hfamilies : ∀ family ∈ families, family ∈ Family.table)
    (hq : q ∈ resolve families config otel []) : q.target = none := by
  rcases exists_listedAs_of_mem_resolve hq with ⟨o, ho, -⟩ | ⟨d, hd, -, -, hlisted⟩
  · simp at ho
  · have htarget : d.target = none := target_of_mem_derived hfamilies hd
    rw [hlisted.rest]
    exact htarget

theorem isRefused_explicit (hd : d ∈ derived families config otel)
    (hkept : ¬ d.IsOverridden ((resolve families config otel []).map asOverride))
    (hexplicit : ∀ q ∈ resolve families config otel [], ofOverride q.asOverride = q.explicit) :
    IsRefused ((resolve families config otel []).map explicit) d := by
  -- Were the port among what was resolved, it would give way to itself by its address.
  rcases exists_listedAs_or_isRefused hd d.not_isOverridden_nil with
    ⟨q, hq, hlisted⟩ | hrefused
  · refine absurd ⟨q.asOverride, List.mem_map_of_mem hq, .inr ?_⟩ hkept
    rw [hexplicit q hq]
    exact hlisted.address
  · refine hrefused.of_covered fun q hq => ⟨q.explicit, List.mem_map_of_mem hq, rfl, rfl⟩

/-- What usual families and any pipelines are resolved to without overrides may as well be
asked for: given as overrides, the resolved ports are resolved again, each as it was but
for its feature. -/
theorem resolve_explicit (hfamilies : ∀ family ∈ families, family ∈ Family.table)
    (config : String) (otel : Option String) :
    resolve families config otel ((resolve families config otel []).map asOverride) =
      (resolve families config otel []).map explicit := by
  have hlistable : Listable (resolve families config otel []) := listable_finalize _
  have hexplicit : ∀ q ∈ resolve families config otel [],
      ofOverride q.asOverride = q.explicit :=
    fun q hq => ofOverride_asOverride (hlistable.each q hq) (target_of_mem_resolve hfamilies hq)
  have hoverrides : ((resolve families config otel []).map asOverride).map ofOverride =
      (resolve families config otel []).map explicit := by
    rw [List.map_map]
    exact List.map_congr_left hexplicit
  rw [resolve_eq, hoverrides]
  apply finalize_of_listable hlistable.map_explicit
  · exact List.pairwise_map.mpr (namesDistinct_resolve families config otel [])
  · exact List.pairwise_map.mpr (precedes_finalize _)
  · intro d hd
    obtain ⟨hderived, hkept⟩ := List.mem_filter.mp hd
    rw [← hoverrides, Bool.not_eq_true', ← Bool.not_eq_true, any_isReplacedBy_iff] at hkept
    exact isRefused_explicit hderived hkept hexplicit

set_option maxRecDepth 10000 in
theorem resolve_explicit_crowded :
    { Family.port "otlp-traces" "otlp-grpc" 5317 .tcp with name := "port-5317" } ∈
        resolve doubledTable crowdedConfig none [] ∧
      resolve doubledTable crowdedConfig none
          ((resolve doubledTable crowdedConfig none []).map asOverride) =
        (resolve doubledTable crowdedConfig none []).map explicit := by
  have hrows : ∀ family ∈ doubledTable, family ∈ Family.table := by
    simp [doubledTable, Family.table]
  exact ⟨mem_finalize.mpr (by decide +kernel), resolve_explicit hrows crowdedConfig none⟩

end AgentOperator.Port
