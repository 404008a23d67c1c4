import AgentOperator.Agent.Basic
import AgentOperator.Proofs.Metadata

/-!
# Agents that are read back

Every spec and every status is written in a form that is read as the same spec or status,
whichever of their settings are left out, and so is every agent that was read.
-/

namespace AgentOperator

open Json (Restores)

/-! ## Settings of containers -/

theorem KeySelector.restores (s : KeySelector) :
    Restores KeySelector.ofJson? KeySelector.toJson s := by
  apply Json.restores_openRecord (by simp)
  rintro r ⟨hkey, hname, hoptional, -⟩
  rw [hkey.filled? (Json.restores_str _), hname.optional? fun _ _ => Json.restores_str _,
    hoptional.optional? fun _ _ => Json.restores_bool _]
  rfl

theorem FieldSelector.restores (s : FieldSelector) :
    Restores FieldSelector.ofJson? FieldSelector.toJson s := by
  apply Json.restores_openRecord (by simp)
  rintro r ⟨hversion, hpath, -⟩
  rw [hversion.optional? fun _ _ => Json.restores_str _, hpath.filled? (Json.restores_str _)]
  rfl

theorem ResourceSelector.restores (s : ResourceSelector) :
    Restores ResourceSelector.ofJson? ResourceSelector.toJson s := by
  apply Json.restores_openRecord (by simp)
  rintro r ⟨hcontainer, hdivisor, hresource, -⟩
  rw [hcontainer.optional? fun _ _ => Json.restores_str _,
    hdivisor.optional? fun _ _ => Json.restores_str _,
    hresource.filled? (Json.restores_str _)]
  rfl

theorem EnvSource.restores (s : EnvSource) : Restores EnvSource.ofJson? EnvSource.toJson s := by
  apply Json.restores_openRecord (by simp)
  rintro r ⟨hconfigMap, hfield, hresource, hsecret, -⟩
  rw [hconfigMap.optional? fun k _ => k.restores, hfield.optional? fun f _ => f.restores,
    hresource.optional? fun q _ => q.restores, hsecret.optional? fun k _ => k.restores]
  rfl

theorem EnvVar.restores (v : EnvVar) : Restores EnvVar.ofJson? EnvVar.toJson v := by
  apply Json.restores_openRecord (by simp)
  rintro r ⟨hname, hvalue, hsource, -⟩
  rw [hname.filled? (Json.restores_str _), hvalue.optional? fun _ _ => Json.restores_str _,
    hsource.optional? fun s _ => s.restores]
  rfl

theorem Resources.restores_claim (name : String) :
    Restores claimOfJson? (fun name => .mkObj [("name", .str name)]) name := by
  show Restores claimOfJson? (fun name => .ofPresent [("name", some (.str name))]) name
  apply Json.restores_openRecord (by simp)
  rintro r ⟨hname, -⟩
  exact hname.filled? (Json.restores_str _) ""

theorem Resources.restores (q : Resources) : Restores Resources.ofJson? Resources.toJson q := by
  apply Json.restores_openRecord (by simp)
  rintro r ⟨hclaims, hlimits, hrequests, -⟩
  rw [hclaims.optional? fun _ _ => Json.restores_list fun name _ => restores_claim name,
    hlimits.optional? fun _ _ => Json.restores_dict _,
    hrequests.optional? fun _ _ => Json.restores_dict _]
  rfl

theorem Toleration.restores (t : Toleration) :
    Restores Toleration.ofJson? Toleration.toJson t := by
  apply Json.restores_openRecord (by simp)
  rintro r ⟨heffect, hkey, hoperator, hseconds, hvalue, -⟩
  rw [heffect.optional? fun _ _ => Json.restores_str _,
    hkey.optional? fun _ _ => Json.restores_str _,
    hoperator.optional? fun _ _ => Json.restores_str _,
    hseconds.optional? fun _ _ => Json.restores_int64 _,
    hvalue.optional? fun _ _ => Json.restores_str _]
  rfl

/-! ## Choices -/

theorem Mode.restores (m : Mode) : Restores Mode.ofJson? (fun m => .str m.name) m := by
  cases m <;> exact ⟨rfl, rfl⟩

theorem Protocol.restores (p : Protocol) :
    Restores Protocol.ofJson? (fun p => .str p.name) p := by
  cases p <;> exact ⟨rfl, rfl⟩

theorem Exposure.restores (e : Exposure) :
    Restores Exposure.ofJson? (fun e => .str e.name) e := by
  cases e <;> exact ⟨rfl, rfl⟩

theorem RuleType.restores (t : RuleType) :
    Restores RuleType.ofJson? (fun t => .str t.name) t := by
  cases t <;> exact ⟨rfl, rfl⟩

/-! ## Settings of agents -/

theorem PortOverride.restores (o : PortOverride) :
    Restores PortOverride.ofJson? PortOverride.toJson o := by
  apply Json.restores_record (by simp) (by simp)
  rintro r ⟨hname, hport, hprotocol, htarget, -⟩
  rw [hname.required? (Json.restores_str _), hport.required? (Json.restores_int32 _),
    hprotocol.defaulted? o.protocol.restores,
    htarget.optional? fun _ _ => Json.restores_int32 _]
  rfl

theorem Autoscaler.restores (a : Autoscaler) :
    Restores Autoscaler.ofJson? Autoscaler.toJson a := by
  apply Json.restores_record (by simp) (by simp)
  rintro r ⟨hmin, hmax, hcpu, hmemory, -⟩
  rw [hmin.optional? fun _ _ => Json.restores_int32 _,
    hmax.required? (Json.restores_int32 _),
    hcpu.optional? fun _ _ => Json.restores_int32 _,
    hmemory.optional? fun _ _ => Json.restores_int32 _]
  rfl

theorem PodCount.restores (n : PodCount) : Restores PodCount.ofJson? PodCount.toJson n := by
  cases n with
  | text s => exact ⟨rfl, rfl⟩
  | count n => exact ⟨congrArg (Option.map PodCount.count) (Json.restores_int32 n).read_write, rfl⟩

theorem DisruptionBudget.restores (b : DisruptionBudget) :
    Restores DisruptionBudget.ofJson? DisruptionBudget.toJson b := by
  apply Json.restores_record (by simp) (by simp)
  rintro r ⟨hmin, hmax, -⟩
  rw [hmin.optional? fun n _ => n.restores, hmax.optional? fun n _ => n.restores]
  rfl

theorem IngressSettings.restores (s : IngressSettings) :
    Restores IngressSettings.ofJson? IngressSettings.toJson s := by
  apply Json.restores_record (by simp) (by simp)
  rintro r ⟨htype, hhostname, hrule, hclass, hannotations, hsecret, -⟩
  rw [htype.defaulted? s.exposure.restores, hhostname.optional? fun _ _ => Json.restores_str _,
    hrule.defaulted? s.ruleType.restores, hclass.optional? fun _ _ => Json.restores_str _,
    hannotations.defaulted?_dict, hsecret.optional? fun _ _ => Json.restores_str _]
  rfl

/-! ## Specs and status -/

theorem Spec.restores (s : Spec) : Restores Spec.ofJson? Spec.toJson s := by
  apply Json.restores_record (by simp) (by simp [fieldNames])
  rintro r ⟨hmode, hconfig, hotel, hports, hreplicas, himage, hpolicy, haccount, henv,
    hresources, hselector, htolerations, hannotations, hnetwork, hpriority, hautoscaler,
    hbudget, hingress, -⟩
  rw [hmode.defaulted? s.mode.restores, hconfig.defaulted? (Json.restores_str _),
    hotel.optional? fun _ _ => Json.restores_str _,
    hports.defaulted?_list fun o _ => o.restores,
    hreplicas.defaulted? (Json.restores_int32 _),
    himage.optional? fun _ _ => Json.restores_str _,
    hpolicy.optional? fun _ _ => Json.restores_str _,
    haccount.optional? fun _ _ => Json.restores_str _,
    henv.defaulted?_list fun v _ => v.restores,
    hresources.optional? fun q _ => q.restores,
    hselector.defaulted?_dict,
    htolerations.defaulted?_list fun t _ => t.restores,
    hannotations.defaulted?_dict,
    hnetwork.defaulted? (Json.restores_bool _),
    hpriority.optional? fun _ _ => Json.restores_str _,
    hautoscaler.optional? fun a _ => a.restores,
    hbudget.optional? fun b _ => b.restores,
    hingress.optional? fun i _ => i.restores]
  rfl

theorem ScaleStatus.restores (s : ScaleStatus) :
    Restores ScaleStatus.ofJson? ScaleStatus.toJson s := by
  show Restores ScaleStatus.ofJson? (fun s => .ofPresent [
    ("replicas", some (.ofInt32 s.replicas)),
    ("statusReplicas", some (.str s.statusReplicas)),
    ("selector", some (.str s.selector))]) s
  apply Json.restores_record (by simp) (by simp)
  rintro r ⟨hreplicas, hready, hselector, -⟩
  rw [hreplicas.required? (Json.restores_int32 _), hready.required? (Json.restores_str _),
    hselector.required? (Json.restores_str _)]
  rfl

theorem Status.restores (s : Status) : Restores Status.ofJson? Status.toJson s := by
  show Restores Status.ofJson? (fun s => .ofPresent [
    ("version", some (.str s.version)),
    ("image", some (.str s.image)),
    ("scale", some s.scale.toJson)]) s
  apply Json.restores_record (by simp) (by simp)
  rintro r ⟨hversion, himage, hscale, -⟩
  rw [hversion.defaulted? (Json.restores_str _), himage.defaulted? (Json.restores_str _),
    hscale.defaulted? s.scale.restores]
  rfl

/-! ## Agents -/

namespace Agent

theorem ofJson?_toJson {a : Agent} (ha : a.metadata.WellFormed) :
    ofJson? a.toJson = some a := by
  unfold ofJson? toJson
  apply Json.read_known (by simp)
  rintro r ⟨hmetadata, hspec, hstatus, -⟩
  rw [hmetadata.required? ha.restores, hspec.required? a.spec.restores,
    hstatus.optional? fun s _ => s.restores]
  rfl

theorem wellFormed_of_ofJson? {json : Json} {a : Agent} (hread : ofJson? json = some a) :
    a.metadata.WellFormed := by
  unfold ofJson? at hread
  obtain ⟨r, -, hread⟩ := Option.bind_eq_some_iff.mp hread
  obtain ⟨m, hmetadata, hread⟩ := Option.bind_eq_some_iff.mp hread
  iterate 2 obtain ⟨_, -, hread⟩ := Option.bind_eq_some_iff.mp hread
  obtain rfl := Option.some.inj hread
  obtain ⟨given, -, hgiven⟩ := Option.bind_eq_some_iff.mp hmetadata
  exact Metadata.wellFormed_of_ofJson? hgiven

/-- What is written of an agent that was read is read as the same agent, and what is
written of any spec and any status as that spec and status. -/
theorem reads_back :
    (∀ json a, Agent.ofJson? json = some a → Agent.ofJson? a.toJson = some a) ∧
    (∀ s : Spec, Spec.ofJson? s.toJson = some s) ∧
    (∀ s : Status, Status.ofJson? s.toJson = some s) := by
  refine ⟨?_, fun s => s.restores.read_write, fun s => s.restores.read_write⟩
  intro json a hread
  exact ofJson?_toJson (wellFormed_of_ofJson? hread)

/-- An agent on each node, as it is given: created in another time zone, with a port that
has no protocol and an empty list of variables. -/
def givenObserver : Json :=
  .obj [
    ("kind", .null),
    ("metadata", .obj [
      ("name", .str "observer"),
      ("creationTimestamp", .str "2024-03-01T01:30:00.5+02:00")]),
    ("spec", .obj [
      ("mode", .str "DaemonSet"),
      ("ports", .arr [.obj [("name", .str "otlp"), ("port", .int 4317)]]),
      ("env", .arr [])])]

/-- The agent that is read. -/
def observer : Agent where
  metadata := {
    name := some "observer"
    creationTimestamp := some ⟨19782, 23, 30, 0⟩ }
  spec := {
    mode := .daemonSet
    ports := [⟨"otlp", 4317, .tcp, none⟩] }
  status := none

theorem reads_back_observer :
    Agent.ofJson? givenObserver = some observer ∧
    Agent.ofJson? observer.toJson = some observer ∧
    observer.toJson ≠ givenObserver := by
  have hread : Agent.ofJson? givenObserver = some observer := by decide +kernel
  obtain ⟨hagents, -, -⟩ := reads_back
  exact ⟨hread, hagents givenObserver observer hread, by decide +kernel⟩

end Agent

end AgentOperator
