import AgentOperator.Proofs.Manifest.Desired

/-!
# Objects that are desired at one place

What an agent desires at a place can change with its spec, but not everything
about it can.  Two objects that agents of one name desire at one place are of one
kind and agree wherever a field is immutable, so neither stands in the way of the
other.
-/

namespace AgentOperator

variable {c c' : Context} {m m' : Manifest} {d e : Desired}

/-! ## Immutable fields -/

/-- The contexts are of agents with one name in one namespace. -/
structure Context.SameName (c c' : Context) : Prop where
  name : c.name = c'.name
  space : c.namespaceName = c'.namespaceName

namespace Context.SameName

theorem childName (hsame : c.SameName c') (suffix : String) :
    c.childName suffix = c'.childName suffix := by
  unfold Context.childName
  rw [hsame.name]

theorem instanceName (hsame : c.SameName c') :
    c.agent.instanceName = c'.agent.instanceName := by
  have hname : c.agent.name = c'.agent.name := hsame.name
  have hspace : c.agent.namespaceName = c'.agent.namespaceName := hsame.space
  unfold Agent.instanceName Agent.home
  rw [hname, hspace]

theorem immutableValue (hsame : c.SameName c') (path : Json.Path) :
    Workload.immutableValue c path = Workload.immutableValue c' path := by
  have hlabels : c.agent.selectorLabels = c'.agent.selectorLabels := by
    unfold Agent.selectorLabels
    rw [hsame.instanceName]
  unfold Workload.immutableValue
  rw [hlabels, hsame.childName]

end Context.SameName

theorem Workload.at?_of_mem {w : Workload} (hw : .workload w ∈ Manifest.allOfContext c)
    {path : Json.Path} (hmem : path ∈ w.form.kind.immutableFields) :
    w.body.at? path = immutableValue c path := by
  obtain ⟨form, hform, rfl⟩ := exists_form hw
  exact at?_immutable hform hmem

theorem Service.IsMade.name_eq {s : Service} {name : String} {headless : Bool}
    (hs : s.IsMade c name headless) : (Manifest.service s).name = name :=
  Manifest.name_eq_of_isOf hs.metadata

/-- The service without an address is told by its name. -/
theorem Service.headless_iff {s : Service} (hs : .service s ∈ Manifest.allOfContext c) :
    s.headless = true ↔ (Manifest.service s).name = c.childName "headless" := by
  rcases isMade_of_mem hs with hmade | hmade | hmade
  · rw [hmade.name_eq, hmade.headless]
    simpa using (c.childName_ne_name "headless").symm
  · rw [hmade.name_eq, hmade.headless]
    simp
  · have hne : c.childName "monitoring" ≠ c.childName "headless" := fun heq =>
      absurd (c.childName_injective heq) (by decide)
    rw [hmade.name_eq, hmade.headless]
    simpa using hne

theorem Manifest.at?_immutable_eq (hsame : c.SameName c') (hm : m ∈ allOfContext c)
    (hm' : m' ∈ allOfContext c') (hkind : m.kind = m'.kind) (hname : m.name = m'.name)
    {path : Json.Path} (hmem : path ∈ m'.kind.immutableFields) :
    m.body.at? path = m'.body.at? path := by
  cases m' with
  | workload w' =>
      cases m with
      | workload w =>
          have hfields : path ∈ w.form.kind.immutableFields := by
            rw [show w.form.kind = w'.form.kind from hkind]
            exact hmem
          show w.body.at? path = w'.body.at? path
          rw [Workload.at?_of_mem hm hfields, Workload.at?_of_mem hm' hmem,
            hsame.immutableValue]
      | _ =>
          have hworkload := kind_workload_mem w'
          rw [← hkind] at hworkload
          simp [Manifest.kind] at hworkload
  | service s' =>
      cases m with
      | service s =>
          have hheadless : s.headless = s'.headless := by
            rw [Bool.eq_iff_iff, Service.headless_iff hm, Service.headless_iff hm', hname,
              hsame.childName]
          show s.body.at? path = s'.body.at? path
          simp only [Manifest.kind, Kind.immutableFields, List.mem_cons, List.not_mem_nil,
            or_false] at hmem
          rcases hmem with rfl | rfl
          · rw [s.at?_clusterIP, s'.at?_clusterIP, hheadless]
          · rw [s.isAddressable.addresses, s'.isAddressable.addresses]
      | workload w =>
          have hworkload := kind_workload_mem w
          rw [hkind] at hworkload
          simp [Manifest.kind] at hworkload
      | _ => simp [Manifest.kind] at hkind
  | _ => simp [Manifest.kind, Kind.immutableFields] at hmem

/-! ## Objects at one place -/

/-- Neither object stands in the way of the other. -/
structure Desired.Alike (e d : Desired) : Prop where
  kind : e.kind = d.kind
  immutable : ∀ path ∈ d.kind.immutableFields,
    e.object.body.at? path = d.object.body.at? path

theorem Desired.Alike.refl (d : Desired) : d.Alike d := ⟨rfl, fun _ _ => rfl⟩

/-- What agents of one name desire at one place is alike. -/
theorem Context.alike_of_place_eq (hsame : c.SameName c') (he : e ∈ c.owned)
    (hd : d ∈ c'.owned) (hplace : e.place = d.place) : e.Alike d := by
  obtain ⟨m, hm, rfl⟩ := mem_owned he
  obtain ⟨m', hm', rfl⟩ := mem_owned hd
  rw [Desired.ownedBy_place, Desired.ownedBy_place] at hplace
  have hkind : m.kind = m'.kind := congrArg StoreKey.kind hplace
  have hname : m.name = m'.name := congrArg StoreKey.name hplace
  constructor
  · rw [Desired.ownedBy_kind, Desired.ownedBy_kind]
    exact hkind
  · rw [Desired.ownedBy_kind]
    intro path hmem
    rw [Desired.ownedBy_body, Desired.ownedBy_body]
    exact Manifest.at?_immutable_eq hsame hm hm' hkind hname hmem

end AgentOperator
