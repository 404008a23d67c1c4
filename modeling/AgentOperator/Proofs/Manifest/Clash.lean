import AgentOperator.Proofs.Manifest.Desired

/-!
# Names that clash

What an agent is made of is named after it, and some objects have a suffix.  So the
objects of two agents of one namespace may want one place, where the name of one agent
is that of the other with the suffix of a kind.  They do so in no other way.
-/

namespace AgentOperator

variable {c c' : Context} {d e : Desired} {m m' : Manifest} {kind : Kind}
  {suffix other : String}

/-- What is added to the name of an agent to name objects of a kind. -/
inductive Kind.Suffix : Kind → String → Prop
  | pipelines : Suffix .configMap "otel"
  | headless : Suffix .service "headless"
  | monitoring : Suffix .service "monitoring"
  | ingress : Suffix .ingress "ingress"
  | port (name : String) : Suffix .route name

/-- One name is the other with the suffix of the kind.  An ingress always has its suffix,
so for ingresses no two names clash. -/
def NamesClash (kind : Kind) (name other : String) : Prop :=
  kind ≠ .ingress ∧ ∃ suffix, kind.Suffix suffix ∧
    (name = other ++ "-" ++ suffix ∨ other = name ++ "-" ++ suffix)

theorem NamesClash.symm {name other : String} (hclash : NamesClash kind name other) :
    NamesClash kind other name := by
  obtain ⟨hkind, suffix, hsuffix, hnames⟩ := hclash
  exact ⟨hkind, suffix, hsuffix, hnames.symm⟩

/-! ## The names of manifests -/

/-- How the objects of a kind are named: after the agent, or with a suffix. -/
inductive Kind.Names (c : Context) : Kind → String → Prop
  | plain {kind : Kind} (hingress : kind ≠ .ingress) (hroute : kind ≠ .route) :
    Names c kind c.name
  | suffixed {kind : Kind} {suffix : String} (hsuffix : kind.Suffix suffix) :
    Names c kind (c.childName suffix)

theorem Context.accountName_of_generated {a : ServiceAccount}
    (ha : ServiceAccount.generated? c = some a) : c.accountName = c.name := by
  unfold ServiceAccount.generated? at ha
  unfold accountName
  split at ha
  · simp at ha
  next hnone =>
    rw [hnone]
    rfl

theorem Manifest.names (hm : m ∈ allOfContext c) : m.kind.Names c m.name := by
  have hplain : ∀ {m : Manifest}, m.metadata.IsOf c c.name → m.kind ≠ .ingress →
      m.kind ≠ .route → m.kind.Names c m.name := by
    intro m hmeta hingress hroute
    rw [name_eq_of_isOf hmeta]
    exact .plain hingress hroute
  have hsuffixed : ∀ {m : Manifest} {suffix : String},
      m.metadata.IsOf c (c.childName suffix) → m.kind.Suffix suffix →
        m.kind.Names c m.name := by
    intro m suffix hmeta hsuffix
    rw [name_eq_of_isOf hmeta]
    exact .suffixed hsuffix
  simp only [allOfContext, List.mem_append, Option.mem_toList, Option.map_eq_some_iff,
    List.mem_cons, List.not_mem_nil, or_false, List.mem_map, or_assoc] at hm
  rcases hm with ⟨w, hw, rfl⟩ | rfl | ⟨m, hm, rfl⟩ | ⟨a, ha, rfl⟩ | ⟨s, hs, rfl⟩ |
    ⟨s, hs, rfl⟩ | rfl | ⟨i, hi, rfl⟩ | ⟨r, hr, rfl⟩ | ⟨h, hh, rfl⟩ | ⟨b, hb, rfl⟩
  · have hkind := kind_workload_mem w
    refine hplain (Workload.metadata_isOf hw) ?_ ?_ <;> intro heq <;> simp [heq] at hkind
  · exact hplain ConfigMap.metadata_isOf_agent (by simp [kind]) (by simp [kind])
  · exact hsuffixed (ConfigMap.metadata_isOf_pipelines hm) .pipelines
  · have hmeta := ServiceAccount.metadata_isOf ha
    rw [Context.accountName_of_generated ha] at hmeta
    exact hplain hmeta (by simp [kind]) (by simp [kind])
  · exact hplain (Service.isMade_receivers hs).metadata (by simp [kind]) (by simp [kind])
  · exact hsuffixed (Service.isMade_headless hs).metadata .headless
  · exact hsuffixed Service.isMade_monitoring.metadata .monitoring
  · exact hsuffixed (Ingress.metadata_isOf hi) .ingress
  · obtain ⟨p, -, hp⟩ := Route.metadata_isOf hr
    exact hsuffixed hp (.port p.name)
  · exact hplain (HorizontalAutoscaler.metadata_isOf hh) (by simp [kind]) (by simp [kind])
  · exact hplain (PodBudget.metadata_isOf hb) (by simp [kind]) (by simp [kind])

/-! ## Names with suffixes -/

/-- Where two names with suffixes are one, the names are, or one of them begins with the
other and a dash. -/
theorem eq_or_extends_of_suffixed {name name' : String}
    (heq : name ++ "-" ++ suffix = name' ++ "-" ++ other) :
    name = name' ∨ ∃ between,
      name = name' ++ "-" ++ between ∨ name' = name ++ "-" ++ between := by
  have hlist : name.toList ++ '-' :: suffix.toList = name'.toList ++ '-' :: other.toList := by
    simpa using congrArg String.toList heq
  have hextends : ∀ {short long : String} {rest : List Char},
      long.toList = short.toList ++ '-' :: rest → long = short ++ "-" ++ String.ofList rest := by
    intro short long rest hlong
    apply String.toList_injective
    simpa using hlong
  rcases List.append_eq_append_iff.mp hlist with ⟨rest, hname, hrest⟩ | ⟨rest, hname, hrest⟩
  · cases rest with
    | nil => exact .inl (String.toList_injective (by simpa using hname.symm))
    | cons head rest =>
        obtain ⟨rfl, -⟩ := List.cons.inj hrest
        exact .inr ⟨_, .inr (hextends hname)⟩
  · cases rest with
    | nil => exact .inl (String.toList_injective (by simpa using hname))
    | cons head rest =>
        obtain ⟨rfl, -⟩ := List.cons.inj hrest
        exact .inr ⟨_, .inl (hextends hname)⟩

/-- Names with different suffixes of one kind differ, except those of routes. -/
theorem Kind.Suffix.eq_of_suffixed {name name' : String} (hsuffix : kind.Suffix suffix)
    (hother : kind.Suffix other) (hkind : kind ≠ .route)
    (heq : name ++ "-" ++ suffix = name' ++ "-" ++ other) : suffix = other := by
  have hlast : (name ++ "-" ++ suffix).toList.getLast? =
      (name' ++ "-" ++ other).toList.getLast? := by rw [heq]
  cases hsuffix with
  | pipelines | ingress => cases hother; rfl
  | headless | monitoring => cases hother <;> first | rfl | simp at hlast
  | port => exact absurd rfl hkind

/-- Objects of one kind and name that belong to agents of different names. -/
theorem Kind.Names.clash {name : String} (hnames : kind.Names c name)
    (hnames' : kind.Names c' name) (hne : c.name ≠ c'.name) :
    NamesClash kind c.name c'.name := by
  have hcross : ∀ {c c' : Context} {suffix : String}, kind ≠ .ingress → kind.Suffix suffix →
      c.name = c'.childName suffix → NamesClash kind c.name c'.name := by
    intro c c' suffix hkind hsuffix hname
    exact ⟨hkind, suffix, hsuffix, .inl hname⟩
  generalize hname : name = name' at hnames'
  cases hnames with
  | plain hingress =>
      cases hnames' with
      | plain => exact absurd hname hne
      | suffixed hsuffix => exact hcross hingress hsuffix hname
  | @suffixed suffix hsuffix =>
      cases hnames' with
      | plain hingress => exact (hcross hingress hsuffix hname.symm).symm
      | @suffixed other hother =>
          by_cases hroute : kind = .route
          · subst hroute
            rcases eq_or_extends_of_suffixed hname with hsame | ⟨between, hextends⟩
            · exact absurd hsame hne
            · exact ⟨by decide, between, .port between, hextends⟩
          · -- One suffix was added to both names, so they are the same.
            obtain rfl := hsuffix.eq_of_suffixed hother hroute hname
            exact absurd ((String.append_left_inj _).mp ((String.append_left_inj _).mp hname)) hne

/-! ## Places of two agents -/

theorem Context.space_of_mem_owned (hd : d ∈ c.owned) :
    d.place.space = c.namespaceName.getD "" := by
  obtain ⟨m, hm, rfl⟩ := mem_owned hd
  obtain ⟨name, hmeta⟩ := Manifest.metadata_isOf hm
  rw [Desired.ownedBy_place]
  show m.metadata.namespaceName.getD "" = _
  rw [hmeta.namespaceName_eq]

/-- Where agents of different names desire one place, their names clash. -/
theorem Context.clash_of_place_eq (hd : d ∈ c.owned) (he : e ∈ c'.owned)
    (hplace : d.place = e.place) (hne : c.name ≠ c'.name) :
    NamesClash d.place.kind c.name c'.name := by
  obtain ⟨m, hm, rfl⟩ := mem_owned hd
  obtain ⟨m', hm', rfl⟩ := mem_owned he
  rw [Desired.ownedBy_place] at hplace ⊢
  rw [Desired.ownedBy_place] at hplace
  have hkind : m.kind = m'.kind := congrArg StoreKey.kind hplace
  have hname : m.name = m'.name := congrArg StoreKey.name hplace
  have hnames := Manifest.names hm
  have hnames' := Manifest.names hm'
  rw [← hkind, ← hname] at hnames'
  exact hnames.clash hnames' hne

end AgentOperator
