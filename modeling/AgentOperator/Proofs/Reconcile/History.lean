import AgentOperator.Proofs.Reconcile.Collection

/-!
# What is left of an earlier spec

A pass should make the live objects match the spec, whatever the spec was before.
It does so for every object that it makes or writes, but it leaves an object alone
as soon as the object holds every desired field.  A field that the earlier spec
desired and the later one does not is no such field, so it stays where nothing else
makes the pass write.
-/

namespace AgentOperator

variable {settings : PassSettings} {agent a b : Agent} {s t u s₁ s₂ : Store} {d e : Desired}
  {report : PassReport} {applied : ApplyReport} {pruned : Nat} {live object : Object}
  {key : StoreKey}

/-! ## What a pass does at one place -/

theorem Made.ownBody_eq (hmade : Made d live) (hd : d.IsBuilt) :
    ownBody d.kind live.body = ownBody d.kind d.object.body := by
  obtain ⟨merged, hmeets⟩ := hmade.exists_meets hd hd (.refl d)
  exact hmeets.own_live

namespace Passed

/-- A pass makes what it finds missing. -/
theorem exists_made (hpassed : Passed settings agent s report t applied s₁ pruned s₂)
    (hs : s.Sound) (homits : s.omitsEmpty = false)
    (hd : d ∈ (settings.context agent).owned) (habsent : s.get? d.place = none) :
    ∃ object, t.get? d.place = some object ∧ Made d object := by
  obtain ⟨change, uid, u, v, happlied, -, hbefore, hfields, hafter⟩ :=
    hpassed.exists_applied hs hd
  rw [habsent] at hbefore
  rw [hafter]
  cases happlied with
  | created =>
      exact ⟨_, Store.get?_of_putEntry rfl, made_newObject (hfields.trans homits) d⟩
  | deleted hlive | unchanged hlive | updated hlive =>
      rw [hbefore] at hlive
      simp at hlive

/-- Over an object that was made of one like the desired one, a pass leaves the object
as it is, if that one holds all that is desired, and else the body that is desired. -/
theorem ownBody_over_made
    (hpassed : Passed settings agent s report t applied s₁ pruned s₂) (hs : s.Sound)
    (homits : s.omitsEmpty = false) (hd : d ∈ (settings.context agent).owned)
    (hlive : s.get? d.place = some live) (hmade : Made e live) (he : e.IsBuilt)
    (halike : e.Alike d) :
    ∃ object, t.get? d.place = some object ∧
      ownBody d.kind object.body =
        ownBody d.kind
          (if isUnchanged e.object d.object then e.object.body else d.object.body) := by
  obtain ⟨merged, hmeets⟩ := hmade.exists_meets he (settings.isBuilt_owned agent d hd) halike
  have hmerged := hmeets.mergeImmutable_eq
  have hsame := hmeets.isUnchanged_eq hmade
  obtain ⟨change, uid, u, v, happlied, -, hbefore, hfields, hafter⟩ :=
    hpassed.exists_applied hs hd
  rw [hlive] at hbefore
  rw [hafter]
  cases happlied with
  | created habsent =>
      rw [hbefore] at habsent
      simp at habsent
  | deleted hfound hmerge =>
      obtain rfl := Option.some.inj (hbefore.symm.trans hfound)
      rw [hmerged] at hmerge
      simp at hmerge
  | unchanged hfound hmerge hunchanged =>
      obtain rfl := Option.some.inj (hbefore.symm.trans hfound)
      obtain ⟨-, rfl⟩ := Prod.mk.inj (hmerged.symm.trans hmerge)
      refine ⟨live, hfound, ?_⟩
      rw [if_pos (hsame.symm.trans hunchanged)]
      exact hmeets.own_live
  | updated hfound hmerge hdiffers =>
      obtain rfl := Option.some.inj (hbefore.symm.trans hfound)
      obtain ⟨-, rfl⟩ := Prod.mk.inj (hmerged.symm.trans hmerge)
      refine ⟨_, Store.get?_of_putEntry rfl, ?_⟩
      have hbody : (u.nextObject live
          (updatedObject live { d.object with body := merged })).body = merged := by
        unfold Store.nextObject
        rw [stored_eq (hfields.trans homits)]
        exact hmeets.overlay
      rw [hbody, if_neg (by rw [← hsame, hdiffers]; decide)]
      exact hmeets.own_merged

/-- After a pass over an empty store there is nothing but what was made of the desired
objects. -/
theorem exists_mem_owned (hpassed : Passed settings agent {} report t applied s₁ pruned s₂)
    (hget : t.get? key = some object) :
    ∃ e ∈ (settings.context agent).owned, e.place = key := by
  by_cases hkey : key ∈ (settings.context agent).owned.map Desired.place
  · exact List.mem_map.mp hkey
  · have hnone : t.get? key = none :=
      (hpassed.get?_of_notMem Store.Sound.empty hkey).2 (by simp [Store.get?])
    rw [hnone] at hget
    simp at hget

theorem made_of_empty (hpassed : Passed settings agent {} report t applied s₁ pruned s₂)
    (he : e ∈ (settings.context agent).owned) (hget : t.get? e.place = some live) :
    Made e live := by
  obtain ⟨object, hobject, hmade⟩ :=
    hpassed.exists_made Store.Sound.empty rfl he (by simp [Store.get?])
  obtain rfl := Option.some.inj (hobject.symm.trans hget)
  exact hmade

end Passed

/-! ## Two passes and one -/

theorem ownBody_after_owned {ra rb rb' : PassReport} (hname : a.name = b.name)
    (hspace : a.namespaceName = b.namespaceName)
    (hfirst : Action.run (reconcile Store.cluster settings a) {} = (.ok ra, s))
    (hsecond : Action.run (reconcile Store.cluster settings b) s = (.ok rb, t))
    (halone : Action.run (reconcile Store.cluster settings b) {} = (.ok rb', u))
    (hd : d ∈ (settings.context b).owned) :
    ∃ object alone, t.get? d.place = some object ∧ u.get? d.place = some alone ∧
      (ownBody d.kind object.body = ownBody d.kind alone.body ↔
        ∀ e ∈ (settings.context a).owned, e.place = d.place →
          isUnchanged e.object d.object = true →
            ownBody d.kind e.object.body = ownBody d.kind d.object.body) := by
  obtain ⟨_, _, _, _, hfirst⟩ := run_reconcile_iff.mp hfirst
  obtain ⟨_, _, _, _, hsecond⟩ := run_reconcile_iff.mp hsecond
  obtain ⟨_, _, _, _, halone⟩ := run_reconcile_iff.mp halone
  have hs := hfirst.sound Store.Sound.empty
  have homits : s.omitsEmpty = false := hfirst.omitsEmpty Store.Sound.empty
  have hbuilt := settings.isBuilt_owned b d hd
  have hsame : (settings.context a).SameName (settings.context b) := ⟨hname, hspace⟩
  obtain ⟨alone, hget, hmade⟩ :=
    halone.exists_made Store.Sound.empty rfl hd (by simp [Store.get?])
  have hown := hmade.ownBody_eq hbuilt
  cases hlive : s.get? d.place with
  | none =>
      obtain ⟨object, hobject, hmade'⟩ := hsecond.exists_made hs homits hd hlive
      refine ⟨object, alone, hobject, hget, ?_⟩
      rw [hown, hmade'.ownBody_eq hbuilt]
      refine ⟨fun _ e he hplace _ => ?_, fun _ => rfl⟩
      obtain ⟨old, hold, -⟩ :=
        hfirst.exists_made Store.Sound.empty rfl he (by simp [Store.get?])
      rw [hplace, hlive] at hold
      simp at hold
  | some live =>
      -- Whichever earlier object stood at the place, it decides what the pass does.
      have hover : ∀ e ∈ (settings.context a).owned, e.place = d.place →
          ∃ object, t.get? d.place = some object ∧ ownBody d.kind object.body =
            ownBody d.kind
              (if isUnchanged e.object d.object then e.object.body else d.object.body) := by
        intro e he hplace
        exact hsecond.ownBody_over_made hs homits hd hlive
          (hfirst.made_of_empty he (hplace ▸ hlive)) (settings.isBuilt_owned a e he)
          (Context.alike_of_place_eq hsame he hd hplace)
      obtain ⟨old, hold, hplace⟩ := hfirst.exists_mem_owned hlive
      obtain ⟨object, hobject, hbody⟩ := hover old hold hplace
      refine ⟨object, alone, hobject, hget, ?_⟩
      rw [hown]
      constructor
      · intro hequal e he hplace' hunchanged
        obtain ⟨object', hobject', hbody'⟩ := hover e he hplace'
        obtain rfl := Option.some.inj (hobject.symm.trans hobject')
        rw [if_pos hunchanged] at hbody'
        exact hbody'.symm.trans hequal
      · intro hfresh
        rw [hbody]
        by_cases hunchanged : isUnchanged old.object d.object = true
        · rw [if_pos hunchanged]
          exact hfresh old hold hplace hunchanged
        · rw [if_neg hunchanged]

/-! ## Owners -/

theorem ownerReferences_of_mem_desired {c : Context} (hd : d ∈ c.desired) :
    d.object.metadata.ownerReferences = none := by
  obtain ⟨m, hm, rfl⟩ := List.mem_map.mp hd
  obtain ⟨name, component, extra, hmetadata⟩ := Manifest.metadata_isOf hm
  exact congrArg Metadata.ownerReferences hmetadata

/-- One owner makes no difference between objects that name none. -/
theorem isUnchanged_ownedBy {c c' : Context} (he : e ∈ c.desired) (hd : d ∈ c'.desired)
    (owner : OwnerReference) :
    isUnchanged (e.ownedBy owner).object (d.ownedBy owner).object =
      isUnchanged e.object d.object := by
  have hnamespaced : ∀ {c : Context} {d : Desired}, d ∈ c.desired →
      d.kind.isNamespaced = true := by
    intro c d hmem
    obtain ⟨m, -, rfl⟩ := List.mem_map.mp hmem
    exact Context.isNamespaced_kind
  unfold isUnchanged
  rw [Desired.ownedBy_of_isNamespaced (hnamespaced he),
    Desired.ownedBy_of_isNamespaced (hnamespaced hd), Desired.ownedBy_body,
    Desired.ownedBy_body, ownerReferences_of_mem_desired he,
    ownerReferences_of_mem_desired hd, hasOwners_self, hasOwners_self]

theorem Agent.ownerReference_eq (hname : a.name = b.name)
    (huid : a.metadata.uid = b.metadata.uid) : a.ownerReference = b.ownerReference := by
  unfold Agent.ownerReference
  rw [hname, huid]

/-- A desired object has the body that it would have without an earlier spec, apart from
the address of a service, exactly if no object that the earlier spec desired at its
place held all that is desired of it and had another body. -/
theorem ownBody_after_iff {ra rb : PassReport} (hname : a.name = b.name)
    (hspace : a.namespaceName = b.namespaceName) (huid : a.metadata.uid = b.metadata.uid)
    (hfirst : Action.run (reconcile Store.cluster settings a) {} = (.ok ra, s))
    (hsecond : Action.run (reconcile Store.cluster settings b) s = (.ok rb, t)) :
    ∃ rb' u, Action.run (reconcile Store.cluster settings b) {} = (.ok rb', u) ∧
      ∀ d ∈ (settings.context b).desired,
        ∃ object alone, t.get? d.place = some object ∧ u.get? d.place = some alone ∧
          (ownBody d.kind object.body = ownBody d.kind alone.body ↔
            ∀ e ∈ (settings.context a).desired, e.place = d.place →
              isUnchanged e.object d.object = true →
                ownBody d.kind e.object.body = ownBody d.kind d.object.body) := by
  obtain ⟨_, _, _, _, hpassed⟩ := run_reconcile_iff.mp hsecond
  obtain ⟨rb', u, _, _, hfresh⟩ := run_reconcile_of_empty settings hpassed.valid
  have hrun := run_reconcile_iff.mpr ⟨_, _, _, _, hfresh⟩
  have howner : (settings.context a).agent.ownerReference =
      (settings.context b).agent.ownerReference := Agent.ownerReference_eq hname huid
  refine ⟨rb', u, hrun, ?_⟩
  intro d hd
  obtain ⟨object, alone, hobject, halone, hiff⟩ := ownBody_after_owned hname hspace hfirst
    hsecond hrun (List.mem_map_of_mem hd)
  rw [Desired.ownedBy_place] at hobject halone
  refine ⟨object, alone, hobject, halone, ?_⟩
  rw [Desired.ownedBy_kind, Desired.ownedBy_body, Desired.ownedBy_place] at hiff
  rw [hiff]
  unfold Context.owned
  rw [List.forall_mem_map, howner]
  constructor
  · intro hfresh e he hplace hunchanged
    have hbody := hfresh e he
    rw [Desired.ownedBy_place, Desired.ownedBy_body, isUnchanged_ownedBy he hd] at hbody
    exact hbody hplace hunchanged
  · intro hfresh e he hplace hunchanged
    rw [Desired.ownedBy_place] at hplace
    rw [isUnchanged_ownedBy he hd] at hunchanged
    rw [Desired.ownedBy_body]
    exact hfresh e he hplace hunchanged

/-! ## A setting that is taken back -/

/-- An agent with a deployment, whose pods are on the network of their nodes or not. -/
def Agent.deployed (hostNetwork : Bool) : Agent :=
  { metadata := { name := some "a", namespaceName := some "ns", uid := some "u" }
    spec := { hostNetwork }
    status := none }

/-- What a deployment in a store says about the network of its pods. -/
def hostNetworkIn (s : Store) : Option Json :=
  (s.get? ⟨.deployment, "ns", "a"⟩).bind fun object =>
    object.body.at? ["spec", "template", "spec", "hostNetwork"]

/-- The pass of an agent with a deployment. -/
def passOver (hostNetwork : Bool) (s : Store) : Except Failure PassReport × Store :=
  Action.run (reconcile Store.cluster {} (Agent.deployed hostNetwork)) s

set_option maxRecDepth 100000 in
theorem passOver_results :
    ((passOver true {}).1.toOption.map fun _ => ()) = some () ∧
      ((passOver false (passOver true {}).2).1.toOption.map fun _ => ()) = some () ∧
      ((passOver false {}).1.toOption.map fun _ => ()) = some () ∧
      hostNetworkIn (passOver false (passOver true {}).2).2 = some (.bool true) ∧
      hostNetworkIn (passOver false {}).2 = none ∧
      ((passOver false {}).2.get? ⟨.deployment, "ns", "a"⟩).isSome := by
  decide +kernel

theorem ownBody_after_iff_deployed :
    ∃ ra s rb t rb' u,
      Action.run (reconcile Store.cluster {} (Agent.deployed true)) {} = (.ok ra, s) ∧
      Action.run (reconcile Store.cluster {} (Agent.deployed false)) s = (.ok rb, t) ∧
      Action.run (reconcile Store.cluster {} (Agent.deployed false)) {} = (.ok rb', u) ∧
      ∀ d ∈ (PassSettings.context {} (Agent.deployed false)).desired,
        ∃ object alone, t.get? d.place = some object ∧ u.get? d.place = some alone ∧
          (ownBody d.kind object.body = ownBody d.kind alone.body ↔
            ∀ e ∈ (PassSettings.context {} (Agent.deployed true)).desired,
              e.place = d.place → isUnchanged e.object d.object = true →
                ownBody d.kind e.object.body = ownBody d.kind d.object.body) := by
  obtain ⟨hfirst, hsecond, -⟩ := passOver_results
  obtain ⟨ra, hfirst, -⟩ := Action.exists_ok_of_map_eq hfirst
  obtain ⟨rb, hsecond, -⟩ := Action.exists_ok_of_map_eq hsecond
  obtain ⟨rb', u, hfresh, hbodies⟩ := ownBody_after_iff (a := .deployed true)
    (b := .deployed false) rfl rfl rfl hfirst hsecond
  exact ⟨ra, _, rb, _, rb', u, hfirst, hsecond, hfresh, hbodies⟩

/-- Pods that were asked to be on the network of their nodes stay there when this is
taken back: the second pass succeeds and leaves the deployment as it is. -/
theorem hostNetwork_survives :
    (Agent.deployed true).spec.isValid = true ∧ (Agent.deployed false).spec.isValid = true ∧
    ∃ ra s rb t rb' u object alone,
      Action.run (reconcile Store.cluster {} (Agent.deployed true)) {} = (.ok ra, s) ∧
      Action.run (reconcile Store.cluster {} (Agent.deployed false)) s = (.ok rb, t) ∧
      Action.run (reconcile Store.cluster {} (Agent.deployed false)) {} = (.ok rb', u) ∧
      t.get? ⟨.deployment, "ns", "a"⟩ = some object ∧
      u.get? ⟨.deployment, "ns", "a"⟩ = some alone ∧
      ownBody .deployment object.body ≠ ownBody .deployment alone.body := by
  obtain ⟨hfirst, hsecond, hfresh, hkept, habsent, hsome⟩ := passOver_results
  obtain ⟨ra, hfirst, -⟩ := Action.exists_ok_of_map_eq hfirst
  obtain ⟨rb, hsecond, -⟩ := Action.exists_ok_of_map_eq hsecond
  obtain ⟨rb', hfresh, -⟩ := Action.exists_ok_of_map_eq hfresh
  obtain ⟨object, hobject, hfield⟩ := Option.bind_eq_some_iff.mp hkept
  obtain ⟨alone, halone⟩ := Option.isSome_iff_exists.mp hsome
  refine ⟨by decide, by decide, ra, _, rb, _, rb', _, object, alone, hfirst, hsecond,
    hfresh, hobject, halone, ?_⟩
  intro hsame
  have hbodies : object.body = alone.body := hsame
  have hnone : alone.body.at? ["spec", "template", "spec", "hostNetwork"] = none := by
    unfold hostNetworkIn at habsent
    rwa [halone] at habsent
  rw [hbodies, hnone] at hfield
  simp at hfield

end AgentOperator
