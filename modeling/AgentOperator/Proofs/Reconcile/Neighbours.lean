import AgentOperator.Proofs.Manifest.Clash
import AgentOperator.Proofs.Manifest.Selection
import AgentOperator.Proofs.Reconcile.Collection
import AgentOperator.Proofs.Reconcile.Runs

/-!
# Agents that share a store

Two agents whose passes take turns.  Nothing in a pass asks whose an object is: it
writes wherever it desires an object, and it deletes what its selector matches.  So the
objects of the other agent are safe for two reasons only: the places that two agents
desire are apart unless their names clash, and every object is labelled with the agent
that it was last written for.
-/

namespace AgentOperator

variable {settings others : PassSettings} {agent other : Agent} {agents : Agent → Prop}
  {i j : Identity} {d e : Desired} {s : Store} {key : StoreKey} {object : Object}

/-! ## Whose an object is -/

def Object.IsControlledBy (object : Object) (uid : String) : Prop :=
  ∃ owner ∈ object.metadata.ownerReferences.getD [],
    owner.controller = some true ∧ owner.uid = uid

/-- The object bears the marks of the agent: it is owned by it and labelled with it. -/
structure MarkedBy (agent : Agent) (object : Object) : Prop where
  owners : object.metadata.ownerReferences = some [agent.ownerReference]
  labelled : object.labels.get? instanceLabel = some agent.instanceName

theorem MarkedBy.uid_eq (hmarked : MarkedBy agent object) {uid : String}
    (hcontrolled : object.IsControlledBy uid) : agent.metadata.uid.getD "" = uid := by
  obtain ⟨owner, hmem, -, huid⟩ := hcontrolled
  rw [hmarked.owners] at hmem
  obtain rfl := List.mem_singleton.mp hmem
  exact huid

namespace MarkedBy

theorem congr {other : Object} (hmarked : MarkedBy agent object)
    (howners : other.metadata.ownerReferences = object.metadata.ownerReferences)
    (hlabels : other.metadata.labels = object.metadata.labels) : MarkedBy agent other := by
  constructor
  · rw [howners, hmarked.owners]
  · unfold Object.labels
    rw [hlabels]
    exact hmarked.labelled

theorem updatedObject {target : Object} (hmarked : MarkedBy agent target) (live : Object) :
    MarkedBy agent (updatedObject live target) := by
  constructor
  · show (target.metadata.ownerReferences <|> live.metadata.ownerReferences) = _
    rw [hmarked.owners]
    rfl
  · have hlabelled := hmarked.labelled
    unfold Object.labels at hlabelled ⊢
    show ((overlayEntries live.metadata.labels target.metadata.labels).getD ∅).get? _ = _
    cases hlabels : target.metadata.labels with
    | none =>
        rw [hlabels] at hlabelled
        simp [Dict.get?, EmptyCollection.emptyCollection, Dict.empty] at hlabelled
    | some labels =>
        rw [hlabels, Option.getD_some] at hlabelled
        show (Dict.merge _ labels).get? instanceLabel = _
        rw [Dict.get?_merge, hlabelled]
        rfl

end MarkedBy

theorem Context.markedBy_of_mem_owned {c : Context} (hd : d ∈ c.owned) :
    MarkedBy c.agent d.object := by
  obtain ⟨m, hm, rfl⟩ := mem_owned hd
  obtain ⟨name, component, extra, hmeta⟩ := Manifest.metadata_isOf hm
  have hnamespaced : m.desired.kind.isNamespaced = true := isNamespaced_kind
  have howned := Desired.ownedBy_of_isNamespaced hnamespaced c.agent.ownerReference
  constructor
  · rw [howned]
  · unfold Object.labels
    rw [howned]
    show (m.metadata.labels.getD ∅).get? instanceLabel = _
    rw [hmeta]
    exact Agent.get?_objectLabels (by simp [Agent.selectorEntries]) _ _ _
      fun heq => absurd heq (by decide)

/-- The object bears the marks of an agent that desires it at its place. -/
def MarkedAt (agents : Agent → Prop) : StoreKey → Object → Prop :=
  StandsFor agents fun agent _ live => MarkedBy agent live

theorem upheld_markedAt (hagent : agents agent) (hd : d ∈ (settings.context agent).owned) :
    Upheld (MarkedAt agents) d := by
  have hmarked : MarkedBy agent d.object := Context.markedBy_of_mem_owned hd
  constructor
  · intro s
    have hmetadata := s.newObject_metadata d.kind d.object
    exact ⟨settings, agent, d, hagent, hd, rfl,
      hmarked.congr (by rw [hmetadata]) (by rw [hmetadata])⟩
  · intro s live target _ _ _ hmerge
    obtain ⟨-, htarget⟩ := mergeImmutable_eq hmerge
    have hmerged : MarkedBy agent target :=
      hmarked.congr (by rw [htarget]) (by rw [htarget])
    have hmetadata := s.nextObject_metadata live (updatedObject live target)
    exact ⟨settings, agent, d, hagent, hd, rfl,
      (hmerged.updatedObject live).congr (by rw [hmetadata]) (by rw [hmetadata])⟩

/-! ## What one pass may do to the other agent's objects -/

/-- The selector of an agent matches a label of another agent of its namespace only if
the name of the one goes on after a comma behind that of the other. -/
theorem exists_comma_of_isSelected (hhome : agent.home = other.home)
    (hname : agent.name ≠ other.name)
    (hselected : Store.isSelected object agent.ownershipSelector = true)
    (hlabelled : object.labels.get? instanceLabel = some other.instanceName) :
    ∃ rest, agent.name = other.name ++ "," ++ rest := by
  obtain ⟨label, hlabel, hstart⟩ := Store.label_of_isSelected hselected
  obtain rfl := Option.some.inj (hlabelled.symm.trans hlabel)
  unfold Agent.instanceName at hstart
  rw [hhome] at hstart
  rcases hstart with heq | ⟨rest, heq⟩
  · exact absurd ((String.append_right_inj _).mp heq) hname
  · have hbehind : other.home ++ "." ++ agent.name =
        other.home ++ "." ++ (other.name ++ "," ++ rest) := by
      simpa only [String.append_assoc] using heq
    exact ⟨rest, (String.append_right_inj _).mp hbehind⟩

/-- What tells two agents apart that both live in a namespace. -/
structure Identity.Apart (i j : Identity) : Prop where
  spaced : i.space.isSome
  otherSpaced : j.space.isSome
  names : (i.space, i.name) ≠ (j.space, j.name)
  uids : i.uid.getD "" ≠ j.uid.getD ""

theorem Identity.Apart.name_ne (hapart : i.Apart j) (hspace : i.space = j.space) :
    i.name ≠ j.name :=
  fun hname => hapart.names (Prod.ext hspace hname)

theorem Identity.Apart.space_eq (hapart : i.Apart j) {default : String}
    (heq : i.space.getD default = j.space.getD "") : i.space = j.space := by
  obtain ⟨space, hspace⟩ := Option.isSome_iff_exists.mp hapart.spaced
  obtain ⟨space', hspace'⟩ := Option.isSome_iff_exists.mp hapart.otherSpaced
  rw [hspace, hspace', Option.getD_some, Option.getD_some] at heq
  rw [hspace, hspace', heq]

theorem clash_of_desired (hapart : agent.identity.Apart other.identity)
    (he : e ∈ (others.context other).owned)
    (hdesired : e.place ∈ (settings.context agent).owned.map Desired.place) :
    agent.identity.space = other.identity.space ∧
      NamesClash e.place.kind agent.name other.name := by
  obtain ⟨d, hd, hplace⟩ := List.mem_map.mp hdesired
  have hspaces := congrArg StoreKey.space hplace
  rw [Context.space_of_mem_owned hd, Context.space_of_mem_owned he] at hspaces
  have hspace := hapart.space_eq hspaces
  have hclash := Context.clash_of_place_eq hd he hplace (hapart.name_ne hspace)
  rw [hplace] at hclash
  exact ⟨hspace, hclash⟩

/-- Where an object of another agent passes for one of the agent's, they share a namespace
and the name of the agent goes on after a comma behind that of the other. -/
theorem comma_of_belongs (hapart : agent.identity.Apart other.identity)
    (he : e ∈ (others.context other).owned) (hmarked : MarkedBy other object)
    (hbelongs : Belongs agent e.place object) :
    agent.identity.space = other.identity.space ∧
      ∃ rest, agent.name = other.name ++ "," ++ rest := by
  have hspaces := hbelongs.space
  rw [Context.space_of_mem_owned he] at hspaces
  have hspace := hapart.space_eq hspaces.symm
  have hhome : agent.home = other.home := congrArg (fun space => space.getD "default") hspace
  exact ⟨hspace, exists_comma_of_isSelected hhome (hapart.name_ne hspace) hbelongs.selected
    hmarked.labelled⟩

/-- Two agents of a store whose passes take turns.  A pass of the one leaves every object
that the other one controls as it was, unless they share a namespace and their names are
alike: where it desires an object at that place itself, and the names clash; or where it
collects the object, since its own name is that of the other with a comma behind it. -/
theorem reconcile_spares_neighbours (hapart : i.Apart j)
    (hs : s.RunBy fun a => a.identity = i ∨ a.identity = j) (hagent : agent.identity = i)
    (settings : PassSettings) (hget : s.get? key = some object)
    (hcontrolled : object.IsControlledBy (j.uid.getD "")) :
    (Action.run (reconcile Store.cluster settings agent) s).2.get? key = some object ∨
      i.space = j.space ∧
        (key ∈ (settings.context agent).desired.map Desired.place ∧
            NamesClash key.kind i.name j.name ∨
          (Action.run (reconcile Store.cluster settings agent) s).2.get? key = none ∧
            ∃ rest, i.name = j.name ++ "," ++ rest) := by
  have hmarked := hs.each fun _ _ hagent _ hd => upheld_markedAt hagent hd
  obtain ⟨others, other, e, hother, he, rfl, hmarks⟩ := hmarked key object hget
  -- An object that the other agent controls was last written for that agent.
  have huid := hmarks.uid_eq hcontrolled
  obtain rfl : other.identity = j := hother.resolve_left fun heq =>
    hapart.uids ((congrArg (fun i => i.uid.getD "") heq).symm.trans huid)
  subst hagent
  by_cases hdesired : e.place ∈ (settings.context agent).owned.map Desired.place
  · obtain ⟨hspace, hclash⟩ := clash_of_desired hapart he hdesired
    rw [map_place_owned] at hdesired
    exact .inr ⟨hspace, .inl ⟨hdesired, hclash⟩⟩
  · rcases run_reconcile_swept settings agent hs.reachable.sound with
      hkept | ⟨applied, s₁, -, heach, hswept⟩
    · exact .inl ((hkept _).trans hget)
    · have hnowhere : ∀ d ∈ (settings.context agent).owned, e.place ≠ d.place :=
        fun d hd heq => hdesired (List.mem_map.mpr ⟨d, hd, heq.symm⟩)
      have hbefore := (heach.get?_of_forall_ne hnowhere).trans hget
      rcases hswept e.place with hkept | ⟨-, hkept | ⟨hnone, orphan, horphan, hisOrphan⟩⟩
      · exact .inl (hkept.trans hbefore)
      · exact .inl (hkept.trans hbefore)
      · obtain rfl := Option.some.inj (hbefore.symm.trans horphan)
        obtain ⟨hspace, hcomma⟩ := comma_of_belongs hapart he hmarks hisOrphan.belongs
        exact .inr ⟨hspace, .inr ⟨hnone, hcomma⟩⟩

/-! ## Sidecars beside the sidecar -/

/-- A sidecar of another name in the namespace of the sidecar. -/
def Agent.beside (name uid : String) : Agent :=
  { Agent.sidecar with
    metadata := { name := some name, namespaceName := some "ns", uid := some uid } }

/-- The sidecar with pipelines, whose config map has a suffix. -/
def Agent.piped : Agent :=
  { Agent.sidecar with spec := { mode := .sidecar, otelConfig := some "receivers: \x7b\x7d" } }

def Store.passed (s : Store) (agent : Agent) : Store :=
  (Action.run (reconcile Store.cluster {} agent) s).2

theorem Store.passed_eq (s : Store) (agent : Agent) :
    s.passed agent = (Action.run (reconcile Store.cluster {} agent) s).2 := rfl

theorem Store.RunBy.passed (hs : s.RunBy agents) (hagent : agents agent) :
    (s.passed agent).RunBy agents :=
  hs.pass {} hagent

def Store.left : Store := Store.passed {} Agent.sidecar

def Store.sharedLeft : Store := Store.left.passed (Agent.beside "b" "v")

def Store.suffixedLeft : Store := Store.passed {} (Agent.beside "a-otel" "v")

def Store.ownersOf (s : Store) (name : String) : Option (Option (List OwnerReference)) :=
  (s.get? ⟨.configMap, "ns", name⟩).map fun object => object.metadata.ownerReferences

theorem Store.exists_controlled {name : String} {a : Agent}
    (howners : s.ownersOf name = some (some [a.ownerReference])) :
    ∃ object, s.get? ⟨.configMap, "ns", name⟩ = some object ∧
      object.metadata.ownerReferences = some [a.ownerReference] ∧
      object.IsControlledBy (a.metadata.uid.getD "") := by
  obtain ⟨object, hget, howners⟩ := Option.map_eq_some_iff.mp howners
  refine ⟨object, hget, howners, a.ownerReference, ?_, rfl, rfl⟩
  rw [howners]
  exact List.mem_singleton_self _

set_option maxRecDepth 100000 in
theorem ownersOf_results :
    Store.left.ownersOf "a" = some (some [Agent.sidecar.ownerReference]) ∧
      Store.sharedLeft.ownersOf "b" = some (some [(Agent.beside "b" "v").ownerReference]) ∧
      (Store.left.passed (Agent.beside "a," "v")).ownersOf "a" = none ∧
      Store.suffixedLeft.ownersOf "a-otel" =
        some (some [(Agent.beside "a-otel" "v").ownerReference]) ∧
      (Store.suffixedLeft.passed Agent.piped).ownersOf "a-otel" =
        some (some [Agent.piped.ownerReference]) := by
  decide +kernel

theorem reconcile_spares_neighbours_beside :
    ∃ object, Store.sharedLeft.get? ⟨.configMap, "ns", "b"⟩ = some object ∧
      object.IsControlledBy "v" ∧
      (Store.sharedLeft.passed Agent.sidecar).get? ⟨.configMap, "ns", "b"⟩ = some object := by
  have hapart : Agent.sidecar.identity.Apart (Agent.beside "b" "v").identity :=
    ⟨rfl, rfl, by decide, by decide⟩
  have hs : Store.sharedLeft.RunBy fun a =>
      a.identity = Agent.sidecar.identity ∨ a.identity = (Agent.beside "b" "v").identity :=
    (Store.RunBy.empty.passed (.inl rfl)).passed (.inr rfl)
  obtain ⟨object, hget, -, hcontrolled⟩ := Store.exists_controlled ownersOf_results.2.1
  refine ⟨object, hget, hcontrolled, ?_⟩
  rw [Store.passed_eq]
  rcases reconcile_spares_neighbours hapart hs rfl {} hget hcontrolled with
    hkept | ⟨-, ⟨-, -, suffix, hsuffix, hnames⟩ | ⟨-, rest, hcomma⟩⟩
  · exact hkept
  · have hfalse : ¬ (("a" : String) = "b" ++ "-" ++ "otel" ∨ "b" = "a" ++ "-" ++ "otel") := by
      decide
    cases hsuffix
    exact absurd hnames hfalse
  · have hlist : "a".toList = ("b" ++ "," ++ rest).toList := congrArg String.toList hcomma
    simp at hlist

/-- Names that are alike do make two agents fight: the sidecar with pipelines takes the
config map of an agent whose name has the suffix, and an agent whose name is that of the
sidecar with a comma behind it deletes the sidecar's. -/
theorem neighbours_fight :
    (Agent.piped.identity.Apart (Agent.beside "a-otel" "v").identity ∧
      Agent.piped.spec.isValid = true ∧ (Agent.beside "a-otel" "v").spec.isValid = true ∧
      ∃ before after,
        Store.suffixedLeft.get? ⟨.configMap, "ns", "a-otel"⟩ = some before ∧
        before.IsControlledBy "v" ∧
        (Store.suffixedLeft.passed Agent.piped).get? ⟨.configMap, "ns", "a-otel"⟩ =
          some after ∧
        after ≠ before ∧ after.IsControlledBy "u") ∧
    (Agent.beside "a," "v").identity.Apart Agent.sidecar.identity ∧
      Agent.sidecar.spec.isValid = true ∧ (Agent.beside "a," "v").spec.isValid = true ∧
      ∃ before,
        Store.left.get? ⟨.configMap, "ns", "a"⟩ = some before ∧
        before.IsControlledBy "u" ∧
        (Store.left.passed (Agent.beside "a," "v")).get? ⟨.configMap, "ns", "a"⟩ = none := by
  obtain ⟨hleft, -, hcollected, hsuffixed, htaken⟩ := ownersOf_results
  constructor
  · obtain ⟨before, hbefore, howner, hcontrolled⟩ := Store.exists_controlled hsuffixed
    obtain ⟨after, hafter, howner', hcontrolled'⟩ := Store.exists_controlled htaken
    refine ⟨⟨rfl, rfl, by decide, by decide⟩, by decide, by decide, before, after, hbefore,
      hcontrolled, hafter, ?_, hcontrolled'⟩
    rintro rfl
    have howners : some [Agent.piped.ownerReference] =
        some [(Agent.beside "a-otel" "v").ownerReference] := howner'.symm.trans howner
    exact absurd howners (by decide)
  · obtain ⟨before, hbefore, -, hcontrolled⟩ := Store.exists_controlled hleft
    exact ⟨⟨rfl, rfl, by decide, by decide⟩, by decide, by decide, before, hbefore,
      hcontrolled, Option.map_eq_none_iff.mp hcollected⟩

end AgentOperator
