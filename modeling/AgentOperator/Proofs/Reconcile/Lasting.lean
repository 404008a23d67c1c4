import AgentOperator.Proofs.Reconcile.Fit
import AgentOperator.Proofs.Reconcile.Idempotence
import AgentOperator.Proofs.Reconcile.Trace

/-!
# Objects that outlast their specs

Where passes of one agent are all that ever wrote to a store, every stored object fits
what the agent desires at its place, whatever the spec was and whatever it is now.  So
no change of the spec makes a pass delete an object in order to make it again, and no
replacement of a service is refused.
-/

namespace AgentOperator

open AgentOperator.Action (Keeps Recorded keeps_noted)

variable {settings : PassSettings} {agent : Agent} {i : Identity} {d e : Desired}
  {ds : List Desired} {s t : Store} {change : Change} {uid : Option String}
  {outcomes : List Outcome} {failures : List Failure} {key : StoreKey}
  {live after object : Object} {failure : Failure}

/-! ## What is stored fits what is desired -/

/-- The object fits what the agent desires at its place, or desired before. -/
def FitsPlace (i : Identity) : StoreKey → Object → Prop :=
  StandsFor (fun a => a.identity = i) fun _ d live => Fits d live

theorem sameName_of_identity {other : Agent} (heq : agent.identity = other.identity)
    (settings others : PassSettings) :
    (settings.context agent).SameName (others.context other) :=
  ⟨congrArg Identity.name heq, congrArg Identity.space heq⟩

/-- What the agent desired at a place and what it desires there now are alike. -/
theorem FitsPlace.fits (hplace : FitsPlace i d.place live) (hagent : agent.identity = i)
    (hd : d ∈ (settings.context agent).owned) : Fits d live := by
  obtain ⟨others, other, e, hother, he, hsame, hfits⟩ := hplace
  have hnames := sameName_of_identity (hother.trans hagent.symm) others settings
  exact hfits.congr (Context.alike_of_place_eq hnames he hd hsame)

theorem upheld_fitsPlace (hagent : agent.identity = i)
    (hd : d ∈ (settings.context agent).owned) : Upheld (FitsPlace i) d := by
  have hbuilt := settings.isBuilt_owned agent d hd
  constructor
  · intro s
    exact ⟨settings, agent, d, hagent, hd, rfl, hbuilt.fits_newObject s⟩
  · intro s live target hs hlive hplace hmerge
    have hfits := hplace.fits hagent hd
    exact ⟨settings, agent, d, hagent, hd, rfl,
      hfits.nextObject hbuilt (hs.proper hlive) hmerge s⟩

def Fitting (i : Identity) (s : Store) : Prop := s.Sound ∧ s.Each (FitsPlace i)

theorem Store.RunBy.fitting (hs : s.RunBy fun a => a.identity = i) : Fitting i s :=
  ⟨hs.reachable.sound, hs.each fun _ _ hagent _ hd => upheld_fitsPlace hagent hd⟩

theorem Fitting.fits (hs : Fitting i s) (hagent : agent.identity = i)
    (hd : d ∈ (settings.context agent).owned) (hlive : s.get? d.place = some live) :
    Fits d live :=
  (hs.2 _ _ hlive).fits hagent hd

theorem Fitting.applied (hs : Fitting i s) (hagent : agent.identity = i)
    (hd : d ∈ (settings.context agent).owned) (happlied : Applied d s change uid t) :
    Fitting i t :=
  ⟨happlied.sound hs.1 (settings.isBuilt_owned agent d hd),
    happlied.each (upheld_fitsPlace hagent hd) hs.1 hs.2⟩

theorem Fitting.sameButConflicts (hs : Fitting i s) (hsame : s.SameButConflicts t) :
    Fitting i t :=
  ⟨hs.1.of_sameButConflicts hsame, hs.2.sameButConflicts hsame⟩

/-! ## What a pass leaves in place -/

/-- The object is still the one that it was, and a service has its address. -/
structure Lasts (key : StoreKey) (live after : Object) : Prop where
  uid : after.metadata.uid = live.metadata.uid
  address : key.kind = .service →
    after.body.at? ["spec", "clusterIP"] = live.body.at? ["spec", "clusterIP"]

/-- Every object of the first store is in the second one and is the one that it was. -/
def AllLast (s t : Store) : Prop :=
  ∀ key live, s.get? key = some live → ∃ after, t.get? key = some after ∧ Lasts key live after

theorem AllLast.refl (s : Store) : AllLast s s :=
  fun _ live hlive => ⟨live, hlive, rfl, fun _ => rfl⟩

theorem AllLast.trans {u : Store} (hst : AllLast s t) (htu : AllLast t u) : AllLast s u := by
  intro key live hlive
  obtain ⟨middle, hmiddle, hfirst⟩ := hst key live hlive
  obtain ⟨after, hafter, hsecond⟩ := htu key middle hmiddle
  exact ⟨after, hafter, hsecond.uid.trans hfirst.uid,
    fun hkind => (hsecond.address hkind).trans (hfirst.address hkind)⟩

/-- A step over an object that fits deletes nothing, and leaves every object the one that
it was. -/
theorem Applied.allLast (happlied : Applied d s change uid t) (hs : s.Sound) (hd : d.IsBuilt)
    (hfits : ∀ live, s.get? d.place = some live → Fits d live) :
    AllLast s t ∧ change ≠ .immutableConflict := by
  cases happlied with
  | created habsent =>
      refine ⟨fun key live hlive => ?_, by decide⟩
      have hne : key ≠ d.place := by
        rintro rfl
        rw [habsent] at hlive
        simp at hlive
      exact ⟨live, (Store.get?_of_putEntry_of_ne rfl hne).trans hlive, rfl, fun _ => rfl⟩
  | deleted hlive hmerge =>
      obtain ⟨target, hmerged⟩ := (hfits _ hlive).exists_merge hd
      rw [hmerged] at hmerge
      simp at hmerge
  | unchanged => exact ⟨.refl s, by decide⟩
  | @updated old target hold hmerge =>
      refine ⟨fun key live hlive => ?_, by decide⟩
      by_cases hkey : key = d.place
      · subst hkey
        obtain rfl := Option.some.inj (hold.symm.trans hlive)
        refine ⟨_, Store.get?_of_putEntry rfl, ?_, fun hkind => ?_⟩
        · rw [Store.nextObject_metadata]
        · exact (hfits _ hold).address_nextObject hd (hs.proper hold) hmerge hkind s
      · exact ⟨live, (Store.get?_of_putEntry_of_ne rfl hkey).trans hlive, rfl, fun _ => rfl⟩

theorem AppliedEach.allLast
    (heach : AppliedEach s (settings.context agent).owned outcomes failures t)
    (hs : Fitting i s) (hagent : agent.identity = i) :
    AllLast s t ∧ ∀ outcome ∈ outcomes, outcome.change ≠ .immutableConflict := by
  have hconflicts : ∀ {t u}, Fitting i t ∧ AllLast s t → t.SameButConflicts u →
      Fitting i u ∧ AllLast s u := by
    rintro t u ⟨ht, hlast⟩ hsame
    refine ⟨ht.sameButConflicts hsame, hlast.trans fun key live hlive => ?_⟩
    exact ⟨live, (get?_of_sameButConflicts hsame key).trans hlive, rfl, fun _ => rfl⟩
  have hstep : ∀ {d t change uid u}, d ∈ (settings.context agent).owned →
      Fitting i t ∧ AllLast s t → Applied d t change uid u →
        (Fitting i u ∧ AllLast s u) ∧ change ≠ .immutableConflict := by
    rintro d t change uid u hd ⟨ht, hlast⟩ happlied
    obtain ⟨hnext, hchange⟩ := happlied.allLast ht.1 (settings.isBuilt_owned agent d hd)
      fun live => ht.fits hagent hd
    exact ⟨⟨ht.applied hagent hd happlied, hlast.trans hnext⟩, hchange⟩
  obtain ⟨⟨-, hlast⟩, hchanges⟩ := heach.keeps (Q := fun change => change ≠ .immutableConflict)
    hconflicts hstep (by decide) ⟨hs, .refl s⟩
  exact ⟨hlast, hchanges⟩

/-- A pass leaves the objects that it desires the ones that they were, however it ends. -/
theorem reconcile_lasts (hs : Fitting i s) (hagent : agent.identity = i)
    (hd : d ∈ (settings.context agent).owned) (hlive : s.get? d.place = some live) :
    ∃ after, (Action.run (reconcile Store.cluster settings agent) s).2.get? d.place =
      some after ∧ Lasts d.place live after := by
  rcases run_reconcile_swept settings agent hs.1 with hsame | ⟨applied, s₁, -, heach, hswept⟩
  · exact ⟨live, (hsame _).trans hlive, rfl, fun _ => rfl⟩
  · obtain ⟨hlast, -⟩ := heach.allLast hs hagent
    obtain ⟨after, hafter, hlasts⟩ := hlast _ _ hlive
    refine ⟨after, ?_, hlasts⟩
    rcases hswept d.place with hkept | ⟨hnone, hkept | ⟨-, object, hobject, horphan⟩⟩
    · exact hkept.trans hafter
    · exact hkept.trans hafter
    · -- An object that was applied is no orphan.
      have hall := heach.all hnone
      have hbuilt := settings.isBuilt_owned agent
      obtain ⟨n, -, huid⟩ := (hall.sound hs.1 hbuilt).numbered hobject
      have hmem := (hall.mem_reconciled_iff hs.1 hbuilt
        (settings.placesDistinct_owned agent) hobject huid).mpr (List.mem_map_of_mem hd)
      exact absurd hmem (horphan.forgotten _ huid)

/-! ## Refused replacements -/

/-- The call is no replacement of a service that is refused as invalid. -/
def NotRefused : Call → Prop
  | .replace .service _ (.error (.api error)) => error.code ≠ 422
  | _ => True

theorem Store.keeps_fitting (i : Identity) : CallsKeep (Fitting i) Store.cluster where
  get := fun _ _ _ _ hs => hs
  list := by
    intro kind space selector s hs
    show Fitting i (if s.unlistable.contains kind then (_, s) else (_, s)).2
    split
    · exact hs
    · exact hs
  delete := by
    intro kind space name s hs
    rcases run_guarded name (deletedAt (.of kind space name)) s with
      hrun | ⟨failure, t, hrun, hsame⟩
    · show Fitting i (Action.run (guarded name (deletedAt (.of kind space name))) s).2
      rw [hrun]
      refine ⟨hs.1.deletedAt _, hs.2.of_get? fun key object hget => ?_⟩
      by_cases hkey : key = .of kind space name
      · rw [hkey, get?_deletedAt_self] at hget
        simp at hget
      · rwa [get?_deletedAt_of_ne s hkey] at hget
    · show Fitting i (Action.run (guarded name (deletedAt (.of kind space name))) s).2
      rw [hrun]
      exact hs.sameButConflicts hsame
  patchStatus := fun _ _ _ hs => ⟨hs.1.of_objects_eq rfl (Nat.le_refl _), hs.2⟩
  publish := fun _ _ _ hs => ⟨hs.1.of_objects_eq rfl (Nat.le_refl _), hs.2⟩

/-- Bringing an object to its target state fails only where a write is made to fail, if
what stands at its place fits. -/
theorem applyOne_isInjected (hs : s.Sound) (hd : d.IsBuilt)
    (hfits : ∀ live, s.get? d.place = some live → Fits d live)
    (hfails : (Action.run (applyOne Store.cluster d) s).1 = .error failure) :
    Store.IsInjected failure := by
  unfold applyOne at hfails
  rw [Action.run_bind_of_ok (run_get_place d s)] at hfails
  cases hlive : s.get? d.place with
  | none =>
      rw [hlive] at hfails
      have hmade := congrArg Prod.fst (Store.created_of_none hlive)
      exact Store.isInjected_of_guarded hmade (Action.error_of_run_bind hfails)
  | some live =>
      obtain ⟨target, hmerge⟩ := (hfits live hlive).exists_merge hd
      rw [hlive] at hfails
      simp only [applyOver, hmerge] at hfails
      cases hsame : isUnchanged live target with
      | true =>
          rw [hsame] at hfails
          simp at hfails
      | false =>
          simp only [hsame, Bool.false_eq_true, if_false] at hfails
          obtain ⟨written, hwritten⟩ := (hfits live hlive).replaced_eq hd hs hlive hmerge
          exact Store.isInjected_of_guarded hwritten (Action.error_of_run_bind hfails)

/-- A replacement that fails ends the attempt that made it. -/
theorem Attempt.error_of_replace {result : Except Failure (Change × Option String)}
    {calls : List Call} (hattempt : Attempt d result calls) {kind : Kind}
    (hmem : .replace kind object (.error failure) ∈ calls) : result = .error failure := by
  cases hattempt with
  | updated answer =>
      simp only [Desired.read, List.mem_cons, reduceCtorEq, List.not_mem_nil, or_false,
        false_or, Call.replace.injEq] at hmem
      obtain ⟨-, -, rfl⟩ := hmem
      rfl
  | _ => simp [Desired.read] at hmem

theorem applyOne_keeps_notRefused (hagent : agent.identity = i)
    (hd : d ∈ (settings.context agent).owned) :
    Keeps (Recorded (Fitting i) NotRefused) (applyOne Store.cluster.recorded d) := by
  rintro ⟨s, before⟩ ⟨hs, hbefore⟩
  obtain ⟨calls, hrun, hattempt⟩ := applyOne_logs Store.cluster d s before
  have hbuilt := settings.isBuilt_owned agent d hd
  rw [hrun]
  constructor
  · rcases run_applyOne_cases hs.1.arranged.placed d with ⟨change, uid, t, hok, happlied⟩ |
      ⟨failure, t, herror, hsame⟩
    · rw [hok]
      exact hs.applied hagent hd happlied
    · rw [herror]
      exact hs.sameButConflicts hsame
  · refine List.forall_mem_append.mpr ⟨hbefore, fun call hmem => ?_⟩
    unfold NotRefused
    split
    next object error =>
      have hfails := hattempt.error_of_replace hmem
      rcases applyOne_isInjected hs.1 hbuilt (fun live => hs.fits hagent hd) hfails with
        hfault | hfault
      · obtain rfl := Failure.api.inj hfault
        decide
      · obtain rfl := Failure.api.inj hfault
        decide
    next => trivial

theorem reconcile_notRefused (hs : Fitting i s) (hagent : agent.identity = i)
    (settings : PassSettings) :
    ∀ call ∈ (Action.run (reconcile Store.cluster.recorded settings agent) (s, [])).2.2,
      NotRefused call := by
  have hcalls : CallsKeep (Recorded (Fitting i) NotRefused) Store.cluster.recorded := by
    have hplain := Store.keeps_fitting i
    constructor
    · exact fun _ _ _ => keeps_noted (hplain.get _ _ _) fun _ => trivial
    · exact fun _ _ _ => keeps_noted (hplain.list _ _ _) fun _ => trivial
    · exact fun _ _ _ => keeps_noted (hplain.delete _ _ _) fun _ => trivial
    · exact fun agent status => keeps_noted (hplain.patchStatus agent status) fun _ => trivial
    · exact fun agent event => keeps_noted (hplain.publish agent event) fun _ => trivial
  have hkeeps : Keeps (Recorded (Fitting i) NotRefused)
      (reconcile Store.cluster.recorded settings agent) :=
    hcalls.reconcile fun d hd => applyOne_keeps_notRefused hagent hd
  exact (hkeeps (s, []) ⟨hs, by simp⟩).2

/-! ## Passes of one agent -/

/-- Over a store that only passes of one agent wrote to, whatever their specs, settings
and results, a pass of the agent deletes no object because a field of it cannot change,
none of its replacements of services is refused, and every object that it desires and
that was there before is still the one that it was, a service with its address. -/
theorem reconcile_never_recreates (hs : s.RunBy fun a => a.identity = i)
    (hagent : agent.identity = i) (settings : PassSettings) :
    (∃ applied u,
      Action.run (applyAll Store.cluster agent.ownerReference settings.maxAttempts
        (settings.context agent).desired) s = (.ok applied, u) ∧
      ∀ outcome ∈ applied.outcomes, outcome.change ≠ .immutableConflict) ∧
    (∃ calls,
      Action.run (reconcile Store.cluster.recorded settings agent) (s, []) =
        ((Action.run (reconcile Store.cluster settings agent) s).1,
          (Action.run (reconcile Store.cluster settings agent) s).2, calls) ∧
      ∀ object error, .replace .service object (.error (.api error)) ∈ calls →
        error.code ≠ 422) ∧
    ∀ d ∈ (settings.context agent).desired, ∀ live, s.get? d.place = some live →
      ∃ after,
        (Action.run (reconcile Store.cluster settings agent) s).2.get? d.place =
          some after ∧
        after.metadata.uid = live.metadata.uid ∧
        (d.kind = .service →
          after.body.at? ["spec", "clusterIP"] = live.body.at? ["spec", "clusterIP"]) := by
  have hfitting := hs.fitting
  refine ⟨?_, ?_, ?_⟩
  · obtain ⟨applied, u, hrun, heach⟩ := settings.run_applyAll_each agent hfitting.1.arranged.placed
    exact ⟨applied, u, hrun, (heach.allLast hfitting hagent).2⟩
  · obtain ⟨calls, hrun, -⟩ := reconcile_logs Store.cluster settings agent s []
    have hcalls := reconcile_notRefused hfitting hagent settings
    rw [hrun] at hcalls
    exact ⟨calls, hrun, fun object error hmem => hcalls _ hmem⟩
  · intro d hd live hlive
    have howned : d.ownedBy agent.ownerReference ∈ (settings.context agent).owned :=
      List.mem_map_of_mem hd
    rw [← d.ownedBy_place agent.ownerReference] at hlive
    obtain ⟨after, hafter, hlasts⟩ := reconcile_lasts hfitting hagent howned hlive
    rw [d.ownedBy_place] at hafter hlasts
    exact ⟨after, hafter, hlasts.uid, hlasts.address⟩

/-- A store after a pass of the sidecar that will refuse a write and drops empty fields
from then on. -/
def Store.sidecarLeft : Store :=
  ((Action.run (reconcile Store.cluster {} Agent.sidecar) {}).2.conflictOn "a" 1).omitEmpty

theorem Store.runBy_sidecarLeft :
    Store.sidecarLeft.RunBy fun a => a.identity = Agent.sidecar.identity := by
  have hempty : RunBy (fun a => a.identity = Agent.sidecar.identity) {} := .empty
  exact ((hempty.pass {} rfl).conflictOn "a" 1).omitEmpty

/-- The sidecar with a workload of its own. -/
def Agent.moved : Agent := { Agent.sidecar with spec := { mode := .statefulSet } }

set_option maxRecDepth 100000 in
theorem reconcile_never_recreates_moved :
    ∃ live after,
      Store.sidecarLeft.get? ⟨.service, "ns", "a-monitoring"⟩ = some live ∧
      (Action.run (reconcile Store.cluster {} Agent.moved) Store.sidecarLeft).2.get?
        ⟨.service, "ns", "a-monitoring"⟩ = some after ∧
      after.metadata.uid = live.metadata.uid ∧
      after.body.at? ["spec", "clusterIP"] = live.body.at? ["spec", "clusterIP"] := by
  have hagent : Agent.moved.identity = Agent.sidecar.identity := rfl
  obtain ⟨-, -, hlast⟩ := reconcile_never_recreates Store.runBy_sidecarLeft hagent {}
  have hstored : (Store.sidecarLeft.get? ⟨.service, "ns", "a-monitoring"⟩).isSome = true := by
    decide +kernel
  have hdesired : (⟨.service, "ns", "a-monitoring"⟩ : StoreKey) ∈
      (PassSettings.context {} Agent.moved).desired.map Desired.place := by
    decide +kernel
  obtain ⟨live, hlive⟩ := Option.isSome_iff_exists.mp hstored
  obtain ⟨d, hd, hplace⟩ := List.mem_map.mp hdesired
  obtain ⟨after, hafter, huid, haddress⟩ := hlast d hd live (hplace ▸ hlive)
  have hkind : d.kind = .service := congrArg StoreKey.kind hplace
  exact ⟨live, after, hlive, hplace ▸ hafter, huid, haddress hkind⟩

end AgentOperator
