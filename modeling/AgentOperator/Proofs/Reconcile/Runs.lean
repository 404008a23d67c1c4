import AgentOperator.Proofs.Reconcile.AnyOutcome
import AgentOperator.Proofs.Reconcile.Reachable

/-!
# Stores that only passes write

Stores that begin empty and are written by the passes of certain agents alone, one
after the other, however each pass ends and whatever faults are set between them.
Every object of such a store was made of a desired object and written over by others,
so a relation that both establish holds of every stored object.
-/

namespace AgentOperator

open Store (SameButConflicts)

variable {settings : PassSettings} {agent : Agent} {agents : Agent → Prop} {d : Desired}
  {ds : List Desired} {s t : Store} {change : Change} {uid : Option String}
  {outcomes : List Outcome} {failures : List Failure} {key : StoreKey} {live : Object}
  {R : StoreKey → Object → Prop}

/-- What passes have in common that are about one agent, whatever its spec. -/
structure Identity where
  name : String
  space : Option String
  uid : Option String
deriving DecidableEq

def Agent.identity (a : Agent) : Identity := ⟨a.name, a.namespaceName, a.metadata.uid⟩

namespace Store

/-- The stores that lead from the empty one by passes of certain agents, each with
settings of its own and whatever its result, and by faults between them. -/
inductive RunBy (agents : Agent → Prop) : Store → Prop
  | empty : RunBy agents {}
  | pass {s : Store} (hs : RunBy agents s) (settings : PassSettings) {agent : Agent}
    (hagent : agents agent) :
    RunBy agents (Action.run (reconcile cluster settings agent) s).2
  | conflictOn {s : Store} (hs : RunBy agents s) (name : String) (times : Nat) :
    RunBy agents (s.conflictOn name times)
  | failOn {s : Store} (hs : RunBy agents s) (name : String) : RunBy agents (s.failOn name)
  | failList {s : Store} (hs : RunBy agents s) (kind : Kind) : RunBy agents (s.failList kind)
  | omitEmpty {s : Store} (hs : RunBy agents s) : RunBy agents s.omitEmpty

theorem RunBy.reachable (hs : s.RunBy agents) : s.Reachable := by
  induction hs with
  | empty => exact .empty
  | pass _ settings _ ih => exact reconcile_keeps_reachable settings _ _ ih
  | conflictOn _ name times ih => exact ih.conflictOn name times
  | failOn _ name ih => exact ih.failOn name
  | failList _ kind ih => exact ih.failList kind
  | omitEmpty _ ih => exact ih.omitEmpty

/-- The relation holds of every stored object and its place. -/
def Each (R : StoreKey → Object → Prop) (s : Store) : Prop :=
  ∀ key object, s.get? key = some object → R key object

theorem Each.of_get? (heach : s.Each R)
    (hget : ∀ key object, t.get? key = some object → s.get? key = some object) : t.Each R :=
  fun key object hobject => heach key object (hget key object hobject)

theorem Each.sameButConflicts (heach : s.Each R) (hsame : s.SameButConflicts t) : t.Each R :=
  heach.of_get? fun key object hobject => by rwa [get?_of_sameButConflicts hsame] at hobject

end Store

/-! ## Relations that passes uphold -/

/-- The relation holds of what is made of a desired object, and of what is written for it
over an object of which the relation held. -/
structure Upheld (R : StoreKey → Object → Prop) (d : Desired) : Prop where
  created : ∀ s : Store, R d.place (s.newObject d.kind d.object)
  updated : ∀ {s : Store} {live target : Object}, s.Sound → s.get? d.place = some live →
    R d.place live → mergeImmutable d.kind live d.object = (none, target) →
    R d.place (s.nextObject live (updatedObject live target))

theorem Applied.each (happlied : Applied d s change uid t) (hupheld : Upheld R d)
    (hs : s.Sound) (heach : s.Each R) : t.Each R := by
  intro key object hget
  by_cases hkey : key = d.place
  · subst hkey
    cases happlied with
    | created =>
        obtain rfl := Option.some.inj ((Store.get?_of_putEntry rfl).symm.trans hget)
        exact hupheld.created s
    | deleted =>
        rw [Store.get?_withDeleted_self] at hget
        simp at hget
    | unchanged => exact heach _ _ hget
    | updated hlive hmerge =>
        obtain rfl := Option.some.inj ((Store.get?_of_putEntry rfl).symm.trans hget)
        exact hupheld.updated hs hlive (heach _ _ hlive) hmerge
  · rw [happlied.get?_of_ne hkey] at hget
    exact heach key object hget

theorem AppliedEach.each (heach : AppliedEach s ds outcomes failures t)
    (hds : ∀ d ∈ ds, d.IsBuilt) (hupheld : ∀ d ∈ ds, Upheld R d) (hs : s.Sound)
    (hR : s.Each R) : t.Sound ∧ t.Each R := by
  refine (heach.keeps (P := fun s => s.Sound ∧ s.Each R) (Q := fun _ => True) ?_ ?_ trivial
    ⟨hs, hR⟩).1
  · rintro s t ⟨hs, hR⟩ hsame
    exact ⟨hs.of_sameButConflicts hsame, hR.sameButConflicts hsame⟩
  · rintro d s change uid t hd ⟨hs, hR⟩ happlied
    exact ⟨⟨happlied.sound hs (hds d hd), happlied.each (hupheld d hd) hs hR⟩, trivial⟩

/-- A pass keeps a relation that its desired objects uphold, however it ends. -/
theorem reconcile_keeps_each
    (hupheld : ∀ d ∈ (settings.context agent).owned, Upheld R d) (hs : s.Sound)
    (hR : s.Each R) : (Action.run (reconcile Store.cluster settings agent) s).2.Each R := by
  rcases run_reconcile_swept settings agent hs with hsame | ⟨applied, s₁, -, heach, hswept⟩
  · exact hR.of_get? fun key object hget => by rwa [hsame] at hget
  · obtain ⟨-, hR₁⟩ := heach.each (settings.isBuilt_owned agent) hupheld hs hR
    refine hR₁.of_get? fun key object hget => ?_
    rcases hswept key with hkept | ⟨-, hkept | ⟨hnone, -⟩⟩
    · rwa [hkept] at hget
    · rwa [hkept] at hget
    · rw [hnone] at hget
      simp at hget

/-- A relation that whatever the agents desire upholds holds of every object that their
passes leave. -/
theorem Store.RunBy.each (hs : s.RunBy agents)
    (hupheld : ∀ settings agent, agents agent →
      ∀ d ∈ (PassSettings.context settings agent).owned, Upheld R d) : s.Each R := by
  induction hs with
  | empty =>
      intro key object hget
      simp [Store.get?] at hget
  | pass hs settings hagent ih =>
      exact reconcile_keeps_each (hupheld settings _ hagent) hs.reachable.sound ih
  | conflictOn _ _ _ ih | failOn _ _ ih | failList _ _ ih | omitEmpty _ ih => exact ih

/-- The object stands at a place where one of the agents desires one, and the two are
related. -/
def StandsFor (agents : Agent → Prop) (Q : Agent → Desired → Object → Prop) (key : StoreKey)
    (live : Object) : Prop :=
  ∃ settings agent d, agents agent ∧ d ∈ (PassSettings.context settings agent).owned ∧
    d.place = key ∧ Q agent d live

end AgentOperator
