import AgentOperator.Proofs.Manifest.Desired
import AgentOperator.Proofs.Reconcile.Pass
import AgentOperator.Proofs.Recording

/-!
# The calls of a pass

Which calls a pass makes, in which order, over every cluster and whatever the calls
answer.  Each function of a pass has a relation between its result and its calls,
and the relation of a pass is put together from them: one case for each way in which
a pass ends.
-/

namespace AgentOperator

open AgentOperator.Action (Logs Repeated logs_noted logs_pure logs_throw logs_mk_pure)

variable {σ : Type} {settings : PassSettings} {agent : Agent} {c : Context} {d : Desired}
  {ds : List Desired} {outcomes : List Outcome} {failures : List Failure}
  {failure : Failure} {calls : List Call}

/-! ## Applying -/

/-- The read of a desired object. -/
def Desired.read (d : Desired) (answer : Except Failure (Option Object)) : Call :=
  .get d.kind d.namespaceName d.object.name answer

/-- The calls of one attempt at bringing a desired object to its target state. -/
inductive Attempt (d : Desired) :
    Except Failure (Change × Option String) → List Call → Prop
  | unread {failure : Failure} : Attempt d (.error failure) [d.read (.error failure)]
  | created (answer : Except Failure Object) :
    Attempt d (answer.map fun made => (.created, made.metadata.uid))
      [d.read (.ok none), .create d.kind d.object answer]
  | deleted (answer : Except Failure Unit) {live target : Object} {field : Json.Path}
    (hmerge : mergeImmutable d.kind live d.object = (some field, target)) :
    Attempt d (answer.map fun _ => (.immutableConflict, none))
      [d.read (.ok (some live)), .delete d.kind d.namespaceName d.object.name answer]
  | unchanged {live target : Object}
    (hmerge : mergeImmutable d.kind live d.object = (none, target))
    (hsame : isUnchanged live target = true) :
    Attempt d (.ok (.unchanged, live.metadata.uid)) [d.read (.ok (some live))]
  | updated (answer : Except Failure Object) {live target : Object}
    (hmerge : mergeImmutable d.kind live d.object = (none, target))
    (hdiffers : isUnchanged live target = false) :
    Attempt d (answer.map fun written => (.updated, written.metadata.uid))
      [d.read (.ok (some live)), .replace d.kind (updatedObject live target) answer]

theorem applyOver_logs (cluster : Cluster σ) (d : Desired) (live : Object) :
    Logs (applyOver cluster.recorded d live) (applyOver cluster d live) fun result calls =>
      Attempt d result (d.read (.ok (some live)) :: calls) := by
  unfold applyOver
  rcases hmerge : mergeImmutable d.kind live d.object with ⟨conflict, target⟩
  cases conflict with
  | some field =>
      refine (logs_noted (R := fun result calls => calls =
        [.delete d.kind d.namespaceName d.object.name result]) fun _ => rfl).bind ?_ ?_
      · rintro failure _ rfl
        exact .deleted (.error failure) hmerge
      · rintro _ _ rfl
        exact logs_pure (.deleted (.ok ()) hmerge)
  | none =>
      dsimp only
      cases hsame : isUnchanged live target with
      | true => exact logs_pure (.unchanged hmerge hsame)
      | false =>
          refine (logs_noted (R := fun result calls => calls =
            [.replace d.kind (updatedObject live target) result]) fun _ => rfl).bind ?_ ?_
          · rintro failure _ rfl
            exact .updated (.error failure) hmerge hsame
          · rintro written _ rfl
            exact logs_pure (.updated (.ok written) hmerge hsame)

theorem applyOne_logs (cluster : Cluster σ) (d : Desired) :
    Logs (applyOne cluster.recorded d) (applyOne cluster d) (Attempt d) := by
  unfold applyOne
  refine (logs_noted (R := fun result calls => calls = [d.read result])
    fun _ => rfl).bind ?_ ?_
  · rintro failure _ rfl
    exact .unread
  · rintro found _ rfl
    cases found with
    | some live => exact applyOver_logs cluster d live
    | none =>
        refine (logs_noted (R := fun result calls => calls = [.create d.kind d.object result])
          fun _ => rfl).bind ?_ ?_
        · rintro failure _ rfl
          exact .created (.error failure)
        · rintro made _ rfl
          exact logs_pure (.created (.ok made))

/-- The calls of applying objects one after the other, with what became of each and
the failures among them. -/
inductive AppliedCalls : List Desired → List Outcome → List Failure → List Call → Prop
  | nil : AppliedCalls [] [] [] []
  | applied {d : Desired} {ds : List Desired} {change : Change} {uid : Option String}
    {outcomes : List Outcome} {failures : List Failure} {first rest : List Call}
    (hfirst : Repeated (Attempt d) (.ok (change, uid)) first)
    (hrest : AppliedCalls ds outcomes failures rest) :
    AppliedCalls (d :: ds) (⟨d.key, change, uid⟩ :: outcomes) failures (first ++ rest)
  | failed {d : Desired} {ds : List Desired} {failure : Failure} {outcomes : List Outcome}
    {failures : List Failure} {first rest : List Call}
    (hfirst : Repeated (Attempt d) (.error failure) first)
    (hrest : AppliedCalls ds outcomes failures rest) :
    AppliedCalls (d :: ds) (⟨d.key, .failed, none⟩ :: outcomes)
      (failure.forObject d.key :: failures) (first ++ rest)

theorem applyRecorded_logs (cluster : Cluster σ) (maxAttempts : Nat) (d : Desired)
    (report : ApplyReport) :
    Logs (applyRecorded cluster.recorded maxAttempts d report)
      (applyRecorded cluster maxAttempts d report) fun result calls =>
        (∃ change uid, Repeated (Attempt d) (.ok (change, uid)) calls ∧
          result = .ok {
            report with outcomes := report.outcomes ++ [⟨d.key, change, uid⟩] }) ∨
        ∃ failure, Repeated (Attempt d) (.error failure) calls ∧
          result = .ok {
            outcomes := report.outcomes ++ [⟨d.key, .failed, none⟩]
            failures := report.failures ++ [failure.forObject d.key] } := by
  unfold applyRecorded
  refine Logs.bind (R := fun result calls =>
      ∃ done, result = .ok done ∧ Repeated (Attempt d) done calls)
    (((applyOne_logs cluster d).retryOnConflict maxAttempts).attempt
      fun result _ hcalls => ⟨result, rfl, hcalls⟩) ?_ ?_
  · rintro _ _ ⟨_, hdone, -⟩
    simp at hdone
  · rintro done first ⟨_, hdone, hfirst⟩
    obtain rfl := Except.ok.inj hdone
    cases done with
    | ok done =>
        obtain ⟨change, uid⟩ := done
        refine logs_pure (.inl ⟨change, uid, ?_, rfl⟩)
        rwa [List.append_nil]
    | error failure =>
        refine logs_pure (.inr ⟨failure, ?_, rfl⟩)
        rwa [List.append_nil]

theorem applyAll_logs (cluster : Cluster σ) (owner : OwnerReference) (maxAttempts : Nat)
    (ds : List Desired) :
    Logs (applyAll cluster.recorded owner maxAttempts ds)
      (applyAll cluster owner maxAttempts ds) fun result calls =>
        ∃ applied, result = .ok applied ∧
          AppliedCalls (ds.map fun d => d.ownedBy owner) applied.outcomes applied.failures
            calls := by
  let Applied (report : ApplyReport) (ds : List Desired)
      (result : Except Failure ApplyReport) (calls : List Call) : Prop :=
    ∃ outcomes failures, AppliedCalls ds outcomes failures calls ∧
      result = .ok ⟨report.outcomes ++ outcomes, report.failures ++ failures⟩
  rw [applyAll_eq, applyAll_eq]
  refine (Logs.foldlM (F := Applied) ?_ ?_ _ ({} : ApplyReport)).mono ?_
  · exact fun report => ⟨[], [], .nil, by simp⟩
  · intro report d ds
    refine (applyRecorded_logs cluster maxAttempts d report).mono ?_
    rintro _ first (⟨change, uid, hfirst, rfl⟩ | ⟨failure, hfirst, rfl⟩)
    · rintro result rest ⟨outcomes, failures, hrest, rfl⟩
      exact ⟨_, _, .applied hfirst hrest, by simp⟩
    · rintro result rest ⟨outcomes, failures, hrest, rfl⟩
      exact ⟨_, _, .failed hfirst hrest, by simp⟩
  · rintro _ calls ⟨outcomes, failures, hcalls, rfl⟩
    exact ⟨_, rfl, by simpa using hcalls⟩

/-! ## Collecting -/

/-- The listing of a kind for an agent. -/
def Agent.listing (agent : Agent) (kind : Kind) (answer : Except Failure (List Object)) :
    Call :=
  .list kind agent.home agent.ownershipSelector answer

/-- The listings of the kinds of which objects were found. -/
def listings (agent : Agent) (found : List (Kind × List Object)) : List Call :=
  found.map fun entry => agent.listing entry.1 (.ok entry.2)

/-- The index of what was found, over an index. -/
def OwnedIndex.addFound (agent : Agent) (index : OwnedIndex)
    (found : List (Kind × List Object)) : OwnedIndex :=
  found.foldl
    (fun index entry => (entry.2.filter fun object => !isNamedAccount agent entry.1 object).foldl
      (fun index object => index.add entry.1 object) index) index

/-- The calls of listing everything that belongs to an agent, of which the index is
made: all kinds in order, up to the first one that cannot be listed. -/
inductive ListCalls (agent : Agent) (kinds : List Kind) (index : OwnedIndex) :
    Except Failure OwnedIndex → List Call → Prop
  | listed (found : List (Kind × List Object)) (hkinds : found.map Prod.fst = kinds) :
    ListCalls agent kinds index (.ok (index.addFound agent found)) (listings agent found)
  | unlisted (found : List (Kind × List Object)) {kind : Kind} {rest : List Kind}
    {failure : Failure} (hkinds : found.map Prod.fst ++ kind :: rest = kinds) :
    ListCalls agent kinds index (.error failure)
      (listings agent found ++ [agent.listing kind (.error failure)])

theorem indexKind_logs (cluster : Cluster σ) (agent : Agent) (index : OwnedIndex)
    (kind : Kind) :
    Logs (indexKind cluster.recorded agent index kind) (indexKind cluster agent index kind)
      fun result calls =>
        (∃ objects, calls = [agent.listing kind (.ok objects)] ∧
          result = .ok (index.addFound agent [(kind, objects)])) ∨
        ∃ failure, calls = [agent.listing kind (.error failure)] ∧
          result = .error failure := by
  unfold indexKind
  refine (logs_noted (R := fun result calls => calls = [agent.listing kind result])
    fun _ => rfl).bind ?_ ?_
  · rintro failure _ rfl
    exact .inr ⟨failure, rfl, rfl⟩
  · rintro objects _ rfl
    exact logs_pure (.inl ⟨objects, rfl, rfl⟩)

theorem listOwned_logs (cluster : Cluster σ) (agent : Agent) :
    Logs (listOwned cluster.recorded agent) (listOwned cluster agent)
      (ListCalls agent Kind.namespaced ∅) := by
  unfold listOwned
  refine Logs.foldlM (F := fun index kinds => ListCalls agent kinds index)
    (fun index => .listed [] rfl) ?_ _ _
  intro index kind kinds
  refine (indexKind_logs cluster agent index kind).mono ?_
  rintro _ _ (⟨objects, rfl, rfl⟩ | ⟨failure, rfl, rfl⟩)
  · intro result rest hrest
    cases hrest with
    | @listed found hkinds =>
        exact .listed ((kind, objects) :: found) (by rw [List.map_cons, hkinds])
    | @unlisted found kind' rest failure hkinds =>
        exact .unlisted ((kind, objects) :: found)
          (by rw [List.map_cons, List.cons_append, hkinds])
  · exact .unlisted [] rfl

/-- The deletion of an orphan. -/
def Owned.deletion (o : Owned) (answer : Except Failure Unit) : Call :=
  .delete o.kind o.object.metadata.namespaceName o.object.metadata.anyName answer

/-- The calls of deleting orphans one after the other, with the number of those that
were deleted and the failures of the others. -/
inductive DeletedCalls : List Owned → Nat → List Failure → List Call → Prop
  | nil : DeletedCalls [] 0 [] []
  | deleted {o : Owned} {os : List Owned} {count : Nat} {failures : List Failure}
    {rest : List Call} (hrest : DeletedCalls os count failures rest) :
    DeletedCalls (o :: os) (count + 1) failures (o.deletion (.ok ()) :: rest)
  | failed {o : Owned} {os : List Owned} {failure : Failure} {count : Nat}
    {failures : List Failure} {rest : List Call}
    (hrest : DeletedCalls os count failures rest) :
    DeletedCalls (o :: os) count (failure.forObject o.key :: failures)
      (o.deletion (.error failure) :: rest)

theorem pruneOne_logs (cluster : Cluster σ) (done : Nat × List Failure) (o : Owned) :
    Logs (pruneOne cluster.recorded done o) (pruneOne cluster done o) fun result calls =>
      (calls = [o.deletion (.ok ())] ∧ result = .ok (done.1 + 1, done.2)) ∨
      ∃ failure, calls = [o.deletion (.error failure)] ∧
        result = .ok (done.1, done.2 ++ [failure.forObject o.key]) := by
  unfold pruneOne
  refine Logs.bind (R := fun result calls =>
      ∃ answer, result = .ok answer ∧ calls = [o.deletion answer])
    ((logs_noted (R := fun result calls => calls = [o.deletion result])
      fun _ => rfl).attempt fun result _ hcalls => ⟨result, rfl, hcalls⟩) ?_ ?_
  · rintro _ _ ⟨_, hanswer, -⟩
    simp at hanswer
  · rintro answer _ ⟨_, hanswer, rfl⟩
    obtain rfl := Except.ok.inj hanswer
    cases answer with
    | ok _ => exact logs_pure (.inl ⟨rfl, rfl⟩)
    | error failure => exact logs_pure (.inr ⟨failure, rfl, rfl⟩)

theorem pruneOrphans_logs (cluster : Cluster σ) (index : OwnedIndex)
    (reconciled : List String) :
    Logs (pruneOrphans cluster.recorded index reconciled)
      (pruneOrphans cluster index reconciled) fun result calls => ∃ count failures,
        DeletedCalls (index.orphans reconciled) count failures calls ∧
          result = (Failure.gather failures).map fun _ => count := by
  let Deleted (done : Nat × List Failure) (os : List Owned)
      (result : Except Failure (Nat × List Failure)) (calls : List Call) : Prop :=
    ∃ count failures, DeletedCalls os count failures calls ∧
      result = .ok (done.1 + count, done.2 ++ failures)
  have hfold : Logs ((index.orphans reconciled).foldlM (pruneOne cluster.recorded) (0, []))
      ((index.orphans reconciled).foldlM (pruneOne cluster) (0, []))
      (Deleted (0, []) (index.orphans reconciled)) := by
    refine Logs.foldlM (F := Deleted) (fun done => ⟨0, [], .nil, by simp⟩) ?_ _ _
    intro done o os
    refine (pruneOne_logs cluster done o).mono ?_
    rintro _ _ (⟨rfl, rfl⟩ | ⟨failure, rfl, rfl⟩)
    · rintro result rest ⟨count, failures, hrest, rfl⟩
      exact ⟨_, _, .deleted hrest, by simp; omega⟩
    · rintro result rest ⟨count, failures, hrest, rfl⟩
      exact ⟨_, _, .failed hrest, by simp⟩
  unfold pruneOrphans
  refine hfold.bind ?_ ?_
  · rintro _ _ ⟨_, _, -, hdone⟩
    simp at hdone
  · rintro _ first ⟨count, failures, hcalls, hdone⟩
    obtain rfl := Except.ok.inj hdone
    refine (logs_mk_pure (R := fun result calls =>
      calls = [] ∧ result = Failure.gather failures) ⟨rfl, by simp⟩).bind ?_ ?_
    · rintro failure _ ⟨rfl, hgather⟩
      refine ⟨count, failures, by rwa [List.append_nil], ?_⟩
      rw [← hgather]
      rfl
    · rintro _ _ ⟨rfl, hgather⟩
      refine logs_pure ⟨count, failures, by simpa using hcalls, ?_⟩
      rw [← hgather]
      simp [Except.map]

/-- The calls of a collection. -/
inductive CollectCalls (agent : Agent) (reconciled : List String) :
    Except Failure Nat → List Call → Prop
  | unlisted {failure : Failure} {calls : List Call}
    (hlisted : ListCalls agent Kind.namespaced ∅ (.error failure) calls) :
    CollectCalls agent reconciled (.error failure) calls
  | listed {index : OwnedIndex} {count : Nat} {failures : List Failure}
    {first rest : List Call} (hlisted : ListCalls agent Kind.namespaced ∅ (.ok index) first)
    (hdeleted : DeletedCalls (index.orphans reconciled) count failures rest) :
    CollectCalls agent reconciled ((Failure.gather failures).map fun _ => count)
      (first ++ rest)

theorem collectGarbage_logs (cluster : Cluster σ) (agent : Agent) (reconciled : List String) :
    Logs (collectGarbage cluster.recorded agent reconciled)
      (collectGarbage cluster agent reconciled) (CollectCalls agent reconciled) := by
  unfold collectGarbage
  refine (listOwned_logs cluster agent).bind (fun _ _ => .unlisted) fun index first hlisted => ?_
  refine (pruneOrphans_logs cluster index reconciled).mono ?_
  rintro _ rest ⟨count, failures, hdeleted, rfl⟩
  exact .listed hlisted hdeleted

/-! ## Reporting -/

/-- The calls of computing a status. -/
inductive StatusCalls (c : Context) : Except Failure Status → List Call → Prop
  | unneeded (hkind : c.mode.workloadKind? = none) :
    StatusCalls c (.ok (Status.withoutWorkload c)) []
  | read (answer : Except Failure (Option Object)) {kind : Kind}
    (hkind : c.mode.workloadKind? = some kind) :
    StatusCalls c (answer.map (Status.ofWorkload c kind))
      [.get kind c.namespaceName c.name answer]

theorem computeStatus_logs (cluster : Cluster σ) (c : Context) :
    Logs (computeStatus cluster.recorded c) (computeStatus cluster c) (StatusCalls c) := by
  unfold computeStatus
  cases hkind : c.mode.workloadKind? with
  | none => exact logs_pure (.unneeded hkind)
  | some kind =>
      refine (logs_noted (R := fun result calls => calls =
        [.get kind c.namespaceName c.name result]) fun _ => rfl).bind ?_ ?_
      · rintro failure _ rfl
        exact .read (.error failure) hkind
      · rintro live _ rfl
        exact logs_pure (.read (.ok live) hkind)

/-- The calls of writing a status, unless the agent has it already. -/
inductive PatchCalls (agent : Agent) (status : Status) : Except Failure Bool → List Call → Prop
  | unneeded (hsame : agent.status = some status) : PatchCalls agent status (.ok false) []
  | patched (answer : Except Failure Unit) (hdiffers : agent.status ≠ some status) :
    PatchCalls agent status (answer.map fun _ => true) [.patchStatus agent status answer]

theorem reportStatus_logs (cluster : Cluster σ) (agent : Agent) (status : Status) :
    Logs (reportStatus cluster.recorded agent status) (reportStatus cluster agent status)
      (PatchCalls agent status) := by
  unfold reportStatus
  by_cases hsame : agent.status = some status
  · rw [if_pos hsame, if_pos hsame]
    exact logs_pure (.unneeded hsame)
  · rw [if_neg hsame, if_neg hsame]
    refine (logs_noted (R := fun result calls => calls =
      [.patchStatus agent status result]) fun _ => rfl).bind ?_ ?_
    · rintro failure _ rfl
      exact .patched (.error failure) hsame
    · rintro _ _ rfl
      exact logs_pure (.patched (.ok ()) hsame)

theorem announce_logs (cluster : Cluster σ) (agent : Agent) (event : Event) :
    Logs (announce cluster.recorded agent event) (announce cluster agent event)
      fun result calls => result = .ok () ∧ ∃ answer, calls = [.publish agent event answer] := by
  unfold announce
  refine Logs.bind (R := fun result calls =>
      ∃ answer, result = .ok answer ∧ calls = [.publish agent event answer])
    ((logs_noted (R := fun result calls => calls = [.publish agent event result])
      fun _ => rfl).attempt fun result _ hcalls => ⟨result, rfl, hcalls⟩) ?_ ?_
  · rintro _ _ ⟨_, hanswer, -⟩
    simp at hanswer
  · rintro answer _ ⟨_, -, rfl⟩
    exact logs_pure ⟨rfl, _, rfl⟩

theorem failWith_logs {α : Type} (cluster : Cluster σ) (agent : Agent)
    (reason message : String) (failure : Failure) :
    Logs (failWith cluster.recorded agent reason message failure : Action _ α)
      (failWith cluster agent reason message failure) fun result calls =>
        result = .error failure ∧
          ∃ answer, calls = [.publish agent ⟨.warning, reason, message⟩ answer] := by
  unfold failWith
  refine (announce_logs cluster agent _).bind ?_ ?_
  · rintro _ _ ⟨hresult, -⟩
    simp at hresult
  · rintro _ first ⟨-, hfirst⟩
    refine logs_throw ⟨rfl, ?_⟩
    rwa [List.append_nil]

/-! ## Stages of a pass -/

/-- All desired objects were applied without a failure, and all kinds were listed. -/
inductive ListedCalls (settings : PassSettings) (agent : Agent) (applied : ApplyReport)
    (index : OwnedIndex) : List Call → Prop
  | mk {applying listing : List Call} (hsuccess : applied.failures = [])
    (happlied : AppliedCalls (settings.context agent).owned applied.outcomes [] applying)
    (hlisted : ListCalls agent Kind.namespaced ∅ (.ok index) listing) :
    ListedCalls settings agent applied index (applying ++ listing)

/-- Beside that, every orphan was deleted. -/
inductive CollectedCalls (settings : PassSettings) (agent : Agent) (applied : ApplyReport)
    (pruned : Nat) : List Call → Prop
  | mk {index : OwnedIndex} {listed deleting : List Call}
    (hlisted : ListedCalls settings agent applied index listed)
    (hdeleted : DeletedCalls (index.orphans applied.reconciled) pruned [] deleting) :
    CollectedCalls settings agent applied pruned (listed ++ deleting)

/-- Beside that, the workload was read, if there is one. -/
inductive ReadCalls (settings : PassSettings) (agent : Agent) (applied : ApplyReport)
    (pruned : Nat) (status : Status) : List Call → Prop
  | mk {collected reading : List Call}
    (hcollected : CollectedCalls settings agent applied pruned collected)
    (hread : StatusCalls (settings.context agent) (.ok status) reading) :
    ReadCalls settings agent applied pruned status (collected ++ reading)

/-- The announcement of what a pass did, if it did anything. -/
inductive AnnouncedCalls (agent : Agent) (report : PassReport) : List Call → Prop
  | quiet (hquiet : report.changedAnything = false) : AnnouncedCalls agent report []
  | announced (answer : Except Failure Unit) (hchanged : report.changedAnything = true) :
    AnnouncedCalls agent report
      [.publish agent ⟨.normal, "Reconciled", report.text⟩ answer]

/-- The calls of a pass: one case for each way in which it ends. -/
inductive PassCalls (settings : PassSettings) (agent : Agent) :
    Except Failure PassReport → List Call → Prop
  | invalid {message : String} {answer : Except Failure Unit}
    (hinvalid : agent.spec.isValid = false) :
    PassCalls settings agent (.error (.validation message))
      [.publish agent ⟨.warning, "InvalidSpec", message⟩ answer]
  | unapplied {outcomes : List Outcome} {failures : List Failure} {failure : Failure}
    {applying : List Call} {answer : Except Failure Unit}
    (hvalid : agent.spec.isValid = true)
    (happlied : AppliedCalls (settings.context agent).owned outcomes failures applying)
    (hgather : Failure.gather failures = .error failure) :
    PassCalls settings agent (.error failure)
      (applying ++ [.publish agent ⟨.warning, "ReconcileFailed", failure.message⟩ answer])
  | unlisted {applied : ApplyReport} {failure : Failure} {applying listing : List Call}
    {answer : Except Failure Unit} (hvalid : agent.spec.isValid = true)
    (hsuccess : applied.failures = [])
    (happlied : AppliedCalls (settings.context agent).owned applied.outcomes [] applying)
    (hlisted : ListCalls agent Kind.namespaced ∅ (.error failure) listing) :
    PassCalls settings agent (.error failure)
      (applying ++ listing ++
        [.publish agent ⟨.warning, "GarbageCollectionFailed", failure.message⟩ answer])
  | undeleted {applied : ApplyReport} {index : OwnedIndex} {count : Nat}
    {failures : List Failure} {failure : Failure} {listed deleting : List Call}
    {answer : Except Failure Unit} (hvalid : agent.spec.isValid = true)
    (hlisted : ListedCalls settings agent applied index listed)
    (hdeleted : DeletedCalls (index.orphans applied.reconciled) count failures deleting)
    (hgather : Failure.gather failures = .error failure) :
    PassCalls settings agent (.error failure)
      (listed ++ deleting ++
        [.publish agent ⟨.warning, "GarbageCollectionFailed", failure.message⟩ answer])
  | unread {applied : ApplyReport} {pruned : Nat} {failure : Failure}
    {collected reading : List Call} (hvalid : agent.spec.isValid = true)
    (hcollected : CollectedCalls settings agent applied pruned collected)
    (hread : StatusCalls (settings.context agent) (.error failure) reading) :
    PassCalls settings agent (.error failure) (collected ++ reading)
  | unreported {applied : ApplyReport} {pruned : Nat} {status : Status} {failure : Failure}
    {read patching : List Call} (hvalid : agent.spec.isValid = true)
    (hread : ReadCalls settings agent applied pruned status read)
    (hpatched : PatchCalls agent status (.error failure) patching) :
    PassCalls settings agent (.error failure) (read ++ patching)
  | completed {applied : ApplyReport} {pruned : Nat} {status : Status} {patched : Bool}
    {read patching announcing : List Call} (hvalid : agent.spec.isValid = true)
    (hread : ReadCalls settings agent applied pruned status read)
    (hpatched : PatchCalls agent status (.ok patched) patching)
    (hannounced : AnnouncedCalls agent (.ofApply applied pruned patched) announcing) :
    PassCalls settings agent (.ok (.ofApply applied pruned patched))
      (read ++ patching ++ announcing)

/-! ## Passes -/

theorem applyPhase_logs (cluster : Cluster σ) (settings : PassSettings) (agent : Agent) :
    Logs (applyPhase cluster.recorded (settings.context agent) settings.maxAttempts)
      (applyPhase cluster (settings.context agent) settings.maxAttempts)
      fun result calls =>
        (∃ applied, result = .ok applied ∧ applied.failures = [] ∧
          AppliedCalls (settings.context agent).owned applied.outcomes [] calls) ∨
        ∃ outcomes failures failure applying answer,
          AppliedCalls (settings.context agent).owned outcomes failures applying ∧
          Failure.gather failures = .error failure ∧ result = .error failure ∧
          calls = applying ++
            [.publish agent ⟨.warning, "ReconcileFailed", failure.message⟩ answer] := by
  unfold applyPhase
  refine (applyAll_logs cluster _ _ _).bind ?_ ?_
  · rintro _ _ ⟨_, hresult, -⟩
    simp at hresult
  · rintro applied first ⟨_, hresult, hfirst⟩
    obtain rfl := Except.ok.inj hresult
    cases hgather : Failure.gather applied.failures with
    | ok _ =>
        have hsuccess := Failure.gather_eq_ok_iff.mp hgather
        rw [hsuccess] at hfirst
        refine logs_pure (.inl ⟨applied, rfl, hsuccess, ?_⟩)
        rwa [List.append_nil]
    | error failure =>
        refine (failWith_logs cluster _ _ _ failure).mono ?_
        rintro _ _ ⟨rfl, answer, rfl⟩
        exact .inr ⟨_, _, failure, first, answer, hfirst, hgather, rfl, rfl⟩

theorem prunePhase_logs (cluster : Cluster σ) (agent : Agent) (applied : ApplyReport) :
    Logs (prunePhase cluster.recorded agent applied) (prunePhase cluster agent applied)
      fun result calls =>
        (∃ pruned, result = .ok pruned ∧
          CollectCalls agent applied.reconciled (.ok pruned) calls) ∨
        ∃ failure collecting answer, result = .error failure ∧
          CollectCalls agent applied.reconciled (.error failure) collecting ∧
          calls = collecting ++
            [.publish agent ⟨.warning, "GarbageCollectionFailed", failure.message⟩ answer] := by
  unfold prunePhase
  refine Logs.bind (R := fun result calls =>
      ∃ done, result = .ok done ∧ CollectCalls agent applied.reconciled done calls)
    ((collectGarbage_logs cluster agent _).attempt
      fun result _ hcalls => ⟨result, rfl, hcalls⟩) ?_ ?_
  · rintro _ _ ⟨_, hdone, -⟩
    simp at hdone
  · rintro done first ⟨_, hdone, hfirst⟩
    obtain rfl := Except.ok.inj hdone
    cases done with
    | ok pruned =>
        refine logs_pure (.inl ⟨pruned, rfl, ?_⟩)
        rwa [List.append_nil]
    | error failure =>
        refine (failWith_logs cluster agent _ _ failure).mono ?_
        rintro _ _ ⟨rfl, answer, rfl⟩
        exact .inr ⟨failure, first, answer, rfl, hfirst, rfl⟩

/-- A collection that succeeds completes the stage of the orphans. -/
theorem CollectCalls.collected {applied : ApplyReport} {pruned : Nat}
    {applying collecting : List Call} (hsuccess : applied.failures = [])
    (happlied : AppliedCalls (settings.context agent).owned applied.outcomes [] applying)
    (hcollect : CollectCalls agent applied.reconciled (.ok pruned) collecting) :
    CollectedCalls settings agent applied pruned (applying ++ collecting) := by
  generalize hresult : Except.ok pruned = result at hcollect
  cases hcollect with
  | unlisted => simp at hresult
  | @listed index count failures listing deleting hlisted hdeleted =>
      cases hgather : Failure.gather failures with
      | error failure => simp [hgather, Except.map] at hresult
      | ok _ =>
          rw [hgather] at hresult
          obtain rfl : pruned = count := Except.ok.inj hresult
          rw [Failure.gather_eq_ok_iff.mp hgather] at hdeleted
          rw [← List.append_assoc]
          exact .mk (.mk hsuccess happlied hlisted) hdeleted

/-- A collection that fails is one of the ways in which a pass ends. -/
theorem CollectCalls.passCalls_of_error {applied : ApplyReport}
    {applying collecting : List Call} (hvalid : agent.spec.isValid = true)
    (hsuccess : applied.failures = [])
    (happlied : AppliedCalls (settings.context agent).owned applied.outcomes [] applying)
    (hcollect : CollectCalls agent applied.reconciled (.error failure) collecting)
    (answer : Except Failure Unit) :
    PassCalls settings agent (.error failure) (applying ++ collecting ++
      [.publish agent ⟨.warning, "GarbageCollectionFailed", failure.message⟩ answer]) := by
  generalize hresult : Except.error failure = result at hcollect
  cases hcollect with
  | unlisted hlisted =>
      obtain rfl := Except.error.inj hresult
      exact .unlisted hvalid hsuccess happlied hlisted
  | @listed index count failures listing deleting hlisted hdeleted =>
      cases hgather : Failure.gather failures with
      | ok _ => simp [hgather, Except.map] at hresult
      | error other =>
          rw [hgather] at hresult
          obtain rfl : failure = other := Except.error.inj hresult
          rw [← List.append_assoc applying]
          exact .undeleted hvalid (.mk hsuccess happlied hlisted) hdeleted hgather

/-- The calls of what follows the collection of a pass. -/
theorem report_logs (cluster : Cluster σ) (hvalid : agent.spec.isValid = true)
    {applied : ApplyReport} {pruned : Nat} {collected : List Call}
    (hcollected : CollectedCalls settings agent applied pruned collected) :
    Logs
      (do
        let status ← computeStatus cluster.recorded (settings.context agent)
        let patched ← reportStatus cluster.recorded agent status
        let report := PassReport.ofApply applied pruned patched
        if report.changedAnything then
          announce cluster.recorded agent ⟨.normal, "Reconciled", report.text⟩
        return report)
      (do
        let status ← computeStatus cluster (settings.context agent)
        let patched ← reportStatus cluster agent status
        let report := PassReport.ofApply applied pruned patched
        if report.changedAnything then
          announce cluster agent ⟨.normal, "Reconciled", report.text⟩
        return report)
      fun result calls => PassCalls settings agent result (collected ++ calls) := by
  refine (computeStatus_logs cluster _).bind
    (fun _ _ hread => .unread hvalid hcollected hread) fun status reading hread => ?_
  have hread := ReadCalls.mk hcollected hread
  refine (reportStatus_logs cluster agent status).bind ?_ fun patched patching hpatched => ?_
  · intro failure patching hpatched
    rw [← List.append_assoc]
    exact .unreported hvalid hread hpatched
  · cases hchanged : (PassReport.ofApply applied pruned patched).changedAnything with
    | false =>
        simp only [hchanged, Bool.false_eq_true, if_false]
        refine logs_pure ?_
        have hdone := PassCalls.completed hvalid hread hpatched (.quiet hchanged)
        simpa only [List.append_assoc, List.append_nil] using hdone
    | true =>
        simp only [hchanged, if_true]
        refine (announce_logs cluster agent _).bind ?_ ?_
        · rintro _ _ ⟨hresult, -⟩
          simp at hresult
        · rintro _ _ ⟨-, answer, rfl⟩
          refine logs_pure ?_
          have hdone := PassCalls.completed hvalid hread hpatched
            (.announced answer hchanged)
          simpa only [List.append_assoc, List.append_nil] using hdone

/-- Over every cluster a pass makes the calls of one of the ways in which it ends. -/
theorem reconcile_logs (cluster : Cluster σ) (settings : PassSettings) (agent : Agent) :
    Logs (reconcile cluster.recorded settings agent) (reconcile cluster settings agent)
      (PassCalls settings agent) := by
  unfold reconcile
  cases hvalid : agent.spec.isValid with
  | false =>
      refine (failWith_logs cluster agent _ _ _).mono ?_
      rintro _ _ ⟨rfl, answer, rfl⟩
      exact .invalid hvalid
  | true =>
      refine (applyPhase_logs cluster settings agent).bind ?_ ?_
      · rintro _ _ (⟨_, hresult, -⟩ |
          ⟨outcomes, failures, failure, applying, answer, happlied, hgather, hresult, rfl⟩)
        · simp at hresult
        · obtain rfl := Except.error.inj hresult
          exact .unapplied hvalid happlied hgather
      · rintro _ applying (⟨applied, hresult, hsuccess, happlied⟩ |
          ⟨_, _, _, _, _, -, -, hresult, -⟩)
        · obtain rfl := Except.ok.inj hresult
          refine (prunePhase_logs cluster agent _).bind ?_ ?_
          · rintro _ _ (⟨_, hresult, -⟩ | ⟨failure, collecting, answer, hresult, hcollect, rfl⟩)
            · simp at hresult
            · obtain rfl := Except.error.inj hresult
              rw [← List.append_assoc]
              exact hcollect.passCalls_of_error hvalid hsuccess happlied answer
          · rintro _ collecting (⟨pruned, hresult, hcollect⟩ | ⟨_, _, _, hresult, -⟩)
            · obtain rfl := Except.ok.inj hresult
              refine (report_logs cluster hvalid (hcollect.collected hsuccess happlied)).mono ?_
              intro result calls hcalls
              rwa [List.append_assoc] at hcalls
            · simp at hresult
        · simp at hresult

end AgentOperator
