import AgentOperator.Proofs.Reconcile.Trace

/-!
# Writes that wait

A pass over any cluster deletes orphans only after it applied every desired object
and listed every kind, and writes a status only after it deleted every orphan and
read the workload.  Each kind of calls is told by what stands before it in the
record of the pass, so a call that came too early would show wherever the calls
fail.
-/

namespace AgentOperator

open AgentOperator.Action (Logs Repeated)

variable {σ : Type} {settings : PassSettings} {agent : Agent} {c : Context} {d : Desired}
  {ds : List Desired} {os : List Owned} {outcomes : List Outcome} {failures : List Failure}
  {applied : ApplyReport} {index : OwnedIndex} {count pruned : Nat} {status : Status}
  {calls first rest before after : List Call} {call : Call}

/-! ## Calls that are no reports -/

theorem Attempt.isReport {result : Except Failure (Change × Option String)}
    (hattempt : Attempt d result calls) : ∀ call ∈ calls, call.isReport = false := by
  cases hattempt <;> simp [Desired.read, Call.isReport]

theorem Action.Repeated.forall_mem {α : Type} {R : Except Failure α → List Call → Prop}
    {p : Call → Prop} (hR : ∀ result calls, R result calls → ∀ call ∈ calls, p call)
    {result : Except Failure α} (hrepeated : Repeated R result calls) :
    ∀ call ∈ calls, p call := by
  induction hrepeated with
  | last hlast => exact hR _ _ hlast
  | again hfirst _ _ ih =>
      intro call hmem
      rcases List.mem_append.mp hmem with hmem | hmem
      · exact hR _ _ hfirst call hmem
      · exact ih call hmem

theorem AppliedCalls.isReport (happlied : AppliedCalls ds outcomes failures calls) :
    ∀ call ∈ calls, call.isReport = false := by
  induction happlied with
  | nil => simp
  | applied hfirst _ ih | failed hfirst _ ih =>
      have hattempts := hfirst.forall_mem fun _ _ => Attempt.isReport
      intro call hmem
      exact (List.mem_append.mp hmem).elim (hattempts call) (ih call)

theorem ListCalls.shape {result : Except Failure OwnedIndex} {kinds : List Kind}
    {start : OwnedIndex} (hlisted : ListCalls agent kinds start result calls) :
    ∀ call ∈ calls, ∃ kind answer, call = agent.listing kind answer := by
  have hfound : ∀ found, ∀ call ∈ listings agent found,
      ∃ kind answer, call = agent.listing kind answer := by
    intro found call hmem
    obtain ⟨entry, -, rfl⟩ := List.mem_map.mp hmem
    exact ⟨_, _, rfl⟩
  cases hlisted with
  | listed => exact hfound _
  | unlisted =>
      refine List.forall_mem_append.mpr ⟨hfound _, ?_⟩
      intro call hmem
      exact ⟨_, _, List.mem_singleton.mp hmem⟩

theorem ListCalls.isReport {result : Except Failure OwnedIndex} {kinds : List Kind}
    {start : OwnedIndex} (hlisted : ListCalls agent kinds start result calls) :
    ∀ call ∈ calls, call.isReport = false := by
  intro call hmem
  obtain ⟨kind, answer, rfl⟩ := hlisted.shape call hmem
  rfl

theorem DeletedCalls.isReport (hdeleted : DeletedCalls os count failures calls) :
    ∀ call ∈ calls, call.isReport = false := by
  induction hdeleted with
  | nil => simp
  | deleted _ ih | failed _ ih => exact List.forall_mem_cons.mpr ⟨rfl, ih⟩

theorem StatusCalls.isReport {result : Except Failure Status}
    (hread : StatusCalls c result calls) : ∀ call ∈ calls, call.isReport = false := by
  cases hread <;> simp [Call.isReport]

theorem ListedCalls.isReport (hlisted : ListedCalls settings agent applied index calls) :
    ∀ call ∈ calls, call.isReport = false := by
  obtain ⟨-, happlied, hlisted⟩ := hlisted
  exact List.forall_mem_append.mpr ⟨happlied.isReport, hlisted.isReport⟩

theorem CollectedCalls.isReport
    (hcollected : CollectedCalls settings agent applied pruned calls) :
    ∀ call ∈ calls, call.isReport = false := by
  obtain ⟨hlisted, hdeleted⟩ := hcollected
  exact List.forall_mem_append.mpr ⟨hlisted.isReport, hdeleted.isReport⟩

theorem ReadCalls.isReport (hread : ReadCalls settings agent applied pruned status calls) :
    ∀ call ∈ calls, call.isReport = false := by
  obtain ⟨hcollected, hread⟩ := hread
  exact List.forall_mem_append.mpr ⟨hcollected.isReport, hread.isReport⟩

/-! ## Deletions -/

/-- A call of two lists of calls in a row is one of the first or one of the second. -/
theorem split_append (hsplit : first ++ rest = before ++ call :: after) :
    (∃ between, first = before ++ call :: between) ∨
      ∃ between, before = first ++ between ∧ rest = between ++ call :: after := by
  rcases List.append_eq_append_iff.mp hsplit with ⟨between, hbefore, hrest⟩ |
    ⟨between, hfirst, hcall⟩
  · exact .inr ⟨between, hbefore, hrest⟩
  · cases between with
    | nil =>
        rw [List.append_nil] at hfirst
        exact .inr ⟨[], by rw [hfirst, List.append_nil], hcall.symm⟩
    | cons other between =>
        obtain ⟨rfl, -⟩ := List.cons.inj hcall
        exact .inl ⟨between, hfirst⟩

/-- What the calls before it say of a deletion that makes way for a desired object:
the last of them read the live object, and a field of it that cannot change differs. -/
def MakesWay (ds : List Desired) (before : List Call) (kind : Kind) (space : Option String)
    (name : String) : Prop :=
  ∃ d ∈ ds, kind = d.kind ∧ space = d.namespaceName ∧ name = d.object.name ∧
    ∃ earlier live field target, before = earlier ++ [d.read (.ok (some live))] ∧
      mergeImmutable d.kind live d.object = (some field, target)

def DeletionsMakeWay (ds : List Desired) (calls : List Call) : Prop :=
  ∀ before kind space name answer after,
    calls = before ++ .delete kind space name answer :: after →
      MakesWay ds before kind space name

namespace DeletionsMakeWay

theorem of_isDelete (hcalls : ∀ call ∈ calls, call.isDelete = false) :
    DeletionsMakeWay ds calls := by
  rintro before kind space name answer after rfl
  have hdelete := hcalls (.delete kind space name answer) (by simp)
  simp [Call.isDelete] at hdelete

theorem append (hfirst : DeletionsMakeWay ds first) (hrest : DeletionsMakeWay ds rest) :
    DeletionsMakeWay ds (first ++ rest) := by
  intro before kind space name answer after hsplit
  rcases split_append hsplit with ⟨between, hin⟩ | ⟨between, rfl, hin⟩
  · exact hfirst _ _ _ _ _ _ hin
  · obtain ⟨d, hd, hkind, hspace, hname, earlier, live, field, target, rfl, hmerge⟩ :=
      hrest _ _ _ _ _ _ hin
    exact ⟨d, hd, hkind, hspace, hname, first ++ earlier, live, field, target,
      by rw [List.append_assoc], hmerge⟩

end DeletionsMakeWay

theorem Attempt.deletionsMakeWay {result : Except Failure (Change × Option String)}
    (hattempt : Attempt d result calls) (hd : d ∈ ds) : DeletionsMakeWay ds calls := by
  cases hattempt with
  | @deleted answer live target field hmerge =>
      intro before kind space name other after hsplit
      cases before with
      | nil => simp [Desired.read] at hsplit
      | cons read before =>
          obtain ⟨rfl, hsplit⟩ := List.cons.inj hsplit
          obtain ⟨rfl, ⟨rfl, rfl, rfl, -⟩, -⟩ : before = [] ∧ _ := by
            simpa [List.singleton_eq_append_iff] using hsplit
          exact ⟨d, hd, rfl, rfl, rfl, [], live, field, target, rfl, hmerge⟩
  | unread | created | unchanged | updated =>
      exact .of_isDelete (by simp [Desired.read, Call.isDelete])

theorem deletionsMakeWay_of_repeated {result : Except Failure (Change × Option String)}
    (hrepeated : Repeated (Attempt d) result calls) (hd : d ∈ ds) :
    DeletionsMakeWay ds calls := by
  induction hrepeated with
  | last hlast => exact hlast.deletionsMakeWay hd
  | again hfirst _ _ ih => exact (hfirst.deletionsMakeWay hd).append ih

theorem AppliedCalls.deletionsMakeWay {all : List Desired}
    (happlied : AppliedCalls ds outcomes failures calls) (hsub : ∀ d ∈ ds, d ∈ all) :
    DeletionsMakeWay all calls := by
  induction happlied with
  | nil => exact .of_isDelete (by simp)
  | applied hfirst _ ih | failed hfirst _ ih =>
      obtain ⟨hhead, htail⟩ := List.forall_mem_cons.mp hsub
      exact (deletionsMakeWay_of_repeated hfirst hhead).append (ih htail)

/-- A deletion makes way for a desired object or comes after all objects were applied
and all kinds were listed. -/
def DeletesInTime (settings : PassSettings) (agent : Agent) (calls : List Call) : Prop :=
  ∀ before kind space name answer after,
    calls = before ++ .delete kind space name answer :: after →
      MakesWay (settings.context agent).owned before kind space name ∨
        ∃ applied index listed, ListedCalls settings agent applied index listed ∧
          listed <+: before

theorem AppliedCalls.deletesInTime
    (happlied : AppliedCalls (settings.context agent).owned outcomes failures first)
    (hrest : ∀ call ∈ rest, call.isDelete = false) :
    DeletesInTime settings agent (first ++ rest) := by
  intro before kind space name answer after hsplit
  have happlying := happlied.deletionsMakeWay fun _ hd => hd
  exact .inl (happlying.append (.of_isDelete hrest) _ _ _ _ _ _ hsplit)

theorem ListedCalls.deletesInTime (hlisted : ListedCalls settings agent applied index first)
    (rest : List Call) : DeletesInTime settings agent (first ++ rest) := by
  intro before kind space name answer after hsplit
  rcases split_append hsplit with ⟨between, hin⟩ | ⟨between, rfl, -⟩
  · obtain ⟨-, happlied, hlisting⟩ := hlisted
    have hnone : ∀ call ∈ _, Call.isDelete call = false := fun call hmem => by
      obtain ⟨kind, answer, rfl⟩ := hlisting.shape call hmem
      rfl
    exact happlied.deletesInTime hnone _ _ _ _ _ _ hin
  · exact .inr ⟨applied, index, first, hlisted, List.prefix_append _ _⟩

theorem CollectedCalls.deletesInTime
    (hcollected : CollectedCalls settings agent applied pruned first) (rest : List Call) :
    DeletesInTime settings agent (first ++ rest) := by
  obtain ⟨hlisted, -⟩ := hcollected
  rw [List.append_assoc]
  exact hlisted.deletesInTime _

theorem ReadCalls.deletesInTime
    (hread : ReadCalls settings agent applied pruned status first) (rest : List Call) :
    DeletesInTime settings agent (first ++ rest) := by
  obtain ⟨hcollected, -⟩ := hread
  rw [List.append_assoc]
  exact hcollected.deletesInTime _

theorem PassCalls.deletesInTime {result : Except Failure PassReport}
    (hpass : PassCalls settings agent result calls) : DeletesInTime settings agent calls := by
  cases hpass with
  | invalid =>
      intro before kind space name answer after hsplit
      have hmem : Call.delete kind space name answer ∈ before ++ .delete kind space name answer
          :: after := by simp
      rw [← hsplit] at hmem
      simp at hmem
  | unapplied _ happlied => exact happlied.deletesInTime (by simp [Call.isDelete])
  | unlisted _ _ happlied hlisted =>
      rw [List.append_assoc]
      apply happlied.deletesInTime
      rw [List.forall_mem_append]
      refine ⟨fun call hmem => ?_, by simp [Call.isDelete]⟩
      obtain ⟨kind, answer, rfl⟩ := hlisted.shape call hmem
      rfl
  | undeleted _ hlisted =>
      rw [List.append_assoc]
      exact hlisted.deletesInTime _
  | unread _ hcollected => exact hcollected.deletesInTime _
  | unreported _ hread => exact hread.deletesInTime _
  | completed _ hread =>
      rw [List.append_assoc]
      exact hread.deletesInTime _

/-! ## Writes of the status -/

/-- Among the calls is no write of a status, or one that comes after everything else
was done; it did not succeed if the pass failed. -/
inductive PatchedInTime (settings : PassSettings) (agent : Agent)
    (result : Except Failure PassReport) : List Call → Prop
  | unpatched {calls : List Call} (hcalls : ∀ call ∈ calls, call.isPatch = false) :
    PatchedInTime settings agent result calls
  | patched {applied : ApplyReport} {pruned : Nat} {status : Status}
    {answer : Except Failure Unit} {before after : List Call}
    (hbefore : ReadCalls settings agent applied pruned status before)
    (hafter : ∀ call ∈ after, call.isPatch = false)
    (hanswer : ∀ failure, result = .error failure → answer ≠ .ok ()) :
    PatchedInTime settings agent result (before ++ .patchStatus agent status answer :: after)

theorem isPatch_of_isReport (hcalls : ∀ call ∈ calls, call.isReport = false) :
    ∀ call ∈ calls, call.isPatch = false := fun call hmem =>
  Call.isPatch_of_isReport (hcalls call hmem)

theorem AnnouncedCalls.isPatch {report : PassReport}
    (hannounced : AnnouncedCalls agent report calls) :
    ∀ call ∈ calls, call.isPatch = false := by
  cases hannounced <;> simp [Call.isPatch]

theorem PassCalls.patchedInTime {result : Except Failure PassReport}
    (hpass : PassCalls settings agent result calls) :
    PatchedInTime settings agent result calls := by
  have hwarned : ∀ {calls : List Call} {event : Event} {answer : Except Failure Unit},
      (∀ call ∈ calls, call.isReport = false) →
        PatchedInTime settings agent result (calls ++ [.publish agent event answer]) := by
    intro calls event answer hcalls
    refine .unpatched (List.forall_mem_append.mpr ⟨isPatch_of_isReport hcalls, ?_⟩)
    simp [Call.isPatch]
  cases hpass with
  | invalid => exact .unpatched (by simp [Call.isPatch])
  | unapplied _ happlied => exact hwarned happlied.isReport
  | unlisted _ _ happlied hlisted =>
      exact hwarned (List.forall_mem_append.mpr ⟨happlied.isReport, hlisted.isReport⟩)
  | undeleted _ hlisted hdeleted =>
      exact hwarned (List.forall_mem_append.mpr ⟨hlisted.isReport, hdeleted.isReport⟩)
  | unread _ hcollected hread =>
      exact .unpatched (isPatch_of_isReport
        (List.forall_mem_append.mpr ⟨hcollected.isReport, hread.isReport⟩))
  | @unreported applied pruned status failure read patching _ hread hpatched =>
      generalize hresult : Except.error failure = patched at hpatched
      cases hpatched with
      | unneeded => simp at hresult
      | @patched answer =>
          refine .patched hread (by simp) ?_
          rintro _ - rfl
          simp [Except.map] at hresult
  | @completed applied pruned status patched read patching announcing _ hread hpatched
      hannounced =>
      generalize hresult : Except.ok patched = outcome at hpatched
      cases hpatched with
      | unneeded =>
          refine .unpatched (List.forall_mem_append.mpr ⟨?_, hannounced.isPatch⟩)
          rw [List.append_nil]
          exact isPatch_of_isReport hread.isReport
      | patched =>
          rw [List.append_assoc]
          exact .patched hread hannounced.isPatch (by simp)

namespace PatchedInTime

variable {result : Except Failure PassReport}

theorem countP_le (hpatched : PatchedInTime settings agent result calls) :
    calls.countP Call.isPatch ≤ 1 := by
  cases hpatched with
  | unpatched hcalls =>
      rw [List.countP_eq_zero.mpr (by simpa using hcalls)]
      exact Nat.zero_le 1
  | patched hbefore hafter _ =>
      have hnone := isPatch_of_isReport hbefore.isReport
      rw [List.countP_append, List.countP_cons, List.countP_eq_zero.mpr (by simpa using hnone),
        List.countP_eq_zero.mpr (by simpa using hafter)]
      simp [Call.isPatch]

/-- A write of a status is of the agent, and everything else was done before it. -/
theorem readCalls (hpatched : PatchedInTime settings agent result calls) {other : Agent}
    {answer : Except Failure Unit}
    (hsplit : calls = before ++ .patchStatus other status answer :: after) :
    other = agent ∧ (∀ failure, result = .error failure → answer ≠ .ok ()) ∧
      ∃ applied pruned, ReadCalls settings agent applied pruned status before := by
  cases hpatched with
  | unpatched hcalls =>
      have hpatch := hcalls (.patchStatus other status answer) (by simp [hsplit])
      simp [Call.isPatch] at hpatch
  | @patched applied pruned status' answer' before' after' hbefore hafter hanswer =>
      have hnone := isPatch_of_isReport hbefore.isReport
      rcases split_append hsplit with ⟨between, rfl⟩ | ⟨between, rfl, hin⟩
      · have hpatch := hnone (.patchStatus other status answer) (by simp)
        simp [Call.isPatch] at hpatch
      · cases between with
        | nil =>
            obtain ⟨hcall, -⟩ := List.cons.inj hin
            obtain ⟨rfl, rfl, rfl⟩ := Call.patchStatus.inj hcall
            rw [List.append_nil]
            exact ⟨rfl, hanswer, applied, pruned, hbefore⟩
        | cons _ between =>
            obtain ⟨-, hin⟩ := List.cons.inj hin
            have hpatch := hafter (.patchStatus other status answer) (by simp [hin])
            simp [Call.isPatch] at hpatch

end PatchedInTime

/-! ## Passes -/

/-- A pass over any cluster fails closed.  With an invalid spec its only call is one
event.  It deletes what is no longer wanted only after every desired object was applied
and every kind was listed.  It writes a status at most once, only after every orphan was
deleted too and the workload was read, and not if it fails. -/
theorem reconcile_fails_closed (cluster : Cluster σ) (settings : PassSettings)
    (agent : Agent) (s : σ) :
    ∃ calls,
      Action.run (reconcile cluster.recorded settings agent) (s, []) =
        ((Action.run (reconcile cluster settings agent) s).1,
          (Action.run (reconcile cluster settings agent) s).2, calls) ∧
      (agent.spec.isValid = false → ∃ event answer, calls = [.publish agent event answer]) ∧
      (∀ before kind space name answer after,
        calls = before ++ .delete kind space name answer :: after →
          MakesWay (settings.context agent).owned before kind space name ∨
            ∃ applied index listed, ListedCalls settings agent applied index listed ∧
              listed <+: before) ∧
      calls.countP Call.isPatch ≤ 1 ∧
      (∀ before other status answer after,
        calls = before ++ .patchStatus other status answer :: after →
          other = agent ∧
            ∃ applied pruned, ReadCalls settings agent applied pruned status before) ∧
      ∀ failure, (Action.run (reconcile cluster settings agent) s).1 = .error failure →
        ∀ other status, .patchStatus other status (.ok ()) ∉ calls := by
  obtain ⟨calls, hrun, hpass⟩ := reconcile_logs cluster settings agent s []
  have hpatched := hpass.patchedInTime
  refine ⟨calls, by simpa using hrun, ?_, hpass.deletesInTime, hpatched.countP_le, ?_, ?_⟩
  · intro hinvalid
    generalize (Action.run (reconcile cluster settings agent) s).1 = result at hpass
    cases hpass with
    | invalid => exact ⟨_, _, rfl⟩
    | _ => simp_all
  · intro before other status answer after hsplit
    obtain ⟨hagent, -, hread⟩ := hpatched.readCalls hsplit
    exact ⟨hagent, hread⟩
  · intro failure herror other status hmem
    obtain ⟨before, after, hsplit⟩ := List.append_of_mem hmem
    obtain ⟨-, hanswer, -⟩ := hpatched.readCalls hsplit
    exact hanswer failure herror rfl

end AgentOperator
