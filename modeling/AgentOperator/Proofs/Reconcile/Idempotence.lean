import AgentOperator.Proofs.Reconcile.Aftermath

/-!
# Repeated passes

A pass over a store in which every desired object stands settled and nothing else
belongs to the agent does nothing, if the agent has the status that is read off
the store.  A pass that deletes no object for being immutable leaves such a store
behind, so the pass after it is the last one that matters.  Only a service account that
was found with a body that is no object never settles.
-/

namespace AgentOperator

variable {settings : PassSettings} {agent : Agent} {s t s₁ s₂ : Store} {d : Desired}
  {report : PassReport} {applied : ApplyReport} {pruned : Nat}

/-- The status that an agent has after a pass: the one that the pass wrote last,
if it wrote one. -/
def Agent.statusAfter (agent : Agent) (report : PassReport) (s : Store) : Option Status :=
  if report.statusPatched then s.statuses.getLast? else agent.status

/-- The report of a pass that found all objects as they should be. -/
def PassReport.quiet (objects : Nat) : PassReport :=
  { created := 0
    updated := 0
    unchanged := objects
    recreated := 0
    pruned := 0
    statusPatched := false }

/-! ## What is counted -/

theorem count_eq_of_changes {outcomes : List Outcome} {changes : List Change}
    (hchanges : outcomes.map Outcome.change = changes) (failures : List Failure)
    (change : Change) :
    ({ outcomes, failures } : ApplyReport).count change = changes.count change := by
  rw [← hchanges, List.count, List.countP_map]
  rfl

theorem ne_of_count_eq_zero {change : Change} (hcount : applied.count change = 0)
    {outcome : Outcome} (hmem : outcome ∈ applied.outcomes) : outcome.change ≠ change := by
  have hnone := List.countP_eq_zero.mp hcount outcome hmem
  simpa using hnone

/-! ## Passes that delete nothing -/

namespace Passed

/-- Where no object was deleted for being immutable, all are settled. -/
theorem settled (hpassed : Passed settings agent s report t applied s₁ pruned s₂)
    (hs : s.Sound) (homits : s.omitsEmpty = false)
    (hbodies : ∀ d ∈ (settings.context agent).owned, Overwritable d s)
    (hrecreated : report.recreated = 0) :
    ∀ d ∈ (settings.context agent).owned, ∃ live, t.get? d.place = some live ∧
      Settled d live := by
  intro d hd
  obtain ⟨outcome, hzip⟩ := exists_mem_zip_left (hpassed.appliedAll hs).length_eq hd
  have hcount : applied.count .immutableConflict = 0 := by
    rw [hpassed.report_eq] at hrecreated
    exact hrecreated
  have hchange : outcome.change ≠ .immutableConflict :=
    ne_of_count_eq_zero hcount (List.of_mem_zip hzip).2
  have hreached : Reached d outcome t := hpassed.reached hs _ hzip
  unfold Reached at hreached
  cases hcase : outcome.change with
  | immutableConflict => exact absurd hcase hchange
  | failed => simp [hcase] at hreached
  | created | updated | unchanged =>
      simp only [hcase] at hreached
      obtain ⟨live, hlive, -⟩ := hreached
      exact ⟨live, hlive, hpassed.settled_of_get? hs homits hd (hbodies d hd) hlive⟩

/-- A service account whose body is no object is updated by every pass, and the next pass
finds it as it was. -/
theorem updates_bodiless (hpassed : Passed settings agent s report t applied s₁ pruned s₂)
    (hs : s.Sound) (hd : d ∈ (settings.context agent).owned)
    (hkind : d.kind = .serviceAccount) {live : Object} (hlive : s.get? d.place = some live)
    (hbody : ¬ live.body.IsObject) :
    0 < report.updated ∧ ∃ after, t.get? d.place = some after ∧ ¬ after.body.IsObject := by
  have hall := hpassed.appliedAll hs
  have hbuilt := settings.isBuilt_owned agent
  obtain ⟨outcome, hzip⟩ := exists_mem_zip_left hall.length_eq hd
  obtain ⟨change, uid, u, v, hpair, happlied, hu, hbefore, -, hafter⟩ :=
    hall.exists_applied hs hbuilt (settings.placesDistinct_owned agent) _ hzip
  obtain ⟨rfl, after, hget, hkept⟩ :=
    happlied.of_bodiless hu (hbuilt d hd) hkind (hbefore.trans hlive) hbody
  refine ⟨?_, after, ?_, hkept⟩
  · rw [hpassed.report_eq]
    refine List.countP_pos_iff.mpr ⟨outcome, (List.of_mem_zip hzip).2, ?_⟩
    rw [congrArg Outcome.change hpair]
    rfl
  · rw [hpassed.get?_place hs hd]
    exact hafter.trans hget

/-- The status that is read off the store after a pass is the one that the pass
computed. -/
theorem statusOn_eq (hpassed : Passed settings agent s report t applied s₁ pruned s₂) :
    statusOn (settings.context agent) t = statusOn (settings.context agent) s₂ :=
  statusOn_congr _ hpassed.get?_eq

theorem statusAfter_eq (hpassed : Passed settings agent s report t applied s₁ pruned s₂) :
    agent.statusAfter report t = some (statusOn (settings.context agent) t) := by
  rw [hpassed.statusOn_eq]
  unfold Agent.statusAfter
  rw [hpassed.store_eq, hpassed.report_eq]
  generalize statusOn (settings.context agent) s₂ = status
  by_cases hsame : agent.status = some status
  · simp [PassReport.ofApply, hsame]
  · have hstatuses : ∀ report : PassReport,
        (withReport report (withStatus agent status s₂)).statuses =
          s₂.statuses ++ [status] := by
      intro report
      unfold withReport withStatus
      rw [if_neg hsame]
      split <;> rfl
    simp [PassReport.ofApply, hsame, hstatuses]

end Passed

/-! ## Passes over settled objects -/

theorem changes_eq_replicate {ds : List Desired}
    (hpresent : ∀ d ∈ ds, (s.get? d.place).isSome) :
    ds.map (readyChange s) = List.replicate ds.length .unchanged := by
  rw [List.eq_replicate_iff]
  refine ⟨List.length_map _, ?_⟩
  intro change hmem
  obtain ⟨d, hd, rfl⟩ := List.mem_map.mp hmem
  unfold readyChange
  rw [if_pos (hpresent d hd)]

/-- A pass over settled objects that finds the status of the agent as it should be
does nothing. -/
theorem run_reconcile_of_settled (hs : s.Sound) (hvalid : agent.spec.isValid = true)
    (hlistable : Listable s) (hclean : Clean agent (settings.context agent).owned s)
    (hsettled : ∀ d ∈ (settings.context agent).owned, ∃ live, s.get? d.place = some live ∧
      Settled d live)
    (hstatus : agent.status = some (statusOn (settings.context agent) s)) :
    Action.run (reconcile Store.cluster settings agent) s =
      (.ok (.quiet (settings.context agent).desired.length), s) := by
  have hpresent : ∀ d ∈ (settings.context agent).owned, (s.get? d.place).isSome := by
    intro d hd
    obtain ⟨live, hlive, -⟩ := hsettled d hd
    rw [hlive]
    rfl
  have hready : ∀ d ∈ (settings.context agent).owned, Ready d s :=
    fun d hd => .inr (hsettled d hd)
  obtain ⟨report, t, ⟨outcomes, failures⟩, s₁, hpassed, hchanges, hstays⟩ :=
    run_reconcile_of_ready hs hvalid hlistable hclean hready
  obtain rfl := hstays hpresent
  have hlength : (settings.context agent).owned.length =
      (settings.context agent).desired.length := List.length_map _
  rw [changes_eq_replicate hpresent, hlength] at hchanges
  have hreport : report = .quiet (settings.context agent).desired.length := by
    rw [hpassed.report_eq]
    unfold PassReport.ofApply PassReport.quiet
    simp [count_eq_of_changes hchanges, hstatus, List.count_replicate]
  have hstore : t = s₁ := by
    rw [hpassed.store_eq, hreport]
    unfold withStatus withReport
    rw [if_pos hstatus]
    rfl
  rw [run_reconcile_iff.mpr ⟨_, _, _, _, hpassed⟩, hreport, hstore]

/-- After a pass that left all objects settled, a pass of the agent with its new
status does nothing. -/
theorem Passed.run_again (hpassed : Passed settings agent s report t applied s₁ pruned s₂)
    (hs : s.Sound)
    (hsettled : ∀ d ∈ (settings.context agent).owned, ∃ live, t.get? d.place = some live ∧
      Settled d live) :
    Action.run (reconcile Store.cluster settings
        { agent with status := some (statusOn (settings.context agent) t) }) t =
      (.ok (.quiet (settings.context agent).desired.length), t) := by
  have hclean := (hpassed.clean hs).withStatus
    (some (statusOn (settings.context agent) t))
  exact run_reconcile_of_settled (hpassed.sound hs) hpassed.valid (hpassed.listable hs)
    hclean hsettled rfl

/-- What stands in the place of a service account that is desired has an object for its
body. -/
def AccountsHaveBodies (c : Context) (s : Store) : Prop :=
  ∀ d ∈ c.desired, d.kind = .serviceAccount → ∀ live, s.get? d.place = some live →
    live.body.IsObject

theorem AccountsHaveBodies.overwritable
    (haccounts : AccountsHaveBodies (settings.context agent) s) :
    ∀ d ∈ (settings.context agent).owned, Overwritable d s := by
  intro d hd
  refine (settings.isBuilt_owned agent d hd).overwritable fun hkind live hlive => ?_
  obtain ⟨w, hw, rfl⟩ := List.mem_map.mp hd
  rw [Desired.ownedBy_kind] at hkind
  rw [Desired.ownedBy_place] at hlive
  exact haccounts w hw hkind live hlive

theorem accountsHaveBodies_of_kinds (c : Context)
    (hkinds : ∀ entry ∈ s.objects, entry.1.kind ≠ .serviceAccount) :
    AccountsHaveBodies c s :=
  fun _ _ hkind _ hlive => absurd hkind (hkinds _ (Store.mem_of_get? hlive))

/-- A pass that deleted nothing for being immutable reaches a fixed point: with the
status that it computed, the next pass finds every object unchanged and leaves the
store exactly as it is.  A service account whose body is no object is the exception,
because no field is written over it. -/
theorem reconcile_idempotent (hs : s.Reachable) (homits : s.omitsEmpty = false)
    (haccounts : AccountsHaveBodies (settings.context agent) s)
    (hrun : Action.run (reconcile Store.cluster settings agent) s = (.ok report, t))
    (hrecreated : report.recreated = 0) :
    ∃ status,
      Action.run (computeStatus Store.cluster (settings.context agent)) t =
        (.ok status, t) ∧
      agent.statusAfter report t = some status ∧
      Action.run (reconcile Store.cluster settings
          { agent with status := some status }) t =
        (.ok {
          created := 0
          updated := 0
          unchanged := (settings.context agent).desired.length
          recreated := 0
          pruned := 0
          statusPatched := false }, t) := by
  obtain ⟨applied, s₁, pruned, s₂, hpassed⟩ := run_reconcile_iff.mp hrun
  have hsettled := hpassed.settled hs.sound homits haccounts.overwritable hrecreated
  refine ⟨statusOn (settings.context agent) t, run_computeStatus _ t,
    hpassed.statusAfter_eq, ?_⟩
  exact hpassed.run_again hs.sound hsettled

/-! ## A pass over an edited object -/

/-- An agent that runs beside others and has no workload of its own. -/
def Agent.sidecar : Agent :=
  { metadata := { name := some "a", namespaceName := some "ns", uid := some "u" }
    spec := { mode := .sidecar }
    status := none }

/-- A config map in the place of that of the sidecar, with an entry of its own. -/
def ConfigMap.stray : Object :=
  { types := none
    metadata := { name := some "a", namespaceName := some "ns" }
    body := .mkObj [("data", .mkObj [("note", .str "by hand")])] }

theorem ConfigMap.isProper_stray : ConfigMap.stray.IsProper :=
  ⟨rfl, by simp [ConfigMap.stray]⟩

/-- A store that holds the stray config map and will refuse a write of it. -/
def Store.edited : Store := (Store.seed {} .configMap ConfigMap.stray).2.conflictOn "a" 1

theorem Store.reachable_edited : Store.edited.Reachable :=
  (ReachableBy.empty.seed .configMap ConfigMap.isProper_stray).conflictOn "a" 1

set_option maxRecDepth 100000 in
theorem reconcile_idempotent_edited :
    ∃ report t status,
      Action.run (reconcile Store.cluster {} Agent.sidecar) Store.edited =
        (.ok report, t) ∧
      report.updated = 1 ∧ report.recreated = 0 ∧
      Action.run (reconcile Store.cluster {} { Agent.sidecar with status := some status })
        t = (.ok {
          created := 0
          updated := 0
          unchanged := (PassSettings.context {} Agent.sidecar).desired.length
          recreated := 0
          pruned := 0
          statusPatched := false }, t) := by
  obtain ⟨report, hrun, hcounts⟩ := Action.exists_ok_of_map_eq
    (f := fun r : PassReport => (r.updated, r.recreated)) (b := (1, 0))
    (show (Action.run (reconcile Store.cluster {} Agent.sidecar)
      Store.edited).1.toOption.map (fun r => (r.updated, r.recreated)) = some (1, 0) by
        decide +kernel)
  obtain ⟨hupdated, hrecreated⟩ := Prod.mk.inj hcounts
  have haccounts : AccountsHaveBodies (PassSettings.context {} Agent.sidecar) Store.edited :=
    accountsHaveBodies_of_kinds _ (by decide)
  obtain ⟨status, -, -, hagain⟩ :=
    reconcile_idempotent Store.reachable_edited rfl haccounts hrun hrecreated
  exact ⟨report, _, status, hrun, hupdated, hrecreated, hagain⟩

/-! ## A service account without a body -/

/-- A service account in the place of that of the sidecar that has no body. -/
def ServiceAccount.bodiless : Object :=
  { types := none
    metadata := { name := some "a", namespaceName := some "ns" }
    body := .null }

/-- A store that holds the service account without a body and nothing else. -/
def Store.bodiless : Store := (Store.seed {} .serviceAccount ServiceAccount.bodiless).2

theorem Store.reachable_bodiless : Store.bodiless.Reachable :=
  ReachableBy.empty.seed .serviceAccount ⟨rfl, .null⟩

theorem Store.get?_bodiless {d : Desired} (hplace : d.place = ⟨.serviceAccount, "ns", "a"⟩) :
    ∃ live, Store.bodiless.get? d.place = some live ∧ ¬ live.body.IsObject := by
  rw [hplace]
  refine ⟨_, Store.get?_of_putEntry rfl, ?_⟩
  simp [ServiceAccount.bodiless, Json.IsObject, Json.asObject]

/-- The sidecar desires a service account of its own. -/
theorem Agent.sidecar_account : ∃ d ∈ (PassSettings.context {} Agent.sidecar).owned,
    d.kind = .serviceAccount ∧ d.place = ⟨.serviceAccount, "ns", "a"⟩ := by
  have hplaces : (⟨.serviceAccount, "ns", "a"⟩ : StoreKey) ∈
      (PassSettings.context {} Agent.sidecar).owned.map Desired.place := by
    decide +kernel
  obtain ⟨d, hd, hplace⟩ := List.mem_map.mp hplaces
  exact ⟨d, hd, congrArg StoreKey.kind hplace, hplace⟩

set_option maxRecDepth 100000 in
/-- A pass over the service account without a body deletes nothing, and the pass after it
writes the service account again. -/
theorem bodiless_account_is_written_again :
    Store.bodiless.Reachable ∧ Store.bodiless.omitsEmpty = false ∧
    ∃ report t,
      Action.run (reconcile Store.cluster {} Agent.sidecar) Store.bodiless = (.ok report, t) ∧
      report.recreated = 0 ∧
      ∀ report' t',
        Action.run (reconcile Store.cluster {}
          { Agent.sidecar with status := Agent.sidecar.statusAfter report t }) t =
            (.ok report', t') →
        report'.updated ≠ 0 := by
  refine ⟨Store.reachable_bodiless, rfl, ?_⟩
  obtain ⟨report, hrun, hrecreated⟩ := Action.exists_ok_of_map_eq
    (f := PassReport.recreated) (b := 0)
    (show (Action.run (reconcile Store.cluster {} Agent.sidecar)
      Store.bodiless).1.toOption.map PassReport.recreated = some 0 by decide +kernel)
  refine ⟨report, _, hrun, hrecreated, fun report' t' hagain => ?_⟩
  obtain ⟨applied, s₁, pruned, s₂, hpassed⟩ := run_reconcile_iff.mp hrun
  obtain ⟨applied', s₁', pruned', s₂', hnext⟩ := run_reconcile_iff.mp hagain
  obtain ⟨d, hd, hkind, hplace⟩ := Agent.sidecar_account
  obtain ⟨live, hlive, hbody⟩ := Store.get?_bodiless hplace
  have hs := Store.reachable_bodiless.sound
  obtain ⟨-, after, hafter, hkept⟩ := hpassed.updates_bodiless hs hd hkind hlive hbody
  have hupdated := (hnext.updates_bodiless (hpassed.sound hs) hd hkind hafter hkept).1
  omega

end AgentOperator
