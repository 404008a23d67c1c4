import AgentOperator.Proofs.Reconcile.Idempotence

/-!
# Convergence in two passes

A pass deletes an object whose immutable fields disagree, for the next pass to make
it again.  In a store without faults the next pass finds every place free or
settled, so it makes what was deleted and does nothing else, and the pass after it
finds nothing left to do; but for a service account whose body is no object.
-/

namespace AgentOperator

variable {settings : PassSettings} {agent : Agent} {s t s₁ s₂ : Store} {d : Desired}
  {report : PassReport} {applied : ApplyReport} {pruned : Nat} {object : Object}
  {status : Option Status}

/-! ## From one pass to the next -/

/-- What becomes of an object in the pass after the one that did this to it. -/
def Change.next : Change → Change
  | .immutableConflict => .created
  | _ => .unchanged

namespace Passed

theorem omitsEmpty_eq_false
    (hpassed : Passed settings agent s report t applied s₁ pruned s₂) (hs : s.Sound)
    (homits : s.omitsEmpty = false) : t.omitsEmpty = false :=
  (hpassed.omitsEmpty hs).trans homits

/-- After a pass in a store without faults each place is free or settled. -/
theorem ready (hpassed : Passed settings agent s report t applied s₁ pruned s₂)
    (hs : s.Sound) (homits : s.omitsEmpty = false)
    (hbodies : ∀ d ∈ (settings.context agent).owned, Overwritable d s)
    (hfaultless : s.Faultless) :
    ∀ d ∈ (settings.context agent).owned, Ready d t := by
  intro d hd
  cases hget : t.get? d.place with
  | none => exact .inl ⟨hget, hpassed.faultless hs hfaultless⟩
  | some live =>
      exact .inr ⟨live, hget, hpassed.settled_of_get? hs homits hd (hbodies d hd) hget⟩

/-- A pass over bodies that become objects leaves bodies that are objects. -/
theorem overwritable (hpassed : Passed settings agent s report t applied s₁ pruned s₂)
    (hs : s.Sound) (homits : s.omitsEmpty = false)
    (hbodies : ∀ d ∈ (settings.context agent).owned, Overwritable d s) :
    ∀ d ∈ (settings.context agent).owned, Overwritable d t := by
  intro d hd live hlive
  have hsettled := hpassed.settled_of_get? hs homits hd (hbodies d hd) hlive
  exact .inl (hsettled.isObject ((hpassed.sound hs).proper hlive)
    (settings.isBuilt_owned agent d hd).object)

/-- What the next pass will do is known from what the pass did. -/
theorem map_readyChange (hpassed : Passed settings agent s report t applied s₁ pruned s₂)
    (hs : s.Sound) :
    (settings.context agent).owned.map (readyChange t) =
      applied.outcomes.map fun outcome => outcome.change.next := by
  apply map_eq_map_of_zip (hpassed.appliedAll hs).length_eq
  intro pair hmem
  have hreached := hpassed.reached hs pair hmem
  have habsent := hreached.get?_eq_none_iff
  unfold readyChange
  by_cases hconflict : pair.2.change = .immutableConflict
  · rw [habsent.mpr hconflict, hconflict]
    rfl
  · have hpresent : (t.get? pair.1.place).isSome = true :=
      Option.isSome_iff_ne_none.mpr fun hnone => hconflict (habsent.mp hnone)
    rw [if_pos hpresent]
    cases hchange : pair.2.change with
    | immutableConflict => exact absurd hchange hconflict
    | created | updated | unchanged | failed => rfl

end Passed

/-! ## Counts of the next pass -/

theorem count_next_created (outcomes : List Outcome) (failures : List Failure) :
    (outcomes.map fun outcome => outcome.change.next).count .created =
      ({ outcomes, failures } : ApplyReport).count .immutableConflict := by
  unfold List.count ApplyReport.count
  rw [List.countP_map]
  apply List.countP_congr
  intro outcome _
  simp only [Function.comp_apply]
  cases outcome.change <;> decide

theorem count_next_unchanged (outcomes : List Outcome) (failures : List Failure) :
    (outcomes.map fun outcome => outcome.change.next).count .unchanged =
      outcomes.length -
        ({ outcomes, failures } : ApplyReport).count .immutableConflict := by
  have hsum := List.length_eq_countP_add_countP (l := outcomes)
    (fun outcome => outcome.change == .immutableConflict)
  have hrest : (outcomes.map fun outcome => outcome.change.next).count .unchanged =
      outcomes.countP fun outcome => ¬ (outcome.change == .immutableConflict) := by
    unfold List.count
    rw [List.countP_map]
    apply List.countP_congr
    intro outcome _
    simp only [Function.comp_apply]
    cases outcome.change <;> decide
  unfold ApplyReport.count
  dsimp only
  rw [hrest]
  omega

theorem count_next_eq_zero (outcomes : List Outcome) (change : Change)
    (hcreated : change ≠ .created) (hunchanged : change ≠ .unchanged) :
    (outcomes.map fun outcome => outcome.change.next).count change = 0 := by
  rw [List.count_eq_zero]
  intro hmem
  obtain ⟨outcome, -, hnext⟩ := List.mem_map.mp hmem
  cases hchange : outcome.change <;> rw [hchange] at hnext <;>
    first | exact hcreated hnext.symm | exact hunchanged hnext.symm

/-! ## Three passes -/

/-- The pass after a pass, in a store without faults. -/
theorem Passed.exists_next
    (hpassed : Passed settings agent s report t applied s₁ pruned s₂) (hs : s.Sound)
    (homits : s.omitsEmpty = false)
    (hbodies : ∀ d ∈ (settings.context agent).owned, Overwritable d s)
    (hfaultless : s.Faultless) (status : Option Status) :
    ∃ report' t' applied' s',
      Passed settings { agent with status := status } t report' t' applied' s' 0 s' ∧
      applied'.outcomes.map Outcome.change =
        applied.outcomes.map fun outcome => outcome.change.next := by
  let next : Agent := { agent with status := status }
  have hvalid : next.spec.isValid = true := hpassed.valid
  have hclean : Clean next (settings.context next).owned t :=
    (hpassed.clean hs).withStatus status
  obtain ⟨report', t', applied', s', hnext, hchanges, -⟩ := run_reconcile_of_ready
    (hpassed.sound hs) hvalid (hpassed.listable hs) hclean
    (hpassed.ready hs homits hbodies hfaultless)
  refine ⟨report', t', applied', s', hnext, ?_⟩
  exact hchanges.trans (hpassed.map_readyChange hs)

/-- The pass after a pass makes what was deleted and leaves all other objects alone. -/
theorem Passed.report_next
    (hpassed : Passed settings agent s report t applied s₁ pruned s₂) (hs : s.Sound)
    {report' : PassReport} {t' s' : Store} {applied' : ApplyReport}
    (hnext : Passed settings { agent with status := status } t report' t' applied' s' 0 s')
    (hchanges : applied'.outcomes.map Outcome.change =
      applied.outcomes.map fun outcome => outcome.change.next) :
    report' = {
      created := report.recreated
      updated := 0
      unchanged := (settings.context agent).desired.length - report.recreated
      recreated := 0
      pruned := 0
      statusPatched := report'.statusPatched } := by
  obtain ⟨outcomes, failures⟩ := applied
  obtain ⟨outcomes', failures'⟩ := applied'
  have hlength : outcomes.length = (settings.context agent).desired.length := by
    have howned := (hpassed.appliedAll hs).length_eq
    rwa [Context.owned, List.length_map] at howned
  have hcounts := count_eq_of_changes hchanges failures'
  rw [hnext.report_eq, hpassed.report_eq]
  unfold PassReport.ofApply
  simp only [hcounts, count_next_created outcomes failures,
    count_next_unchanged outcomes failures, hlength,
    count_next_eq_zero outcomes .updated (by decide) (by decide),
    count_next_eq_zero outcomes .immutableConflict (by decide) (by decide)]

/-- Where all objects are settled each immutable field that is desired has the desired
value. -/
theorem PassSettings.at?_immutable
    (hsettled : ∀ d ∈ (settings.context agent).owned, ∃ live, t.get? d.place = some live ∧
      Settled d live)
    (hd : d ∈ (settings.context agent).desired) {live : Object}
    (hlive : t.get? d.place = some live) {path : Json.Path}
    (hpath : path ∈ d.kind.immutableFields) {wanted : Json}
    (hwanted : Json.content? (d.object.body.at? path) = some wanted) :
    live.body.at? path = some wanted := by
  let owner := agent.ownerReference
  have howned : d.ownedBy owner ∈ (settings.context agent).owned :=
    List.mem_map_of_mem hd
  have hbuilt := settings.isBuilt_owned agent _ howned
  have hfield : (d.ownedBy owner).object.body.at? path = some wanted := by
    rw [Desired.ownedBy_body]
    exact (Json.content?_eq_some_iff.mp hwanted).1
  have hmem : path ∈ (d.ownedBy owner).kind.immutableFields := by
    rwa [Desired.ownedBy_kind]
  obtain ⟨live', hlive', hsettled⟩ := hsettled _ howned
  rw [Desired.ownedBy_place] at hlive'
  obtain rfl := Option.some.inj (hlive.symm.trans hlive')
  exact hsettled.at?_eq hbuilt.object hmem hfield (hbuilt.textual hmem hfield)

/-- In a store without faults a pass, whatever it deleted, is followed by one that
makes just that again, and then nothing is left to do: each immutable field has its
desired value, and a third pass with the status that was reported writes nothing.  The
exception is again a service account whose body is no object. -/
theorem reconcile_converges (hs : s.Reachable) (homits : s.omitsEmpty = false)
    (hfaultless : s.Faultless)
    (haccounts : AccountsHaveBodies (settings.context agent) s)
    (hrun : Action.run (reconcile Store.cluster settings agent) s = (.ok report, t))
    (status : Option Status) :
    ∃ applied s₁,
      Action.run (applyAll Store.cluster agent.ownerReference settings.maxAttempts
        (settings.context agent).desired) s = (.ok applied, s₁) ∧
      (∀ pair ∈ (settings.context agent).desired.zip applied.outcomes,
        pair.2.change = .immutableConflict → t.get? pair.1.place = none) ∧
      ∃ report' t' applied' s₁',
        Action.run (reconcile Store.cluster settings { agent with status := status }) t =
          (.ok report', t') ∧
        Action.run (applyAll Store.cluster agent.ownerReference settings.maxAttempts
          (settings.context agent).desired) t = (.ok applied', s₁') ∧
        applied'.outcomes.map Outcome.change =
          applied.outcomes.map (fun outcome =>
            if outcome.change = .immutableConflict then .created else .unchanged) ∧
        report' = {
          created := report.recreated
          updated := 0
          unchanged := (settings.context agent).desired.length - report.recreated
          recreated := 0
          pruned := 0
          statusPatched := report'.statusPatched } ∧
        (∀ d ∈ (settings.context agent).desired, ∃ live, t'.get? d.place = some live ∧
          ∀ path ∈ d.kind.immutableFields, ∀ wanted,
            Json.content? (d.object.body.at? path) = some wanted →
              live.body.at? path = some wanted) ∧
        ∃ status',
          Agent.statusAfter { agent with status := status } report' t' = some status' ∧
          Action.run (reconcile Store.cluster settings
            { agent with status := some status' }) t' =
              (.ok (.quiet (settings.context agent).desired.length), t') := by
  obtain ⟨applied, s₁, pruned, s₂, hpassed⟩ := run_reconcile_iff.mp hrun
  have hs := hs.sound
  have hbodies := haccounts.overwritable
  obtain ⟨report', t', applied', s₁', hnext, hchanges⟩ :=
    hpassed.exists_next hs homits hbodies hfaultless status
  have hreport := hpassed.report_next hs hnext hchanges
  have ht := hpassed.sound hs
  have hsettled := hnext.settled ht (hpassed.omitsEmpty_eq_false hs homits)
    (hpassed.overwritable hs homits hbodies) (by rw [hreport])
  refine ⟨applied, s₁, hpassed.apply, ?_, report', t', applied', s₁',
    run_reconcile_iff.mpr ⟨_, _, _, _, hnext⟩, hnext.apply, ?_, hreport, ?_, ?_⟩
  · intro pair hmem
    exact (hpassed.get?_desired hs pair hmem).1.mpr
  · rw [hchanges]
    apply List.map_congr_left
    intro outcome _
    cases outcome.change <;> rfl
  · intro d hd
    obtain ⟨live, hlive, -⟩ := hsettled _ (List.mem_map_of_mem hd)
    rw [Desired.ownedBy_place] at hlive
    refine ⟨live, hlive, ?_⟩
    intro path hpath wanted hwanted
    exact PassSettings.at?_immutable hsettled hd hlive hpath hwanted
  · exact ⟨_, hnext.statusAfter_eq, hnext.run_again ht hsettled⟩

/-! ## A service with another address -/

/-- The sidecar with a port, for which it has a service without an address. -/
def Agent.listening : Agent :=
  { Agent.sidecar with
    spec.ports := [{ name := "p", port := 80, protocol := .tcp, targetPort := none }] }

/-- A service in the place of the one without an address that has one. -/
def Service.addressed : Object :=
  { types := none
    metadata := { name := some "a-headless", namespaceName := some "ns" }
    body := .mkObj [("spec", .mkObj [("clusterIP", .str "10.0.0.1")])] }

theorem Service.isProper_addressed : Service.addressed.IsProper :=
  ⟨rfl, by simp [Service.addressed]⟩

set_option maxRecDepth 100000 in
theorem reconcile_converges_addressed :
    ∃ report t report' t',
      Action.run (reconcile Store.cluster {} Agent.listening)
        (Store.seed {} .service Service.addressed).2 = (.ok report, t) ∧
      report.recreated = 1 ∧
      Action.run (reconcile Store.cluster {} Agent.listening) t = (.ok report', t') ∧
      report'.created = 1 ∧ report'.updated = 0 := by
  obtain ⟨report, hrun, hrecreated⟩ := Action.exists_ok_of_map_eq
    (f := PassReport.recreated) (b := 1)
    (show (Action.run (reconcile Store.cluster {} Agent.listening)
      (Store.seed {} .service Service.addressed).2).1.toOption.map
        PassReport.recreated = some 1 by decide +kernel)
  have hreachable : (Store.seed {} .service Service.addressed).2.Reachable :=
    Store.ReachableBy.empty.seed .service Service.isProper_addressed
  have hfaultless : (Store.seed {} .service Service.addressed).2.Faultless :=
    ⟨rfl, fun _ _ => nofun, rfl⟩
  have haccounts : AccountsHaveBodies (PassSettings.context {} Agent.listening)
      (Store.seed {} .service Service.addressed).2 :=
    accountsHaveBodies_of_kinds _ (by decide)
  obtain ⟨_, _, _, -, report', t', _, _, hnext, -, -, hreport, -⟩ :=
    reconcile_converges hreachable rfl hfaultless haccounts hrun none
  refine ⟨report, _, report', t', hrun, hrecreated, hnext, ?_, ?_⟩
  · rw [hreport]
    exact hrecreated
  · rw [hreport]

/-- Also in a store without faults each pass writes the service account without a body
again, the third one too. -/
theorem bodiless_account_never_converges :
    Store.bodiless.Reachable ∧ Store.bodiless.omitsEmpty = false ∧ Store.bodiless.Faultless ∧
    ∃ report t,
      Action.run (reconcile Store.cluster {} Agent.sidecar) Store.bodiless = (.ok report, t) ∧
      ∀ report' t',
        Action.run (reconcile Store.cluster {} Agent.sidecar) t = (.ok report', t') →
        report'.updated ≠ 0 ∧
        ∀ report'' t'',
          Action.run (reconcile Store.cluster {}
            { Agent.sidecar with status := Agent.sidecar.statusAfter report' t' }) t' =
              (.ok report'', t'') →
          report''.updated ≠ 0 := by
  refine ⟨Store.reachable_bodiless, rfl, ⟨rfl, fun _ _ => nofun, rfl⟩, ?_⟩
  obtain ⟨report, hrun, -⟩ := Action.exists_ok_of_map_eq
    (f := PassReport.updated) (b := 1)
    (show (Action.run (reconcile Store.cluster {} Agent.sidecar)
      Store.bodiless).1.toOption.map PassReport.updated = some 1 by decide +kernel)
  obtain ⟨applied, s₁, pruned, s₂, hpassed⟩ := run_reconcile_iff.mp hrun
  obtain ⟨d, hd, hkind, hplace⟩ := Agent.sidecar_account
  obtain ⟨live, hlive, hbody⟩ := Store.get?_bodiless hplace
  have hs := Store.reachable_bodiless.sound
  have ht := hpassed.sound hs
  obtain ⟨-, after, hafter, hkept⟩ := hpassed.updates_bodiless hs hd hkind hlive hbody
  refine ⟨report, _, hrun, fun report' t' hagain => ?_⟩
  obtain ⟨applied', s₁', pruned', s₂', hnext⟩ := run_reconcile_iff.mp hagain
  obtain ⟨hsecond, last, hlast, hstays⟩ := hnext.updates_bodiless ht hd hkind hafter hkept
  refine ⟨by omega, fun report'' t'' hrun'' => ?_⟩
  obtain ⟨applied'', s₁'', pruned'', s₂'', hthird⟩ := run_reconcile_iff.mp hrun''
  have hupdated := (hthird.updates_bodiless (hnext.sound ht) hd hkind hlast hstays).1
  omega

end AgentOperator
