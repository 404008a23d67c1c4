import AgentOperator.Proofs.Json.Hollow
import AgentOperator.Proofs.Manifest.Selection
import AgentOperator.Proofs.Reconcile.AnyOutcome
import AgentOperator.Proofs.Reconcile.Fit
import AgentOperator.Proofs.Reconcile.Idempotence
import AgentOperator.Proofs.Reconcile.Reachable

/-!
# Stores that drop empty fields

A store that drops the fields without content keeps less of a new object than was
desired.  Whether the next pass notices depends on the desired body alone: it leaves the
object as it is exactly when no field of that body is an object that loses all of its
fields.  What the server adds to a service makes no difference to this, because the
selector of a service always has content.
-/

namespace AgentOperator

variable {d : Desired} {ds : List Desired} {s t u v : Store} {key : StoreKey} {number : Nat}
  {spec : List (String × Json)}

/-! ## Services -/

theorem Json.stripEmpty_ofSpec (hcontent : (Json.obj (Json.stripFields spec)).isEmpty = false) :
    (Json.ofSpec spec).stripEmpty = .ofSpec (Json.stripFields spec) := by
  simp [Json.ofSpec, Json.stripEmpty, Json.stripFields, hcontent]

/-- What is left of a service has its address, if it was given one. -/
theorem at?_address_stripFields
    (htextual : (Store.addressOf number (.ofSpec spec)).IsTextual) :
    (Json.ofSpec (Json.stripFields spec)).at? ["spec", "clusterIP"] =
      (Json.ofSpec spec).at? ["spec", "clusterIP"] := by
  have haddress := Store.at?_eq_none_or_addressOf number (.ofSpec spec)
  rw [Json.at?_ofSpec] at haddress
  rw [Json.at?_ofSpec, Json.at?_ofSpec]
  rcases haddress with hnone | hgiven
  · rw [hnone]
    exact Json.get?_stripFields_of_none hnone
  · have hstrip := htextual.stripEmpty_eq
    have hleft := Json.get?_stripFields hgiven (by rw [hstrip]; exact htextual.isEmpty)
    rw [hleft, hgiven, hstrip]

/-- What is left of a service can be given an address too. -/
theorem IsAddressable.stripFields (hbody : IsAddressable (.ofSpec spec))
    (htextual : (Store.addressOf number (.ofSpec spec)).IsTextual) :
    IsAddressable (.ofSpec (Json.stripFields spec)) := by
  have hnone : ∀ field, (Json.ofSpec spec).at? ["spec", field] = none →
      (Json.ofSpec (Json.stripFields spec)).at? ["spec", field] = none := by
    intro field hunset
    rw [Json.at?_ofSpec] at hunset ⊢
    exact Json.get?_stripFields_of_none hunset
  have hcanonical : (Json.obj (Json.stripFields spec)).Canonical :=
    (Json.canonical_of_ofSpec hbody.canonical).stripEmpty
  refine ⟨⟨⟨rfl, ?_⟩, ?_, ?_⟩, ?_, hnone _ hbody.addresses, hnone _ hbody.type⟩
  · exact .obj _ (List.pairwise_singleton _ _) (by simpa using hcanonical)
  · intro entry hmem
    obtain rfl := List.mem_singleton.mp hmem
    exact Json.segmentsOf_spec
  · intro value hvalue
    obtain rfl := Option.some.inj hvalue
    rfl
  · intro ip hip
    rw [at?_address_stripFields htextual] at hip
    exact hbody.address ip hip

/-- Whether the empty fields of a service are dropped before or after the server gives
it an address makes no difference. -/
theorem stripEmpty_allocate (hbody : IsAddressable (.ofSpec spec))
    (htextual : (Store.addressOf number (.ofSpec spec)).IsTextual) :
    (Store.allocate number (.ofSpec spec)).stripEmpty =
      Store.allocate number (.ofSpec (Json.stripFields spec)) := by
  have hleft := hbody.stripFields htextual
  have haddress := Store.addressOf_congr number (at?_address_stripFields htextual)
  have hordered := (Json.canonical_of_ofSpec hbody.canonical).ordered
  generalize hip : Store.addressOf number (.ofSpec spec) = ip at htextual haddress
  have hfields : Json.stripFields (Keyed.insert "type" (.str "ClusterIP")
      (Keyed.insert "clusterIPs" (.arr [ip]) (Keyed.insert "clusterIP" ip spec))) =
      Keyed.insert "type" (.str "ClusterIP") (Keyed.insert "clusterIPs" (.arr [ip])
        (Keyed.insert "clusterIP" ip (Json.stripFields spec))) := by
    rw [Json.stripFields_insert ((hordered.insert _ _).insert _ _) "type" rfl (by decide),
      Json.stripFields_insert (hordered.insert _ _) "clusterIPs" ?_ rfl,
      Json.stripFields_insert hordered "clusterIP" htextual.stripEmpty_eq htextual.isEmpty]
    rw [Json.stripEmpty, Json.stripElements, htextual.stripEmpty_eq]
    rfl
  rw [hbody.allocate_eq, hleft.allocate_eq, IsAddressable.addressed_ofSpec,
    IsAddressable.addressed_ofSpec, Json.setAt_ofSpec, Json.setAt_ofSpec, haddress, hip,
    ← hfields]
  apply Json.stripEmpty_ofSpec
  have htype : (Json.obj (Json.stripFields (Keyed.insert "type" (.str "ClusterIP")
      (Keyed.insert "clusterIPs" (.arr [ip]) (Keyed.insert "clusterIP" ip spec))))).at?
        ["type"] = some (.str "ClusterIP") := by
    rw [hfields, Json.at?_obj_cons, Keyed.get?_insert_self]
    rfl
  exact Json.isEmpty_of_at? htype (by decide)

/-- A service keeps its spec when the empty fields are dropped. -/
def Desired.KeepsSpec (d : Desired) : Prop :=
  d.kind = .service → ∀ inner, d.object.body.at? ["spec"] = some inner →
    inner.stripEmpty.isEmpty = false

theorem Context.keepsSpec_of_mem {c : Context} (hd : d ∈ c.owned) : d.KeepsSpec := by
  intro hkind inner hinner
  obtain ⟨w, hw, rfl⟩ := List.mem_map.mp hd
  rw [Desired.ownedBy_kind] at hkind
  rw [Desired.ownedBy_body] at hinner
  have hselector := Context.at?_selector hw (by rw [hkind]; rfl)
  have hlabel : c.agent.selectorLabels.get? managedByLabel = some managerName :=
    Agent.get?_selectorLabels.mpr (by simp [Agent.selectorEntries])
  have hinside : inner.at? ["selector", managedByLabel] = some (.str managerName) := by
    have hfield : inner.at? ["selector"] = some (.ofDict .str c.agent.selectorLabels) := by
      rw [← Json.at?_append_of_some hinner]
      exact hselector
    rw [← List.singleton_append, Json.at?_append_of_some hfield, Json.at?_ofDict_str, hlabel]
    rfl
  have htextual : (Json.str managerName).IsTextual := .str _ (by decide)
  exact Json.isEmpty_of_at? (htextual.at?_stripEmpty hinside) htextual.isOmissible

/-! ## New objects -/

/-- A new object merges with the desired one that it was made of, and holds the outcome
exactly when no field of the desired body is hollow. -/
theorem exists_mergeFields_newObject (hd : d.IsBuilt) (hspec : d.KeepsSpec)
    (homits : s.omitsEmpty = true) :
    ∃ merged, mergeFields (s.newObject d.kind d.object).body d.kind.immutableFields
        d.object.body = (none, merged) ∧
      ((s.newObject d.kind d.object).body.contains merged = true ↔
        d.object.body.hasHollow = false) := by
  have hheld := hd.object.body.canonical.contains_stripEmpty_iff
  rw [Store.newObject_body, if_pos homits]
  by_cases hkind : d.kind = .service
  · have hbody := hd.addressable hkind
    have htextual := hd.isTextual_addressOf hkind (s.counter + 1)
    obtain ⟨spec, hbuilt⟩ := hd.exists_ofSpec hkind
    have hkept := hspec hkind (.obj spec) (by rw [hbuilt]; rfl)
    rw [hbuilt] at hheld hbody htextual ⊢
    rw [if_pos hkind, stripEmpty_allocate hbody htextual, hkind]
    have hmeets := meets_service (hbody.stripFields htextual) hbody
      (at?_address_stripFields htextual) (s.counter + 1)
    refine ⟨_, hmeets.merge, ?_⟩
    rw [hmeets.contains, ← hheld, Json.stripEmpty_ofSpec hkept]
  · rw [if_neg hkind]
    refine ⟨d.object.body, mergeFields_self fun path hmem => ?_, hheld⟩
    exact hd.object.body.canonical.at?_stripEmpty_eq fun wanted => hd.textual hmem

theorem isUnchanged_newObject (s : Store) (kind : Kind) (object : Object) (body : Json) :
    isUnchanged (s.newObject kind object) { object with body := body } =
      (s.newObject kind object).body.contains body := by
  unfold isUnchanged
  rw [Store.newObject_metadata]
  simp only [hasOwners_self, hasEntries_self, Bool.and_self, Bool.true_and]

/-- A new object is settled exactly when no field of the desired body is hollow. -/
theorem settled_newObject_iff (hd : d.IsBuilt) (hspec : d.KeepsSpec)
    (homits : s.omitsEmpty = true) :
    Settled d (s.newObject d.kind d.object) ↔ d.object.body.hasHollow = false := by
  obtain ⟨merged, hmerge, hholds⟩ := exists_mergeFields_newObject hd hspec homits
  have htarget : mergeImmutable d.kind (s.newObject d.kind d.object) d.object =
      (none, { d.object with body := merged }) := by
    unfold mergeImmutable
    rw [hmerge]
  rw [← hholds, ← isUnchanged_newObject]
  constructor
  · rintro ⟨target, hother, hunchanged⟩
    rw [htarget] at hother
    obtain ⟨-, rfl⟩ := Prod.mk.inj hother
    exact hunchanged
  · exact fun hunchanged => ⟨_, htarget, hunchanged⟩

/-! ## Runs over what was made -/

/-- An object is left alone exactly when it is settled. -/
theorem Applied.change_eq_unchanged_iff {change : Change} {uid : Option String}
    (happlied : Applied d s change uid t) :
    change = .unchanged ↔ ∃ live, s.get? d.place = some live ∧ Settled d live := by
  cases happlied with
  | created habsent => simp [habsent]
  | deleted hlive hmerge => simp [hlive, Settled, hmerge]
  | unchanged hlive hmerge hsame =>
      exact ⟨fun _ => ⟨_, hlive, _, hmerge, hsame⟩, fun _ => rfl⟩
  | updated hlive hmerge hdiffers => simp [hlive, Settled, hmerge, hdiffers]

/-- What is settled is left alone whatever fails, and nothing else is. -/
theorem run_applyRecorded_unchanged_iff (hs : s.Placed) (maxAttempts : Nat) (d : Desired)
    (report : ApplyReport) :
    ∃ outcome failures u,
      Action.run (applyRecorded Store.cluster maxAttempts d report) s =
        (.ok ⟨report.outcomes ++ [outcome], report.failures ++ failures⟩, u) ∧
      u.Placed ∧ (∀ key, key ≠ d.place → u.get? key = s.get? key) ∧
      (outcome.change = .unchanged ↔
        ∃ live, s.get? d.place = some live ∧ Settled d live) := by
  by_cases hsettled : ∃ live, s.get? d.place = some live ∧ Settled d live
  · obtain ⟨uid, t, hrun, happlied, -⟩ :=
      run_applyRecorded_of_ready (.inr hsettled) maxAttempts report
    refine ⟨_, [], t, by simpa using hrun, happlied.placed hs, ?_, ?_⟩
    · exact fun key hne => happlied.get?_of_ne hne
    · exact happlied.change_eq_unchanged_iff
  · rcases run_applyRecorded_cases hs maxAttempts d report with
      ⟨change, uid, t, u, hrun, hsame, happlied⟩ | ⟨failure, u, hrun, hsame⟩
    · refine ⟨_, [], u, by simpa using hrun,
        happlied.placed (hs.of_sameButConflicts hsame), ?_, ?_⟩
      · intro key hne
        rw [happlied.get?_of_ne hne, get?_of_sameButConflicts hsame]
      · rw [← get?_of_sameButConflicts hsame]
        exact happlied.change_eq_unchanged_iff
    · refine ⟨⟨d.key, .failed, none⟩, [failure], u, hrun,
        hs.of_sameButConflicts hsame, ?_, ?_⟩
      · exact fun key _ => get?_of_sameButConflicts hsame key
      · exact ⟨fun hfailed => by simp at hfailed, fun h => absurd h hsettled⟩

/-- In a run over a list each object is left alone exactly when it is settled before
the run. -/
theorem run_applyRecorded_all_unchanged_iff (hs : s.Placed) (hplaces : PlacesDistinct ds)
    (maxAttempts : Nat) (report : ApplyReport) :
    ∃ outcomes failures v,
      Action.run (ds.foldlM
        (fun report d => applyRecorded Store.cluster maxAttempts d report) report) s =
          (.ok ⟨report.outcomes ++ outcomes, report.failures ++ failures⟩, v) ∧
      ∀ pair ∈ ds.zip outcomes, pair.2.change = .unchanged ↔
        ∃ live, s.get? pair.1.place = some live ∧ Settled pair.1 live := by
  induction ds generalizing s report with
  | nil => exact ⟨[], [], s, by simp, by simp⟩
  | cons d ds ih =>
      obtain ⟨outcome, failures, u, hrun, hu, hothers, hfirst⟩ :=
        run_applyRecorded_unchanged_iff hs maxAttempts d report
      obtain ⟨outcomes, more, v, hrest, hall⟩ := ih hu (List.Pairwise.of_cons hplaces)
        ⟨report.outcomes ++ [outcome], report.failures ++ failures⟩
      refine ⟨outcome :: outcomes, failures ++ more, v, ?_, ?_⟩
      · rw [List.foldlM_cons, Action.run_bind_of_ok hrun, hrest]
        simp only [List.append_assoc, List.singleton_append]
      · intro pair hmem
        rcases List.mem_cons.mp hmem with rfl | hzip
        · exact hfirst
        · have hne : pair.1.place ≠ d.place :=
            (List.rel_of_pairwise_cons hplaces (List.of_mem_zip hzip).1).symm
          rw [hall pair hzip, hothers _ hne]

/-- What was made in a run stands at its place at the end of it. -/
theorem AppliedEach.get?_of_created {outcomes : List Outcome} {failures : List Failure}
    (heach : AppliedEach s ds outcomes failures v) (hplaces : PlacesDistinct ds) :
    ∀ pair ∈ ds.zip outcomes, pair.2.change = .created →
      ∃ u : Store, u.omitsEmpty = s.omitsEmpty ∧
        v.get? pair.1.place = some (u.newObject pair.1.kind pair.1.object) ∧
        pair.2.uid = (u.newObject pair.1.kind pair.1.object).metadata.uid := by
  induction heach with
  | nil => simp
  | @applied s t u v d ds change uid outcomes failures hsame happlied hrest ih =>
      intro pair hmem hcreated
      rcases List.mem_cons.mp hmem with rfl | hzip
      · obtain rfl : change = .created := hcreated
        cases happlied with
        | created habsent =>
            refine ⟨t, hsame.omitsEmpty, ?_, rfl⟩
            rw [hrest.get?_of_forall_ne fun e he => List.rel_of_pairwise_cons hplaces he]
            exact Store.get?_of_putEntry rfl
      · obtain ⟨w, hw, hget, huid⟩ := ih (List.Pairwise.of_cons hplaces) pair hzip hcreated
        exact ⟨w, hw.trans (happlied.sameFaults.omitsEmpty.trans hsame.omitsEmpty), hget, huid⟩
  | @failed s t v d ds outcomes failures failure hsame hrest ih =>
      intro pair hmem hcreated
      rcases List.mem_cons.mp hmem with rfl | hzip
      · simp at hcreated
      · obtain ⟨w, hw, hget, huid⟩ := ih (List.Pairwise.of_cons hplaces) pair hzip hcreated
        exact ⟨w, hw.trans hsame.omitsEmpty, hget, huid⟩

/-! ## Passes over what was made -/

variable {settings : PassSettings} {agent : Agent}

/-- What a pass makes is there when it ends, whatever else fails: it was reconciled, so it
is not collected. -/
theorem get?_reconcile_of_created (settings : PassSettings)
    (hvalid : agent.spec.isValid = true) (hs : s.Sound) :
    ∃ applied s₁,
      Action.run (applyAll Store.cluster agent.ownerReference settings.maxAttempts
        (settings.context agent).desired) s = (.ok applied, s₁) ∧
      ∀ pair ∈ (settings.context agent).owned.zip applied.outcomes,
        pair.2.change = .created →
          ∃ u : Store, u.omitsEmpty = s.omitsEmpty ∧
            (Action.run (reconcile Store.cluster settings agent) s).2.get? pair.1.place =
              some (u.newObject pair.1.kind pair.1.object) := by
  obtain ⟨applied, s₁, hrun, heach, hswept⟩ := run_reconcile_swept_of_valid settings hvalid hs
  refine ⟨applied, s₁, hrun, fun pair hmem hcreated => ?_⟩
  obtain ⟨u, homits, hget, huid⟩ :=
    heach.get?_of_created (settings.placesDistinct_owned agent) pair hmem hcreated
  refine ⟨u, homits, ?_⟩
  rcases hswept pair.1.place with hsame | ⟨-, hsame | ⟨-, object, hobject, horphan⟩⟩
  · exact hsame.trans hget
  · exact hsame.trans hget
  · obtain rfl := Option.some.inj (hobject.symm.trans hget)
    have hnew : (u.newObject pair.1.kind pair.1.object).metadata.uid =
        some ("uid-" ++ toString (u.counter + 1)) := by
      rw [Store.newObject_metadata]
    refine absurd ?_ (horphan.forgotten _ hnew)
    refine ApplyReport.mem_reconciled.mpr ⟨pair.2, (List.of_mem_zip hmem).2, ?_, ?_⟩
    · rw [hcreated]
      rfl
    · exact huid.trans hnew

/-- Where empty fields are dropped, what is left of a value holds all of it exactly when
no field in it is hollow, and the pass after the one that made an object leaves the object
alone exactly when no field of the desired body is hollow.  Both hold whatever else fails
in either pass, and the report of the second, if it gives one, counts what it left alone. -/
theorem created_left_alone_iff (hs : s.Reachable) (homits : s.omitsEmpty = true)
    (hvalid : agent.spec.isValid = true) (settings : PassSettings) (status : Option Status) :
    let next := { agent with status := status }
    let t := (Action.run (reconcile Store.cluster settings agent) s).2
    (∀ value : Json, value.Canonical →
      (value.stripEmpty.contains value = true ↔ value.hasHollow = false)) ∧
    ∃ first s₁ second t₁,
      Action.run (applyAll Store.cluster agent.ownerReference settings.maxAttempts
        (settings.context agent).desired) s = (.ok first, s₁) ∧
      Action.run (applyAll Store.cluster next.ownerReference settings.maxAttempts
        (settings.context next).desired) t = (.ok second, t₁) ∧
      (∀ d before after, (d, before) ∈ (settings.context agent).desired.zip first.outcomes →
        (d, after) ∈ (settings.context next).desired.zip second.outcomes →
        before.change = .created →
          (after.change = .unchanged ↔ d.object.body.hasHollow = false)) ∧
      ∀ report t₂, Action.run (reconcile Store.cluster settings next) t = (.ok report, t₂) →
        report.unchanged = second.count .unchanged ∧ report.updated = second.count .updated := by
  intro next t
  refine ⟨fun value hcanonical => hcanonical.contains_stripEmpty_iff, ?_⟩
  obtain ⟨first, s₁, hfirst, hmade⟩ := get?_reconcile_of_created settings hvalid hs.sound
  have ht : t.Sound := (reconcile_keeps_reachable settings agent s hs).sound
  obtain ⟨outcomes, failures, t₁, hsecond, hunchanged⟩ :=
    run_applyRecorded_all_unchanged_iff ht.arranged.placed
      (settings.placesDistinct_owned next) settings.maxAttempts {}
  refine ⟨first, s₁, ⟨outcomes, failures⟩, t₁, hfirst, ?_, ?_, ?_⟩
  · rw [applyAll_eq]
    exact hsecond
  · intro d before after hbefore hafter hcreated
    have hzip := Context.mem_zip_owned hbefore
    obtain ⟨u, hu, hget⟩ := hmade _ hzip hcreated
    have howned := (List.of_mem_zip hzip).1
    have hsettled := settled_newObject_iff (settings.isBuilt_owned agent _ howned)
      (Context.keepsSpec_of_mem howned) (hu.trans homits)
    rw [Desired.ownedBy_body] at hsettled
    rw [← hsettled]
    refine (hunchanged _ (Context.mem_zip_owned hafter)).trans ⟨?_, fun h => ⟨_, hget, h⟩⟩
    rintro ⟨live, hlive, hleft⟩
    obtain rfl := Option.some.inj (hget.symm.trans hlive)
    exact hleft
  · intro report t₂ hrun
    obtain ⟨applied, u, pruned, w, hpassed⟩ := run_reconcile_iff.mp hrun
    have happlied := hpassed.apply
    rw [applyAll_eq] at happlied
    obtain ⟨hresult, -⟩ := Prod.mk.inj (hsecond.symm.trans happlied)
    obtain rfl := Except.ok.inj hresult
    rw [hpassed.report_eq]
    exact ⟨rfl, rfl⟩

/-! ## An agent without a configuration -/

/-- An empty store that drops empty fields. -/
def Store.omitting : Store := Store.omitEmpty {}

set_option maxRecDepth 100000 in
theorem created_left_alone_iff_emptied :
    let t := (Action.run (reconcile Store.cluster {} Agent.sidecar) Store.omitting).2
    ∃ first s₁ second t₁,
      Action.run (applyAll Store.cluster Agent.sidecar.ownerReference defaultAttempts
        (PassSettings.context {} Agent.sidecar).desired) Store.omitting = (.ok first, s₁) ∧
      first.outcomes.map Outcome.change = [.created, .created, .created] ∧
      Action.run (applyAll Store.cluster Agent.sidecar.ownerReference defaultAttempts
        (PassSettings.context {} Agent.sidecar).desired) t = (.ok second, t₁) ∧
      ∀ d before after,
        (d, before) ∈ (PassSettings.context {} Agent.sidecar).desired.zip first.outcomes →
        (d, after) ∈ (PassSettings.context {} Agent.sidecar).desired.zip second.outcomes →
          (after.change = .unchanged ↔ d.object.body.hasHollow = false) := by
  obtain ⟨-, first, s₁, second, t₁, hfirst, hsecond, hiff, -⟩ :=
    created_left_alone_iff (show Store.omitting.Reachable from .omitEmpty .empty) rfl
      (show Agent.sidecar.spec.isValid = true by decide) {} none
  have hchanges : first.outcomes.map Outcome.change = [.created, .created, .created] := by
    have hrun : (Action.run (applyAll Store.cluster Agent.sidecar.ownerReference
        defaultAttempts (PassSettings.context {} Agent.sidecar).desired)
          Store.omitting).1.toOption.map (fun applied => applied.outcomes.map Outcome.change) =
        some [.created, .created, .created] := by
      decide +kernel
    rw [hfirst] at hrun
    exact Option.some.inj hrun
  refine ⟨first, s₁, second, t₁, hfirst, hchanges, hsecond, ?_⟩
  intro d before after hbefore hafter
  refine hiff d before after hbefore hafter ?_
  have hmem := List.mem_map_of_mem (f := Outcome.change) (List.of_mem_zip hbefore).2
  rw [hchanges] at hmem
  simpa using hmem

set_option maxRecDepth 100000 in
/-- The config map of an agent without a configuration is written again by every pass. -/
theorem emptied_config_is_drift :
    (∃ value : Json, value.Canonical ∧ value.stripEmpty.contains value = false) ∧
    ∃ report t report' t',
      Action.run (reconcile Store.cluster {} Agent.sidecar) Store.omitting = (.ok report, t) ∧
      report.created = 3 ∧
      Action.run (reconcile Store.cluster {} Agent.sidecar) t = (.ok report', t') ∧
      report'.unchanged = 2 ∧ report'.updated = 1 := by
  refine ⟨⟨.mkObj [("a", .mkObj [("b", .str "")])], by simp, by decide⟩, ?_⟩
  obtain ⟨report, hrun, hcreated⟩ := Action.exists_ok_of_map_eq
    (f := PassReport.created) (b := 3)
    (show (Action.run (reconcile Store.cluster {} Agent.sidecar)
      Store.omitting).1.toOption.map PassReport.created = some 3 by decide +kernel)
  obtain ⟨report', hagain, hcounts⟩ := Action.exists_ok_of_map_eq
    (f := fun r : PassReport => (r.unchanged, r.updated)) (b := (2, 1))
    (show (Action.run (reconcile Store.cluster {} Agent.sidecar)
      (Action.run (reconcile Store.cluster {} Agent.sidecar) Store.omitting).2).1.toOption.map
        (fun r => (r.unchanged, r.updated)) = some (2, 1) by decide +kernel)
  obtain ⟨hunchanged, hupdated⟩ := Prod.mk.inj hcounts
  exact ⟨report, _, report', _, hrun, hcreated, hagain, hunchanged, hupdated⟩

end AgentOperator
