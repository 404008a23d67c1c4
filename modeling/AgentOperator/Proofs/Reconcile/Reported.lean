import AgentOperator.Proofs.Reconcile.Fit
import AgentOperator.Proofs.Reconcile.Idempotence
import AgentOperator.Proofs.Reconcile.SelectorText

/-!
# What is reported after a pass

The status is read back from the live workload, by other paths than those by which it
was written.  However the workload was brought to its target state, over whatever stood
at its place, it has the image of the agent's container and the agent's selector
afterwards, if it is there at all.  So the status says what was built.
-/

namespace AgentOperator

open Json (Path)

variable {settings : PassSettings} {agent : Agent} {c : Context} {s t s₁ s₂ : Store}
  {d : Desired} {change : Change} {uid : Option String} {live object : Object}
  {kind : Kind} {form : WorkloadForm} {report : PassReport} {applied : ApplyReport}
  {pruned : Nat} {path : Path} {wanted : Json} {field text : String}

/-! ## Values that applying an object leaves -/

/-- What stands at the place of an object that was applied was made there, held all that
is desired before, or was written over what stood there. -/
theorem Applied.live_cases (happlied : Applied d s change uid t)
    (hlive : t.get? d.place = some live) :
    live = s.newObject d.kind d.object ∨
      (∃ target, mergeImmutable d.kind live d.object = (none, target) ∧
        isUnchanged live target = true) ∨
      ∃ before target, s.get? d.place = some before ∧
        mergeImmutable d.kind before d.object = (none, target) ∧
        live = s.nextObject before (updatedObject before target) := by
  cases happlied with
  | created => exact .inl (Option.some.inj (hlive.symm.trans (Store.get?_of_putEntry rfl)))
  | deleted =>
      rw [Store.get?_withDeleted_self] at hlive
      simp at hlive
  | unchanged hbefore hmerge hsame =>
      obtain rfl := Option.some.inj (hbefore.symm.trans hlive)
      exact .inr (.inl ⟨_, hmerge, hsame⟩)
  | updated hbefore hmerge _ =>
      refine .inr (.inr ⟨_, _, hbefore, hmerge, ?_⟩)
      exact Option.some.inj (hlive.symm.trans (Store.get?_of_putEntry rfl))

/-- Where a field cannot change, an object that was applied has the desired value. -/
theorem Applied.at?_immutable (happlied : Applied d s change uid t) (hs : s.Sound)
    (hd : d.IsBuilt) (hlive : t.get? d.place = some live)
    (hmem : path ∈ d.kind.immutableFields) (hwanted : d.object.body.at? path = some wanted) :
    live.body.at? path = some wanted := by
  have htextual := hd.textual hmem hwanted
  rcases happlied.live_cases hlive with rfl | hsettled | ⟨before, target, hbefore, hmerge, rfl⟩
  · exact (hd.fits_newObject s).agrees hmem hwanted
  · exact Settled.at?_eq hsettled hd.object hmem hwanted htextual
  · exact Store.at?_stored s htextual
      (Fits.at?_updated hd (hs.proper hbefore) hmerge hmem hwanted)

/-- A merge leaves alone what is below a field of the spec that can change. -/
theorem mergeImmutable_at? {desired target : Object} {conflict : Option Path}
    (hdesired : desired.IsBuilt)
    (hmerge : mergeImmutable kind live desired = (conflict, target))
    (hmutable : ["spec", field] ∉ kind.immutableFields) (rest : Path) :
    target.body.at? (["spec", field] ++ rest) =
      desired.body.at? (["spec", field] ++ rest) := by
  obtain ⟨hfields, -⟩ := mergeImmutable_eq hmerge
  have htakes := takesFields_immutableFields hdesired.body kind
  have hsame : target.body.at? ["spec", field] = desired.body.at? ["spec", field] := by
    refine mergeFields_at?_of_notMem htakes hfields ?_
    intro path hmem
    obtain ⟨other, rfl⟩ := Kind.immutableFields_below_spec hmem
    have hne : other ≠ field := by
      rintro rfl
      exact hmutable hmem
    constructor
    · simpa [List.cons_prefix_cons] using hne
    · simpa [List.cons_prefix_cons] using hne.symm
  rw [Json.at?_append, Json.at?_append, hsame]

/-- Below a field of the spec that can change, an object that was applied has each text
that is desired, unless it is the empty one. -/
theorem Applied.at?_text (happlied : Applied d s change uid t) (hs : s.Sound)
    (hd : d.IsBuilt) (hkind : d.kind ≠ .service) (hlive : t.get? d.place = some live)
    (hmutable : ["spec", field] ∉ d.kind.immutableFields) {rest : Path}
    (hwanted : d.object.body.at? (["spec", field] ++ rest) = some (.str text))
    (hne : text ≠ "") :
    live.body.at? (["spec", field] ++ rest) = some (.str text) := by
  have htextual : (Json.str text).IsTextual := .str text hne
  rcases happlied.live_cases hlive with
    rfl | ⟨target, hmerge, hsame⟩ | ⟨before, target, hbefore, hmerge, rfl⟩
  · unfold Store.newObject Store.completed
    rw [if_neg hkind]
    exact Store.at?_stored s htextual hwanted
  · have htarget := (mergeImmutable_at? hd.object hmerge hmutable rest).trans hwanted
    unfold isUnchanged at hsame
    rw [Bool.and_eq_true] at hsame
    obtain ⟨value, hvalue, hheld⟩ :=
      Json.contains_at? hsame.2 htarget htextual.isOmissible
    rw [hvalue, Json.eq_of_contains_str hheld]
  · apply Store.at?_stored s htextual
    have hbuilt := mergeImmutable_isBuilt (hs.proper hbefore) hd.object hmerge
    have htarget := (mergeImmutable_at? hd.object hmerge hmutable rest).trans hwanted
    show (overlayBody before.body target.body).at? (["spec", field] ++ rest) = _
    rw [Json.at?_append] at htarget ⊢
    rcases at?_overlayBody before.body hbuilt.body field with hover | ⟨hnone, -⟩
    · rw [hover, htarget]
    · rw [hnone] at htarget
      simp at htarget

/-! ## Workloads -/

/-- The workload runs the image of the agent, and its selector is the agent's. -/
structure Object.Runs (object : Object) (c : Context) : Prop where
  image : object.image? = some c.image
  selector : object.selectorText? = some (selectorText c.agent.selectorLabels)

theorem selectorText?_of_at? {labels : Dict String}
    (hat : object.body.at? ["spec", "selector"] = some (Workload.selectorJson labels)) :
    object.selectorText? = some (selectorText labels) := by
  have hlabels : object.body.at? ["spec", "selector", "matchLabels"] =
      some (.ofDict .str labels) := by
    show object.body.at? (["spec", "selector"] ++ ["matchLabels"]) = _
    rw [Json.at?_append, hat]
    rfl
  exact Object.selectorText?_of_perm hlabels (List.Perm.refl _)

theorem Object.runs_of_at?
    (himage : object.body.at? ["spec", "template", "spec", "containers", "0", "image"] =
      some (.str c.image))
    (hselector : object.body.at? ["spec", "selector"] =
      some (Workload.selectorJson c.agent.selectorLabels)) : object.Runs c := by
  refine ⟨?_, selectorText?_of_at? hselector⟩
  unfold image?
  rw [himage]
  rfl

/-- No workload is a service, its selector cannot change and its template can. -/
theorem WorkloadForm.kind_fields (form : WorkloadForm) :
    form.kind ≠ .service ∧ ["spec", "selector"] ∈ form.kind.immutableFields ∧
      ["spec", "template"] ∉ form.kind.immutableFields := by
  cases form <;> simp [kind, Kind.immutableFields]

namespace Context

def workload (c : Context) (form : WorkloadForm) : Desired :=
  (Manifest.workload (.ofForm c form)).desired

theorem exists_form (hkind : c.mode.workloadKind? = some kind) :
    ∃ form, WorkloadForm.ofMode? c c.mode = some form ∧ form.kind = kind := by
  cases hmode : c.mode with
  | sidecar => simp [hmode, Mode.workloadKind?] at hkind
  | _ =>
      rw [hmode] at hkind
      exact ⟨_, rfl, Option.some.inj hkind⟩

theorem workload_mem_desired (hform : WorkloadForm.ofMode? c c.mode = some form) :
    c.workload form ∈ c.desired := by
  apply List.mem_map_of_mem
  simp [Manifest.allOfContext, Workload.ofContext?, hform]

theorem workload_place (c : Context) (form : WorkloadForm) :
    (c.workload form).place = .of form.kind c.namespaceName c.name := rfl

theorem at?_workload_image (c : Context) (form : WorkloadForm) :
    (c.workload form).object.body.at?
      ["spec", "template", "spec", "containers", "0", "image"] = some (.str c.image) :=
  (Workload.ofForm c form).at?_image

theorem at?_workload_selector (c : Context) (form : WorkloadForm) :
    (c.workload form).object.body.at? ["spec", "selector"] =
      some (Workload.selectorJson c.agent.selectorLabels) :=
  Workload.at?_selector c form

theorem workload_runs (c : Context) (form : WorkloadForm) :
    (c.workload form).object.Runs c :=
  Object.runs_of_at? (c.at?_workload_image form) (c.at?_workload_selector form)

theorem image_ne_empty (himage : c.config.image ≠ "") : c.image ≠ "" := by
  unfold image
  cases hgiven : c.agent.spec.image.filter fun i => i ≠ "" with
  | none => exact himage
  | some given => simpa using (Option.filter_eq_some_iff.mp hgiven).2

/-- Every object of an agent is labelled with the version that its image names. -/
theorem get?_versionLabel (hd : d ∈ c.desired) :
    d.object.labels.get? versionLabel = some (imageVersion c.image) := by
  obtain ⟨m, hm, rfl⟩ := List.mem_map.mp hd
  obtain ⟨name, component, extra, hmetadata⟩ := Manifest.metadata_isOf hm
  show (m.metadata.labels.getD ∅).get? versionLabel = _
  rw [hmetadata]
  exact Dict.get?_insert_self _ _ _

end Context

/-- However the workload is brought to its target state, and whoever owns it, it runs
what was built. -/
theorem Applied.runs {owner : OwnerReference}
    (happlied : Applied ((c.workload form).ownedBy owner) s change uid t) (hs : s.Sound)
    (hd : ((c.workload form).ownedBy owner).IsBuilt) (himage : c.image ≠ "")
    (hlive : t.get? ((c.workload form).ownedBy owner).place = some live) :
    live.Runs c := by
  obtain ⟨hservice, hselector, htemplate⟩ := form.kind_fields
  have hkind : ((c.workload form).ownedBy owner).kind = form.kind :=
    Desired.ownedBy_kind _ _
  rw [← hkind] at hservice hselector htemplate
  have hbody := Desired.ownedBy_body (c.workload form) owner
  apply Object.runs_of_at?
  · have hwanted : ((c.workload form).ownedBy owner).object.body.at?
        (["spec", "template"] ++ ["spec", "containers", "0", "image"]) =
          some (.str c.image) := by
      rw [hbody]
      exact c.at?_workload_image form
    exact happlied.at?_text hs hd hservice hlive htemplate hwanted himage
  · apply happlied.at?_immutable hs hd hlive hselector
    rw [hbody]
    exact c.at?_workload_selector form

/-! ## After a pass -/

/-- A status that is read off a workload that runs what was built says what was built. -/
theorem Status.ofWorkload_eq {live? : Option Object}
    (hruns : ∀ live, live? = some live → live.Runs c) :
    ofWorkload c kind live? =
      let counts := (live?.map (Object.replicaCounts kind)).getD (0, 0)
      ofScale c.image counts.1 counts.2 (selectorText c.agent.selectorLabels) := by
  cases live? with
  | none => rfl
  | some live =>
      obtain ⟨himage, hselector⟩ := hruns live rfl
      unfold ofWorkload
      simp only [himage, hselector, Option.getD_some, Option.map_some]

theorem Passed.runs (hpassed : Passed settings agent s report t applied s₁ pruned s₂)
    (hs : s.Sound) (himage : settings.config.image ≠ "")
    (hform : WorkloadForm.ofMode? (settings.context agent) agent.spec.mode = some form)
    (hlive : t.get? ((settings.context agent).workload form).place = some live) :
    live.Runs (settings.context agent) := by
  have howned : ((settings.context agent).workload form).ownedBy agent.ownerReference ∈
      (settings.context agent).owned :=
    List.mem_map_of_mem (Context.workload_mem_desired hform)
  obtain ⟨change, uid, u, v, happlied, hu, -, -, hafter⟩ := hpassed.exists_applied hs howned
  rw [← Desired.ownedBy_place _ agent.ownerReference, hafter] at hlive
  exact happlied.runs hu (settings.isBuilt_owned agent _ howned)
    (Context.image_ne_empty himage) hlive

/-- After a pass the status of an agent with a workload says what was built: the image of
the container, the version with which all objects are labelled, and the selector of the
agent, with the replicas that the live workload has, whatever the pass did to it. -/
theorem reconcile_reports_what_was_built (hs : s.Reachable)
    (himage : settings.config.image ≠ "")
    (hkind : agent.spec.mode.workloadKind? = some kind)
    (hrun : Action.run (reconcile Store.cluster settings agent) s = (.ok report, t)) :
    ∃ status,
      Action.run (computeStatus Store.cluster (settings.context agent)) t =
        (.ok status, t) ∧
      agent.statusAfter report t = some status ∧
      status.image = (settings.context agent).image ∧
      (∃ d ∈ (settings.context agent).desired,
        d.place = .of kind agent.namespaceName agent.name ∧
          d.object.image? = some status.image ∧
          d.object.selectorText? = some status.scale.selector) ∧
      (∀ d ∈ (settings.context agent).desired,
        d.object.labels.get? versionLabel = some status.version) ∧
      status.scale.selector = selectorText agent.selectorLabels ∧
      ∃ ready : Int32,
        (status.scale.replicas, ready) =
          ((t.get? (.of kind agent.namespaceName agent.name)).map
            (Object.replicaCounts kind)).getD (0, 0) ∧
        status.scale.statusReplicas =
          toString ready.toInt ++ "/" ++ toString status.scale.replicas.toInt := by
  obtain ⟨applied, s₁, pruned, s₂, hpassed⟩ := run_reconcile_iff.mp hrun
  obtain ⟨form, hform, rfl⟩ := Context.exists_form (c := settings.context agent) hkind
  have hplace := (settings.context agent).workload_place form
  have hstatus : statusOn (settings.context agent) t =
      let counts := ((t.get? (.of form.kind agent.namespaceName agent.name)).map
        (Object.replicaCounts form.kind)).getD (0, 0)
      .ofScale (settings.context agent).image counts.1 counts.2
        (selectorText agent.selectorLabels) := by
    have hmode : (settings.context agent).mode.workloadKind? = some form.kind := hkind
    unfold statusOn
    rw [hmode]
    exact Status.ofWorkload_eq fun live hlive =>
      hpassed.runs hs.sound himage hform (hplace ▸ hlive)
  have hworkload := (settings.context agent).workload_runs form
  refine ⟨_, run_computeStatus _ t, hpassed.statusAfter_eq, ?_⟩
  rw [hstatus]
  exact ⟨rfl, ⟨_, Context.workload_mem_desired hform, hplace, hworkload.image,
    hworkload.selector⟩, fun d hd => Context.get?_versionLabel hd, rfl, _, rfl, rfl⟩

/-! ## A pass over another's deployment -/

/-- An agent that is run by a deployment. -/
def Agent.replicated : Agent := { Agent.sidecar with spec := { mode := .deployment } }

/-- A deployment in the place of the agent's that has another image and no selector. -/
def Workload.foreign : Object :=
  { types := none
    metadata := { name := some "a", namespaceName := some "ns" }
    body := .mkObj [
      ("spec", .mkObj [("template", .mkObj [("spec", .mkObj [("containers", .arr [
        .mkObj [("image", .str "other:1")]])])])]),
      ("status", .mkObj [("readyReplicas", .int 2), ("replicas", .int 3)])] }

theorem Workload.isProper_foreign : Workload.foreign.IsProper :=
  ⟨rfl, by simp [Workload.foreign]⟩

set_option maxRecDepth 100000 in
theorem reconcile_reports_what_was_built_foreign :
    ∃ report t status,
      Action.run (reconcile Store.cluster {} Agent.replicated)
        (Store.seed {} .deployment Workload.foreign).2 = (.ok report, t) ∧
      report.updated = 1 ∧
      Agent.replicated.statusAfter report t = some status ∧
      status.image = defaultAgentImage ∧
      status.scale.selector = selectorText Agent.replicated.selectorLabels ∧
      status.scale.statusReplicas = "2/3" := by
  obtain ⟨hupdated, hcounts⟩ : (Action.run (reconcile Store.cluster {} Agent.replicated)
        (Store.seed {} .deployment Workload.foreign).2).1.toOption.map PassReport.updated =
          some 1 ∧
      ((Action.run (reconcile Store.cluster {} Agent.replicated)
        (Store.seed {} .deployment Workload.foreign).2).2.get?
          ⟨.deployment, "ns", "a"⟩).map (Object.replicaCounts .deployment) = some (3, 2) := by
    decide +kernel
  obtain ⟨report, hrun, hupdated⟩ := Action.exists_ok_of_map_eq hupdated
  have hreachable : (Store.seed {} .deployment Workload.foreign).2.Reachable :=
    Store.ReachableBy.empty.seed .deployment Workload.isProper_foreign
  obtain ⟨status, -, hafter, himage, -, -, hselector, ready, hread, htext⟩ :=
    reconcile_reports_what_was_built hreachable (by decide) rfl hrun
  rw [show StoreKey.of .deployment Agent.replicated.namespaceName Agent.replicated.name =
    ⟨.deployment, "ns", "a"⟩ from rfl, hcounts] at hread
  obtain ⟨hreplicas, hready⟩ := Prod.mk.inj hread
  refine ⟨report, _, status, hrun, hupdated, hafter, himage, hselector, ?_⟩
  rw [htext, hreplicas, hready]
  decide

end AgentOperator
