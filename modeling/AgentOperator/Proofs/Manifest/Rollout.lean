import AgentOperator.Proofs.Digest
import AgentOperator.Proofs.Manifest.References

/-!
# When pods are rolled

A workload rolls its pods when their template changes, and the template bears a digest of the
texts of the agent so that it changes with them.  The digest is taken of the two texts joined
by a mark, and the mark may stand in either of them: two pairs of texts that are joined to one
text have one digest.  That happens only where one configuration goes on from the other with
the beginning of the mark.
-/

namespace AgentOperator

variable {a b : Agent} {c e : Context}

/-! ## Templates and config maps of an agent -/

/-- The template of the pods of the desired workload. -/
def Context.podTemplate? (c : Context) : Option Json :=
  c.desired.findSome? fun d => d.object.body.at? ["spec", "template"]

/-- The desired config maps, with their names. -/
def Context.configMaps (c : Context) : List (String × Json) :=
  (c.desired.filter fun d => d.kind = .configMap).map fun d => (d.object.name, d.object.body)

theorem WorkloadForm.exists_of_mode_ne_sidecar (hmode : c.mode ≠ .sidecar) :
    ∃ form, ofMode? c c.mode = some form := by
  cases hcase : c.mode with
  | sidecar => exact absurd hcase hmode
  | deployment | statefulSet | daemonSet => exact ⟨_, rfl⟩

theorem Context.podTemplate?_eq (hmode : c.mode ≠ .sidecar) :
    c.podTemplate? = some (PodTemplate.ofContext c).toJson := by
  obtain ⟨form, hform⟩ := WorkloadForm.exists_of_mode_ne_sidecar hmode
  obtain ⟨others, hall, -⟩ := Manifest.exists_others c
  have hworkload : Workload.ofContext? c = some (.ofForm c form) :=
    Option.map_eq_some_iff.mpr ⟨form, hform, rfl⟩
  have htemplate : (Manifest.workload (.ofForm c form)).desired.object.body.at?
      ["spec", "template"] = some (PodTemplate.ofContext c).toJson :=
    (Workload.ofForm c form).at?_template []
  rw [podTemplate?, desired, hall, hworkload]
  simp [htemplate]

/-! ## Texts that are joined -/

/-- The agents differ in their texts alone. -/
def Agent.SameButTexts (a b : Agent) : Prop :=
  b = { a with spec := { a.spec with
    config := b.spec.config, otelConfig := b.spec.otelConfig } }

/-- The configuration of one agent goes on from that of the other with the beginning of the
mark that stands between joined texts. -/
def Agent.ConfigGoesOn (a b : Agent) : Prop :=
  ∃ rest, b.spec.config = a.spec.config ++ "\n---" ++ rest

/-- What the joined text has behind the configuration. -/
def Agent.behindConfig (a : Agent) : String :=
  match a.spec.otelConfig with
  | none => ""
  | some otel => "\n---\n" ++ otel

theorem Agent.hashedText_eq (a : Agent) : a.hashedText = a.spec.config ++ a.behindConfig := by
  unfold hashedText behindConfig
  cases a.spec.otelConfig with
  | none => exact String.append_empty.symm
  | some otel => exact String.append_assoc

theorem Agent.otelConfig_eq_of_behindConfig_eq (heq : a.behindConfig = b.behindConfig) :
    a.spec.otelConfig = b.spec.otelConfig := by
  unfold behindConfig at heq
  cases ha : a.spec.otelConfig <;> cases hb : b.spec.otelConfig <;> simp [ha, hb] at heq
  · rfl
  · rw [heq]

/-- What the joined text has behind a configuration, and stands in the configuration in
another pair of texts, begins like the mark. -/
theorem Agent.exists_of_behindConfig_eq {between : List Char} (hne : between ≠ [])
    (heq : a.behindConfig.toList = between ++ b.behindConfig.toList) :
    ∃ rest, between = "\n---".toList ++ rest := by
  have hmark : "\n---\n".toList = ['\n', '-', '-', '-', '\n'] := rfl
  have hbegin : "\n---".toList = ['\n', '-', '-', '-'] := rfl
  rw [hbegin]
  unfold behindConfig at heq
  cases ha : a.spec.otelConfig with
  | none => simp [ha, hne] at heq
  | some otel =>
      -- One that is shorter ends where the mark of the other pair begins, and a line break
      -- of that mark would meet a dash.
      cases hb : b.spec.otelConfig <;>
        simp only [ha, hb, String.toList_append, hmark, String.toList_empty] at heq
      all_goals
        match between, hne with
        | [_], _ | [_, _], _ | [_, _, _], _ => simp at heq
        | w :: x :: y :: z :: rest, _ =>
            simp only [List.cons_append, List.nil_append, List.cons.injEq] at heq
            obtain ⟨rfl, rfl, rfl, rfl, -⟩ := heq
            exact ⟨rest, rfl⟩

theorem Agent.configGoesOn_of_append {between : List Char}
    (hne : a.spec.config ≠ b.spec.config)
    (hconfig : b.spec.config.toList = a.spec.config.toList ++ between)
    (heq : a.behindConfig.toList = between ++ b.behindConfig.toList) : a.ConfigGoesOn b := by
  have hbetween : between ≠ [] := by
    rintro rfl
    exact hne (String.toList_injective (by simpa using hconfig.symm))
  obtain ⟨rest, rfl⟩ := exists_of_behindConfig_eq hbetween heq
  refine ⟨String.ofList rest, String.toList_injective ?_⟩
  simp [hconfig]

/-- Of two pairs of texts that are joined to one text, one configuration goes on from the
other unless the pairs are the same. -/
theorem Agent.configGoesOn_of_hashedText_eq (heq : a.hashedText = b.hashedText) :
    (a.spec.config = b.spec.config ∧ a.spec.otelConfig = b.spec.otelConfig) ∨
      a.ConfigGoesOn b ∨ b.ConfigGoesOn a := by
  rw [hashedText_eq, hashedText_eq] at heq
  by_cases hconfig : a.spec.config = b.spec.config
  · rw [hconfig, String.append_right_inj] at heq
    exact .inl ⟨hconfig, otelConfig_eq_of_behindConfig_eq heq⟩
  · have hchars := congrArg String.toList heq
    rw [String.toList_append, String.toList_append] at hchars
    rcases List.append_eq_append_iff.mp hchars with ⟨between, hb, hrest⟩ | ⟨between, ha, hrest⟩
    · exact .inr (.inl (configGoesOn_of_append hconfig hb hrest))
    · exact .inr (.inr (configGoesOn_of_append (Ne.symm hconfig) ha hrest))

theorem Agent.SameButTexts.eq_of_texts (hsame : a.SameButTexts b)
    (hconfig : a.spec.config = b.spec.config)
    (hotel : a.spec.otelConfig = b.spec.otelConfig) : a = b := by
  unfold SameButTexts at hsame
  rw [← hconfig, ← hotel] at hsame
  exact hsame.symm

/-! ## What a template tells -/

/-- The pods of the agents are told the same: one joined text, as many files, the ports and
where to be watched. -/
structure Context.RunsAlike (c e : Context) : Prop where
  text : c.agent.hashedText = e.agent.hashedText
  pipelines : c.pipelines?.isSome = e.pipelines?.isSome
  listing : c.listing = e.listing
  monitoringPort : c.monitoringPort = e.monitoringPort

theorem PodTemplate.get?_configHash (c : Context) :
    (annotationsOf c).get? configHashKey = some c.agent.configHash :=
  get?_annotationsOf_of_mem (by simp [operatorAnnotations])

theorem PodTemplate.length_filesOf (c : Context) :
    (filesOf c).length = if c.pipelines?.isSome then 2 else 1 := by
  unfold filesOf
  cases c.pipelines? <;> rfl

theorem PodTemplate.isSome_pipelines?_eq {c e : Context}
    (heq : (filesOf c).length = (filesOf e).length) :
    c.pipelines?.isSome = e.pipelines?.isSome := by
  rw [length_filesOf, length_filesOf] at heq
  cases hc : c.pipelines? <;> cases he : e.pipelines? <;> simp [hc, he] at heq ⊢

theorem Text.eq_of_toString_int_eq {m n : Int} (hm : 0 ≤ m) (hn : 0 ≤ n)
    (heq : toString m = toString n) : m = n := by
  obtain ⟨i, rfl⟩ := Int.eq_ofNat_of_zero_le hm
  obtain ⟨j, rfl⟩ := Int.eq_ofNat_of_zero_le hn
  exact congrArg Nat.cast (eq_of_toString_eq heq)

/-- The texts of the agents have no collision of digests. -/
def Agent.DigestsApart (a b : Agent) : Prop :=
  Digest.sha256 a.hashedText.toUTF8.toList = Digest.sha256 b.hashedText.toUTF8.toList →
    a.hashedText.toUTF8.toList = b.hashedText.toUTF8.toList

theorem Agent.hashedText_eq_of_configHash_eq (hapart : a.DigestsApart b)
    (heq : a.configHash = b.configHash) : a.hashedText = b.hashedText :=
  Digest.bytes_injective (hapart (Digest.sha256_eq_of_text_eq heq))

/-- What pods are told can be read off their template. -/
theorem Context.runsAlike_of_template_eq (hapart : c.agent.DigestsApart e.agent)
    (hc : 0 ≤ c.monitoringPort) (he : 0 ≤ e.monitoringPort)
    (heq : (PodTemplate.ofContext c).toJson = (PodTemplate.ofContext e).toJson) :
    c.RunsAlike e := by
  have hannotation : ∀ key, ((PodTemplate.annotationsOf c).get? key).map Json.str =
      ((PodTemplate.annotationsOf e).get? key).map Json.str := by
    intro key
    have hread := congrArg (Json.at? · ["metadata", "annotations", key]) heq
    simp only [PodTemplate.at?_annotation] at hread
    exact hread
  refine ⟨?text, ?pipelines, ?listing, ?monitoringPort⟩
  case text =>
    have hhash := hannotation configHashKey
    rw [PodTemplate.get?_configHash, PodTemplate.get?_configHash] at hhash
    exact Agent.hashedText_eq_of_configHash_eq hapart (by simpa using hhash)
  case pipelines =>
    obtain ⟨volume, hvolume, hsources⟩ := (PodTemplate.ofContext c).exists_volume
    obtain ⟨other, hother, hothers⟩ := (PodTemplate.ofContext e).exists_volume
    rw [heq, hother] at hvolume
    obtain rfl := List.singleton_inj.mp hvolume
    rw [hsources] at hothers
    have hlength := congrArg List.length hothers
    rw [List.length_map, List.length_map] at hlength
    exact PodTemplate.isSome_pipelines?_eq hlength
  case listing =>
    have hcontainers := congrArg (Json.listAt · ["spec", "containers"]) heq
    simp only [PodTemplate.listAt_containers, List.singleton_inj] at hcontainers
    have hlisted : c.listing.map some = e.listing.map some := by
      rw [← Container.map_listedPort? c, ← Container.map_listedPort? e]
      exact congrArg (fun k => (Json.listAt k ["ports"]).map _) hcontainers
    exact (List.map_inj_right fun _ _ => Option.some.inj).mp hlisted
  case monitoringPort =>
    have hport := hannotation "prometheus.io/port"
    rw [PodTemplate.get?_monitoringPort, PodTemplate.get?_monitoringPort] at hport
    exact Text.eq_of_toString_int_eq hc he (by simpa using hport)

theorem Protocol.name_injective {p q : Protocol} (heq : p.name = q.name) : p = q := by
  revert heq
  cases p <;> cases q <;> decide

theorem Container.ports_eq_of_listing_eq (heq : c.listing = e.listing) :
    (ofContext c).ports = (ofContext e).ports := by
  have hlisting : ∀ c : Context, c.listing =
      (ofContext c).ports.map fun p => (p.name, p.protocol.name, p.containerPort) := by
    intro c
    unfold ofContext
    rw [List.map_map]
    rfl
  rw [hlisting, hlisting] at heq
  refine (List.map_inj_right ?_).mp heq
  rintro ⟨name, number, protocol⟩ ⟨name', number', protocol'⟩ htriple
  simp only [Prod.mk.injEq] at htriple
  obtain ⟨rfl, hprotocol, rfl⟩ := htriple
  rw [Protocol.name_injective hprotocol]

theorem PodTemplate.filesOf_eq (hname : c.name = e.name)
    (heq : c.pipelines?.isSome = e.pipelines?.isSome) : filesOf c = filesOf e := by
  unfold filesOf Context.childName
  rw [hname]
  cases hc : c.pipelines? <;> cases he : e.pipelines? <;> simp [hc, he] at heq ⊢

/-- Agents that differ in their texts alone have one template if their pods are told the
same. -/
theorem PodTemplate.ofContext_eq (hsame : c.agent.SameButTexts e.agent)
    (hconfig : c.config = e.config) (halike : c.RunsAlike e) : ofContext c = ofContext e := by
  have hname : c.name = e.name := (congrArg Agent.name hsame).symm
  have hfiles := filesOf_eq hname halike.pipelines
  have hports := Container.ports_eq_of_listing_eq halike.listing
  have hhash := congrArg Digest.sha256Text halike.text
  obtain ⟨agent, config, ports, monitoringPort⟩ := c
  obtain ⟨other, config', ports', monitoringPort'⟩ := e
  obtain ⟨text, otel, rfl⟩ : ∃ text otel, other =
      { agent with spec := { agent.spec with config := text, otelConfig := otel } } :=
    ⟨_, _, hsame⟩
  obtain rfl : config = config' := hconfig
  obtain rfl : monitoringPort = monitoringPort' := halike.monitoringPort
  dsimp only [ofContext]
  rw [PodTemplate.mk.injEq]
  refine ⟨rfl, ?_, rfl, ?_, hfiles, rfl, rfl, rfl, rfl⟩
  · unfold annotationsOf Agent.configHash
    rw [hhash]
    rfl
  · dsimp only [Container.ofContext]
    rw [Container.mk.injEq]
    exact ⟨rfl, rfl, rfl, hports, rfl⟩

/-! ## Changed texts -/

theorem Context.podTemplate?_eq_iff (hsame : c.agent.SameButTexts e.agent)
    (hconfig : c.config = e.config) (hmode : c.mode ≠ .sidecar)
    (hapart : c.agent.DigestsApart e.agent) (hc : 0 ≤ c.monitoringPort)
    (he : 0 ≤ e.monitoringPort) : c.podTemplate? = e.podTemplate? ↔ c.RunsAlike e := by
  have hmodes : e.mode = c.mode := congrArg (fun agent => agent.spec.mode) hsame
  rw [podTemplate?_eq hmode, podTemplate?_eq (hmodes ▸ hmode), Option.some.injEq]
  constructor
  · exact runsAlike_of_template_eq hapart hc he
  · intro halike
    rw [PodTemplate.ofContext_eq hsame hconfig halike]

/-- The pods of an agent whose texts are changed, and nothing else, are rolled unless they are
told the same as before, of which the texts are one part, joined.  So they are rolled whenever
the config maps change and neither configuration goes on from the other with the beginning of
the mark. -/
theorem pods_roll_iff (hsame : a.SameButTexts b) (hmode : a.spec.mode ≠ .sidecar)
    (hapart : a.DigestsApart b) (config : OperatorConfig) (families : List Family) :
    ((Context.ofAgent a config families).podTemplate? ≠
        (Context.ofAgent b config families).podTemplate? ↔
      ¬ (Context.ofAgent a config families).RunsAlike (Context.ofAgent b config families)) ∧
    ((Context.ofAgent a config families).configMaps ≠
        (Context.ofAgent b config families).configMaps →
      ¬ a.ConfigGoesOn b → ¬ b.ConfigGoesOn a →
      (Context.ofAgent a config families).podTemplate? ≠
        (Context.ofAgent b config families).podTemplate?) := by
  have hrange : ∀ agent : Agent, 0 ≤ (Context.ofAgent agent config families).monitoringPort := by
    intro agent
    have hlower := (Receiver.monitoringPort_range agent.spec.otelConfig).1
    exact Int.le_trans (by decide) hlower
  have htemplates := Context.podTemplate?_eq_iff (c := .ofAgent a config families)
    (e := .ofAgent b config families) hsame rfl hmode hapart (hrange a) (hrange b)
  refine ⟨not_congr htemplates, ?_⟩
  intro hmaps hforward hbackward heq
  rcases Agent.configGoesOn_of_hashedText_eq (htemplates.mp heq).text with
    ⟨htext, hotel⟩ | hgoes | hgoes
  · exact hmaps (by rw [hsame.eq_of_texts htext hotel])
  · exact hforward hgoes
  · exact hbackward hgoes

def Agent.texted (text otel : String) : Agent :=
  { metadata := { name := some "a", namespaceName := some "ns", uid := some "u" }
    spec := { config := text, otelConfig := some otel }
    status := none }

theorem Agent.not_configGoesOn_of_length_le
    (hlength : b.spec.config.length ≤ a.spec.config.length) : ¬ a.ConfigGoesOn b := by
  rintro ⟨rest, hconfig⟩
  have hmark : "\n---".length = 4 := rfl
  rw [hconfig, String.length_append, String.length_append] at hlength
  omega

set_option maxRecDepth 10000 in
theorem pods_roll_iff_texted :
    (Agent.texted "{}" "receivers: {}\n").SameButTexts (.texted "[]" "receivers: {}\n") ∧
      (Agent.texted "{}" "receivers: {}\n").DigestsApart (.texted "[]" "receivers: {}\n") ∧
      (Context.ofAgent (.texted "{}" "receivers: {}\n") {} Family.table).podTemplate? ≠
        (Context.ofAgent (.texted "[]" "receivers: {}\n") {} Family.table).podTemplate? := by
  have hsame : (Agent.texted "{}" "receivers: {}\n").SameButTexts
      (.texted "[]" "receivers: {}\n") := rfl
  have hapart : (Agent.texted "{}" "receivers: {}\n").DigestsApart
      (.texted "[]" "receivers: {}\n") := by
    unfold Agent.DigestsApart
    decide +kernel
  have hmaps : (Context.ofAgent (.texted "{}" "receivers: {}\n") {} Family.table).configMaps ≠
      (Context.ofAgent (.texted "[]" "receivers: {}\n") {} Family.table).configMaps := by
    decide +kernel
  refine ⟨hsame, hapart, (pods_roll_iff hsame (by decide) hapart {} Family.table).2 hmaps ?_ ?_⟩
  · exact Agent.not_configGoesOn_of_length_le (by decide)
  · exact Agent.not_configGoesOn_of_length_le (by decide)

set_option maxRecDepth 10000 in
/-- Texts that change places with the mark between them change both config maps, and no pod is
rolled. -/
theorem joined_texts_roll_no_pods :
    (Agent.texted "{}" "---\nreceivers: {}\n").SameButTexts
        (.texted "{}\n---" "receivers: {}\n") ∧
      (Agent.texted "{}" "---\nreceivers: {}\n").spec.isValid = true ∧
      (Agent.texted "{}\n---" "receivers: {}\n").spec.isValid = true ∧
      (Context.ofAgent (.texted "{}" "---\nreceivers: {}\n") {} Family.table).configMaps ≠
        (Context.ofAgent (.texted "{}\n---" "receivers: {}\n") {} Family.table).configMaps ∧
      (Context.ofAgent (.texted "{}" "---\nreceivers: {}\n") {} Family.table).podTemplate? =
        (Context.ofAgent (.texted "{}\n---" "receivers: {}\n") {} Family.table).podTemplate? := by
  refine ⟨rfl, by decide, by decide, by decide +kernel, by decide +kernel⟩

end AgentOperator
