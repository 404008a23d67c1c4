import AgentOperator.Proofs.Json.Record
import AgentOperator.Proofs.Reconcile.Carried
import AgentOperator.Proofs.Store.Calls
import AgentOperator.Reconcile.Apply

/-!
# Immutable fields under replacement

What is written over a live object has at an immutable field what the merge carried there,
and over it whatever the desired body holds under keys with a slash that lead into the
field: such a key is read as a path when the body is written, and not when it is merged.
Without one the field keeps its value and the server accepts the replacement.
-/

namespace AgentOperator

open Json (Path)

variable {d : Desired} {live target : Object} {body merged new value : Json} {path : Path}
  {kind : Kind} {field : String} {entries : List (String × Json)} {s : Store}

/-! ## Fields of the spec -/

/-- The fields of the spec of a body, none if it has no spec that is an object. -/
def Json.specFields (body : Json) : List (String × Json) :=
  ((Keyed.get? "spec" body.fieldsOrNone).getD .empty).fieldsOrNone

theorem Json.at?_spec (hindex : Json.index? field = none) (body : Json) :
    body.at? ["spec", field] = Keyed.get? field body.specFields := by
  rw [← Json.at?_asObject]
  unfold Json.asObject Json.specFields
  rw [Json.at?_obj_cons]
  cases Keyed.get? "spec" body.fieldsOrNone with
  | none => rfl
  | some spec => cases spec <;> simp [Json.at?, Json.child?, Json.fieldsOrNone, hindex]

theorem Json.at?_setAt_below (hindex : Json.index? field = none) (body : Json)
    (rest : Path) (new : Json) :
    (body.setAt ("spec" :: field :: rest) new).at? ["spec", field] =
      some (((body.at? ["spec", field]).getD .empty).setAt rest new) := by
  rw [Json.at?_spec hindex body, setAt_cons, at?_obj_cons, Keyed.get?_insert_self,
    Option.bind_some, setAt_cons, at?_obj_cons, Keyed.get?_insert_self]
  rfl

/-- What is written elsewhere than below a field of the spec, or in the place of the spec,
does not show in the field. -/
theorem Json.at?_setAt_elsewhere (hindex : Json.index? field = none) (body : Json)
    {segment : String} {rest : Path} (new : Json) (hspec : segment :: rest ≠ ["spec"])
    (hbelow : ¬ ["spec", field] <+: segment :: rest) :
    (body.setAt (segment :: rest) new).at? ["spec", field] = body.at? ["spec", field] := by
  rw [Json.at?_spec hindex, Json.at?_spec hindex body]
  unfold Json.specFields
  rw [setAt_cons, fieldsOrNone_obj]
  by_cases hsegment : segment = "spec"
  · subst hsegment
    rw [Keyed.get?_insert_self, Option.getD_some]
    cases rest with
    | nil => exact absurd rfl hspec
    | cons head tail =>
        have hne : field ≠ head := by
          rintro rfl
          exact hbelow ⟨tail, rfl⟩
        rw [setAt_cons, fieldsOrNone_obj, Keyed.get?_insert_of_ne hne]
  · have hne : "spec" ≠ segment := fun heq => hsegment heq.symm
    rw [Keyed.get?_insert_of_ne hne]

theorem Json.exists_spec_of_at? (hat : body.at? ["spec", field] = some value) :
    ∃ spec, Keyed.get? "spec" body.fieldsOrNone = some spec ∧ spec.at? [field] = some value := by
  rw [← Json.at?_asObject] at hat
  exact Option.bind_eq_some_iff.mp hat

theorem Kind.exists_specField (hpath : path ∈ kind.immutableFields) :
    ∃ field, path = ["spec", field] ∧ Json.index? field = none := by
  have hshape : ∀ path ∈ kind.immutableFields,
      path = ["spec", path.getLast?.getD ""] ∧ Json.index? (path.getLast?.getD "") = none := by
    cases kind <;> decide
  exact ⟨_, hshape path hpath⟩

/-! ## Keys with a slash -/

theorem Json.exists_toList_of_segmentsOf {key segment : String} {rest : Path}
    (hkey : Json.segmentsOf key = segment :: rest) :
    ∃ back, key.toList = segment.toList ++ back ∧ (rest = [] → back = []) := by
  unfold Json.segmentsOf at hkey
  obtain ⟨first, others, hsplit, rfl, rfl⟩ := List.map_eq_cons_iff.mp hkey
  have hjoined : ['/'].intercalate (key.toList.splitOn '/') = key.toList :=
    List.intercalate_splitOn '/'
  rw [hsplit] at hjoined
  rw [← hjoined, String.toList_ofList]
  cases others with
  | nil => exact ⟨[], by simp [List.intercalate], fun _ => rfl⟩
  | cons next others => exact ⟨_, rfl, fun hnil => by simp at hnil⟩

theorem Json.segmentsOf_ne_nil (key : String) : Json.segmentsOf key ≠ [] := by
  unfold Json.segmentsOf
  simp

/-- A key does not come before its own first segment. -/
theorem Json.not_lt_of_segmentsOf {key segment : String} {rest : Path}
    (hkey : Json.segmentsOf key = segment :: rest) : ¬ key < segment := by
  obtain ⟨back, hback, -⟩ := Json.exists_toList_of_segmentsOf hkey
  rw [String.lt_iff, hback]
  exact List.le_append_left

theorem Json.eq_of_segmentsOf {key segment : String}
    (hkey : Json.segmentsOf key = [segment]) : key = segment := by
  obtain ⟨back, hback, hnil⟩ := Json.exists_toList_of_segmentsOf hkey
  rw [hnil rfl, List.append_nil] at hback
  exact String.toList_inj.mp hback

/-- The keys that lead into a field when they are read as paths. -/
def Json.leadsInto (path : Path) (key : String) : Bool := path.isPrefixOf (Json.segmentsOf key)

theorem Json.leadsInto_spec (field : String) : Json.leadsInto ["spec", field] "spec" = false := by
  simp [Json.leadsInto, Json.segmentsOf_spec]

theorem Json.leadsInto_of_lt {key : String} (hlt : key < "spec") (field : String) :
    Json.leadsInto ["spec", field] key = false := by
  cases hleads : Json.leadsInto ["spec", field] key with
  | false => rfl
  | true =>
      obtain ⟨rest, hrest⟩ := List.isPrefixOf_iff_prefix.mp hleads
      exact absurd hlt (Json.not_lt_of_segmentsOf hrest.symm)

/-- A value at a field after the entries whose keys lead into the field are written. -/
def Json.overwrittenAt (path : Path) (entries : List (String × Json)) (value : Json) : Json :=
  (entries.filter fun entry => Json.leadsInto path entry.1).foldl
    (fun held entry => held.setAt ((Json.segmentsOf entry.1).drop path.length) entry.2) value

theorem Json.overwrittenAt_of_forall
    (hnone : ∀ entry ∈ entries, Json.leadsInto path entry.1 = false) (value : Json) :
    Json.overwrittenAt path entries value = value := by
  unfold Json.overwrittenAt
  rw [List.filter_eq_nil_iff.mpr fun entry hmem => by simp [hnone entry hmem]]
  rfl

theorem Json.overwrittenAt_append (before after : List (String × Json)) (value : Json) :
    Json.overwrittenAt path (before ++ after) value =
      Json.overwrittenAt path after (Json.overwrittenAt path before value) := by
  unfold Json.overwrittenAt
  rw [List.filter_append, List.foldl_append]

theorem Json.overwrittenAt_cons (entry : String × Json) (others : List (String × Json))
    (value : Json) :
    Json.overwrittenAt path (entry :: others) value =
      Json.overwrittenAt path others
        (if Json.leadsInto path entry.1 then
          value.setAt ((Json.segmentsOf entry.1).drop path.length) entry.2
        else value) := by
  unfold Json.overwrittenAt
  rw [List.filter_cons]
  split
  · rw [List.foldl_cons]
  · rfl

/-- Once the spec is written, only the keys that lead into a field still change it. -/
theorem Json.at?_foldl_setAt (hindex : Json.index? field = none)
    (hspec : ∀ entry ∈ entries, entry.1 ≠ "spec")
    (hat : body.at? ["spec", field] = some value) :
    (entries.foldl (fun body entry => body.setAt (Json.segmentsOf entry.1) entry.2) body).at?
        ["spec", field] =
      some (Json.overwrittenAt ["spec", field] entries value) := by
  -- The invariant is that the field has a value, the one that the entries so far made of it.
  induction entries generalizing body value with
  | nil => exact hat
  | cons entry others ih =>
      rw [List.forall_mem_cons] at hspec
      obtain ⟨hfirst, hothers⟩ := hspec
      rw [List.foldl_cons, Json.overwrittenAt_cons]
      apply ih hothers
      cases hleads : Json.leadsInto ["spec", field] entry.1 with
      | true =>
          obtain ⟨rest, hrest⟩ := List.isPrefixOf_iff_prefix.mp hleads
          have hsegments : Json.segmentsOf entry.1 = "spec" :: field :: rest := hrest.symm
          rw [hsegments, Json.at?_setAt_below hindex, hat, Option.getD_some]
          rfl
      | false =>
          rw [if_neg Bool.false_ne_true, ← hat]
          obtain ⟨segment, rest, hsegments⟩ :=
            List.exists_cons_of_ne_nil (Json.segmentsOf_ne_nil entry.1)
          rw [hsegments]
          apply Json.at?_setAt_elsewhere hindex
          · intro honly
            exact hfirst (Json.eq_of_segmentsOf (hsegments.trans honly))
          · intro hbelow
            rw [← hsegments] at hbelow
            have hinto := List.isPrefixOf_iff_prefix.mpr hbelow
            exact Bool.false_ne_true (hleads.symm.trans hinto)

/-- What is written has at a field of the spec the desired value, with what the keys that
lead into the field put over it. -/
theorem at?_overlayBody_specField {desired : Json} (hindex : Json.index? field = none)
    (hordered : Keyed.Ordered desired.fieldsOrNone)
    (hat : desired.at? ["spec", field] = some value) (live : Json) :
    (overlayBody live desired).at? ["spec", field] =
      some (Json.overwrittenAt ["spec", field] desired.fieldsOrNone value) := by
  obtain ⟨spec, hspec, hfield⟩ := Json.exists_spec_of_at? hat
  obtain ⟨before, after, hentries⟩ := List.append_of_mem (Keyed.mem_of_get? hspec)
  have hdistinct := hordered.distinct
  unfold overlayBody
  rw [hentries] at hordered hdistinct ⊢
  obtain ⟨-, -, hbefore⟩ := List.pairwise_append.mp hordered
  -- The keys are in order, so all that is written into the spec is written after the spec.
  have hquiet : ∀ entry ∈ before, Json.leadsInto ["spec", field] entry.1 = false :=
    fun entry hmem => Json.leadsInto_of_lt (hbefore entry hmem _ List.mem_cons_self) field
  have hlater : ∀ entry ∈ after, entry.1 ≠ "spec" := fun entry hmem =>
    (List.rel_of_pairwise_cons (List.pairwise_append.mp hdistinct).2.1 hmem).symm
  rw [Json.overwrittenAt_append, Json.overwrittenAt_of_forall hquiet,
    Json.overwrittenAt_cons, Json.leadsInto_spec, if_neg Bool.false_ne_true,
    List.foldl_append, List.foldl_cons]
  apply Json.at?_foldl_setAt hindex hlater
  rw [Json.segmentsOf_spec, Json.setAt_single, Json.at?_obj_cons, Keyed.get?_insert_self,
    Option.bind_some, hfield]

/-! ## Merged and written -/

/-- The keys of a body that lead into a field are those of another, with their values. -/
structure Json.SameInto (path : Path) (body merged : Json) : Prop where
  ordered : Keyed.Ordered merged.fieldsOrNone
  entries : merged.fieldsOrNone.filter (fun entry => Json.leadsInto path entry.1) =
    body.fieldsOrNone.filter fun entry => Json.leadsInto path entry.1

theorem Json.SameInto.setAt (hsame : Json.SameInto ["spec", field] body merged)
    (other : String) (value : Json) :
    Json.SameInto ["spec", field] body (merged.setAt ["spec", other] value) := by
  refine ⟨hsame.ordered.insert _ _, ?_⟩
  rw [Json.setAt_cons, Json.fieldsOrNone_obj, Keyed.filter_insert (Json.leadsInto_spec field),
    hsame.entries]

/-- A merge adds no keys that lead into a field. -/
theorem mergeFields_sameInto {live : Json} {conflict : Option Path}
    (hmerge : mergeFields live kind.immutableFields body = (conflict, merged))
    (hordered : Keyed.Ordered body.fieldsOrNone) (field : String) :
    Json.SameInto ["spec", field] body merged := by
  have hset : ∀ path ∈ kind.immutableFields, ∀ value, live.at? path = some value →
      ∀ held, Json.SameInto ["spec", field] body held →
        Json.SameInto ["spec", field] body (held.setAt path value) := by
    intro path hmem value _ held hheld
    obtain ⟨other, rfl⟩ := Kind.immutableFields_below_spec hmem
    exact hheld.setAt other value
  have hmerged := mergeFields_preserves _ hset ⟨hordered, rfl⟩
  rwa [hmerge] at hmerged

theorem applyOver_of_disagreesAt {σ : Type} (cluster : Cluster σ)
    (hspec : d.object.body.HasOpenSpec) (hpath : path ∈ d.kind.immutableFields)
    (hdisagrees : disagreesAt live.body d.object.body path = true) :
    applyOver cluster d live = do
      cluster.delete d.kind d.namespaceName d.object.name
      return (.immutableConflict, none) := by
  rcases hmerge : mergeImmutable d.kind live d.object with ⟨conflict, target⟩
  obtain ⟨hfields, -⟩ := mergeImmutable_eq hmerge
  have hfirst := mergeFields_fst_of_hasOpenSpec live.body d.kind hspec
  rw [hfields] at hfirst
  cases conflict with
  | none => exact absurd hdisagrees (List.find?_eq_none.mp hfirst.symm path hpath)
  | some found =>
      unfold applyOver
      rw [hmerge]

theorem at?_updatedObject_of_merge (hspec : d.object.body.HasOpenSpec)
    (hordered : Keyed.Ordered d.object.body.fieldsOrNone)
    (hpath : path ∈ d.kind.immutableFields)
    (hlive : Json.content? (live.body.at? path) = some value)
    (hmerge : mergeImmutable d.kind live d.object = (none, target)) :
    ∃ carried, (carried == value) = true ∧
      carriedValue (live.body.at? path) (d.object.body.at? path) = some carried ∧
      (updatedObject live target).body.at? path =
        some (Json.overwrittenAt path d.object.body.fieldsOrNone carried) := by
  obtain ⟨hfields, -⟩ := mergeImmutable_eq hmerge
  obtain ⟨hcarried, hagree⟩ := mergeFields_eq_none_of_hasOpenSpec hspec hfields path hpath
  obtain ⟨carried, hcontent, hsame⟩ :=
    exists_content_carriedValue hlive fun wanted => hagree value wanted hlive
  have hvalue := (Json.content?_eq_some_iff.mp hcontent).1
  rw [hvalue] at hcarried
  obtain ⟨field, rfl, hindex⟩ := Kind.exists_specField hpath
  obtain ⟨htarget, hentries⟩ := mergeFields_sameInto hfields hordered field
  refine ⟨carried, hsame, hvalue, ?_⟩
  unfold Json.overwrittenAt
  rw [← hentries]
  exact at?_overlayBody_specField hindex htarget hcarried live.body

/-! ## What the server accepts -/

theorem changesAddress_updatedObject
    (hlive : live.body.at? ["spec", "clusterIP"] = some value)
    (hnew : (updatedObject live target).body.at? ["spec", "clusterIP"] = some new) :
    Store.changesAddress .service live (updatedObject live target) = !(new == value) := by
  unfold Store.changesAddress
  rw [hlive, hnew]
  rfl

theorem replaced_updatedObject (hstored : s.get? (.ofObject kind live) = some live)
    (target : Object) :
    Store.replaced kind (updatedObject live target) s =
      if Store.changesAddress kind live (updatedObject live target) then
        (.error (Store.fault 422 "Invalid"), s)
      else
        (.ok (s.nextObject live (updatedObject live target)),
          s.withWritten (.ofObject kind live)
            (s.nextObject live (updatedObject live target))) :=
  Store.replaced_of_live hstored rfl

/-- A write over the live object is rejected as invalid only if it changes an address. -/
theorem changesAddress_of_rejected (hstored : s.get? (.ofObject kind live) = some live)
    (hrejected : (Action.run (Store.cluster.replace kind (updatedObject live target)) s).1 =
      .error (Store.fault 422 "Invalid")) :
    Store.changesAddress kind live (updatedObject live target) = true := by
  have hreplaced := replaced_updatedObject hstored target
  rcases Store.run_guarded_or_injected (updatedObject live target).name
    (Store.replaced kind (updatedObject live target)) s with hrun | ⟨_, _, hrun, -, hinjected⟩
  · have htried := (congrArg Prod.fst hrun).symm.trans hrejected
    rw [hreplaced] at htried
    split at htried
    next hchanges => exact hchanges
    next => simp at htried
  · obtain rfl := Except.error.inj ((congrArg Prod.fst hrun).symm.trans hrejected)
    simp [Store.IsInjected, Store.fault] at hinjected

theorem rejected_of_changesAddress (hs : s.Faultless)
    (hstored : s.get? (.ofObject kind live) = some live)
    (hchanges : Store.changesAddress kind live (updatedObject live target) = true) :
    (Action.run (Store.cluster.replace kind (updatedObject live target)) s).1 =
      .error (Store.fault 422 "Invalid") := by
  have hreplaced := replaced_updatedObject hstored target
  rw [if_pos hchanges] at hreplaced
  calc
    (Action.run (Store.cluster.replace kind (updatedObject live target)) s).1
        = (Store.replaced kind (updatedObject live target) s).1 :=
          congrArg Prod.fst (hs.run_guarded _ _)
    _ = .error (Store.fault 422 "Invalid") := congrArg Prod.fst hreplaced

/-- Where a live object has content at an immutable field, a desired object with other
content there is not written at all.  What is written of any other one has there the
carried value, equal to the live one, with what keys that lead into the field put over it:
without such keys the field is kept.  The server rejects the write of a service only if
its address is not kept, and without faults it then does. -/
theorem overwriting_keeps_iff (hspec : d.object.body.HasOpenSpec)
    (hcanonical : d.object.body.Canonical) (hpath : path ∈ d.kind.immutableFields)
    (hlive : Json.content? (live.body.at? path) = some value) :
    (disagreesAt live.body d.object.body path = true →
      ∀ {σ : Type} (cluster : Cluster σ), applyOver cluster d live = do
        cluster.delete d.kind d.namespaceName d.object.name
        return (.immutableConflict, none)) ∧
    ∀ target, mergeImmutable d.kind live d.object = (none, target) →
      ∃ carried new : Json, (carried == value) = true ∧
        carriedValue (live.body.at? path) (d.object.body.at? path) = some carried ∧
        (updatedObject live target).body.at? path = some new ∧
        new = Json.overwrittenAt path d.object.body.fieldsOrNone carried ∧
        ((∀ entry ∈ d.object.body.fieldsOrNone, Json.leadsInto path entry.1 = false) →
          new = carried) ∧
        (d.kind = .service → path = ["spec", "clusterIP"] →
          ∀ s : Store, s.get? (.ofObject .service live) = some live →
            ((Action.run (Store.cluster.replace .service (updatedObject live target)) s).1 =
                .error (Store.fault 422 "Invalid") → (new == value) = false) ∧
            (s.Faultless → (new == value) = false →
              (Action.run (Store.cluster.replace .service (updatedObject live target)) s).1 =
                .error (Store.fault 422 "Invalid"))) := by
  constructor
  · exact fun hdisagrees _ cluster => applyOver_of_disagreesAt cluster hspec hpath hdisagrees
  · intro target hmerge
    have hordered := hcanonical.fieldsOrNone.ordered
    obtain ⟨carried, hsame, hcarried, hnew⟩ :=
      at?_updatedObject_of_merge hspec hordered hpath hlive hmerge
    refine ⟨carried, _, hsame, hcarried, hnew, rfl, ?_, ?_⟩
    · exact fun hnone => Json.overwrittenAt_of_forall hnone carried
    · rintro - rfl s hstored
      have hchanges :=
        changesAddress_updatedObject (Json.content?_eq_some_iff.mp hlive).1 hnew
      refine ⟨fun hrejected => ?_, fun hs hdiffers => ?_⟩
      · have hchanged := changesAddress_of_rejected hstored hrejected
        rw [hchanges] at hchanged
        simpa using hchanged
      · apply rejected_of_changesAddress hs hstored
        rw [hchanges, hdiffers]
        rfl

/-! ## Services that keep and lose their address -/

def Store.holding (live : Object) : Store :=
  ({} : Store).put (.ofObject .service live) live

theorem Store.get?_holding (live : Object) :
    (Store.holding live).get? (.ofObject .service live) = some live :=
  Store.get?_of_putEntry (s := {}) rfl

theorem Store.faultless_holding (live : Object) : (Store.holding live).Faultless :=
  ⟨rfl, Store.faultless_empty.conflicts, rfl⟩

theorem overwriting_keeps_iff_relisted :
    ∃ target,
      mergeImmutable .service Service.located Service.relisted = (none, target) ∧
      (updatedObject Service.located target).body.at? ["spec", "clusterIP"] =
        some (.str "10.0.0.7") ∧
      (Action.run
        (Store.cluster.replace .service (updatedObject Service.located target))
        (Store.holding Service.located)).1 ≠ .error (Store.fault 422 "Invalid") := by
  have hspec : Service.relisted.body.HasOpenSpec :=
    fun spec hfound => ⟨_, (Option.some.inj hfound).symm⟩
  have hcanonical : Service.relisted.body.Canonical := by
    show (Json.mkObj [("spec", .mkObj [("ports", .arr [])])]).Canonical
    simp
  have hnone : ∀ entry ∈ Service.relisted.body.fieldsOrNone,
      Json.leadsInto ["spec", "clusterIP"] entry.1 = false := by
    intro entry hmem
    obtain rfl := List.mem_singleton.mp hmem
    exact Json.leadsInto_spec "clusterIP"
  have hpath : ["spec", "clusterIP"] ∈ Kind.service.immutableFields := by decide
  have hlive : Json.content? (Service.located.body.at? ["spec", "clusterIP"]) =
      some (.str "10.0.0.7") := rfl
  obtain ⟨-, hwritten⟩ := overwriting_keeps_iff
    (d := ⟨.service, Service.relisted⟩) hspec hcanonical hpath hlive
  obtain ⟨carried, new, hsame, hcarried, hnew, -, hkept, hserver⟩ := hwritten _ rfl
  obtain rfl := hkept hnone
  obtain rfl : .str "10.0.0.7" = new := Option.some.inj hcarried
  refine ⟨_, rfl, hnew, fun hrejected => ?_⟩
  obtain ⟨hinvalid, -⟩ := hserver rfl rfl _ (Store.get?_holding _)
  exact Bool.false_ne_true ((hinvalid hrejected).symm.trans hsame)

/-- A service without an address, but with one under a key with a slash. -/
def Service.slashed : Object :=
  Service.withFields [("spec", .empty), ("spec/clusterIP", .str "None")]

theorem slashed_key_overwrites_address :
    Service.slashed.body.HasOpenSpec ∧
    Json.content? (Service.located.body.at? ["spec", "clusterIP"]) = some (.str "10.0.0.7") ∧
    ∃ target,
      mergeImmutable .service Service.located Service.slashed = (none, target) ∧
      (updatedObject Service.located target).body.at? ["spec", "clusterIP"] =
        some (.str "None") ∧
      (Action.run
        (Store.cluster.replace .service (updatedObject Service.located target))
        (Store.holding Service.located)).1 = .error (Store.fault 422 "Invalid") := by
  refine ⟨?_, rfl, _, rfl, rfl, ?_⟩
  · exact fun spec hfound => ⟨_, (Option.some.inj hfound).symm⟩
  · apply rejected_of_changesAddress (Store.faultless_holding _) (Store.get?_holding _)
    have hlive : Service.located.body.at? ["spec", "clusterIP"] = some (.str "10.0.0.7") := rfl
    refine (changesAddress_updatedObject hlive (?_ : _ = some (.str "None"))).trans ?_
    · rfl
    · decide

end AgentOperator
