import AgentOperator.Proofs.Reconcile.Settled

/-!
# What a merge carries over

Whatever a desired object holds beside its spec, a merge ends at the first immutable
field on which both sides have content and differ.  If there is none, each immutable
field has the live value where that has content and the desired one elsewhere, everything
else is as it is desired if that is no array, and merging again finds nothing more to do.
-/

namespace AgentOperator

open Json (Path)
open Kind (Incomparable)

variable {live body target merged value : Json} {paths : List Path} {path other : Path}
  {kind : Kind}

/-! ## Bodies whose spec is not in the way -/

theorem takesFields_of_hasOpenSpec {fields : List (String × Json)}
    (hspec : (Json.obj fields).HasOpenSpec) (kind : Kind) :
    TakesFields (.obj fields) kind.immutableFields := by
  refine ⟨kind.immutableFields_pairwise, ?_⟩
  intro path hmem
  obtain ⟨field, rfl⟩ := Kind.immutableFields_below_spec hmem
  exact hspec.isOpenTo field

theorem Json.HasOpenSpec.asObject (hspec : body.HasOpenSpec) : body.asObject.HasOpenSpec := by
  cases body with
  | obj fields => exact hspec
  | _ =>
      intro spec hfound
      simp [Json.asObject, Json.fieldsOrNone, Json.field?, Keyed.get?] at hfound

/-! ## The first disagreement -/

/-- Both values have content at the path, and not the same. -/
def disagreesAt (live desired : Json) (path : Path) : Bool :=
  match Json.content? (live.at? path), Json.content? (desired.at? path) with
  | some value, some wanted => !(wanted == value)
  | _, _ => false

theorem disagreesAt_congr (hsame : target.at? path = body.at? path) :
    disagreesAt live target path = disagreesAt live body path := by
  unfold disagreesAt
  rw [hsame]

theorem find?_disagreesAt_congr (hsame : ∀ path ∈ paths, target.at? path = body.at? path) :
    paths.find? (disagreesAt live target) = paths.find? (disagreesAt live body) := by
  induction paths with
  | nil => rfl
  | cons path rest ih =>
      rw [List.find?_cons, List.find?_cons,
        disagreesAt_congr (hsame path List.mem_cons_self),
        ih fun other hmem => hsame other (List.mem_cons_of_mem _ hmem)]

theorem mergeFields_fst (htakes : TakesFields body paths) :
    (mergeFields live paths body).1 = paths.find? (disagreesAt live body) := by
  induction paths generalizing body with
  | nil => rfl
  | cons path rest ih =>
      rw [List.find?_cons]
      cases hlive : Json.content? (live.at? path) with
      | none =>
          have hagrees : disagreesAt live body path = false := by simp [disagreesAt, hlive]
          rw [mergeFields_cons_of_live_none hlive, hagrees]
          exact ih htakes.tail
      | some value =>
          cases hbody : Json.content? (body.at? path) with
          | none =>
              have hagrees : disagreesAt live body path = false := by
                simp [disagreesAt, hlive, hbody]
              rw [mergeFields_cons_of_target_none hlive hbody, hagrees,
                ih (htakes.setAt value)]
              exact find?_disagreesAt_congr fun other hmem => htakes.at?_setAt value hmem
          | some wanted =>
              have hdisagrees : disagreesAt live body path = !(wanted == value) := by
                simp [disagreesAt, hlive, hbody]
              rw [mergeFields_cons_of_both hlive hbody, hdisagrees]
              cases hsame : wanted == value with
              | true => exact ih htakes.tail
              | false => rfl

/-! ## Merging again -/

/-- Where a body holds all that the live value has at the paths, nothing is carried. -/
theorem mergeFields_of_held
    (hheld : ∀ path ∈ paths, ∀ value, Json.content? (live.at? path) = some value →
      ∃ wanted, Json.content? (body.at? path) = some wanted ∧ (wanted == value) = true) :
    mergeFields live paths body = (none, body) := by
  induction paths with
  | nil => rfl
  | cons path rest ih =>
      rw [List.forall_mem_cons] at hheld
      obtain ⟨hfirst, hrest⟩ := hheld
      cases hlive : Json.content? (live.at? path) with
      | none =>
          rw [mergeFields_cons_of_live_none hlive]
          exact ih hrest
      | some value =>
          obtain ⟨wanted, hwanted, hsame⟩ := hfirst value hlive
          rw [mergeFields_cons_of_both hlive hwanted, if_pos hsame]
          exact ih hrest

/-! ## Bodies of any form -/

/-- A merge into any body is one into the object that it counts as, but for the body that
nothing is carried into. -/
theorem mergeFields_asObject (live : Json)
    (hpaths : ∀ path ∈ paths, ∃ field, path = ["spec", field])
    (htakes : TakesFields body.asObject paths) :
    ∃ conflict merged, mergeFields live paths body.asObject = (conflict, merged) ∧
      mergeFields live paths body =
        (conflict, if merged = body.asObject then body else merged) := by
  induction paths with
  | nil => exact ⟨none, _, rfl, by rw [if_pos rfl]; rfl⟩
  | cons path rest ih =>
      rw [List.forall_mem_cons] at hpaths
      obtain ⟨⟨field, rfl⟩, hrest⟩ := hpaths
      have hat := Json.at?_asObject body field
      cases hlive : Json.content? (live.at? ["spec", field]) with
      | none =>
          rw [mergeFields_cons_of_live_none hlive, mergeFields_cons_of_live_none hlive]
          exact ih hrest htakes.tail
      | some value =>
          cases hbody : Json.content? (body.at? ["spec", field]) with
          | none =>
              have hobject : Json.content? (body.asObject.at? ["spec", field]) = none := by
                rw [hat, hbody]
              rw [mergeFields_cons_of_target_none hlive hobject,
                mergeFields_cons_of_target_none hlive hbody]
              -- What is written first already makes an object of the body.
              have hwritten : body.setAt ["spec", field] value =
                  body.asObject.setAt ["spec", field] value := rfl
              rw [hwritten]
              rcases hmerge : mergeFields live rest
                (body.asObject.setAt ["spec", field] value) with ⟨conflict, merged⟩
              refine ⟨conflict, merged, rfl, ?_⟩
              rw [if_neg]
              rintro rfl
              have hkept : body.asObject.at? ["spec", field] =
                  (body.asObject.setAt ["spec", field] value).at? ["spec", field] :=
                mergeFields_at?_of_notMem (htakes.setAt value) hmerge fun other hmem =>
                  (htakes.incomparable hmem).symm
              rw [Json.at?_setAt_self, ← (Json.content?_eq_some_iff.mp hlive).1] at hkept
              rw [hkept, hlive] at hobject
              simp at hobject
          | some wanted =>
              have hobject : Json.content? (body.asObject.at? ["spec", field]) =
                  some wanted := by
                rw [hat, hbody]
              rw [mergeFields_cons_of_both hlive hobject,
                mergeFields_cons_of_both hlive hbody]
              split
              · exact ih hrest htakes.tail
              · exact ⟨_, _, rfl, by rw [if_pos rfl]⟩

/-! ## Exactly what is carried -/

theorem mergeFields_fst_of_hasOpenSpec (live : Json) (kind : Kind)
    (hspec : body.HasOpenSpec) :
    (mergeFields live kind.immutableFields body).1 =
      kind.immutableFields.find? (disagreesAt live body) := by
  have htakes : TakesFields body.asObject kind.immutableFields :=
    takesFields_of_hasOpenSpec hspec.asObject kind
  obtain ⟨conflict, merged, hobject, hmerge⟩ :=
    mergeFields_asObject live (fun _ => Kind.immutableFields_below_spec) htakes
  calc
    (mergeFields live kind.immutableFields body).1
        = (mergeFields live kind.immutableFields body.asObject).1 := by rw [hmerge, hobject]
    _ = kind.immutableFields.find? (disagreesAt live body.asObject) := mergeFields_fst htakes
    _ = kind.immutableFields.find? (disagreesAt live body) := by
        apply find?_disagreesAt_congr
        intro path hmem
        obtain ⟨field, rfl⟩ := Kind.immutableFields_below_spec hmem
        exact Json.at?_asObject body field

/-- A merge without conflict gives each immutable field the carried value, and the two
sides agree wherever both have content. -/
theorem mergeFields_eq_none_of_hasOpenSpec (hspec : body.HasOpenSpec)
    (hmerge : mergeFields live kind.immutableFields body = (none, merged)) :
    ∀ path ∈ kind.immutableFields,
      merged.at? path = carriedValue (live.at? path) (body.at? path) ∧
      ∀ value wanted, Json.content? (live.at? path) = some value →
        Json.content? (body.at? path) = some wanted → (wanted == value) = true := by
  have htakes : TakesFields body.asObject kind.immutableFields :=
    takesFields_of_hasOpenSpec hspec.asObject kind
  obtain ⟨conflict, carried, hobject, hbody⟩ :=
    mergeFields_asObject live (fun _ => Kind.immutableFields_below_spec) htakes
  rw [hmerge] at hbody
  obtain ⟨rfl, hmerged⟩ := Prod.mk.inj hbody
  intro path hmem
  have hcarried := mergeFields_eq_none htakes hobject path hmem
  obtain ⟨field, rfl⟩ := Kind.immutableFields_below_spec hmem
  rw [Json.at?_asObject] at hcarried
  refine ⟨?_, hcarried.2⟩
  rw [← hcarried.1, hmerged]
  split
  next hsame => rw [hsame, Json.at?_asObject]
  next => rfl

theorem Json.at?_asObject_of_ne_nil (harr : body.arr? = none) (hother : other ≠ []) :
    body.asObject.at? other = body.at? other := by
  obtain ⟨segment, rest, rfl⟩ := List.exists_cons_of_ne_nil hother
  cases body with
  | obj fields => rfl
  | arr elements => simp [Json.arr?] at harr
  | _ => rfl

/-- A merge leaves alone what lies neither above nor below an immutable field. -/
theorem mergeFields_at?_other (hspec : body.HasOpenSpec) (harr : body.arr? = none)
    {conflict : Option Path}
    (hmerge : mergeFields live kind.immutableFields body = (conflict, merged))
    (hother : ∀ path ∈ kind.immutableFields, Incomparable path other) :
    merged.at? other = body.at? other := by
  have htakes : TakesFields body.asObject kind.immutableFields :=
    takesFields_of_hasOpenSpec hspec.asObject kind
  obtain ⟨conflict', carried, hobject, hbody⟩ :=
    mergeFields_asObject live (fun _ => Kind.immutableFields_below_spec) htakes
  rw [hmerge] at hbody
  obtain ⟨rfl, rfl⟩ := Prod.mk.inj hbody
  split
  next => rfl
  next hcarried =>
    have hne : other ≠ [] := by
      rintro rfl
      cases hpaths : kind.immutableFields with
      | nil =>
          rw [hpaths] at hobject
          exact hcarried (Prod.mk.inj hobject).2.symm
      | cons path rest =>
          have hfirst := hother path (hpaths ▸ List.mem_cons_self)
          exact hfirst.2 List.nil_prefix
    rw [mergeFields_at?_of_notMem htakes hobject hother]
    exact Json.at?_asObject_of_ne_nil harr hne

theorem carriedValue_of_live_none {live desired : Option Json}
    (hlive : Json.content? live = none) : carriedValue live desired = desired := by
  simp [carriedValue, hlive]

/-- Where the live side has content, and the desired one none that differs, the carried
value is equal to the live one. -/
theorem exists_content_carriedValue {live desired : Option Json}
    (hlive : Json.content? live = some value)
    (hagree : ∀ wanted, Json.content? desired = some wanted → (wanted == value) = true) :
    ∃ held, Json.content? (carriedValue live desired) = some held ∧
      (held == value) = true := by
  cases hdesired : Json.content? desired with
  | none =>
      refine ⟨value, ?_, Json.beq_self value⟩
      rw [content?_carriedValue_of_none hdesired, hlive]
  | some wanted =>
      refine ⟨wanted, ?_, hagree wanted hdesired⟩
      rw [carriedValue_of_content hdesired, hdesired]

/-- A merge ends at the first immutable field on which both sides have content and
differ.  If there is none, the target has at each immutable field a value equal to the
live one where that has content, and what is desired elsewhere; the rest of it is as it is
desired, unless an array is desired; and merging it again changes nothing. -/
theorem mergeImmutable_exact (kind : Kind) (live : Object) {desired : Object}
    (hspec : desired.body.HasOpenSpec) :
    ∃ target,
      mergeImmutable kind live desired =
        (kind.immutableFields.find? (disagreesAt live.body desired.body), target) ∧
      (kind.immutableFields.find? (disagreesAt live.body desired.body) = none →
        target.types = desired.types ∧ target.metadata = desired.metadata ∧
        (∀ path ∈ kind.immutableFields,
          match Json.content? (live.body.at? path) with
          | some value => ∃ held, target.body.at? path = some held ∧ (held == value) = true
          | none => target.body.at? path = desired.body.at? path) ∧
        (desired.body.arr? = none → ∀ other,
          (∀ path ∈ kind.immutableFields, Incomparable path other) →
            target.body.at? other = desired.body.at? other) ∧
        mergeImmutable kind live target = (none, target)) := by
  rcases hmerge : mergeImmutable kind live desired with ⟨conflict, target⟩
  obtain ⟨hfields, htarget⟩ := mergeImmutable_eq hmerge
  have hfirst := mergeFields_fst_of_hasOpenSpec live.body kind hspec
  rw [hfields] at hfirst
  obtain rfl : conflict = _ := hfirst
  refine ⟨target, rfl, fun hnone => ?_⟩
  rw [hnone] at hfields
  have hcarried := mergeFields_eq_none_of_hasOpenSpec hspec hfields
  have hheld : ∀ path ∈ kind.immutableFields, ∀ value,
      Json.content? (live.body.at? path) = some value →
        ∃ held, Json.content? (target.body.at? path) = some held ∧
          (held == value) = true := by
    intro path hmem value hlive
    obtain ⟨hat, hagree⟩ := hcarried path hmem
    rw [hat]
    exact exists_content_carriedValue hlive fun wanted => hagree value wanted hlive
  refine ⟨?_, ?_, ?_, ?_, ?_⟩
  · rw [htarget]
  · rw [htarget]
  · intro path hmem
    cases hlive : Json.content? (live.body.at? path) with
    | some value =>
        obtain ⟨held, hcontent, hsame⟩ := hheld path hmem value hlive
        exact ⟨held, (Json.content?_eq_some_iff.mp hcontent).1, hsame⟩
    | none =>
        show target.body.at? path = desired.body.at? path
        rw [(hcarried path hmem).1, carriedValue_of_live_none hlive]
  · exact fun harr other hother => mergeFields_at?_other hspec harr hfields hother
  · unfold mergeImmutable
    rw [mergeFields_of_held hheld]

/-! ## A service that keeps its address -/

/-- A service with the given fields in its body. -/
def Service.withFields (fields : List (String × Json)) : Object :=
  { types := none
    metadata := { name := some "a", namespaceName := some "ns" }
    body := .obj fields }

/-- A service that has an address. -/
def Service.located : Object :=
  Service.withFields [("spec", .obj [("clusterIP", .str "10.0.0.7")])]

/-- What is desired of it: ports, and any address. -/
def Service.relisted : Object := Service.withFields [("spec", .obj [("ports", .arr [])])]

theorem mergeImmutable_exact_located :
    ∃ target held,
      mergeImmutable .service Service.located Service.relisted = (none, target) ∧
      target.body.at? ["spec", "clusterIP"] = some held ∧ (held == .str "10.0.0.7") = true ∧
      target.body.at? ["spec", "clusterIPs"] = none ∧
      target.body.at? ["spec", "ports"] = some (.arr []) ∧
      mergeImmutable .service Service.located target = (none, target) := by
  have hspec : Service.relisted.body.HasOpenSpec :=
    fun spec hfound => ⟨_, (Option.some.inj hfound).symm⟩
  have hnone : Kind.service.immutableFields.find?
      (disagreesAt Service.located.body Service.relisted.body) = none := by
    decide
  obtain ⟨target, hmerge, hrest⟩ := mergeImmutable_exact .service Service.located hspec
  obtain ⟨-, -, hvalues, hothers, hagain⟩ := hrest hnone
  rw [hnone] at hmerge
  obtain ⟨held, hheld, hsame⟩ := hvalues ["spec", "clusterIP"] (by decide)
  have hsecond := hvalues ["spec", "clusterIPs"] (by decide)
  have hports := hothers rfl ["spec", "ports"] (by decide)
  exact ⟨target, held, hmerge, hheld, hsame, hsecond, hports, hagain⟩

/-- What is desired of it as a body that is no object. -/
def Service.listed : Object := { Service.relisted with body := .arr [.int 1] }

/-- An array has no spec, and its elements are lost when an address is carried into it. -/
theorem mergeImmutable_drops_elements :
    Service.listed.body.HasOpenSpec ∧
    ∃ target,
      mergeImmutable .service Service.located Service.listed = (none, target) ∧
      Service.listed.body.at? ["0"] = some (.int 1) ∧ target.body.at? ["0"] = none := by
  have hspec : Service.listed.body.HasOpenSpec := by
    intro spec hfound
    simp [Service.listed, Json.field?] at hfound
  exact ⟨hspec, _, rfl, by decide, by decide⟩

end AgentOperator
