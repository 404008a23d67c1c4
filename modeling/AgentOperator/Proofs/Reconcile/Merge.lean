import AgentOperator.Proofs.Json.Drift
import AgentOperator.Proofs.Object
import AgentOperator.Reconcile.Merge

/-!
# Merging immutable fields

A merge that meets no disagreement gives each immutable field the desired value
where it has content, else the live one.  It comes out the same over every live
body that carries the same content, so merging with the outcome of a merge
changes nothing more.
-/

namespace AgentOperator

open Json (Path)
open Kind (Incomparable)

@[simp] theorem Json.content?_none : Json.content? none = none := rfl

theorem Json.content?_eq_some_iff {value : Option Json} {content : Json} :
    Json.content? value = some content ↔ value = some content ∧ content.isEmpty = false := by
  simp [Json.content?, Option.filter_eq_some_iff]

theorem mergeFields_cons_of_live_none {live target : Json} {path : Path} {rest : List Path}
    (hlive : Json.content? (live.at? path) = none) :
    mergeFields live (path :: rest) target = mergeFields live rest target := by
  simp only [mergeFields, hlive]

theorem mergeFields_cons_of_target_none {live target value : Json} {path : Path}
    {rest : List Path} (hlive : Json.content? (live.at? path) = some value)
    (htarget : Json.content? (target.at? path) = none) :
    mergeFields live (path :: rest) target =
      mergeFields live rest (target.setAt path value) := by
  simp only [mergeFields, hlive, htarget]

theorem mergeFields_cons_of_both {live target value wanted : Json} {path : Path}
    {rest : List Path} (hlive : Json.content? (live.at? path) = some value)
    (htarget : Json.content? (target.at? path) = some wanted) :
    mergeFields live (path :: rest) target =
      if wanted == value then mergeFields live rest target else (some path, target) := by
  simp only [mergeFields, hlive, htarget]

/-! ## What merging does to a body -/

/-- The paths do not touch each other, and the body can take a value at each. -/
structure TakesFields (target : Json) (paths : List Path) : Prop where
  pairwise : paths.Pairwise Incomparable
  isOpenTo : ∀ path ∈ paths, target.IsOpenTo path

namespace TakesFields

variable {target : Json} {path : Path} {rest : List Path}

theorem tail (htakes : TakesFields target (path :: rest)) : TakesFields target rest :=
  ⟨List.Pairwise.of_cons htakes.pairwise, fun other hmem =>
    htakes.isOpenTo other (List.mem_cons_of_mem _ hmem)⟩

theorem incomparable (htakes : TakesFields target (path :: rest)) {other : Path}
    (hmem : other ∈ rest) : Incomparable path other :=
  List.rel_of_pairwise_cons htakes.pairwise hmem

theorem setAt (htakes : TakesFields target (path :: rest)) (value : Json) :
    TakesFields (target.setAt path value) rest :=
  ⟨htakes.tail.pairwise, fun other hmem =>
    (htakes.isOpenTo path List.mem_cons_self).setAt value (htakes.tail.isOpenTo other hmem)
      (htakes.incomparable hmem).1⟩

theorem at?_setAt (htakes : TakesFields target (path :: rest)) (value : Json)
    {other : Path} (hmem : other ∈ rest) :
    (target.setAt path value).at? other = target.at? other :=
  Json.at?_setAt_of_incomparable value (htakes.isOpenTo path List.mem_cons_self)
    (htakes.incomparable hmem).1 (htakes.incomparable hmem).2

end TakesFields

/-- The value that a merged body has at an immutable field: the desired one where
it has content, else the live one where it has content. -/
def carriedValue (live desired : Option Json) : Option Json :=
  if Json.content? desired = none ∧ Json.content? live ≠ none then live else desired

theorem carriedValue_of_content {live desired : Option Json} {wanted : Json}
    (hdesired : Json.content? desired = some wanted) :
    carriedValue live desired = desired := by
  simp [carriedValue, hdesired]

theorem content?_carriedValue_of_none {live desired : Option Json}
    (hdesired : Json.content? desired = none) :
    Json.content? (carriedValue live desired) = Json.content? live := by
  unfold carriedValue
  split
  · rfl
  next hlive =>
    have hnone : Json.content? live = none := by
      by_cases hcontent : Json.content? live = none
      · exact hcontent
      · exact absurd ⟨hdesired, hcontent⟩ hlive
    rw [hdesired, hnone]

theorem mergeFields_at?_of_notMem {live target merged : Json} {paths : List Path}
    {conflict : Option Path} (htakes : TakesFields target paths)
    (hmerge : mergeFields live paths target = (conflict, merged)) {other : Path}
    (hother : ∀ path ∈ paths, Incomparable path other) :
    merged.at? other = target.at? other := by
  induction paths generalizing target with
  | nil =>
      obtain ⟨-, rfl⟩ := Prod.mk.inj hmerge
      rfl
  | cons path rest ih =>
      have hrest : ∀ path ∈ rest, Incomparable path other := fun path hmem =>
        hother path (List.mem_cons_of_mem _ hmem)
      cases hlive : Json.content? (live.at? path) with
      | none =>
          rw [mergeFields_cons_of_live_none hlive] at hmerge
          exact ih htakes.tail hmerge hrest
      | some value =>
          cases htarget : Json.content? (target.at? path) with
          | none =>
              rw [mergeFields_cons_of_target_none hlive htarget] at hmerge
              rw [ih (htakes.setAt value) hmerge hrest]
              have hapart := hother path List.mem_cons_self
              exact Json.at?_setAt_of_incomparable value
                (htakes.isOpenTo path List.mem_cons_self) hapart.1 hapart.2
          | some wanted =>
              rw [mergeFields_cons_of_both hlive htarget] at hmerge
              split at hmerge
              · exact ih htakes.tail hmerge hrest
              · obtain ⟨-, rfl⟩ := Prod.mk.inj hmerge
                rfl

/-- A merge without conflict gives each immutable field the carried value, and
the two sides agree wherever both have content. -/
theorem mergeFields_eq_none {live target merged : Json} {paths : List Path}
    (htakes : TakesFields target paths)
    (hmerge : mergeFields live paths target = (none, merged)) :
    ∀ path ∈ paths, merged.at? path = carriedValue (live.at? path) (target.at? path) ∧
      ∀ value wanted, Json.content? (live.at? path) = some value →
        Json.content? (target.at? path) = some wanted → (wanted == value) = true := by
  induction paths generalizing target with
  | nil => simp
  | cons path rest ih =>
      have hfirst : ∀ {body : Json}, mergeFields live rest body = (none, merged) →
          TakesFields body rest → merged.at? path = body.at? path := by
        intro body hbody hbodyTakes
        refine mergeFields_at?_of_notMem hbodyTakes hbody ?_
        intro other hmem
        exact ⟨(htakes.incomparable hmem).2, (htakes.incomparable hmem).1⟩
      cases hlive : Json.content? (live.at? path) with
      | none =>
          rw [mergeFields_cons_of_live_none hlive] at hmerge
          rw [List.forall_mem_cons]
          refine ⟨⟨?_, by simp [hlive]⟩, ih htakes.tail hmerge⟩
          rw [hfirst hmerge htakes.tail]
          simp [carriedValue, hlive]
      | some value =>
          cases htarget : Json.content? (target.at? path) with
          | none =>
              rw [mergeFields_cons_of_target_none hlive htarget] at hmerge
              rw [List.forall_mem_cons]
              refine ⟨⟨?_, by simp [htarget]⟩, ?_⟩
              · rw [hfirst hmerge (htakes.setAt value), Json.at?_setAt_self, carriedValue,
                  if_pos ⟨htarget, by simp [hlive]⟩, (Json.content?_eq_some_iff.mp hlive).1]
              · intro other hmem
                have hother := ih (htakes.setAt value) hmerge other hmem
                rwa [htakes.at?_setAt value hmem] at hother
          | some wanted =>
              rw [mergeFields_cons_of_both hlive htarget] at hmerge
              split at hmerge
              next hsame =>
                rw [List.forall_mem_cons]
                refine ⟨⟨?_, ?_⟩, ih htakes.tail hmerge⟩
                · rw [hfirst hmerge htakes.tail]
                  simp [carriedValue, htarget]
                · intro other wanted' hother hwanted
                  rw [hlive] at hother
                  rw [htarget] at hwanted
                  obtain rfl := Option.some.inj hother
                  obtain rfl := Option.some.inj hwanted
                  exact hsame
              next => simp at hmerge

/-- Where the two sides agree wherever both have content there is no conflict. -/
theorem exists_mergeFields_eq {live target : Json} {paths : List Path}
    (htakes : TakesFields target paths)
    (hagree : ∀ path ∈ paths, ∀ value wanted, Json.content? (live.at? path) = some value →
      Json.content? (target.at? path) = some wanted → (wanted == value) = true) :
    ∃ merged, mergeFields live paths target = (none, merged) := by
  induction paths generalizing target with
  | nil => exact ⟨target, rfl⟩
  | cons path rest ih =>
      obtain ⟨hfirst, hrest⟩ := List.forall_mem_cons.mp hagree
      cases hlive : Json.content? (live.at? path) with
      | none =>
          rw [mergeFields_cons_of_live_none hlive]
          exact ih htakes.tail hrest
      | some value =>
          cases htarget : Json.content? (target.at? path) with
          | none =>
              rw [mergeFields_cons_of_target_none hlive htarget]
              refine ih (htakes.setAt value) fun other hmem => ?_
              rw [htakes.at?_setAt value hmem]
              exact hrest other hmem
          | some wanted =>
              rw [mergeFields_cons_of_both hlive htarget,
                if_pos (hfirst value wanted hlive htarget)]
              exact ih htakes.tail hrest

/-- A merge comes out the same over another live value that has the same content
where the desired body has none, and does not disagree where it has some. -/
theorem mergeFields_congr {live other target merged : Json} {paths : List Path}
    (htakes : TakesFields target paths)
    (hagree : ∀ path ∈ paths,
      (Json.content? (target.at? path) = none →
        Json.content? (other.at? path) = Json.content? (live.at? path)) ∧
      ∀ value wanted, Json.content? (other.at? path) = some value →
        Json.content? (target.at? path) = some wanted → (wanted == value) = true)
    (hmerge : mergeFields live paths target = (none, merged)) :
    mergeFields other paths target = (none, merged) := by
  induction paths generalizing target with
  | nil => exact hmerge
  | cons path rest ih =>
      rw [List.forall_mem_cons] at hagree
      obtain ⟨⟨hnone, hsome⟩, hrest⟩ := hagree
      cases htarget : Json.content? (target.at? path) with
      | none =>
          have hcontent := hnone htarget
          cases hlive : Json.content? (live.at? path) with
          | none =>
              rw [mergeFields_cons_of_live_none hlive] at hmerge
              rw [mergeFields_cons_of_live_none (hcontent.trans hlive)]
              exact ih htakes.tail hrest hmerge
          | some value =>
              rw [mergeFields_cons_of_target_none hlive htarget] at hmerge
              rw [mergeFields_cons_of_target_none (hcontent.trans hlive) htarget]
              refine ih (htakes.setAt value) ?_ hmerge
              intro path' hmem
              rw [htakes.at?_setAt value hmem]
              exact hrest path' hmem
      | some wanted =>
          have hmergeRest : mergeFields live rest target = (none, merged) := by
            cases hlive : Json.content? (live.at? path) with
            | none => rwa [mergeFields_cons_of_live_none hlive] at hmerge
            | some value =>
                rw [mergeFields_cons_of_both hlive htarget] at hmerge
                split at hmerge
                · exact hmerge
                · simp at hmerge
          have hotherRest := ih htakes.tail hrest hmergeRest
          cases hother : Json.content? (other.at? path) with
          | none => rwa [mergeFields_cons_of_live_none hother]
          | some value =>
              rw [mergeFields_cons_of_both hother htarget,
                if_pos (hsome value wanted hother htarget)]
              exact hotherRest

/-- Merging with a live body that agrees changes nothing. -/
theorem mergeFields_self {live target : Json} {paths : List Path}
    (hsame : ∀ path ∈ paths, live.at? path = target.at? path) :
    mergeFields live paths target = (none, target) := by
  induction paths with
  | nil => rfl
  | cons path rest ih =>
      have hrest := ih fun other hmem => hsame other (List.mem_cons_of_mem _ hmem)
      have hfirst := hsame path List.mem_cons_self
      cases hvalue : Json.content? (target.at? path) with
      | none =>
          rw [mergeFields_cons_of_live_none (by rw [hfirst, hvalue])]
          exact hrest
      | some value =>
          rw [mergeFields_cons_of_both (by rw [hfirst, hvalue]) hvalue,
            if_pos (Json.beq_self value)]
          exact hrest

/-- What writing live values at the fields preserves holds of the outcome of a merge. -/
theorem mergeFields_preserves {live target : Json} {paths : List Path}
    (Holds : Json → Prop)
    (hset : ∀ path ∈ paths, ∀ value, live.at? path = some value →
      ∀ body, Holds body → Holds (body.setAt path value))
    (htarget : Holds target) : Holds (mergeFields live paths target).2 := by
  induction paths generalizing target with
  | nil => exact htarget
  | cons path rest ih =>
      rw [List.forall_mem_cons] at hset
      obtain ⟨hfirst, hrest⟩ := hset
      cases hvalue : Json.content? (live.at? path) with
      | none =>
          rw [mergeFields_cons_of_live_none hvalue]
          exact ih hrest htarget
      | some value =>
          cases hwanted : Json.content? (target.at? path) with
          | none =>
              rw [mergeFields_cons_of_target_none hvalue hwanted]
              have hlive := (Json.content?_eq_some_iff.mp hvalue).1
              exact ih hrest (hfirst value hlive target htarget)
          | some wanted =>
              rw [mergeFields_cons_of_both hvalue hwanted]
              split
              · exact ih hrest htarget
              · exact htarget

/-- A body stays one as it is made for an agent when live values are carried into
it. -/
theorem mergeFields_isBuiltBody {live target : Json} {paths : List Path}
    (hpaths : ∀ path ∈ paths, ∃ field, path = ["spec", field]) (hlive : live.Canonical)
    (htarget : target.IsBuiltBody) : (mergeFields live paths target).2.IsBuiltBody := by
  apply mergeFields_preserves Json.IsBuiltBody _ htarget
  intro path hmem value hvalue body hbody
  obtain ⟨field, rfl⟩ := hpaths path hmem
  exact hbody.setAt (hlive.at? hvalue) field

theorem takesFields_immutableFields {body : Json} (hbody : body.IsBuiltBody)
    (kind : Kind) : TakesFields body kind.immutableFields := by
  refine ⟨kind.immutableFields_pairwise, ?_⟩
  intro path hmem
  obtain ⟨field, rfl⟩ := Kind.immutableFields_below_spec hmem
  exact hbody.isOpenTo field

end AgentOperator
