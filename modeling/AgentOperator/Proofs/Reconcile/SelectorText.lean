import AgentOperator.Proofs.Keyed
import AgentOperator.Proofs.Store.Selector
import AgentOperator.Reconcile.Report

/-!
# Texts of selectors

A selector is written in two places and matched in a third.  The text of a map of labels
matches just the objects that have each label of it, and the text that is read off a live
workload is that of the labels in its selector, in whatever order they stand there.
-/

namespace AgentOperator

variable {live : Object} {labels : Dict String} {fields : List (String × Json)}

theorem Json.filterMap_str?_ofDict (labels : Dict String) :
    ((labels.entries.map fun entry => (entry.1, Json.str entry.2)).filterMap
      fun entry => entry.2.str?.map (entry.1, ·)) = labels.entries := by
  rw [List.filterMap_map]
  exact List.filterMap_some

theorem Object.selectorText?_of_perm
    (hat : live.body.at? ["spec", "selector", "matchLabels"] = some (.obj fields))
    (hfields : fields.Perm (labels.entries.map fun entry => (entry.1, .str entry.2))) :
    live.selectorText? = some (AgentOperator.selectorText labels) := by
  have hlabels := hfields.filterMap fun entry => entry.2.str?.map (entry.1, ·)
  rw [Json.filterMap_str?_ofDict] at hlabels
  unfold Object.selectorText? AgentOperator.selectorText
  rw [hat]
  simp only [Option.bind_some, Json.obj?, Option.map_some]
  rw [labels.ordered.mergeSort_eq_of_perm hlabels]

/-- The text of a selector is read back from a live workload, and it means to a store
that each of the labels is there, provided that they can be told apart in it. -/
theorem selector_texts_agree :
    (∀ (labels : Dict String) (object : Object),
      (∀ entry ∈ labels.entries,
        '=' ∉ entry.1.toList ∧ ',' ∉ entry.1.toList ∧ ',' ∉ entry.2.toList) →
      (Store.isSelected object (selectorText labels) = true ↔
        ∀ entry ∈ labels.entries, object.labels.get? entry.1 = some entry.2)) ∧
    ∀ (labels : Dict String) (live : Object) (fields : List (String × Json)),
      live.body.at? ["spec", "selector", "matchLabels"] = some (.obj fields) →
      fields.Perm (labels.entries.map fun entry => (entry.1, .str entry.2)) →
      live.selectorText? = some (selectorText labels) := by
  constructor
  · intro labels object hplain
    apply Store.isSelected_intercalate
    · intro entry hentry
      exact ⟨(hplain entry hentry).1, (hplain entry hentry).2.1⟩
    · intro entry hentry
      exact (hplain entry hentry).2.2
  · intro labels live fields hat hfields
    exact Object.selectorText?_of_perm hat hfields

/-- A value may have an equals sign or be empty, and further labels do no harm. -/
theorem selector_texts_agree_tiered :
    let labels : Dict String := .ofList [("app", "a=b"), ("tier", "")]
    let live : Object :=
      { types := none
        metadata := { labels := some (labels.insert "zone" "z") }
        body := .mkObj [("spec", .mkObj [("selector", .mkObj [("matchLabels",
          .obj [("tier", .str ""), ("app", .str "a=b")])])])] }
    Store.isSelected live (selectorText labels) = true ∧
      live.selectorText? = some (selectorText labels) ∧ selectorText labels = "app=a=b,tier=" := by
  intro labels live
  refine ⟨(selector_texts_agree.1 labels live ?_).mpr ?_, ?_, by decide⟩
  · decide
  · decide
  · exact selector_texts_agree.2 labels live _ rfl (List.Perm.swap _ _ _)

end AgentOperator
