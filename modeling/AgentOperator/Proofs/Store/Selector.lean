import AgentOperator.Manifest.Labels
import AgentOperator.Store.Basic

/-!
# Selectors of a store

A selector is split at its commas, and each term at its first equals sign.  The
selector of an agent has two terms, provided that no name in it has a comma, so
what it matches are the objects with the two labels that the operator sets.
-/

namespace AgentOperator

variable {agent : Agent} {object : Object}

namespace Store

/-- A selector has the terms from which it was joined. -/
theorem terms_intercalate {texts : List String}
    (hcomma : ∀ text ∈ texts, ',' ∉ text.toList) (hsome : ∀ text ∈ texts, text ≠ "") :
    terms (String.intercalate "," texts) = texts.map String.toList := by
  unfold terms
  rw [String.toList_intercalate]
  by_cases hnone : texts = []
  · subst hnone
    rfl
  · have hsplit : ([','].intercalate (texts.map String.toList)).splitOn ',' =
        texts.map String.toList := by
      apply List.splitOn_intercalate
      · simpa using hcomma
      · simpa using hnone
    rw [show ",".toList = [','] from rfl, hsplit]
    rw [List.filter_eq_self]
    simpa using hsome

theorem takeWhile_key {key : List Char} (hkey : '=' ∉ key) (rest : List Char) :
    (key ++ '=' :: rest).takeWhile (fun c => c ≠ '=') = key := by
  rw [List.takeWhile_append_of_pos]
  · simp
  · intro c hc
    have hne : c ≠ '=' := fun heq => hkey (heq ▸ hc)
    simpa using hne

theorem dropWhile_key {key : List Char} (hkey : '=' ∉ key) (rest : List Char) :
    (key ++ '=' :: rest).dropWhile (fun c => c ≠ '=') = '=' :: rest := by
  rw [List.dropWhile_append_of_pos]
  · simp
  · intro c hc
    have hne : c ≠ '=' := fun heq => hkey (heq ▸ hc)
    simpa using hne

theorem matchesTerm_iff (labels : Dict String) {key : String} (hkey : '=' ∉ key.toList)
    (value : String) :
    matchesTerm labels (key ++ "=" ++ value).toList = true ↔
      labels.get? key = some value := by
  have hlist : (key ++ "=" ++ value).toList = key.toList ++ '=' :: value.toList := by simp
  unfold matchesTerm
  rw [hlist, dropWhile_key hkey, takeWhile_key hkey]
  simp

/-- The text is the start, or it goes on with a comma. -/
def UpToComma (text start : List Char) : Prop :=
  text = start ∨ ∃ rest, text = start ++ ',' :: rest

theorem exists_upToComma (text : List Char) :
    ∃ start, ',' ∉ start ∧ UpToComma text start := by
  by_cases hcomma : ',' ∈ text
  · obtain ⟨start, rest, htext, hstart⟩ := List.eq_append_cons_of_mem hcomma
    exact ⟨start, hstart, .inr ⟨rest, htext⟩⟩
  · exact ⟨text, hcomma, .inl rfl⟩

theorem UpToComma.append_left {text start : List Char} (hupTo : UpToComma text start)
    (before : List Char) : UpToComma (before ++ text) (before ++ start) := by
  rcases hupTo with rfl | ⟨rest, rfl⟩
  · exact .inl rfl
  · exact .inr ⟨rest, (List.append_assoc _ _ _).symm⟩

theorem UpToComma.mem_splitOn {text start : List Char} (hupTo : UpToComma text start)
    (hstart : ',' ∉ start) : start ∈ text.splitOn ',' := by
  rcases hupTo with rfl | ⟨rest, rfl⟩
  · rw [List.splitOn_eq_singleton hstart]
    exact List.mem_cons_self
  · rw [List.splitOn_append_cons_self_of_not_mem hstart]
    exact List.mem_cons_self

end Store

theorem Agent.home_eq {space : String} (hspace : agent.namespaceName = some space) :
    agent.home = space := by
  unfold Agent.home
  rw [hspace]
  rfl

theorem Agent.notMem_instanceName (hname : ',' ∉ agent.name.toList)
    (hhome : ',' ∉ agent.home.toList) : ',' ∉ agent.instanceName.toList := by
  unfold Agent.instanceName
  simp [hname, hhome]

/-- A label with a value is a term of its own. -/
theorem Store.notMem_term {key value : String} (hkey : ',' ∉ key.toList)
    (hvalue : ',' ∉ value.toList) : ',' ∉ (key ++ "=" ++ value).toList := by
  simp [hkey, hvalue]

theorem Store.term_ne_empty (key value : String) : key ++ "=" ++ value ≠ "" := by
  intro hempty
  have hlist := congrArg String.toList hempty
  simp at hlist

/-- The selector of labels matches the objects that have each of them. -/
theorem Store.isSelected_intercalate {entries : List (String × String)}
    (hkeys : ∀ entry ∈ entries, '=' ∉ entry.1.toList ∧ ',' ∉ entry.1.toList)
    (hvalues : ∀ entry ∈ entries, ',' ∉ entry.2.toList) :
    Store.isSelected object
        (String.intercalate "," (entries.map fun entry => entry.1 ++ "=" ++ entry.2)) = true ↔
      ∀ entry ∈ entries, object.labels.get? entry.1 = some entry.2 := by
  unfold isSelected
  rw [terms_intercalate]
  case hcomma =>
    simp only [List.forall_mem_map]
    exact fun entry hentry => notMem_term (hkeys entry hentry).2 (hvalues entry hentry)
  case hsome =>
    simp only [List.forall_mem_map]
    exact fun entry _ => term_ne_empty entry.1 entry.2
  simp only [List.all_eq_true, List.forall_mem_map]
  refine forall₂_congr fun entry hentry => ?_
  exact matchesTerm_iff _ (hkeys entry hentry).1 _

/-- The selector of an agent matches the objects that have its two labels. -/
theorem Store.isSelected_ownershipSelector (hname : ',' ∉ agent.name.toList)
    (hhome : ',' ∉ agent.home.toList) :
    Store.isSelected object agent.ownershipSelector = true ↔
      object.labels.get? managedByLabel = some managerName ∧
        object.labels.get? instanceLabel = some agent.instanceName := by
  have hselector : agent.ownershipSelector = String.intercalate ","
      ([(managedByLabel, managerName), (instanceLabel, agent.instanceName)].map
        fun entry => entry.1 ++ "=" ++ entry.2) := by
    unfold Agent.ownershipSelector
    simp only [List.map_cons, List.map_nil, String.intercalate_cons_cons,
      String.intercalate_singleton, String.append_assoc]
  have hkeys : ('=' ∉ managedByLabel.toList ∧ ',' ∉ managedByLabel.toList) ∧
      '=' ∉ instanceLabel.toList ∧ ',' ∉ instanceLabel.toList := by decide
  have hmanager : ',' ∉ managerName.toList := by decide
  have hinstance := Agent.notMem_instanceName hname hhome
  rw [hselector, isSelected_intercalate]
  · simp
  · simpa using hkeys
  · simpa using ⟨hmanager, hinstance⟩

/-- Whatever is in the name of an agent, its selector matches only objects that are
labelled with that name or with what stands before a comma of it. -/
theorem Store.label_of_isSelected
    (hselected : Store.isSelected object agent.ownershipSelector = true) :
    ∃ label, object.labels.get? instanceLabel = some label ∧
      (agent.instanceName = label ∨ ∃ rest, agent.instanceName = label ++ "," ++ rest) := by
  obtain ⟨start, hstart, hupTo⟩ := exists_upToComma agent.instanceName.toList
  have hkey : ',' ∉ (instanceLabel ++ "=").toList := by decide
  have hterm : ',' ∉ (instanceLabel ++ "=").toList ++ start := by
    simp only [List.mem_append, not_or]
    exact ⟨hkey, hstart⟩
  have hselector : agent.ownershipSelector.toList =
      (managedByLabel ++ "=" ++ managerName).toList ++
        ',' :: ((instanceLabel ++ "=").toList ++ agent.instanceName.toList) := by
    simp [Agent.ownershipSelector]
  have hmem : (instanceLabel ++ "=" ++ String.ofList start).toList ∈
      terms agent.ownershipSelector := by
    unfold terms
    rw [hselector, List.splitOn_append_cons_self_of_not_mem (by decide)]
    refine List.mem_filter.mpr ⟨List.mem_cons_of_mem _ ?_, by simp [instanceLabel]⟩
    simpa using (hupTo.append_left _).mem_splitOn hterm
  have hmatches := List.all_eq_true.mp hselected _ hmem
  refine ⟨String.ofList start, (matchesTerm_iff _ (by decide) _).mp hmatches, ?_⟩
  rcases hupTo with heq | ⟨rest, heq⟩
  · exact .inl (String.toList_injective (by simpa using heq))
  · exact .inr ⟨String.ofList rest, String.toList_injective (by simpa using heq)⟩

end AgentOperator
