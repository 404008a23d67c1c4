import AgentOperator.Proofs.Port.Priority

/-!
# Ports that are refused

A port is passed over for one of three reasons: it cannot be published at all, its
address is taken, or both of the names that it may be given are taken.  The more is
accepted the more is refused, so a port that was passed over would be passed over again
beside everything that is listed in the end, and whatever order the ports come in, each
of them is listed or refused beside what is listed.
-/

namespace AgentOperator.Port

variable {accepted others ports : List Port} {p q : Port} {keep : Port → Bool}

/-! ## Reasons -/

/-- Whether a port can be published: its name is valid when it is cut to size, and its
numbers are those of ports. -/
def isPublishable (p : Port) : Bool :=
  isValidName (truncateName p.name) && 1 ≤ p.number && p.number ≤ 65535 &&
    1 ≤ p.containerPort && p.containerPort ≤ 65535

theorem isPublishable_iff :
    p.isPublishable = true ↔ isValidName (truncateName p.name) = true ∧
      (1 ≤ p.number ∧ p.number ≤ 65535) ∧ (1 ≤ p.containerPort ∧ p.containerPort ≤ 65535) := by
  unfold isPublishable
  simp [and_assoc]

/-- Why a port is passed over beside those that were accepted. -/
inductive IsRefused (accepted : List Port) (p : Port) : Prop
  | unpublishable (hnot : p.isPublishable = false)
  | addressTaken (htaken : ∃ q ∈ accepted, q.address = p.address)
  | namesTaken (hown : ∃ q ∈ accepted, q.name = truncateName p.name)
      (hfallback : ∃ q ∈ accepted, q.name = p.fallbackName)

theorem IsRefused.of_covered (hrefused : IsRefused accepted p)
    (hcovered : ∀ q ∈ accepted, ∃ r ∈ others, r.name = q.name ∧ r.address = q.address) :
    IsRefused others p := by
  have hnamed : ∀ {name : String}, (∃ q ∈ accepted, q.name = name) →
      ∃ r ∈ others, r.name = name := by
    rintro name ⟨q, hq, rfl⟩
    obtain ⟨r, hr, hname, -⟩ := hcovered q hq
    exact ⟨r, hr, hname⟩
  cases hrefused with
  | unpublishable hnot => exact .unpublishable hnot
  | addressTaken htaken =>
      obtain ⟨q, hq, haddress⟩ := htaken
      obtain ⟨r, hr, -, hsame⟩ := hcovered q hq
      exact .addressTaken ⟨r, hr, hsame.trans haddress⟩
  | namesTaken hown hfallback => exact .namesTaken (hnamed hown) (hnamed hfallback)

theorem IsRefused.mono (hrefused : IsRefused accepted p) (hsubset : accepted ⊆ others) :
    IsRefused others p :=
  hrefused.of_covered fun q hq => ⟨q, hsubset hq, rfl, rfl⟩

/-! ## One port -/

/-- The port under a name that it may be given: its own one cut to size, or the one made
from its number. -/
structure ListedAs (p q : Port) : Prop where
  rest : q = { p with name := q.name }
  named : q.name = truncateName p.name ∨ q.name = p.fallbackName

theorem ListedAs.address (hlisted : ListedAs p q) : q.address = p.address := by
  rw [hlisted.rest]
  rfl

theorem ListedAs.feature (hlisted : ListedAs p q) : q.feature = p.feature := by
  rw [hlisted.rest]

theorem accept_of_isRefused (hrefused : IsRefused accepted p) :
    accept accepted p = accepted := by
  rcases accept_cases accepted p with hsame | ⟨name, hadmissible, hname, -⟩
  · exact hsame
  · exfalso
    obtain ⟨hnumber, hcontainer, hfree⟩ := isAdmissible_iff.mp hadmissible
    obtain ⟨hvalid, hcases⟩ := acceptedName?_cases hname
    have hfresh := acceptedName?_fresh hname
    cases hrefused with
    | unpublishable hnot =>
        have hpublishable := isPublishable_iff.mpr ⟨hvalid, hnumber, hcontainer⟩
        rw [hpublishable] at hnot
        contradiction
    | addressTaken htaken =>
        obtain ⟨q, hq, haddress⟩ := htaken
        exact hfree q hq haddress
    | namesTaken hown hfallback =>
        obtain ⟨q, hq, hqName⟩ := hown
        obtain ⟨r, hr, hrName⟩ := hfallback
        rcases hcases with rfl | rfl
        · exact hfresh q hq hqName
        · exact hfresh r hr hrName

/-- A port that nothing speaks against is added under one of its names. -/
theorem exists_accept_of_not_isRefused (hnot : ¬ IsRefused accepted p) :
    p.isPublishable = true ∧
      ∃ q, ListedAs p q ∧ accept accepted p = accepted ++ [q] := by
  have hpublishable : p.isPublishable = true := by
    by_contra hunfit
    exact hnot (.unpublishable (by simpa using hunfit))
  obtain ⟨hvalid, hnumber, hcontainer⟩ := isPublishable_iff.mp hpublishable
  have hadmissible : isAdmissible accepted p = true :=
    isAdmissible_iff.mpr
      ⟨hnumber, hcontainer, fun q hq heq => hnot (.addressTaken ⟨q, hq, heq⟩)⟩
  have htaken : ∀ name : String, (accepted.any fun q => q.name == name) = true ↔
      ∃ q ∈ accepted, q.name = name := by
    simp
  refine ⟨hpublishable, ?_⟩
  unfold accept acceptedName?
  simp only [hadmissible, hvalid, if_true, htaken, Bool.not_eq_true', ← Bool.not_eq_true]
  by_cases hown : ∃ q ∈ accepted, q.name = truncateName p.name
  · have hfallback : ¬ ∃ q ∈ accepted, q.name = p.fallbackName :=
      fun htwice => hnot (.namesTaken hown htwice)
    refine ⟨{ p with name := p.fallbackName }, ⟨rfl, .inr rfl⟩, ?_⟩
    simp [hown, hfallback]
  · refine ⟨{ p with name := truncateName p.name }, ⟨rfl, .inl rfl⟩, ?_⟩
    simp [hown]

/-! ## Many ports -/

theorem subset_foldl_accept (accepted ports : List Port) :
    accepted ⊆ ports.foldl accept accepted := by
  obtain ⟨added, hfold, -⟩ := exists_foldl_accept accepted ports
  rw [hfold]
  exact List.subset_append_left accepted added

/-- What is accepted is some port of the list under one of its names. -/
theorem exists_listedAs_of_mem (hq : q ∈ ports.foldl accept accepted) :
    q ∈ accepted ∨ ∃ p ∈ ports, p.isPublishable = true ∧ ListedAs p q := by
  induction ports generalizing accepted with
  | nil => exact .inl hq
  | cons first rest ih =>
      rcases ih hq with hbefore | ⟨p, hp, hlisted⟩
      · by_cases hrefused : IsRefused accepted first
        · rw [accept_of_isRefused hrefused] at hbefore
          exact .inl hbefore
        · obtain ⟨hpublishable, added, hlisted, hadded⟩ :=
            exists_accept_of_not_isRefused hrefused
          rw [hadded] at hbefore
          rcases List.mem_append.mp hbefore with hold | hnew
          · exact .inl hold
          · obtain rfl := List.mem_singleton.mp hnew
            exact .inr ⟨first, List.mem_cons_self, hpublishable, hlisted⟩
      · exact .inr ⟨p, List.mem_cons_of_mem first hp, hlisted⟩

/-- Every port of the list is there in the end, or it is refused beside what is there. -/
theorem listedAs_or_isRefused (accepted : List Port) (hp : p ∈ ports) :
    (∃ q ∈ ports.foldl accept accepted, ListedAs p q) ∨
      IsRefused (ports.foldl accept accepted) p := by
  induction ports generalizing accepted with
  | nil => simp at hp
  | cons first rest ih =>
      rcases List.mem_cons.mp hp with rfl | hlater
      · have hsubset := subset_foldl_accept (accept accepted p) rest
        by_cases hrefused : IsRefused accepted p
        · rw [accept_of_isRefused hrefused] at hsubset
          right
          rw [List.foldl_cons, accept_of_isRefused hrefused]
          exact hrefused.mono hsubset
        · obtain ⟨-, q, hlisted, hadded⟩ := exists_accept_of_not_isRefused hrefused
          refine .inl ⟨q, hsubset ?_, hlisted⟩
          rw [hadded]
          exact List.mem_append_right accepted (List.mem_singleton_self q)
      · exact ih (accept accepted first) hlater

theorem foldl_accept_of_isRefused (hrefused : ∀ p ∈ ports, IsRefused accepted p) :
    ports.foldl accept accepted = accepted := by
  induction ports with
  | nil => rfl
  | cons first rest ih =>
      rw [List.foldl_cons, accept_of_isRefused (hrefused first List.mem_cons_self)]
      exact ih fun p hp => hrefused p (List.mem_cons_of_mem first hp)

/-- Ports that cannot be published, or that leave no trace of their address in the end,
may as well not be there. -/
theorem foldl_accept_filter
    (hdropped : ∀ p ∈ ports, keep p = false →
      p.isPublishable = false ∨ ∀ q ∈ ports.foldl accept accepted, q.address ≠ p.address) :
    (ports.filter keep).foldl accept accepted = ports.foldl accept accepted := by
  induction ports generalizing accepted with
  | nil => rfl
  | cons first rest ih =>
      have hrest := ih fun p hp => hdropped p (List.mem_cons_of_mem first hp)
      by_cases hkeep : keep first = true
      · rw [List.filter_cons_of_pos hkeep, List.foldl_cons, List.foldl_cons]
        exact hrest
      · -- Had the port been accepted here, its address would still be there in the end.
        have hrefused : IsRefused accepted first := by
          rcases hdropped first List.mem_cons_self (by simpa using hkeep) with hnot | htrace
          · exact .unpublishable hnot
          · by_contra hadmitted
            obtain ⟨-, q, hlisted, hadded⟩ := exists_accept_of_not_isRefused hadmitted
            have hq : q ∈ (first :: rest).foldl accept accepted := by
              apply subset_foldl_accept (accept accepted first) rest
              rw [hadded]
              exact List.mem_append_right accepted (List.mem_singleton_self q)
            exact htrace q hq hlisted.address
        rw [accept_of_isRefused hrefused] at hrest
        rw [List.filter_cons_of_neg hkeep, List.foldl_cons, accept_of_isRefused hrefused]
        exact hrest

end AgentOperator.Port
