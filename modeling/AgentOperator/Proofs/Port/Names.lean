import AgentOperator.Port.Resolver

/-!
# Names of resolved ports

No two ports of an agent have one name.  A port is accepted under a name that is
not taken or not at all, and listing the accepted ones in order keeps them as
they are.
-/

namespace AgentOperator.Port

variable {accepted : List Port} {p : Port} {name : String}

/-! ## Accepting a port -/

/-- A port is passed over, or it is added under the name that it is given. -/
theorem accept_cases (accepted : List Port) (p : Port) :
    accept accepted p = accepted ∨
      ∃ name, isAdmissible accepted p = true ∧ acceptedName? accepted p = some name ∧
        accept accepted p = accepted ++ [{ p with name }] := by
  unfold accept
  by_cases hadmissible : isAdmissible accepted p = true
  · rw [if_pos hadmissible]
    cases hname : acceptedName? accepted p with
    | none => exact .inl rfl
    | some name => exact .inr ⟨name, hadmissible, rfl, rfl⟩
  · rw [if_neg hadmissible]
    exact .inl rfl

/-- The name that a port is given is its own one cut to size, which is a valid name, or
the one made from its number. -/
theorem acceptedName?_cases (hname : acceptedName? accepted p = some name) :
    isValidName (truncateName p.name) = true ∧
      (name = truncateName p.name ∨ name = p.fallbackName) := by
  unfold acceptedName? at hname
  simp only at hname
  split at hname
  · simp at hname
  next hvalid =>
    refine ⟨by simpa using hvalid, ?_⟩
    split at hname
    · exact .inl (Option.some.inj hname).symm
    · split at hname
      · exact .inr (Option.some.inj hname).symm
      · simp at hname

theorem acceptedName?_fresh (hname : acceptedName? accepted p = some name) :
    ∀ q ∈ accepted, q.name ≠ name := by
  have hfree : ∀ {candidate : String},
      (accepted.any fun q => q.name == candidate) ≠ true →
        ∀ q ∈ accepted, q.name ≠ candidate := by
    intro candidate hany q hmem heq
    exact hany (List.any_eq_true.mpr ⟨q, hmem, by simpa using heq⟩)
  unfold acceptedName? at hname
  simp only at hname
  split at hname
  · simp at hname
  · split at hname
    next htaken =>
      obtain rfl := Option.some.inj hname
      exact hfree (by simpa using htaken)
    next =>
      split at hname
      next htaken =>
        obtain rfl := Option.some.inj hname
        exact hfree (by simpa using htaken)
      next => simp at hname

/-! ## Distinct names -/

/-- No two ports of the list have one name. -/
def NamesDistinct (ports : List Port) : Prop := ports.Pairwise fun p q => p.name ≠ q.name

theorem NamesDistinct.accept (haccepted : NamesDistinct accepted) (p : Port) :
    NamesDistinct (accept accepted p) := by
  rcases accept_cases accepted p with hsame | ⟨name, -, hname, hadded⟩
  · rwa [hsame]
  · rw [hadded]
    refine List.pairwise_append.mpr ⟨haccepted, List.pairwise_singleton _ _, ?_⟩
    intro q hq r hr
    obtain rfl := List.mem_singleton.mp hr
    exact acceptedName?_fresh hname q hq

theorem finalize_perm (ports : List Port) :
    (finalize ports).Perm (ports.foldl accept []) :=
  List.mergeSort_perm _ isBefore

theorem namesDistinct_finalize (ports : List Port) : NamesDistinct (finalize ports) := by
  have haccepted : NamesDistinct (ports.foldl accept []) :=
    List.foldlRecOn ports accept List.Pairwise.nil fun _ hbefore p _ => hbefore.accept p
  exact ((finalize_perm ports).pairwise_iff fun hne => hne.symm).mpr haccepted

theorem namesDistinct_resolve (families : List Family) (config : String)
    (otel : Option String) (overrides : List PortOverride) :
    NamesDistinct (resolve families config otel overrides) :=
  namesDistinct_finalize _

end AgentOperator.Port
