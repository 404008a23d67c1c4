import AgentOperator.Port.Registry

/-!
# Registering groups of ports

A group is accepted when none of its numbers is in a group that was accepted before.
What is registered in the end are the accepted groups, each whole and in the order in
which they came, so that the first claim to a number wins and lasts.
-/

namespace AgentOperator.PortRegistry

variable {r : PortRegistry} {group : PortGroup} {groups : List PortGroup} {p : Port}

/-! ## One group -/

theorem claims_iff {number : Int} :
    r.claims number = true ↔ ∃ p ∈ r.ports, p.number = number := by
  unfold claims
  rw [List.contains_iff_mem, r.claimed_iff]

theorem admits_iff :
    r.admits group = true ↔ ∀ p ∈ group, ∀ q ∈ r.ports, q.number ≠ p.number := by
  unfold admits
  simp only [List.all_eq_true, Bool.not_eq_true', ← Bool.not_eq_true, claims_iff]
  simp

/-! ## The groups that are accepted -/

/-- The groups that are admitted, where they are registered one after another. -/
def accepted (r : PortRegistry) : List PortGroup → List PortGroup
  | [] => []
  | group :: rest =>
    if r.admits group then group :: accepted (r.register group) rest
    else accepted (r.register group) rest

theorem accepted_cons (r : PortRegistry) (group : PortGroup) (rest : List PortGroup) :
    r.accepted (group :: rest) =
      if r.admits group then group :: (r.register group).accepted rest
      else (r.register group).accepted rest :=
  rfl

theorem registerAll_append (r : PortRegistry) (groups more : List PortGroup) :
    r.registerAll (groups ++ more) = (r.registerAll groups).registerAll more :=
  List.foldl_append

theorem accepted_append (r : PortRegistry) (groups more : List PortGroup) :
    r.accepted (groups ++ more) = r.accepted groups ++ (r.registerAll groups).accepted more := by
  induction groups generalizing r with
  | nil => rfl
  | cons group rest ih =>
      simp only [List.cons_append, accepted_cons, ih (r.register group)]
      split
      · rfl
      · rfl

theorem accepted_sublist (r : PortRegistry) (groups : List PortGroup) :
    (r.accepted groups).Sublist groups := by
  induction groups generalizing r with
  | nil => exact List.Sublist.slnil
  | cons group rest ih =>
      rw [accepted_cons]
      split
      · exact (ih _).cons_cons group
      · exact (ih _).cons group

/-- The accepted groups stand whole and in order behind what was registered before. -/
theorem ports_registerAll (r : PortRegistry) (groups : List PortGroup) :
    (r.registerAll groups).ports = r.ports ++ (r.accepted groups).flatten := by
  induction groups generalizing r with
  | nil => simp [registerAll, accepted]
  | cons group rest ih =>
      have hrest : (r.registerAll (group :: rest)).ports =
          (r.register group).ports ++ ((r.register group).accepted rest).flatten :=
        ih (r.register group)
      rw [hrest, ports_register, accepted_cons]
      split
      · rw [List.flatten_cons, List.append_assoc]
      · rfl

theorem prefix_registerAll (r : PortRegistry) (groups : List PortGroup) :
    r.ports <+: (r.registerAll groups).ports := by
  rw [ports_registerAll]
  exact List.prefix_append _ _

/-- A port that is registered was there, or its whole group is registered. -/
theorem mem_registerAll (hmem : p ∈ (r.registerAll groups).ports) :
    p ∈ r.ports ∨ ∃ group ∈ groups, p ∈ group ∧
      ∀ member ∈ group, member ∈ (r.registerAll groups).ports := by
  rw [ports_registerAll, List.mem_append] at hmem
  refine hmem.imp_right fun haccepted => ?_
  obtain ⟨group, hgroup, hp⟩ := List.mem_flatten.mp haccepted
  refine ⟨group, (accepted_sublist r groups).subset hgroup, hp, ?_⟩
  intro member hmember
  rw [ports_registerAll]
  exact List.mem_append_right _ (List.mem_flatten_of_mem hgroup hmember)

/-! ## First claims -/

/-- No number is in both groups. -/
def NumbersApart (group other : PortGroup) : Prop :=
  ∀ p ∈ group, ∀ q ∈ other, p.number ≠ q.number

theorem NumbersApart.subset {other smaller : PortGroup} (happart : NumbersApart other group)
    (hsubset : smaller ⊆ other) : NumbersApart smaller group :=
  fun p hp => happart p (hsubset hp)

theorem admits_iff_numbersApart : r.admits group = true ↔ NumbersApart r.ports group := by
  rw [admits_iff]
  exact ⟨fun happart q hq p hp => happart p hp q hq,
    fun happart p hp q hq => happart q hq p hp⟩

theorem numbersApart_of_mem_accepted (hmem : group ∈ r.accepted groups) :
    NumbersApart r.ports group := by
  induction groups generalizing r with
  | nil => simp [accepted] at hmem
  | cons first rest ih =>
      rw [accepted_cons] at hmem
      have hlater (hrest : group ∈ (r.register first).accepted rest) :
          NumbersApart r.ports group :=
        (ih hrest).subset (prefix_registerAll r [first]).subset
      split at hmem
      next hadmitted =>
        rcases List.mem_cons.mp hmem with rfl | hrest
        · exact admits_iff_numbersApart.mp hadmitted
        · exact hlater hrest
      next => exact hlater hmem

theorem pairwise_accepted (r : PortRegistry) (groups : List PortGroup) :
    (r.accepted groups).Pairwise NumbersApart := by
  induction groups generalizing r with
  | nil => exact .nil
  | cons first rest ih =>
      rw [accepted_cons]
      split
      next hadmitted =>
        refine List.pairwise_cons.mpr ⟨fun group hgroup => ?_, ih _⟩
        apply (numbersApart_of_mem_accepted hgroup).subset
        rw [ports_register, if_pos hadmitted]
        exact List.subset_append_right _ _
      next => exact ih _

/-- What holds within each group, and of any two ports with different numbers of the
groups, holds of any two ports that are registered. -/
theorem pairwise_registerAll {relation : Port → Port → Prop}
    (hwithin : ∀ group ∈ groups, group.Pairwise relation)
    (hacross : ∀ group ∈ groups, ∀ other ∈ groups, ∀ p ∈ group, ∀ q ∈ other,
      p.number ≠ q.number → relation p q) :
    (registerAll {} groups).ports.Pairwise relation := by
  have hsubset := (accepted_sublist {} groups).subset
  rw [ports_registerAll, List.nil_append, List.pairwise_flatten]
  constructor
  · intro group hgroup
    exact hwithin group (hsubset hgroup)
  · refine (pairwise_accepted {} groups).imp_of_mem ?_
    intro group other hgroup hother happart p hp q hq
    exact hacross group (hsubset hgroup) other (hsubset hother) p hp q hq (happart p hp q hq)

/-- A group is admitted behind others just when no number of it is in one of those that
were accepted. -/
theorem admits_registerAll_iff :
    (registerAll {} groups).admits group = true ↔
      ∀ other ∈ accepted {} groups, NumbersApart other group := by
  rw [admits_iff_numbersApart, ports_registerAll]
  constructor
  · intro happart other hother
    exact happart.subset fun p hp => List.mem_flatten_of_mem hother hp
  · intro happart p hp
    obtain ⟨other, hother, hin⟩ := List.mem_flatten.mp hp
    exact happart other hother p hin

/-- Whatever was registered, the next group is accepted if and only if it has no number
of a group that was accepted before.  The accepted groups make up the ports, no number
is in two of them, and groups that are registered later only add ports behind. -/
theorem first_claim_wins (groups : List PortGroup) :
    (∀ group, (registerAll {} groups).admits group = true ↔
      ∀ other ∈ accepted {} groups, NumbersApart other group) ∧
    (∀ group, accepted {} (groups ++ [group]) =
      if (registerAll {} groups).admits group then accepted {} groups ++ [group]
      else accepted {} groups) ∧
    (registerAll {} groups).ports = (accepted {} groups).flatten ∧
    (accepted {} groups).Pairwise NumbersApart ∧
    ∀ more, (registerAll {} groups).ports <+: (registerAll {} (groups ++ more)).ports := by
  refine ⟨fun _ => admits_registerAll_iff, fun group => ?_, ports_registerAll {} groups,
    pairwise_accepted {} groups, fun more => ?_⟩
  · rw [accepted_append]
    simp only [accepted]
    split
    · rfl
    · exact List.append_nil _
  · rw [registerAll_append]
    exact prefix_registerAll _ more

/-- A group that is dropped takes no number, and one may have a number twice. -/
example :
    let port (number : Int) : Port := { name := "", number, protocol := .tcp, feature := "" }
    accepted {} [[port 1, port 1], [port 1, port 2], [port 2]] =
      [[port 1, port 1], [port 2]] := by
  decide

end AgentOperator.PortRegistry
