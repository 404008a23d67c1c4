import AgentOperator.Port.Basic

/-!
# The registry of ports

Groups of ports are registered in turn, each whole or not at all: a group is
admitted when none of its numbers is taken. Members of one group may share a
number.
-/

namespace AgentOperator

theorem Port.claimed_iff_nil (number : Int) :
    number ∈ ([] : List Int) ↔ ∃ p ∈ ([] : List Port), p.number = number := by simp

/-- The ports that were registered, in order, and the numbers that are taken by
them. -/
structure PortRegistry where
  ports : List Port := []
  claimed : List Int := []
  /-- Just the numbers of the ports are taken. -/
  claimed_iff (number : Int) :
    number ∈ claimed ↔ ∃ p ∈ ports, p.number = number := by exact Port.claimed_iff_nil
deriving DecidableEq

namespace PortRegistry

instance : Inhabited PortRegistry := ⟨{}⟩

def claims (r : PortRegistry) (number : Int) : Bool := r.claimed.contains number

/-- Whether none of the numbers of a group is taken. -/
def admits (r : PortRegistry) (group : PortGroup) : Bool :=
  group.all fun p => !r.claims p.number

theorem claimed_iff_insert (r : PortRegistry) (p : Port) (number : Int) :
    number ∈ r.claimed.insert p.number ↔ ∃ q ∈ r.ports ++ [p], q.number = number := by
  simp only [List.mem_insert_iff, r.claimed_iff, List.mem_append, List.mem_singleton,
    or_and_right, exists_or, exists_eq_left]
  rw [or_comm, eq_comm]

/-- Put a port behind the others, and take its number. -/
def add (r : PortRegistry) (p : Port) : PortRegistry :=
  { ports := r.ports ++ [p]
    claimed := r.claimed.insert p.number
    claimed_iff := r.claimed_iff_insert p }

/-- Register a group, if it is admitted. -/
def register (r : PortRegistry) (group : PortGroup) : PortRegistry :=
  if r.admits group then group.foldl add r else r

def registerAll (r : PortRegistry) (groups : List PortGroup) : PortRegistry :=
  groups.foldl register r

def isEmpty (r : PortRegistry) : Bool := r.ports.isEmpty

theorem ports_foldl_add (r : PortRegistry) (group : PortGroup) :
    (group.foldl add r).ports = r.ports ++ group := by
  induction group generalizing r with
  | nil => simp
  | cons p rest ih =>
      rw [List.foldl_cons, ih]
      simp [add]

theorem ports_register (r : PortRegistry) (group : PortGroup) :
    (r.register group).ports = if r.admits group then r.ports ++ group else r.ports := by
  unfold register
  split
  · exact ports_foldl_add r group
  · rfl

end PortRegistry

end AgentOperator
