import AgentOperator.Proofs.Port.Names
import Mathlib.Data.Nat.Digits.Defs

/-!
# Well-formed listings of ports

What is resolved can be handed to a service and to a container as it is.  Accepting
a port keeps the numbers in range, the names valid and the addresses apart.  Since
no two of the accepted ports have one address, listing them in order puts their
addresses in strict order.
-/

namespace AgentOperator.Port

variable {accepted ports : List Port} {p q r : Port} {name : String}

/-! ## The name made from a number -/

theorem hasDoubleDash_of_notMem {cs : List Char} (hnone : '-' ∉ cs) :
    hasDoubleDash cs = false := by
  induction cs with
  | nil => rfl
  | cons c rest ih =>
      have hhead : c ≠ '-' := fun heq => hnone (heq ▸ List.mem_cons_self)
      have hrest := ih fun hmem => hnone (List.mem_cons_of_mem c hmem)
      simp [hasDoubleDash, hhead, hrest]

theorem hasDoubleDash_cons_of_head {c : Char} {cs : List Char}
    (hhead : cs.head? ≠ some '-') : hasDoubleDash (c :: cs) = hasDoubleDash cs := by
  cases cs with
  | nil => simp [hasDoubleDash]
  | cons d rest =>
      have hd : d ≠ '-' := by simpa using hhead
      simp [hasDoubleDash, hd]

theorem toList_fallbackName {n : Nat} (hnumber : p.number = n) :
    p.fallbackName.toList = "port-".toList ++ Nat.toDigits 10 n := by
  unfold fallbackName
  rw [hnumber, String.toList_append]
  congr 1
  exact Nat.toList_repr

/-- The name made from the number of a port is valid. -/
theorem isValidName_fallbackName (hlow : 1 ≤ p.number) (hhigh : p.number ≤ 65535) :
    isValidName p.fallbackName = true := by
  obtain ⟨n, hnumber⟩ : ∃ n : Nat, p.number = n := ⟨p.number.toNat, by omega⟩
  have hdigits : ∀ c ∈ Nat.toDigits 10 n, c.isDigit = true :=
    fun c hmem => Nat.isDigit_of_mem_toDigits (by decide) (by decide) hmem
  have hlength : (Nat.toDigits 10 n).length ≤ 5 :=
    (Nat.length_toDigits_le_iff (by decide) (by decide)).mpr (by omega)
  have hnone : '-' ∉ Nat.toDigits 10 n := fun hmem => absurd (hdigits _ hmem) (by decide)
  have hchars : (Nat.toDigits 10 n).all isNameChar = true := by
    rw [List.all_eq_true]
    intro c hmem
    simp [isNameChar, hdigits c hmem]
  have hlast : ('-' :: Nat.toDigits 10 n).getLast? ≠ some '-' := by
    obtain ⟨d, rest, hcons⟩ := List.exists_cons_of_ne_nil (Nat.toDigits_ne_nil (n := n))
    rw [hcons, List.getLast?_cons_cons, ← hcons]
    exact fun heq => hnone (List.mem_of_getLast? heq)
  have hdashes : hasDoubleDash ('-' :: Nat.toDigits 10 n) = false := by
    rw [hasDoubleDash_cons_of_head fun heq => hnone (List.mem_of_head? heq),
      hasDoubleDash_of_notMem hnone]
  unfold isValidName
  rw [toList_fallbackName hnumber]
  simp only [List.all_append, hchars]
  simp [isNameChar, isLowerLetter, maxNameLength, hasDoubleDash, hlast, hdashes]
  omega

/-! ## Ports in range -/

/-- The port has a valid name and numbers of ports. -/
structure IsListable (p : Port) : Prop where
  name : isValidName p.name = true
  number : 1 ≤ p.number ∧ p.number ≤ 65535
  containerPort : 1 ≤ p.containerPort ∧ p.containerPort ≤ 65535

theorem isAdmissible_iff :
    isAdmissible accepted p = true ↔
      (1 ≤ p.number ∧ p.number ≤ 65535) ∧ (1 ≤ p.containerPort ∧ p.containerPort ≤ 65535) ∧
        ∀ q ∈ accepted, q.address ≠ p.address := by
  unfold isAdmissible
  simp [and_assoc]

/-- A port that is accepted can be listed under the name that it is given. -/
theorem isListable_of_accepted (hadmissible : isAdmissible accepted p = true)
    (hname : acceptedName? accepted p = some name) : IsListable { p with name } := by
  obtain ⟨hnumber, hcontainer, -⟩ := isAdmissible_iff.mp hadmissible
  obtain ⟨hvalid, hcases⟩ := acceptedName?_cases hname
  refine ⟨?_, hnumber, hcontainer⟩
  show isValidName name = true
  rcases hcases with rfl | rfl
  · exact hvalid
  · exact isValidName_fallbackName hnumber.1 hnumber.2

/-! ## Accepted ports -/

/-- The ports can be listed, and no two of them have one address. -/
structure Listable (ports : List Port) : Prop where
  each : ∀ p ∈ ports, IsListable p
  apart : ports.Pairwise fun p q => p.address ≠ q.address

theorem Listable.accept (haccepted : Listable accepted) (p : Port) :
    Listable (accept accepted p) := by
  rcases accept_cases accepted p with hsame | ⟨name, hadmissible, hname, hadded⟩
  · rwa [hsame]
  · rw [hadded]
    constructor
    · intro q hq
      rcases List.mem_append.mp hq with hold | hnew
      · exact haccepted.each q hold
      · obtain rfl := List.mem_singleton.mp hnew
        exact isListable_of_accepted hadmissible hname
    · refine List.pairwise_append.mpr
        ⟨haccepted.apart, List.pairwise_singleton _ _, ?_⟩
      intro q hq r hr
      obtain rfl := List.mem_singleton.mp hr
      exact (isAdmissible_iff.mp hadmissible).2.2 q hq

theorem Listable.perm (hports : Listable ports) {others : List Port}
    (hperm : others.Perm ports) : Listable others :=
  ⟨fun p hmem => hports.each p (hperm.mem_iff.mp hmem),
    (hperm.pairwise_iff fun hne => hne.symm).mpr hports.apart⟩

theorem listable_finalize (ports : List Port) : Listable (finalize ports) := by
  have haccepted : Listable (ports.foldl Port.accept []) :=
    List.foldlRecOn ports Port.accept ⟨by simp, .nil⟩ fun _ hbefore p _ => hbefore.accept p
  exact haccepted.perm (finalize_perm ports)

/-! ## The order of listing -/

/-- The order of addresses: by number, then by protocol. -/
def Precedes (p q : Port) : Prop :=
  p.number < q.number ∨ p.number = q.number ∧ p.protocol.index < q.protocol.index

theorem Precedes.asymm (hpq : Precedes p q) : ¬ Precedes q p := by
  unfold Precedes at *
  omega

/-- Ports are listed in the order of their addresses, and of their names where they have
one address. -/
theorem isBefore_iff :
    isBefore p q = true ↔
      Precedes p q ∨ p.address = q.address ∧ p.name ≤ q.name := by
  unfold isBefore Precedes address
  by_cases hnumber : p.number = q.number
  · by_cases hprotocol : p.protocol = q.protocol
    · simp [hnumber, hprotocol]
    · simp [hnumber, hprotocol]
  · simp [hnumber]

theorem precedes_of_ne (hne : p.address ≠ q.address) : Precedes p q ∨ Precedes q p := by
  unfold Precedes
  by_cases hnumber : p.number = q.number
  · have hindex : p.protocol.index ≠ q.protocol.index := by
      intro heq
      exact hne (Prod.ext hnumber (Protocol.index_injective heq))
    omega
  · omega

theorem Precedes.congr_left (hpr : Precedes p r) (heq : q.address = p.address) :
    Precedes q r := by
  obtain ⟨hnumber, hprotocol⟩ := Prod.mk.inj heq
  unfold Precedes at *
  rwa [hnumber, hprotocol]

theorem Precedes.congr_right (hpq : Precedes p q) (heq : r.address = q.address) :
    Precedes p r := by
  obtain ⟨hnumber, hprotocol⟩ := Prod.mk.inj heq
  unfold Precedes at *
  rwa [hnumber, hprotocol]

theorem isBefore_trans (hpq : isBefore p q = true) (hqr : isBefore q r = true) :
    isBefore p r = true := by
  rw [isBefore_iff] at *
  rcases hpq with hpq | ⟨hsame, hname⟩
  · rcases hqr with hqr | ⟨hsame', -⟩
    · left
      unfold Precedes at *
      omega
    · exact .inl (hpq.congr_right hsame'.symm)
  · rcases hqr with hqr | ⟨hsame', hname'⟩
    · exact .inl (hqr.congr_left hsame)
    · exact .inr ⟨hsame.trans hsame', String.le_trans hname hname'⟩

theorem isBefore_total (p q : Port) : (isBefore p q || isBefore q p) = true := by
  rw [Bool.or_eq_true, isBefore_iff, isBefore_iff]
  by_cases hsame : p.address = q.address
  · rcases String.le_total p.name q.name with hname | hname
    · exact .inl (.inr ⟨hsame, hname⟩)
    · exact .inr (.inr ⟨hsame.symm, hname⟩)
  · exact (precedes_of_ne hsame).imp .inl .inl

/-- Among ports with addresses of their own the order of listing is strict. -/
theorem precedes_finalize (ports : List Port) : (finalize ports).Pairwise Precedes := by
  have hlisted : (finalize ports).Pairwise fun p q => isBefore p q = true :=
    @List.pairwise_mergeSort _ isBefore (fun _ _ _ => isBefore_trans) isBefore_total _
  refine hlisted.imp₂ ?_ (listable_finalize ports).apart
  intro p q hbefore hne
  rcases isBefore_iff.mp hbefore with hprecedes | ⟨hsame, -⟩
  · exact hprecedes
  · exact absurd hsame hne

/-- What is resolved is in the strict order of numbers and protocols, so that no two
ports have one number and protocol, no two have one name, each name is valid, and each
number is that of a port. -/
theorem resolve_wellFormed (families : List Family) (config : String)
    (otel : Option String) (overrides : List PortOverride) :
    (resolve families config otel overrides).Pairwise (fun p q =>
        p.number < q.number ∨
          p.number = q.number ∧ p.protocol.index < q.protocol.index) ∧
      (resolve families config otel overrides).Pairwise (fun p q => p.name ≠ q.name) ∧
      ∀ p ∈ resolve families config otel overrides,
        isValidName p.name = true ∧
          (1 ≤ p.number ∧ p.number ≤ 65535) ∧
          (1 ≤ p.containerPort ∧ p.containerPort ≤ 65535) := by
  refine ⟨precedes_finalize _, namesDistinct_finalize _, ?_⟩
  intro p hmem
  have hlistable := (listable_finalize _).each p hmem
  exact ⟨hlistable.name, hlistable.number, hlistable.containerPort⟩

end AgentOperator.Port
