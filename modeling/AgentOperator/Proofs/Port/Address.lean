import AgentOperator.Port.Address

/-!
# Ports in addresses

The port of an address is the number behind the last colon that is followed by a digit.
The digits are those of any script, as far as they go on, but an address has a port only
if all of them are ASCII digits and their number is one of a port.
-/

namespace AgentOperator.Port

open Text (isDecimal decimalValue)

variable {cs run before after : List Char} {address : String} {n : Nat}

/-! ## The last run of digits -/

/-- The text does not begin with a digit. -/
def EndsRun (cs : List Char) : Prop := ∀ c, [c] <+: cs → isDecimal c = false

/-- No colon in the text is followed by a digit. -/
def Unmarked (cs : List Char) : Prop := ∀ c, [':', c] <:+: cs → isDecimal c = false

/-- The text is cut at its last colon before a digit, and the whole run of digits stands
behind that. -/
structure IsLastRun (cs before run after : List Char) : Prop where
  cut : cs = before ++ ':' :: (run ++ after)
  nonempty : run ≠ []
  whole : EndsRun after
  last : Unmarked after

theorem endsRun_cons {c : Char} : EndsRun (c :: cs) ↔ isDecimal c = false := by
  simp [EndsRun, List.cons_prefix_cons]

theorem takeWhile_eq_nil_iff : cs.takeWhile isDecimal = [] ↔ EndsRun cs := by
  cases cs with
  | nil => simp [EndsRun]
  | cons c rest =>
      rw [endsRun_cons, List.takeWhile_cons]
      split
      next hdigit => simp [hdigit]
      next hother => simpa using hother

theorem unmarked_cons {c : Char} :
    Unmarked (c :: cs) ↔ (c = ':' → EndsRun cs) ∧ Unmarked cs := by
  simp only [Unmarked, EndsRun, List.infix_cons_iff, List.cons_prefix_cons]
  constructor
  · intro hunmarked
    refine ⟨?_, fun d hd => hunmarked d (.inr hd)⟩
    rintro rfl d hd
    exact hunmarked d (.inl ⟨rfl, hd⟩)
  · rintro ⟨hends, hunmarked⟩ d (⟨heq, hd⟩ | hd)
    · exact hends heq.symm d hd
    · exact hunmarked d hd

theorem endsRun_dropWhile (cs : List Char) : EndsRun (cs.dropWhile isDecimal) := by
  intro c hfront
  obtain ⟨rest, hrest⟩ := hfront
  have hhead := List.head?_dropWhile_not isDecimal cs
  rw [← hrest] at hhead
  simpa using hhead

theorem Unmarked.of_suffix {rest : List Char} (hunmarked : Unmarked cs)
    (hsuffix : rest <:+ cs) : Unmarked rest :=
  fun c hwithin => hunmarked c (hwithin.trans hsuffix.isInfix)

theorem lastRun?_cons (c : Char) (rest : List Char) :
    lastRun? (c :: rest) = (lastRun? rest).or
      (if c = ':' ∧ rest.takeWhile isDecimal ≠ [] then some (rest.takeWhile isDecimal)
        else none) := by
  rw [lastRun?]
  cases lastRun? rest with
  | some run => rfl
  | none =>
      by_cases hcolon : c = ':'
      · by_cases hnone : rest.takeWhile isDecimal = []
        · simp [hcolon, hnone]
        · simp [hcolon, hnone]
      · simp [hcolon]

theorem lastRun?_eq_none_iff : lastRun? cs = none ↔ Unmarked cs := by
  induction cs with
  | nil => simp [lastRun?, Unmarked]
  | cons c rest ih =>
      rw [lastRun?_cons, Option.or_eq_none_iff, ih, unmarked_cons, ← takeWhile_eq_nil_iff]
      simp [and_comm]

/-- Digits in front do not change what the last run is. -/
theorem lastRun?_append_of_digits (hrun : ∀ c ∈ run, isDecimal c = true) :
    lastRun? (run ++ after) = lastRun? after := by
  induction run with
  | nil => rfl
  | cons c rest ih =>
      have hcolon : c ≠ ':' := by
        rintro rfl
        exact absurd (hrun ':' List.mem_cons_self) (by decide)
      rw [List.cons_append, lastRun?_cons, ih fun d hd => hrun d (List.mem_cons_of_mem _ hd)]
      simp [hcolon]

theorem takeWhile_append_of_endsRun (hrun : ∀ c ∈ run, isDecimal c = true)
    (hends : EndsRun after) : (run ++ after).takeWhile isDecimal = run := by
  rw [List.takeWhile_append_of_pos hrun, takeWhile_eq_nil_iff.mpr hends, List.append_nil]

theorem lastRun?_eq_some_iff :
    lastRun? cs = some run ↔
      (∀ c ∈ run, isDecimal c = true) ∧ ∃ before after, IsLastRun cs before run after := by
  constructor
  · intro hlast
    induction cs with
    | nil => simp [lastRun?] at hlast
    | cons c rest ih =>
        rw [lastRun?_cons] at hlast
        cases hrest : lastRun? rest with
        | some found =>
            rw [hrest, Option.some_or] at hlast
            obtain ⟨hrun, before, after, hcut⟩ := ih (hrest.trans hlast)
            exact ⟨hrun, c :: before, after,
              ⟨by rw [hcut.cut]; rfl, hcut.nonempty, hcut.whole, hcut.last⟩⟩
        | none =>
            rw [hrest, Option.none_or, Option.ite_none_right_eq_some] at hlast
            obtain ⟨⟨rfl, hsome⟩, heq⟩ := hlast
            obtain rfl := Option.some.inj heq
            refine ⟨fun d hd => List.all_eq_true.mp List.all_takeWhile d hd, [],
              rest.dropWhile isDecimal, ?_, hsome, endsRun_dropWhile rest, ?_⟩
            · rw [List.takeWhile_append_dropWhile]
              rfl
            · exact (lastRun?_eq_none_iff.mp hrest).of_suffix (List.dropWhile_suffix _)
  · rintro ⟨hrun, before, after, rfl, hsome, hends, hunmarked⟩
    induction before with
    | nil =>
        have hnone : lastRun? (run ++ after) = none := by
          rw [lastRun?_append_of_digits hrun]
          exact lastRun?_eq_none_iff.mpr hunmarked
        rw [List.nil_append, lastRun?_cons, hnone, takeWhile_append_of_endsRun hrun hends]
        simp [hsome]
    | cons c before ih => rw [List.cons_append, lastRun?_cons, ih, Option.some_or]

/-! ## The number of a run -/

theorem portOfRun?_eq_some_iff :
    portOfRun? run = some n ↔
      (∀ c ∈ run, c.isDigit = true) ∧ decimalValue run = n ∧ 1 ≤ n ∧ n ≤ 65535 := by
  unfold portOfRun?
  simp only [Option.ite_none_right_eq_some, Option.some.injEq, List.all_eq_true]
  constructor
  · rintro ⟨hdigits, hrange, rfl⟩
    exact ⟨hdigits, rfl, hrange⟩
  · rintro ⟨hdigits, rfl, hrange⟩
    exact ⟨hdigits, hrange, rfl⟩

theorem range_of_ofAddress? (hn : ofAddress? address = some n) : 1 ≤ n ∧ n ≤ 65535 := by
  obtain ⟨run, -, hrun⟩ := Option.bind_eq_some_iff.mp hn
  exact (portOfRun?_eq_some_iff.mp hrun).2.2

theorem range_of_address {address? : Option String} {number : Int}
    (hnumber : (address?.bind ofAddress?).map (fun n => (n : Int)) = some number) :
    1 ≤ number ∧ number ≤ 65535 := by
  obtain ⟨_, hcast, rfl⟩ := Option.map_eq_some_iff.mp hnumber
  obtain ⟨n, hn, hvalue⟩ := Option.bind_eq_some_iff.mp hcast
  obtain rfl := Option.some.inj hvalue
  obtain ⟨address, -, haddress⟩ := Option.bind_eq_some_iff.mp hn
  have hrange := range_of_ofAddress? haddress
  omega

/-! ## The port of an address -/

/-- The last run of digits in the address is one of ASCII digits, which write the number
of a port with any zeros in front. -/
def IsPortIn (address : String) (n : Nat) : Prop :=
  ∃ before digits after, IsLastRun address.toList before digits after ∧
    (∀ c ∈ digits, c.isDigit = true) ∧ Nat.ofDigitChars 10 digits 0 = n ∧ 1 ≤ n ∧ n ≤ 65535

theorem ofAddress?_exact (address : String) :
    (∀ n, ofAddress? address = some n ↔ IsPortIn address n) ∧
      (ofAddress? address = none ↔ ∀ n, ¬ IsPortIn address n) := by
  have hsome (n : Nat) : ofAddress? address = some n ↔ IsPortIn address n := by
    unfold ofAddress? IsPortIn
    rw [Option.bind_eq_some_iff]
    constructor
    · rintro ⟨run, hlast, hport⟩
      obtain ⟨-, before, after, hcut⟩ := lastRun?_eq_some_iff.mp hlast
      exact ⟨before, run, after, hcut, portOfRun?_eq_some_iff.mp hport⟩
    · rintro ⟨before, digits, after, hcut, hport⟩
      have hdecimal := fun c hc => Text.isDecimal_of_isDigit (hport.1 c hc)
      exact ⟨digits, lastRun?_eq_some_iff.mpr ⟨hdecimal, before, after, hcut⟩,
        portOfRun?_eq_some_iff.mpr hport⟩
  refine ⟨hsome, ?_⟩
  simp only [← hsome]
  exact Option.eq_none_iff_forall_ne_some

/-- A digit of another script ends the number, and an earlier run does not stand in. -/
example : ofAddress? "a:80:81٣" = none := by decide +kernel

end AgentOperator.Port
