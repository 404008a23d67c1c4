import AgentOperator.Proofs.Action
import AgentOperator.Proofs.Decimal.Binary64
import Mathlib.Order.Bounds.Basic
import Mathlib.Tactic.IntervalCases

/-!
# How often an operation is tried

An operation is tried until an attempt ends in anything but a conflict, or the attempts
are used up.  The waits in between do not change that, as long as they can be waited for:
a wait that grows to `2 ^ 64` seconds is a crash after the attempt it follows.  Where no
delay of the settings is longer than `2 ^ 60` seconds there is no such wait.
-/

namespace AgentOperator

open Decimal (Binary64)

variable {σ α : Type} {settings : RetrySettings} {jitter : Jitter} {operation : Action σ α}
  {attempts k : Nat} {delay wait : Wait} {s t : σ} {result : Except Failure α}
  {failure : Failure}

/-! ## Waits in range -/

namespace Wait

/-- So many seconds that their number does not fit in 64 bits. -/
def IsTooLong (seconds : Binary64) : Prop := (Binary64.ofNat (2 ^ 64)).order ≤ seconds.order

theorem isTooLong_iff {seconds : Binary64} (hseconds : seconds.isNonneg = true) :
    IsTooLong seconds ↔ (64 + 1023) * 2 ^ 52 ≤ seconds.magnitude := by
  have hlimit : (Binary64.ofNat (2 ^ 64)).order = ((64 + 1023) * 2 ^ 52 : Nat) := by
    decide +kernel
  rw [IsTooLong, hlimit, Binary64.order_of_isNonneg hseconds]
  exact Int.ofNat_le

theorem waitLimit_eq : waitLimit = 2 ^ 64 * 10 ^ 9 := rfl

theorem ofSeconds?_eq_none_iff {seconds : Binary64} (hseconds : seconds.isNonneg = true) :
    ofSeconds? seconds = none ↔ IsTooLong seconds := by
  rw [isTooLong_iff hseconds]
  unfold ofSeconds?
  rw [if_neg (by simp [hseconds]), seconds.ratio_two]
  have hpositive : 0 < 2 ^ Binary64.bias := Nat.two_pow_pos _
  constructor
  · intro hnone
    by_contra hshort
    -- The largest number below the limit is a whole number of seconds.
    have hratio := Binary64.ratio_le_of_magnitude_lt (Nat.not_le.mp hshort)
    have hpower : 2 ^ (64 + Binary64.bias - 53) = 2 ^ 11 * 2 ^ Binary64.bias := by
      rw [← pow_add]
      congr 1
      rw [Binary64.bias_eq]
    have hround : Binary64.roundDiv (seconds.ratio.1 * Nat.pow 10 9) (2 ^ Binary64.bias) ≤
        (2 ^ 53 - 1) * 2 ^ 11 * 10 ^ 9 := by
      apply Binary64.roundDiv_le hpositive
      calc seconds.ratio.1 * 10 ^ 9
          ≤ (2 ^ 53 - 1) * 2 ^ (64 + Binary64.bias - 53) * 10 ^ 9 :=
            Nat.mul_le_mul_right _ hratio
        _ = (2 ^ 53 - 1) * 2 ^ 11 * 10 ^ 9 * 2 ^ Binary64.bias := by rw [hpower]; ring
    have hbounded : (2 ^ 53 - 1) * 2 ^ 11 * 10 ^ 9 < waitLimit := by decide
    simp [hround.trans_lt hbounded] at hnone
  · intro hlong
    have hratio := Binary64.two_pow_le_ratio hlong
    have hround : waitLimit ≤
        Binary64.roundDiv (seconds.ratio.1 * Nat.pow 10 9) (2 ^ Binary64.bias) := by
      apply Binary64.le_roundDiv hpositive
      calc waitLimit * 2 ^ Binary64.bias = 2 ^ (64 + Binary64.bias) * 10 ^ 9 := by
            rw [waitLimit_eq, pow_add]; ring
        _ ≤ seconds.ratio.1 * 10 ^ 9 := Nat.mul_le_mul_right _ hratio
    simp [hround.not_gt]

theorem nanoseconds_of_ofSeconds? {seconds : Binary64} (hwait : ofSeconds? seconds = some wait)
    (hseconds : seconds.magnitude ≤ (k + 1023) * 2 ^ 52) :
    wait.nanoseconds ≤ 2 ^ k * 10 ^ 9 := by
  unfold ofSeconds? at hwait
  split at hwait
  · simp at hwait
  · dsimp only at hwait
    split at hwait
    · obtain rfl := Option.some.inj hwait
      dsimp only
      rw [seconds.ratio_two]
      apply Binary64.roundDiv_le (Nat.two_pow_pos _)
      calc seconds.ratio.1 * 10 ^ 9 ≤ 2 ^ (k + Binary64.bias) * 10 ^ 9 :=
            Nat.mul_le_mul_right _ (Binary64.ratio_le_two_pow hseconds)
        _ = 2 ^ k * 10 ^ 9 * 2 ^ Binary64.bias := by rw [pow_add]; ring
    · simp at hwait

theorem isNonneg_seconds (wait : Wait) : wait.seconds.isNonneg = true :=
  Binary64.isNonneg_plus _ _

theorem magnitude_seconds_le (hk : 1 ≤ k) (hwait : wait.nanoseconds ≤ 2 ^ k * 10 ^ 9) :
    wait.seconds.magnitude ≤ (k + 1 + 1023) * 2 ^ 52 := by
  have hwhole : wait.nanoseconds / Nat.pow 10 9 ≤ 2 ^ k :=
    Nat.div_le_of_le_mul (by rwa [Nat.mul_comm])
  have hrest : wait.nanoseconds % Nat.pow 10 9 ≤ 2 ^ 30 := by
    have hless := Nat.mod_lt wait.nanoseconds (by decide : 0 < Nat.pow 10 9)
    exact hless.le.trans (by decide)
  have hbillion : (29 + 1023) * 2 ^ 52 ≤ (Binary64.ofNat (Nat.pow 10 9)).magnitude := by
    decide +kernel
  have hpart : ((Binary64.ofNat (wait.nanoseconds % Nat.pow 10 9)).div
      (.ofNat (Nat.pow 10 9))).magnitude ≤ (1 + 1023) * 2 ^ 52 :=
    Binary64.magnitude_div_le (Binary64.magnitude_ofNat_le hrest) hbillion
  exact Binary64.magnitude_plus_le (Binary64.magnitude_ofNat_le hwhole)
    (hpart.trans (Nat.mul_le_mul_right _ (by omega)))

theorem isFinite_seconds (wait : Wait) : wait.seconds.isFinite = true := by
  have hbound : wait.nanoseconds ≤ 2 ^ 64 * 10 ^ 9 := wait.bounded.le
  have hmagnitude := magnitude_seconds_le (by omega) hbound
  have hinfinity : (64 + 1 + 1023) * 2 ^ 52 < Binary64.infinityMagnitude := by decide
  exact decide_eq_true (hmagnitude.trans_lt hinfinity)

end Wait

namespace Jitter

theorem order_factor (jitter : Jitter) (attempt : Nat) :
    1022 * 2 ^ 52 ≤ (jitter.factor attempt).order ∧
      (jitter.factor attempt).order < 1023 * 2 ^ 52 + 2 ^ 51 := by
  have hhalf : (Binary64.ofDecimal false 5 (-1)).order = 1022 * 2 ^ 52 := by decide +kernel
  have hmore : (Binary64.ofDecimal false 15 (-1)).order = 1023 * 2 ^ 52 + 2 ^ 51 := by
    decide +kernel
  exact ⟨hhalf ▸ jitter.lower attempt, hmore ▸ jitter.upper attempt⟩

theorem magnitude_factor_lt (jitter : Jitter) (attempt : Nat) :
    (jitter.factor attempt).magnitude < (1 + 1023) * 2 ^ 52 := by
  obtain ⟨hlower, hupper⟩ := jitter.order_factor attempt
  unfold Binary64.order at hlower hupper
  by_cases hsign : (jitter.factor attempt).isNegative = true
  · rw [if_pos hsign] at hlower
    omega
  · rw [if_neg hsign] at hupper
    omega

theorem isFinite_factor (jitter : Jitter) (attempt : Nat) :
    (jitter.factor attempt).isFinite = true := by
  have hinfinity : (1 + 1023) * 2 ^ 52 ≤ Binary64.infinityMagnitude := by decide
  exact decide_eq_true ((jitter.magnitude_factor_lt attempt).trans_le hinfinity)

theorem isNonneg_factor (jitter : Jitter) (attempt : Nat) :
    (jitter.factor attempt).isNonneg = true := by
  obtain ⟨hlower, -⟩ := jitter.order_factor attempt
  exact Binary64.isNonneg_iff.mpr
    ⟨Binary64.isNaN_of_isFinite (jitter.isFinite_factor attempt), by omega⟩

end Jitter

namespace Wait

theorem isNonneg_scaled (wait : Wait) (jitter : Jitter) (attempt : Nat) :
    (wait.seconds.times (jitter.factor attempt)).isNonneg = true := by
  rw [Binary64.times_of_isFinite wait.isFinite_seconds (jitter.isFinite_factor attempt)]
  exact Binary64.isNonneg_mul wait.isNonneg_seconds (jitter.isNonneg_factor attempt)

theorem isNonneg_grown (wait longest : Wait) {factor : Binary64}
    (hfactor : factor.isNonneg = true) :
    ((wait.seconds.times factor).least longest.seconds).isNonneg = true :=
  Binary64.isNonneg_least (Binary64.isNaN_or_isNonneg_times wait.isNonneg_seconds hfactor)
    longest.isNonneg_seconds

end Wait

namespace RetrySettings

/-- The length of the wait that follows so many attempts and one more, before it is
varied. -/
def delay? (settings : RetrySettings) : Nat → Option Wait
  | 0 => some settings.initialDelay
  | attempts + 1 =>
    (settings.delay? attempts).bind fun delay =>
      delay.grown? settings.multiplier settings.maxDelay

/-- The wait after an attempt is too long once it is varied, or the one that is to follow
it is. -/
def Crashes (settings : RetrySettings) (jitter : Jitter) (attempt : Nat) : Prop :=
  ∃ delay, settings.delay? (attempt - 1) = some delay ∧
    (Wait.IsTooLong (delay.seconds.times (jitter.factor attempt)) ∨
      Wait.IsTooLong
        ((delay.seconds.times settings.multiplier).least settings.maxDelay.seconds))

/-- No delay that is set is longer than `2 ^ 60` seconds. -/
structure IsShort (settings : RetrySettings) : Prop where
  initial : settings.initialDelay.nanoseconds ≤ 2 ^ 60 * 10 ^ 9
  max : settings.maxDelay.nanoseconds ≤ 2 ^ 60 * 10 ^ 9

theorem IsShort.grown_le (hshort : settings.IsShort) (delay : Wait) :
    ((delay.seconds.times settings.multiplier).least settings.maxDelay.seconds).order ≤
      ((61 + 1023) * 2 ^ 52 : Nat) := by
  have hmax := settings.maxDelay.isNonneg_seconds
  have hbound := Wait.magnitude_seconds_le (by omega) hshort.max
  calc _ ≤ settings.maxDelay.seconds.order :=
        Binary64.order_least_le (Binary64.isNonneg_iff.mp hmax).1
    _ = settings.maxDelay.seconds.magnitude := Binary64.order_of_isNonneg hmax
    _ ≤ ((61 + 1023) * 2 ^ 52 : Nat) := Int.ofNat_le.mpr hbound

theorem IsShort.delay_le (hshort : settings.IsShort)
    (hmultiplier : settings.multiplier.isNonneg = true) {attempts : Nat} {delay : Wait}
    (hdelay : settings.delay? attempts = some delay) :
    delay.nanoseconds ≤ 2 ^ 61 * 10 ^ 9 := by
  cases attempts with
  | zero =>
      obtain rfl := Option.some.inj hdelay
      exact hshort.initial.trans (by decide)
  | succ attempts =>
      obtain ⟨earlier, -, hgrown⟩ := Option.bind_eq_some_iff.mp hdelay
      have hbound := hshort.grown_le earlier
      rw [Binary64.order_of_isNonneg (earlier.isNonneg_grown settings.maxDelay hmultiplier)]
        at hbound
      exact Wait.nanoseconds_of_ofSeconds? hgrown (Int.ofNat_le.mp hbound)

theorem IsShort.not_crashes (hshort : settings.IsShort)
    (hmultiplier : settings.multiplier.isNonneg = true) (jitter : Jitter) (attempt : Nat) :
    ¬ settings.Crashes jitter attempt := by
  rintro ⟨delay, hdelay, hvaried | hgrown⟩
  · have hbound := Wait.magnitude_seconds_le (by omega) (hshort.delay_le hmultiplier hdelay)
    rw [Wait.isTooLong_iff (delay.isNonneg_scaled jitter attempt), Binary64.times_of_isFinite
      delay.isFinite_seconds (jitter.isFinite_factor attempt)] at hvaried
    have hproduct := Binary64.magnitude_mul_le hbound (jitter.magnitude_factor_lt attempt).le
    exact absurd (hvaried.trans hproduct) (by decide)
  · have hbound := hshort.grown_le delay
    have hnonneg := delay.isNonneg_grown settings.maxDelay hmultiplier
    rw [Wait.isTooLong_iff hnonneg] at hgrown
    rw [Binary64.order_of_isNonneg hnonneg] at hbound
    exact absurd (hgrown.trans (Int.ofNat_le.mp hbound)) (by decide)

theorem isNonneg_multiplier_immediate (maxAttempts : UInt32) :
    (immediate maxAttempts).multiplier.isNonneg = true := by
  simp only [immediate, Binary64.isNonneg_ofNat]

theorem isShort_immediate (maxAttempts : UInt32) : (immediate maxAttempts).IsShort :=
  ⟨Nat.zero_le _, Nat.zero_le _⟩

end RetrySettings

theorem Paced.foldr_after (waits : List Wait) (paced : Paced σ α) :
    waits.foldr .after paced = { paced with waits := waits ++ paced.waits } := by
  induction waits with
  | nil => rfl
  | cons wait waits ih =>
      rw [List.foldr_cons, ih]
      rfl

/-- No other attempt follows: it is a success, or a failure that is no conflict. -/
def IsFinal (result : Except Failure α) : Prop :=
  ∀ failure, result = .error failure → failure.isConflict = false

theorem isFinal_ok (value : α) : IsFinal (.ok value) := fun _ hfails => by simp at hfails

theorem exists_conflict_of_not_isFinal (hresult : ¬ IsFinal result) :
    ∃ failure, result = .error failure ∧ failure.isConflict = true := by
  simpa [IsFinal] using hresult

/-- An operation that answers its calls with the terms of a sequence, the first one with
number one; its state is how often it has been called. -/
def scripted (outcomes : Nat → Except Failure α) : Action Nat α :=
  fun calls => (outcomes (calls + 1), calls + 1)

theorem run_scripted (outcomes : Nat → Except Failure α) (calls : Nat) :
    Action.run (scripted outcomes) calls = (outcomes (calls + 1), calls + 1) := rfl

/-- The attempt that ends a sequence of outcomes: the first one that another does not
follow, or the last one that is allowed. -/
theorem exists_last_attempt (outcomes : Nat → Except Failure α) {most : Nat}
    (hmost : 1 ≤ most) :
    ∃ last, 1 ≤ last ∧ last ≤ most ∧
      (∀ call, 1 ≤ call → call < last → ¬ IsFinal (outcomes call)) ∧
      (IsFinal (outcomes last) ∨ last = most) := by
  classical
  by_cases hfinal : ∃ call, 1 ≤ call ∧ IsFinal (outcomes call)
  · have hfirst := Nat.find_spec hfinal
    have hbefore : ∀ call, 1 ≤ call → call < Nat.find hfinal → ¬ IsFinal (outcomes call) :=
      fun call hcall hless hends => Nat.find_min hfinal hless ⟨hcall, hends⟩
    rcases Nat.lt_or_ge most (Nat.find hfinal) with hlate | hearly
    · exact ⟨most, hmost, le_rfl, fun call hcall hless => hbefore call hcall (hless.trans hlate),
        .inr rfl⟩
    · exact ⟨Nat.find hfinal, hfirst.1, hearly, hbefore, .inl hfirst.2⟩
  · exact ⟨most, hmost, le_rfl, fun call hcall _ hends => hfinal ⟨call, hcall, hends⟩,
      .inr rfl⟩

namespace Action

/-! ## One attempt -/

theorem retryPacedFrom_of_final (hrun : Action.run operation s = (result, t))
    (hfinal : IsFinal result) :
    operation.retryPacedFrom settings jitter attempts delay s =
      .ended result t (attempts + 1) := by
  unfold retryPacedFrom
  rw [hrun]
  cases result with
  | ok value => rfl
  | error failure => simp [hfinal failure rfl]

theorem retryPacedFrom_of_spent (hrun : Action.run operation s = (result, t))
    (hspent : settings.maxAttempts.toNat ≤ attempts + 1) :
    operation.retryPacedFrom settings jitter attempts delay s =
      .ended result t (attempts + 1) := by
  unfold retryPacedFrom
  rw [hrun]
  cases result with
  | ok value => rfl
  | error failure => simp [hspent]

/-- After a conflict there is a wait, and then the attempts go on. -/
theorem retryPacedFrom_of_conflict (hmultiplier : settings.multiplier.isNonneg = true)
    (hdelay : settings.delay? attempts = some delay)
    (hcalm : ¬ settings.Crashes jitter (attempts + 1))
    (hrun : Action.run operation s = (.error failure, t))
    (hconflict : failure.isConflict = true)
    (hmore : attempts + 1 < settings.maxAttempts.toNat) :
    ∃ wait next, settings.delay? (attempts + 1) = some next ∧
      operation.retryPacedFrom settings jitter attempts delay s =
        (operation.retryPacedFrom settings jitter (attempts + 1) next t).after wait := by
  have hscaled : delay.scaled? (jitter.factor (attempts + 1)) ≠ none := fun hnone =>
    hcalm ⟨delay, hdelay, .inl
      ((Wait.ofSeconds?_eq_none_iff (delay.isNonneg_scaled jitter _)).mp hnone)⟩
  have hgrown : delay.grown? settings.multiplier settings.maxDelay ≠ none := fun hnone =>
    hcalm ⟨delay, hdelay, .inr
      ((Wait.ofSeconds?_eq_none_iff
        (delay.isNonneg_grown settings.maxDelay hmultiplier)).mp hnone)⟩
  obtain ⟨wait, hwait⟩ := Option.ne_none_iff_exists'.mp hscaled
  obtain ⟨next, hnext⟩ := Option.ne_none_iff_exists'.mp hgrown
  refine ⟨wait, next, ?_, ?_⟩
  · rw [RetrySettings.delay?, hdelay, Option.bind_some, hnext]
  · rw [retryPacedFrom, hrun]
    simp only [hconflict, Bool.not_true, Bool.false_eq_true, if_false, hmore.not_ge, hwait,
      hnext, Option.elim_some]

/-- After a conflict whose wait is too long there is no other attempt. -/
theorem retryPacedFrom_of_crash (hmultiplier : settings.multiplier.isNonneg = true)
    (hdelay : settings.delay? attempts = some delay)
    (hcrash : settings.Crashes jitter (attempts + 1))
    (hrun : Action.run operation s = (.error failure, t))
    (hconflict : failure.isConflict = true)
    (hmore : attempts + 1 < settings.maxAttempts.toNat) :
    ∃ waits, operation.retryPacedFrom settings jitter attempts delay s =
      { result := none, state := t, attempt := attempts + 1, waits } := by
  obtain ⟨other, hother, hlong⟩ := hcrash
  obtain rfl : delay = other := Option.some.inj (hdelay.symm.trans hother)
  rw [retryPacedFrom, hrun]
  simp only [hconflict, Bool.not_true, Bool.false_eq_true, if_false, hmore.not_ge]
  cases hwait : delay.scaled? (jitter.factor (attempts + 1)) with
  | none => exact ⟨[], rfl⟩
  | some wait =>
      have hvaried : ¬ Wait.IsTooLong (delay.seconds.times (jitter.factor (attempts + 1))) := by
        intro hvaried
        have hnone := (Wait.ofSeconds?_eq_none_iff (delay.isNonneg_scaled jitter _)).mpr hvaried
        simp [Wait.scaled?, hnone] at hwait
      have hnext : delay.grown? settings.multiplier settings.maxDelay = none :=
        (Wait.ofSeconds?_eq_none_iff (delay.isNonneg_grown settings.maxDelay hmultiplier)).mpr
          (hlong.resolve_left hvaried)
      rw [hnext]
      exact ⟨[wait], rfl⟩

/-! ## All attempts -/

/-- Where no wait is too long, the waits make no difference to what comes of repeated
attempts. -/
theorem retryPacedFrom_eq_retryMore (hmultiplier : settings.multiplier.isNonneg = true)
    (hcalm : ∀ attempt, ¬ settings.Crashes jitter attempt)
    (hdelay : settings.delay? attempts = some delay) :
    let paced := operation.retryPacedFrom settings jitter attempts delay s
    let more := settings.maxAttempts.toNat - (attempts + 1)
    (paced.result, paced.state) =
      (some (Action.run (operation.retryMore more) s).1,
        (Action.run (operation.retryMore more) s).2) := by
  dsimp only
  induction hmore : settings.maxAttempts.toNat - (attempts + 1)
    generalizing attempts delay s with
  | zero =>
      rcases hrun : Action.run operation s with ⟨result, t⟩
      rw [retryPacedFrom_of_spent hrun (by omega), retryMore, hrun]
      rfl
  | succ more ih =>
      rcases hrun : Action.run operation s with ⟨result, t⟩
      by_cases hfinal : IsFinal result
      · rw [retryPacedFrom_of_final hrun hfinal, run_retryMore_of_final hrun hfinal]
        rfl
      · obtain ⟨failure, rfl, hconflict⟩ := exists_conflict_of_not_isFinal hfinal
        obtain ⟨wait, next, hnext, hpaced⟩ := retryPacedFrom_of_conflict hmultiplier hdelay
          (hcalm (attempts + 1)) hrun hconflict (by omega)
        rw [hpaced, run_retryMore_succ, hrun]
        simp only [hconflict, if_true]
        exact ih hnext (by omega)

/-- With short delays, repeated attempts give what they give without waits. -/
theorem retryPaced_eq_retryOnConflict (operation : Action σ α) (s : σ)
    (hmultiplier : settings.multiplier.isNonneg = true) (hshort : settings.IsShort)
    (jitter : Jitter) :
    let paced := operation.retryPaced settings jitter s
    let run := Action.run (operation.retryOnConflict settings.maxAttempts.toNat) s
    (paced.result, paced.state) = (some run.1, run.2) :=
  retryPacedFrom_eq_retryMore hmultiplier (hshort.not_crashes hmultiplier jitter) rfl

/-! ## All calls of a sequence -/

variable {outcomes : Nat → Except Failure α} {reached last call : Nat}

/-- Conflicts that can be waited for lead from one number of calls to another. -/
theorem retryPacedFrom_scripted (hmultiplier : settings.multiplier.isNonneg = true)
    (outcomes : Nat → Except Failure α)
    (hdelay : settings.delay? attempts = some delay) (hle : attempts ≤ reached)
    (hgo : ∀ call, attempts < call → call ≤ reached →
      call < settings.maxAttempts.toNat ∧ ¬ IsFinal (outcomes call) ∧
        ¬ settings.Crashes jitter call) :
    ∃ (next : Wait) (waits : List Wait),
      settings.delay? reached = some next ∧ waits.length = reached - attempts ∧
      (scripted outcomes).retryPacedFrom settings jitter attempts delay attempts =
        waits.foldr .after
          ((scripted outcomes).retryPacedFrom settings jitter reached next reached) := by
  induction hcount : reached - attempts generalizing attempts delay with
  | zero =>
      obtain rfl : attempts = reached := by omega
      exact ⟨delay, [], hdelay, rfl, rfl⟩
  | succ count ih =>
      obtain ⟨hmore, hfinal, hcalm⟩ := hgo (attempts + 1) (by omega) (by omega)
      obtain ⟨failure, hfails, hconflict⟩ := exists_conflict_of_not_isFinal hfinal
      have hrun := run_scripted outcomes attempts
      rw [hfails] at hrun
      obtain ⟨wait, next, hnext, hpaced⟩ :=
        retryPacedFrom_of_conflict hmultiplier hdelay hcalm hrun hconflict hmore
      obtain ⟨later, waits, hlater, hlength, hrest⟩ := ih hnext (by omega)
        (fun call hcall hbound => hgo call (by omega) hbound) (by omega)
      refine ⟨later, wait :: waits, hlater, by rw [List.length_cons, hlength], ?_⟩
      rw [hpaced, hrest, List.foldr_cons]

/-- Where no wait is too long, the calls go on to the attempt that ends the sequence. -/
theorem retryPaced_scripted (hmultiplier : settings.multiplier.isNonneg = true)
    (hpositive : 1 ≤ last) (hbound : last ≤ max 1 settings.maxAttempts.toNat)
    (hbefore : ∀ call, 1 ≤ call → call < last → ¬ IsFinal (outcomes call))
    (hends : IsFinal (outcomes last) ∨ last = max 1 settings.maxAttempts.toNat)
    (hcalm : ∀ call, 1 ≤ call → call < last → ¬ settings.Crashes jitter call) :
    ∃ waits : List Wait, waits.length + 1 = last ∧
      (scripted outcomes).retryPaced settings jitter 0 =
        { result := some (outcomes last), state := last, attempt := last, waits } := by
  obtain ⟨next, waits, hnext, hlength, hpaced⟩ :=
    retryPacedFrom_scripted hmultiplier outcomes rfl (Nat.zero_le (last - 1))
      fun call hcall hless => ⟨by omega, hbefore call hcall (by omega),
        hcalm call hcall (by omega)⟩
  have hrun := run_scripted outcomes (last - 1)
  rw [Nat.sub_add_cancel hpositive] at hrun
  have hended : (scripted outcomes).retryPacedFrom settings jitter (last - 1) next (last - 1) =
      .ended (outcomes last) last (last - 1 + 1) := by
    rcases hends with hfinal | hspent
    · exact retryPacedFrom_of_final hrun hfinal
    · exact retryPacedFrom_of_spent hrun (by omega)
  refine ⟨waits, by omega, ?_⟩
  rw [retryPaced, hpaced, hended, Paced.foldr_after, Nat.sub_add_cancel hpositive]
  simp [Paced.ended]

/-- The first wait that is too long ends the calls without a result. -/
theorem retryPaced_scripted_of_crash (hmultiplier : settings.multiplier.isNonneg = true)
    (hpositive : 1 ≤ call) (hmore : call < settings.maxAttempts.toNat)
    (hbefore : ∀ earlier, 1 ≤ earlier → earlier ≤ call → ¬ IsFinal (outcomes earlier))
    (hcalm : ∀ earlier, 1 ≤ earlier → earlier < call → ¬ settings.Crashes jitter earlier)
    (hcrash : settings.Crashes jitter call) :
    ∃ waits, (scripted outcomes).retryPaced settings jitter 0 =
      { result := none, state := call, attempt := call, waits } := by
  obtain ⟨next, waits, hnext, -, hpaced⟩ :=
    retryPacedFrom_scripted hmultiplier outcomes rfl (Nat.zero_le (call - 1))
      fun earlier hcall hless => ⟨by omega, hbefore earlier hcall (by omega),
        hcalm earlier hcall (by omega)⟩
  have hrun := run_scripted outcomes (call - 1)
  obtain ⟨failure, hfails, hconflict⟩ :=
    exists_conflict_of_not_isFinal (hbefore call hpositive le_rfl)
  rw [Nat.sub_add_cancel hpositive, hfails] at hrun
  rw [← Nat.sub_add_cancel hpositive] at hcrash
  obtain ⟨more, hcrashed⟩ :=
    retryPacedFrom_of_crash hmultiplier hnext hcrash hrun hconflict (by omega)
  refine ⟨waits ++ more, ?_⟩
  rw [retryPaced, hpaced, hcrashed, Paced.foldr_after, Nat.sub_add_cancel hpositive]

end Action

/-- Waits that are not varied. -/
def Jitter.steady : Jitter where
  factor _ := .ofNat 1
  lower _ := by decide +kernel
  upper _ := by decide +kernel

/-- Two conflicts, one of them attributed to an object, before a success. -/
def refusedTwice (call : Nat) : Except Failure Nat :=
  match call with
  | 1 => .error (.api { code := 409 })
  | 2 => .error (.object "ConfigMap/ns/web" (.api { code := 409 }))
  | _ => .ok 7

/-- A delay that grows by the factor `10 ^ 30`, up to the longest wait of all. -/
def RetrySettings.boundless : RetrySettings :=
  { maxDelay := .longest, multiplier := .ofDecimal false 1 30 }

/-- A conflict before a success. -/
def refusedOnce (call : Nat) : Except Failure Nat :=
  match call with
  | 1 => .error (.api { code := 409 })
  | _ => .ok 7

end AgentOperator
