import AgentOperator.Cluster
import AgentOperator.Decimal.Binary64

/-!
# Trying again after a conflict

A write that met a newer version of its object is tried again, each time from a
fresh read, up to a number of attempts in all; any other failure is final.

Between two attempts there is a wait. It grows by a factor up to the longest wait and is
varied at random: `Action.retryPaced` has the waits, `Action.retryOnConflict` leaves them
out. A wait is a number of nanoseconds whose seconds fit in 64 bits, and it is computed as
a floating-point number of seconds, so one that grows out of that range is a crash.
-/

namespace AgentOperator

open Decimal (Binary64)

/-- Make at most the given number of attempts beyond the first one. -/
def Action.retryMore {σ α : Type} : Nat → Action σ α → Action σ α
  | 0, operation => operation
  | more + 1, operation => fun state =>
    match operation.run state with
    | (.ok value, state) => (.ok value, state)
    | (.error failure, state) =>
      if failure.isConflict then retryMore more operation state
      else (.error failure, state)

/-- Try an operation again while it ends in a conflict. There is a first attempt
whatever the budget. -/
def Action.retryOnConflict {σ α : Type} (maxAttempts : Nat) (operation : Action σ α) :
    Action σ α :=
  operation.retryMore (maxAttempts - 1)

/-- The attempts that are made where nothing else is said. -/
def defaultAttempts : Nat := 5

/-- The nanoseconds that no wait has: as many seconds as do not fit in 64 bits. -/
def waitLimit : Nat := Nat.pow 2 64 * Nat.pow 10 9

/-- How long to wait. -/
structure Wait where
  nanoseconds : Nat
  bounded : nanoseconds < waitLimit
deriving DecidableEq

namespace Wait

/-- The length in seconds: the whole ones and the part of one, each of them rounded. -/
def seconds (wait : Wait) : Binary64 :=
  let billion := Nat.pow 10 9
  (Binary64.ofNat (wait.nanoseconds / billion)).plus
    ((Binary64.ofNat (wait.nanoseconds % billion)).div (.ofNat billion))

/-- The wait of a number of seconds, to the nearest nanosecond. To ask for one of negative
length, or for one that is too long, is a crash. -/
def ofSeconds? (seconds : Binary64) : Option Wait :=
  if !seconds.isNonneg then none
  else
    let nanoseconds := Binary64.roundDiv (seconds.ratio.1 * Nat.pow 10 9) seconds.ratio.2
    if hbounded : nanoseconds < waitLimit then some ⟨nanoseconds, hbounded⟩ else none

/-- The wait times a factor. -/
def scaled? (wait : Wait) (factor : Binary64) : Option Wait :=
  ofSeconds? (wait.seconds.times factor)

/-- The wait times a factor, or the longest one if that is shorter. -/
def grown? (wait : Wait) (factor : Binary64) (longest : Wait) : Option Wait :=
  ofSeconds? ((wait.seconds.times factor).least longest.seconds)

def zero : Wait := ⟨0, by decide⟩

def tenMilliseconds : Wait := ⟨Nat.pow 10 7, by decide⟩

def second : Wait := ⟨Nat.pow 10 9, by decide⟩

/-- The longest wait of all. -/
def longest : Wait := ⟨waitLimit - 1, by decide⟩

example : tenMilliseconds.grown? (.ofNat 2) second = some ⟨20000000, by decide⟩ := by
  decide +kernel

example : tenMilliseconds.grown? (.infinity false) second = some second := by decide +kernel

example : longest.scaled? (.ofNat 1) = none := by decide +kernel

end Wait

/-- How often to try, and how long to wait in between. -/
structure RetrySettings where
  maxAttempts : UInt32 := .ofNat defaultAttempts
  initialDelay : Wait := .tenMilliseconds
  maxDelay : Wait := .second
  multiplier : Binary64 := .ofNat 2

/-- Not to wait between the attempts. -/
def RetrySettings.immediate (maxAttempts : UInt32) : RetrySettings :=
  { maxAttempts, initialDelay := .zero, maxDelay := .zero, multiplier := .ofNat 1 }

/-- By which factor the wait after each attempt is varied at random. -/
structure Jitter where
  factor : Nat → Binary64
  lower : ∀ attempt, (Binary64.ofDecimal false 5 (-1)).order ≤ (factor attempt).order
  upper : ∀ attempt, (factor attempt).order < (Binary64.ofDecimal false 15 (-1)).order

/-- How repeated attempts end: the number of the last one, and the waits before it. There
is no result if a wait after that attempt is a crash. -/
structure Paced (σ α : Type) where
  result : Option (Except Failure α)
  state : σ
  attempt : Nat
  waits : List Wait

namespace Paced

variable {σ α : Type}

def ended (result : Except Failure α) (state : σ) (attempt : Nat) : Paced σ α :=
  { result := some result, state, attempt, waits := [] }

def crash (state : σ) (attempt : Nat) : Paced σ α :=
  { result := none, state, attempt, waits := [] }

def after (wait : Wait) (paced : Paced σ α) : Paced σ α :=
  { paced with waits := wait :: paced.waits }

end Paced

/-- Go on trying after the given number of attempts, the next wait having the given
length before it is varied. -/
def Action.retryPacedFrom {σ α : Type} (settings : RetrySettings) (jitter : Jitter)
    (operation : Action σ α) (attempts : Nat) (delay : Wait) (state : σ) : Paced σ α :=
  let attempt := attempts + 1
  match operation.run state with
  | (.ok value, state) => .ended (.ok value) state attempt
  | (.error failure, state) =>
    if !failure.isConflict then .ended (.error failure) state attempt
    else if settings.maxAttempts.toNat ≤ attempt then .ended (.error failure) state attempt
    else
      (delay.scaled? (jitter.factor attempt)).elim (.crash state attempt) fun wait =>
        .after wait <|
          (delay.grown? settings.multiplier settings.maxDelay).elim (.crash state attempt)
            fun next => retryPacedFrom settings jitter operation attempt next state
termination_by settings.maxAttempts.toNat - attempts

/-- Try an operation again while it ends in a conflict, with waits in between. -/
def Action.retryPaced {σ α : Type} (settings : RetrySettings) (jitter : Jitter)
    (operation : Action σ α) (state : σ) : Paced σ α :=
  operation.retryPacedFrom settings jitter 0 settings.initialDelay state

end AgentOperator
