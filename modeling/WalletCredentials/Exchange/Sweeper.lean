import WalletCredentials.Exchange.Stores

/-!
# The sweeper

The sweeper sweeps the stores at its start and then once a period. When it comes late,
the next sweep is due a period after the late one, except that a few milliseconds do
not count as late.
-/

namespace WalletCredentials

/-- A timer that is due once a period. Its times are in milliseconds. -/
structure Ticker where
  period : Nat
  /-- The time since the start. -/
  elapsed : Nat
  /-- The time at which the timer is due next. -/
  due : Nat
  deriving DecidableEq, Repr

namespace Ticker

/-- The milliseconds that do not count as late. -/
def tolerance : Nat := 5

/-- The timer after its first tick, which comes at its start. -/
def start (period : Nat) : Ticker := ⟨period, 0, period⟩

/-- Moves the time on, and tells whether the timer was due by then. -/
def advance (ticker : Ticker) (millis : Nat) : Bool × Ticker :=
  let now := ticker.elapsed + millis
  if now < ticker.due then (false, { ticker with elapsed := now })
  else
    let late := now - ticker.due
    let due :=
      if tolerance < late then now + ticker.period
      else ticker.due + ticker.period * (late / ticker.period + 1)
    (true, { ticker with elapsed := now, due := due })

end Ticker

/-- The stores and the timer of their sweeper. -/
structure Sweeper where
  stores : Stores
  ticker : Ticker

namespace Sweeper

/-- Starts a sweeper, which sweeps at once. -/
def start (stores : Stores) (period : Nat) (now : Timestamp) : Sweeper :=
  ⟨(stores.sweep now).2, .start period⟩

/-- Moves the timer on to a time of the clock, and sweeps if it is due. -/
def advance (sweeper : Sweeper) (millis : Nat) (now : Timestamp) : Sweeper :=
  let (isDue, ticker) := sweeper.ticker.advance millis
  ⟨if isDue then (sweeper.stores.sweep now).2 else sweeper.stores, ticker⟩

end Sweeper

end WalletCredentials
