import SloScript.Action

/-!
# The host

What a session takes from the program around it: the limit on nested calls, the time of day, a
source of random numbers, something to print on, and functions of its own. A function of the host is
an action like any other: it may declare and assign, make scopes and objects, set properties, print,
and remember something until it is called again. It always comes to an end and does not run programs
itself. The time, a random number and whether a line can be written are given as the answer to the
first, second, … request, so that a run is determined by its host.
-/

namespace SloScript

/-- A moment as a clock shows it. -/
structure Moment where
  hour : Nat
  minute : Nat
  second : Nat
  day : Nat
  month : Nat
  year : Nat
  deriving DecidableEq, Repr

namespace Moment

/-- Two digits at least. -/
def twoDigits (n : Nat) : String := (if n < 10 then "0" else "") ++ toString n

/-- The time with two digits each, then the date without leading zeros. -/
def text (m : Moment) : String :=
  twoDigits m.hour ++ ":" ++ twoDigits m.minute ++ ":" ++ twoDigits m.second ++ " :: " ++
    toString m.day ++ "." ++ toString m.month ++ "." ++ toString m.year

end Moment

/-- A function of the host: what it does when it is called from the given scope with the given
arguments, at the given span. -/
abbrev HostFunction := ScopeId → List Value → Span → Action Value

/-- A function of the host that only looks: what it yields for a store, the calling scope, the
arguments and the span of the call. -/
abbrev Callback := Store → ScopeId → List Value → Span → Except EvalError Value

/-- A function that looks is a function that leaves the state as it is. -/
def Callback.toFunction (callback : Callback) : HostFunction := fun scope args span st =>
  (callback st.store scope args span, st)

/-- What a session takes from the program around it. -/
structure Host where
  /-- How many functions may be active at once. -/
  limit : Nat
  /-- The moment that the given request for the time is answered with. -/
  clock : Nat → Moment
  /-- The number that the given request for randomness is answered with. -/
  draw : Nat → Nat
  /-- Why the given request to write a line is refused, if it is. What is captured always can be
  written. -/
  refuses : Nat → Option String := fun _ => none
  /-- The functions that a session was given, in the order in which they came. -/
  callbacks : Array HostFunction

namespace Host

/-- The answer to a request to write a line. -/
def writes (host : Host) (i : Nat) : Except EvalFault Unit :=
  match host.refuses i with
  | none => .ok ()
  | some message => .error (.outputFailed message)

/-- How many functions may be active at once unless something else is asked for. -/
def defaultLimit : Nat := 200

end Host

end SloScript
