import Convoy.Address
import Convoy.Log

/-!
# Gates

A gate holds a service back until an address accepts connections, or gives up once its time is over.
Attempts start at fixed distances from each other, and each has a budget of its own. How an address
answers is a function of the instant and the budget, so that a wait is a value that can be reasoned
about: what was attempted when, and how it ended. When a pause is over is a function too, which is
that of a timer. A wait that has to name an instant after the end of the clock crashes.
-/

namespace Convoy

/-- What is waited for, how long, and how often it is tried. -/
structure Gate where
  target : Address
  timeout : Duration
  pollInterval : Duration
  /-- No two attempts start closer together than ten milliseconds. -/
  spaced : Duration.ofMillis 10 ≤ pollInterval
  deriving DecidableEq

/-- How an address answers one attempt: after which time, and if it refuses, in which words. -/
structure Answer where
  delay : Duration
  refusal : Option String
  deriving DecidableEq

/-- How addresses answer, by the instant at which an attempt starts and the budget it has. -/
abbrev Connector := Address → Duration → Duration → Answer

/-- The timer that ends pauses: a pause until some instant is never over before it, but it may be over
later. -/
structure Timer where
  /-- When a pause is over that begins at an instant and is to last until another. -/
  wake : Duration → Duration → Duration
  notEarly : ∀ now due, max now due ≤ wake now due

namespace Timer

/-- The timer that is never late. -/
def exact : Timer := ⟨max, fun _ _ => Nat.le_refl _⟩

/-- Whether a timer ends every pause at the very instant that was asked for. -/
def Exact (timer : Timer) : Prop := ∀ now due, timer.wake now due = max now due

end Timer

/-- An attempt before its answer: when it starts, and how long it may take. -/
structure Start where
  started : Duration
  budget : Duration
  deriving DecidableEq

/-- One attempt to connect. -/
structure Attempt where
  started : Duration
  budget : Duration
  finished : Duration
  refusal : Option String
  deriving DecidableEq

namespace Attempt

def succeeded (attempt : Attempt) : Bool := attempt.refusal.isNone

/-- How an attempt began. -/
def start (attempt : Attempt) : Start := ⟨attempt.started, attempt.budget⟩

end Attempt

/-- The course of a wait. -/
structure Wait where
  /-- How long it took to get a connection, or why there is none. -/
  result : Except Cause Duration
  finished : Duration
  attempts : List Attempt

namespace Wait

/-- The course of a wait that needs an instant after the end of the clock. -/
def crashed (finished : Duration) (attempts : List Attempt) : Wait :=
  ⟨.error (.overflow .instant), finished, attempts⟩

/-- The course of a wait with one more attempt before it. -/
def after (attempt : Attempt) (wait : Wait) : Wait :=
  { wait with attempts := attempt :: wait.attempts }

/-- The attempts that a wait started. -/
def starts (wait : Wait) : List Start := wait.attempts.map (·.start)

end Wait

/-- The course of a wait that something else can call off. -/
structure Race extends Wait where
  /-- The attempt that was under way when the wait was called off. It is given up without an
  answer. -/
  abandoned : Option Start

namespace Race

/-- The course of a wait that nothing called off. -/
def ofWait (wait : Wait) : Race := ⟨wait, none⟩

/-- The course of a race with one more attempt before it. -/
def after (attempt : Attempt) (race : Race) : Race :=
  { race with toWait := race.toWait.after attempt }

/-- The attempts that a wait started until it ended or was called off. -/
def starts (race : Race) : List Start := race.toWait.starts ++ race.abandoned.toList

end Race

namespace Gate

/-- The distance between attempts where none is given. -/
def standardInterval : Duration := .ofSeconds 1

/-- The time a gate has where none is given. -/
def standardTimeout : Duration := .ofSeconds 30

/-- The least distance between attempts. -/
def leastInterval : Duration := .ofMillis 10

/-- A gate with the usual distance between attempts. -/
def ofTarget (target : Address) (timeout : Duration) : Gate where
  target := target
  timeout := timeout
  pollInterval := standardInterval
  spaced := by decide

/-- The same gate with another distance between attempts, which is never below the least one. -/
def withInterval (gate : Gate) (interval : Duration) : Gate where
  target := gate.target
  timeout := gate.timeout
  pollInterval := max interval leastInterval
  spaced := Nat.le_max_right _ _

/-- The same gate for another host. -/
def withHost (gate : Gate) (host : String) : Gate :=
  { gate with target := { gate.target with host := host } }

/-- The budget of an attempt: the time to the next attempt, or what is left. -/
def budget (gate : Gate) (deadline now : Duration) : Duration :=
  min (deadline - now) gate.pollInterval

/-- The attempt that a gate makes at an instant. -/
def attempt (gate : Gate) (connector : Connector) (deadline now : Duration) : Attempt :=
  let budget := gate.budget deadline now
  let answer := connector gate.target now budget
  ⟨now, budget, now + answer.delay, answer.refusal⟩

/-- Until when a gate pauses after an attempt that started at an instant. -/
def pauseEnd (gate : Gate) (deadline started : Duration) : Duration :=
  min (started + gate.pollInterval) deadline

/-- When the next attempt is made after one that started at an instant and ended at another. -/
def nextStart (gate : Gate) (timer : Timer) (deadline started finished : Duration) : Duration :=
  timer.wake finished (gate.pauseEnd deadline started)

theorem lt_nextStart
    (gate : Gate) (timer : Timer) {deadline started : Duration} (finished : Duration)
    (inTime : started < deadline) :
    started.nanos < (gate.nextStart timer deadline started finished).nanos := by
  have spaced : 10 * 1000000 ≤ gate.pollInterval.nanos := gate.spaced
  have before : started.nanos < deadline.nanos := inTime
  have notEarly : max finished.nanos (min (started.nanos + gate.pollInterval.nanos) deadline.nanos) ≤
      (gate.nextStart timer deadline started finished).nanos := timer.notEarly _ _
  omega

/-- The error of a gate that ran out of time. Attempts are counted with 32 bits. -/
def timeoutError (gate : Gate) (attempts : Nat) : GateError :=
  .timeout gate.target.target gate.timeout (.ofNat attempts)

/-- The course of a wait that began at an instant, from a later instant on, when some attempts have
been made. After an attempt that was refused, the clock has to reach the end of its interval. -/
def waitFrom (gate : Gate) (timer : Timer) (connector : Connector) (begun : Duration) (made : Nat)
    (now : Duration) : Wait :=
  if now < begun + gate.timeout then
    let deadline := begun + gate.timeout
    let attempt := gate.attempt connector deadline now
    if attempt.succeeded then ⟨.ok (attempt.finished - begun), attempt.finished, [attempt]⟩
    else if (now + gate.pollInterval).IsInstant then
      (gate.waitFrom timer connector begun (made + 1)
        (gate.nextStart timer deadline now attempt.finished)).after attempt
    else .crashed attempt.finished [attempt]
  else ⟨.error (.gate (gate.timeoutError made)), now, []⟩
termination_by (begun + gate.timeout).nanos - now.nanos
decreasing_by
  have inTime : now < begun + gate.timeout := by assumption
  have later := gate.lt_nextStart timer
    (gate.attempt connector (begun + gate.timeout) now).finished inTime
  have before : now.nanos < (begun + gate.timeout).nanos := inTime
  omega

/-- Waits from an instant on. The clock has to reach the deadline. -/
def wait (gate : Gate) (timer : Timer) (connector : Connector) (begun : Duration) : Wait :=
  if (begun + gate.timeout).IsInstant then gate.waitFrom timer connector begun 0 begun
  else .crashed begun []

/-! ## Waits that are called off

A wait pauses until an attempt is answered and until the next one is due, and in each pause it can
be called off. If a pause is over at the very instant of the cancellation, either can come first. A
number of turns says how often the wait goes on at that instant before it is called off. -/

/-- The turns that are left after something that was due at an instant, unless the cancellation
comes before it. -/
def turn? (cancelled due : Duration) : Nat → Option Nat
  | 0 => if due < cancelled then some 0 else none
  | turns + 1 =>
    if due < cancelled then some (turns + 1)
    else if due = cancelled then some turns
    else none

/-- A wait that is called off. -/
def calledOff (gate : Gate) (cancelled : Duration) (abandoned : Option Start) : Race :=
  ⟨⟨.error (.gate (.cancelled gate.target.target)), cancelled, []⟩, abandoned⟩

/-- The course of a wait that began at an instant and is called off at another, from an instant in
between on, when some attempts have been made. -/
def raceFrom (gate : Gate) (timer : Timer) (connector : Connector) (begun cancelled : Duration)
    (turns made : Nat) (now : Duration) : Race :=
  if now < begun + gate.timeout then
    let deadline := begun + gate.timeout
    let attempt := gate.attempt connector deadline now
    match turn? cancelled attempt.finished turns with
    | none => gate.calledOff cancelled (some attempt.start)
    | some turns =>
      if attempt.succeeded then
        .ofWait ⟨.ok (attempt.finished - begun), attempt.finished, [attempt]⟩
      else if (now + gate.pollInterval).IsInstant then
        let next := gate.nextStart timer deadline now attempt.finished
        match turn? cancelled next turns with
        | none => (gate.calledOff cancelled none).after attempt
        | some turns =>
          (gate.raceFrom timer connector begun cancelled turns (made + 1) next).after attempt
      else .ofWait (.crashed attempt.finished [attempt])
  else .ofWait ⟨.error (.gate (gate.timeoutError made)), now, []⟩
termination_by (begun + gate.timeout).nanos - now.nanos
decreasing_by
  have inTime : now < begun + gate.timeout := by assumption
  have later := gate.lt_nextStart timer
    (gate.attempt connector (begun + gate.timeout) now).finished inTime
  have before : now.nanos < (begun + gate.timeout).nanos := inTime
  omega

/-- Waits from an instant on, until it is called off at another. -/
def race (gate : Gate) (timer : Timer) (connector : Connector) (begun cancelled : Duration)
    (turns : Nat) : Race :=
  match turn? cancelled begun turns with
  | none => gate.calledOff cancelled none
  | some turns =>
    if (begun + gate.timeout).IsInstant then
      gate.raceFrom timer connector begun cancelled turns 0 begun
    else .ofWait (.crashed begun [])

/-- Waits from an instant on, until it is called off at another, where the cancellation comes before
everything else that is due then. -/
def waitUntil (gate : Gate) (timer : Timer) (connector : Connector) (begun cancelled : Duration) :
    Wait :=
  (gate.race timer connector begun cancelled 0).toWait

/-! ## What a wait logs -/

/-- The line about an attempt, which is the given one in its wait. -/
def attemptLine (gate : Gate) (begun : Duration) (number : Nat) (attempt : Attempt) : LogLine :=
  let counted := (UInt32.ofNat number).toNat
  match attempt.refusal with
  | none =>
    let plural := if counted == 1 then "" else "s"
    .info ("✓ " ++ gate.target.target ++ " is reachable (after " ++ toString counted ++
      " attempt" ++ plural ++ ", " ++ (attempt.finished - begun).tenths ++ "s)")
  | some reason =>
    .debug (gate.target.target ++ " is unavailable (attempt " ++ toString counted ++ "): " ++
      reason ++ " - retrying in " ++ gate.pollInterval.short)

/-- The lines about the attempts of a wait, each at the instant when its attempt ended. -/
def linesFrom (gate : Gate) (begun : Duration) (number : Nat) :
    List Attempt → List (Duration × LogLine)
  | [] => []
  | attempt :: rest =>
    (attempt.finished, gate.attemptLine begun number attempt) ::
      gate.linesFrom begun (number + 1) rest

/-- What a wait logs. -/
def lines (gate : Gate) (begun : Duration) (wait : Wait) : List (Duration × LogLine) :=
  gate.linesFrom begun 1 wait.attempts

/-! ## Several targets -/

/-- The course of waiting for several targets: the gates in order, each with the instant when its
wait began and the course of the wait. -/
structure Tour where
  result : Except Cause Duration
  finished : Duration
  visits : List (Gate × Duration × Wait)

/-- An error with the time that all targets together had in place of what was left for one. -/
def overall (timeout : Duration) : Cause → Cause
  | .gate (.timeout target _ attempts) => .gate (.timeout target timeout attempts)
  | other => other

/-- Waits for targets one after another; all of them share the time from the beginning on. Each
target comes with the answers that are given while it is waited for. The attempts of one wait start
at different instants, so that such answers may depend on whatever was attempted before. -/
def tourFrom (timer : Timer) (timeout interval begun : Duration) :
    List (Address × Connector) → Duration → Tour
  | [], now => ⟨.ok (now - begun), now, []⟩
  | (target, connector) :: rest, now =>
    let gate := (ofTarget target (timeout - (now - begun))).withInterval interval
    let wait := gate.wait timer connector now
    match wait.result with
    | .error error => ⟨.error (overall timeout error), wait.finished, [(gate, now, wait)]⟩
    | .ok _ =>
      let others := tourFrom timer timeout interval begun rest wait.finished
      { others with visits := (gate, now, wait) :: others.visits }

/-- Waits for all targets. -/
def waitAll (timer : Timer) (connector : Connector) (targets : List Address)
    (timeout interval begun : Duration) : Tour :=
  tourFrom timer timeout interval begun (targets.map (·, connector)) begun

end Gate

end Convoy
