import Rinha.Error

/-!
# Rinha.Context

What an evaluation runs in: where printed lines go, whether it is traced, how deep calls may nest,
and two counters.

* `Context.emit` sends one printed line to the sink, `Context.trace` writes one line of trace;
* `Context.enter` counts a call in and `Context.leave` counts it out.  `deepest` is the greatest
  depth that a call was counted in at, and `Context.passed?` says whether a depth is beyond the
  limit.

What was printed and traced is only ever appended to, and no evaluation reads it back.
-/

namespace Rinha

/-- Where printed lines go. -/
inductive Sink where
  /-- To a collector that keeps the lines apart. -/
  | collector
  /-- To the console, each line ended by a line feed. -/
  | console
  /-- To the record of the program that is running, and on to another sink. -/
  | recorded (onward : Sink)
deriving DecidableEq, Repr, Inhabited

/-- What was written so far. -/
structure Streams where
  /-- The lines that a collector received. -/
  collected : List String := []
  /-- The lines that the running program printed. -/
  recorded : List String := []
  /-- The text on the console. -/
  console : String := ""
  /-- The text of the trace. -/
  trace : String := ""
deriving DecidableEq, Repr, Inhabited

/-- The streams after a line went to a sink. -/
def Streams.print (streams : Streams) (line : String) : Sink → Streams
  | .collector => { streams with collected := streams.collected ++ [line] }
  | .console => { streams with console := streams.console ++ line ++ "\n" }
  | .recorded onward =>
    Streams.print { streams with recorded := streams.recorded ++ [line] } line onward

/-- What an evaluation runs in. -/
structure Context where
  sink : Sink := .console
  /-- Whether the evaluation is traced. -/
  debug : Bool := false
  /-- How deep calls may nest, if there is a limit.  It has to be a number once a call is
  counted. -/
  maxDepth : Option Data := none
  /-- How many calls are counted in and not out. -/
  depth : Int := 0
  /-- The greatest depth that a call was counted in at. -/
  deepest : Int := 0
  streams : Streams := {}
deriving Repr, Inhabited

namespace Context

/-- A context with these settings, in which nothing has happened. -/
def new (sink : Sink) (debug : Bool) (maxDepth : Option Data) : Context :=
  { sink, debug, maxDepth }

/-- Print one line. -/
def emit (context : Context) (line : String) : Context :=
  { context with streams := context.streams.print line context.sink }

/-- Two blanks for each call that is counted in. -/
def indent (depth : Int) : String :=
  "".pushn ' ' (2 * depth.toNat)

/-- Trace a message on a line of its own, indented by the depth. -/
def trace (context : Context) (message : String) : Context :=
  if context.debug then
    { context with
      streams := { context.streams with
        trace := context.streams.trace ++ indent context.depth ++ message ++ "\n" } }
  else context

/-- The limit, if there is one and the depth is greater. -/
def passed? (context : Context) (depth : Int) : Except Fault (Option Data) :=
  match context.maxDepth with
  | none => .ok none
  | some limit => do
    return if (← limit.toNumber).lt (.int depth) then some limit else none

/-- Count a call in. -/
def enter (context : Context) : Context :=
  { context with depth := context.depth + 1, deepest := max context.deepest (context.depth + 1) }

/-- Count a call out. -/
def leave (context : Context) : Context :=
  { context with depth := context.depth - 1 }

/-- A context that is not traced writes no trace. -/
theorem trace_of_not_debug {context : Context} (h : context.debug = false) (message : String) :
    context.trace message = context := by
  simp [trace, h]

/-- Where there is no limit, no depth passes it. -/
theorem passed?_unlimited {context : Context} (h : context.maxDepth = none) (depth : Int) :
    context.passed? depth = .ok none := by
  rw [passed?, h]

/-- A limit that is an integer is passed by every greater depth. -/
theorem passed?_int {context : Context} {limit : Int} (h : context.maxDepth = some (.int limit))
    (depth : Int) :
    context.passed? depth = .ok (if limit < depth then some (.int limit) else none) := by
  simp [passed?, h, Data.toNumber, Number.lt_int, pure, Except.pure, bind, Except.bind]

/-- Counting a call in and out again brings the depth back. -/
@[simp] theorem depth_leave_enter (context : Context) :
    context.enter.leave.depth = context.depth := by
  simp [enter, leave]

end Context

end Rinha
