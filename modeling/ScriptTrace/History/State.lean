import ScriptTrace.History.Line

/-! The states of the extractor and what each line does in them.
A record needs a header, a line number and messages, in this order and without anything between. -/
namespace ScriptTrace.History

/-- How much of a record has been read. Every state but the first keeps the place of the header. -/
inductive State where
  | outside
  | headed (place : Text)
  | numbered (place : Text)
  | collecting (place : Text)
  deriving DecidableEq, Repr

/-- What a line does to the record under construction. -/
inductive Effect where
  | keep
  | discard
  | locate (throwpoint : Text)
  | append (message : Text)
  | push
  /-- It is complete, and the next one has this throwpoint. -/
  | pushThen (throwpoint : Text)
  deriving DecidableEq, Repr

/-- The state after a line, and what the line does. -/
def transition (state : State) (line : Text) : State × Effect :=
  match state, LineKind.classify line with
  | .outside, .header place => (.headed place, .keep)
  | .outside, _ => (.outside, .keep)
  | .headed place, .lineNumber digits =>
    (.numbered place, .locate (Throwpoint.bracketed place digits))
  | .headed _, .header place => (.headed place, .discard)
  | .headed _, _ => (.outside, .discard)
  | .numbered _, .header place => (.headed place, .discard)
  | .numbered place, .errorCode => (.collecting place, .append line)
  | .numbered _, _ => (.outside, .discard)
  | .collecting place, .errorCode => (.collecting place, .append line)
  | .collecting place, .lineNumber digits =>
    (.numbered place, .pushThen (Throwpoint.bracketed place digits))
  | .collecting _, .header place => (.headed place, .push)
  | .collecting _, .other => (.outside, .push)

end ScriptTrace.History
