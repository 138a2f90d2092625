/-!
# Streams of lines

A stream of text that comes in pieces is read line by line. A line ends with a line feed, and a
carriage return before it does not belong to the line. What stands behind the last line feed is a
line of its own once the stream is closed, unless it is nothing or a mere carriage return.
-/

set_option autoImplicit false

namespace HostRoster

/-- A stream of text. -/
structure LineStream where
  /-- What has come and has not been read. -/
  text : List Char := []
  /-- Whether nothing more comes. -/
  isClosed : Bool := false
  deriving DecidableEq, Repr, Inhabited

/-- What stands next in a stream. -/
inductive NextLine where
  /-- A line, and the stream behind it. -/
  | line (line : String) (behind : LineStream)
  /-- No line yet. -/
  | waiting
  /-- No line any more. -/
  | ended
  deriving Repr

namespace LineStream

/-- Adds text at the end. -/
def receive (stream : LineStream) (text : String) : LineStream :=
  { stream with text := stream.text ++ text.toList }

/-- Closes the stream. -/
def close (stream : LineStream) : LineStream := { stream with isClosed := true }

/-- A line without the carriage return at its end. -/
def lineOf (characters : List Char) : String :=
  String.ofList
    (if characters.getLast? = some '\r' then characters.dropLast else characters)

/-- What stands next. -/
def next (stream : LineStream) : NextLine :=
  let beginning := stream.text.takeWhile (· != '\n')
  match stream.text.dropWhile (· != '\n') with
  | _ :: behind => .line (lineOf beginning) { stream with text := behind }
  | [] =>
    if !stream.isClosed then .waiting
    else if beginning = [] ∨ beginning = ['\r'] then .ended
    else .line (lineOf beginning) { stream with text := [] }

end LineStream

end HostRoster
