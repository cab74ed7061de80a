import Rinha.Error
import Rinha.Source.Lookup

/-!
# Rinha.Report

Reports of errors.  A report names the program and tells the error with the parts of its location;
`Report.ofError` makes one.  Reports are exchanged as data, and `Report.render` writes such data as
text, a first line for program and kind, one for the message, and, if the report has a start, one
for the place.  With the source text at hand an excerpt follows.

A field is read when its turn comes: one that is missing, or has an integer of too many digits, is a
fault only then.
-/

namespace Rinha

/-- An error that a program ended with, and where. -/
structure Report where
  program : Data
  kind : String
  message : Data
  filename : Data
  start : Data
  stop : Data
  details : List (String × Data)

namespace Report

/-- The program's name where none is given. -/
def unnamed : Data :=
  .text "<memory>"

/-- The location that a report looks into.  One that counts as false has nothing in it; any other
has to be an object. -/
def placeOf (error : Error) : Except Fault Data :=
  match error.location with
  | none => .ok (.object [])
  | some (.object fields) => .ok (.object fields)
  | some other => if other.toBool then .error .noParts else .ok (.object [])

/-- The report of an error.  A location without a file stands in the program itself. -/
def ofError (error : Error) (program : Data) : Except Fault Report := do
  let place ← placeOf error
  return {
    program
    kind := error.cause.name
    message := error.cause.message
    filename := (place.field? "filename").getD program
    start := (place.field? "start").getD .null
    stop := (place.field? "end").getD .null
    details := error.cause.details }

/-- The report as data. -/
def toData (report : Report) : Data :=
  .object [("program", report.program), ("kind", .text report.kind),
    ("message", report.message), ("filename", report.filename), ("start", report.start),
    ("end", report.stop), ("details", .object report.details)]

/-! ## text -/

/-- How many lines an excerpt in a report shows before and after the place. -/
def context : Int := 2

/-- The excerpt for a stretch of the source.  An end that counts as false is the start. -/
def excerpt (source start stop : Data) : Except Fault String := do
  let position ← Source.positionAt source start
  let last ← (if stop.toBool then stop else start).toNumber
  let width ← last.sub (← start.toNumber)
  Source.excerptAt source (.int position.line) (.int position.column) (.ofNumber width)
    (.int context)

/-- A field of a report as text. -/
def told (report : Data) (key : String) : Except Fault String := do
  (← report.field key).write

/-- A report as text.  The source is null if it is not at hand. -/
def render (report source : Data) : Except Fault String := do
  let program ← told report "program"
  let kind ← told report "kind"
  let message ← told report "message"
  let title := s!"Runtime error in {program}: {kind}\n  {message}\n"
  match ← report.field "start" with
  | .null => return title
  | start =>
    let filename ← told report "filename"
    let first ← start.write
    let last ← told report "end"
    let place := s!"  At: {filename}:{first}-{last}\n"
    match source with
    | .null => return title ++ place
    | source => return title ++ place ++ (← excerpt source start (← report.field "end")) ++ "\n"

end Report

end Rinha
