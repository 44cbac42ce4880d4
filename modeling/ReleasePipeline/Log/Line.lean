import ReleasePipeline.Json.Printer
import ReleasePipeline.Log.Event

/-!
# ReleasePipeline.Log.Line

An event as a line of a log: a JSON record with its level and fields, or a plain sentence with the
fields behind it.
-/

namespace ReleasePipeline.Log

open Json

/-- An event as a JSON record. -/
def record (event : Event) : Value :=
  .record [
    ("level", .text event.level.name),
    ("fields", .record (event.fields.map fun (name, content) => (name, .text content)))]

/-- An event as a sentence. -/
def sentence (event : Event) : String :=
  event.details.foldl (fun line (name, content) => line ++ " " ++ name ++ "=" ++ content)
    (event.level.name ++ " " ++ event.message)

/-- An event as a line, without its end. -/
def line (json : Bool) (event : Event) : String :=
  if json then (record event).compact else sentence event

end ReleasePipeline.Log
