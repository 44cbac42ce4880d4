/-!
# ReleasePipeline.Text.Pattern.Height

How deep a pattern nests. Groups, repetitions, classes in brackets and their operators are one
higher than what is in them; things in a row, or side by side, are one higher than the highest of
them, unless there is only one. A pattern may be `limit` high.
-/

namespace ReleasePipeline.Text.Pattern

/-- How high a pattern may be. -/
def limit : Nat := 250

/-- The height of some things together, by their heights. -/
def together : List Nat → Nat
  | [] => 0
  | [height] => height
  | heights => heights.foldl max 0 + 1

end ReleasePipeline.Text.Pattern
