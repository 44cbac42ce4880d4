import ReleasePipeline.Log.Directive

/-!
# ReleasePipeline.Log.Filter

Which events a log shows. A filter is a text of directives with commas between them.

Of the directives that speak of an event the most specific decides: the longest target first, then
the most fields, then the fields' order; of two equally specific ones the later. An event that none
speaks of is not shown. The pipeline opens no spans, so a directive that asks for a span or for the
value of a field is never met.
-/

namespace ReleasePipeline.Log

/-- Directives, in the order in which they were given. -/
structure Filter where
  directives : List Directive
  deriving DecidableEq, Repr

namespace Filter

/-- The filter that shows everything up to a verbosity. -/
def upTo (verbosity : Verbosity) : Filter :=
  ⟨[{ verbosity }]⟩

/-- The filter that a text spells. Empty directives are passed over; without any directive errors
alone are shown. -/
def ofText? (text : String) : Option Filter := do
  let given := (text.toList.splitOn ',').filter (· ≠ [])
  let directives ← given.mapM Directive.ofText?
  return if directives.isEmpty then upTo .error else ⟨directives⟩

/-- The filter of a setting: that of its text, or up to a verbosity if it is not set or spells no
filter. -/
def ofSetting (text : Option String) (otherwise : Verbosity) : Filter :=
  (text.bind ofText?).getD (upTo otherwise)

/-- The directive that decides on an event. -/
def decisive? (filter : Filter) (event : Event) : Option Directive :=
  (filter.directives.filter (·.speaksOf event)).foldl
    (fun best directive =>
      match best with
      | some other => if other.outranks directive then some other else some directive
      | none => some directive)
    none

/-- Whether a filter shows an event. -/
def shows (filter : Filter) (event : Event) : Bool :=
  (filter.decisive? event).any fun directive =>
    (Verbosity.ofLevel event.level).rank ≤ directive.verbosity.rank

end Filter

/-- Whether the value of the format setting asks for JSON lines, in letters of either case. -/
def wantsJson (value : Option String) : Bool :=
  value.any fun text => text.toList.map Char.toLower == "json".toList

end ReleasePipeline.Log
