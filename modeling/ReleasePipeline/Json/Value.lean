/-!
# ReleasePipeline.Json.Value

JSON documents as data. Object members keep their order and repetitions, since a reader that
refuses a repeated member must see it. A string may spell a surrogate that has no partner: it is
well-formed JSON but no text, and its content is `none`.
-/

namespace ReleasePipeline.Json

/-- A JSON value. A number is kept as the digits that spell it. -/
inductive Value where
  | null
  | bool (value : Bool)
  | number (digits : List Char)
  | string (text : Option String)
  | array (items : List Value)
  | object (members : List (Option String × Value))
  deriving Inhabited

namespace Value

/-- A string value that holds a text. -/
def text (content : String) : Value :=
  .string (some content)

/-- A text, or null where there is none. -/
def optionalText : Option String → Value
  | some content => .text content
  | none => .null

/-- An object whose member names are texts. -/
def record (members : List (String × Value)) : Value :=
  .object (members.map fun (name, value) => (some name, value))

end Value

end ReleasePipeline.Json
