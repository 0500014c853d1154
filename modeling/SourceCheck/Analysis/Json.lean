import SourceCheck.Analysis
import SourceCheck.Json.Value

/-!
First errors as JSON. What was expected is given as a whole and again by category; only delimiters
are ever expected, and they are symbols.
-/

namespace SourceCheck

namespace ErrorType

def name : ErrorType → String
  | .lexical => "lexical"
  | .structural => "structural"

end ErrorType

namespace FirstError

def json (e : FirstError) : Json := .object [
  ("message", .string e.message),
  ("rawMessage", .string e.rawMessage),
  ("expected", .strings e.expectedSymbols),
  ("unexpected", .string e.unexpected),
  ("line", .optionalInt e.line),
  ("column", .optionalInt e.column),
  ("value", .string e.value),
  ("type", .string e.type.name),
  ("keywords", .array []),
  ("literals", .array []),
  ("symbols", .strings e.expectedSymbols),
  ("others", .array []),
  ("isEndOfInput", .boolean e.isEndOfInput)]

end FirstError

end SourceCheck
