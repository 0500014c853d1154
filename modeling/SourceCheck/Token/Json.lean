import SourceCheck.Json.Value
import SourceCheck.Token.Row

/-!
Rows as JSON.
-/

namespace SourceCheck.Row

def json (row : Row) : Json := .object [
  ("kind", .string row.category.name),
  ("lexeme", .string row.lexeme),
  ("line", .int row.position.line),
  ("column", .int row.position.column)]

def jsonArray (rows : List Row) : Json := .array (rows.map json)

end SourceCheck.Row
