import SourceCheck.Settings.Basic

/-!
Settings read from a document of lists and tables. Every field may be left out and then keeps its
standard value, but an unknown field is refused. A list may stand for a table, its items being the
fields in their order.
-/

namespace SourceCheck

/-- A value of a document. Numbers and dates are never settings, so they are all alike here. -/
inductive Datum where
  | null
  | boolean (value : Bool)
  | text (value : String)
  | number
  | list (items : List Datum)
  | table (fields : List (String × Datum))
  deriving Inhabited, Repr

namespace Datum

/-- What becomes of list items beyond the last field. -/
inductive Surplus where
  | ignored
  | refused
  deriving DecidableEq, Repr

def fields? (surplus : Surplus) (names : List String) : Datum → Option (List (String × Datum))
  | .table fields => if fields.all fun field => names.contains field.1 then some fields else none
  | .list items =>
    if surplus = .refused ∧ names.length < items.length then none else some (names.zip items)
  | _ => none

variable {α : Type}

def optional (fields : List (String × Datum)) (name : String) (standard : α)
    (read : Datum → Option α) : Option α :=
  (fields.lookup name).elim (some standard) read

def required (fields : List (String × Datum)) (name : String) (read : Datum → Option α) :
    Option α :=
  (fields.lookup name).bind read

def boolean? : Datum → Option Bool
  | .boolean value => some value
  | _ => none

def text? : Datum → Option String
  | .text value => some value
  | _ => none

def listOf? (read : Datum → Option α) : Datum → Option (List α)
  | .list items => items.mapM read
  | _ => none

def texts? : Datum → Option (List String) := listOf? text?

def markerPair? (surplus : Surplus) (datum : Datum) : Option MarkerPair := do
  let fields ← datum.fields? surplus ["open", "close"]
  let opening ← required fields "open" text?
  let closing ← required fields "close" text?
  return ⟨opening, closing⟩

def optionalMarkerPair? (surplus : Surplus) : Datum → Option (Option MarkerPair)
  | .null => some none
  | datum => (datum.markerPair? surplus).map some

def languageFields : List String :=
  ["keywords", "true_literal", "false_literal", "operators", "delimiters", "pairs",
    "line_comments", "block_comment", "quotes", "multiline_strings"]

def language? (surplus : Surplus) (datum : Datum) : Option Language := do
  let fields ← datum.fields? surplus languageFields
  let standard := Language.standard
  return {
    keywords := ← optional fields "keywords" standard.keywords texts?
    trueWord := ← optional fields "true_literal" standard.trueWord text?
    falseWord := ← optional fields "false_literal" standard.falseWord text?
    operators := ← optional fields "operators" standard.operators texts?
    delimiters := ← optional fields "delimiters" standard.delimiters texts?
    pairs := ← optional fields "pairs" standard.pairs (listOf? (markerPair? surplus))
    lineComments := ← optional fields "line_comments" standard.lineComments texts?
    blockComment :=
      ← optional fields "block_comment" standard.blockComment (optionalMarkerPair? surplus)
    quotes := ← optional fields "quotes" standard.quotes texts?
    multilineStrings := ← optional fields "multiline_strings" standard.multilineStrings boolean? }

def origins? : Datum → Option (List (String × List String))
  | .table fields => fields.mapM fun (route, origins) => (texts? origins).map fun o => (route, o)
  | _ => none

def service? (surplus : Surplus) (datum : Datum) : Option ServiceSettings := do
  let fields ← datum.fields? surplus ["cors"]
  return ⟨← optional fields "cors" ServiceSettings.standard.cors origins?⟩

def settings? (surplus : Surplus) (datum : Datum) : Option Settings := do
  let fields ← datum.fields? surplus ["language", "service"]
  let language ← optional fields "language" Settings.standard.language (language? surplus)
  let service ← optional fields "service" Settings.standard.service (service? surplus)
  return ⟨language, service⟩

end Datum

end SourceCheck
