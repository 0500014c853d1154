import SourceCheck.Balance.Json
import SourceCheck.Diagnostic.Json
import SourceCheck.Proofs.Json.Fields
import SourceCheck.Proofs.Json.Reading
import SourceCheck.Proofs.Token.Table
import SourceCheck.Token.Json

/-!
What clients read of rows, of diagnostic records and of balance issues. Each is an object with a few
fields, and a list of them is an array with one such object for each, in their order; the array of
rows can be read back from the text that is written for it.
-/

namespace SourceCheck

def Row.IsEntry (row : Row) (entry : Json) : Prop :=
  entry.HasFields [("kind", .string row.category.name), ("lexeme", .string row.lexeme),
    ("line", .number ⟨row.position.line, 0⟩), ("column", .number ⟨row.position.column, 0⟩)]

/-- What is not known of the position is null. -/
def DiagnosticRecord.IsEntry (record : DiagnosticRecord) (entry : Json) : Prop :=
  entry.HasFields [("message", .string record.message),
    ("line", record.line.elim .null fun line => .number ⟨line, 0⟩),
    ("column", record.column.elim .null fun column => .number ⟨column, 0⟩)]

def Balance.Issue.IsEntry (issue : Balance.Issue) (entry : Json) : Prop :=
  entry.HasFields [("message", .string issue.message),
    ("line", .number ⟨issue.position.line, 0⟩), ("column", .number ⟨issue.position.column, 0⟩)]

namespace Json

variable {α : Type} {R : α → Json → Prop} {f : α → Json} {depth : Nat}

theorem forall₂_entries (h : ∀ item, R item (f item)) (items : List α) :
    List.Forall₂ R items (items.map f) :=
  List.forall₂_map_right_iff.mpr (List.forall₂_same.mpr fun item _ => h item)

theorem sorted_array_map (f : α → Json) (items : List α) :
    (Json.array (items.map f)).sorted = .array (items.map fun item => (f item).sorted) := by
  rw [sorted_array, List.map_map]
  rfl

theorem plainItems_iff {items : List Json} :
    PlainItems depth items ↔ ∀ item ∈ items, item.Plain depth := by
  induction items with
  | nil => simp [PlainItems]
  | cons item rest ih => rw [PlainItems, ih, List.forall_mem_cons]

theorem plainFields_iff {fields : List (String × Json)} :
    PlainFields depth fields ↔ ∀ field ∈ fields, field.2.Plain depth := by
  induction fields with
  | nil => simp [PlainFields]
  | cons field rest ih => rw [PlainFields, ih, List.forall_mem_cons]

theorem HasFields.plain {json : Json} {fields : List (String × Json)} (h : json.HasFields fields)
    (hfields : (Json.object fields).Plain depth) : json.Plain depth := by
  obtain ⟨own, rfl, hperm⟩ := h
  obtain ⟨hdepth, hnames, hvalues⟩ := hfields
  refine ⟨hdepth, (hperm.map Prod.fst).nodup_iff.mpr hnames, plainFields_iff.mpr ?_⟩
  intro field hfield
  exact plainFields_iff.mp hvalues field (hperm.mem_iff.mp hfield)

end Json

namespace DiagnosticRecord

theorem isEntry_sorted (record : DiagnosticRecord) : record.IsEntry record.json.sorted := by
  obtain ⟨message, line, column⟩ := record
  cases line <;> cases column <;> exact Json.hasFields_sorted _

end DiagnosticRecord

theorem Balance.Issue.isEntry_sorted (issue : Balance.Issue) : issue.IsEntry issue.json.sorted :=
  Json.hasFields_sorted _

namespace Row

variable {row : Row} {rows : List Row} {entry : Json} {entries : List Json}

theorem isEntry_json (row : Row) : row.IsEntry row.json := Json.hasFields_object _

theorem isEntry_sorted (row : Row) : row.IsEntry row.json.sorted := Json.hasFields_sorted _

theorem IsEntry.plain (h : row.IsEntry entry) : entry.Plain 1 :=
  Json.HasFields.plain h
    ⟨Nat.one_pos, by simp, trivial, trivial, rfl, rfl, trivial⟩

theorem isEntry_leftUnique : Relator.LeftUnique IsEntry := by
  intro row other entry h k
  have hsame (name : String) := (h.field?_eq (by simp) name).symm.trans (k.field?_eq (by simp) name)
  have hkind := Json.string.inj (Option.some.inj (hsame "kind"))
  have hlexeme := Json.string.inj (Option.some.inj (hsame "lexeme"))
  have hline := Json.number.inj (Option.some.inj (hsame "line"))
  have hcolumn := Json.number.inj (Option.some.inj (hsame "column"))
  obtain ⟨category, lexeme, line, column⟩ := row
  obtain ⟨category', lexeme', line', column'⟩ := other
  obtain rfl := TokenCategory.name_injective hkind
  obtain rfl : lexeme = lexeme' := hlexeme
  obtain rfl : line = line' := (Decimal.mk.inj hline).1
  obtain rfl : column = column' := (Decimal.mk.inj hcolumn).1
  rfl

theorem plain_entries (h : List.Forall₂ IsEntry rows entries) : (Json.array entries).Plain 2 := by
  refine ⟨Nat.two_pos, Json.plainItems_iff.mpr ?_⟩
  induction h with
  | nil => simp
  | cons hrow _ ih => exact List.forall_mem_cons.mpr ⟨hrow.plain, ih⟩

/-- The text that is written for the rows stands for these rows and no others. -/
theorem writtenAs_jsonArray (rows others : List Row) :
    (∃ entries, (Json.array entries).WrittenAs ((jsonArray rows).pretty ++ "\n") ∧
      List.Forall₂ IsEntry others entries) ↔ others = rows := by
  have hrows : List.Forall₂ IsEntry rows (rows.map json) := Json.forall₂_entries isEntry_json rows
  have hwritten : (Json.array (rows.map json)).WrittenAs ((jsonArray rows).pretty ++ "\n") :=
    Json.writtenAs_line (plain_entries hrows)
  constructor
  · rintro ⟨entries, htext, hentries⟩
    have hsame := htext.unique hwritten (plain_entries hentries) (by decide) (plain_entries hrows)
      (by decide)
    rw [Json.array.inj hsame] at hentries
    exact List.left_unique_forall₂' isEntry_leftUnique hentries hrows
  · rintro rfl
    exact ⟨_, hwritten, hrows⟩

end Row

end SourceCheck
