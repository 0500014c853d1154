import SourceCheck.Cli.Run
import SourceCheck.Proofs.Json.Entries

/-!
The rows that a run prints. Whether they are printed as a table or as JSON, they can be told from
the text.
-/

namespace SourceCheck.Cli

def Shows (asJson : Bool) (rows : List Row) (text : String) : Prop :=
  if asJson then
    ∃ entries, (Json.array entries).WrittenAs text ∧ List.Forall₂ Row.IsEntry rows entries
  else
    (Text.linePieces text.toList).map Row.Fields.read = .headings :: rows.map Row.fields

/-- The run prints the rows, and no others can be read from what it prints. A quiet run prints
nothing. -/
structure Prints (o : Options) (rows : List Row) (text : String) : Prop where
  quiet : o.quiet = true → text = ""
  shows_iff : o.quiet = false → ∀ others, Shows o.json others text ↔ others = rows

theorem shows_table (rows others : List Row) :
    Shows false others (Row.table rows) ↔ others = rows := by
  have hshown : Shows false others (Row.table rows) ↔ Row.shown rows = Row.shown others := by
    rw [← Row.read_linePieces_table rows]
    rfl
  rw [hshown]
  exact ⟨fun h => (Row.shown_injective h).symm, fun h => congrArg Row.shown h.symm⟩

theorem prints_showRows (o : Options) (rows : List Row) : Prints o rows (showRows o rows) := by
  constructor
  · intro hquiet
    rw [showRows, if_pos hquiet]
  · intro hquiet others
    rw [showRows, if_neg (Bool.eq_false_iff.mp hquiet)]
    cases o.json with
    | false => exact shows_table rows others
    | true => exact Row.writtenAs_jsonArray rows others

end SourceCheck.Cli
