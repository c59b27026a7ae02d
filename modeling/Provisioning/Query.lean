import Provisioning.ProjectId

/-! # The query of the view

For every event of a bot the view adds the seconds since the one before and until the one after. -/
namespace Provisioning

/-- What stands before the name of the source table. -/
def Query.head : String :=
  "SELECT\n  *,\n  TIMESTAMP_DIFF(event_time, LAG(event_time) OVER bot_timeline, MILLISECOND) / " ++
    "1000 AS since_previous_s,\n  TIMESTAMP_DIFF(LEAD(event_time) OVER bot_timeline, event_time, " ++
    "MILLISECOND) / 1000 AS until_next_s\nFROM \x60"

/-- What stands after the name of the source table. -/
def Query.tail : String :=
  "\x60\nWINDOW bot_timeline AS (PARTITION BY bot.bot_id ORDER BY event_time)"

/-- The full name of the source table, as it stands between the query's backquotes. -/
def Query.source (project : ProjectId) (dataset table : String) : String :=
  project.text ++ "." ++ dataset ++ "." ++ table

/-- The query over one source table. -/
def Query.text (project : ProjectId) (dataset table : String) : String :=
  Query.head ++ Query.source project dataset table ++ Query.tail

end Provisioning
