import Provisioning.Path

/-! # Layouts

Everything about the provisioned resources that does not depend on the project: one dataset, its
tables with the messages they store, and a view over one of them. -/
namespace Provisioning

/-- A table: the message its rows store and the field its partitions follow. -/
structure Table where
  message : String
  name : String
  partitioningField : String
deriving DecidableEq, Repr, Inhabited

/-- A view and the table it selects from. -/
structure View where
  name : String
  source : String
deriving DecidableEq, Repr, Inhabited

/-- What is provisioned for every project. -/
structure Layout where
  dataset : String
  location : String
  description : String
  /-- Where the schema tool runs; message names are resolved from here. -/
  schemaDirectory : Path
  partitionExpiration : String
  tables : List Table
  view : View
deriving DecidableEq, Repr

/-- The view of the production layout. -/
def View.standard : View :=
  ⟨"bot_events_delta", "bot_events"⟩

/-- The production layout; partitions are kept for about a year and a half. -/
def Layout.standard : Layout where
  dataset := "swarming"
  location := "US"
  description := "Swarming statistics"
  schemaDirectory := Path.ofString "proto/api"
  partitionExpiration := "13128h"
  tables := [⟨"swarming.v1.BotEvent", "bot_events", "event_time"⟩,
    ⟨"swarming.v1.TaskRequest", "task_requests", "create_time"⟩,
    ⟨"swarming.v1.TaskResult", "task_results", "end_time"⟩]
  view := View.standard

instance : Inhabited Layout := ⟨Layout.standard⟩

end Provisioning
