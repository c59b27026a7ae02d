import Provisioning.Command
import Provisioning.Layout
import Provisioning.Query

/-! # Plans

The commands that provision a project, in order, each with what its failure means. The dataset comes
before the tables and the view comes last. -/
namespace Provisioning

/-- What a command that ended badly means for the steps after it. -/
inductive OnFailure where
  /-- The run stops. -/
  | stop
  /-- The resource is taken to exist already. -/
  | assumeExists
  /-- The run stops, and the resource has to be removed first by a given command. -/
  | stopAndRemove (cleanup : Command)
  /-- The run goes on, and the resource may have to be removed by a given command. -/
  | continueAndRemove (cleanup : Command)
deriving DecidableEq, Repr

/-- The command that removes what a failed step left behind. -/
def OnFailure.cleanup? : OnFailure → Option Command
  | .stop | .assumeExists => none
  | .stopAndRemove cleanup | .continueAndRemove cleanup => some cleanup

/-- A command with its label, a note for whoever watches, and what its failure means. -/
structure Step where
  label : String
  note : Option String := none
  command : Command
  onFailure : OnFailure
deriving DecidableEq, Repr

/-- The steps that provision a project. -/
structure Plan where
  project : ProjectId
  steps : List Step
deriving DecidableEq

namespace Plan

/-- A resource of a dataset, as it is removed and as the view is created. -/
def resource (project : ProjectId) (dataset name : String) : String :=
  project.text ++ ":" ++ dataset ++ "." ++ name

/-- A table, as the schema tool takes it. -/
def tableTarget (project : ProjectId) (dataset name : String) : String :=
  project.text ++ "." ++ dataset ++ "." ++ name

/-- The command that removes a resource of a dataset. -/
def removal (project : ProjectId) (dataset name : String) : Command where
  program := "bq"
  arguments := ["rm", resource project dataset name]

/-- Enables the programming interface. -/
def enableStep (project : ProjectId) : Step where
  label := "Make sure the BigQuery API is enabled for the project"
  command :=
    { program := "gcloud"
      arguments :=
        ["services", "enable", "--project", project.text, "bigquery-json.googleapis.com"] }
  onFailure := .stop

/-- Lets the application write to the datasets of the project. -/
def grantStep (project : ProjectId) : Step where
  label := "Grant access to the AppEngine app to the role account"
  command :=
    { program := "gcloud"
      arguments :=
        ["projects", "add-iam-policy-binding", project.text, "--member",
          "serviceAccount:" ++ project.text ++ "@appspot.gserviceaccount.com", "--role",
          "roles/bigquery.dataEditor"] }
  onFailure := .stop

/-- Creates the dataset; there is no way to tell that it exists already from any other failure. -/
def datasetStep (layout : Layout) (project : ProjectId) : Step where
  label := "Create the dataset"
  note := some <|
    "On first 'bq' invocation, it'll try to find out default credentials and will ask to " ++
      "select a default app; just press enter to not select a default."
  command :=
    { program := "bq"
      arguments :=
        ["--location=" ++ layout.location, "mk", "--dataset", "--description", layout.description,
          project.text ++ ":" ++ layout.dataset] }
  onFailure := .assumeExists

/-- Creates or updates one table. -/
def tableStep (layout : Layout) (project : ProjectId) (table : Table) : Step where
  label := "Populate the BigQuery schema of " ++ table.name
  command :=
    { program := "bqschemaupdater"
      arguments :=
        ["-force", "-message", table.message, "-table",
          tableTarget project layout.dataset table.name, "-partitioning-field",
          table.partitioningField, "-partitioning-expiration", layout.partitionExpiration]
      directory := some layout.schemaDirectory }
  onFailure := .stopAndRemove (removal project layout.dataset table.name)

/-- What to expect of the first table. -/
def firstTableNote : String :=
  "On first 'bqschemaupdater' run, it will request default credentials which are stored " ++
    "independently from 'bq'."

/-- The steps of the tables in order; the note stands with the first. -/
def tableSteps (layout : Layout) (project : ProjectId) : List Step :=
  match layout.tables with
  | [] => []
  | table :: rest =>
    { tableStep layout project table with note := some firstTableNote } ::
      rest.map (tableStep layout project)

/-- Creates the view; one that exists already makes this fail without harm. -/
def viewStep (layout : Layout) (project : ProjectId) : Step where
  label := "Create the " ++ layout.view.name ++ " view"
  command :=
    { program := "bq"
      arguments :=
        ["mk", "--use_legacy_sql=false", "--view",
          Query.text project layout.dataset layout.view.source,
          resource project layout.dataset layout.view.name] }
  onFailure := .continueAndRemove (removal project layout.dataset layout.view.name)

/-- The plan that provisions a layout for a project. -/
def ofLayout (layout : Layout) (project : ProjectId) : Plan where
  project := project
  steps :=
    [enableStep project, grantStep project, datasetStep layout project] ++
      tableSteps layout project ++ [viewStep layout project]

end Plan

end Provisioning
