/-! # Required tools

The programs that must be installed before anything else is looked at. -/
namespace Provisioning

/-- A program with where it comes from and how to install it. -/
structure Tool where
  name : String
  origin : String
  install : String
deriving DecidableEq, Repr, Inhabited

/-- The programs a run needs, in the order in which they are looked up. -/
def Tool.required : List Tool :=
  [{ name := "bq"
     origin := "gcloud SDK"
     install := "https://cloud.google.com/sdk/install" },
   { name := "bqschemaupdater"
     origin := "Chrome's infra repository"
     install := "go get -u go.chromium.org/luci/tools/cmd/bqschemaupdater" }]

end Provisioning
