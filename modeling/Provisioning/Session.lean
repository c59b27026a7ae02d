import Provisioning.FileTree
import Provisioning.Layout.Change
import Provisioning.Run

/-! # Sessions

Work on one layout: it is changed, loaded, checked, planned for a project and carried out on a machine
that answers from a list. The list keeps its place from run to run. -/
namespace Provisioning

/-- The state of a session. -/
structure Session where
  layout : Layout := Layout.standard
  project : Option ProjectId := none
  replies : List Reply := []
  files : FileTree := {}
  /-- The directory from which relative paths are seen. -/
  directory : Location := []

namespace Session

/-- Whether a path leads to a directory. -/
def isDirectory (s : Session) (p : Path) : Bool :=
  s.files.isDirectory s.directory p

/-- The session with a changed layout. -/
def change (s : Session) (c : Layout.Change) : Session :=
  { s with layout := s.layout.apply c }

/-- The session with the layout from a file. -/
def load (s : Session) (p : Path) : Except Layout.LoadError Session :=
  (Layout.load (s.files.read s.directory) p).map fun layout => { s with layout := layout }

/-- The session with another project. -/
def choose (s : Session) (raw : String) : Except Failure Session :=
  (ProjectId.parse raw).map fun project => { s with project := some project }

/-- The plan for the project, once one is chosen. -/
def plan? (s : Session) : Option Plan :=
  s.project.map (Plan.ofLayout s.layout)

/-- Carries out a plan; the replies it did not use are left for later. -/
def run (s : Session) (plan : Plan) : Run (List Reply) Report × Session :=
  let run := plan.run (Host.scripted s.isDirectory) s.replies
  (run, { s with replies := run.final })

/-- Shows what carrying out a plan would do; no reply is used. -/
def preview (s : Session) (plan : Plan) : Run Unit Report :=
  plan.run (Host.preview fun _ => s.isDirectory) ()

end Session

end Provisioning
