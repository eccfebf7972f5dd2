/-
  SuiteExplorer/Debug/Launch.lean
  ===============================
  Launch configurations, the way a debugger reads them.
-/
import SuiteExplorer.Value.Document

namespace SuiteExplorer.Launch

/-- The version of the document that holds launch configurations. -/
def version : String := "0.2.0"

def document (configuration : Value) : String :=
  Document.render (.map
    [("version", .text version), ("configurations", .list [configuration])])

end SuiteExplorer.Launch
