import LeadingDot.Scan

/-!
# Configuration

What a project can set: paths that are left out, whether test sources are scanned, and
the settings of the rule.
-/

namespace LeadingDot

/-- The settings of a project. -/
structure Config where
  /-- Patterns of the paths that are left out. -/
  excluded : List String := []
  /-- Whether test sources are scanned; they are not unless this says so. -/
  includeTestFiles : Option Bool := none
  rule : RuleConfig := {}
  deriving DecidableEq, Repr

namespace Config

/-- The settings of a project that sets nothing. -/
def default : Config := {}

/-- Whether test sources are scanned. -/
def scansTests (config : Config) : Bool :=
  config.includeTestFiles.getD false

end Config

end LeadingDot
