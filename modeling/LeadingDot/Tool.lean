/-!
# The tool

What the tool says of itself.
-/

namespace LeadingDot.Tool

/-- The name of the tool. -/
def name : String := "dotcheck"

/-- Its version. -/
def version : String := "0.1.0"

/-- Where it is described. -/
def informationUri : String := "https://github.com/zen-systems/dotcheck"

end LeadingDot.Tool
