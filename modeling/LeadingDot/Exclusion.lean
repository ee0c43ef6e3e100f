import LeadingDot.Config
import LeadingDot.Glob.Match

/-!
# Exclusion

The paths that a configuration leaves out: those that one of its glob patterns matches.
-/

namespace LeadingDot

/-- An exclude pattern that is no glob pattern. -/
structure PatternError where
  pattern : String
  fault : Glob.Fault
  deriving DecidableEq, Repr

namespace PatternError

/-- What is wrong with the pattern. -/
def cause (error : PatternError) : String :=
  "error parsing glob '" ++ error.pattern ++ "': " ++ error.fault.message

/-- What is said of the error. -/
def message (error : PatternError) : String :=
  "invalid exclude pattern " ++ Text.quoted error.pattern ++ ": " ++ error.cause

end PatternError

/-- The patterns of the paths that are left out. -/
structure Exclusion where
  patterns : List (List Glob.Part)

namespace Exclusion

/-- Reads one pattern. -/
def readPattern (pattern : String) : Except PatternError (List Glob.Part) :=
  (Glob.parse pattern.toList).mapError (PatternError.mk pattern)

/-- Reads patterns; the first one that is no glob pattern is told. -/
def ofPatterns (patterns : List String) : Except PatternError Exclusion :=
  (patterns.mapM readPattern).map Exclusion.mk

/-- Whether a path is left out. -/
def covers (exclusion : Exclusion) (path : List UInt8) : Bool :=
  exclusion.patterns.any (Glob.isMatch · path)

end Exclusion

/-- The paths that a configuration leaves out. -/
def Config.exclusion (config : Config) : Except PatternError Exclusion :=
  Exclusion.ofPatterns config.excluded

end LeadingDot
