/-!
# Rules

The rules of the lint and what is known of each: its identifier, its description,
and sources that break it or keep it.
-/

namespace LeadingDot

/-- A rule of the lint. -/
inductive Rule where
  | missingDot
  deriving DecidableEq, Repr

namespace Rule

/-- All rules. -/
def all : List Rule := [missingDot]

/-- The name of a rule in configurations, directives and reports. -/
def identifier : Rule → String
  | missingDot => "missing_dot_swiftui_modifier"

/-- The rule with an identifier. -/
def parse? (identifier : String) : Option Rule :=
  all.find? (·.identifier == identifier)

end Rule

/-- What kind of check a rule is. -/
inductive RuleKind where
  | lint
  deriving DecidableEq, Repr

/-- The name of a kind of rule. -/
def RuleKind.name : RuleKind → String
  | lint => "lint"

/-- What a list of rules shows of a rule. -/
structure RuleDescription where
  identifier : String
  name : String
  description : String
  kind : RuleKind
  /-- Sources without a violation. -/
  nonTriggering : List String
  /-- Sources with at least one violation. -/
  triggering : List String

/-- A source from its lines, after an empty one. -/
def snippet (lines : List String) : String :=
  "\n" ++ String.join (lines.map (· ++ "\n"))

/-- The description of a rule. -/
def Rule.description : Rule → RuleDescription
  | missingDot =>
    { identifier := missingDot.identifier
      name := "Missing Dot SwiftUI Modifier"
      description := "Missing leading dot in SwiftUI modifiers"
      kind := .lint
      nonTriggering :=
        [snippet
          ["struct ContentView: View \x7b",
           "    var body: some View \x7b",
           "        Text(\"Hello World\")",
           "            .padding()",
           "    \x7d",
           "\x7d"],
         snippet
          ["struct ContentView: View \x7b",
           "    func header() -> Int \x7b",
           "        padding()",
           "    \x7d",
           "\x7d"],
         snippet
          ["final class Coordinator \x7b",
           "    var body: some View \x7b",
           "        Text(\"Hello World\")",
           "            padding()",
           "    \x7d",
           "\x7d"],
         snippet
          ["struct ContentView: View \x7b",
           "    var body: some View \x7b",
           "        Text(\"Hello World\")",
           "            .background(Color.red)",
           "            .frame(width: 10)",
           "    \x7d",
           "\x7d"]]
      triggering :=
        [snippet
          ["struct ContentView: View \x7b",
           "    var body: some View \x7b",
           "        Text(\"Hello World\")",
           "            padding()",
           "    \x7d",
           "\x7d"],
         snippet
          ["struct ContentView: View \x7b",
           "    func header() -> some View \x7b",
           "        Image(\"logo\")",
           "            frame(width: 20, height: 20)",
           "    \x7d",
           "\x7d"],
         snippet
          ["struct ContentView: View \x7b",
           "    var body: some View \x7b",
           "        Text(\"Hello World\")",
           "            overlay \x7b",
           "                Circle()",
           "            \x7d",
           "    \x7d",
           "\x7d"]] }

end LeadingDot
