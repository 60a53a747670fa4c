import Abiscope.Difference

/-!
# Type changes in reports

A type change is shown as a heading, the changes of the type itself, and below them, one step further
in, the changes of its parts. What a suppression hides is left out, or shown as a heading with the label
of the suppression when suppressed changes are to be shown.
-/

namespace Abiscope.Report

/-- The place of a declaration, if places are to be shown. -/
def locationSuffix (options : Options) (location : Option SourceLocation) : String :=
  match location with
  | some location => if options.showLocations then " at " ++ location.render else ""
  | none => ""

/-- The label of the suppression that hides something. -/
def labelSuffix : Option String → String
  | none => ""
  | some "" => " [suppressed]"
  | some label => s!" [suppressed by '{label}']"

/-- A line some steps in. -/
def indented (indent : Nat) (line : String) : String := String.ofList (List.replicate indent ' ') ++ line

/-- The heading of a type change: nothing, the heading alone, or the heading with lines below it. -/
inductive Heading where
  | hidden
  | alone (line : String)
  | opening (line : String)
deriving DecidableEq, Repr

/-- How a type change is introduced. -/
def headingOf (options : Options) (indent : Nat) (heading : String)
    (difference : TypeDifference) : Heading :=
  if difference.isSuppressed then
    if options.showSuppressed then
      .alone (indented indent (heading ++ labelSuffix difference.finding.suppressedBy))
    else .hidden
  else if difference.isReportable || options.showSuppressed then
    .opening (indented indent (heading ++ ":"))
  else .hidden

/-- The lines about the types of a finding themselves. A new name is mentioned where nothing else
tells it. -/
def findingLines (indent : Nat) (finding : Finding) : List String :=
  (if finding.oldName != finding.newName && finding.changes.isEmpty then
    [indented indent s!"type changed from '{finding.oldName}' to '{finding.newName}'"]
  else []) ++ finding.changes.map fun change => indented indent change.text

/-- The heading of a part. -/
def partHeading (options : Options) (role : String) (finding : Finding) : String :=
  s!"in {role} '{finding.oldName}'" ++ locationSuffix options finding.location

/-- The lines of findings side by side. -/
def findingsLines (options : Options) (indent : Nat) : Findings → List String
  | .empty => []
  | .cons role finding inside beside =>
    (match headingOf options indent (partHeading options role finding) ⟨finding, inside⟩ with
    | .hidden => []
    | .alone line => [line]
    | .opening line =>
      line :: (findingLines (indent + 2) finding ++ findingsLines options (indent + 2) inside)) ++
    findingsLines options indent beside

/-- The lines of a type change under a heading. -/
def typeLines (options : Options) (indent : Nat) (heading : String)
    (difference : TypeDifference) : List String :=
  match headingOf options indent heading difference with
  | .hidden => []
  | .alone line => [line]
  | .opening line =>
    line :: (findingLines (indent + 2) difference.finding ++
      findingsLines options (indent + 2) difference.inside)

end Abiscope.Report
