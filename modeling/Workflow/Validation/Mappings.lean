import Workflow.Canvas.Declared
import Workflow.Text.Blank
import Workflow.Validation.Finding

/-!
Edge mappings fill declared inputs of the target, from well-formed paths that start at a declared
output of the source.
-/

namespace Workflow.Validation

def mappingFinding (edge input message : String) : Finding :=
  ⟨.invalidMapping, message, none, some edge, some input⟩

def undeclaredInput (edge input target : String) : Finding :=
  mappingFinding edge input
    s!"Edge \"{edge}\" maps to non-existent input \"{input}\" on target node \"{target}\""

def emptyPath (edge input : String) : Finding :=
  mappingFinding edge input
    s!"Edge \"{edge}\" has invalid source path for input \"{input}\": must be a non-empty string"

def malformedPath (edge input path : String) : Finding :=
  mappingFinding edge input s!"Edge \"{edge}\" has malformed source path \"{path}\""

def undeclaredOutput (edge input path source output : String) : Finding :=
  mappingFinding edge input
    s!"Edge \"{edge}\" reads \"{path}\" but node \"{source}\" declares no output \"{output}\""

def checkedSegments (path : String) : List String := Json.segments (Text.trimBlank path)

def startOutput : List String → String
  | "output" :: next :: _ => next
  | first :: _ => first
  | [] => ""

def checkPath (edge input path source : String) (outputs : Option (Keyed OutputSchema)) :
    List Finding :=
  if (Text.trimBlank path).isEmpty then [emptyPath edge input]
  else if (checkedSegments path).contains "" then [malformedPath edge input path]
  else
    match outputs with
    | none => []
    | some declared =>
      let output := startOutput (checkedSegments path)
      if Keyed.has declared output then []
      else [undeclaredOutput edge input path source output]

def checkEntry (edge : String) (source target : CanvasNode) (catalogue : Catalogue)
    (entry : String × String) : List Finding :=
  let undeclared :=
    match target.declaredInputs catalogue with
    | some inputs =>
      if Keyed.has inputs entry.1 then [] else [undeclaredInput edge entry.1 target.id]
    | none => []
  undeclared ++ checkPath edge entry.1 entry.2 source.id (source.declaredOutputs catalogue)

def checkMapping (nodes : Keyed CanvasNode) (catalogue : Catalogue) (e : CanvasEdge) :
    List Finding :=
  match Keyed.find? nodes e.source, Keyed.find? nodes e.target with
  | some source, some target => e.mapping.flatMap (checkEntry e.id source target catalogue)
  | _, _ => []

def checkMappings (c : Canvas) (catalogue : Catalogue) : List Finding :=
  c.edges.flatMap (checkMapping c.nodeMap catalogue)

end Workflow.Validation
