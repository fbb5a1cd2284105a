import Workflow.Console.Markup
import Workflow.Graph.NodeKind
import Workflow.Status

namespace Workflow

def Status.markup : Status → String
  | .pending => "[dim]○ Pending[/]"
  | .running => "[blue]⟳ Running[/]"
  | .completed => "[green]✓ Completed[/]"
  | .failed => "[red]✗ Failed[/]"
  | .waitingForUser => "[yellow]… Waiting for user[/]"

def Status.markupOfName (name : String) : String :=
  match Status.ofName? name with
  | some s => s.markup
  | none => Markup.escape name

namespace NodeKind

def symbol : NodeKind → String
  | .worker => "[W]"
  | .ux => "[U]"
  | .splitter => "[S]"
  | .collector => "[C]"
  | .frame | .frameItem => "[ ]"

def color : NodeKind → String
  | .worker => "cyan"
  | .ux => "red"
  | .splitter => "green"
  | .collector => "blue"
  | .frame | .frameItem => "white"

end NodeKind

end Workflow
