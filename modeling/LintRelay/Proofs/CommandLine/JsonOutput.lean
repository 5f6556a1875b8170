import LintRelay.Proofs.CommandLine.ExitStatus
import LintRelay.Proofs.Console.Message
import LintRelay.Proofs.Results

/-!
# The output of a check in JSON

With JSON wanted, a check writes the sets that it publishes, one to a line, and stays silent
otherwise. Only where the linter fails does it also write its line about that, and then the
output is no stream of JSON any more.
-/

namespace LintRelay.CommandLine

open LintRelay.Console

/-- What a run writes to standard output. -/
def Run.stdout (r : Run) : String :=
  String.join (r.output.map Block.render)

section

variable {w : World} {o : CheckOptions} {c : Config} {d : Document}

end

end LintRelay.CommandLine
