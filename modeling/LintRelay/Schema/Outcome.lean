import LintRelay.Validation.Pass

/-!
# Outcomes as values

How processes, requests and the outcomes of passes are written as values.
-/

namespace LintRelay

def environmentValue (environment : List (String × String)) : Value :=
  .table (environment.map fun (name, setting) => (name, .text setting))

def Invocation.toValue (i : Invocation) : Value :=
  .table [
    ("args", .texts i.args),
    ("cwd", .ofText? i.cwd),
    ("env", .ofOption environmentValue i.environment),
    ("timeout", .ofOption Number.toValue i.timeout),
    ("discard_stdin", .bool i.discardInput)]

/-- What is told of an ended process, apart from its command. -/
def Completed.entries (p : Completed) : List (String × Value) :=
  [("returncode", .int p.status), ("stdout", .ofText? p.stdout), ("stderr", .ofText? p.stderr)]

/-- What is told of a failed run of the linter, apart from its message. -/
def LinterFailure.entries (f : LinterFailure) : List (String × Value) :=
  [("command", .texts f.command), ("returncode", .ofOption Value.int f.status),
    ("stderr", .ofText? f.stderr)]

/-- What is told of a fault, apart from its kind and message. -/
def Fault.entries (f : Fault) : List (String × Value) :=
  match f.detail with
  | .exited process => ("command", .texts process.args) :: process.entries
  | .linter failure => failure.entries
  | _ => []

/-- A request as a value, with its headers in the order of their names. -/
def HttpRequest.toValue (r : HttpRequest) : Value :=
  let headers := r.headers.mergeSort fun a b => a.1 ≤ b.1
  .table [
    ("url", .text r.url),
    ("method", .text r.method),
    ("headers", .list (headers.map fun (name, setting) => .texts [name, setting])),
    ("timeout", .ofOption Number.toValue r.timeout),
    ("body", .text r.body)]

/-- The outcome of a pass as a value; `failure` says how a failed run of the
linter is written. -/
def PassOutcome.toValue (failure : LinterFailure → Value) (o : PassOutcome) : Value :=
  .table [
    ("uri", .text o.uri),
    ("status", .text o.status.name),
    ("published", .bool o.isPublished),
    ("diagnostics", .list (o.diagnostics.map Diagnostic.toLsp)),
    ("error", .ofOption failure o.error)]

end LintRelay
