import Foldbook.Http.Authorization
import Foldbook.Http.Classification
import Foldbook.Runner.Resolving

/-!
# Sending requests

A request becomes the arguments of the client program, which runs here or on the remote host that
the environment names.  With debugging on, the command line is shown instead.
-/

namespace Foldbook

/-- The arguments of the client program for a request whose selectors have been replaced.  Headers
are asked for unless the request brings options of its own. -/
def Request.arguments (r : Request) (verbose : Bool) : List String :=
  let shown := if verbose then ["-v"] else if r.options.isEmpty then ["--include"] else []
  ["-k"] ++ shown ++ [r.url, "-X", r.method] ++
    r.headers.flatMap (fun h => ["-H", h]) ++
    r.body.toList.flatMap (fun b => ["-d", b]) ++
    r.forms.flatMap (fun f => ["-F", f]) ++ r.options

namespace Act

/-- Replaces the selectors of a request, its options apart. -/
def settleRequest (request : Request) : Act Request := do
  let url ← settle request.url
  let headers ← request.headers.mapM fun h => return Http.encodeAuthorization (← settle h)
  let forms ← request.forms.mapM settle
  let body ← request.body.mapM settle
  return { request with url, headers, forms, body }

/-- The arguments of the client program for a request. -/
def requestArguments (request : Request) (verbose : Bool) : Act (List String) := do
  return (← settleRequest request).arguments verbose

/-- Runs the client program here.  Its diagnostics are the failure if it fails. -/
def runLocally (program : String) (args : List String) : Act (String × String) := do
  match ← start program args with
  | .error fault => fail (fault.failure program)
  | .ok finished =>
    if finished.status ≠ 0 then fail (.transport (.diagnostics (rawText finished.diagnostics)))
    else return (plainText finished.output, plainText finished.diagnostics)

/-- Runs the client program and answers its output and diagnostics. -/
def runClient (args : List String) : Act (String × String) := do
  let program := (← get).client
  match ← target? with
  | some target => withSession target fun connection => connection.command program args
  | none => runLocally program args

/-- Notes that a request did not reach its server. -/
def noteTransport (method : String) (f : Failure) : Act Unit :=
  match f.kind with
  | .transport =>
    note {
      level := .warning
      event := "http.transport_failed"
      fields := [("method", .str method), ("error", .str f.message)] }
  | _ => pure ()

/-- Sends a request, or shows the command line that would send it. -/
def send (request : Request) (debug verbose : Bool) : Act Reply := do
  let args ← requestArguments request verbose
  note {
    level := .info
    event := "http.request"
    fields := [("method", .str request.method), ("url", .str request.url),
      ("debug", .bool debug), ("verbose", .bool verbose)] }
  if debug then
    return { text := " ".intercalate ((← get).client :: args), value := .str "" }
  match ← attempt (runClient args) with
  | .ok (output, diagnostics) => return Http.classify output diagnostics verbose
  | .error f => do
    noteTransport request.method f
    fail f

end Act

end Foldbook
