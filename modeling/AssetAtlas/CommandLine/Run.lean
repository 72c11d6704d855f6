import AssetAtlas.CommandLine.Help
import AssetAtlas.CommandLine.Shell
import AssetAtlas.Criteria.Document
import AssetAtlas.Loading.Loader
import AssetAtlas.Report.Summary
import AssetAtlas.Settings.File

/-!
A run of the program, from its command line to how it ends. What is given on the command line counts
more than what the settings say.
-/

namespace AssetAtlas

variable {m : Type → Type} [Monad m]

/-- A step of a run, which may fail. -/
abbrev Step (m : Type → Type) := ExceptT Failure m

def Step.ofFault {α : Type} (act : m (Except Fault α)) : Step m α :=
  ExceptT.mk do return (← act).mapError .ofFault

/-- A step that fails for want of settings. -/
def Step.ofSettings {α : Type} (act : m (Except SettingsFault α)) : Step m α :=
  ExceptT.mk do
    return (← act).mapError fun fault => { message := fault.message, causes := fault.cause?.toList }

namespace Client

def answer (c : Client) (shell : Shell m) (t : Ticket) : m (Except Fault StoreAnswer) := do
  let ask (program : String) : m (Except Fault Reply) := do
    match c.request program with
    | .error fault => return .error fault
    | .ok request => return (← shell.send request).reply
  let rows ← ask t.dataQuery
  let total ← ask t.countQuery
  return StoreAnswer.join (rows.map (·.rows)) (total.map (·.total))

/-- Answers a waiting call until it is finished, and tells what happens meanwhile. -/
def serve (c : Client) (shell : Shell m) (w : Waiting) (l : Loader) : m (Except Fault Snapshot) := do
  let answer ← c.answer shell w.ticket
  let time ← shell.now
  match h : w.resume l answer time with
  | (_, .finished result, notices) =>
    notices.forM fun n => shell.console.note (n.written false)
    return result
  | (l, .waiting next, notices) =>
    notices.forM fun n => shell.console.note (n.written false)
    have : next.left < w.left := Waiting.left_lt_of_resume h
    serve c shell next l
termination_by w.left

def load (c : Client) (shell : Shell m) (i : Inquiry) (extra : Nat) : m (Except Fault Snapshot) := do
  let (l, w) := Call.start (.new (← shell.now)) (.loadPages i extra)
  shell.console.note (w.ticket.notice.written false)
  c.serve shell w l

end Client

namespace Arguments

/-- The settings of the file that is named, or of the one that is found. -/
def settings (a : Arguments) (shell : Shell m) : Step m Settings :=
  match a.config with
  | some path => .ofSettings (Settings.load shell.files shell.console path)
  | none => do return (← Step.ofSettings (Settings.discover shell.files shell.console)).getD {}

/-- The criteria of the file that is named, or the one that is described, or those of the settings. -/
def criteriaFor (a : Arguments) (shell : Shell m) (s : Settings) : Step m Criteria :=
  match a.criteria with
  | some path => .ofFault (Criteria.load shell.files path)
  | none =>
    return if a.hasCriterion then .single a.criterion else s.filters.getD .default

def client (a : Arguments) (s : Settings) : Except Fault Client := do
  let address ← match a.endpoint <|> s.endpoint with
    | some address => pure address
    | none => throw (.invalid
        s!"No query endpoint configured.\n\n💡 Hint: Pass --endpoint or set 'endpoint' in {Settings.fileName}")
  Client.new address (a.token <|> s.token) ((s.timeout.map (·.toNat)).getD standardTimeout)

def standardViewport : Float := 1280

def report (a : Arguments) (s : Settings) (snapshot : Snapshot) : Report :=
  let r : Report := { snapshot }
  if a.layout then r.withLayout .standard ((a.viewport <|> s.viewport).getD standardViewport) else r

def programsText (i : Inquiry) : String :=
  s!"// data\n{i.dataQuery pageSize}\n\n// count\n{i.countQuery}\n"

def perform (a : Arguments) (shell : Shell m) : Step m Unit := do
  let s ← a.settings shell
  let criteria ← a.criteriaFor shell s
  let inquiry : Inquiry := { criteria, showInternet := a.internet || s.showInternet.getD false }
  if a.printQuery then
    shell.console.output (programsText inquiry)
  else
    let client ← Step.ofFault (pure (a.client s))
    let snapshot ← Step.ofFault (client.load shell inquiry a.pages)
    let format := (a.format <|> s.format).getD .standard
    shell.console.note (format.progressText ++ "\n")
    Step.ofFault ((Destination.ofPath a.output).present shell.files shell.console
      ((a.report s snapshot).text format))

end Arguments

def run (shell : Shell m) (words : List String) : m ExitStatus := do
  match Arguments.ofWords words with
  | .error .help =>
    shell.console.output helpText
    return .success
  | .error .version =>
    shell.console.output versionText
    return .success
  | .error (.refused reason) =>
    shell.console.note (refusalText reason)
    return .invalidArguments
  | .ok arguments =>
    match ← (arguments.perform shell).run with
    | .ok () => return .success
    | .error failure =>
      shell.console.note failure.text
      return .failure

end AssetAtlas
