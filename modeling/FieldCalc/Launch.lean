import FieldCalc.Product

/-!
Launches: the ways in which the program is started, and what each of them prints, asks the network
and tells the server to do. The window and the server in the background share one host; a server
in the foreground stands alone.
-/

namespace FieldCalc

inductive Launch where
  /-- Only find the address at which others reach this machine. -/
  | address
  | background
  /-- A window, with a server in the background. -/
  | desktop
  | server
  /-- A server in the foreground that explains why it cannot start. -/
  | explained
  deriving DecidableEq, Repr

/-- What a launch meets: the address that the network gives to this machine, where to serve, and
why the server cannot be loaded or run, if it cannot. -/
structure Surroundings where
  address : Option String
  endpoint : Endpoint
  loadProblem : Option String
  runProblem : Option String

structure ServerRun where
  endpoint : Endpoint
  /-- Whether the server watches its own code, where that is decided. -/
  reloading : Option Bool
  deriving DecidableEq, Repr

inductive Launched where
  | nothing
  | address (text : String)
  | thread (name : String) (daemon : Bool)
  | window (title geometry : String) (entered : Bool)
  /-- The system refused, and nobody took care of it. -/
  | refused (message : String)
  deriving DecidableEq, Repr

structure LaunchRecord where
  result : Launched
  printed : String
  exitCode : Option Nat
  runs : List ServerRun
  asked : Option Endpoint
  deriving DecidableEq, Repr

namespace Launch

/-- An address outside this machine. Asking for the way to it sends nothing. -/
def probe : Endpoint := ⟨"10.255.255.255", 1⟩

def loopback : String := "127.0.0.1"

def reachedAt (s : Surroundings) : String := s.address.getD loopback

def rule : String := String.ofList (List.replicate 60 '=')

def printLines (lines : List String) : String :=
  lines.foldl (fun text line => text ++ line ++ "\n") ""

/-! ## Texts -/

def liveText (s : Surroundings) : String :=
  printLines [
    rule,
    "RIDECALC API IS LIVE",
    s!"This PC:      http://localhost:{s.endpoint.number}/api",
    s!"Your phone:   http://{reachedAt s}:{s.endpoint.number}/api",
    "Fields edited there show up in this window.",
    rule]

/-- How other machines reach the server, where it listens to them. -/
def networkLines (e : Endpoint) : List String :=
  if e.host = Product.anyHost then
    [s!"Access from network: http://<your-ip>:{e.number}/api"]
  else []

def serverText (e : Endpoint) : String :=
  printLines (["", rule, "RideCalc API Server", rule,
      s!"Server starting on http://{e.host}:{e.number}",
      s!"Access from this device: http://localhost:{e.number}/api"]
    ++ networkLines e ++ [rule, ""])

def startText : String := printLines ["Starting RideCalc API...", ""]

def loadProblemText (problem : String) : String :=
  printLines [
    "Error importing modules: " ++ problem,
    "",
    "Make sure you have installed the required dependencies:",
    "  pip install -e ."]

def runProblemText (e : Endpoint) (problem : String) : String :=
  printLines [
    "Error starting server: " ++ problem,
    "",
    "Troubleshooting:",
    s!"1. Check if another application is using port {e.number}",
    "2. Check firewall settings"]

/-! ## Launches -/

def backgroundRun (s : Surroundings) : ServerRun := ⟨s.endpoint, some false⟩

def foregroundRun (s : Surroundings) : ServerRun := ⟨s.endpoint, none⟩

/-- What is seen of a launch. Problems of a server in the background are not seen. -/
def record (s : Surroundings) : Launch → LaunchRecord
  | address => ⟨.address (reachedAt s), "", none, [], some probe⟩
  | background =>
      ⟨.thread "ridecalc-api" true, liveText s, none, [backgroundRun s], some probe⟩
  | desktop =>
      let geometry := Product.geometry Product.windowWidth Product.windowHeight
      ⟨.window Product.name geometry true, liveText s, none, [backgroundRun s], some probe⟩
  | server =>
      let result := match s.runProblem with
        | none => .nothing
        | some problem => .refused problem
      ⟨result, serverText s.endpoint, none, [foregroundRun s], none⟩
  | explained =>
      match s.loadProblem, s.runProblem with
      | some problem, _ => ⟨.nothing, startText ++ loadProblemText problem, some 1, [], none⟩
      | none, some problem =>
          let printed := startText ++ runProblemText s.endpoint problem
          ⟨.nothing, printed, some 1, [foregroundRun s], none⟩
      | none, none => ⟨.nothing, startText, none, [foregroundRun s], none⟩

end Launch

end FieldCalc
