import FieldCalc.Web.Request

/-!
Routes: which requests there are. A path that no route has is not found, one that has routes only
for other methods does not allow the method, and a path with slashes in a row is redirected if
the path with single ones has a route. No route opens a socket.
-/

namespace FieldCalc.Web

inductive Route where
  | about
  | listFields
  | getField (name : String)
  | putField (name : String)
  | openSession
  | getSession (id : String)
  | pressKeys (id : String)
  | getTape (id : String)
  | finishSession (id : String)
  | cancelSession (id : String)
  | evaluate
  /-- A file to be served as it is; there are none. -/
  | file
  deriving DecidableEq, Repr

abbrev Methods := List (String × Route)

def reading (route : Route) : Methods := [("GET", route), ("HEAD", route)]

def posting (route : Route) : Methods := [("POST", route)]

/-- Whether segments name a file: the first is not empty, and no line feed follows its first
character. -/
def isFilePath : List String → Bool
  | [] => false
  | first :: more =>
      !first.isEmpty && (first.toList.tail :: more.map String.toList).all (!·.contains '\n')

/-- The methods of a path given by its segments. A segment that is a name is not empty. -/
def methodsOf (segments : List Text) : Methods :=
  match segments.map String.ofList with
  | ["api"] => reading .about
  | ["api", "fields"] => reading .listFields
  | ["api", "sessions"] => posting .openSession
  | ["api", "evaluate"] => posting .evaluate
  | ["api", "fields", name] =>
      if name.isEmpty then [] else reading (.getField name) ++ [("PUT", .putField name)]
  | ["api", "sessions", id] => if id.isEmpty then [] else reading (.getSession id)
  | ["api", "sessions", id, "actions"] => if id.isEmpty then [] else posting (.pressKeys id)
  | ["api", "sessions", id, "tape"] => if id.isEmpty then [] else reading (.getTape id)
  | ["api", "sessions", id, "done"] => if id.isEmpty then [] else posting (.finishSession id)
  | ["api", "sessions", id, "cancel"] => if id.isEmpty then [] else posting (.cancelSession id)
  | "static" :: names => if isFilePath names then reading .file else []
  | _ => []

inductive Target where
  | route (route : Route)
  /-- The request asks which methods the path has. -/
  | options
  | redirected
  | wrongMethod
  /-- The request wants a socket where there is none. -/
  | noSocket
  /-- The request was sent to what cannot be a host. -/
  | noHost
  | notFound
  deriving DecidableEq, Repr

def choose? (method : String) (methods : Methods) : Option Target :=
  if methods.isEmpty then none
  else match methods.find? (·.1 == method) with
    | some (_, route) => some (.route route)
    | none => if method == "OPTIONS" then some .options else none

def allTake (method : String) (methods : Methods) : Bool :=
  method == "OPTIONS" || methods.all fun entry => methods.contains (method, entry.2)

namespace Request

def methods (request : Request) : Methods × Methods :=
  (methodsOf (request.path.cutAt '/'), methodsOf ((mergeSlashes request.path).cutAt '/'))

def plainTarget (request : Request) : Target :=
  let (exact, merged) := request.methods
  match choose? request.method exact with
  | some found => found
  | none =>
      match choose? request.method merged with
      | some _ => .redirected
      | none => if exact.isEmpty && merged.isEmpty then .notFound else .wrongMethod

def socketTarget (request : Request) : Target :=
  let (exact, merged) := request.methods
  if exact.isEmpty && merged.isEmpty then .notFound
  else if allTake request.method exact && allTake request.method merged then .noSocket
  else .wrongMethod

def leadsTo (request : Request) : Target :=
  if !request.isWellNamed then .noHost
  else if request.isSocket then request.socketTarget
  else request.plainTarget

end Request

end FieldCalc.Web
