import Depot.Build.Document
import Depot.Json.Reader

/-!
# Publishing to a server

A build is published by one request to the server, whose reply decides what
became of it: `204` is the only success. The request is a value (`Request.publish`)
and so is the reply, and `Reply.outcome` reads the one off the other.
-/

namespace Depot.Build

/-- A server and how to log in to it. -/
structure Server where
  /-- The base URL, ending in a slash. -/
  url : Text
  /-- Sent with every request; the user is not when it is. -/
  apiKey : Option Text
  /-- The user and the password. -/
  login : Option (Text × Text)
  deriving DecidableEq

/-- A setting that is there and not empty. -/
def given? (setting : Option Text) : Option Text := setting.filter (· ≠ [])

/-- The server at a URL, with what is configured for it. A key takes the place
    of a user, and a user without a password has an empty one. -/
def Server.connect (url : Text) (user password apiKey : Option Text) : Server :=
  let url := if Text.endsWith '/' url then url else url ++ "/"
  match given? apiKey with
  | some key => ⟨url, some key, none⟩
  | none => ⟨url, none, (given? user).map fun user => (user, password.getD [])⟩

/-- Where a published build can be looked at. -/
def Server.browseUrl (s : Server) (b : Build) : Text :=
  s.url ++ "webapp/builds/" ++ b.name ++ "/" ++ b.number

/-- Where builds are sent. -/
def Server.endpoint (s : Server) : Text := s.url ++ "api/build/"

/-- A request that puts something on a server. -/
structure Request where
  url : Text
  /-- What is sent. -/
  body : Text
  contentType : Text
  /-- For how many seconds the reply is waited for. -/
  timeout : Nat
  userAgent : Text
  apiKey : Option Text
  login : Option (Text × Text)
  deriving DecidableEq

/-- The request that publishes a document. -/
def Request.publish (s : Server) (document : Json) : Request where
  url := s.endpoint
  body := document.render .spaced
  contentType := "application/vnd.org.jfrog.artifactory+json"
  timeout := 30
  userAgent := Program.name ++ "/" ++ Program.version
  apiKey := s.apiKey
  login := s.login

/-- What comes back for a request. -/
inductive Reply where
  /-- An answer with a status and a text. -/
  | answer (status : Int) (body : Text)
  /-- No answer, for a reason given in words. -/
  | failure (reason : Text)
  deriving DecidableEq

/-- Why a build was not published. -/
inductive PublishError where
  /-- The server answered with another status than success. -/
  | rejected (status : Int) (body : Text)
  /-- There was no answer from an address. -/
  | unreachable (endpoint reason : Text)
  /-- The text of the answer is JSON nested too deep to be set out. -/
  | tooDeep (container : Json.Container)
  deriving DecidableEq

/-- Why the build was not published, in words. -/
def PublishError.message : PublishError → Text
  | .rejected status body => "Server response: HTTP " ++ Text.ofInt status ++ "\n" ++ body
  | .unreachable endpoint reason => "Request to " ++ endpoint ++ " failed: " ++ reason
  | .tooDeep container => container.tooDeepMessage

/-- The status of a success. -/
def successStatus : Int := 204

/-- The text of an answer, set out on several lines if it is JSON. -/
def indentBody (body : Text) : Except Json.Container Text :=
  match Json.parseFile body with
  | .ok v => .ok (v.render .indented)
  | .error (.tooDeep container) => .error container
  | .error _ => .ok body

/-- What became of a build that was sent. -/
def Reply.outcome (s : Server) : Reply → Except PublishError Unit
  | .answer status body =>
    if status = successStatus then .ok ()
    else
      match indentBody body with
      | .ok shown => .error (.rejected status shown)
      | .error container => .error (.tooDeep container)
  | .failure reason => .error (.unreachable s.endpoint reason)

/-- Only an answer with the status of a success publishes a build. -/
theorem Reply.outcome_eq_ok_iff {s : Server} {r : Reply} :
    r.outcome s = .ok () ↔ ∃ body, r = .answer successStatus body := by
  cases r with
  | answer status body =>
    by_cases h : status = successStatus
    · simp [outcome, h]
    · cases hb : indentBody body <;> simp [outcome, h, hb]
  | failure reason => simp [outcome]

end Depot.Build
