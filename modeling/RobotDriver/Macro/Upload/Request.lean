import RobotDriver.Macro.Upload

/-!
# Requests to a streamed macro

`Upload.Request` lists what can be asked of an upload and `Upload.step` answers it. A request that is
refused leaves the upload as it was. `Upload.after` is the upload that a list of requests leads to.
-/

namespace RobotDriver.Macro.Upload

/-- What is asked of an upload. -/
inductive Request where
  | submit (steps : List Step)
  | acknowledge
  | fill
  | abort
  | sendAfter (command : Command)
  | clearAfter
  | clear
  deriving DecidableEq

/-- What a request gives back. -/
inductive Reply where
  | done
  | progress (progress : Progress)
  | commands (commands : List Command)
  | refused (error : MacroError)
  deriving DecidableEq

def step (u : Upload) : Request → Reply × Upload
  | .submit steps =>
    match u.submit steps with
    | .ok (next, progress) => (.progress progress, next)
    | .error e => (.refused e, u)
  | .acknowledge =>
    let (next, progress) := u.acknowledge
    (.progress progress, next)
  | .fill =>
    let (next, commands) := u.fill
    (.commands commands, next)
  | .abort =>
    let (next, commands) := u.abort
    (.commands commands, next)
  | .sendAfter command => (.done, u.sendAfter command)
  | .clearAfter => (.done, u.clearAfter)
  | .clear => (.done, u.clear)

/-- The upload after requests one after the other. -/
def after (u : Upload) (requests : List Request) : Upload :=
  requests.foldl (fun u request => (u.step request).2) u

end RobotDriver.Macro.Upload
