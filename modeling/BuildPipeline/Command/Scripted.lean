import BuildPipeline.Command.Basic

/-!
A runner that replays prepared responses. Responses to one command are given in order and the last
one again and again; every call is recorded.
-/
namespace BuildPipeline

inductive Response
  | output (o : ProcessOutput)
  | timeout
  | spawnError (message : String)
  deriving DecidableEq

structure Script where
  queues : SortedMap (List Response) := .empty
  /-- The response to a command without responses of its own. -/
  fallback : Option Response := some (.output {})
  calls : List String := []

namespace Script

/-- Commands without responses succeed with no output. -/
def lenient : Script := {}

/-- Commands without responses cannot be started. -/
def strict : Script := { fallback := none }

def respond (s : Script) (command : String) (r : Response) : Script :=
  { s with queues := s.queues.insert command ((s.queues.get? command).getD [] ++ [r]) }

def respondAll (s : Script) (responses : List (String × Response)) : Script :=
  responses.foldl (fun s r => s.respond r.1 r.2) s

def next (s : Script) (command : String) : Option Response × Script :=
  match s.queues.get? command with
  | some (r :: r' :: rest) => (some r, { s with queues := s.queues.insert command (r' :: rest) })
  | some [r] => (some r, s)
  | some [] => (none, s)
  | none => (s.fallback, s)

def record (s : Script) (command : String) : Script := { s with calls := s.calls ++ [command] }

def answer (command : String) (options : RunOptions) :
    Option Response → Except Failure ProcessOutput
  | some (.output o) => .ok (if options.captureOutput then o else o.withoutStreams)
  | some .timeout => .ok (.timeout options.limit)
  | some (.spawnError message) => .error (.spawnFailed command message)
  | none => .error (.spawnFailed command "no scripted response")

def runner : Runner Script := fun command options files s =>
  let (response, s) := (s.record command).next command
  (answer command options response, files, s)

end Script
end BuildPipeline
