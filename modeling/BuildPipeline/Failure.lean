import BuildPipeline.Count
import BuildPipeline.Decimal.Notation
import BuildPipeline.FileSystem.IoError
import BuildPipeline.Glob.Basic

/-!
Why a step, a document or a configuration failed, and the texts that tell it.
-/
namespace BuildPipeline

inductive ConfigFault
  | timeoutNotPositive
  | noEnvironmentCheck
  | thresholdOutOfRange (name : String) (value : Float)
  | unknownCategory (category : String)
  | noArtifactFolder
  /-- The words are those of the library that reads documents. -/
  | malformed (path words : String)
  | badPattern (pattern : String) (error : Glob.SyntaxError)
  | badPatterns (error : Glob.SetError)
  | other (text : String)
  deriving DecidableEq

def ConfigFault.message : ConfigFault → String
  | .timeoutNotPositive => "timeouts must be positive"
  | .noEnvironmentCheck => "at least one environment check command is required"
  | .thresholdOutOfRange name value =>
    "threshold for " ++ name ++ " must be between 0 and 100, got " ++ Decimal.plain value
  | .unknownCategory category => "unknown coverage category '" ++ category ++ "'"
  | .noArtifactFolder => "artifact directory must be set"
  | .malformed path words => path ++ ": " ++ words
  | .badPattern pattern error =>
    "artifact pattern '" ++ pattern ++ "': " ++ error.describe pattern
  | .badPatterns error => "artifact patterns: " ++ error.message
  | .other text => text

inductive Failure
  | spawnFailed (command message : String)
  | commandTimeout (command : String) (limit : Count)
  | stepPanicked (step message : String)
  | unrecognizedOutput (tool : String) (found required : Count)
  | missingFile (path : String)
  | config (fault : ConfigFault)
  | render (format message : String)
  | io (error : IoError)
  /-- A text is no document of the expected form. The words of the library that reads documents are
  told beside this failure. -/
  | json
  | other (message : String)
  deriving DecidableEq

namespace Failure

def message : Failure → String
  | .spawnFailed command message => "Failed to start '" ++ command ++ "': " ++ message
  | .commandTimeout command limit =>
    "Command '" ++ command ++ "' timed out after " ++ limit.text ++ "ms"
  | .stepPanicked step message => "Step '" ++ step ++ "' panicked: " ++ message
  | .unrecognizedOutput tool found required =>
    "No recognizable " ++ tool ++ " results: found " ++ found.text ++
      ", need at least " ++ required.text
  | .missingFile path => "Required file '" ++ path ++ "' not found"
  | .config fault => "Invalid configuration: " ++ fault.message
  | .render format message => "Failed to render " ++ format ++ " report: " ++ message
  | .io error => "IO error: " ++ error.message
  | .json => "JSON error"
  | .other message => message

def isTimeout : Failure → Bool
  | .commandTimeout .. => true
  | _ => false

/-- Failures of the surroundings, not of the project under test. -/
def isSystem : Failure → Bool
  | .spawnFailed .. | .commandTimeout .. | .stepPanicked .. | .unrecognizedOutput .. => true
  | _ => false

/-- The reason given for a failed step; a timeout is just that. -/
def reason : Failure → String
  | .commandTimeout .. => "timeout"
  | f => f.message

end Failure
end BuildPipeline
