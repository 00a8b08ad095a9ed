/-!
# Errors of usage

What is wrong with the arguments of the command line.
-/

namespace QueryBridge.Cli

inductive UsageError where
  | missingCommand
  | unknownCommand (name : String)
  | unknownOption (name : String)
  /-- An option at the end lacks its value. -/
  | missingValue (option : String)
  /-- An option without a value was given one. -/
  | unexpectedValue (option : String)
  | extraArgument (text : String)
  | missingStructure
  /-- No file is at the path. -/
  | noFile (path : String)
  /-- A parameter has no equals sign. -/
  | parameterForm (text : String)
  | parameterName (text : String)
deriving Repr, DecidableEq

def UsageError.message : UsageError → String
  | .missingCommand => "Missing command."
  | .unknownCommand name => "No such command '" ++ name ++ "'."
  | .unknownOption name => "No such option: " ++ name
  | .missingValue option => "Option '" ++ option ++ "' requires an argument."
  | .unexpectedValue option => "Option '" ++ option ++ "' does not take a value."
  | .extraArgument text => "Got unexpected extra argument (" ++ text ++ ")"
  | .missingStructure => "Missing option '--structure' / '-S'."
  | .noFile path => "File '" ++ path ++ "' does not exist."
  | .parameterForm text => "Parameter '" ++ text ++ "' must use NAME=VALUE format."
  | .parameterName text => "Parameter '" ++ text ++ "' is missing a name."

/-- Why a run ends before its command: help was asked for, or the arguments are wrong. -/
inductive Stop where
  | help
  | usage (error : UsageError)
deriving Repr, DecidableEq

end QueryBridge.Cli
