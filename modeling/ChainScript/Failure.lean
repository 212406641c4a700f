/-!
# Failures

The ways in which loading, resolving and calling can fail, and the sentence that reports each.
-/

namespace ChainScript

/-- What went wrong. A chain goes on after any of these: they are collected as warnings, or come
back from the one call that failed. -/
inductive Failure where
  /-- There is no voice, primitive or file with the name. -/
  | missing (name : String)
  /-- The primitive failed by itself. -/
  | primitive (name : String) (reason : String)
  /-- The token means nothing. -/
  | unresolved (token : String)
  /-- The voice was called while it was running. -/
  | cycle (voice : String)
  /-- The file or directory cannot be read. -/
  | unreadable (path : String) (reason : String)
  /-- The argument is of no use to the primitive. -/
  | invalid (argument : String) (reason : String)
  deriving DecidableEq

/-- The sentence that reports the failure. -/
def Failure.message : Failure → String
  | missing name => "No definition found for `" ++ name ++ "`"
  | primitive name reason => "Primitive `" ++ name ++ "` failed: " ++ reason
  | unresolved token => "Could not resolve `" ++ token ++ "`"
  | cycle voice => "Voice `" ++ voice ++ "` invokes itself"
  | unreadable path reason => "Could not read `" ++ path ++ "`: " ++ reason
  | invalid argument reason => "Invalid `" ++ argument ++ "`: " ++ reason

end ChainScript
