/-
The program on a real machine: files of the file system, answers from the
standard input, the journal on the standard error output.
-/

import FlashScript.CommandLine

namespace FlashScript

namespace Terminal

/-- The journal's filter remembers what it has looked for. -/
abbrev Action := StateT JournalFilter IO

/-- One line of the standard input with its line feed; nothing at the end. -/
partial def readLine (stream : IO.FS.Stream) (reversed : List UInt8) :
    IO (Option (List UInt8)) := do
  match (← stream.read 1).toList with
  | [] => return if reversed.isEmpty then none else some reversed.reverse
  | byte :: _ =>
      if byte = Lines.lineFeed then return some (byte :: reversed).reverse
      else readLine stream (byte :: reversed)

/-- Some calls give the number of an error with the opposite sign. -/
def unsigned (code : UInt32) : UInt32 :=
  if code.toInt32 < 0 then -code else code

def fileError (error : IO.Error) : FileError :=
  match error with
  | .noFileOrDirectory _ _ _ => .notFound
  | .inappropriateType _ code _ =>
      if unsigned code = 20 then .notDirectory
      else if unsigned code = 21 then .isDirectory
      else .system (toString error)
  | .invalidArgument _ code _ =>
      if unsigned code = 36 then .nameTooLong else .system (toString error)
  | _ => .system (toString error)

/-- A path that no system call takes is refused beforehand. -/
def onPath {α : Type} (path : String) (action : IO α) :
    IO (Except FileError α) := do
  match FileStore.refusal? path.toList with
  | some error => return .error error
  | none =>
      try
        return .ok (← action)
      catch error =>
        return .error (fileError error)

def note (entry : Note) : Action Unit := do
  if ← modifyGet (fun filter => filter.examine entry) then
    IO.eprint entry.render

partial def ask {α : Type} (question : Question α) :
    Action (Except AnswerError α) := do
  let output ← IO.getStdout
  output.putStr question.text
  output.flush
  let line? ← readLine (← IO.getStdin) []
  match line?, question.turn line? with
  | _, .ends result => return result
  | some _, .again notes =>
      notes.forM note
      ask question

instance : Host Action where
  ask question := ask question
  read path := onPath path (do return (← IO.FS.readBinFile path).toList)
  write path bytes := onPath path (IO.FS.writeBinFile path ⟨bytes.toArray⟩)
  note entry := note entry

end Terminal

end FlashScript

def main (arguments : List String) : IO UInt32 := do
  match FlashScript.Arguments.read arguments with
  | .ok run =>
      let directives ← IO.getEnv "RUST_LOG"
      let written := FlashScript.CommandLine.filter directives run
      IO.eprint written.report
      let action : FlashScript.Terminal.Action Nat :=
        FlashScript.CommandLine.execute run
      let (status, _) ← action.run written.filter
      return UInt32.ofNat status
  | .error .help =>
      IO.print FlashScript.CommandLine.helpText
      return 0
  | .error .version =>
      IO.print FlashScript.CommandLine.versionText
      return 0
  | .error (.refused error) =>
      IO.eprint (FlashScript.CommandLine.refusalText error)
      return UInt32.ofNat FlashScript.CommandLine.usageStatus
