/-
What a run needs of the machine it runs on: answers to questions, files to read
and write, and a journal.  A session is such a machine as a value: files, the
input that is still to be read, the text shown and the notes made.
-/

import FlashScript.Dialogue
import FlashScript.FileStore

namespace FlashScript

class Host (m : Type → Type) where
  ask {α : Type} : Question α → m (Except AnswerError α)
  read : String → m (Except FileError (List UInt8))
  write : String → List UInt8 → m (Except FileError Unit)
  note : Note → m Unit

structure Session where
  files : FileStore
  input : List UInt8
  shown : String
  notes : Array Note

namespace Session

def start (files : FileStore) (input : List UInt8) : Session :=
  { files := files
    input := input
    shown := ""
    notes := #[] }

def ask {α : Type} (question : Question α) (session : Session) :
    Except AnswerError α × Session :=
  let exchange := question.exchangeOver session.input
  (exchange.result,
    { session with
      input := exchange.rest
      shown := session.shown ++ exchange.shownText question
      notes := session.notes ++ exchange.notes })

/-- A write that fails leaves every file as it was. -/
def write (path : String) (bytes : List UInt8) (session : Session) :
    Except FileError Unit × Session :=
  match session.files.write path bytes with
  | .ok files => (.ok (), { session with files := files })
  | .error error => (.error error, session)

def note (note : Note) (session : Session) : Session :=
  { session with notes := session.notes.push note }

instance : Host (StateM Session) where
  ask question := Session.ask question
  read path := fun session => (session.files.read path, session)
  write path bytes := Session.write path bytes
  note entry := fun session => ((), session.note entry)

end Session

end FlashScript
