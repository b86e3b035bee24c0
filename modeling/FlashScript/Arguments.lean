/-
The arguments of the command line: up to two file names and the options for
device, loader and verbosity.  Options stand among the names in any order until
a lone `--`; every argument after that is a name.
-/

import FlashScript.Device
import FlashScript.Text.Characters

namespace FlashScript

structure Arguments where
  input : Option String
  output : Option String
  device : Option Device
  loader : String
  verbose : Bool
  deriving DecidableEq

inductive ValueOption where
  | device
  | loader
  deriving DecidableEq

inductive Flag where
  | verbose
  | help
  | version
  deriving DecidableEq

inductive UsageError where
  | unknownOption (argument : String)
  | missingValue (option : ValueOption)
  | unexpectedValue (argument : String)
  | repeatedOption (argument : String)
  | surplusName (argument : String)
  | emptyName
  | unknownDevice (text : String)
  deriving DecidableEq

inductive Stop where
  | help
  | version
  | refused (error : UsageError)
  deriving DecidableEq

namespace ValueOption

def longName : ValueOption → String
  | .device => "device"
  | .loader => "loader"

def ofLong? (name : List Char) : Option ValueOption :=
  [device, loader].find? (fun option => option.longName.toList = name)

def ofShort? : Char → Option ValueOption
  | 'd' => some .device
  | 'l' => some .loader
  | _ => none

end ValueOption

namespace Flag

def longName : Flag → String
  | .verbose => "verbose"
  | .help => "help"
  | .version => "version"

def ofLong? (name : List Char) : Option Flag :=
  [verbose, help, version].find? (fun flag => flag.longName.toList = name)

def ofShort? : Char → Option Flag
  | 'v' => some .verbose
  | 'h' => some .help
  | 'V' => some .version
  | _ => none

end Flag

def UsageError.message : UsageError → String
  | .unknownOption argument => "unexpected argument '" ++ argument ++ "'"
  | .missingValue option =>
      "a value is required for '--" ++ option.longName ++ "'"
  | .unexpectedValue argument => "no value is taken by '" ++ argument ++ "'"
  | .repeatedOption argument =>
      "the argument '" ++ argument ++ "' is given more than once"
  | .surplusName argument => "unexpected argument '" ++ argument ++ "'"
  | .emptyName => "a file name is required where it is empty"
  | .unknownDevice text => Device.unknownMessage text

namespace Arguments

def defaultLoader : String := "PICPROG.COM"

structure Reading where
  /-- An option that waits for its value. -/
  pending : Option ValueOption
  namesOnly : Bool
  input : Option String
  output : Option String
  device : Option Device
  loader : Option String
  verbose : Bool

namespace Reading

def start : Reading :=
  { pending := none
    namesOnly := false
    input := none
    output := none
    device := none
    loader := none
    verbose := false }

def addName (reading : Reading) (name : String) : Except Stop Reading :=
  if reading.input.isSome ∧ reading.output.isSome then
    .error (.refused (.surplusName name))
  else if name.isEmpty then .error (.refused .emptyName)
  else if reading.input.isNone then .ok { reading with input := some name }
  else .ok { reading with output := some name }

def setDevice (reading : Reading) (text : String) : Except Stop Reading :=
  if reading.device.isSome then .error (.refused (.repeatedOption "--device"))
  else
    match Device.ofChoice? text with
    | some device => .ok { reading with device := some device }
    | none => .error (.refused (.unknownDevice text))

def setLoader (reading : Reading) (text : String) : Except Stop Reading :=
  if reading.loader.isSome then .error (.refused (.repeatedOption "--loader"))
  else if text.isEmpty then .error (.refused .emptyName)
  else .ok { reading with loader := some text }

def setValue (reading : Reading) (option : ValueOption) (text : String) :
    Except Stop Reading :=
  match option with
  | .device => reading.setDevice text
  | .loader => reading.setLoader text

def setFlag (reading : Reading) : Flag → Except Stop Reading
  | .verbose =>
      if reading.verbose then .error (.refused (.repeatedOption "--verbose"))
      else .ok { reading with verbose := true }
  | .help => .error .help
  | .version => .error .version

/-- A long option's value may follow it after an equals sign. -/
def longOption (reading : Reading) (text : List Char) : Except Stop Reading :=
  let name := text.takeWhile (fun character => character ≠ '=')
  let attached := (text.drop name.length).tail?.map String.ofList
  match ValueOption.ofLong? name, Flag.ofLong? name, attached with
  | some option, _, some value => reading.setValue option value
  | some option, _, none => .ok { reading with pending := some option }
  | none, some flag, none => reading.setFlag flag
  | none, some _, some _ =>
      .error (.refused (.unexpectedValue (String.ofList ('-' :: '-' :: name))))
  | none, none, _ =>
      .error (.refused (.unknownOption (String.ofList ('-' :: '-' :: text))))

/-- Flags may be joined, and the characters after an option that takes a value
are its value, with an equals sign before them or without. -/
def shortOptions (reading : Reading) : List Char → Except Stop Reading
  | [] => .ok reading
  | letter :: later =>
      match ValueOption.ofShort? letter, Flag.ofShort? letter with
      | some option, _ =>
          match later with
          | [] => .ok { reading with pending := some option }
          | '=' :: value => reading.setValue option (String.ofList value)
          | value => reading.setValue option (String.ofList value)
      | none, some flag =>
          match reading.setFlag flag with
          | .ok next => next.shortOptions later
          | .error stop => .error stop
      | none, none => .error (.refused (.unknownOption (String.ofList ['-', letter])))

/-- A dash alone is a name and may be a value. -/
def isOption : List Char → Bool
  | '-' :: _ :: _ => true
  | _ => false

def unpended (reading : Reading) (argument : String) : Except Stop Reading :=
  match argument.toList with
  | ['-', '-'] => .ok { reading with namesOnly := true }
  | '-' :: '-' :: text => reading.longOption text
  | '-' :: letter :: later => reading.shortOptions (letter :: later)
  | _ => reading.addName argument

def step (reading : Reading) (argument : String) : Except Stop Reading :=
  if reading.namesOnly then reading.addName argument
  else
    match reading.pending with
    | none => reading.unpended argument
    | some option =>
        if isOption argument.toList then .error (.refused (.missingValue option))
        else { reading with pending := none }.setValue option argument

def finish (reading : Reading) : Except Stop Arguments :=
  match reading.pending with
  | some option => .error (.refused (.missingValue option))
  | none =>
      .ok
        { input := reading.input
          output := reading.output
          device := reading.device
          loader := reading.loader.getD defaultLoader
          verbose := reading.verbose }

end Reading

def read (arguments : List String) : Except Stop Arguments :=
  match arguments.foldlM Reading.step Reading.start with
  | .ok reading => reading.finish
  | .error stop => .error stop

/-! ### What the journal says -/

def optional {α : Type} (describe : α → String) : Option α → String
  | some value => "Some(" ++ describe value ++ ")"
  | none => "None"

def describe (arguments : Arguments) : String :=
  "Args \x7b input: " ++ optional Quoted.text arguments.input ++
    ", output: " ++ optional Quoted.text arguments.output ++
    ", device: " ++ optional Device.symbol arguments.device ++
    ", loader: " ++ Quoted.text arguments.loader ++
    ", verbose: " ++ toString arguments.verbose ++ " \x7d"

end Arguments

end FlashScript
