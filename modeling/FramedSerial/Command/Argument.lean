import FramedSerial.Command.Value
import FramedSerial.Event

/-!
# The arguments of the command line

Every argument there is, how it is written, which commands take it, and how the text of its
value is read. An argument that was read is a `Setting`: the argument together with its value,
so that nothing is read twice.
-/

namespace FramedSerial

/-- The ways to print a result. -/
inductive OutputFormat where
  | json
  | table
  | pretty
  | raw
deriving DecidableEq

namespace OutputFormat

/-- Every format. -/
def all : List OutputFormat := [.json, .table, .pretty, .raw]

/-- The name of a format. -/
def name : OutputFormat → String
  | .json => "json"
  | .table => "table"
  | .pretty => "pretty"
  | .raw => "raw"

end OutputFormat

/-- The ways to write diagnostics. -/
inductive LogFormat where
  | text
  | json
deriving DecidableEq

namespace LogFormat

/-- Every format. -/
def all : List LogFormat := [.text, .json]

/-- The name of a format. -/
def name : LogFormat → String
  | .text => "text"
  | .json => "json"

end LogFormat

namespace Level

/-- Every level, the most urgent first. -/
def all : List Level := [.error, .warn, .info, .debug, .trace]

/-- The name of a level. -/
def name : Level → String
  | .error => "error"
  | .warn => "warn"
  | .info => "info"
  | .debug => "debug"
  | .trace => "trace"

end Level

/-- What the program can be told to do. -/
inductive Verb where
  | bridge
  | status
  | send
  | decode
  | version
deriving DecidableEq

namespace Verb

/-- Every verb. -/
def all : List Verb := [.bridge, .status, .send, .decode, .version]

/-- The word for a verb. -/
def name : Verb → String
  | .bridge => "bridge"
  | .status => "status"
  | .send => "send"
  | .decode => "decode"
  | .version => "version"

/-- The verb a word stands for. -/
def ofName? (word : String) : Option Verb := all.find? fun v => v.name == word

end Verb

/-- The arguments. -/
inductive Argument where
  | format
  | logFormat
  | logLevel
  | device
  | baudRate
  | forwardStdin
  | nonblocking
  | stagingCapacity
  | queueCapacity
  | timeout
  | selected
  | frameType
  | data
  | hex
  | file
  | raw
  | input
  | extended
  | help
  | version
deriving DecidableEq

/-- An argument with its value. -/
inductive Setting where
  | format (value : OutputFormat)
  | logFormat (value : LogFormat)
  | logLevel (value : Level)
  | device (path : String)
  | baudRate (value : UInt32)
  | forwardStdin
  | nonblocking
  | stagingCapacity (value : UInt64)
  | queueCapacity (value : UInt64)
  | timeout (text : String)
  | selected (value : Attribute)
  | frameType (value : FrameType)
  | data (text : String)
  | hex (text : String)
  | file (path : String)
  | raw
  | input (path : String)
  | extended
deriving DecidableEq

/-- The argument that was set. -/
def Setting.argument : Setting → Argument
  | .format _ => .format
  | .logFormat _ => .logFormat
  | .logLevel _ => .logLevel
  | .device _ => .device
  | .baudRate _ => .baudRate
  | .forwardStdin => .forwardStdin
  | .nonblocking => .nonblocking
  | .stagingCapacity _ => .stagingCapacity
  | .queueCapacity _ => .queueCapacity
  | .timeout _ => .timeout
  | .selected _ => .selected
  | .frameType _ => .frameType
  | .data _ => .data
  | .hex _ => .hex
  | .file _ => .file
  | .raw => .raw
  | .input _ => .input
  | .extended => .extended

namespace Argument

/-- How an argument is written. -/
inductive Shape where
  /-- By its place alone. -/
  | place (label : String)
  /-- By a name and nothing else. -/
  | flag (name : String)
  /-- By a name and a value. -/
  | valued (name label : String)

/-- How this argument is written. -/
def shape : Argument → Shape
  | .format => .valued "format" "FORMAT"
  | .logFormat => .valued "log-format" "FORMAT"
  | .logLevel => .valued "log-level" "LEVEL"
  | .device => .place "<DEVICE>"
  | .baudRate => .valued "baud-rate" "BAUD_RATE"
  | .forwardStdin => .flag "forward-stdin"
  | .nonblocking => .flag "nonblocking"
  | .stagingCapacity => .valued "staging-capacity" "STAGING_CAPACITY"
  | .queueCapacity => .valued "queue-capacity" "QUEUE_CAPACITY"
  | .timeout => .valued "timeout" "TIMEOUT"
  | .selected => .valued "attribute" "ATTRIBUTE"
  | .frameType => .valued "type" "FRAME_TYPE"
  | .data => .valued "data" "DATA"
  | .hex => .valued "hex" "HEX"
  | .file => .valued "file" "FILE"
  | .raw => .flag "raw"
  | .input => .place "[INPUT]"
  | .extended => .flag "extended"
  | .help => .flag "help"
  | .version => .flag "version"

/-- How a message shows an argument. -/
def shown (a : Argument) : String :=
  match a.shape with
  | .place label => label
  | .flag name => "--" ++ name
  | .valued name label => "--" ++ name ++ " <" ++ label ++ ">"

/-- The name after two dashes. -/
def longName? (a : Argument) : Option String :=
  match a.shape with
  | .place _ => none
  | .flag name => some name
  | .valued name _ => some name

/-- The arguments that every command takes, and the program before its command. -/
def general : List Argument := [.format, .logFormat, .logLevel, .help]

/-- The arguments of a command, or of the program before its command. -/
def taken : Option Verb → List Argument
  | none => general ++ [.version]
  | some .bridge =>
    general ++ [.device, .baudRate, .forwardStdin, .nonblocking, .stagingCapacity, .queueCapacity]
  | some .status => general ++ [.device, .baudRate, .timeout, .selected]
  | some .send => general ++ [.device, .baudRate, .frameType, .data, .hex, .file, .raw]
  | some .decode => general ++ [.input, .stagingCapacity]
  | some .version => general ++ [.extended]

/-- The argument of this name. -/
def ofLongName? (level : Option Verb) (name : String) : Option Argument :=
  (taken level).find? fun a => a.longName? == some name

/-- The argument that a word without dashes stands for. -/
def placed? : Option Verb → Option Argument
  | some .bridge | some .status | some .send => some .device
  | some .decode => some .input
  | some .version | none => none

/-- The variable of the environment that stands in for an argument. -/
def standIn? : Argument → Option String
  | .device => some "ENCLINK_DEVICE"
  | .baudRate => some "ENCLINK_BAUD_RATE"
  | _ => none

/-- The arguments that cannot stand beside this one. -/
def rivals : Argument → List Argument
  | .data => [.hex, .file]
  | .hex => [.data, .file]
  | .file => [.data, .hex]
  | .raw => [.frameType]
  | .frameType => [.raw]
  | _ => []

/-- The value of this name, of those there are. -/
def readNamed {α : Type} (all : List α) (name : α → String) (text : String) :
    Except ValueFault α :=
  match all.find? fun a => name a == text with
  | some a => .ok a
  | none => .error .notAllowed

/-- Read the value of an argument. An argument without a value sets itself; help and version
set nothing. -/
def read (a : Argument) (text : String) : Except ValueFault (Option Setting) :=
  match a with
  | .format => do return some (.format (← readNamed OutputFormat.all OutputFormat.name text))
  | .logFormat => do return some (.logFormat (← readNamed LogFormat.all LogFormat.name text))
  | .logLevel => do return some (.logLevel (← readNamed Level.all Level.name text))
  | .device => do return some (.device (← readPath text))
  | .baudRate => do return some (.baudRate (← readBaud text))
  | .forwardStdin => return some .forwardStdin
  | .nonblocking => return some .nonblocking
  | .stagingCapacity => do return some (.stagingCapacity (← readCapacity text))
  | .queueCapacity => do return some (.queueCapacity (← readCapacity text))
  | .timeout => return some (.timeout text)
  | .selected => do return some (.selected (← readAttribute text))
  | .frameType => do return some (.frameType (← readFrameType text))
  | .data => return some (.data text)
  | .hex => return some (.hex text)
  | .file => do return some (.file (← readPath text))
  | .raw => return some .raw
  | .input => do return some (.input (← readPath text))
  | .extended => return some .extended
  | .help => return none
  | .version => return none

end Argument

end FramedSerial
