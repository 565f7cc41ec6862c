import FramedSerial.Command.Argument

/-!
# Reading the words of a command line

The words are read from left to right, once. An argument that has its value is not taken at
once but when the next argument begins, or at the end, so a fault of its value is reported
only then: a word that cannot be understood wins over the value before it. A verb hands the
rest of the words over to its own arguments, and whatever the program is still holding is
taken after those.

A word that a name is waiting for is its value unless it begins with a dash; after a word of
two dashes nothing is a name any more.
-/

namespace FramedSerial

/-- Why the words do not lead to a run. -/
inductive Refusal where
  /-- A word or a name is not known. -/
  | unknownArgument (shown : String)
  /-- A value is attached to a name that takes none. -/
  | surplusValue (argument : Argument)
  /-- A name is not followed by a value. -/
  | missingValue (argument : Argument)
  /-- A value is none of those that the argument can have. -/
  | valueNotAllowed (argument : Argument)
  /-- A value does not read. -/
  | valueUnreadable (argument : Argument) (reason : String)
  /-- An argument stands twice, or beside a rival. -/
  | conflict (argument : Argument)
  /-- A word stands where a verb should. -/
  | unknownVerb
  /-- There is no verb. -/
  | missingVerb
  /-- There is nothing at all. -/
  | nothingGiven
  /-- An argument is missing that the verb cannot do without. -/
  | missingArgument
  /-- The user asks for help instead. -/
  | helpWanted
  /-- The user asks for the version instead. -/
  | versionWanted
deriving DecidableEq

namespace Refusal

/-- What a message would point at. -/
def subject? : Refusal → Option String
  | .unknownArgument shown => some shown
  | .surplusValue a | .missingValue a | .valueNotAllowed a | .valueUnreadable a _
  | .conflict a => some a.shown
  | _ => none

/-- Why a value does not read. -/
def reason? : Refusal → Option String
  | .valueUnreadable _ reason => some reason
  | _ => none

/-- The number the program exits with. -/
def exitNumber : Refusal → Nat
  | .helpWanted | .versionWanted => 0
  | _ => 2

end Refusal

/-- What a word is by its dashes. -/
inductive Word where
  /-- Two dashes alone. -/
  | separator
  /-- Two dashes and a name, perhaps with a value after an equals sign. -/
  | long (name : String) (value : Option String)
  /-- One dash and a letter, and perhaps more. -/
  | short (letter : Char)
  /-- Anything else. -/
  | plain

/-- What a word is. -/
def Word.ofText (text : String) : Word :=
  match text.toList with
  | ['-', '-'] => .separator
  | '-' :: '-' :: cs =>
    let name := String.ofList (cs.takeWhile (· != '='))
    match cs.dropWhile (· != '=') with
    | [] => .long name none
    | _ :: value => .long name (some (String.ofList value))
  | '-' :: c :: _ => .short c
  | _ => .plain

/-- How far the words have been read. -/
structure Reading where
  /-- The arguments that were taken, the earliest first. -/
  settings : List Setting
  /-- An argument that was begun, and its value if that has come. -/
  held : Option (Argument × Option String)
  /-- The argument without a name has come. -/
  placeFilled : Bool
  /-- Nothing is a name any more. -/
  namesEnded : Bool

namespace Reading

/-- Nothing has been read. -/
def start : Reading := ⟨[], none, false, false⟩

/-- An argument has been taken. -/
def has (r : Reading) (a : Argument) : Bool := r.settings.any fun s => s.argument == a

/-- A name waits for its value. -/
def awaits (r : Reading) : Option Argument :=
  match r.held with
  | some (a, none) => if r.namesEnded then none else some a
  | _ => none

/-- Take an argument with the text of its value. -/
def take (r : Reading) (a : Argument) (text : String) : Except Refusal Reading :=
  if r.has a then .error (.conflict a)
  else
    match a.read text with
    | .error .notAllowed => .error (.valueNotAllowed a)
    | .error (.unreadable reason) => .error (.valueUnreadable a reason)
    | .ok s => .ok { r with settings := r.settings ++ s.toList }

/-- Take the argument that is held. -/
def settle (r : Reading) : Except Refusal Reading :=
  match r.held with
  | none => .ok r
  | some (a, none) => .error (.missingValue a)
  | some (a, some text) => { r with held := none }.take a text

/-- A name has come, perhaps with its value. -/
def named (r : Reading) (a : Argument) (value : Option String) : Except Refusal Reading :=
  match a.shape, value with
  | .valued _ _, none => do
    let r ← r.settle
    return { r with held := some (a, none) }
  | .valued _ _, some text => do
    let r ← r.settle
    r.take a text
  | _, some _ => .error (.surplusValue a)
  | _, none => do
    let r ← r.settle
    match a with
    | .help => .error .helpWanted
    | .version => .error .versionWanted
    | _ => r.take a ""

/-- A word has come that neither is a name nor belongs to one. -/
def placed (level : Option Verb) (r : Reading) (text : String) : Except Refusal Reading :=
  match Argument.placed? level, r.placeFilled with
  | some a, false => do
    let r ← r.settle
    return { r with held := some (a, some text), placeFilled := true }
  | _, _ =>
    match level with
    | some _ => .error (.unknownArgument text)
    | none =>
      if r.namesEnded && (text == "help" || (Verb.ofName? text).isSome) then
        .error (.unknownArgument text)
      else .error .unknownVerb

/-- A word has come that is no verb. -/
def step (level : Option Verb) (r : Reading) (text : String) : Except Refusal Reading :=
  if r.namesEnded then r.placed level text
  else
    match Word.ofText text with
    | .separator => .ok { r with namesEnded := true }
    | .long name value =>
      match Argument.ofLongName? level name with
      | none => .error (.unknownArgument ("--" ++ name))
      | some a => r.named a value
    | .short letter =>
      if letter = 'h' then r.named .help none
      else if letter = 'V' ∧ level = none then r.named .version none
      else .error (.unknownArgument ("-" ++ String.singleton letter))
    | .plain =>
      match r.awaits with
      | some a => .ok { r with held := some (a, some text) }
      | none => r.placed level text

/-- Read words that no verb is among. -/
def readAll (level : Option Verb) (r : Reading) (words : List String) : Except Refusal Reading :=
  words.foldlM (step level) r

/-- Arguments that did not come are taken from the environment. -/
def fillIn (env : List (String × String)) (level : Option Verb) (r : Reading) :
    Except Refusal Reading :=
  (Argument.taken level).foldlM (fun r a =>
    match a.standIn?.bind fun name => env.lookup name with
    | some text => if r.has a then .ok r else r.take a text
    | none => .ok r) r

/-- The argument, of those that were taken, that stands beside a rival. -/
def clash? (r : Reading) : Option Argument :=
  (r.settings.map Setting.argument).find? fun a => a.rivals.any r.has

/-- Everything that the words after a verb set. -/
def ofWords (env : List (String × String)) (verb : Verb) (words : List String) :
    Except Refusal Reading := do
  let r ← start.readAll (some verb) words
  let r ← r.settle
  let r ← r.fillIn env (some verb)
  match r.clash? with
  | some a => .error (.conflict a)
  | none => return r

end Reading

/-- Words after `help` have to lead to a command; the help of that command is then shown. -/
def refuseHelp : List String → Refusal
  | [] => .helpWanted
  | [word] =>
    if word == "help" || (Verb.ofName? word).isSome then .helpWanted else .unknownVerb
  | _ => .unknownVerb

end FramedSerial
