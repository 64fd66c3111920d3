import Numbering.Numeral

/-! # Command-line arguments

The arguments name a command, its operands and its options. A long option takes its value from the
next argument or after an equals sign; short ones may be joined behind one dash, of which the last
takes the rest as its value. Two dashes alone end the options. The options that every command has
may also stand before the command, and then yield to the same option after it.

The first operand of a command is an expression, which may begin with a dash. While it is missing,
an argument with a dash is an option only if it is a known long one or consists of known short ones.

Reading goes through the arguments from the left and stops at the first fault, or at the first
option that asks for help or the version.
-/

namespace Numbering.CommandLine

inductive CommandName
  | parse
  | preview
  | generate
  | fill
  deriving DecidableEq, Repr

def CommandName.read? (text : Text) : Option CommandName :=
  if text = "parse".toList then some .parse
  else if text = "preview".toList then some .preview
  else if text = "generate".toList then some .generate
  else if text = "fill".toList then some .fill
  else none

inductive OptionName
  | config
  | alphabet
  | format
  | count
  | separator
  | marker
  | target
  | inPlace
  | help
  | version
  deriving DecidableEq, Repr

/-- How an option is written, and whether it takes a value. -/
structure OptionForm where
  name : OptionName
  long : Text
  short : Option Char
  takesValue : Bool
  deriving DecidableEq, Repr

/-- What may be written at some point of the command line. -/
structure Grammar where
  options : List OptionForm
  operands : Nat
  deriving DecidableEq, Repr

namespace Grammar

/-- The options that may stand before and after a command. -/
def shared : List OptionForm := [
  ⟨.config, "config".toList, some 'c', true⟩,
  ⟨.alphabet, "alphabet".toList, none, true⟩,
  ⟨.help, "help".toList, some 'h', false⟩]

/-- What may be written before a command. -/
def beforeCommand : Grammar where
  options := ⟨.version, "version".toList, some 'V', false⟩ :: shared
  operands := 0

/-- What may be written after a command. -/
def ofCommand : CommandName → Grammar
  | .parse => ⟨⟨.format, "format".toList, some 'f', true⟩ :: shared, 1⟩
  | .preview => ⟨⟨.count, "count".toList, some 'n', true⟩ :: shared, 1⟩
  | .generate =>
    ⟨⟨.count, "count".toList, some 'n', true⟩ ::
      ⟨.separator, "separator".toList, some 's', true⟩ :: shared, 1⟩
  | .fill =>
    ⟨⟨.marker, "marker".toList, some 'm', true⟩ :: ⟨.target, "target".toList, some 't', true⟩ ::
      ⟨.inPlace, "in-place".toList, some 'i', false⟩ :: shared, 2⟩

/-- The option with a long name. -/
def long? (allowed : Grammar) (name : Text) : Option OptionForm :=
  allowed.options.find? fun form => form.long == name

/-- The option with a short name. -/
def short? (allowed : Grammar) (name : Char) : Option OptionForm :=
  allowed.options.find? fun form => form.short == some name

end Grammar

/-- Why reading stops before the end. -/
inductive Stop
  | misuse
  | help
  | version
  deriving DecidableEq, Repr

/-- What has been read: the options with their values, the operands, the option that waits for its
value, and whether the options have ended. -/
structure Reading where
  options : List (OptionName × Text)
  operands : List Text
  waiting : Option OptionName
  ended : Bool
  deriving DecidableEq, Repr

namespace Reading

def start : Reading :=
  ⟨[], [], none, false⟩

/-- Whether an option was given. -/
def has (reading : Reading) (name : OptionName) : Bool :=
  reading.options.any fun given => given.1 == name

def value? (reading : Reading) (name : OptionName) : Option Text :=
  reading.options.lookup name

def valuesOf (reading : Reading) (name : OptionName) : List Text :=
  (reading.options.filter fun given => given.1 == name).map Prod.snd

def allows : OptionName → Text → Bool
  | .count, value => (Numeral.readUnsigned? Numeral.maxWord value).isSome
  | .format, value => value == "debug".toList || value == "json".toList
  | _, _ => true

/-- Takes the value of an option; only targets may be given several times. -/
def takeValue (reading : Reading) (name : OptionName) (value : Text) : Except Stop Reading :=
  if allows name value ∧ (name = .target ∨ ¬ reading.has name) then
    .ok { reading with options := reading.options ++ [(name, value)], waiting := none }
  else .error .misuse

def takeFlag (reading : Reading) (name : OptionName) : Except Stop Reading :=
  match name with
  | .help => .error .help
  | .version => .error .version
  | _ => reading.takeValue name []

/-- Takes an operand, if one more is allowed. -/
def takeOperand (reading : Reading) (allowed : Grammar) (argument : Text) : Except Stop Reading :=
  if reading.operands.length < allowed.operands then
    .ok { reading with operands := reading.operands ++ [argument] }
  else .error .misuse

/-- Takes an argument that is no option: the value waited for, or else an operand. -/
def takePlain (reading : Reading) (allowed : Grammar) (argument : Text) : Except Stop Reading :=
  match reading.waiting with
  | some name => reading.takeValue name argument
  | none => reading.takeOperand allowed argument

/-- Whether the next operand is one that may begin with a dash. -/
def wantsExpression (reading : Reading) (allowed : Grammar) : Bool :=
  0 < allowed.operands && reading.operands.isEmpty

/-- Takes an option by its long name, with the value after its equals sign if there is one. -/
def takeLong (reading : Reading) (form : OptionForm) (attached : Option Text) :
    Except Stop Reading :=
  if reading.waiting.isSome then .error .misuse
  else
    match form.takesValue, attached with
    | true, some value => reading.takeValue form.name value
    | true, none => .ok { reading with waiting := some form.name }
    | false, some _ => .error .misuse
    | false, none => reading.takeFlag form.name

/-- The value that follows a short option without a blank. -/
def attachedValue : Text → Text
  | '=' :: value => value
  | value => value

/-- Takes joined short options; one with a value takes the rest as its value. -/
def takeShorts (reading : Reading) (allowed : Grammar) : List Char → Except Stop Reading
  | [] => .ok reading
  | c :: rest =>
    match allowed.short? c with
    | none => .error .misuse
    | some form =>
      if reading.waiting.isSome then .error .misuse
      else if form.takesValue then
        if rest.isEmpty then .ok { reading with waiting := some form.name }
        else reading.takeValue form.name (attachedValue rest)
      else do
        let reading ← reading.takeFlag form.name
        reading.takeShorts allowed rest

/-- The name of a long option and the value after its equals sign. -/
def splitAttached (body : Text) : Text × Option Text :=
  match Text.splitOnce? ['='] body with
  | some (name, value) => (name, some value)
  | none => (body, none)

def take (allowed : Grammar) (reading : Reading) (argument : Text) : Except Stop Reading :=
  if reading.ended then reading.takeOperand allowed argument
  else
    match argument with
    | ['-', '-'] =>
      if reading.waiting.isSome then .error .misuse else .ok { reading with ended := true }
    | '-' :: '-' :: body =>
      let (name, attached) := splitAttached body
      match allowed.long? name with
      | some form => reading.takeLong form attached
      | none =>
        if reading.wantsExpression allowed then reading.takePlain allowed argument
        else .error .misuse
    | '-' :: c :: rest =>
      if reading.wantsExpression allowed ∧ (c :: rest).any (fun c => (allowed.short? c).isNone) then
        reading.takePlain allowed argument
      else reading.takeShorts allowed (c :: rest)
    | _ => reading.takePlain allowed argument

end Reading

/-! ## Invocations -/

inductive PlacesRequest
  | standard
  | marker (text : Text)
  | targets (specs : List Text)
  deriving DecidableEq, Repr

inductive Request
  | parse (format : Text)
  | preview (count : Option Nat)
  | generate (count : Nat) (separator : Text)
  | fill (path : Text) (places : PlacesRequest) (inPlace : Bool)
  deriving DecidableEq, Repr

/-- The meaning of a whole command line. -/
structure Invocation where
  config : Option Text
  letters : Option Text
  expression : Text
  request : Request
  deriving DecidableEq, Repr

namespace Invocation

/-- Reads up to the command. -/
def readCommand (reading : Reading) : List Text → Except Stop (Reading × CommandName × List Text)
  | [] => .error .misuse
  | argument :: rest =>
    match reading.waiting.isNone && !reading.ended, CommandName.read? argument with
    | true, some command => .ok (reading, command, rest)
    | plain, _ =>
      if plain ∧ argument = "help".toList then
        match rest with
        | [] => .error .help
        | [topic] =>
          .error (if (CommandName.read? topic).isSome ∨ topic = "help".toList then .help else .misuse)
        | _ => .error .misuse
      else do
        let reading ← reading.take Grammar.beforeCommand argument
        readCommand reading rest

/-- The count that was given; reading has checked it. -/
def countOf (reading : Reading) : Option Nat :=
  (reading.value? .count).bind (Numeral.readUnsigned? Numeral.maxWord)

/-- Where a command is asked to write; a marker and targets exclude each other. -/
def placesOf (reading : Reading) : Except Stop PlacesRequest :=
  match reading.value? .marker, reading.valuesOf .target with
  | some text, [] => .ok (.marker text)
  | some _, _ => .error .misuse
  | none, [] => .ok .standard
  | none, specs => .ok (.targets specs)

/-- What a command is asked to do, given its operands after the expression. -/
def requestOf (command : CommandName) (reading : Reading) (operands : List Text) :
    Except Stop Request :=
  match command, operands with
  | .parse, [] => .ok (.parse ((reading.value? .format).getD "debug".toList))
  | .preview, [] => .ok (.preview (countOf reading))
  | .generate, [] =>
    match countOf reading with
    | some count => .ok (.generate count ((reading.value? .separator).getD ['\n']))
    | none => .error .misuse
  | .fill, [path] => do
    let places ← placesOf reading
    return .fill path places (reading.has .inPlace)
  | _, _ => .error .misuse

def read (arguments : List Text) : Except Stop Invocation := do
  let (before, command, rest) ← readCommand Reading.start arguments
  let reading ← rest.foldlM (Reading.take (Grammar.ofCommand command)) Reading.start
  match reading.waiting, reading.operands with
  | none, expression :: operands => do
    let request ← requestOf command reading operands
    return {
      config := reading.value? .config <|> before.value? .config
      letters := reading.value? .alphabet <|> before.value? .alphabet
      expression := expression
      request := request }
  | _, _ => .error .misuse

end Invocation

end Numbering.CommandLine
