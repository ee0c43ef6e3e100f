import LeadingDot.CommandLine.Usage

/-!
# Reading a command line

A command line is read word by word. A word that starts with two dashes is a long option,
one that starts with a single dash is a cluster of short options; the value of an option is
attached to it or is the next word. After a word of two dashes alone no options follow.

An option or argument is settled when the next one begins: only then it is told that its
value is missing or that it was there before.
-/

namespace LeadingDot.CommandLine

/-- How a word on a command line looks. -/
inductive Word where
  /-- Two dashes. -/
  | separator
  /-- An option by its long name, with the value attached to it. -/
  | long (name : String) (value : Option String)
  /-- Options by their letters, after a dash. -/
  | cluster (letters : List Char)
  | plain
  deriving DecidableEq, Repr

/-- Splits a long option at the first equals sign. -/
def Word.ofLong (text : List Char) : Word :=
  let name := String.ofList (text.takeWhile (· != '='))
  match text.dropWhile (· != '=') with
  | [] => .long name none
  | _ :: value => .long name (some (String.ofList value))

/-- How a word looks. -/
def Word.ofText : List Char → Word
  | ['-', '-'] => .separator
  | '-' :: '-' :: rest => .ofLong rest
  | ['-'] => .plain
  | '-' :: letters => .cluster letters
  | _ => .plain

/-- What a word on a command line can be for. -/
inductive Item where
  | option (spec : OptionSpec)
  | argument (spec : ArgumentSpec)
  deriving DecidableEq, Repr

namespace Item

/-- How an item is named in messages. -/
def display : Item → String
  | option spec => spec.display
  | argument spec => spec.display

/-- Whether the value of an item is a path. -/
def isPath : Item → Bool
  | option spec => spec.value.any (·.isPath)
  | argument _ => true

end Item

/-- An option or argument that is being read, with the value read for it. -/
structure Pending where
  item : Item
  value : Option String
  deriving DecidableEq, Repr

/-- What has been read of the words for the tool or one of its commands. -/
structure Reading where
  /-- The options that are settled, with their values, in order. -/
  options : List (OptionName × String) := []
  /-- The argument, once it is settled. -/
  argument : Option String := none
  /-- What is not settled yet. -/
  pending : Option Pending := none
  /-- Whether options can no longer follow. -/
  trailing : Bool := false
  deriving DecidableEq, Repr

namespace CommandSpec

/-- The option with a long name. -/
def long? (spec : CommandSpec) (name : String) : Option OptionSpec :=
  spec.options.find? (·.long == name)

/-- The option with a letter. -/
def short? (spec : CommandSpec) (letter : Char) : Option OptionSpec :=
  spec.options.find? (·.short == some letter)

/-- The command that a word calls. -/
def command? (spec : CommandSpec) (word : String) : Option CommandName :=
  (CommandName.ofWord? word).filter fun name => spec.commands.any (·.1 == name)

end CommandSpec

namespace Reading

/-- Whether nothing has been settled. -/
def isEmpty (reading : Reading) : Bool :=
  reading.options.isEmpty && reading.argument.isNone

/-- Whether an option has been settled. -/
def has (reading : Reading) (name : OptionName) : Bool :=
  reading.options.any (·.1 == name)

/-- The values of an option, in order. -/
def values (reading : Reading) (name : OptionName) : List String :=
  (reading.options.filter (·.1 == name)).map (·.2)

/-- The value of an option. -/
def value? (reading : Reading) (name : OptionName) : Option String :=
  (reading.values name).head?

/-- Adds an option with its value. -/
def addOption (reading : Reading) (option : OptionSpec) (value : String) :
    Except Usage Reading :=
  if !option.repeatable && reading.has option.name then .error (.repeated option)
  else if value.isEmpty && option.value.any (·.isPath) then .error (.missingValue option.display)
  else .ok { reading with options := reading.options ++ [(option.name, value)] }

/-- Adds the argument. -/
def addArgument (reading : Reading) (argument : ArgumentSpec) (value : String) :
    Except Usage Reading :=
  if value.isEmpty then .error (.missingValue argument.display)
  else .ok { reading with argument := some value }

/-- Settles what is pending. -/
def settle (reading : Reading) : Except Usage Reading :=
  let settled := { reading with pending := none }
  match reading.pending with
  | none => .ok settled
  | some ⟨item, none⟩ => .error (.missingValue item.display)
  | some ⟨.option option, some value⟩ => settled.addOption option value
  | some ⟨.argument argument, some value⟩ => settled.addArgument argument value

/-- Reads an option that takes no value. -/
def readFlag (spec : CommandSpec) (reading : Reading) (option : OptionSpec) :
    Except Usage Reading := do
  let reading ← reading.settle
  match option.name with
  | .help => throw (.help spec)
  | .version => throw .version
  | _ => reading.addOption option ""

/-- Reads an option with the value attached to it, or without a value so far. -/
def readValued (reading : Reading) (option : OptionSpec) (attached : Option String) :
    Except Usage Reading := do
  let reading ← reading.settle
  match attached with
  | some value => reading.addOption option value
  | none => return { reading with pending := some ⟨.option option, none⟩ }

/-- The value attached to a letter in a cluster, after an equals sign or at once. -/
def attachedValue : List Char → Option String
  | [] => none
  | '=' :: value => some (String.ofList value)
  | value => some (String.ofList value)

/-- Reads a cluster of options. What follows an option that takes a value is its value. -/
def readCluster (spec : CommandSpec) (reading : Reading) : List Char → Except Usage Reading
  | [] => .ok reading
  | letter :: rest =>
    match spec.short? letter with
    | none => .error (.unknownArgument ("-" ++ letter.toString))
    | some option =>
      if option.value.isSome then reading.readValued option (attachedValue rest)
      else do readCluster spec (← reading.readFlag spec option) rest

/-- Reads an option by its long name. -/
def readLong (spec : CommandSpec) (reading : Reading) (name : String) (attached : Option String) :
    Except Usage Reading :=
  match spec.long? name with
  | none => .error (.unknownArgument ("--" ++ name))
  | some option =>
    if option.value.isSome then reading.readValued option attached
    else
      match attached with
      | some value => .error (.unneededValue value option)
      | none => reading.readFlag spec option

/-- Why a word has no place among the words for a command. -/
def misplaced (spec : CommandSpec) (reading : Reading) (word : String) : Usage :=
  if reading.trailing && (spec.command? word).isSome then .unknownArgument word
  else if spec.commands.isEmpty then .unknownArgument word
  else .unknownCommand word

/-- Whether the argument has been read. -/
def hasArgument (reading : Reading) : Bool :=
  reading.argument.isSome ||
    reading.pending.any fun pending => pending.item matches .argument _

/-- Reads a word that is no option. -/
def readPlain (spec : CommandSpec) (reading : Reading) (word : String) : Except Usage Reading :=
  match reading.pending, reading.trailing with
  | some ⟨.option option, none⟩, false =>
    .ok { reading with pending := some ⟨.option option, some word⟩ }
  | _, _ =>
    match spec.argument.filter fun _ => !reading.hasArgument with
    | none => .error (reading.misplaced spec word)
    | some argument => do
      return { ← reading.settle with pending := some ⟨.argument argument, some word⟩ }

/-- Reads a word. -/
def readWord (spec : CommandSpec) (reading : Reading) (word : String) : Except Usage Reading :=
  if reading.trailing then reading.readPlain spec word
  else
    match Word.ofText word.toList with
    | .separator => .ok { reading with trailing := true }
    | .long name attached => reading.readLong spec name attached
    | .cluster letters => reading.readCluster spec letters
    | .plain => reading.readPlain spec word

/-- Reads words up to one that calls a command, and returns that command and the words after
it. -/
def readWords (spec : CommandSpec) (reading : Reading) :
    List String → Except Usage (Reading × Option (CommandName × List String))
  | [] => do return (← reading.settle, none)
  | word :: words =>
    match (spec.command? word).filter fun _ => !reading.trailing with
    | some name => .ok (reading, some (name, words))
    | none => do readWords spec (← reading.readWord spec word) words

end Reading

end LeadingDot.CommandLine
