import TouchProbe.Calendar
import TouchProbe.Text.Encoding

/-! # Faults

Everything that can go wrong, by cause.  Values that a message names are held as the message
shows them.  `Fault.message` gives each cause its wording; `wrongKind` and `noSuchMember`, for
values of a kind that an operation cannot take, have none.  `Fault.family` groups the causes as
those who handle them tell them apart.
-/

namespace TouchProbe

/-- One step on the way to a place inside a document. -/
inductive Place where
  | field (name : String)
  | index (n : Int)
  deriving DecidableEq, Repr

/-- What is wrong at one place of a document. -/
inductive Breach where
  | missing
  /-- The value is no mapping, where the named record is expected. -/
  | notRecord (name : String)
  | notMapping
  | notList
  | notText
  /-- The value is written by something that is no text of characters. -/
  | noCharacters
  | notFloat
  | unreadableFloat
  | notInt
  | unreadableInt
  | intTooLong
  | fractional
  | notFinite
  | negative
  | notPositive
  /-- The value is none of the given ones, which are held as the message lists them. -/
  | notOneOf (choices : String)
  /-- A movement that is no mapping. -/
  | noFields
  /-- A movement that does not say its kind. -/
  | noKind
  /-- A movement of a kind that there is not. -/
  | unknownKind (given : String)
  /-- A rule of the format does not hold. -/
  | rule (message : String)
  deriving DecidableEq, Repr

structure Violation where
  place : List Place
  breach : Breach
  deriving DecidableEq, Repr

inductive Fault where
  /-- A value is of a kind that cannot stand where it stands. -/
  | wrongKind
  /-- A value is of a kind that lacks the member that is asked for. -/
  | noSuchMember
  | unreadableFloat (shown : String)
  | unreadableInt (base : Nat) (shown : String)
  /-- A whole number is written with more digits than are read. -/
  | tooManyDigits (count : Nat)
  /-- A whole number has more digits than are written. -/
  | tooLongToWrite
  | beyondFloat
  /-- A number is beyond all lengths. -/
  | beyondLength
  | infiniteToInt
  | nanToInt
  | squareBeyondFloat
  | calendar (fault : CalendarFault)
  /-- A code that no character has. -/
  | noSuchCharacter
  /-- A number that is beyond the machine word of a name. -/
  | beyondWord (word : String)
  /-- A number without any characters. -/
  | emptyNumber
  /-- A word that should be one of a few, and is not. -/
  | unknownWord (word : String)
  | notOneOf (what : String) (choices : List String) (shown : String)
  | badUnits (shown : String)
  | badDirection (what shown : String)
  | negative (what shown : String)
  | notPositive (what shown : String)
  | badSide (shown : String)
  | badStepKind (shown : String)
  | badLogMode (shown : String)
  | badLogLevel (name : String)
  | openSlot
  | openSlotName
  /-- A slot is written by no known letter, at an index of the template. -/
  | unknownSlot (letter : Char) (index : Nat)
  | slotTooWide
  | slotTooPrecise
  /-- A code for a slot that no character has. -/
  | noSuchSlotCharacter
  | unknownProbe (shown : String)
  | unknownStep (shown side probe : String)
  | probeIndex (shown : String) (count : Nat)
  | missingFile (what path : String)
  | noSuchPath (path : String)
  | isDirectory (path : String)
  | alreadyExists (path : String)
  | notDirectory (path : String)
  | notWritten (path : String)
  | undecodable (fault : Text.DecodeFault)
  | unencodable (fault : Text.EncodeFault)
  | unknownEncoding (name : String)
  /-- A way to write bytes is named where texts are written. -/
  | byteCoding (name : String)
  /-- A name of an encoding holds the character that ends names. -/
  | nullInName
  | nullInAddress
  /-- A file is no YAML text. -/
  | badYaml (path : String)
  /-- A sequence file is no YAML text. -/
  | badSequenceYaml (path : String)
  | invalidSequence (source : String) (violations : List Violation)
  | emptyConfig (path : String)
  | badConfigYaml (path : String)
  | missingConfigKey (key : String)
  | badConfigValue (cause : Fault)
  | configOutOfRange (cause : Fault)

/-- Values in a list as a message names them, in parentheses. -/
def choiceList (choices : List String) : String :=
  "(" ++ ", ".intercalate (choices.map Text.quote) ++ ")"

def Breach.message : Breach → String
  | .missing => "Field required"
  | .notRecord name => s!"Input should be a valid dictionary or instance of {name}"
  | .notMapping => "Input should be a valid dictionary"
  | .notList => "Input should be a valid list"
  | .notText => "Input should be a valid string"
  | .noCharacters =>
    "Input should be a valid string, unable to parse raw data as a unicode string"
  | .notFloat => "Input should be a valid number"
  | .unreadableFloat => "Input should be a valid number, unable to parse string as a number"
  | .notInt => "Input should be a valid integer"
  | .unreadableInt => "Input should be a valid integer, unable to parse string as an integer"
  | .intTooLong => "Unable to parse input string as an integer, exceeded maximum size"
  | .fractional => "Input should be a valid integer, got a number with a fractional part"
  | .notFinite => "Input should be a finite number"
  | .negative => "Input should be greater than or equal to 0"
  | .notPositive => "Input should be greater than 0"
  | .notOneOf choices => s!"Input should be {choices}"
  | .noFields => "Input should be a valid dictionary or object to extract fields from"
  | .noKind => "Unable to extract tag using discriminator 'type'"
  | .unknownKind given =>
    s!"Input tag '{given}' found using 'type' does not match any of the expected tags: " ++
      "'rapid', 'dwell'"
  | .rule message => s!"Value error, {message}"

def violationCount (n : Nat) : String :=
  s!"{n} validation error" ++ (if n = 1 then "" else "s")

/-- The wording of a fault; empty for the two causes that have none. -/
def Fault.message : Fault → String
  | .wrongKind => ""
  | .noSuchMember => ""
  | .unreadableFloat shown => s!"could not convert string to float: {shown}"
  | .unreadableInt base shown => s!"invalid literal for int() with base {base}: {shown}"
  | .tooManyDigits count =>
    s!"Exceeds the limit (4300 digits) for integer string conversion: value has {count} digits; " ++
      "use sys.set_int_max_str_digits() to increase the limit"
  | .tooLongToWrite =>
    "Exceeds the limit (4300 digits) for integer string conversion; " ++
      "use sys.set_int_max_str_digits() to increase the limit"
  | .beyondFloat => "int too large to convert to float"
  | .beyondLength => "cannot fit 'int' into an index-sized integer"
  | .infiniteToInt => "cannot convert float infinity to integer"
  | .nanToInt => "cannot convert float NaN to integer"
  | .squareBeyondFloat => "(34, 'Numerical result out of range')"
  | .calendar fault => fault.message
  | .noSuchCharacter => "chr() arg not in range(0x110000)"
  | .beyondWord word => s!"Python int too large to convert to C {word}"
  | .emptyNumber => "string index out of range"
  | .unknownWord word => word
  | .notOneOf what choices shown => s!"{what} must be one of {choiceList choices}, got {shown}"
  | .badUnits shown => s!"units must be 'mm' or 'inch', got {shown}"
  | .badDirection what shown => s!"{what} must be 1 or -1, got {shown}"
  | .negative what shown => s!"{what} must be >= 0, got {shown}"
  | .notPositive what shown => s!"{what} must be > 0, got {shown}"
  | .badSide shown => s!"which must be 'pre' or 'post', got {shown}"
  | .badStepKind shown => s!"step type must be 'rapid' or 'dwell', got {shown}"
  | .badLogMode shown => s!"fmt_mode must be 'human' or 'json', got {shown}"
  | .badLogLevel name => s!"Unknown log level: {name}"
  | .openSlot => "incomplete format"
  | .openSlotName => "incomplete format key"
  | .unknownSlot letter index =>
    let shown := if 31 ≤ letter.toNat && letter.toNat < 127 then letter else '?'
    let code := String.ofList (Nat.toDigits 16 letter.toNat)
    s!"unsupported format character '{shown}' (0x{code}) at index {index}"
  | .slotTooWide => "width too big"
  | .slotTooPrecise => "precision too big"
  | .noSuchSlotCharacter => "%c arg not in range(0x110000)"
  | .unknownProbe shown => s!"Unknown probe id: {shown}"
  | .unknownStep shown side probe => s!"Unknown step id {shown} in {side}-moves of {probe}"
  | .probeIndex shown count => s!"probe index {shown} out of range for {count} probe(s)"
  | .missingFile what path => s!"{what} not found: {path}"
  | .noSuchPath path => s!"[Errno 2] No such file or directory: {Text.quote path}"
  | .isDirectory path => s!"[Errno 21] Is a directory: {Text.quote path}"
  | .alreadyExists path => s!"[Errno 17] File exists: {Text.quote path}"
  | .notDirectory path => s!"[Errno 20] Not a directory: {Text.quote path}"
  | .notWritten path => s!"Failed to write {path} atomically"
  | .undecodable fault => fault.message
  | .unencodable fault => fault.message
  | .unknownEncoding name => s!"unknown encoding: {name}"
  | .byteCoding name =>
    s!"'{name}' is not a text encoding; use codecs.encode() to handle arbitrary codecs"
  | .nullInName => "embedded null character"
  | .nullInAddress => "embedded null byte"
  | .badYaml path => s!"Failed to parse YAML file {path}"
  | .badSequenceYaml path => s!"Failed to parse YAML file {path}"
  | .invalidSequence source violations =>
    s!"Sequence file validation failed at {source}: " ++
      s!"{violationCount violations.length} for SequenceFileV1"
  | .emptyConfig path => s!"Empty configuration file: {path}"
  | .badConfigYaml path => s!"Failed to parse YAML file {path}"
  | .missingConfigKey key => s!"Missing required configuration key: {Text.quote key}"
  | .badConfigValue .wrongKind => "Invalid configuration value"
  | .badConfigValue cause => s!"Invalid configuration value: {cause.message}"
  | .configOutOfRange cause => cause.message

inductive Fault.Family where
  | wrongKind
  | noSuchMember
  | beyondRange
  | unknownName
  | badIndex
  | missingFile
  | isDirectory
  | alreadyExists
  | notDirectory
  | notWritten
  | undecodable
  | unencodable
  | unknownEncoding
  | badYaml
  | badConfig
  | badValue
  deriving DecidableEq, Repr

def Fault.family : Fault → Fault.Family
  | .wrongKind => .wrongKind
  | .noSuchMember => .noSuchMember
  | .beyondFloat | .beyondLength | .infiniteToInt | .squareBeyondFloat | .beyondWord _ =>
    .beyondRange
  | .calendar .beyondClocks | .noSuchSlotCharacter => .beyondRange
  | .unknownWord _ | .unknownProbe _ | .unknownStep .. => .unknownName
  | .probeIndex .. | .emptyNumber => .badIndex
  | .missingFile .. | .noSuchPath _ => .missingFile
  | .isDirectory _ => .isDirectory
  | .alreadyExists _ => .alreadyExists
  | .notDirectory _ => .notDirectory
  | .notWritten _ => .notWritten
  | .undecodable _ => .undecodable
  | .unencodable _ => .unencodable
  | .unknownEncoding _ | .byteCoding _ => .unknownEncoding
  | .badYaml _ => .badYaml
  | .emptyConfig _ | .badConfigYaml _ | .missingConfigKey _ | .badConfigValue _
  | .configOutOfRange _ => .badConfig
  | _ => .badValue

end TouchProbe
