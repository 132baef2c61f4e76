import ViewOutline.Text.Digit
import ViewOutline.Text.Quoted
import ViewOutline.Text.Search

/-!
# Options and words of the command line

Before any option takes effect every argument is classified by itself.  An
argument is an option with or without a value attached to it, an option that
does not exist, the separator after which all is operand, or an operand.  A
long option may be cut short as long as it remains the only one.
-/

namespace ViewOutline.CommandLine

/-- The options of the command line. -/
inductive Switch where
  | help
  | output
  | jobs
  | verbose
  deriving DecidableEq

namespace Switch

/-- All options, in the order in which they are listed. -/
def all : List Switch :=
  [.help, .output, .jobs, .verbose]

/-- The letter of an option. -/
def letter : Switch → Char
  | .help => 'h'
  | .output => 'o'
  | .jobs => 'j'
  | .verbose => 'v'

/-- The long name of an option. -/
def longName : Switch → String
  | .help => "--help"
  | .output => "--output"
  | .jobs => "--jobs"
  | .verbose => "--verbose"

/-- Whether an option needs a value. -/
def takesValue : Switch → Bool
  | .output => true
  | .jobs => true
  | .help => false
  | .verbose => false

/-- Both names of an option. -/
def title (switch : Switch) : String :=
  String.ofList ['-', switch.letter] ++ "/" ++ switch.longName

/-- The option of a letter. -/
def ofLetter? (letter : Char) : Option Switch :=
  all.find? fun switch => switch.letter == letter

/-- The options with a long name that starts with some text. -/
def abbreviated (text : List Char) : List Switch :=
  all.filter fun switch => text.isPrefixOf switch.longName.toList

end Switch

/-- Whether an option was given by its letter or by its long name. -/
inductive Spelling where
  | letter
  | name

/-- A classified argument. -/
inductive Word where
  /-- Everything after it is operand. -/
  | separator
  | operand (text : String)
  /-- An option, with the text written in the same argument after it. -/
  | option (spelling : Spelling) (switch : Switch) (attached : Option (List Char))
  /-- An option that does not exist. -/
  | unknown (text : String)

/-- Why the arguments cannot be used. -/
inductive UsageError where
  /-- A long option was cut too short. -/
  | ambiguous (text : String) (candidates : List Switch)
  /-- An option without values was given one. -/
  | unwantedValue (switch : Switch) (text : String)
  /-- An option has no value. -/
  | missingValue (switch : Switch)
  /-- A number was expected. -/
  | notANumber (switch : Switch) (text : String)
  /-- No project was given. -/
  | missingProject
  /-- Some arguments have no meaning. -/
  | unrecognized (texts : List String)
  /-- There must be a job. -/
  | tooFewJobs

/-- The wording of a usage error. -/
def UsageError.message : UsageError → String
  | .ambiguous text candidates =>
      let names := ", ".intercalate (candidates.map Switch.longName)
      s!"ambiguous option: {text} could match {names}"
  | .unwantedValue switch text =>
      s!"argument {switch.title}: ignored explicit argument {Text.quoted text}"
  | .missingValue switch => s!"argument {switch.title}: expected one argument"
  | .notANumber switch text =>
      s!"argument {switch.title}: invalid int value: {Text.quoted text}"
  | .missingProject => "the following arguments are required: project_dir"
  | .unrecognized texts => "unrecognized arguments: " ++ " ".intercalate texts
  | .tooFewJobs => "--jobs must be at least 1"

namespace Word

/-- Whether all characters are digits, and there is one. -/
def isDigits (text : List Char) : Bool :=
  !text.isEmpty && text.all fun c => (Text.digitValue? c).isSome

/-- Whether a text is a number after its minus sign: digits, or digits with a
point before the last of them.  A line end may follow. -/
def isNumber (text : List Char) : Bool :=
  let text := if text.getLast? = some '\n' then text.dropLast else text
  let whole := text.takeWhile fun c => (Text.digitValue? c).isSome
  isDigits text ||
    match text.drop whole.length with
    | '.' :: places => isDigits places
    | _ => false

/-- Split a text at its first equals sign. -/
def splitEquals (text : List Char) : List Char × Option (List Char) :=
  let name := text.takeWhile (· ≠ '=')
  match text.drop name.length with
  | [] => (name, none)
  | _ :: value => (name, some value)

/-- Classify an argument that starts with two dashes. -/
def ofLong (text : List Char) : Except UsageError Word :=
  let (name, attached) := splitEquals text
  match Switch.all.find? fun switch => switch.longName.toList = name with
  | some switch => .ok (.option .name switch attached)
  | none =>
      match Switch.abbreviated name with
      | [switch] => .ok (.option .name switch attached)
      | [] => .ok (if text.contains ' ' then .operand (String.ofList text)
          else .unknown (String.ofList text))
      | candidates => .error (.ambiguous (String.ofList text) candidates)

/-- Classify an argument of a dash, a letter and some more text.  An equals sign
directly after the letter of an option does not count. -/
def ofShort (letter : Char) (more : List Char) : Word :=
  match Switch.ofLetter? letter, more with
  | some switch, [] => .option .letter switch none
  | some switch, '=' :: text => .option .letter switch (some text)
  | some switch, text => .option .letter switch (some text)
  | none, _ =>
      let text := '-' :: letter :: more
      if isNumber (letter :: more) || text.contains ' ' then .operand (String.ofList text)
      else .unknown (String.ofList text)

/-- Classify an argument that is not the separator. -/
def ofText (text : String) : Except UsageError Word :=
  match text.toList with
  | '-' :: '-' :: name => ofLong ('-' :: '-' :: name)
  | '-' :: letter :: more => .ok (ofShort letter more)
  | _ => .ok (.operand text)

/-- Classify all arguments. -/
def ofArguments : List String → Except UsageError (List Word)
  | [] => .ok []
  | text :: rest =>
      if text = "--" then
        .ok (.separator :: rest.map .operand)
      else do
        let word ← ofText text
        let words ← ofArguments rest
        return word :: words

end Word

end ViewOutline.CommandLine
