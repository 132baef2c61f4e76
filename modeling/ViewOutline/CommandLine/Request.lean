import ViewOutline.CommandLine.Option

/-!
# What the command line asks for

Words are read from left to right.  Letters of options without values may be
joined in one argument; everything about such an argument is checked before the
first of its options takes effect.  Asking for help ends the reading at once.
What is missing or superfluous as a whole is only complained about at the end.

Two dashes attached to an option in the place of its value leave the option
without one: the report then goes to its usual place, and the number of jobs is
unknown, which only the analysis complains about.
-/

namespace ViewOutline.CommandLine

/-- What an analysis is asked for. -/
structure Request where
  project : String
  output : Option String
  /-- The number of jobs, unless it was given without a value. -/
  jobs : Option Nat
  verbose : Bool

/-- What the command line asks for. -/
inductive Invocation where
  | help
  | analyse (request : Request)

/-- What has been read so far. -/
structure Draft where
  project : Option String
  output : Option String
  jobs : Option Int
  verbose : Bool
  /-- Arguments without a meaning. -/
  surplus : List String

namespace Draft

/-- The draft before the first word. -/
def initial : Draft :=
  ⟨none, none, some 1, false, []⟩

/-- Add an argument without a meaning. -/
def addSurplus (draft : Draft) (text : String) : Draft :=
  { draft with surplus := draft.surplus ++ [text] }

end Draft

/-- Why the reading of words ends early. -/
inductive Stop where
  | help
  | error (error : UsageError)

/-- The options of one argument: those complete with their values, and one that
still needs a value. -/
structure Cluster where
  complete : List (Switch × String)
  pending : Option Switch

namespace Cluster

/-- One option with a value, or with none. -/
def single (switch : Switch) (value : String) : Cluster :=
  ⟨[(switch, value)], none⟩

/-- An option with nothing attached. -/
def bare (switch : Switch) : Cluster :=
  if switch.takesValue then ⟨[], some switch⟩ else single switch ""

/-- Put an option without value in front. -/
def cons (switch : Switch) (cluster : Cluster) : Cluster :=
  { cluster with complete := (switch, "") :: cluster.complete }

/-- The options of an option's letter and the text attached to it: the value of
the option, or else further letters, the last of which may have a value. -/
def ofLetters (switch : Switch) : List Char → Except UsageError Cluster
  | [] => if switch.takesValue then .ok (single switch "") else .error (.unwantedValue switch "")
  | letter :: more =>
      let text := String.ofList (letter :: more)
      if switch.takesValue then .ok (single switch text)
      else
        match Switch.ofLetter? letter with
        | none => .error (.unwantedValue switch text)
        | some next =>
            if more.isEmpty then .ok ((bare next).cons switch)
            else (ofLetters next more).map (cons switch)

/-- The options of an argument. -/
def ofOption (spelling : Spelling) (switch : Switch) :
    Option (List Char) → Except UsageError Cluster
  | none => .ok (bare switch)
  | some text =>
      match spelling with
      | .letter => ofLetters switch text
      | .name =>
          if switch.takesValue then .ok (single switch (String.ofList text))
          else .error (.unwantedValue switch (String.ofList text))

/-- Give the option that still needs a value the word that follows.  The result
says whether the word is used up. -/
def close (cluster : Cluster) (next : Option String) : Except UsageError (Cluster × Bool) :=
  match cluster.pending, next with
  | none, _ => .ok (cluster, false)
  | some switch, some value =>
      let complete := cluster.complete ++ [(switch, value)]
      .ok ({ cluster with complete, pending := none }, true)
  | some switch, none => .error (.missingValue switch)

end Cluster

namespace Draft

/-- The value of an option.  Two dashes are none. -/
def valueOf (text : String) : Option String :=
  if text = "--" then none else some text

/-- Let an option take effect. -/
def set (draft : Draft) (switch : Switch) (text : String) : Except Stop Draft :=
  match switch with
  | .help => .error .help
  | .output => .ok { draft with output := valueOf text }
  | .verbose => .ok { draft with verbose := true }
  | .jobs =>
      match valueOf text with
      | none => .ok { draft with jobs := none }
      | some number =>
          match Text.readInt? number with
          | some jobs => .ok { draft with jobs := some jobs }
          | none => .error (.error (.notANumber .jobs number))

/-- Let options take effect in order. -/
def setAll (draft : Draft) : List (Switch × String) → Except Stop Draft
  | [] => .ok draft
  | (switch, value) :: rest => do
      let draft ← draft.set switch value
      draft.setAll rest

/-- Let an argument with options take effect, where an operand may follow it.
The result says whether the operand is used up. -/
def applyOption (draft : Draft) (spelling : Spelling) (switch : Switch)
    (attached : Option (List Char)) (next : Option String) : Except Stop (Draft × Bool) := do
  let (cluster, used) ←
    ((Cluster.ofOption spelling switch attached).bind (·.close next)).mapError Stop.error
  let draft ← draft.setAll cluster.complete
  return (draft, used)

/-- Take an operand for the project, unless there is one. -/
def takeOperand (draft : Draft) (text : String) : Draft :=
  match draft.project with
  | none => { draft with project := some text }
  | some _ => draft.addSurplus text

/-- Read the words after what has been read.  The separator belongs to the
project if it stands beside it, and has no meaning otherwise. -/
def read : Draft → List Word → Except Stop Draft
  | draft, [] => .ok draft
  | draft, .unknown text :: words => read (draft.addSurplus text) words
  | draft, .option spelling switch attached :: .operand text :: rest => do
      let (draft, used) ← draft.applyOption spelling switch attached (some text)
      if used then read draft rest else read draft (.operand text :: rest)
  | draft, .option spelling switch attached :: words => do
      let (draft, _) ← draft.applyOption spelling switch attached none
      read draft words
  | draft, .separator :: .operand text :: rest =>
      if draft.project.isNone then read (draft.takeOperand text) rest
      else read (draft.addSurplus "--") (.operand text :: rest)
  | draft, .separator :: words => read (draft.addSurplus "--") words
  | draft, .operand text :: .separator :: rest =>
      if draft.project.isNone then read (draft.takeOperand text) rest
      else read (draft.addSurplus text) (.separator :: rest)
  | draft, .operand text :: words => read (draft.takeOperand text) words

/-- The request of a draft when all words have been read. -/
def finish (draft : Draft) : Except UsageError Request :=
  match draft.project, draft.surplus with
  | none, _ => .error .missingProject
  | some _, text :: rest => .error (.unrecognized (text :: rest))
  | some project, [] =>
      if draft.jobs.any (· < 1) then .error .tooFewJobs
      else .ok ⟨project, draft.output, draft.jobs.map Int.toNat, draft.verbose⟩

end Draft

/-- What some arguments ask for. -/
def Invocation.ofArguments (arguments : List String) : Except UsageError Invocation := do
  let words ← Word.ofArguments arguments
  match Draft.initial.read words with
  | .ok draft => (draft.finish).map .analyse
  | .error .help => return .help
  | .error (.error error) => throw error

end ViewOutline.CommandLine
