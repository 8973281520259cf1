import BuildTriage.Build

/-!
# Grammars of command lines

A command takes options, then words in fixed places, and may have commands under it.
Each value has a form that it must take. Whatever does not fit is a usage error; the
first fault in the order of the words decides which.
-/

namespace BuildTriage.CommandLine

/-- Why a command line is not carried out. -/
inductive UsageError where
  /-- Help is asked for. -/
  | help
  /-- The version is asked for. -/
  | version
  /-- A command that needs more is given nothing at all. -/
  | helpOnMissing
  /-- An option has no value, or a value is empty that must not be. -/
  | emptyValue
  /-- A value does not have its form. -/
  | badValue
  /-- An option that takes no value is given one. -/
  | surplusValue
  /-- A word fits nowhere. -/
  | unknownWord
  /-- A word stands where a command is expected, and is none. -/
  | unknownCommand
  /-- The command under a command is missing. -/
  | missingCommand
  /-- A word or option that must be there is missing. -/
  | missingWord
  /-- An option is given twice that may be given once. -/
  | repeated
  deriving DecidableEq, Repr

/-- The form of a value. -/
inductive Form where
  | text
  /-- A path, which is not empty. -/
  | path
  /-- An unsigned number of 64 bits. -/
  | word
  /-- The name of a build result. -/
  | result
  deriving DecidableEq, Repr

/-- Reads an unsigned number of 64 bits in decimal digits, after a plus sign or none. -/
def readWord? (text : String) : Option UInt64 :=
  let digits := match text.toList with
    | '+' :: rest => rest
    | cs => cs
  if digits.isEmpty || !digits.all Char.isDigit then none
  else
    let n := digits.foldl (fun n c => n * 10 + (c.toNat - '0'.toNat)) 0
    if n < UInt64.size then some (UInt64.ofNat n) else none

/-- A value has the form. -/
def Form.check (value : String) : Form → Except UsageError Unit
  | .text => .ok ()
  | .path => if value.isEmpty then .error .emptyValue else .ok ()
  | .word => if (readWord? value).isSome then .ok () else .error .badValue
  | .result => if (BuildResult.ofName? value).isSome then .ok () else .error .badValue

/-- How often an option may be given, and with what. -/
inductive Arity where
  /-- Once, without a value. -/
  | flag
  /-- Once, with a value. -/
  | once
  /-- Any number of times, each with a value. -/
  | many
  deriving DecidableEq, Repr

/-- An option of a command, or a word in a fixed place. -/
structure Param where
  /-- Its name, which follows two hyphens for an option. -/
  name : String
  /-- The letter that may follow one hyphen instead. -/
  short : Option Char := none
  /-- How often it may be given. -/
  arity : Arity := .once
  /-- The form of its values. -/
  form : Form := .text
  /-- It must be given. -/
  required : Bool := false
  deriving DecidableEq, Repr

/-- A command with what it takes; one with commands under it needs one of them. -/
inductive Grammar where
  | command (name : String) (versioned : Bool) (options places : List Param)
      (commands : List Grammar)
  deriving Repr

namespace Grammar

/-- The name of a command. -/
def name : Grammar → String
  | command name _ _ _ _ => name

/-- Whether a command tells its version. -/
def versioned : Grammar → Bool
  | command _ versioned _ _ _ => versioned

/-- The options of a command. -/
def options : Grammar → List Param
  | command _ _ options _ _ => options

/-- The places for words of a command. -/
def places : Grammar → List Param
  | command _ _ _ places _ => places

/-- The commands under a command. -/
def commands : Grammar → List Grammar
  | command _ _ _ _ commands => commands

/-- The command of that name under a command. -/
def find? (g : Grammar) (word : String) : Option Grammar := g.commands.find? (·.name == word)

end Grammar

end BuildTriage.CommandLine
