import BuildTriage.CommandLine.Grammar

/-!
# Parsing command lines

The words of a command line are read one after the other. An option whose value is in
the next word is pending until the value is there; it is settled, and its value
checked, when the next option or word in a place begins, or when the words end. After a
word of two hyphens all words are words in places. A word that names a command hands
the rest over to that command.
-/

namespace BuildTriage.CommandLine

/-- The values given to one command. -/
abbrev Values := List (String × List String)

/-- What has been read of one command. -/
structure Level where
  /-- The values that are settled; an option without a value has an empty list. -/
  settled : Values
  /-- The option or place that is not settled yet, with its value if that is there. -/
  pending : Option (Param × Option String)
  /-- How many places are filled. -/
  filled : Nat
  /-- All further words are words in places. -/
  trailing : Bool
  deriving DecidableEq, Repr

namespace Level

/-- Nothing has been read yet. -/
def start : Level := ⟨[], none, 0, false⟩

/-- The values of a name, if it is given. -/
def values? (l : Level) (name : String) : Option (List String) := l.settled.lookup name

/-- Settles a value: it has its form, and only what may be repeated is. -/
def settle (l : Level) (p : Param) (value : Option String) : Except UsageError Level := do
  if p.arity ≠ .flag ∧ value = none then throw .emptyValue
  let before := l.values? p.name
  if p.arity ≠ .many ∧ before ≠ none then throw .repeated
  for v in value do p.form.check v
  let others := l.settled.filter (·.1 != p.name)
  return { l with settled := others ++ [(p.name, before.getD [] ++ value.toList)] }

/-- Settles what is pending. -/
def flush (l : Level) : Except UsageError Level :=
  match l.pending with
  | none => .ok l
  | some (p, value) => { l with pending := none }.settle p value

/-- The option that waits for its value. -/
def waiting (l : Level) : Bool :=
  match l.pending with
  | some (_, none) => true
  | _ => false

end Level

/-- What the next word does. -/
inductive Step where
  /-- More words of this command may follow. -/
  | go (level : Level)
  /-- The rest belongs to a command under this one. -/
  | enter (command : Grammar)
  /-- The rest names the command for which help is asked. -/
  | helpOn
  deriving Repr

/-- Meets an option with the value attached to it, if there is one. -/
def meetOption (l : Level) (p : Param) (attached : Option String) : Except UsageError Level := do
  let l ← l.flush
  match p.arity, attached with
  | .flag, none => l.settle p none
  | .flag, some _ => throw .surplusValue
  | _, some v => l.settle p (some v)
  | _, none => return { l with pending := some (p, none) }

/-- Meets an option by its long name. -/
def meetLong (g : Grammar) (l : Level) (name : String) (attached : Option String) :
    Except UsageError Level :=
  match g.options.find? (·.name == name) with
  | some p =>
    if p.arity = .flag ∧ attached.isSome then .error .surplusValue else meetOption l p attached
  | none =>
    if name = "help" ∨ (g.versioned ∧ name = "version") then
      if attached.isSome then .error .surplusValue
      else do
        let _ ← l.flush
        throw (if name = "help" then .help else .version)
    else .error .unknownWord

/-- Meets options by their letters; the rest of the word after the letter of one that
takes a value is that value. -/
def meetShort (g : Grammar) : List Char → Level → Except UsageError Level
  | [], l => .ok l
  | c :: rest, l => do
    match g.options.find? (·.short == some c) with
    | some p =>
      if p.arity = .flag then meetShort g rest (← meetOption l p none)
      else
        let attached := match rest with
          | [] => none
          | '=' :: v => some (String.ofList v)
          | v => some (String.ofList v)
        meetOption l p attached
    | none =>
      if c = 'h' ∨ (g.versioned ∧ c = 'V') then
        let _ ← l.flush
        throw (if c = 'h' then .help else .version)
      else throw .unknownWord

/-- Meets a word that is no option: it fills the next place. -/
def meetWord (g : Grammar) (l : Level) (word : String) : Except UsageError Level :=
  match g.places[l.filled]? with
  | some p => do
    let l ← l.flush
    return { l with pending := some (p, some word), filled := l.filled + 1 }
  | none =>
    if g.commands.isEmpty then .error .unknownWord
    else if l.trailing ∧ ((g.find? word).isSome ∨ word = "help") then .error .unknownWord
    else .error .unknownCommand

/-- Meets the next word. -/
def meet (g : Grammar) (l : Level) (word : String) : Except UsageError Step := do
  if l.trailing then return .go (← meetWord g l word)
  if !l.waiting && !g.commands.isEmpty then
    if word = "help" then return .helpOn
    match g.find? word with
    | some command => return .enter command
    | none => pure ()
  match word.toList with
  | ['-', '-'] => return .go { l with trailing := true }
  | '-' :: '-' :: rest =>
    let (name, more) := (rest.takeWhile (· ≠ '='), rest.dropWhile (· ≠ '='))
    let attached := match more with
      | '=' :: v => some (String.ofList v)
      | _ => none
    return .go (← meetLong g l (String.ofList name) attached)
  | '-' :: c :: rest => return .go (← meetShort g (c :: rest) l)
  | _ =>
    match l.pending with
    | some (p, none) => return .go { l with pending := some (p, some word) }
    | _ => return .go (← meetWord g l word)

/-- The words after the one that asks for help name a command. -/
def helpOn : Grammar → List String → UsageError
  | _, [] => .help
  | g, word :: rest =>
    match g.find? word with
    | some command => helpOn command rest
    | none => if word = "help" ∧ !g.commands.isEmpty ∧ rest.isEmpty then .help else .unknownCommand

/-- What was given to a command suffices; `entered` tells that a command under it is
named. -/
def validate (g : Grammar) (l : Level) (entered : Bool) : Except UsageError Unit := do
  if !entered && !g.commands.isEmpty then
    throw (if l.settled.isEmpty then .helpOnMissing else .missingCommand)
  if (g.places ++ g.options).any fun p => p.required && (l.values? p.name).isNone then
    throw .missingWord

/-- A parsed command line: the names of the commands on the way, and the values given to
each, the outermost first. -/
structure Parsed where
  /-- The names of the commands. -/
  commands : List String
  /-- The values given to them, those of the program itself first. -/
  levels : List Values
  deriving DecidableEq, Repr

/-- Reads the words of a command, of which some have been read. -/
def parseFrom : Grammar → List String → Level → Except UsageError Parsed
  | g, [], l => do
    let l ← l.flush
    validate g l false
    return ⟨[], [l.settled]⟩
  | g, word :: rest, l => do
    match ← meet g l word with
    | .go l => parseFrom g rest l
    | .helpOn => throw (helpOn g rest)
    | .enter command =>
      let inner ← parseFrom command rest .start
      let l ← l.flush
      validate g l true
      return ⟨command.name :: inner.commands, l.settled :: inner.levels⟩

/-- Parses the words of a command line. -/
def parse (g : Grammar) (words : List String) : Except UsageError Parsed :=
  parseFrom g words .start

end BuildTriage.CommandLine
