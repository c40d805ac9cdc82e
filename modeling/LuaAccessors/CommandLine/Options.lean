import LuaAccessors.Text.Escaped

/-!
# Options of the command line

Arguments are inputs and options. A long option may be shortened as long as it stays unambiguous and
may have its value behind an equality sign; short options may be put together; behind `--` everything
is an input. The inputs stand in one row: inputs behind a further option are not recognized.

- `Flag`: the options that there are;
- `Word`, `Word.classify`: what an argument is on its own;
- `UsageError`: what can be wrong with arguments;
- `Options.parse`: the options and inputs that arguments give.
-/

namespace LuaAccessors.CommandLine

/-! ## §1 Options -/

/-- An option. -/
inductive Flag where
  | help
  | config
  | namespaceName
  | luaDirectory
  | outputDir
  | checkSyntax
  | verbose
  deriving Repr, DecidableEq

namespace Flag

/-- All options, in the order in which they are listed. -/
def all : List Flag :=
  [help, config, namespaceName, luaDirectory, outputDir, checkSyntax, verbose]

/-- How an option may be written. -/
def spellings : Flag → List Text
  | help => ["-h".toList, "--help".toList]
  | config => ["--config".toList]
  | namespaceName => ["--namespace".toList]
  | luaDirectory => ["--lua-dir".toList]
  | outputDir => ["--output-dir".toList]
  | checkSyntax => ["--check-syntax".toList]
  | verbose => ["--verbose".toList, "-v".toList]

/-- The name of an option in messages. -/
def shown (f : Flag) : Text := Text.join "/" f.spellings

/-- The option has a value. -/
def takesValue : Flag → Bool
  | config | namespaceName | luaDirectory | outputDir => true
  | help | checkSyntax | verbose => false

/-- All ways to write an option, each with its option. -/
def table : List (Text × Flag) := all.flatMap fun f => f.spellings.map fun s => (s, f)

end Flag

/-! ## §2 Errors -/

/-- What can be wrong with arguments. -/
inductive UsageError where
  | missingInputs
  | unrecognized (arguments : List Text)
  | expectedArgument (f : Flag)
  | ambiguous (argument : Text) (candidates : List Text)
  | ignoredArgument (f : Flag) (value : Text)
  deriving Repr, DecidableEq

/-- What is said of wrong arguments. -/
def UsageError.message : UsageError → Text
  | .missingInputs => "the following arguments are required: inputs"
  | .unrecognized arguments => "unrecognized arguments: ".toList ++ Text.join " " arguments
  | .expectedArgument f => "argument ".toList ++ f.shown ++ ": expected one argument".toList
  | .ambiguous argument candidates =>
    "ambiguous option: ".toList ++ argument ++ " could match ".toList ++ Text.join ", " candidates
  | .ignoredArgument f value =>
    "argument ".toList ++ f.shown ++ ": ignored explicit argument ".toList ++ quoteText value

/-- Why no run follows. -/
inductive Halt where
  /-- Help is asked for. -/
  | help
  /-- The arguments are wrong. -/
  | usage (e : UsageError)
  deriving Repr, DecidableEq

/-! ## §3 Single arguments

An argument is an option by its first character. A long option may be shortened as long as only one begins in
that way.
-/

/-- What an argument is on its own. -/
inductive Word where
  /-- An input, or the value of an option. -/
  | operand
  /-- The first `--`. -/
  | separator
  /-- An option, perhaps with a value behind an equality sign. -/
  | flag (f : Flag) (attached : Option Text)
  /-- A short option with further letters behind it, with or without an equality sign in between. -/
  | cluster (f : Flag) (letters : Text)
  /-- Something that looks like an option and is none. -/
  | unknown
  deriving Repr, DecidableEq

/-- The text in front of the first equality sign and the text behind it, if there is one. -/
def splitAttached (t : Text) : Text × Option Text :=
  match t.dropWhile (· != '=') with
  | [] => (t, none)
  | _ :: value => (t.takeWhile (· != '='), some value)

/-- A negative number, which is no option; a line feed at its end does not count. -/
def isNegativeNumber (t : Text) : Bool :=
  match if t.getLast? = some '\n' then t.dropLast else t with
  | '-' :: digits =>
    let fraction := digits.dropWhile isDecimalDigit
    match fraction with
    | [] => !digits.isEmpty
    | '.' :: rest => !rest.isEmpty && rest.all isDecimalDigit
    | _ => false
  | _ => false

/-- The options that an argument may stand for when it is none itself, as they are written: a long
option may be shortened, and a short one may have letters behind it. -/
def candidates (argument : Text) : List (Text × Word) :=
  match argument with
  | '-' :: '-' :: _ =>
    let (start, attached) := splitAttached argument
    (Flag.table.filter fun e => start.isPrefixOf e.1).map fun e => (e.1, .flag e.2 attached)
  | '-' :: c :: letters =>
    (Flag.table.filter fun e => e.1 == ['-', c]).map fun e => (e.1, .cluster e.2 letters)
  | _ => []

/-- An option whose spelling is known, with what is attached to it. -/
def Word.ofSpelling (spelling : Text) (f : Flag) (attached : Option Text) : Word :=
  match attached with
  | some (c :: letters) =>
    if spelling.length = 2 then .cluster f (c :: letters) else .flag f attached
  | _ => .flag f attached

/-- What an argument that is not the first `--` is on its own. -/
def Word.classify (argument : Text) : Except UsageError Word :=
  if argument.head? ≠ some '-' then .ok .operand
  else match Flag.table.lookup argument with
    | some f => .ok (.flag f none)
    | none =>
      if argument.length = 1 then .ok .operand
      else
        let (spelling, attached) := splitAttached argument
        match Flag.table.lookup spelling, candidates argument with
        | some f, _ => .ok (.ofSpelling spelling f attached)
        | none, [(_, word)] => .ok word
        | none, [] =>
          if isNegativeNumber argument || argument.contains ' ' then .ok .operand else .ok .unknown
        | none, several => .error (.ambiguous argument (several.map (·.1)))

/-- The arguments, each with what it is; behind the first `--` everything is an input. -/
def classifyAll : List Text → Except UsageError (List (Text × Word))
  | [] => .ok []
  | argument :: rest =>
    if argument = "--".toList then
      .ok ((argument, .separator) :: rest.map fun a => (a, .operand))
    else do
      let word ← Word.classify argument
      return (argument, word) :: (← classifyAll rest)

/-! ## §4 All arguments -/

/-- The inputs and options of a run. -/
structure Options where
  inputs : List Text := []
  config : Option Text := none
  namespaceName : Option Text := none
  luaDirectory : Option Text := none
  outputDir : Option Text := none
  checkSyntax : Bool := false
  verbose : Bool := false
  deriving Repr, DecidableEq

namespace Options

/-- The options with one more of them set. -/
def set (o : Options) (f : Flag) (value : Text) : Options :=
  match f with
  | .help => o
  | .config => { o with config := some value }
  | .namespaceName => { o with namespaceName := some value }
  | .luaDirectory => { o with luaDirectory := some value }
  | .outputDir => { o with outputDir := some value }
  | .checkSyntax => { o with checkSyntax := true }
  | .verbose => { o with verbose := true }

/-- The options with one more that has no value. -/
def setPlain (o : Options) (f : Flag) : Except Halt Options :=
  if f = .help then .error .help else .ok (o.set f [])

/-- The short options that `f` and the letters behind it stand for. -/
def clusterFlags (f : Flag) : Text → Except UsageError (List Flag)
  | [] => .ok [f]
  | c :: letters =>
    match Flag.table.lookup ['-', c] with
    | some g => (clusterFlags g letters).map (f :: ·)
    | none => .error (.ignoredArgument f (c :: letters))

/-- The value that is attached to an option. A `--` is dropped also there, which leaves an empty list
of values, written `[]`. -/
def attachedValue (value : Text) : Text :=
  if value = "--".toList then "[]".toList else value

/-- How far arguments have been read: the options, whether the row of inputs has been read, and what
has not been recognized. -/
structure Progress where
  options : Options := {}
  hasInputs : Bool := false
  extras : List Text := []

/-- An argument that is part of a row of inputs. -/
def isOperand : Text × Word → Bool
  | (_, .operand) => true
  | (_, .separator) => true
  | _ => false

/-- Behind a row of inputs there are no more arguments than before. -/
theorem length_dropWhile_operand_le (words : List (Text × Word)) :
    (words.dropWhile isOperand).length ≤ words.length :=
  (List.dropWhile_suffix isOperand).length_le

/-- What is read of the rest of the arguments. -/
def readWords (p : Progress) : List (Text × Word) → Except Halt Progress
  | [] => .ok p
  | (argument, .unknown) :: rest => readWords { p with extras := p.extras ++ [argument] } rest
  | (_, .cluster f letters) :: rest => do
    -- The options take effect once all of them are known.
    let flags ← (clusterFlags f letters).mapError .usage
    let options ← flags.foldlM setPlain p.options
    readWords { p with options } rest
  | (_, .flag f (some value)) :: rest =>
    if f.takesValue then readWords { p with options := p.options.set f (attachedValue value) } rest
    else .error (.usage (.ignoredArgument f value))
  | (_, .flag f none) :: rest =>
    if f.takesValue then
      match rest with
      | (value, .operand) :: rest => readWords { p with options := p.options.set f value } rest
      | _ => .error (.usage (.expectedArgument f))
    else do
      let options ← p.options.setPlain f
      readWords { p with options } rest
  | (argument, word) :: rest =>
    -- A row of inputs, from which one `--` is dropped.
    let row := (argument, word) :: rest.takeWhile isOperand
    let behind := rest.dropWhile isOperand
    let texts := row.map (·.1)
    if p.hasInputs || !row.any (fun w => w.2 == .operand) then
      readWords { p with extras := p.extras ++ texts } behind
    else
      let inputs := texts.erase "--".toList
      readWords { p with options := { p.options with inputs }, hasInputs := true } behind
termination_by words => words.length
decreasing_by
  all_goals simp only [List.length_cons]
  all_goals first | omega | exact Nat.lt_succ_of_le (length_dropWhile_operand_le rest)

/-- The options and inputs that arguments give. -/
def parse (arguments : List Text) : Except Halt Options := do
  let words ← (classifyAll arguments).mapError .usage
  let p ← readWords {} words
  if !p.hasInputs then .error (.usage .missingInputs)
  else if !p.extras.isEmpty then .error (.usage (.unrecognized p.extras))
  else .ok p.options

end Options

end LuaAccessors.CommandLine
