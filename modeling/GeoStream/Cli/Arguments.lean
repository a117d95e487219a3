import GeoStream.Text.DecimalDigit
import GeoStream.Text.Quoted

/-!
# Reading command lines

A command takes options and positional arguments, in any order. An option may be abbreviated as
long as no other one starts the same way, its value may follow an equals sign, and short options
without a value may be run together, the equals sign after the first one apart. After two dashes
everything is positional. An argument that starts with a dash and is no option is positional if it
is a negative number or holds a space.

All arguments are sorted into options and others before anything is done, so an ambiguous option
is found first. Then positional arguments and options are taken in turn. What no option and no
position takes is left over, and it is for the caller to refuse it.
-/

namespace GeoStream.Cli

/-- What an option does. -/
inductive Effect where
  | help
  | version
  | switch
  | value
  deriving DecidableEq

/-- An option: the names it goes by and what it does. -/
structure OptionSpec where
  names : List String
  effect : Effect

/-- A position: an argument, or the name of a subcommand with everything that follows it. -/
inductive Position where
  | argument (name : String)
  | subcommand (name : String) (choices : List String)

/-- What a command takes, and how it describes itself. -/
structure Grammar where
  program : String
  usage : String
  description : String
  options : List OptionSpec
  positions : List Position

/-- Why reading a command line came to an early end. -/
inductive Stop where
  | help
  | version
  | misuse (message : Text)

/-- What was read: switches and values by the last name of their option, positional arguments by
name, the subcommand with its arguments, and what is left over. A position may have been filled
with nothing, and so may a value. -/
structure Given where
  switches : List String
  values : List (String × Option Text)
  arguments : List (String × Option Text)
  subcommand : Option (Text × List Text)
  leftOver : List Text

namespace OptionSpec

def takesValue (o : OptionSpec) : Bool := o.effect = .value

/-- All names, as messages show them. -/
def shown (o : OptionSpec) : String := "/".intercalate o.names

/-- The name under which what the option sets is kept. -/
def key (o : OptionSpec) : String := o.names.getLastD ""

end OptionSpec

/-! ## Sorting arguments -/

/-- An option that an argument names, with the text that is part of the argument. -/
structure Named where
  option : OptionSpec
  name : String
  text : Option Text

/-- What an argument is. -/
inductive Mark where
  | plain
  | dashes
  | unknown
  | option (named : Named)

private def isNamed (wanted : Text) : String × OptionSpec → Bool := fun (n, _) => n = wanted

/-- The text before the first equals sign, and the text after it if there is one. -/
private def splitEquals (t : Text) : Text × Option Text :=
  match t.points.dropWhile (· != .char '=') with
  | [] => (t, none)
  | _ :: after => (⟨t.points.takeWhile (· != .char '=')⟩, some ⟨after⟩)

/-- A negative number: a dash, digits, and perhaps a point with digits after it. A line feed may
stand at the end. -/
private def isNegativeNumber (t : Text) : Bool :=
  match t.chars? with
  | some ('-' :: rest) =>
    let rest := if rest.getLast? = some '\n' then rest.dropLast else rest
    let isDigit := fun c => (digitValue? c).isSome
    let whole := rest.takeWhile isDigit
    match rest.dropWhile isDigit with
    | [] => !whole.isEmpty
    | '.' :: fraction => !fraction.isEmpty && fraction.all isDigit
    | _ => false
  | _ => false

namespace Grammar

/-- Every name of every option. -/
private def optionNames (g : Grammar) : List (String × OptionSpec) :=
  g.options.flatMap fun o => o.names.map fun n => (n, o)

/-- The options that an argument may abbreviate. -/
private def candidates (g : Grammar) (arg : Text) : List Named :=
  if arg.startsWith "--" then
    let (start, text) := splitEquals arg
    (g.optionNames.filter fun (n, _) => Text.startsWith n start).map fun (n, o) => ⟨o, n, text⟩
  else
    g.optionNames.filterMap fun (n, o) =>
      if (Text.ofString n).points = arg.points.take 2 then some ⟨o, n, some ⟨arg.points.drop 2⟩⟩
      else if Text.startsWith n arg then some ⟨o, n, none⟩
      else none

/-- Sorts one argument. -/
def mark (g : Grammar) (arg : Text) : Except Stop Mark :=
  if !arg.startsWith "-" || arg = "-" then .ok .plain
  else
    match g.optionNames.find? (isNamed arg), splitEquals arg with
    | some (n, o), _ => .ok (.option ⟨o, n, none⟩)
    | none, (start, text) =>
      match text, g.optionNames.find? (isNamed start) with
      | some t, some (n, o) => .ok (.option ⟨o, n, some t⟩)
      | _, _ =>
        match g.candidates arg with
        | [named] => .ok (.option named)
        | [] =>
          let isPlain := isNegativeNumber arg || arg.points.contains (.char ' ')
          .ok (if isPlain then .plain else .unknown)
        | several =>
          .error (.misuse ("ambiguous option: " ++ arg ++ " could match " ++
            ", ".intercalate (several.map Named.name)))

/-- Sorts all arguments. -/
def markAll (g : Grammar) : List Text → Except Stop (List (Text × Mark))
  | [] => .ok []
  | arg :: rest =>
    if arg = "--" then .ok ((arg, .dashes) :: rest.map fun a => (a, .plain))
    else do
      let m ← g.mark arg
      return (arg, m) :: (← g.markAll rest)

end Grammar

/-! ## Taking arguments -/

def Mark.isOption : Mark → Bool
  | .option _ | .unknown => true
  | _ => false

/-- The arguments without two dashes at the start. -/
def skipDashes : List (Text × Mark) → List (Text × Mark)
  | (_, .dashes) :: rest => rest
  | args => args

/-- What fills a position. Two dashes before an argument do not count, and where there are none
before it, an argument that is two dashes itself is taken for them. -/
def filling (before : List (Text × Mark)) (arg : Text) : Option Text :=
  match before with
  | (_, .dashes) :: _ => some arg
  | _ => if arg = "--" then none else some arg

/-- Takes the positions that the arguments at the start can fill. -/
def takePositions (given : Given) :
    List Position → List (Text × Mark) →
      Except Stop (Given × List Position × List (Text × Mark))
  | [], args => .ok (given, [], args)
  | .argument name :: more, args =>
    match skipDashes args with
    | (arg, .plain) :: rest =>
      let given := { given with arguments := given.arguments ++ [(name, filling args arg)] }
      takePositions given more (skipDashes rest)
    | _ => .ok (given, .argument name :: more, args)
  | .subcommand name choices :: more, args =>
    match args, skipDashes args with
    | (first, _) :: _, (_, .plain) :: _ =>
      if choices.any fun c => (c : Text) = first then
        takePositions { given with subcommand := some (first, (args.drop 1).map (·.1)) } more []
      else
        .error (.misuse ("argument " ++ name ++ ": invalid choice: " ++ quoted first ++
          " (choose from " ++ ", ".intercalate (choices.map fun c : String => quoted c) ++ ")"))
    | _, _ => .ok (given, .subcommand name choices :: more, args)

/-- What one argument that names options comes to: the options in order with their values. The last
option may want the next argument as its value. -/
structure Bundle where
  options : List (OptionSpec × Option Text)
  wantsValue : Bool

private def ignored (o : OptionSpec) (text : Text) : Stop :=
  .misuse ("argument " ++ o.shown ++ ": ignored explicit argument " ++ quoted text)

/-- Takes apart a short option and the text that follows it: its value, or further short
options. -/
private def unbundle (g : Grammar) (o : OptionSpec) : List CodePoint → Except Stop Bundle
  | [] => if o.takesValue then .ok ⟨[(o, some "")], false⟩ else .error (ignored o "")
  | p :: rest =>
    if o.takesValue then .ok ⟨[(o, some ⟨p :: rest⟩)], false⟩
    else
      match g.optionNames.find? (isNamed ("-" ++ Text.single p)), rest with
      | none, _ => .error (ignored o ⟨p :: rest⟩)
      | some (_, next), [] => .ok ⟨[(o, none), (next, none)], next.takesValue⟩
      | some (_, next), more => do
        let b ← unbundle g next more
        return { b with options := (o, none) :: b.options }

/-- Takes apart an argument that names an option. -/
def bundle (g : Grammar) (named : Named) : Except Stop Bundle :=
  match named.text with
  | none => .ok ⟨[(named.option, none)], named.option.takesValue⟩
  | some t =>
    if !Text.startsWith named.name "--" then unbundle g named.option t.points
    else if named.option.takesValue then .ok ⟨[(named.option, some t)], false⟩
    else .error (ignored named.option t)

/-- Puts options into effect. A value of two dashes counts as nothing. -/
def apply (given : Given) : List (OptionSpec × Option Text) → Except Stop Given
  | [] => .ok given
  | (o, v) :: rest =>
    match o.effect with
    | .help => .error .help
    | .version => .error .version
    | .switch => apply { given with switches := o.key :: given.switches } rest
    | .value => apply { given with values := (o.key, v.filter (· ≠ "--")) :: given.values } rest

/-- Takes one argument that looks like an option, with the value after it if it wants one. -/
def takeOption (g : Grammar) (given : Given) (arg : Text) (m : Mark)
    (after : List (Text × Mark)) : Except Stop (Given × List (Text × Mark)) :=
  match m with
  | .option named => do
    let b ← bundle g named
    let (options, after) ← if !b.wantsValue then .ok (b.options, after)
      else
        match after, b.options.getLast? with
        | (v, .plain) :: after, some (o, _) => .ok (b.options.dropLast ++ [(o, some v)], after)
        | _, some (o, _) =>
          .error (.misuse ("argument " ++ o.shown ++ ": expected one argument"))
        | _, none => .ok ([], after)
    return (← apply given options, after)
  | _ => .ok ({ given with leftOver := given.leftOver ++ [arg] }, after)

/-- Takes positions and options in turn. Every turn takes at least one argument. -/
def takeAll (g : Grammar) (given : Given) (positions : List Position) :
    Nat → List (Text × Mark) → Except Stop (Given × List Position)
  | 0, _ => .ok (given, positions)
  | turns + 1, args => do
    let before := args.takeWhile fun a => !a.2.isOption
    match args.drop before.length with
    | [] =>
      let (given, positions, rest) ← takePositions given positions args
      return ({ given with leftOver := given.leftOver ++ rest.map (·.1) }, positions)
    | (arg, m) :: after =>
      let (given, positions, rest) ← if before.isEmpty then .ok (given, positions, args)
        else takePositions given positions args
      if rest.length < args.length then takeAll g given positions turns rest
      else
        let given := { given with leftOver := given.leftOver ++ before.map (·.1) }
        let (given, after) ← takeOption g given arg m after
        takeAll g given positions turns after

namespace Grammar

/-- Reads the arguments of a command. Arguments have to be given; a subcommand need not be. -/
def read (g : Grammar) (args : List Text) : Except Stop Given := do
  let marked ← g.markAll args
  let (given, missing) ← takeAll g ⟨[], [], [], none, []⟩ g.positions (args.length + 1) marked
  let names := missing.filterMap fun p => match p with
    | .argument name => some name
    | .subcommand .. => none
  if names.isEmpty then return given
  else .error (.misuse ("the following arguments are required: " ++ ", ".intercalate names))

end Grammar

end GeoStream.Cli
