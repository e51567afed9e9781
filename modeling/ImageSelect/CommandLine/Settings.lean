import ImageSelect.CommandLine.Usage
import ImageSelect.Text.Integer
import ImageSelect.Text.Quoted

/-!
# Reading the command line

An argument is an option, a value, or the mark `--` behind which all is a
value.  An option may be shortened as long as only one option starts so, and
may carry its value behind an equals sign.

The first values are the expression and, up to the next option, the inputs.
Values that come later belong to no one.
-/

namespace ImageSelect.CommandLine

/-- What arguments ask for. -/
structure Settings where
  expression : String := ""
  inputs : List String := []
  urlList? : Option String := none
  filesOnly : Bool := false
  seriesCount : Int := 1
  frameCount : Int := 1
  output : String := ""
  showProgress : Bool := true
  logLevel : String := "INFO"
  logFile? : Option String := none
  deriving Repr, DecidableEq

/-- What is wrong with arguments. -/
inductive ArgumentError where
  | ambiguous (argument : String) (matching : List String)
  | valueExpected (o : OptionName)
  | valueIgnored (o : OptionName) (value : String)
  | invalidInteger (o : OptionName) (value : String)
  | invalidChoice (o : OptionName) (value : String) (choices : List String)
  | missing
  | unrecognized (arguments : List String)
  deriving Repr, DecidableEq

/-- What is said of it. -/
def ArgumentError.message : ArgumentError → String
  | .ambiguous argument matching =>
    "ambiguous option: " ++ argument ++ " could match " ++ String.intercalate ", " matching
  | .valueExpected o => "argument " ++ o.shown ++ ": expected one argument"
  | .valueIgnored o value =>
    "argument " ++ o.shown ++ ": ignored explicit argument " ++ Text.quoted value
  | .invalidInteger o value =>
    "argument " ++ o.shown ++ ": invalid int value: " ++ Text.quoted value
  | .invalidChoice o value choices =>
    "argument " ++ o.shown ++ ": invalid choice: " ++ Text.quoted value ++ " (choose from " ++
      String.intercalate ", " (choices.map Text.quoted) ++ ")"
  | .missing => "the following arguments are required: expression, inputs"
  | .unrecognized arguments => "unrecognized arguments: " ++ String.intercalate " " arguments

/-- Why settings cannot be read from arguments: help is asked for, or
something is wrong. -/
inductive ArgumentStop where
  | helpWanted
  | wrong (e : ArgumentError)
  deriving Repr, DecidableEq

/-! ## Kinds of arguments -/

/-- What an argument is. -/
inductive ArgumentKind where
  | value
  | mark
  | option (o : OptionName) (spelling : String) (value? : Option String)
  | unknownOption
  deriving Repr, DecidableEq

/-- Whether a text is a number below zero: digits of any script behind a
hyphen, perhaps with a decimal point. -/
def isNegativeNumber (argument : List Char) : Bool :=
  let digits (cs : List Char) : Bool := !cs.isEmpty && cs.all Unicode.isDecimal
  let plain (cs : List Char) : Bool :=
    match cs with
    | '-' :: number =>
      digits number ||
        match number.dropWhile Unicode.isDecimal with
        | '.' :: places => digits places
        | _ => false
    | _ => false
  plain argument || (argument.getLast? = some '\n' && plain argument.dropLast)

/-- The text before the first equals sign and the text after it. -/
def splitAtEquals (argument : List Char) : List Char × Option (List Char) :=
  match argument.span (· != '=') with
  | (before, '=' :: after) => (before, some after)
  | (whole, _) => (whole, none)

/-- The options that a shortened spelling can stand for, with their values. -/
def candidates (argument : List Char) : List (String × OptionName × Option String) :=
  match argument with
  | '-' :: '-' :: _ =>
    let (start, value) := splitAtEquals argument
    (OptionName.spellings.filter fun s => start.isPrefixOf s.1.toList).map
      fun s => (s.1, s.2, value.map String.ofList)
  | _ =>
    OptionName.spellings.filterMap fun s =>
      if s.1.toList = argument.take 2 then
        some (s.1, s.2, some (String.ofList (argument.drop 2)))
      else if argument.isPrefixOf s.1.toList then some (s.1, s.2, none)
      else none

/-- The kind of an argument that is not the mark. -/
def kindOf (argument : String) : Except ArgumentStop ArgumentKind :=
  let chars := argument.toList
  match chars with
  | '-' :: _ :: _ =>
    match OptionName.spellings.lookup argument with
    | some o => .ok (.option o argument none)
    | none =>
      let (start, value) := splitAtEquals chars
      match value, OptionName.spellings.lookup (String.ofList start) with
      | some value, some o => .ok (.option o (String.ofList start) (some (String.ofList value)))
      | _, _ =>
        match candidates chars with
        | [(spelling, o, value)] => .ok (.option o spelling value)
        | [] =>
          if isNegativeNumber chars || chars.contains ' ' then .ok .value
          else .ok .unknownOption
        | several => .error (.wrong (.ambiguous argument (several.map (·.1))))
  | _ => .ok .value

/-- The kinds of all arguments. -/
def kinds : List String → Except ArgumentStop (List (String × ArgumentKind))
  | [] => .ok []
  | "--" :: more => .ok (("--", .mark) :: more.map (·, .value))
  | argument :: more => do
    let kind ← kindOf argument
    return (argument, kind) :: (← kinds more)

/-- Whether an argument is an option. -/
def ArgumentKind.isOption : ArgumentKind → Bool
  | .option .. | .unknownOption => true
  | .value | .mark => false

/-! ## Taking arguments -/

/-- How far arguments have been read. -/
structure Reading where
  settings : Settings := {}
  hasExpression : Bool := false
  extras : List String := []
  deriving Repr, DecidableEq

/-- A count that an option gives. -/
def readCount (o : OptionName) (value : String) : Except ArgumentStop Int :=
  match Text.readInteger value.toList with
  | .value n => .ok n
  | _ => .error (.wrong (.invalidInteger o value))

/-- Checks that a value is one of some choices. -/
def checkChoice (o : OptionName) (value : String) (choices : List String) :
    Except ArgumentStop Unit :=
  if choices.contains value then .ok () else .error (.wrong (.invalidChoice o value choices))

/-- Gives an option its value. -/
def Settings.assign (s : Settings) (o : OptionName) (value : String) :
    Except ArgumentStop Settings :=
  match o with
  | .help => .error .helpWanted
  | .noProgress => .ok { s with showProgress := false }
  | .urlList => .ok { s with urlList? := some value }
  | .candidate => do
    checkChoice o value candidateNames
    return { s with filesOnly := value = "file" }
  | .seriesCount => do return { s with seriesCount := ← readCount o value }
  | .frameCount => do return { s with frameCount := ← readCount o value }
  | .output => .ok { s with output := value }
  | .logLevel => do
    checkChoice o value levelNames
    return { s with logLevel := value }
  | .logFile => .ok { s with logFile? := some value }

/-- Takes an option that carries a text.  Short options without values can
stand together behind one hyphen. -/
def Settings.assignJoined (s : Settings) (o : OptionName) (spelling text : String) :
    Except ArgumentStop Settings :=
  if o.takesValue then s.assign o (if text = "--" then "" else text)
  else if spelling = "-h" && text != "" && text.toList.all (· = 'h') then s.assign .help ""
  else
    let ignored := if spelling = "-h" then text.toList.dropWhile (· = 'h') else text.toList
    .error (.wrong (.valueIgnored o (String.ofList ignored)))

/-- The arguments of the expression: the first value, and the mark before or
behind it. -/
def takeExpression : List (String × ArgumentKind) →
    Option (List String × List (String × ArgumentKind))
  | (mark, .mark) :: (value, .value) :: more => some ([mark, value], more)
  | (value, .value) :: (mark, .mark) :: more => some ([value, mark], more)
  | (value, .value) :: more => some ([value], more)
  | _ => none

/-- Takes values up to the next option: as the expression and the inputs, or
as extras. -/
def Reading.takeValues (r : Reading) (values : List (String × ArgumentKind)) : Reading :=
  match r.hasExpression, takeExpression values with
  | false, some (expression, inputs) =>
    { r with
      hasExpression := true
      settings := { r.settings with
        expression := (expression.erase "--").headD ""
        inputs := (inputs.map (·.1)).erase "--" } }
  | _, _ => { r with extras := r.extras ++ values.map (·.1) }

/-- Takes the arguments one after the other.  There are `bound` of them at
most. -/
def Reading.takeAll (bound : Nat) (r : Reading) (arguments : List (String × ArgumentKind)) :
    Except ArgumentStop Reading :=
  match bound, arguments with
  | 0, _ | _, [] => .ok r
  | bound + 1, (argument, kind) :: more =>
    match kind with
    | .unknownOption => Reading.takeAll bound { r with extras := r.extras ++ [argument] } more
    | .option o spelling (some text) => do
      let settings ← r.settings.assignJoined o spelling text
      Reading.takeAll bound { r with settings } more
    | .option o _ none =>
      if o.takesValue then
        match more with
        | (value, .value) :: more => do
          let settings ← r.settings.assign o value
          Reading.takeAll bound { r with settings } more
        | _ => .error (.wrong (.valueExpected o))
      else do
        let settings ← r.settings.assign o ""
        Reading.takeAll bound { r with settings } more
    | .value | .mark =>
      let (values, rest) := arguments.span fun a => !a.2.isOption
      Reading.takeAll bound (r.takeValues values) rest

/-- Reads settings from arguments. -/
def Settings.ofArguments (arguments : List String) : Except ArgumentStop Settings := do
  let r ← Reading.takeAll (arguments.length + 1) {} (← kinds arguments)
  if !r.hasExpression then throw (.wrong .missing)
  if !r.extras.isEmpty then throw (.wrong (.unrecognized r.extras))
  return r.settings

end ImageSelect.CommandLine
