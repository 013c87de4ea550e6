import VisibleText.Text.Search

/-!
# Commands

The commands of the program and their options. Every command can be asked for help;
arguments that make no command are refused. What is given for all commands alike is read
before the command is.
-/

set_option autoImplicit false

namespace VisibleText.Console

/-! ## Arguments of commands

An argument that starts with a dash names options: a long one has two dashes, and
several short ones may share a dash. An option may take a value, which stands behind an
equals sign or behind the short name, or is the next argument, whatever that looks
like. All other arguments are words, and so is everything behind two dashes alone.
-/

/-- An option that a command knows. -/
structure OptionForm where
  /-- its long name, with the dashes -/
  long : Text
  /-- its short name, if it has one -/
  short : Option CodePoint
  takesValue : Bool

/-- An option that was given, by its long name, and its value. -/
structure GivenOption where
  name : Text
  value : Option Text

/-- What was given to a command. -/
structure Given where
  options : List GivenOption
  words : List Text

namespace Given

/-- Whether an option was given. -/
def has (g : Given) (name : String) : Bool := g.options.any fun o => o.name = text name

/-- The value that was given last for an option. -/
def value? (g : Given) (name : String) : Option Text :=
  ((g.options.filter fun o => o.name = text name).getLast?).bind GivenOption.value

/-- What was given, after one more option. -/
def withOption (o : GivenOption) (g : Given) : Given := { g with options := o :: g.options }

/-- What was given, after one more word. -/
def withWord (word : Text) (g : Given) : Given := { g with words := word :: g.words }

end Given

/-- The options of an argument, and the one among them that takes the next argument as
its value. -/
structure OptionsRead where
  given : List GivenOption
  waiting : Option Text

/-- The options whose short names share a dash. -/
def readShort? (forms : List OptionForm) : Text → Option OptionsRead
  | [] => some ⟨[], none⟩
  | c :: t => do
    let form ← forms.find? fun form => form.short = some c
    if form.takesValue then
      if t.isEmpty then return ⟨[], some form.long⟩ else return ⟨[⟨form.long, some t⟩], none⟩
    else
      let others ← readShort? forms t
      return { others with given := ⟨form.long, none⟩ :: others.given }

/-- The option whose long name stands in an argument. -/
def readLong? (forms : List OptionForm) (arg : Text) : Option OptionsRead := do
  let (name, value) :=
    match Text.cutAt? (text "=") arg with
    | some (name, value) => (name, some value)
    | none => (arg, none)
  let form ← forms.find? fun form => form.long = name
  match form.takesValue, value with
  | true, some value => return ⟨[⟨form.long, some value⟩], none⟩
  | true, none => return ⟨[], some form.long⟩
  | false, none => return ⟨[⟨form.long, none⟩], none⟩
  | false, some _ => none

/-- The options of an argument. -/
def readOptions? (forms : List OptionForm) (arg : Text) : Option OptionsRead :=
  if arg.startsWith (text "--") then readLong? forms arg else readShort? forms (arg.drop 1)

/-- Whether an argument names options. -/
def namesOptions (arg : Text) : Bool := arg.startsWith (text "-") && decide (1 < arg.length)

/-- Reads arguments while an option may wait for its value. If options may not stand
between words, everything from the first word on is words. -/
def readGiven? (forms : List OptionForm) (between : Bool) :
    (waiting : Option Text) → List Text → Option Given
  | none, [] => some ⟨[], []⟩
  | some _, [] => none
  | some name, arg :: args => do
    return (← readGiven? forms between none args).withOption ⟨name, some arg⟩
  | none, arg :: args =>
    if arg = text "--" then some ⟨[], args⟩
    else if namesOptions arg then do
      let read ← readOptions? forms arg
      let others ← readGiven? forms between read.waiting args
      return { others with options := read.given ++ others.options }
    else if between then do
      return (← readGiven? forms between none args).withWord arg
    else some ⟨[], arg :: args⟩

/-! ## Requests -/

/-- A command with its arguments. -/
inductive Command where
  | info
  | version
  | listPages (asJson : Bool)
  | showFields (page : Text) (asJson : Bool)
  | applyEdits (page file : Text) (isDryRun : Bool)
deriving DecidableEq

/-- What is given for all commands alike. -/
structure Invocation where
  /-- the path of the settings file -/
  settingsFile : Option Text
  /-- the path of the root of the project -/
  root : Option Text
  isVerbose : Bool
  /-- the name of the command and its own arguments -/
  words : List Text

/-- What arguments ask for, as far as they are given for all commands alike. -/
inductive Request where
  | invoke (invocation : Invocation)
  | help
  /-- the arguments are not understood -/
  | refused

/-- What the arguments of a command ask for. -/
inductive CommandRequest where
  | run (command : Command)
  | help
  | refused

namespace CommandRequest

/-- The option that asks for help. -/
def helpForm : OptionForm := ⟨text "--help", some (.char 'h'), false⟩

/-- An option without a value and without a short name. -/
def switch (name : String) : OptionForm := ⟨text name, none, false⟩

/-- Reads the arguments of a command with some options. -/
def ofGiven (forms : List OptionForm) (between : Bool) (args : List Text)
    (read : Given → CommandRequest) : CommandRequest :=
  match readGiven? (helpForm :: forms) between none args with
  | none => refused
  | some given => if given.has "--help" then help else read given

/-- The command that lists pages. -/
def listing (args : List Text) : CommandRequest :=
  ofGiven [switch "--json"] true args fun given =>
    match given.words with
    | [] => run (.listPages (given.has "--json"))
    | _ => refused

/-- The command that shows fields. -/
def fields (args : List Text) : CommandRequest :=
  ofGiven [switch "--json"] true args fun given =>
    match given.words with
    | [page] => run (.showFields page (given.has "--json"))
    | _ => refused

/-- The command that carries out edits. -/
def edits (args : List Text) : CommandRequest :=
  ofGiven [switch "--dry-run"] true args fun given =>
    match given.words with
    | [page, file] => run (.applyEdits page file (given.has "--dry-run"))
    | _ => refused

/-- A command without arguments. -/
def bare (command : Command) (args : List Text) : CommandRequest :=
  ofGiven [] true args fun given =>
    match given.words with
    | [] => run command
    | _ => refused

/-- The commands about pages. -/
def pages (args : List Text) : CommandRequest :=
  ofGiven [] false args fun given =>
    match given.words with
    | [] => refused
    | name :: args =>
      if name = text "list" then listing args
      else if name = text "fields" then fields args
      else if name = text "apply" then edits args
      else refused

/-- All commands. -/
def ofWords : List Text → CommandRequest
  | [] => refused
  | name :: args =>
    if name = text "info" then bare .info args
    else if name = text "version" then bare .version args
    else if name = text "pages" then pages args
    else refused

end CommandRequest

/-- The options of all commands. -/
def commonForms : List OptionForm :=
  [ CommandRequest.helpForm,
    ⟨text "--config-path", some (.char 'c'), true⟩,
    ⟨text "--project-root", some (.char 'r'), true⟩,
    ⟨text "--verbose", some (.char 'v'), false⟩ ]

/-- What arguments ask for. -/
def Request.ofArguments (args : List Text) : Request :=
  match readGiven? commonForms false none args with
  | none => .refused
  | some given =>
    if given.has "--help" then .help
    else
      .invoke
        { settingsFile := given.value? "--config-path"
          root := given.value? "--project-root"
          isVerbose := given.has "--verbose"
          words := given.words }

end VisibleText.Console
