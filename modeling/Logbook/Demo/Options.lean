/-
# Options of the demo

The demo takes options that start with two hyphens. An option that wants a value takes what follows
an equals sign, or else the next argument, which must not look like an option itself; only the
thresholds of categories may be given more than once. Arguments are read from left to right, so that
what is wrong before a request for help or for the version is found first.

Key definitions: `Options`, `Options.parseOverride`, `Request`, `Request.ofArguments`.
-/
import Logbook.Level.Reader
import Logbook.Settings

namespace Logbook.Demo

/-- What the demo is told. -/
structure Options where
  level : Level
  /-- The levels of single categories, in the order they were given. -/
  categories : List (String × Level)
  categoryWidth : UInt64
  wallTime : Bool
  deltas : Bool
  /-- The length of a cycle in nanoseconds. -/
  cycle : Option UInt64
  noColor : Bool
  logFile : Option String
  /-- Whether the log file is written in the foreground. -/
  foreground : Bool
  filter : Option String
  /-- The number of cycles to run. -/
  cycles : UInt32
  deriving DecidableEq

/-- What the demo does when it is told nothing. -/
def Options.standard : Options :=
  ⟨.warning, [], Settings.standardWidth, false, false, none, false, none, false, none, 4⟩

/-- Why the level of a category cannot be read. -/
inductive OverrideError where
  | noEquals (text : String)
  | noCategory
  | level (e : LevelError)
  deriving DecidableEq

/-- The wording of an error. -/
def OverrideError.message : OverrideError → String
  | .noEquals text => "expected CATEGORY=LEVEL, got '" ++ text ++ "'"
  | .noCategory => "category name must not be empty"
  | .level e => e.message

/-- A text before and after its first equals sign. -/
def splitEquals : List Char → Option (List Char × List Char)
  | [] => none
  | c :: cs =>
    if c = '=' then some ([], cs)
    else (splitEquals cs).map fun r => (c :: r.1, r.2)

/-- Reads the level of a category: a name that is not empty, an equals sign, and the name of a
level in any letter case. -/
def Options.parseOverride (text : String) : Except OverrideError (String × Level) :=
  match splitEquals text.toList with
  | none => .error (.noEquals text)
  | some (category, level) =>
    if category.isEmpty then .error .noCategory
    else
      match Level.parseAnyCase (String.ofList level) with
      | .ok l => .ok (String.ofList category, l)
      | .error e => .error (.level e)

/-- The settings of the facility. -/
def Options.settings (o : Options) : Settings :=
  let x := ((((Settings.standard.withLevel o.level).withCategoryWidth o.categoryWidth).withWallTime
    o.wallTime).withDeltas o.deltas).withColored (!o.noColor)
  let x := x.withBackground (!o.foreground)
  let x := match o.logFile with
    | some path => x.withLogFile path
    | none => x
  match o.filter with
  | some pattern => x.withCategoryFilter pattern
  | none => x

/-- A number in decimal. -/
def digits? (cs : List Char) : Option Nat :=
  if cs.isEmpty || cs.any fun c => !c.isDigit then none
  else some (cs.foldl (fun n c => n * 10 + (c.toNat - 48)) 0)

/-- A number in decimal, with or without a plus sign. -/
def unsigned? (s : String) : Option Nat :=
  match s.toList with
  | '+' :: cs => digits? cs
  | cs => digits? cs

/-- A number in decimal, with or without a sign. -/
def signed? (s : String) : Option Int :=
  match s.toList with
  | '-' :: cs => (digits? cs).map fun n => -(n : Int)
  | _ => (unsigned? s).map fun n => (n : Int)

/-- A number that fits a word of 64 bits. -/
def word64? (s : String) : Option UInt64 :=
  match unsigned? s with
  | some n => if n < UInt64.size then some (UInt64.ofNat n) else none
  | none => none

/-- A number of cycles. -/
def cycles? (s : String) : Option UInt32 :=
  match signed? s with
  | some n => if 0 ≤ n ∧ n < UInt32.size then some (UInt32.ofNat n.toNat) else none
  | none => none

/-- The options that want a value. -/
inductive Valued where
  | level
  | category
  | categoryWidth
  | cycle
  | logFile
  | filter
  | cycles
  deriving DecidableEq

/-- The options that stand alone. -/
inductive Switch where
  | wallTime
  | deltas
  | noColor
  | foreground
  deriving DecidableEq

/-- The names of the options that want a value. -/
def Valued.names : List (String × Valued) :=
  [("level", .level), ("category", .category), ("category-width", .categoryWidth),
   ("cycle-ns", .cycle), ("log-file", .logFile), ("filter", .filter), ("cycles", .cycles)]

/-- The names of the options that stand alone. -/
def Switch.names : List (String × Switch) :=
  [("sys-time", .wallTime), ("delta", .deltas), ("no-color", .noColor), ("sync", .foreground)]

/-- Gives an option its value, if that can be read. -/
def Options.assign? (v : Valued) (text : String) (o : Options) : Option Options :=
  match v with
  | .level => (Level.parseAnyCase text).toOption.map fun l => { o with level := l }
  | .category =>
    (Options.parseOverride text).toOption.map fun c =>
      { o with categories := o.categories ++ [c] }
  | .categoryWidth => (word64? text).map fun n => { o with categoryWidth := n }
  | .cycle => (word64? text).map fun n => { o with cycle := some n }
  | .logFile => if text.isEmpty then none else some { o with logFile := some text }
  | .filter => some { o with filter := some text }
  | .cycles => (cycles? text).map fun n => { o with cycles := n }

/-- Turns on an option that stands alone. -/
def Options.turnOn (s : Switch) (o : Options) : Options :=
  match s with
  | .wallTime => { o with wallTime := true }
  | .deltas => { o with deltas := true }
  | .noColor => { o with noColor := true }
  | .foreground => { o with foreground := true }

/-- What the demo is asked to do. -/
inductive Request where
  | run (o : Options)
  | help
  | version
  /-- Arguments that make no sense. -/
  | misuse

/-- What has been read of the arguments so far. -/
structure Progress where
  options : Options
  /-- The options that were given and may not be given again. -/
  valued : List Valued
  switches : List Switch

namespace Progress

/-- Nothing has been read. -/
def start : Progress := ⟨.standard, [], []⟩

/-- Reads the value of an option. -/
def give? (v : Valued) (text : String) (r : Progress) : Option Progress :=
  if r.valued.contains v then none
  else
    (r.options.assign? v text).map fun o =>
      { r with options := o, valued := if v = .category then r.valued else v :: r.valued }

/-- Reads an option that stands alone. -/
def turnOn? (s : Switch) (r : Progress) : Option Progress :=
  if r.switches.contains s then none
  else some { r with options := r.options.turnOn s, switches := s :: r.switches }

end Progress

/-- An argument by its looks: the end of the options, an option with what follows its equals sign,
a letter after one hyphen, or anything else. -/
inductive Looks where
  | ending
  | long (name : String) (value : Option String)
  | short (letter : Char)
  | plain

/-- How an argument looks. A single hyphen is no option. -/
def Looks.of (arg : String) : Looks :=
  match arg.toList with
  | ['-', '-'] => .ending
  | '-' :: '-' :: cs =>
    match splitEquals cs with
    | some (name, value) => .long (String.ofList name) (some (String.ofList value))
    | none => .long (String.ofList cs) none
  | '-' :: c :: _ => .short c
  | _ => .plain

/-- Reads the rest of the arguments; `wanted` is an option that waits for its value. -/
def Request.read (r : Progress) (wanted : Option Valued) : List String → Request
  | [] => if wanted.isSome then .misuse else .run r.options
  | arg :: args =>
    match Looks.of arg, wanted with
    | .plain, some v =>
      match r.give? v arg with
      | some r => read r none args
      | none => .misuse
    | _, some _ | .plain, none => .misuse
    | .ending, none => if args.isEmpty then .run r.options else .misuse
    | .short c, none => if c = 'h' then .help else if c = 'V' then .version else .misuse
    | .long name value, none =>
      match Valued.names.lookup name, Switch.names.lookup name, value with
      | some v, _, some text =>
        match r.give? v text with
        | some r => read r none args
        | none => .misuse
      | some v, _, none => read r (some v) args
      | none, some s, none =>
        match r.turnOn? s with
        | some r => read r none args
        | none => .misuse
      | none, none, none =>
        if name = "help" then .help else if name = "version" then .version else .misuse
      | none, _, some _ => .misuse

/-- What arguments ask for. -/
def Request.ofArguments (args : List String) : Request := read .start none args

end Logbook.Demo
