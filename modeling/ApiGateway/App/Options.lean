/-!
# Command line options

The command line has five options, three of which take a value, and any number of targets to probe.
Options and targets may stand in any order.

* `--name value` and `--name=value` say the same, and for an option with a letter so do `-n value`
  and `-nvalue`;
* letters of options without a value may stand together in one argument;
* a name may be cut short, since no two names begin alike;
* behind `--` there are targets only;
* a target may also be the value of `--probe`, and every other option is given once at most.
-/

namespace ApiGateway
namespace App

inductive Key
  | help
  | version
  | config
  | logLevel
  | probe
deriving DecidableEq, Repr, Inhabited

namespace Key

def all : List Key := [help, version, config, logLevel, probe]

def name : Key → String
  | help => "help"
  | version => "version"
  | config => "config"
  | logLevel => "log-level"
  | probe => "probe"

def letter? : Key → Option Char
  | help => some 'h'
  | version => some 'v'
  | config => some 'c'
  | logLevel => some 'l'
  | probe => none

def takesValue : Key → Bool
  | help => false
  | version => false
  | _ => true

def ofLetter? (c : Char) : Option Key :=
  all.find? (·.letter? == some c)

/-- The option whose name begins like this, if it is the only one.  A letter with a `-` in front
counts as a name. -/
def ofName? : List Char → Option Key
  | ['-', c] => ofLetter? c
  | name =>
    match all.filter (name.isPrefixOf ·.name.toList) with
    | [k] => some k
    | _ => none

end Key

inductive Word
  | target
  /-- Options without a value, and one with its value. -/
  | options (flags : List Key) (last : Key) (value : String)
  /-- Options without a value, and one whose value is the next argument. -/
  | wanting (flags : List Key) (last : Key)
  | stop
  | wrong
deriving DecidableEq, Repr

namespace Word

def after (k : Key) : Word → Word
  | options flags last value => options (k :: flags) last value
  | wanting flags last => wanting (k :: flags) last
  | w => w

def named (name : List Char) (value? : Option (List Char)) : Word :=
  match Key.ofName? name with
  | none => wrong
  | some k =>
    match value? with
    | none => if k.takesValue then wanting [] k else options [] k ""
    | some value =>
      if k.takesValue && !value.isEmpty then options [] k (String.ofList value) else wrong

/-- Options by their letters.  What follows the letter of an option with a value is the value. -/
def letters : List Char → Word
  | [] => wrong
  | c :: rest =>
    match Key.ofLetter? c with
    | none => wrong
    | some k =>
      if k.takesValue then
        if rest.isEmpty then wanting [] k else options [] k (String.ofList rest)
      else if rest.isEmpty then options [] k ""
      else (letters rest).after k

def ofArg (arg : String) : Word :=
  match arg.toList with
  | ['-', '-'] => stop
  | '-' :: '-' :: text =>
    named (text.takeWhile (· != '='))
      (if '=' ∈ text then some ((text.dropWhile (· != '=')).drop 1) else none)
  | '-' :: c :: rest => letters (c :: rest)
  | _ => target

end Word

structure Given where
  key : Key
  value : String := ""
deriving DecidableEq, Repr, Inhabited

namespace Given

/-- An argument may be the value of the option before it, unless it is the letter of an option or
has nothing behind its `=`. -/
def allowed (arg : String) : Bool :=
  match arg.toList with
  | ['-', c] => (Key.ofLetter? c).isNone
  | '-' :: '-' :: text => (text.dropWhile (· != '=')) != ['=']
  | _ => true

/-- What arguments say one after the other, or `none` if an option is not known, lacks its value or
has one that it does not take. -/
def ofArgs? : List String → Option (List Given)
  | [] => some []
  | arg :: rest =>
    match Word.ofArg arg, rest with
    | .target, rest => (ofArgs? rest).map (⟨.probe, arg⟩ :: ·)
    | .options flags last value, rest =>
      (ofArgs? rest).map (flags.map (⟨·, ""⟩) ++ ⟨last, value⟩ :: ·)
    | .wanting flags last, value :: rest =>
      if allowed value then (ofArgs? rest).map (flags.map (⟨·, ""⟩) ++ ⟨last, value⟩ :: ·)
      else none
    | .wanting _ _, [] => none
    | .stop, targets => some (targets.map (⟨.probe, ·⟩))
    | .wrong, _ => none

def value? (k : Key) (l : List Given) : Option String :=
  (l.find? (·.key == k)).map (·.value)

/-- Only `--probe` is given more than once. -/
def Single (l : List Given) : Prop :=
  ((l.filter (·.key != .probe)).map (·.key)).Nodup

instance (l : List Given) : Decidable (Single l) :=
  inferInstanceAs (Decidable (List.Nodup _))

end Given

structure Options where
  help : Bool := false
  version : Bool := false
  config : Option String := none
  /-- A level in place of the one in the settings. -/
  logLevel : Option String := none
  probes : List String := []
deriving DecidableEq, Repr, Inhabited

namespace Options

def ofGiven (l : List Given) : Options where
  help := (Given.value? .help l).isSome
  version := (Given.value? .version l).isSome
  config := Given.value? .config l
  logLevel := Given.value? .logLevel l
  probes := (l.filter (·.key == .probe)).map (·.value)

/-- The options in a list of arguments.  There are none if the arguments cannot be read, or if an
option other than `--probe` comes twice. -/
def parse? (args : List String) : Option Options :=
  ((Given.ofArgs? args).filter fun l => Given.Single l).map ofGiven

end Options
end App
end ApiGateway
