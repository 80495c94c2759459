import FeatureGate.Assoc

namespace FeatureGate.CommandLine

inductive Effect where
  | value
  | flag
  | help
  | version
deriving DecidableEq, Repr

structure Switch where
  long : String
  short : Option Char := none
  effect : Effect := .value
  required : Bool := false
  accepts : String → Bool := fun _ => true

structure Place where
  name : String
  repeats : Bool := false
  accepts : String → Bool := fun _ => true

-- What may stand on one level: switches, and either places or commands, each of
-- which leads to a level below. A required switch belongs to a level without commands.
inductive Grammar where
  | level (switches : List Switch) (places : List Place) (commands : List (String × Grammar))

namespace Grammar

def switches : Grammar → List Switch
  | level switches _ _ => switches

def places : Grammar → List Place
  | level _ places _ => places

def commands : Grammar → List (String × Grammar)
  | level _ _ commands => commands

def command? (grammar : Grammar) (name : String) : Option Grammar :=
  Assoc.lookup name grammar.commands

def long? (grammar : Grammar) (name : String) : Option Switch :=
  grammar.switches.find? (·.long = name)

def short? (grammar : Grammar) (letter : Char) : Option Switch :=
  grammar.switches.find? (·.short = some letter)

def place? (grammar : Grammar) (number : Nat) : Option Place :=
  match grammar.places[number]? with
  | some place => some place
  | none => grammar.places.getLast?.filter (·.repeats)

def leadsTo (grammar : Grammar) : List String → Bool
  | [] => true
  | name :: rest => match grammar.command? name with
      | some below => below.leadsTo rest
      | none => false

end Grammar

inductive Shape where
  | separator
  | long (name : String) (value : Option String)
  | cluster (letters : List Char)
  | plain
deriving DecidableEq, Repr

def afterEquals : List Char → Option String
  | [] => none
  | _ :: value => some (String.ofList value)

def Shape.of (argument : String) : Shape :=
  match argument.toList with
  | ['-', '-'] => separator
  | '-' :: '-' :: rest =>
      long (String.ofList (rest.takeWhile (· != '='))) (afterEquals (rest.dropWhile (· != '=')))
  | '-' :: letter :: rest => cluster (letter :: rest)
  | _ => plain

structure Sentence where
  commands : List String
  switches : List (Assoc String)
  arguments : List String
deriving DecidableEq, Repr

-- A switch that several levels have counts where it was given lowest.
def Sentence.value? (sentence : Sentence) (long : String) : Option String :=
  sentence.switches.findSome? (·.get? long)

inductive Ending where
  | help
  | version
  | refused
deriving DecidableEq, Repr

structure Progress where
  grammar : Grammar
  commands : List String := []
  above : List (Assoc String) := []
  switches : Assoc String := Assoc.empty
  arguments : List String := []
  waiting : Option Switch := none
  separated : Bool := false

inductive Step where
  | next (progress : Progress)
  | helpOn
  | stop (ending : Ending)

namespace Progress

def give (progress : Progress) (switch : Switch) (value : String) : Step :=
  if (progress.switches.get? switch.long).isSome || !switch.accepts value then .stop .refused
  else .next { progress with
    switches := progress.switches.put switch.long value
    waiting := none }

def take (progress : Progress) (argument : String) : Step :=
  match progress.grammar.place? progress.arguments.length with
  | none => .stop .refused
  | some place =>
      if place.accepts argument then
        .next { progress with arguments := progress.arguments ++ [argument] }
      else .stop .refused

def descend (progress : Progress) (name : String) (below : Grammar) : Progress where
  grammar := below
  commands := progress.commands ++ [name]
  above := progress.switches :: progress.above

def plain (progress : Progress) (argument : String) : Step :=
  match progress.grammar.command? argument with
  | some below => .next (progress.descend argument below)
  | none =>
      if argument = "help" && !progress.grammar.commands.isEmpty then .helpOn
      else progress.take argument

def long (progress : Progress) (switch : Switch) (value : Option String) : Step :=
  match switch.effect, value with
  | .value, some value => progress.give switch value
  | .value, none => .next { progress with waiting := some switch }
  | .flag, none => progress.give switch ""
  | .help, none => .stop .help
  | .version, none => .stop .version
  | _, some _ => .stop .refused

-- The letters after one dash. The first letter that takes a value has all that
-- follows it, less an equals sign in front.
def cluster (progress : Progress) : List Char → Step
  | [] => .next progress
  | letter :: rest => match progress.grammar.short? letter with
      | none => .stop .refused
      | some switch => match switch.effect with
          | .help => .stop .help
          | .version => .stop .version
          | .flag => match progress.give switch "" with
              | .next progress => progress.cluster rest
              | other => other
          | .value => match rest with
              | [] => .next { progress with waiting := some switch }
              | '=' :: value => progress.give switch (String.ofList value)
              | value => progress.give switch (String.ofList value)

def read (progress : Progress) (argument : String) : Step :=
  if progress.separated then progress.take argument
  else match progress.waiting, Shape.of argument with
    | some switch, .plain => progress.give switch argument
    | some _, _ => .stop .refused
    | none, .separator => .next { progress with separated := true }
    | none, .long name value => match progress.grammar.long? name with
        | some switch => progress.long switch value
        | none => .stop .refused
    | none, .cluster letters => progress.cluster letters
    | none, .plain => progress.plain argument

def isComplete (progress : Progress) : Bool :=
  progress.waiting.isNone && progress.grammar.commands.isEmpty &&
    progress.grammar.places.length ≤ progress.arguments.length &&
    progress.grammar.switches.all fun switch =>
      !switch.required || (progress.switches.get? switch.long).isSome

def sentence (progress : Progress) : Sentence where
  commands := progress.commands
  switches := progress.switches :: progress.above
  arguments := progress.arguments

def readAll (progress : Progress) : List String → Except Ending Sentence
  | [] => if progress.isComplete then .ok progress.sentence else .error .refused
  | argument :: rest => match progress.read argument with
      | .next progress => progress.readAll rest
      | .helpOn => .error (if progress.grammar.leadsTo rest then .help else .refused)
      | .stop ending => .error ending

end Progress

def Grammar.read (grammar : Grammar) (arguments : List String) : Except Ending Sentence :=
  Progress.readAll { grammar } arguments

end FeatureGate.CommandLine
