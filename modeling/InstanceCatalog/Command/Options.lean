import InstanceCatalog.Text.Basic

/-!
Options of a command line. Arguments are read from left to right and the first that asks for help
or makes no sense decides. An option's value stands behind it or in the same argument, and begins
with no dash unless it is in the same argument or a dash alone.
-/

namespace InstanceCatalog

/-- What an option takes and how often it may stand there. -/
inductive OptionKind
  /-- Nothing, once. -/
  | flag
  /-- A path, which is not empty, once. -/
  | path
  /-- Any text, as often as wanted. -/
  | repeated
  /-- Nothing; it shows a text and ends the program. -/
  | help
deriving DecidableEq, Repr

structure OptionRule where
  long : Text
  short : Option Char
  kind : OptionKind
deriving DecidableEq, Repr

inductive OptionReading (α : Type)
  | read (found : α)
  /-- A help or version text is asked for. -/
  | help
  | misuse
deriving Repr

/-- Options by their long names, in order, with their values. -/
abbrev FoundOptions := List (Text × Text)

namespace FoundOptions

def has (found : FoundOptions) (name : String) : Bool := found.any (·.1 == name.toList)

def value? (found : FoundOptions) (name : String) : Option Text := found.lookup name.toList

def values (found : FoundOptions) (name : String) : List Text :=
  (found.filter (·.1 == name.toList)).map (·.2)

end FoundOptions

namespace OptionRule

def takesValue (rule : OptionRule) : Bool := rule.kind = .path || rule.kind = .repeated

/-- Adds an option unless it may not stand there again or not with this value. -/
def add (rule : OptionRule) (found : FoundOptions) (value : Text) : OptionReading FoundOptions :=
  if rule.kind = .help then .help
  else if rule.kind = .path && value.isEmpty then .misuse
  else if rule.kind != .repeated && (found.map (·.1)).contains rule.long then .misuse
  else .read (found ++ [(rule.long, value)])

def ofLong? (rules : List OptionRule) (name : Text) : Option OptionRule :=
  rules.find? (·.long == name)

def ofShort? (rules : List OptionRule) (letter : Char) : Option OptionRule :=
  rules.find? (·.short == some letter)

end OptionRule

/-- What one argument is. -/
inductive ArgumentForm
  /-- Options that are complete. -/
  | options (found : List (OptionRule × Text))
  /-- Options of which the last waits for its value. -/
  | waiting (found : List (OptionRule × Text)) (rule : OptionRule)
  /-- Options up to one that makes no sense. -/
  | broken (found : List (OptionRule × Text))
deriving Repr

namespace ArgumentForm

def cons (option : OptionRule × Text) : ArgumentForm → ArgumentForm
  | options found => options (option :: found)
  | waiting found rule => waiting (option :: found) rule
  | broken found => broken (option :: found)

def ofLong (rules : List OptionRule) (s : Text) : ArgumentForm :=
  match OptionRule.ofLong? rules (s.takeWhile (· != '=')), s.dropWhile (· != '=') with
  | none, _ => broken []
  | some rule, [] => if rule.takesValue then waiting [] rule else options [(rule, [])]
  | some rule, _ :: value => if rule.takesValue then options [(rule, value)] else broken []

def ofShorts (rules : List OptionRule) : Text → ArgumentForm
  | [] => options []
  | letter :: rest =>
    match OptionRule.ofShort? rules letter with
    | none => broken []
    | some rule =>
      if rule.takesValue then
        match rest with
        | [] => waiting [] rule
        | '=' :: value => options [(rule, value)]
        | value => options [(rule, value)]
      else cons (rule, []) (ofShorts rules rest)

def ofArgument (rules : List OptionRule) : Text → ArgumentForm
  | '-' :: '-' :: long => ofLong rules long
  | '-' :: letter :: rest => ofShorts rules (letter :: rest)
  | _ => broken []

end ArgumentForm

namespace FoundOptions

def addAll (found : FoundOptions) : List (OptionRule × Text) → OptionReading FoundOptions
  | [] => .read found
  | (rule, value) :: rest =>
    match rule.add found value with
    | .read found => addAll found rest
    | .help => .help
    | .misuse => .misuse

/-- Whether an argument can be the value of the option before it. -/
def isValue : Text → Bool
  | ['-'] => true
  | '-' :: _ => false
  | _ => true

/-- Reads arguments. Two dashes end the options, and nothing may follow them. -/
def readFrom (rules : List OptionRule) (found : FoundOptions) :
    List Text → OptionReading FoundOptions
  | [] => .read found
  | argument :: rest =>
    if argument = "--".toList then (if rest.isEmpty then .read found else .misuse)
    else match ArgumentForm.ofArgument rules argument with
      | .options options =>
        match found.addAll options with
        | .read found => readFrom rules found rest
        | ended => ended
      | .broken options =>
        match found.addAll options with
        | .help => .help
        | _ => .misuse
      | .waiting options rule =>
        match found.addAll options, rest with
        | .read found, value :: rest =>
          if isValue value then
            match rule.add found value with
            | .read found => readFrom rules found rest
            | ended => ended
          else .misuse
        | .read _, [] => .misuse
        | ended, _ => ended

def helpRules : List OptionRule :=
  [⟨"help".toList, some 'h', .help⟩, ⟨"version".toList, some 'V', .help⟩]

def read (rules : List OptionRule) (arguments : List Text) : OptionReading FoundOptions :=
  readFrom (rules ++ helpRules) [] arguments

end FoundOptions
end InstanceCatalog
