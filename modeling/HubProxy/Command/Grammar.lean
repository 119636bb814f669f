import HubProxy.Text.Digit
import HubProxy.Text.Quoted

/-!
# Reading arguments

A grammar says which options a command knows and what its operand takes. `Grammar.read` sorts the
arguments of a command by it. An option may be shortened as long as only one fits. Flags of one
letter may be joined, and a value may be attached by an equals sign. After two dashes every argument
is an operand. Arguments that fit nowhere are kept as extras, since another command may know them.
-/

namespace HubProxy.Command

structure OptionSpec where
  names : List String
  takesValue : Bool
  isRequired : Bool
  deriving DecidableEq, Repr

inductive Arity where
  | one
  | optional
  /-- An argument and all that follow it, whatever they look like. -/
  | rest
  deriving DecidableEq, Repr

structure Grammar where
  program : String
  options : List OptionSpec
  operand : String
  arity : Arity

/-- Why arguments are not carried out. -/
inductive Stop where
  | help (program : String)
  /-- The arguments do not fit. -/
  | misuse (program message : String)
  deriving DecidableEq, Repr

/-- The option that asks for help, which every command knows. -/
def helpOption : OptionSpec := ⟨["-h", "--help"], false, false⟩

/-- The use of an option under one of its names, with a value that is part of the argument. -/
structure OptionUse where
  option : OptionSpec
  name : List Char
  attached : Option (List Char)

/-- What an argument looks like. -/
inductive Look where
  | operand
  | separator
  /-- Looks like an option but is none of the command. -/
  | unknown
  | use (u : OptionUse)

structure Argument where
  text : String
  look : Look

structure Reading where
  uses : List (OptionSpec × Option String)
  operand : Option (List String)
  extras : List String

def OptionSpec.label (o : OptionSpec) : String :=
  "/".intercalate o.names

/-- The value of the last use of an option. -/
def Reading.value? (r : Reading) (o : OptionSpec) : Option String :=
  (r.uses.reverse.lookup o).join

def Reading.has (r : Reading) (o : OptionSpec) : Bool :=
  r.uses.any (·.1 == o)

namespace Grammar

def named (g : Grammar) : List (List Char × OptionSpec) :=
  g.options.flatMap fun o => o.names.map fun name => (name.toList, o)

/-- The failure of arguments that do not fit. -/
def misuse (g : Grammar) (message : String) : Except Stop α :=
  .error (.misuse g.program message)

/-- The part of an argument before its first equals sign, and the value after it. -/
def splitValue (cs : List Char) : List Char × Option (List Char) :=
  match cs.dropWhile (· != '=') with
  | [] => (cs, none)
  | _ :: value => (cs.takeWhile (· != '='), some value)

/-- The options that an argument may be short for. -/
def candidates (g : Grammar) : List Char → List OptionUse
  | '-' :: '-' :: rest =>
    let (name, attached) := splitValue ('-' :: '-' :: rest)
    (g.named.filter fun (known, _) => name.isPrefixOf known).map fun (known, o) =>
      ⟨o, known, attached⟩
  | '-' :: letter :: rest =>
    g.named.filterMap fun (known, o) =>
      if known = ['-', letter] then some ⟨o, known, some rest⟩
      else if ('-' :: letter :: rest).isPrefixOf known then some ⟨o, known, none⟩
      else none
  | _ => []

/-- Whether an argument is a negative number in digits of any script, possibly with a line feed
after it. -/
def isNegative : List Char → Bool
  | '-' :: rest =>
    let number := if rest.getLast? = some '\n' then rest.dropLast else rest
    match number.dropWhile Text.isDecimalDigit with
    | [] => !number.isEmpty
    | '.' :: places => !places.isEmpty && places.all Text.isDecimalDigit
    | _ => false
  | _ => false

/-- What an argument looks like that is not set off by two dashes. -/
def look (g : Grammar) (cs : List Char) : Except Stop Look :=
  match cs with
  | '-' :: _ :: _ =>
    match g.named.lookup cs with
    | some o => .ok (.use ⟨o, cs, none⟩)
    | none =>
      let (name, attached) := splitValue cs
      match attached, g.named.lookup name with
      | some _, some o => .ok (.use ⟨o, name, attached⟩)
      | _, _ =>
        match g.candidates cs with
        | [u] => .ok (.use u)
        | [] => .ok (if isNegative cs || cs.contains ' ' then .operand else .unknown)
        | several => g.misuse ("ambiguous option: " ++ String.ofList cs ++ " could match "
            ++ ", ".intercalate (several.map fun u => String.ofList u.name))
  | _ => .ok .operand

def looks (g : Grammar) : List String → Except Stop (List Argument)
  | [] => .ok []
  | "--" :: rest => .ok (⟨"--", .separator⟩ :: rest.map (⟨·, .operand⟩))
  | text :: rest => do
    let look ← g.look text.toList
    return ⟨text, look⟩ :: (← g.looks rest)

/-- The failure of a flag that a value is attached to. -/
def refuseValue (g : Grammar) (o : OptionSpec) (value : List Char) : Except Stop α :=
  g.misuse ("argument " ++ o.label ++ ": ignored explicit argument "
    ++ Text.quoted (String.ofList value))

/-- The options that an option and a value attached to it stand for. The value of a flag of one
letter is further such flags. -/
def joined (g : Grammar) (o : OptionSpec) (name : List Char) :
    List Char → Except Stop (List (OptionSpec × Option String))
  | [] => if o.takesValue then .ok [(o, some "")] else g.refuseValue o []
  | letter :: rest =>
    if o.takesValue then .ok [(o, some (String.ofList (letter :: rest)))]
    else if "--".toList.isPrefixOf name then g.refuseValue o (letter :: rest)
    else
      match g.named.lookup ['-', letter] with
      | none => g.refuseValue o (letter :: rest)
      | some next =>
        if rest.isEmpty then .ok [(o, none), (next, none)]
        else return (o, none) :: (← g.joined next ['-', letter] rest)

def takeOption (g : Grammar) (u : OptionUse) (rest : List Argument) :
    Except Stop (List (OptionSpec × Option String) × List Argument) :=
  match u.attached with
  | some value => return (← g.joined u.option u.name value, rest)
  | none =>
    if !u.option.takesValue then .ok ([(u.option, none)], rest)
    else
      match rest with
      | ⟨value, .operand⟩ :: rest => .ok ([(u.option, some value)], rest)
      | _ => g.misuse ("argument " ++ u.option.label ++ ": expected one argument")

/-- The arguments without separators at the start. -/
def skipSeparators : List Argument → List Argument
  | ⟨_, .separator⟩ :: rest => skipSeparators rest
  | arguments => arguments

/-- Takes the operand from the start of the arguments, if they fit. -/
def takeOperand (arity : Arity) (arguments : List Argument) :
    Option (List String × List Argument) :=
  match arity, skipSeparators arguments with
  | .rest, ⟨_, .operand⟩ :: _ => some (arguments.map (·.text), [])
  | .rest, _ => none
  | _, ⟨text, .operand⟩ :: rest => some ([text], skipSeparators rest)
  | .one, _ => none
  | .optional, rest => some ([], rest)

/-- Adds uses of options to a reading. A use of the option for help ends it. -/
def addUses (g : Grammar) (r : Reading) (uses : List (OptionSpec × Option String)) :
    Except Stop Reading :=
  if uses.any (·.1 == helpOption) then .error (.help g.program)
  else .ok { r with uses := r.uses ++ uses }

/-- Reads the arguments after those that a reading holds. The first argument bounds their number. -/
def readFrom (g : Grammar) : Nat → Reading → List Argument → Except Stop Reading
  | 0, r, _ => .ok r
  | fuel + 1, r, arguments =>
    match (if r.operand.isNone then takeOperand g.arity arguments else none), arguments with
    | _, ⟨_, .use u⟩ :: rest => do
      let (uses, rest) ← g.takeOption u rest
      g.readFrom fuel (← g.addUses r uses) rest
    | _, ⟨text, .unknown⟩ :: rest => g.readFrom fuel { r with extras := r.extras ++ [text] } rest
    | some (operand, rest), _ => g.readFrom fuel { r with operand := some operand } rest
    | none, ⟨text, _⟩ :: rest => g.readFrom fuel { r with extras := r.extras ++ [text] } rest
    | none, [] => .ok r

def lacking (g : Grammar) (r : Reading) : List String :=
  (if r.operand.isNone && g.arity != .optional then [g.operand] else [])
    ++ ((g.options.filter fun o => o.isRequired && !r.has o).map OptionSpec.label)

def read (g : Grammar) (arguments : List String) : Except Stop Reading := do
  let r ← g.readFrom (arguments.length + 2) ⟨[], none, []⟩ (← g.looks arguments)
  match g.lacking r with
  | [] => return r
  | names => g.misuse ("the following arguments are required: " ++ ", ".intercalate names)

end Grammar

end HubProxy.Command
