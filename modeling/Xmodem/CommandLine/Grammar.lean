import Xmodem.Text.Digit

/-!
# Grammars of command lines

Arguments are switches, values of switches, and operands, in any order.  A value may be attached to
its switch: to a name by an equals sign, to a short name also directly.  A double dash in its place
leaves the switch blank.  Behind a short name that takes no value further short names may be written
instead.  A long name may be cut short where it remains the only one with its beginning.  After a
double dash all arguments are operands.  Arguments without a meaning are noticed at the end only, so
that a call for help before the end is heard; but the beginning of several names is noticed before
anything is done.
-/

namespace Xmodem.CommandLine

/-- The reasons for which arguments lead to no command. -/
inductive Stop where
  /-- Help is asked for. -/
  | help
  /-- The arguments do not fit the grammar. -/
  | usage
  deriving DecidableEq, Repr

/-- What is given behind a switch. -/
inductive Entry (α : Type) where
  /-- A value. -/
  | given (value : α)
  /-- No value; the switch is left blank. -/
  | blank
  deriving DecidableEq, Repr

namespace Entry

variable {α β : Type}

/-- The value, if there is one. -/
def value? : Entry α → Option α
  | given value => some value
  | blank => none

/-- Read the value, if there is one; nothing when it cannot be read. -/
def read? (read : α → Option β) : Entry α → Option (Entry β)
  | given text => (read text).map given
  | blank => some blank

/-- An attached text; a double dash is no value. -/
def ofAttached (text : String) : Entry String :=
  if text = "--" then blank else given text

end Entry

/-- What a switch does to the values collected so far. -/
inductive Effect (σ : Type) where
  /-- Change them. -/
  | change (apply : σ → σ)
  /-- Take a value, or be left blank; a value may be refused. -/
  | take (accept : Entry String → σ → Option σ)
  /-- Ask for help. -/
  | help

/-- An effect with the names that call for it. -/
structure Switch (σ : Type) where
  /-- All names, with their dashes. -/
  names : List String
  /-- What the switch does. -/
  effect : Effect σ

/-- What arguments that belong to no switch stand for. -/
inductive Operands where
  /-- Some number of values. -/
  | values (count : Nat)
  /-- A command, to which all further arguments belong. -/
  | command
  deriving DecidableEq, Repr

/-- The switches and operands that a command line may have. -/
structure Grammar (σ : Type) where
  /-- All switches. -/
  switches : List (Switch σ)
  /-- The operands. -/
  operands : Operands

/-- Text attached to the name of a switch. -/
structure Attachment where
  /-- Whether the name is short. -/
  short : Bool
  /-- The text. -/
  text : List Char
  deriving DecidableEq, Repr

/-- What one argument is. -/
inductive Token (σ : Type) where
  /-- An operand, or the value of the switch before it. -/
  | value
  /-- A switch, perhaps with more attached. -/
  | switch (called : Switch σ) (attached : Option Attachment)
  /-- A switch without a meaning. -/
  | unknown
  /-- The beginning of several long names. -/
  | ambiguous

namespace Token

/-- Whether an argument is the beginning of several long names. -/
def isAmbiguous {σ : Type} : Token σ → Bool
  | ambiguous => true
  | _ => false

end Token

namespace Grammar

variable {σ : Type}

/-- The switch with a given name. -/
def find? (grammar : Grammar σ) (name : String) : Option (Switch σ) :=
  grammar.switches.find? fun candidate => candidate.names.contains name

/-- Whether a name has a single dash. -/
def isShort : List Char → Bool
  | '-' :: second :: _ => second != '-'
  | _ => false

/-- Whether text consists of digits, at least one. -/
def isDigits (text : List Char) : Bool :=
  !text.isEmpty && text.all fun character => (Text.Digit.value? character).isSome

/-- Whether text after a dash makes a negative number: digits, perhaps with a point before the last
ones. -/
def isNumber (text : List Char) : Bool :=
  let text := if text.getLast? = some '\n' then text.dropLast else text
  let whole := text.takeWhile (· != '.')
  match text.dropWhile (· != '.') with
  | [] => isDigits whole
  | _ :: fraction => (whole.isEmpty || isDigits whole) && isDigits fraction

/-- Whether a name has two dashes. -/
def isLong : List Char → Bool
  | '-' :: '-' :: _ => true
  | _ => false

/-- An argument up to its first equals sign. -/
def name (argument : List Char) : List Char :=
  argument.takeWhile (· != '=')

/-- What is behind the first equals sign. -/
def text? (argument : List Char) : Option (List Char) :=
  match argument.dropWhile (· != '=') with
  | [] => none
  | _ :: text => some text

/-- The switch before an equals sign, with what is behind. -/
def joined? (grammar : Grammar σ) (argument : List Char) : Option (Token σ) := do
  let text ← text? argument
  let called ← grammar.find? (String.ofList (name argument))
  return .switch called (some ⟨isShort (name argument), text⟩)

/-- The short switch at the beginning of an argument, with what is behind. -/
def packed? (grammar : Grammar σ) (argument : List Char) : Option (Token σ) :=
  if isShort argument then
    (grammar.find? (String.ofList (argument.take 2))).map fun called =>
      .switch called (some ⟨true, argument.drop 2⟩)
  else
    none

/-- The switches whose names begin in some way, one for each such name. -/
def completions (grammar : Grammar σ) (beginning : List Char) : List (Switch σ) :=
  grammar.switches.flatMap fun candidate =>
    (candidate.names.filter fun name => beginning.isPrefixOf name.toList).map fun _ => candidate

/-- The switch whose long name is cut short, with what is behind an equals sign. -/
def abbreviated? (grammar : Grammar σ) (argument : List Char) : Option (Token σ) :=
  if isLong argument then
    match grammar.completions (name argument) with
    | [] => none
    | [called] => some (.switch called ((text? argument).map (⟨false, ·⟩)))
    | _ => some .ambiguous
  else
    none

/-- Tell switches and values apart.  A negative number and text with a space are values, also when
they begin with a dash. -/
def classify (grammar : Grammar σ) (argument : String) : Token σ :=
  match argument.toList with
  | '-' :: rest =>
      match grammar.find? argument with
      | some called => .switch called none
      | none =>
          if rest.isEmpty then
            .value
          else
            match grammar.joined? ('-' :: rest) <|> grammar.packed? ('-' :: rest) <|>
              grammar.abbreviated? ('-' :: rest) with
            | some token => token
            | none => if isNumber rest || rest.contains ' ' then .value else .unknown
  | _ => .value

/-- Whether an argument before the first double dash is the beginning of several long names. -/
def hasAmbiguous (grammar : Grammar σ) (arguments : List String) : Bool :=
  (arguments.takeWhile (· != "--")).any fun argument => (grammar.classify argument).isAmbiguous

/-- What an argument with a switch comes down to. -/
structure Instructions (σ : Type) where
  /-- Effects in order. -/
  effects : List (σ → Except Stop σ)
  /-- Use of the next argument, if the last switch takes a value and none is attached. -/
  pending : Option (Entry String → σ → Option σ)

namespace Instructions

/-- Let a switch accept what is given behind it. -/
def accept (take : Entry String → σ → Option σ) (entry : Entry String) (values : σ) :
    Except Stop σ :=
  match take entry values with
  | some values => .ok values
  | none => .error .usage

/-- A switch with nothing attached. -/
def bare (called : Switch σ) : Instructions σ :=
  match called.effect with
  | .change apply => ⟨[fun values => .ok (apply values)], none⟩
  | .take accept => ⟨[], some accept⟩
  | .help => ⟨[fun _ => .error .help], none⟩

/-- A switch with text attached: its value, or further short names.  All names are looked up before
anything is done. -/
def attached (grammar : Grammar σ) (called : Switch σ) (short : Bool) (text : List Char) :
    Except Stop (Instructions σ) :=
  match called.effect, text with
  | .take take, text => .ok ⟨[accept take (.ofAttached (String.ofList text))], none⟩
  | _, [] => .error .usage
  | _, first :: rest =>
      match grammar.find? (String.ofList ['-', first]) with
      | none => .error .usage
      | some next =>
          let further :=
            if !short then .error .usage
            else if rest.isEmpty then .ok (bare next)
            else attached grammar next true rest
          further.map fun further =>
            { further with effects := (bare called).effects ++ further.effects }

/-- The instructions of a switch. -/
def ofSwitch (grammar : Grammar σ) (called : Switch σ) :
    Option Attachment → Except Stop (Instructions σ)
  | none => .ok (bare called)
  | some attachment => attached grammar called attachment.short attachment.text

end Instructions

/-- What the next argument may be. -/
inductive Expectation (σ : Type) where
  /-- Anything. -/
  | any
  /-- An operand, whatever it looks like. -/
  | operand
  /-- The value of a switch; effects that were held back. -/
  | value (effects : List (σ → Except Stop σ)) (take : Entry String → σ → Option σ)

/-- What was read from some arguments. -/
structure Reading (σ : Type) where
  /-- The values of all switches. -/
  values : σ
  /-- The operands in order. -/
  operands : List String
  /-- What the next argument may be. -/
  expectation : Expectation σ
  /-- Whether the last argument was an operand. -/
  atOperand : Bool
  /-- Whether some argument has no meaning. -/
  surplus : Bool

namespace Reading

/-- Nothing read so far. -/
def start (values : σ) : Reading σ where
  values := values
  operands := []
  expectation := .any
  atOperand := false
  surplus := false

/-- Carry out effects in order. -/
def perform (effects : List (σ → Except Stop σ)) (values : σ) : Except Stop σ :=
  effects.foldlM (fun values effect => effect values) values

/-- Read a double dash.  It has to stand directly before or behind an operand. -/
def separate (grammar : Grammar σ) (reading : Reading σ) : Except Stop (Reading σ) :=
  match grammar.operands with
  | .command => .error .usage
  | .values count =>
      let placed := reading.operands.length < count || reading.atOperand
      .ok { reading with
        expectation := .operand
        atOperand := false
        surplus := reading.surplus || !placed }

/-- Read an operand. -/
def addOperand (grammar : Grammar σ) (reading : Reading σ) (argument : String) : Reading σ :=
  let operands := reading.operands ++ [argument]
  let (expectation, surplus) := match grammar.operands with
    | .command => (.operand, false)
    | .values count => (reading.expectation, operands.length > count)
  { reading with
    operands := operands
    expectation := expectation
    atOperand := true
    surplus := reading.surplus || surplus }

/-- Read a switch. -/
def addSwitch (grammar : Grammar σ) (reading : Reading σ) (called : Switch σ)
    (attachment : Option Attachment) : Except Stop (Reading σ) := do
  let instructions ← Instructions.ofSwitch grammar called attachment
  let reading := { reading with atOperand := false }
  match instructions.pending with
  | some take => return { reading with expectation := .value instructions.effects take }
  | none => return { reading with values := ← perform instructions.effects reading.values }

/-- Read one argument. -/
def step (grammar : Grammar σ) (reading : Reading σ) (argument : String) :
    Except Stop (Reading σ) :=
  match reading.expectation with
  | .operand => .ok (reading.addOperand grammar argument)
  | .value effects take =>
      match argument, grammar.classify argument with
      | "--", _ => .error .usage
      | text, .value => do
          let values ← perform effects reading.values
          return { reading with
            values := ← Instructions.accept take (.given text) values
            expectation := .any }
      | _, _ => .error .usage
  | .any =>
      match argument, grammar.classify argument with
      | "--", _ => reading.separate grammar
      | text, .value => .ok (reading.addOperand grammar text)
      | _, .switch called attachment => reading.addSwitch grammar called attachment
      | _, .unknown => .ok { reading with atOperand := false, surplus := true }
      | _, .ambiguous => .error .usage

end Reading

/-- The values of all switches, whether some argument has no meaning, and the operands. -/
def readLeniently (grammar : Grammar σ) (values : σ) (arguments : List String) :
    Except Stop (σ × Bool × List String) := do
  if grammar.hasAmbiguous arguments then throw .usage
  let reading ← arguments.foldlM (Reading.step grammar) (Reading.start values)
  match reading.expectation with
  | .value _ _ => throw .usage
  | _ => return (reading.values, reading.surplus, reading.operands)

/-- The values of all switches and the operands, if every argument has a meaning. -/
def read (grammar : Grammar σ) (values : σ) (arguments : List String) :
    Except Stop (σ × List String) := do
  let (values, surplus, operands) ← grammar.readLeniently values arguments
  if surplus then throw .usage else return (values, operands)

end Grammar
end Xmodem.CommandLine
