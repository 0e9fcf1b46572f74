import IndentLint.Text.Numeral
import IndentLint.Text.Quoted

/-! Reading arguments against a grammar of options and operands. Every argument is first put into
its class; then options take effect one after the other, so that the first that asks for help or
is at fault decides. -/
namespace IndentLint.CommandLine

inductive ValueFault where
  | notInteger (value : String)
  | notPositive (n : Int)
  | notChoice (value : String) (choices : List String)
  deriving DecidableEq, Repr

def ValueFault.message : ValueFault → String
  | .notInteger value => "expected an integer, got " ++ Text.quoted value
  | .notPositive n => s!"expected a positive integer, got {n}"
  | .notChoice value choices =>
    "invalid choice: " ++ Text.quoted value ++ " (choose from "
      ++ ", ".intercalate (choices.map Text.quoted) ++ ")"

inductive UsageFault where
  | ambiguous (argument : String) (names : List String)
  | missingValue (option : String)
  | unusedValue (option value : String)
  | badValue (argument : String) (fault : ValueFault)
  | missingOperand (name : String)
  | unrecognized (arguments : List String)
  deriving DecidableEq, Repr

def UsageFault.message : UsageFault → String
  | .ambiguous argument names =>
    "ambiguous option: " ++ argument ++ " could match " ++ ", ".intercalate names
  | .missingValue option => "argument " ++ option ++ ": expected one argument"
  | .unusedValue option value =>
    "argument " ++ option ++ ": ignored explicit argument " ++ Text.quoted value
  | .badValue argument fault => "argument " ++ argument ++ ": " ++ fault.message
  | .missingOperand name => "the following arguments are required: " ++ name
  | .unrecognized arguments => "unrecognized arguments: " ++ " ".intercalate arguments

inductive Stop where
  | help (page : String)
  | version
  | usage (program : String) (fault : UsageFault)
  deriving DecidableEq, Repr

/-- What an option does to what has been read so far. An option that takes a value can be used
without one: two hyphens attached to its name stand for none. -/
inductive Effect (α : Type) where
  | flag (set : α → α)
  | value (set : Option String → α → Except ValueFault α)
  | help
  | version

structure Opt (α : Type) where
  names : List String
  effect : Effect α

def Opt.title {α : Type} (o : Opt α) : String := "/".intercalate o.names

def Opt.takesValue {α : Type} (o : Opt α) : Bool :=
  match o.effect with
  | .value _ => true
  | _ => false

inductive Operand (α : Type) where
  | none
  | required (name : String) (set : String → α → α)
  | command (name : String) (choices : List String)

structure Grammar (α : Type) where
  program : String
  help : String
  options : List (Opt α)
  operand : Operand α

inductive Argument (α : Type) where
  | plain (s : String)
  | divider
  | unknown (s : String)
  | option (s name : String) (option : Opt α) (attached : Option (List Char))

namespace Argument

variable {α : Type}

def raw : Argument α → String
  | .plain s => s
  | .divider => "--"
  | .unknown s => s
  | .option s .. => s

def isDivider : Argument α → Bool
  | .divider => true
  | _ => false

end Argument

def splitEquals? (s : List Char) : Option (List Char × List Char) :=
  match s.dropWhile (· ≠ '=') with
  | _ :: value => some (s.takeWhile (· ≠ '='), value)
  | [] => none

def isNegativeNumber (s : List Char) : Bool :=
  let isDigit (c : Char) : Bool := (Text.Numeral.digitValue? c).isSome
  match s with
  | '-' :: rest =>
    let body := if rest.getLast? = some '\n' then rest.dropLast else rest
    match body.dropWhile isDigit with
    | [] => !body.isEmpty
    | '.' :: decimals => !decimals.isEmpty && decimals.all isDigit
    | _ => false
  | _ => false

namespace Grammar

variable {α : Type}

def named (g : Grammar α) : List (String × Opt α) :=
  g.options.flatMap fun o => o.names.map fun name => (name, o)

def find? (g : Grammar α) (name : List Char) : Option (Opt α) :=
  (g.named.find? fun n => n.1.toList = name).map (·.2)

def candidates (g : Grammar α) (s : List Char) : List (String × Opt α × Option (List Char)) :=
  match s with
  | '-' :: '-' :: _ =>
    let (stem, attached) := match splitEquals? s with
      | some (stem, value) => (stem, some value)
      | none => (s, none)
    (g.named.filter fun n => stem.isPrefixOf n.1.toList).map fun n => (n.1, n.2, attached)
  | _ => (g.named.filter fun n => n.1.toList = s.take 2).map fun n => (n.1, n.2, some (s.drop 2))

def inFull? (g : Grammar α) (s : List Char) : Option (List Char × Opt α × Option (List Char)) :=
  match g.find? s with
  | some o => some (s, o, none)
  | none => do
    let (stem, value) ← splitEquals? s
    let o ← g.find? stem
    some (stem, o, some value)

def classify (g : Grammar α) (s : String) : Except UsageFault (Argument α) :=
  match s.toList with
  | '-' :: c :: rest =>
    let cs := '-' :: c :: rest
    match g.inFull? cs with
    | some (name, o, attached) => .ok (.option s (String.ofList name) o attached)
    | none =>
      match g.candidates cs with
      | [(name, o, attached)] => .ok (.option s name o attached)
      | [] => .ok (if isNegativeNumber cs || cs.contains ' ' then .plain s else .unknown s)
      | several => .error (.ambiguous s (several.map (·.1)))
  | _ => .ok (.plain s)

def classifyAll (g : Grammar α) : List String → Except UsageFault (List (Argument α))
  | [] => .ok []
  | s :: rest =>
    if s = "--" then .ok (.divider :: rest.map .plain)
    else do
      let argument ← g.classify s
      .ok (argument :: (← classifyAll g rest))

end Grammar

abbrev Use (α : Type) := Opt α × Option String

structure Cluster (α : Type) where
  uses : List (Use α) := []
  waiting : Option (Opt α) := none

namespace Cluster

variable {α : Type}

def bare (o : Opt α) : Cluster α :=
  if o.takesValue then { waiting := some o } else { uses := [(o, none)] }

def after (o : Opt α) (c : Cluster α) : Cluster α := { c with uses := (o, none) :: c.uses }

def attachedValue (value : List Char) : Option String :=
  if value = ['-', '-'] then none else some (String.ofList value)

def attached (g : Grammar α) (o : Opt α) (letter : Bool) :
    List Char → Except UsageFault (Cluster α)
  | [] => if o.takesValue then .ok { uses := [(o, some "")] } else .error (.unusedValue o.title "")
  | c :: rest =>
    if o.takesValue then .ok { uses := [(o, attachedValue (c :: rest))] }
    else match if letter then g.find? ['-', c] else none with
      | none => .error (.unusedValue o.title (String.ofList (c :: rest)))
      | some next =>
        if rest.isEmpty then .ok (after o (bare next))
        else (attached g next true rest).map (after o)

def of (g : Grammar α) (name : String) (o : Opt α) : Option (List Char) → Except UsageFault (Cluster α)
  | none => .ok (bare o)
  | some value => attached g o (name.toList[1]? ≠ some '-') value

def close (c : Cluster α) (rest : List (Argument α)) :
    Except UsageFault (List (Use α) × List (Argument α)) :=
  match c.waiting with
  | none => .ok (c.uses, rest)
  | some o =>
    match rest with
    | .plain value :: rest => .ok (c.uses ++ [(o, some value)], rest)
    | _ => .error (.missingValue o.title)

theorem length_close_le {c : Cluster α} {rest : List (Argument α)} {r}
    (h : c.close rest = .ok r) : r.2.length ≤ rest.length := by
  unfold close at h
  split at h
  · cases h; exact Nat.le_refl _
  · split at h
    · cases h; exact Nat.le_succ _
    · cases h

end Cluster

structure Reading (α : Type) where
  value : α
  hasOperand : Bool := false
  command : Option (String × List String) := none
  extras : List String := []

def Reading.addExtra {α : Type} (r : Reading α) (s : String) : Reading α :=
  { r with extras := r.extras ++ [s] }

namespace Grammar

variable {α : Type}

def usage (g : Grammar α) (fault : UsageFault) : Stop := .usage g.program fault

def apply (g : Grammar α) (value : α) (use : Use α) : Except Stop α :=
  match use.1.effect with
  | .flag set => .ok (set value)
  | .value set => (set use.2 value).mapError fun fault => g.usage (.badValue use.1.title fault)
  | .help => .error (.help g.help)
  | .version => .error .version

def readFrom (g : Grammar α) (r : Reading α) : List (Argument α) → Except Stop (Reading α)
  | [] => .ok r
  | .unknown s :: rest => readFrom g (r.addExtra s) rest
  | .option _ name o attached :: rest =>
    match Cluster.of g name o attached with
    | .error fault => .error (g.usage fault)
    | .ok cluster =>
      match h : cluster.close rest with
      | .error fault => .error (g.usage fault)
      | .ok (uses, more) =>
        have : more.length ≤ rest.length := Cluster.length_close_le h
        match uses.foldlM g.apply r.value with
        | .error stop => .error stop
        | .ok value => readFrom g { r with value } more
  | .plain s :: rest =>
    match g.operand with
    | .none => readFrom g (r.addExtra s) rest
    | .required _ set =>
      if r.hasOperand then readFrom g (r.addExtra s) rest
      else
        have := (List.dropWhile_sublist Argument.isDivider (l := rest)).length_le
        readFrom g { r with value := set s r.value, hasOperand := true }
          (rest.dropWhile Argument.isDivider)
    | .command name choices =>
      if choices.contains s then .ok { r with command := some (s, rest.map Argument.raw) }
      else .error (g.usage (.badValue name (.notChoice s choices)))
  | .divider :: rest =>
    match g.operand with
    | .none => readFrom g (r.addExtra "--") rest
    | .required _ set =>
      if r.hasOperand then readFrom g (r.addExtra "--") rest
      else match rest with
        | .plain s :: more => readFrom g { r with value := set s r.value, hasOperand := true } more
        | _ => .ok (r.addExtra "--")
    | .command name choices =>
      if rest.isEmpty then .ok (r.addExtra "--")
      else .error (g.usage (.badValue name (.notChoice "--" choices)))
termination_by arguments => arguments.length

def read (g : Grammar α) (arguments : List String) (start : α) : Except Stop (Reading α) := do
  let classified ← (g.classifyAll arguments).mapError g.usage
  let r ← g.readFrom { value := start } classified
  match g.operand with
  | .required name _ => if r.hasOperand then .ok r else .error (g.usage (.missingOperand name))
  | _ => .ok r

end Grammar
end IndentLint.CommandLine
