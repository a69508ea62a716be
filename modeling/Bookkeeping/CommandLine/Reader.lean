import Bookkeeping.CommandLine.Value

namespace Bookkeeping.CommandLine

inductive Arity
  | flag
  | once (shape : Shape)
  | repeated (shape : Shape)
  deriving DecidableEq, Repr

namespace Arity

def isRepeated : Arity → Bool
  | .repeated _ => true
  | _ => false

def read? (a : Arity) (raw : String) : Option Given :=
  match a with
  | .flag => some .flag
  | .once shape => (shape.read? raw).map (.value shape)
  | .repeated shape => (shape.read? raw).map (.value shape)

end Arity

structure Parameter where
  name : String
  arity : Arity
  deriving DecidableEq, Repr

inductive Level (α : Type)
  | group (parameters : List Parameter) (levels : List (String × Level α))
  | leaf (parameters : List Parameter) (build : Values → Option α)

inductive UsageError
  | helpAsked
  | nothingSaid
  | missingSubcommand
  | unknownSubcommand
  | missingOption
  | unknownArgument
  | unreadableValue
  | missingValue
  | unneededValue
  | givenTwice
  deriving DecidableEq, Repr

def UsageError.isHelp : UsageError → Bool
  | .helpAsked => true
  | _ => false

def UsageError.message : UsageError → String
  | .helpAsked | .nothingSaid => "usage: household [--config NAME] SUBJECT ACTION [OPTIONS]"
  | .missingSubcommand => "a subcommand is missing"
  | .unknownSubcommand => "unknown subcommand"
  | .missingOption => "a required option is missing"
  | .unknownArgument => "unexpected argument"
  | .unreadableValue => "invalid value"
  | .missingValue => "an option needs a value"
  | .unneededValue => "a flag takes no value"
  | .givenTwice => "an option is given twice"

namespace Level

variable {α : Type}

def parameters : Level α → List Parameter
  | .group ps _ => ps
  | .leaf ps _ => ps

def isGroup : Level α → Bool
  | .group _ _ => true
  | .leaf _ _ => false

def level? (l : Level α) (name : String) : Option (Level α) :=
  match l with
  | .group _ levels => levels.lookup name
  | .leaf _ _ => none

def parameter? (l : Level α) (name : String) : Option Parameter :=
  l.parameters.find? (·.name == name)

def isSubcommand (l : Level α) (word : String) : Bool :=
  l.isGroup && (word == "help" || (l.level? word).isSome)

def misplaced (l : Level α) : UsageError :=
  if l.isGroup then .unknownSubcommand else .unknownArgument

def helpFor (l : Level α) : List String → UsageError
  | [] => .helpAsked
  | word :: rest =>
    match l.level? word with
    | some sub => sub.helpFor rest
    | none => if l.isGroup && word == "help" && rest.isEmpty then .helpAsked else .unknownSubcommand

end Level

inductive Word
  | plain
  | separator
  | long (name : String) (attached : Option String)
  | short (first : Char)
  deriving DecidableEq, Repr

def splitAtEquals (cs : List Char) : String × Option String :=
  (String.ofList (cs.takeWhile (· != '=')),
    match cs.dropWhile (· != '=') with
    | [] => none
    | _ :: value => some (String.ofList value))

def Word.ofText (s : String) : Word :=
  match s.toList with
  | ['-', '-'] => .separator
  | '-' :: '-' :: cs => let (name, attached) := splitAtEquals cs; .long name attached
  | '-' :: c :: _ => .short c
  | _ => .plain

structure Expected where
  name : String
  arity : Arity
  raw : Option String
  deriving DecidableEq, Repr

structure Heard where
  values : Values
  expected : Option Expected

namespace Heard

def silence : Heard := ⟨[], none⟩

def awaitsValue (h : Heard) : Bool := h.expected.any (·.raw.isNone)

/-- Takes an option in. One that is given twice is refused before its value is looked at. -/
def take (vs : Values) (name : String) (arity : Arity) (raw : String) : Except UsageError Values :=
  if vs.has name && !arity.isRepeated then .error .givenTwice
  else match arity.read? raw with
    | some given => .ok (vs ++ [(name, given)])
    | none => .error .unreadableValue

def settle (h : Heard) : Except UsageError Values :=
  match h.expected with
  | none => .ok h.values
  | some ⟨_, _, none⟩ => .error .missingValue
  | some ⟨name, arity, some raw⟩ => take h.values name arity raw

def long {α : Type} (h : Heard) (l : Level α) (name : String) (attached : Option String) :
    Except UsageError Heard :=
  match l.parameter? name, attached with
  | none, none =>
    if name == "help" then h.settle >>= fun _ => .error .helpAsked else .error .unknownArgument
  | none, some _ => .error (if name == "help" then .unneededValue else .unknownArgument)
  | some ⟨_, .flag⟩, some _ => .error .unneededValue
  | some ⟨_, .flag⟩, none => do .ok ⟨← take (← h.settle) name .flag "", none⟩
  | some ⟨_, arity⟩, some raw => do .ok ⟨← take (← h.settle) name arity raw, none⟩
  | some ⟨_, arity⟩, none => do .ok ⟨← h.settle, some ⟨name, arity, none⟩⟩

def hearValue (h : Heard) (raw : String) : Heard :=
  { h with expected := h.expected.map ({ · with raw := some raw }) }

end Heard

namespace Level

variable {α : Type}

def finish (l : Level α) (h : Heard) : Except UsageError (Values × α) := do
  let values ← h.settle
  match l with
  | .group _ _ => .error (if values.isEmpty then .nothingSaid else .missingSubcommand)
  | .leaf _ build =>
    match build values with
    | some a => .ok (values, a)
    | none => .error .missingOption

def finishSeparated (l : Level α) (h : Heard) : List String → Except UsageError (Values × α)
  | [] => l.finish h
  | word :: _ => .error (if l.isSubcommand word then .unknownArgument else l.misplaced)

def read (l : Level α) (h : Heard) : List String → Except UsageError (Values × α)
  | [] => l.finish h
  | word :: rest =>
    match Word.ofText word with
    | .separator => l.finishSeparated h rest
    | .long name attached => do read l (← h.long l name attached) rest
    | .short 'h' => h.settle >>= fun _ => .error .helpAsked
    | .short _ => .error .unknownArgument
    | .plain =>
      if h.awaitsValue then read l (h.hearValue word) rest
      else match l.level? word with
        | some sub => do
          let (inner, a) ← read sub .silence rest
          .ok ((← h.settle) ++ inner, a)
        | none => .error (if l.isSubcommand word then l.helpFor rest else l.misplaced)

end Level

end Bookkeeping.CommandLine
