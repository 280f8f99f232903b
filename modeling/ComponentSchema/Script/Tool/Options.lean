import ComponentSchema.Script.Tool.Process

/-!
The options of tools.  An option is a letter behind a hyphen or a name behind two, which may be cut
short as long as it is clear which one is meant.  Options may stand behind operands unless a tool
says otherwise.
-/

namespace ComponentSchema.Script

/-- Whether an option has an argument. -/
inductive Demand where
  | nothing
  | argument
  /-- An argument may be joined to the option. -/
  | choice
deriving DecidableEq, Repr

/-- An option that a tool knows. -/
structure OptionForm where
  letters : List Char := []
  name : String := ""
  demand : Demand := .nothing
deriving DecidableEq, Repr

namespace OptionForm

/-- What an option is known by: its name, or else its letter. -/
def key (form : OptionForm) : String :=
  if form.name.isEmpty then String.ofList (form.letters.take 1) else form.name

/-- An option without argument. -/
def flag (letters name : String) : OptionForm := ⟨letters.toList, name, .nothing⟩

def valued (letters name : String) : OptionForm := ⟨letters.toList, name, .argument⟩

def loose (letters name : String) : OptionForm := ⟨letters.toList, name, .choice⟩

end OptionForm

/-- What can be wrong with options. -/
inductive OptionFault where
  | unknownLetter (letter : Char)
  | unknownName (argument : Text)
  | unclear (argument : Text) (names : List String)
  | missingForLetter (letter : Char)
  | missingForName (name : String)
  | needless (name : String)
deriving DecidableEq, Repr

def OptionFault.message : OptionFault → Text
  | .unknownLetter letter => "invalid option -- '".toList ++ [letter, '\'']
  | .unknownName argument => "unrecognized option '".toList ++ argument ++ ['\'']
  | .unclear argument names =>
    "option '".toList ++ argument ++ "' is ambiguous; possibilities:".toList ++
      names.flatMap fun name => (" '--" ++ name ++ "'").toList
  | .missingForLetter letter => "option requires an argument -- '".toList ++ [letter, '\'']
  | .missingForName name => ("option '--" ++ name ++ "' requires an argument").toList
  | .needless name => ("option '--" ++ name ++ "' doesn't allow an argument").toList

/-- Options that were given, by what they are known by, with their arguments. -/
abbrev Given := List (String × Text)

namespace Given

def has (given : Given) (key : String) : Bool := given.any fun option => option.1 == key

def last? (given : Given) (key : String) : Option Text := given.reverse.lookup key

def lastOf? (given : Given) (keys : List String) : Option String :=
  (given.reverse.find? fun option => keys.contains option.1).map Prod.fst

end Given

namespace Options

def shared : List OptionForm := [.flag "" "help", .flag "" "version"]

/-- The option that a name cut short stands for. -/
def named? (forms : List OptionForm) (argument name : Text) : Except OptionFault OptionForm :=
  let known := forms.filter fun form => !form.name.isEmpty
  match known.find? fun form => form.name.toList == name with
  | some form => .ok form
  | none =>
    match known.filter fun form => name.isPrefixOf form.name.toList with
    | [] => .error (.unknownName argument)
    | form :: others =>
      if others.all fun other => other.letters == form.letters && other.demand == form.demand &&
          !form.letters.isEmpty then .ok form
      else .error (.unclear argument ((form :: others).map OptionForm.name))

/-- The letters of an argument as options; the last of them may have the rest of the argument as its
own, or the next one. -/
def letters (forms : List OptionForm) (rest : List Text) :
    Text → Except OptionFault (Given × List Text)
  | [] => .ok ([], rest)
  | letter :: more =>
    match forms.find? fun form => form.letters.contains letter with
    | none => .error (.unknownLetter letter)
    | some form =>
      match form.demand with
      | .nothing => do
        let (given, rest) ← letters forms rest more
        pure ((form.key, [letter]) :: given, rest)
      | .choice => .ok ([(form.key, more)], rest)
      | .argument =>
        if !more.isEmpty then .ok ([(form.key, more)], rest)
        else
          match rest with
          | [] => .error (.missingForLetter letter)
          | value :: rest => .ok ([(form.key, value)], rest)

/-- A name as an option, with what is joined to it or the next argument. -/
def named (forms : List OptionForm) (rest : List Text) (argument : Text) :
    Except OptionFault (Given × List Text) := do
  let body := argument.drop 2
  let name := body.takeWhile (· != '=')
  let value? := if name.length < body.length then some (body.drop (name.length + 1)) else none
  let form ← named? forms argument name
  match form.demand, value? with
  | .nothing, some _ => throw (.needless form.name)
  | .nothing, none => pure ([(form.key, [])], rest)
  | .choice, _ => pure ([(form.key, value?.getD [])], rest)
  | .argument, some value => pure ([(form.key, value)], rest)
  | .argument, none =>
    match rest with
    | [] => throw (.missingForName form.name)
    | value :: rest => pure ([(form.key, value)], rest)

/-- Takes arguments apart into options and operands; there are at most so many.  Options behind an
operand only count if the tool lets them. -/
def split (forms : List OptionForm) (anywhere : Bool) :
    Nat → List Text → Except OptionFault (Given × List Text)
  | 0, rest => .ok ([], rest)
  | _, [] => .ok ([], [])
  | count + 1, argument :: rest =>
    match argument with
    | ['-', '-'] => .ok ([], rest)
    | '-' :: first :: more => do
      let (given, rest) ←
        if first = '-' then named forms rest argument else letters forms rest (first :: more)
      let (others, operands) ← split forms anywhere count rest
      pure (given ++ others, operands)
    | _ =>
      if anywhere then do
        let (others, operands) ← split forms anywhere count rest
        pure (others, argument :: operands)
      else .ok ([], argument :: rest)

/-- Takes arguments apart; a tool that is given an option it does not know ends. -/
def parse (forms : List OptionForm) (arguments : List Text) (status : Nat) (anywhere : Bool) :
    Tool (Given × List Text) :=
  match split (forms ++ shared) anywhere arguments.length arguments with
  | .ok (given, operands) =>
    if given.has "help" || given.has "version" then throw 0 else pure (given, operands)
  | .error fault => Tool.refuse status fault.message

/-- Takes arguments apart the way most tools do. -/
def usual (forms : List OptionForm) (arguments : List Text) : Tool (Given × List Text) :=
  parse forms arguments 1 true

/-- Takes arguments apart for a tool that tells of all options it does not know before it ends. -/
def parseAll (forms : List OptionForm) (arguments : List Text) : Tool (Given × List Text) := do
  let faults := arguments.filterMap fun argument =>
    match split (forms ++ shared) true 1 [argument] with
    | .error (.unknownLetter letter) => some (OptionFault.unknownLetter letter)
    | .error (.unknownName argument) => some (OptionFault.unknownName argument)
    | _ => none
  for fault in faults do Tool.complain fault.message
  if faults.isEmpty then usual forms arguments else Tool.suggestHelp 1

end Options

end ComponentSchema.Script
