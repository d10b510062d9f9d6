/-!
# Arguments

A command line names a command and gives it options and at most one plain argument. Flags that
all commands share may stand before the command or behind its name. Arguments are looked at one
by one, and the first that is wrong or that asks for help ends the reading.
-/

namespace CrudScaffold.CommandLine

/-- What the program can be asked to do. -/
inductive Command
  /-- Generates a project from a diagram. -/
  | generate (source name : String) (out : Option String) (listOnly : Bool)
  /-- Lists the stored diagrams. -/
  | list
  /-- Stores a diagram. -/
  | store (file : String) (name : Option String)
  /-- Removes a stored diagram. -/
  | remove (name : String)
  /-- Prints the schema of diagrams. -/
  | schema
  /-- Completes the settings of a project. -/
  | init
deriving Repr, DecidableEq

/-- A command with the flags that all commands share. -/
structure Invocation where
  quiet : Bool
  verbose : Bool
  command : Command
deriving Repr, DecidableEq

/-- Why a command line names no command to carry out. -/
inductive Stop
  | misuse
  | help
  | version
deriving Repr, DecidableEq

/-! ### Parameters -/

/-- What is given behind an option or as a plain argument. -/
inductive Kind
  | text
  /-- A path, which is not empty. -/
  | path
deriving Repr, DecidableEq

/-- What an option does. -/
inductive Effect
  | flag
  | value (kind : Kind)
  | stop (s : Stop)
deriving Repr, DecidableEq

/-- An option. -/
structure Parameter where
  short : Option Char
  long : String
  effect : Effect
deriving Repr, DecidableEq

/-- What a command takes. -/
structure Signature where
  parameters : List Parameter
  /-- The kind of the plain argument, if there is one. -/
  plain : Option Kind
deriving Repr, DecidableEq

/-- The options that all commands share. -/
def common : List Parameter :=
  [⟨some 'q', "quiet", .flag⟩, ⟨some 'v', "verbose", .flag⟩, ⟨some 'h', "help", .stop .help⟩]

/-- The options in front of a command. -/
def leading : Signature := ⟨common ++ [⟨some 'V', "version", .stop .version⟩], none⟩

/-- What a command takes, if there is a command of a name. -/
def signature? : String → Option Signature
  | "generate" => some ⟨common ++ [⟨some 'n', "name", .value .text⟩,
      ⟨some 'o', "out", .value .path⟩, ⟨none, "list", .flag⟩], some .text⟩
  | "store" => some ⟨common ++ [⟨none, "as", .value .text⟩], some .path⟩
  | "remove" => some ⟨common, some .text⟩
  | "list" | "schema" | "init" => some ⟨common, none⟩
  | _ => none

/-! ### Reading -/

/-- Something that is given. -/
inductive Given
  | flag (long : String)
  | value (long : String) (kind : Kind) (text : String)
  | plain (text : String)
deriving Repr, DecidableEq

/-- The option of something that is given. -/
def Given.option? : Given → Option String
  | .flag long => some long
  | .value long _ _ => some long
  | .plain _ => none

/-- A text can be given for a kind. -/
def Kind.accepts (k : Kind) (s : String) : Bool := k == .text || !s.isEmpty

/-- Adds something to what is given. An option is given once, and so is a plain argument. -/
def Signature.add (sig : Signature) (all : List Given) (g : Given) : Except Stop (List Given) :=
  let repeated := all.any fun other => other.option? == g.option?
  let accepted := match g with
    | .flag _ => true
    | .value _ kind s => kind.accepts s
    | .plain s => (sig.plain.map (·.accepts s)).getD false
  if accepted && !repeated then .ok (all ++ [g]) else .error .misuse

/-- What an argument turns out to be. -/
inductive Reading
  /-- Options are given in full. -/
  | done (all : List Given)
  /-- An option waits for its value. -/
  | waiting (all : List Given) (long : String) (kind : Kind)

/-- The text behind an equals sign. -/
def attached? : List Char → Option String
  | '=' :: rest => some (String.ofList rest)
  | _ => none

/-- Reads an argument that begins with two dashes, without them. -/
def Signature.long (sig : Signature) (all : List Given) (cs : List Char) : Except Stop Reading :=
  let name := String.ofList (cs.takeWhile (· ≠ '='))
  let value := attached? (cs.dropWhile (· ≠ '='))
  match sig.parameters.find? (·.long == name), value with
  | some ⟨_, _, .stop s⟩, none => .error s
  | some ⟨_, long, .flag⟩, none => .done <$> sig.add all (.flag long)
  | some ⟨_, long, .value kind⟩, some s => .done <$> sig.add all (.value long kind s)
  | some ⟨_, long, .value kind⟩, none => .ok (.waiting all long kind)
  | _, _ => .error .misuse

/-- Reads an argument that begins with one dash, without it. -/
def Signature.short (sig : Signature) (all : List Given) : List Char → Except Stop Reading
  | [] => .ok (.done all)
  | c :: rest =>
    match sig.parameters.find? (·.short == some c) with
    | some ⟨_, _, .stop s⟩ => .error s
    | some ⟨_, long, .flag⟩ => do sig.short (← sig.add all (.flag long)) rest
    | some ⟨_, long, .value kind⟩ =>
      if rest.isEmpty then .ok (.waiting all long kind)
      else .done <$> sig.add all
        (.value long kind ((attached? rest).getD (String.ofList rest)))
    | none => .error .misuse

/-- An argument that begins with a dash and has more to it. -/
def isOption (s : String) : Bool :=
  match s.toList with
  | '-' :: _ :: _ => true
  | _ => false

/-- Reads an option. -/
def Signature.option (sig : Signature) (all : List Given) (s : String) : Except Stop Reading :=
  match s.toList with
  | '-' :: '-' :: cs => sig.long all cs
  | _ :: cs => sig.short all cs
  | [] => .error .misuse

/-- Reads the arguments of a command. Behind two dashes alone all of them are plain. -/
def Signature.read (sig : Signature) (all : List Given) : List String → Except Stop (List Given)
  | [] => .ok all
  | "--" :: rest => rest.foldlM (fun all s => sig.add all (.plain s)) all
  | s :: rest => do
    if !isOption s then sig.read (← sig.add all (.plain s)) rest
    else match ← sig.option all s with
      | .done all => sig.read all rest
      | .waiting all long kind =>
        match rest with
        | [] => .error .misuse
        | v :: rest =>
          if isOption v then .error .misuse
          else sig.read (← sig.add all (.value long kind v)) rest

/-- Reads the arguments up to the name of a command. -/
def readLeading (all : List Given) : List String → Except Stop (List Given × String × List String)
  | [] => .error .misuse
  | s :: rest => do
    if !isOption s then .ok (all, s, rest)
    else match ← leading.option all s with
      | .done all => readLeading all rest
      | .waiting .. => .error .misuse

/-! ### Commands -/

/-- The value of an option. -/
def valueOf (long : String) (all : List Given) : Option String :=
  all.findSome? fun
    | .value name _ s => if name = long then some s else none
    | _ => none

/-- The plain argument. -/
def plainOf (all : List Given) : Option String :=
  all.findSome? fun
    | .plain s => some s
    | _ => none

/-- The command of a name with what is given to it, if nothing is missing. -/
def command? (name : String) (all : List Given) : Option Command :=
  match name with
  | "generate" => do
    return .generate (← plainOf all) (← valueOf "name" all) (valueOf "out" all)
      (all.contains (.flag "list"))
  | "list" => some .list
  | "store" => do return .store (← plainOf all) (valueOf "as" all)
  | "remove" => do return .remove (← plainOf all)
  | "schema" => some .schema
  | "init" => some .init
  | _ => none

/-- What asking for help comes to: help on everything or on one command. -/
def helpOn : List String → Stop
  | [] => .help
  | [name] => if name = "help" || (signature? name).isSome then .help else .misuse
  | _ => .misuse

/-- Reads a command line. -/
def Invocation.ofArguments (arguments : List String) : Except Stop Invocation := do
  let (before, name, rest) ← readLeading [] arguments
  if name = "help" then .error (helpOn rest)
  else match signature? name with
    | none => .error .misuse
    | some sig =>
      let all ← sig.read [] rest
      match command? name all with
      | none => .error .misuse
      | some command =>
        let given (flag : String) := before.contains (.flag flag) || all.contains (.flag flag)
        .ok { quiet := given "quiet", verbose := given "verbose", command }

end CrudScaffold.CommandLine
