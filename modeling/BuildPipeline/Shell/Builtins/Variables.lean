import BuildPipeline.Shell.Builtins.Basic

/-!
Commands for variables, functions, aliases, options and arguments.
-/
namespace BuildPipeline.Shell.Builtins

def listing (before : String) (shown : Variable → Bool) (s : State) : String :=
  String.join <| s.bindings.entries.filterMap fun e =>
    if shown e.2 then
      let value := (e.2.value.map fun v => "=" ++ quoted v).getD ""
      some (before ++ e.1 ++ value ++ "\n")
    else none

/-- Marks variables, which may be assigned with it, or lists those that are marked. -/
def marking (name : String) (shown : Variable → Bool) (mark : String → State → State) : Builtin :=
  withOptions "p" "" fun options s =>
    let s := s.withStatus 0
    if options.has 'p' || options.operands.isEmpty then
      emitText (listing (name ++ " ") shown s) s
    else
      eachArgument (fun a s =>
        let (name, value) := splitAssignment a
        if !isName name then s.abort (name ++ ": bad variable name")
        else match value with
          | none => mark name s
          | some v =>
            let s := s.store name v
            if s.isRunning then mark name s else s)
        options.operands s

def exporting : Builtin :=
  marking "export" (fun v => v.exported) fun name s => s.markExported name

def protecting : Builtin :=
  marking "readonly" (fun v => v.fixed) fun name s => s.markFixed name

def save (name : String) (s : State) : State :=
  match s.frames with
  | [] => s
  | frame :: more => { s with frames := ((name, s.bindings.get? name) :: frame) :: more }

def localize : Builtin := fun arguments s =>
  if s.frames.isEmpty then s.abort "not in a function"
  else
    eachArgument (fun a s =>
      let (name, value) := splitAssignment a
      if name = "-" then s
      else if !isName name then s.abort (name ++ ": bad variable name")
      else match value with
        | some v => (save name s).store name v
        | none => save name s)
      arguments (s.withStatus 0)

def unset : Builtin := withOptions "vf" "" fun options s =>
  let ofFunctions := options.last? "vf" = some 'f'
  eachArgument (fun a s =>
    if ofFunctions then
      { s with functions := .ofList (s.functions.entries.filter fun e => e.1 ≠ a) }
    else if !isName a then s.abort (a ++ ": bad variable name")
    else if s.isFixed a then s.abort (a ++ ": is read only")
    else s.unset a)
    options.operands (s.withStatus 0)

/-! ### Options and arguments -/

/-- Options by name, with their letters if they have one. -/
def optionNames : List (String × Option Char) :=
  [("errexit", some 'e'), ("noglob", some 'f'), ("ignoreeof", some 'I'), ("interactive", some 'i'),
    ("monitor", some 'm'), ("noexec", some 'n'), ("stdin", some 's'), ("xtrace", some 'x'),
    ("verbose", some 'v'), ("vi", some 'V'), ("emacs", some 'E'), ("noclobber", some 'C'),
    ("allexport", some 'a'), ("notify", some 'b'), ("nounset", some 'u'), ("privileged", some 'p'),
    ("nolog", none), ("debug", none)]

def turn (value : Bool) (letter : Char) (s : State) : State :=
  let others := s.options.filter (· ≠ letter)
  { s with options := if value then letter :: others else others }

def turnLetter (value : Bool) (letter : Char) (s : State) : State :=
  if State.optionLetters.contains letter then turn value letter s
  else s.abort ("Illegal option -" ++ letter.toString)

def turnNamed (value : Bool) (name : String) (s : State) : State :=
  match optionNames.lookup name with
  | some (some letter) => turn value letter s
  | some none => s
  | none => s.abort ("Illegal option " ++ (if value then "-o " else "+o ") ++ name)

/-- How all options stand: as a table, or as commands. -/
def optionTable (asTable : Bool) (s : State) : String :=
  let isOn (letter : Option Char) : Bool := letter.any s.isOn
  let line (o : String × Option Char) : String :=
    if asTable then
      o.1 ++ String.ofList (List.replicate (16 - o.1.length) ' ') ++
        (if isOn o.2 then "on" else "off") ++ "\n"
    else "set " ++ (if isOn o.2 then "-o " else "+o ") ++ o.1 ++ "\n"
  (if asTable then "Current option settings\n" else "") ++ String.join (optionNames.map line)

/-- Letters of one argument; each o among them takes a name, or shows how options stand. -/
def setLetters (value : Bool) : List Char → List String → State → List String × State
  | [], rest, s => (rest, s)
  | 'o' :: cs, name :: rest, s => setLetters value cs rest (turnNamed value name s)
  | 'o' :: cs, [], s => setLetters value cs [] (emitText (optionTable value s) s)
  | c :: cs, rest, s => setLetters value cs rest (turnLetter value c s)

/-- Options, and then new arguments if any are given. -/
def setOptions (budget : Nat) (arguments : List String) (s : State) : State :=
  match budget, arguments with
  | 0, _ | _, [] => s
  | _ + 1, "--" :: rest => s.setArguments rest
  | _ + 1, "-" :: rest =>
    let s := turn false 'x' (turn false 'v' s)
    if rest.isEmpty then s else s.setArguments rest
  | n + 1, a :: rest =>
    let go (value : Bool) (cs : List Char) : State :=
      let (rest, s) := setLetters value cs rest s
      if s.isRunning then setOptions n rest s else s
    match a.toList with
    | '-' :: cs => go true cs
    | '+' :: cs => go false cs
    | _ => s.setArguments (a :: rest)

def set : Builtin := fun arguments s =>
  let s := s.withStatus 0
  if arguments.isEmpty then emitText (listing "" (fun v => v.value.isSome) s) s
  else
    let s := setOptions (arguments.length + 1) arguments s
    if s.isRunning && s.isOn 'm' then
      { s with options := s.options.filter (· ≠ 'm') }.complain
        "can't access tty; job control turned off"
    else s

def shift : Builtin := fun arguments s =>
  match number? (arguments.headD "1") with
  | none => illegalNumber (arguments.headD "") s
  | some n =>
    if s.arguments.length < n then s.abort "can't shift that many"
    else (s.setArguments (s.arguments.drop n)).withStatus 0

/-! ### Aliases -/

def aliasText (name text : String) : String := name ++ "=" ++ quoted text ++ "\n"

/-- Sets aliases, or shows them. -/
def aliases : Builtin := fun arguments s =>
  let s := s.withStatus 0
  if arguments.isEmpty then
    emitText (String.join (s.aliases.entries.map fun e => aliasText e.1 e.2)) s
  else
    eachArgument (fun a s =>
      match splitAssignment a with
      | ("", _) | (_, none) => match s.aliases.get? a with
        | some text => emitText (aliasText a text) s
        | none => (s.say 2 ("alias: " ++ a ++ " not found\n")).withStatus 1
      | (name, some text) => { s with aliases := s.aliases.insert name text })
      arguments s

def unalias : Builtin := withOptions "a" "" fun options s =>
  let s := s.withStatus 0
  if options.has 'a' then { s with aliases := .empty }
  else
    eachArgument (fun a s =>
      if (s.aliases.get? a).isNone then
        (s.say 2 ("unalias: " ++ a ++ " not found\n")).withStatus 1
      else { s with aliases := .ofList (s.aliases.entries.filter fun e => e.1 ≠ a) })
      options.operands s

/-! ### Arguments with options -/

/-- What was found among arguments: a letter, its value if one is to be kept, and how it is told. -/
structure FoundOption where
  letter : Char
  value : Option String := none
  complaint : String := ""

/-- Whether a letter takes a value, if it is known at all. -/
def takesValue? (known : List Char) (letter : Char) : Option Bool :=
  match known with
  | [] => none
  | c :: rest =>
    let valued := rest.head? = some ':'
    if c = letter then some valued
    else takesValue? (if valued then rest.drop 1 else rest) letter
  termination_by known.length
  decreasing_by
    simp only [List.length_cons]
    split
    · have := List.length_drop (i := 1) (l := rest); omega
    · omega

/-- The next option among arguments, of which the one at `index` comes next and the one before it
has been read up to `place`. Also gives both of these for the time after. -/
def nextOption? (known : List Char) (arguments : List String) (index : Nat) (place : Option Nat) :
    Option FoundOption × Nat × Option Nat :=
  let left := match place with
    | some p => ((arguments[index - 2]?).getD "").toList.drop p
    | none => []
  let fresh := left.isEmpty || index ≤ 1
  let word := (arguments[index - 1]?).getD ""
  let left := if fresh then word.toList.drop 1 else left
  let place := if fresh then 1 else place.getD 1
  let after := if fresh then index + 1 else index
  if fresh && (!word.startsWith "-" || word.length ≤ 1) then (none, index, none)
  else if fresh && word = "--" then (none, after, none)
  else
    let quiet := known.head? = some ':'
    let letter := left.headD '?'
    let more := left.drop 1
    match takesValue? known letter with
    | none =>
      (some (if quiet then ⟨'?', some letter.toString, ""⟩
        else ⟨'?', none, "Illegal option -" ++ letter.toString ++ "\n"⟩), after, some (place + 1))
    | some false => (some ⟨letter, some "", ""⟩, after, some (place + 1))
    | some true =>
      if !more.isEmpty then (some ⟨letter, some (String.ofList more), ""⟩, after, none)
      else match arguments[after - 1]? with
        | some value => (some ⟨letter, some value, ""⟩, after + 1, none)
        | none =>
          (some (if quiet then ⟨':', some letter.toString, ""⟩
            else ⟨'?', none, "No arg for -" ++ letter.toString ++ " option\n"⟩), after, none)

def getopts : Builtin := fun arguments s =>
  match arguments with
  | known :: name :: given =>
    let given := if given.isEmpty then s.arguments else given
    let (index, place) := if given.length + 1 < s.optionIndex then (1, none)
      else (s.optionIndex, s.optionPlace)
    let (found, index, place) := nextOption? known.toList given index place
    let s := match found with
      | some ⟨_, some value, _⟩ => s.store "OPTARG" value
      | some ⟨_, none, complaint⟩ => (s.say 2 complaint).unset "OPTARG"
      | none => s
    let s := s.assign "OPTIND" (toString index)
    if !isName name then s.abort (name ++ ": bad variable name")
    else
      let s := s.store name ((found.map (·.letter)).getD '?').toString
      { s.withStatus (if !s.isRunning then s.status else if found.isSome then 0 else 1) with
        optionIndex := index, optionPlace := place }
  | _ => s.abort "Usage: getopts optstring var [arg...]"

end BuildPipeline.Shell.Builtins
