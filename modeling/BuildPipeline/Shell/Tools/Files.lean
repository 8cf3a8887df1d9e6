import BuildPipeline.Shell.Permission
import BuildPipeline.Shell.Tools.Basic

/-!
Programs that make, remove, copy and name files and folders.
-/
namespace BuildPipeline.Shell.Tools

/-- The state after an operation on files, or a complaint about it. -/
def settle (status : Nat) (what : String) (outcome : FileSystem.Outcome Unit) (s : State) : State :=
  match outcome with
  | (.ok (), files) => { s with files := files }
  | (.error e, files) => complain (what ++ ": " ++ faultText e) status { s with files := files }

/-- Says what was done, if that is wanted. -/
def report (options : Options) (text : String) (s : State) : State :=
  if options.has 'v' then emitText (text ++ "\n") s else s

def needing (what : String) (rules : OptionRules) (run : Options → State → State) : Tool :=
  { rules := some rules
    run := fun options s =>
      if options.operands.isEmpty then misused ("missing " ++ what) 1 s else run options s }

def needingTwo (rules : OptionRules) (run : Options → State → State) : Tool :=
  needing "file operand" rules fun options s =>
    match options.operands, options.has 't' with
    | [a], false => misused ("missing destination file operand after " ++ inQuotes a) 1 s
    | _, _ => run options s

/-! ### Folders -/

def makeOne (options : Options) (p : String) (s : State) : State :=
  let before := s.files.existsAt ⟨p⟩
  let s := settle 1 ("cannot create directory " ++ inQuotes p) (s.files.makeFolder ⟨p⟩) s
  if before || !s.files.isFolder ⟨p⟩ then s
  else report options ("mkdir: created directory " ++ inQuotes p) s

/-- Makes a folder and those that it lies in, from the outermost on. -/
def makeChain (options : Options) : List String → State → State
  | [], s => s
  | p :: rest, s =>
    if s.files.isFolder ⟨p⟩ then makeChain options rest s
    else
      let blocked := s.files.existsAt ⟨p⟩ && !rest.isEmpty
      let s := if blocked then
          complain ("cannot create directory " ++ inQuotes p ++ ": Not a directory") 1 s
        else makeOne options p s
      if s.files.isFolder ⟨p⟩ then makeChain options rest s else s

def chain (p : String) : List String :=
  let segments := (Path.mk p).segments
  let root := if (Path.mk p).isAbsolute then "/" else ""
  (List.range' 1 segments.length).map fun n => root ++ (Path.ofNames (segments.take n)).text

def mkdir : Tool := needing "operand"
  { plain := "pv", valued := "m"
    long := [("parents", 'p'), ("verbose", 'v'), ("mode", 'm')] } fun options s =>
  eachOperand options.operands (fun p s =>
    if options.has 'p' && !p.isEmpty then makeChain options (chain p) s
    else makeOne options p s) s

def removeTree (p : String) (s : State) : State :=
  match s.files.locate (FileSystem.withoutEndSlash ⟨p⟩) .entry with
  | .ok place => { s with files := s.files.takeAway place.names }
  | .error _ => s

def removeFolder (options : Options) (p : String) (s : State) : State :=
  let failed (text : String) : State :=
    complain ("failed to remove " ++ inQuotes p ++ ": " ++ text) 1 s
  match s.files.list ⟨p⟩ with
  | .ok [] => removeTree p s
  | .ok _ => if options.has 'i' then s.withStatus 1 else failed "Directory not empty"
  | .error e => failed (faultText e)

def rmdir : Tool := needing "operand"
  { plain := "pvi"
    long := [("parents", 'p'), ("verbose", 'v'), ("ignore-fail-on-non-empty", 'i')] }
  fun options s =>
  eachOperand options.operands (fun p s =>
    let paths := if options.has 'p' then (chain p).reverse else [p]
    (paths.foldl
      (fun (r : State × Bool) p =>
        if !r.2 then r
        else
          let s := report options ("rmdir: removing directory, " ++ inQuotes p) r.1
          let after := removeFolder options p s
          (after, !after.files.existsAt ⟨p⟩))
      (s, true)).1) s

/-- What removing a tree says, the innermost first. -/
def removalReports (p : String) (n : Node) : List String :=
  let inner := (Node.descendants [] n).reverse.map fun e =>
    "removed " ++ (if e.2.isFolder then "directory " else "") ++
      inQuotes (p ++ "/" ++ (Path.ofNames e.1).text)
  inner ++ ["removed directory " ++ inQuotes p]

def removeOne (options : Options) (p : String) (s : State) : State :=
  let whole := options.has 'r' || options.has 'R'
  let failed (text : String) : State :=
    complain ("cannot remove " ++ inQuotes p ++ ": " ++ text) 1 s
  let last := ((Path.mk p).segments).getLast?
  match s.files.locate (FileSystem.withoutEndSlash ⟨p⟩) .entry with
  | .error e => if options.has 'f' && e = .notFound then s else failed (faultText e)
  | .ok ⟨_, none⟩ => if options.has 'f' then s else failed "No such file or directory"
  | .ok ⟨_, some (.folder entries)⟩ =>
    if !whole && !(options.has 'd' && entries.isEmpty) then
      failed (if options.has 'd' then "Directory not empty" else "Is a directory")
    else if last = some "." || last = some ".." then
      complain ("refusing to remove '.' or '..' directory: skipping " ++ inQuotes p) 1 s
    else
      (removalReports p (.folder entries)).foldl (fun s t => report options t s) (removeTree p s)
  | .ok ⟨_, some _⟩ => match s.files.stat ⟨p⟩ with
    | .error .notFolder => failed "Not a directory"
    | _ => report options ("removed " ++ inQuotes p) (removeTree p s)

def rm : Tool :=
  { rules := some {
      plain := "rRfdvi"
      long := [("recursive", 'r'), ("force", 'f'), ("dir", 'd'), ("verbose", 'v')] }
    run := fun options s =>
      if options.operands.isEmpty then
        if options.has 'f' then s else misused "missing operand" 1 s
      else eachOperand options.operands (removeOne options) s }

def touch : Tool := needing "file operand"
  { plain := "camh", valued := "dtr", long := [("no-create", 'c'), ("date", 'd')] } fun options s =>
  eachOperand options.operands (fun p s =>
    if s.files.existsAt ⟨p⟩ || options.has 'c' then s
    else if p.endsWith "/" then
      complain ("setting times of " ++ inQuotes p ++ ": No such file or directory") 1 s
    else settle 1 ("cannot touch " ++ inQuotes p) (s.files.writeText ⟨p⟩ "") s) s

/-! ### Copies and names -/

/-- The place for a copy: below a folder the name is kept. -/
def goal (s : State) (intoFolder : Bool) (source target : String) : String :=
  if intoFolder && s.files.isFolder ⟨target⟩ then
    (if target.endsWith "/" then target else target ++ "/") ++
      (((Path.mk source).segments).getLast?).getD ""
  else target

/-- Sources and their target; several sources need a folder. -/
def sourcesAndTarget (options : Options) (s : State) : Except String (List String × String) :=
  let (sources, target) := match options.value? 't' with
    | some target => (options.operands, target)
    | none => (options.operands.dropLast, options.operands.getLast?.getD "")
  if 1 < sources.length && !s.files.isFolder ⟨target⟩ then
    .error ("target " ++ inQuotes target ++ ": " ++
      (if s.files.existsAt ⟨target⟩ then "Not a directory" else "No such file or directory"))
  else .ok (sources, target)

/-- Puts entries into others: folders are joined, all else is replaced. -/
def merge (budget : Nat) (old new : Node) : Node :=
  match budget, old, new with
  | n + 1, .folder entries, .folder more =>
    .folder (more.foldl
      (fun entries e => Node.putEntry e.1
        (match Node.find? e.1 entries with
          | some below => merge n below e.2
          | none => e.2) entries)
      entries)
  | _, _, new => new

def isWithin (names outer : List String) : Bool := outer.isPrefixOf names

/-- What is copied: what a path leads to, or a link itself. -/
def copied (keepLinks : Bool) (p : String) (s : State) : Except IoError FileSystem.Place :=
  match s.files.locate ⟨p⟩ (if keepLinks then .entry else .target) with
  | .ok ⟨_, none⟩ => .error .notFound
  | r => r

def copyOne (options : Options) (source target : String) (s : State) : State :=
  let whole := options.has 'r' || options.has 'R' || options.has 'a'
  let keepLinks := whole || options.has 'd' || options.has 'P'
  let failed (text : String) : State := complain text 1 s
  let goal := goal s (!options.has 'T') source target
  let done (s : State) : State :=
    report options (inQuotes source ++ " -> " ++ inQuotes goal) s
  match copied keepLinks source s with
  | .error e => failed ("cannot stat " ++ inQuotes source ++ ": " ++ faultText e)
  | .ok ⟨names, some (.folder entries)⟩ =>
    if !whole then failed ("-r not specified; omitting directory " ++ inQuotes source)
    else match s.files.locate (FileSystem.withoutEndSlash ⟨goal⟩) .target with
      | .error e => failed ("cannot create directory " ++ inQuotes goal ++ ": " ++ faultText e)
      | .ok ⟨goalNames, there⟩ =>
        if isWithin goalNames names then
          failed ("cannot copy a directory, " ++ inQuotes source ++ ", into itself, " ++
            inQuotes goal)
        else match there with
          | some (.folder old) =>
            let merged := merge 1000 (.folder old) (.folder entries)
            done { s with files := s.files.put goalNames merged }
          | some _ => failed ("cannot overwrite non-directory " ++ inQuotes goal ++
              " with directory " ++ inQuotes source)
          | none => done { s with files := s.files.put goalNames (.folder entries) }
  | .ok ⟨names, some n⟩ =>
    match s.files.locate ⟨goal⟩ .creation with
    | .error .isFolder => failed ("cannot create regular file " ++ inQuotes goal ++
        ": Not a directory")
    | .error e => failed ((if e = .notFolder && s.files.existsAt ⟨target⟩ then "failed to access "
        else "cannot create regular file ") ++ inQuotes goal ++ ": " ++ faultText e)
    | .ok ⟨_, some (.folder _)⟩ => failed ("cannot overwrite directory " ++ inQuotes goal ++
        " with non-directory")
    | .ok ⟨goalNames, there⟩ =>
      if names = goalNames then
        failed (inQuotes source ++ " and " ++ inQuotes goal ++ " are the same file")
      else if options.has 'n' && there.isSome then s
      else match n, there with
        | .link _, _ => done { s with files := s.files.put goalNames n }
        | n, some (.device _) | n, some (.file ..) =>
          match store goal false ((n.content?.getD .empty).toList) s with
          | .ok s => done s
          | .error e => failed ("error writing " ++ inQuotes goal ++ ": " ++ faultText e)
        | .device _, _ =>
          done { s with files := s.files.put goalNames (.file (n.content?.getD .empty)) }
        | n, _ => done { s with files := s.files.put goalNames n }
  | .ok ⟨_, none⟩ => s

def cp : Tool := needingTwo
  { plain := "rRafpvnTudPLxi", valued := "tS"
    long := [("recursive", 'r'), ("archive", 'a'), ("force", 'f'), ("verbose", 'v'),
      ("no-clobber", 'n'), ("target-directory", 't'), ("no-target-directory", 'T'),
      ("no-dereference", 'P'), ("dereference", 'L'), ("update", 'u')] } fun options s =>
  match sourcesAndTarget options s with
  | .error text => complain text 1 s
  | .ok (sources, target) => eachOperand sources (fun p => copyOne options p target) s

def moveOne (options : Options) (source target : String) (s : State) : State :=
  let failed (text : String) : State := complain text 1 s
  let goal := goal s (!options.has 'T') source target
  let cannot (e : String) : State :=
    failed ("cannot move " ++ inQuotes source ++ " to " ++ inQuotes goal ++ ": " ++ e)
  match copied true source s with
  | .error e => failed ("cannot stat " ++ inQuotes source ++ ": " ++ faultText e)
  | .ok ⟨_, none⟩ => s
  | .ok ⟨names, some n⟩ =>
    let done (goalNames : List String) : State :=
      report options ("renamed " ++ inQuotes source ++ " -> " ++ inQuotes goal)
        { s with files := (s.files.takeAway names).put goalNames n }
    if goal.endsWith "/" && !n.isFolder && !s.files.isFolder ⟨goal⟩ then cannot "Not a directory"
    else match s.files.locate (FileSystem.withoutEndSlash ⟨goal⟩) .entry with
      | .error e => cannot (faultText e)
      | .ok ⟨goalNames, there⟩ =>
        if names = goalNames && !n.isFolder then
          failed (inQuotes source ++ " and " ++ inQuotes goal ++ " are the same file")
        else if n.isFolder && isWithin goalNames names then
          failed ("cannot move " ++ inQuotes source ++ " to a subdirectory of itself, " ++
            inQuotes goal)
        else match there, n with
          | some (.folder []), .folder _ => done goalNames
          | some (.folder _), .folder _ =>
            failed ("cannot overwrite " ++ inQuotes goal ++ ": Directory not empty")
          | some (.folder _), _ => failed ("cannot overwrite directory " ++ inQuotes goal ++
              " with non-directory")
          | some _, .folder _ => failed ("cannot overwrite non-directory " ++ inQuotes goal ++
              " with directory " ++ inQuotes source)
          | some _, _ => if options.has 'n' then s else done goalNames
          | none, _ => done goalNames

def mv : Tool := needingTwo
  { plain := "fnvTui", valued := "tS"
    long := [("force", 'f'), ("no-clobber", 'n'), ("verbose", 'v'), ("target-directory", 't'),
      ("no-target-directory", 'T')] } fun options s =>
  match sourcesAndTarget options s with
  | .error text => complain text 1 s
  | .ok (sources, target) => eachOperand sources (fun p => moveOne options p target) s

def linkOne (options : Options) (target place : String) (s : State) : State :=
  let failed (text : String) : State := complain text 1 s
  let symbolic := options.has 's'
  let kind := if symbolic then "symbolic link " else "hard link "
  let isFolder := s.files.isFolder ⟨place⟩ && !options.has 'T' && !(options.has 'n' &&
    (match s.files.locate ⟨place⟩ .entry with
      | .ok ⟨_, some (.link _)⟩ => true
      | _ => false))
  let goal := if isFolder then goal s true target place else place
  let arrow := if symbolic then " -> " else " => "
  let made (names : List String) (n : Node) : State :=
    report options (inQuotes goal ++ arrow ++ inQuotes target)
      { s with files := s.files.put names n }
  match (if symbolic then .ok (Node.link target) else s.files.stat ⟨target⟩),
    s.files.locate ⟨goal⟩ .entry with
  | .error e, _ => failed ("failed to access " ++ inQuotes target ++ ": " ++ faultText e)
  | .ok (.folder _), _ => failed (target ++ ": hard link not allowed for directory")
  | _, .error e => failed ("failed to create " ++ kind ++ inQuotes goal ++ ": " ++ faultText e)
  | .ok n, .ok ⟨names, there⟩ =>
    if there.isSome && !options.has 'f' then
      failed ("failed to create " ++ kind ++ inQuotes goal ++ ": File exists")
    else made names n

def ln : Tool := needing "file operand"
  { plain := "sfnvTrPL", valued := "tS"
    long := [("symbolic", 's'), ("force", 'f'), ("no-dereference", 'n'), ("verbose", 'v'),
      ("target-directory", 't'), ("no-target-directory", 'T')] } fun options s =>
  match options.operands, options.has 't' with
  | [a], false => linkOne options a "." s
  | _, _ => match sourcesAndTarget options s with
    | .error text => complain text 1 s
    | .ok (sources, target) => eachOperand sources (fun p => linkOne options p target) s

/-! ### Permissions and sizes -/

def modeOf : Node → Nat
  | .file _ true | .folder _ => 493
  | .link _ => Permission.all
  | .device _ => 438
  | .file _ false => 420

def isModeOption (a : String) : Bool :=
  match a.toList with
  | '-' :: c :: _ => "rwxXst".toList.contains c
  | _ => false

def chmodOne (whole : Bool) (change p : String) (s : State) : State :=
  match s.files.locate ⟨p⟩ .target with
  | .error e => complain ("cannot access " ++ inQuotes p ++ ": " ++ faultText e) 1 s
  | .ok ⟨_, none⟩ => complain ("cannot access " ++ inQuotes p ++ ": No such file or directory") 1 s
  | .ok ⟨names, some n⟩ =>
    let set (names : List String) (n : Node) (files : FileSystem) : FileSystem :=
      match n with
      | .file content _ =>
        let mode := (Permission.apply Permission.all (modeOf n) change).getD 0
        files.put names (.file content (mode &&& 73 ≠ 0))
      | _ => files
    let below := if whole then Node.descendants names n else []
    { s with files := ((names, n) :: below).foldl (fun files e => set e.1 e.2 files) s.files }

def chmod : Tool :=
  { run := fun options s =>
      let (flags, rest) := options.operands.partition fun a =>
        a.length > 1 && a.startsWith "-" && !isModeOption a
      let whole := flags.any fun f => f.toList.contains 'R'
      match rest with
      | [] => misused "missing operand" 1 s
      | [a] => misused ("missing operand after " ++ inQuotes a) 1 s
      | change :: paths =>
        if (Permission.apply Permission.all 0 change).isNone then
          misused ("invalid mode: " ++ inQuotes change) 1 s
        else eachOperand paths (chmodOne whole change) s }

def truncate : Tool :=
  { rules := some { plain := "co", valued := "sr", long := [("size", 's')] }
    run := fun options s =>
      match options.value? 's' with
      | none => misused "you must specify either '--size' or '--reference'" 1 s
      | some text => match size? text with
        | none => complain ("Invalid number: " ++ inQuotes text) 1 s
        | some size => eachOperand options.operands (fun p s =>
          let old := match s.files.readBytes ⟨p⟩ with
            | .ok content => content.toList
            | .error _ => []
          let bytes := old.take size ++ List.replicate (size - old.length) 0
          match store p false bytes s with
          | .ok s => s
          | .error e => complain ("cannot open " ++ inQuotes p ++ " for writing: " ++ faultText e) 1
              s) s }

def mktemp : Tool :=
  { rules := some { plain := "duqt", valued := "p", long := [("directory", 'd')] }
    run := fun options s =>
      let fresh (k : Nat) : String :=
        let ds := toString k
        String.ofList (List.replicate (10 - ds.length) '0') ++ ds
      let folder := (options.value? 'p').getD "/tmp"
      let name (k : Nat) : String := match options.operands with
        | [] => folder ++ "/tmp." ++ fresh k
        | pattern :: _ =>
          let kept := (pattern.toList.reverse.dropWhile (· = 'X')).reverse
          String.ofList (kept ++ (fresh k).toList.drop (10 - (pattern.length - kept.length)))
      match (List.range 1000).find? fun k => !s.files.existsAt ⟨name k⟩ with
      | none => s.withStatus 1
      | some k =>
        let outcome := if options.has 'd' then s.files.makeFolder ⟨name k⟩
          else s.files.writeText ⟨name k⟩ ""
        match outcome with
        | (.ok (), files) => emitText (name k ++ "\n") { s with files := files }
        | (.error e, _) =>
          complain ("failed to create file via template " ++ inQuotes (name k) ++ ": " ++
            faultText e) 1 s }

end BuildPipeline.Shell.Tools
