/-!
Permissions of files: nine bits, for the owner, the group and others to read, write and run. They
are given in octal or as changes such as u=rw,go-w.
-/
namespace BuildPipeline.Shell.Permission

/-- All permissions. -/
def all : Nat := 511

def isOctal (c : Char) : Bool := '0' ≤ c && c ≤ '7'

/-- The number that octal digits stand for. -/
def octal? (text : String) : Option Nat :=
  if !text.isEmpty && text.toList.all isOctal then
    some (text.toList.foldl (fun n c => n * 8 + (c.toNat - 48)) 0)
  else none

/-- At least so many octal digits. -/
def octalText (width n : Nat) : String :=
  let ds := Nat.toDigits 8 n
  String.ofList (List.replicate (width - ds.length) '0' ++ ds)

def whoBits (c : Char) : Nat :=
  match c with
  | 'u' => 448
  | 'g' => 56
  | 'o' => 7
  | 'a' => all
  | _ => 0

def permissionBits (c : Char) : Nat :=
  match c with
  | 'r' => 292
  | 'w' => 146
  | 'x' | 'X' => 73
  | _ => 0

def joinBits (bits : List Nat) : Nat := bits.foldl (· ||| ·) 0

def without (mode bits : Nat) : Nat := mode - (mode &&& bits)

def changes (budget : Nat) (who mode : Nat) (cs : List Char) : Option Nat :=
  match budget, cs with
  | _, [] => some mode
  | 0, _ => none
  | n + 1, sign :: rest =>
    let letters := rest.takeWhile "rwxXst".toList.contains
    let bits := joinBits (letters.map permissionBits) &&& who
    let rest := rest.drop letters.length
    match sign with
    | '+' => changes n who (mode ||| bits) rest
    | '-' => changes n who (without mode bits) rest
    | '=' => changes n who (without mode who ||| bits) rest
    | _ => none

/-- Carries out one change. Where it is not said whose permissions change, those of all do, as far
as `otherwise` goes. -/
def change (otherwise mode : Nat) (text : String) : Option Nat :=
  let who := text.toList.takeWhile "ugoa".toList.contains
  let rest := text.toList.drop who.length
  if rest.isEmpty then none
  else
    changes (rest.length + 1) (if who.isEmpty then otherwise else joinBits (who.map whoBits)) mode
      rest

def apply (otherwise mode : Nat) (text : String) : Option Nat :=
  match octal? text with
  | some n => some n
  | none => (text.splitOn ",").foldlM (change otherwise) mode

def letters (bits : Nat) : String :=
  String.ofList ([('r', 4), ('w', 2), ('x', 1)].filterMap fun p =>
    if bits &&& p.2 = 0 then none else some p.1)

def columns (mode : Nat) : String :=
  String.ofList (((List.range 9).zip "rwxrwxrwx".toList).map fun p =>
    if (mode >>> (8 - p.1)) % 2 = 0 then '-' else p.2)

def symbolic (mode : Nat) : String :=
  "u=" ++ letters (mode / 64 % 8) ++ ",g=" ++ letters (mode / 8 % 8) ++ ",o=" ++ letters (mode % 8)

end BuildPipeline.Shell.Permission
