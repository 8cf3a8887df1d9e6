import BuildPipeline.Glob.Reader

/-!
Which paths a pattern matches. Matching goes by bytes, and a slash is a byte like any other. Tokens
are followed one after another from all the places that the ones before them lead to, so that no
pattern takes longer than its length times the length of the text.
-/
namespace BuildPipeline.Glob

abbrev Bytes := List UInt8

def bytesOf (c : Char) : Bytes := String.utf8EncodeChar c

def slash : UInt8 := 0x2F

/-- The byte ranges of a class. Only the bytes next to a hyphen make a range. -/
def byteRanges : List (Char × Char) → List (UInt8 × UInt8)
  | [] => []
  | (first, last) :: rest =>
    let single (bs : Bytes) := bs.map fun b => (b, b)
    let own :=
      if first = last then single (bytesOf first)
      else
        let a := bytesOf first
        let b := bytesOf last
        single a.dropLast ++ [(a.getLastD 0, b.headD 0)] ++ single (b.drop 1)
    own ++ byteRanges rest

def inClass (negated : Bool) (ranges : List (Char × Char)) (b : UInt8) : Bool :=
  negated != (byteRanges ranges).any fun r => r.1 ≤ b && b ≤ r.2

/-- For each place in a text, from before its first byte to after its last, whether it is reached.
-/
abbrev Places := List Bool

def advance (isKind : UInt8 → Bool) (text : Bytes) (places : Places) : Places :=
  false :: (places.zip text).map fun p => p.1 && isKind p.2

def spread (reached : Bool) : Places → Places
  | [] => []
  | p :: rest => (reached || p) :: spread (reached || p) rest

def union (a b : Places) : Places := List.zipWith (· || ·) a b

def afterSlash (text : Bytes) (places : Places) : Places := advance (· == slash) text places

def afterBytes (bs text : Bytes) (places : Places) : Places :=
  bs.foldl (fun places b => advance (· == b) text places) places

def afterFolders (text : Bytes) (places : Places) : Places :=
  union places (afterSlash text (spread false places))

mutual
/-- Whether a branch has nothing to match; such a branch of a group is left out. -/
def isBlank : List Token → Bool
  | [] => true
  | t :: rest => isBlankToken t && isBlank rest

def isBlankToken : Token → Bool
  | .alternates branches => allBlank branches
  | _ => false

def allBlank : List (List Token) → Bool
  | [] => true
  | b :: rest => isBlank b && allBlank rest
end

mutual
def follow (text : Bytes) : List Token → Places → Places
  | [], places => places
  | t :: rest, places => follow text rest (followToken text t places)

def followToken (text : Bytes) : Token → Places → Places
  | .literal c, places => afterBytes (bytesOf c) text places
  | .any, places => advance (fun _ => true) text places
  | .zeroOrMore, places => spread false places
  | .recursiveStart, places => afterFolders text places
  | .recursiveEnd, places => spread false (afterSlash text places)
  | .recursiveBetween, places => afterFolders text (afterSlash text places)
  | .oneOf negated ranges, places => advance (inClass negated ranges) text places
  | .alternates branches, places =>
    if allBlank branches then places else followSome text branches places

def followSome (text : Bytes) : List (List Token) → Places → Places
  | [], places => places.map fun _ => false
  | b :: rest, places =>
    if isBlank b then followSome text rest places
    else union (follow text b places) (followSome text rest places)
end

/-- Whether the tokens match the whole text; two stars alone match anything. -/
def isMatch (tokens : List Token) (path : String) : Bool :=
  match tokens with
  | [.recursiveStart] => true
  | tokens =>
    let text := path.toUTF8.toList
    (follow text tokens (true :: text.map fun _ => false)).getLastD false

end BuildPipeline.Glob
