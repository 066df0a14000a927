import ClipFeed.Json.Scan
/-!
Values that are read past without being kept. Their text must still be well formed, but numbers
may have any size, escapes need not pair up and bytes need not be UTF-8.
-/

namespace ClipFeed.Json

open Text

def skipString : (fuel : Nat) → Bytes → Except Stop Bytes
  | 0, bs => .error (stopAt .endInString bs)
  | _ + 1, [] => .error (stopAt .endInString [])
  | fuel + 1, b :: rest =>
    if b = 34 then .ok rest
    else if b = 92 then
      match rest with
      | [] => .error (stopAt .endInString [])
      | c :: rest =>
        if c = 117 then do
          let (_, rest) ← hex4 rest
          skipString fuel rest
        else if (shortEscape? c).isSome then skipString fuel rest
        else .error (stopAt .invalidEscape rest)
    else if b < 32 then .error (stopAt .controlCharacter (b :: rest))
    else skipString fuel rest

def skipExponent (bs : Bytes) : Except Stop Bytes :=
  let bs := match bs with
    | 43 :: rest | 45 :: rest => rest
    | rest => rest
  match bs with
  | [] => .error (stopAt .invalidNumber [])
  | b :: rest =>
    if isDigit b then .ok (rest.dropWhile isDigit) else .error (stopAt .invalidNumber rest)

def skipFraction (bs : Bytes) : Except Stop Bytes :=
  match bs with
  | 46 :: rest =>
    match rest.takeWhile isDigit, rest.dropWhile isDigit with
    | [], behind => .error (stopOn .invalidNumber behind)
    | _, 69 :: behind | _, 101 :: behind => skipExponent behind
    | _, behind => .ok behind
  | 69 :: rest | 101 :: rest => skipExponent rest
  | rest => .ok rest

def skipNumber : Bytes → Except Stop Bytes
  | [] => .error (stopAt .invalidNumber [])
  | b :: rest =>
    if b = 48 then
      match rest with
      | c :: _ => if isDigit c then .error (stopOn .invalidNumber rest) else skipFraction rest
      | [] => .ok []
    else if isDigit b then skipFraction (rest.dropWhile isDigit)
    else .error (stopAt .invalidNumber rest)

def skipName (bs : Bytes) : Except Stop Bytes :=
  match skipSpace bs with
  | 34 :: rest => do colon (← skipString (rest.length + 1) rest)
  | [] => .error (stopOn .endInObject [])
  | rest => .error (stopOn .keyMustBeString rest)

mutual

/-- The rest behind one value. -/
def skipValue : (fuel : Nat) → Bytes → Except Stop Bytes
  | 0, bs => .error (stopOn .endInValue bs)
  | fuel + 1, bs =>
    match skipSpace bs with
    | [] => .error (stopOn .endInValue [])
    | b :: rest =>
      if b = 110 then word [117, 108, 108] rest
      else if b = 116 then word [114, 117, 101] rest
      else if b = 102 then word [97, 108, 115, 101] rest
      else if b = 45 then skipNumber rest
      else if isDigit b then skipNumber (b :: rest)
      else if b = 34 then skipString (rest.length + 1) rest
      else if b = 91 then
        match skipSpace rest with
        | 93 :: rest => .ok rest
        | [] => .error (stopOn .endInList [])
        | rest => skipElements fuel rest
      else if b = 123 then
        match skipSpace rest with
        | 125 :: rest => .ok rest
        | [] => .error (stopOn .endInObject [])
        | rest => skipMembers fuel rest
      else .error (stopOn .expectedValue (b :: rest))

def skipElements : (fuel : Nat) → Bytes → Except Stop Bytes
  | 0, bs => .error (stopOn .endInValue bs)
  | fuel + 1, bs => do
    let rest ← skipValue fuel bs
    match skipSpace rest with
    | 44 :: rest => skipElements fuel rest
    | 93 :: rest => return rest
    | [] => throw (stopOn .endInList [])
    | rest => throw (stopOn .expectedListCommaOrEnd rest)

def skipMembers : (fuel : Nat) → Bytes → Except Stop Bytes
  | 0, bs => .error (stopOn .endInValue bs)
  | fuel + 1, bs => do
    let rest ← skipValue fuel (← skipName bs)
    match skipSpace rest with
    | 44 :: rest => skipMembers fuel rest
    | 125 :: rest => return rest
    | [] => throw (stopOn .endInObject [])
    | rest => throw (stopOn .expectedObjectCommaOrEnd rest)

end

/-- A value that is not wanted. Nothing is nested deeper than the bytes are long. -/
def ignored (bs : Bytes) : Except Stop Bytes :=
  skipValue (2 * bs.length + 2) bs

end ClipFeed.Json
