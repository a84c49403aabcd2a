import PullStreams.Json.Number
import PullStreams.Json.Token

namespace PullStreams.Json
open Reader

/-- A string, its first quote consumed. Halves of a surrogate pair may stand alone. -/
def skipString : Reader Unit := do
  go (← rounds)
where
  go : Nat → Reader Unit
    | 0 => failHere .endInString
    | rounds + 1 => do
      let _ ← Reader.takeWhile isPlainByte
      match ← peek with
      | none => failHere .endInString
      | some b =>
        if b = ascii '"' then skip
        else if b = ascii '\\' then
          skip
          match ← next with
          | none => failHere .endInString
          | some e =>
            if (simpleEscape? e).isSome then go rounds
            else if e = ascii 'u' then
              let _ ← readHex
              go rounds
            else failHere .badEscape
        else failHere .controlCharacter

def skipExponent : Reader Unit := do
  let sign ← peek
  if sign = some (ascii '+') || sign = some (ascii '-') then skip
  if (← next).any isDigitByte then
    let _ ← Reader.takeWhile isDigitByte
  else failHere .badNumber

def skipNumber : Reader Unit := do
  match ← next with
  | none => failHere .badNumber
  | some d =>
    if d = ascii '0' then
      if (← peek).any isDigitByte then failNext .badNumber
    else if isDigitByte d then
      let _ ← Reader.takeWhile isDigitByte
    else failHere .badNumber
  if (← peek) = some (ascii '.') then
    skip
    if (← Reader.takeWhile isDigitByte).isEmpty then failNext .badNumber
  if isExponentMark (← peek) then
    skip
    skipExponent

inductive Bracket where
  | list
  | object
  deriving DecidableEq

def Bracket.closing : Bracket → UInt8
  | .list => ascii ']'
  | .object => ascii '\x7d'

def Bracket.unclosed : Bracket → Problem
  | .list => .endInList
  | .object => .endInObject

def Bracket.noSeparator : Bracket → Problem
  | .list => .noListSeparator
  | .object => .noObjectSeparator

def skipLeaf : Reader (Option Bracket) := do
  match ← peekToken with
  | none => failNext .endInValue
  | some b =>
    if b = ascii 'n' then skip; readWord "ull".toList; return none
    else if b = ascii 't' then skip; readWord "rue".toList; return none
    else if b = ascii 'f' then skip; readWord "alse".toList; return none
    else if b = ascii '-' then skip; skipNumber; return none
    else if isDigitByte b then skipNumber; return none
    else if b = ascii '"' then skip; skipString; return none
    else if b = ascii '[' then skip; return some .list
    else if b = ascii '\x7b' then skip; return some .object
    else failNext .noValue

def skipKey : Reader Unit := do
  match ← peekToken with
  | none => failNext .endInObject
  | some b =>
    if b ≠ ascii '"' then failNext .keyNotString
    skip
    skipString
    match ← peekToken with
    | none => failNext .endInObject
    | some b =>
      if b ≠ ascii ':' then failNext .noColon
      skip

/-- Closes brackets, innermost first, until another value has to follow; gives those still open.
`after` says that a value came before. -/
def skipClosings (after : Bool) : List Bracket → Reader (List Bracket)
  | [] => return []
  | bracket :: outer => do
    match ← peekToken with
    | none => failNext bracket.unclosed
    | some b =>
      if b = ascii ',' && after then skip; return bracket :: outer
      else if b = bracket.closing then skip; skipClosings true outer
      else if after then failNext bracket.noSeparator
      else return bracket :: outer

def skipRounds : Nat → List Bracket → Reader Unit
  | 0, _ => failHere .endInValue
  | rounds + 1, opened => do
    let opened ← do
      match ← skipLeaf with
      | some bracket => skipClosings false (bracket :: opened)
      | none => skipClosings true opened
    match opened with
    | [] => return
    | .list :: _ => skipRounds rounds opened
    | .object :: _ => do
      skipKey
      skipRounds rounds opened

def skipValue : Reader Unit := do
  skipRounds (← rounds) []

end PullStreams.Json
