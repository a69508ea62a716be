import Bookkeeping.Text.Blank

namespace Bookkeeping.Diagnosis

open Text

def isQuote (c : Char) : Bool := c == '\x60' || c == '\x22' || c == '\x27'

def quotedName? : List Char → Option (List Char)
  | [] => none
  | c :: cs =>
    let name := cs.takeWhile (!isQuote ·)
    if isQuote c = true ∧ name ≠ [] ∧ cs.dropWhile (!isQuote ·) ≠ [] then some name else none

def keyword : List Char := "CONSTRAINT".toList

def announcedName? (cs : List Char) : Option (List Char) :=
  match cs.drop keyword.length with
  | [] => none
  | c :: rest =>
    if keyword.isPrefixOf cs && isBlank c then quotedName? (trimStart rest) else none

def findName? : List Char → Option (List Char)
  | [] => none
  | c :: cs =>
    match announcedName? (c :: cs) with
    | some name => some name
    | none => findName? cs

def constraintName? (message : String) : Option String :=
  (findName? message.toList).map String.ofList

end Bookkeeping.Diagnosis
