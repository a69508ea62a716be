import Bookkeeping.Toml.Word

namespace Bookkeeping.Toml

def isSpace (c : Char) : Bool := c == ' ' || c == '\t'

def skipSpace (cs : List Char) : List Char := cs.dropWhile isSpace

def isControl (c : Char) : Bool := (c.toNat < 32 && c != '\t') || c.toNat == 127

def breakOff? : List Char → Option (List Char)
  | '\n' :: cs => some cs
  | '\r' :: '\n' :: cs => some cs
  | _ => none

def skipComment : List Char → List Char
  | '#' :: cs => cs.dropWhile (!isControl ·)
  | cs => cs

def endLine? (cs : List Char) : Option (List Char) :=
  match skipComment (skipSpace cs) with
  | [] => some []
  | cs => breakOff? cs

def skipLines : Nat → List Char → List Char
  | 0, cs => cs
  | fuel + 1, cs =>
    let cs := skipComment (skipSpace cs)
    match breakOff? cs with
    | some rest => skipLines fuel rest
    | none => cs

def codePoint? (ds : List Char) : Option Char :=
  if ds.all isHex then
    let n := valueIn 16 ds
    if n < 0xD800 ∨ 0xDFFF < n ∧ n < 0x110000 then some (Char.ofNat n) else none
  else none

def shortEscape? : Char → Option Char
  | 'b' => some '\x08'
  | 't' => some '\t'
  | 'n' => some '\n'
  | 'f' => some '\x0c'
  | 'r' => some '\r'
  | '\x22' => some '\x22'
  | '\\' => some '\\'
  | _ => none

def escape? : List Char → Option (Char × List Char)
  | 'u' :: cs =>
    if (cs.take 4).length = 4 then (codePoint? (cs.take 4)).map (·, cs.drop 4) else none
  | 'U' :: cs =>
    if (cs.take 8).length = 8 then (codePoint? (cs.take 8)).map (·, cs.drop 8) else none
  | c :: cs => (shortEscape? c).map (·, cs)
  | [] => none

def basic? : Nat → List Char → Option (List Char × List Char)
  | 0, _ | _, [] => none
  | _, '\x22' :: cs => some ([], cs)
  | fuel + 1, '\\' :: cs => do
    let (c, cs) ← escape? cs
    let (body, cs) ← basic? fuel cs
    some (c :: body, cs)
  | fuel + 1, c :: cs =>
    if isControl c then none
    else do
      let (body, cs) ← basic? fuel cs
      some (c :: body, cs)

def literal? : List Char → Option (List Char × List Char)
  | [] => none
  | '\x27' :: cs => some ([], cs)
  | c :: cs =>
    if isControl c then none
    else do
      let (body, cs) ← literal? cs
      some (c :: body, cs)

/-- Three to five quotes end a text of several lines; those before the last three belong to it. -/
def closing? (quote : Char) (cs : List Char) : Option (List Char × List Char) :=
  let run := (cs.takeWhile (· == quote)).length
  if run < 3 then none
  else
    let taken := min run 5
    some (List.replicate (taken - 3) quote, cs.drop taken)

def skipBlank : List Char → List Char
  | '\r' :: '\n' :: cs => skipBlank cs
  | c :: cs => if isSpace c || c == '\n' then skipBlank cs else c :: cs
  | [] => []

def continued? (cs : List Char) : Option (List Char) :=
  (breakOff? (skipSpace cs)).map skipBlank

/-- The rest of a text of several lines; in double quotes a backslash escapes. -/
def lines? (quote : Char) : Nat → List Char → Option (List Char × List Char)
  | 0, _ | _, [] => none
  | fuel + 1, c :: cs =>
    match closing? quote (c :: cs) with
    | some found => some found
    | none =>
      if c = '\\' ∧ quote = '\x22' then
        match continued? cs with
        | some cs => lines? quote fuel cs
        | none => do
          let (c, cs) ← escape? cs
          let (body, cs) ← lines? quote fuel cs
          some (c :: body, cs)
      else match breakOff? (c :: cs) with
        | some cs => do
          let (body, cs) ← lines? quote fuel cs
          some ('\n' :: body, cs)
        | none =>
          if isControl c then none
          else do
            let (body, cs) ← lines? quote fuel cs
            some (c :: body, cs)

def openLines (cs : List Char) : List Char := (breakOff? cs).getD cs

def isBare (c : Char) : Bool := c.isAlphanum || c == '_' || c == '-'

def simpleKey? (cs : List Char) : Option (String × List Char) :=
  match cs with
  | '\x22' :: rest => (basic? rest.length rest).map fun (s, rest) => (String.ofList s, rest)
  | '\x27' :: rest => (literal? rest).map fun (s, rest) => (String.ofList s, rest)
  | cs =>
    let name := cs.takeWhile isBare
    if name.isEmpty then none else some (String.ofList name, cs.dropWhile isBare)

def key? : Nat → List Char → Option (List String × List Char)
  | 0, _ => none
  | fuel + 1, cs => do
    let (name, cs) ← simpleKey? (skipSpace cs)
    match skipSpace cs with
    | '.' :: cs => do
      let (names, cs) ← key? fuel cs
      some (name :: names, cs)
    | cs => some ([name], cs)

def isWordEnd (c : Char) : Bool :=
  isSpace c || c == ',' || c == ']' || c == '\x7d' || c == '#' || c == '\n' || c == '\r'

/-- A word; a date and a time may have a blank between them. -/
def splitWord (cs : List Char) : List Char × List Char :=
  let first := cs.takeWhile (!isWordEnd ·)
  match cs.dropWhile (!isWordEnd ·) with
  | ' ' :: d :: rest =>
    if d.isDigit ∧ (day? first).map (·.2) = some [] then
      let second := (d :: rest).takeWhile (!isWordEnd ·)
      (first ++ ' ' :: second, (d :: rest).dropWhile (!isWordEnd ·))
    else (first, ' ' :: d :: rest)
  | rest => (first, rest)

mutual

def value? : Nat → List Char → Option (Toml × List Char)
  | 0, _ => none
  | fuel + 1, cs =>
    match cs with
    | '\x22' :: '\x22' :: '\x22' :: cs =>
      (lines? '\x22' (fuel + 1) (openLines cs)).map fun (s, cs) => (.text (String.ofList s), cs)
    | '\x27' :: '\x27' :: '\x27' :: cs =>
      (lines? '\x27' (fuel + 1) (openLines cs)).map fun (s, cs) => (.text (String.ofList s), cs)
    | '\x22' :: cs => (basic? (fuel + 1) cs).map fun (s, cs) => (.text (String.ofList s), cs)
    | '\x27' :: cs => (literal? cs).map fun (s, cs) => (.text (String.ofList s), cs)
    | '[' :: cs => (items? fuel cs).map fun (items, cs) => (.list items, cs)
    | '\x7b' :: cs =>
      match skipSpace cs with
      | '\x7d' :: cs => some (.table .closed [], cs)
      | cs => fields? fuel (.table .closed []) cs
    | cs => do
      let (word, cs) := splitWord cs
      some (← ofWord? word, cs)

def items? : Nat → List Char → Option (List Toml × List Char)
  | 0, _ => none
  | fuel + 1, cs =>
    match skipLines (fuel + 1) cs with
    | ']' :: cs => some ([], cs)
    | cs => do
      let (item, cs) ← value? fuel cs
      match skipLines (fuel + 1) cs with
      | ',' :: cs => do
        let (items, cs) ← items? fuel cs
        some (item :: items, cs)
      | ']' :: cs => some ([item], cs)
      | _ => none

def fields? : Nat → Toml → List Char → Option (Toml × List Char)
  | 0, _, _ => none
  | fuel + 1, t, cs => do
    let (key, cs) ← key? (fuel + 1) cs
    match cs with
    | '=' :: cs => do
      let (value, cs) ← value? fuel (skipSpace cs)
      let t ← setKey key value t
      match skipSpace cs with
      | ',' :: cs => fields? fuel t cs
      | '\x7d' :: cs => some (t, cs)
      | _ => none
    | _ => none

end

structure Draft where
  document : Toml
  header : List String

def headerLine? (draft : Draft) (repeated : Bool) (cs : List Char) :
    Option (Draft × List Char) := do
  let (key, cs) ← key? cs.length cs
  let cs ← skip? ']' cs
  let cs ← if repeated then skip? ']' cs else some cs
  let document ← openHeader repeated key draft.document
  some (⟨document, key⟩, ← endLine? cs)

def keyLine? (draft : Draft) (cs : List Char) : Option (Draft × List Char) := do
  let (key, cs) ← key? cs.length cs
  let cs ← skip? '=' cs
  let (value, cs) ← value? (2 * cs.length + 2) (skipSpace cs)
  let document ← setUnder draft.header key value draft.document
  some ({ draft with document }, ← endLine? cs)

def line? (draft : Draft) (cs : List Char) : Option (Draft × List Char) :=
  match cs with
  | '[' :: '[' :: cs => headerLine? draft true cs
  | '[' :: cs => headerLine? draft false cs
  | cs => keyLine? draft cs

def document? : Nat → Draft → List Char → Option Toml
  | 0, _, _ => none
  | fuel + 1, draft, cs =>
    match skipLines (fuel + 1) cs with
    | [] => some draft.document
    | cs => do
      let (draft, cs) ← line? draft cs
      document? fuel draft cs

def parse? (s : String) : Option Toml :=
  let cs := match s.toList with
    | c :: cs => if c.toNat = 0xFEFF then cs else c :: cs
    | [] => []
  document? (cs.length + 1) ⟨emptyDocument, []⟩ cs

end Bookkeeping.Toml
