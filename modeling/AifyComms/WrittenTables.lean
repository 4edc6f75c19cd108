import AifyComms.PyText

/-!
The table that a statement writes: `Write`, `written_table` and
`written_tables_of_script` of `service/change_feed.py`.

Each regular expression of the source is the function that follows it. None of them has
to give back what a greedy part took, except where two alternatives are tried in turn.
Letters are the ASCII ones: the statements are.
-/

namespace AifyComms.WrittenTables
open PyText

/-- One statement's effect: the table, and for an UPDATE the columns it sets, or `none`
where they cannot be read. -/
structure Write where
  table : String
  columns : Option (List String)
  deriving DecidableEq

/-- What `LIVENESS_WRITES` declares of a table. -/
inductive Declared where
  | wholeTable
  | columns (names : List String)

def livenessWrites (table : String) : Option Declared :=
  match table with
  | "bridge_instances" | "claimer_leases" | "terminal_events" => some .wholeTable
  | "agents" => some (.columns ["last_seen", "status", "last_present_at"])
  | "agent_sessions" => some (.columns ["last_seen", "telemetry"])
  | "environments" => some (.columns ["last_seen", "metadata", "cwd_roots"])
  | "terminal_sessions" =>
      some (.columns ["output", "output_at", "output_seq", "updated_at"])
  | "definition_stores" => some (.columns ["pushed_at"])
  | _ => none

def Write.liveness (write : Write) : Bool :=
  match livenessWrites write.table with
  | none => false
  | some .wholeTable => true
  -- Only an UPDATE whose every column is declared. An INSERT or DELETE adds or removes a row.
  | some (.columns declared) =>
      match write.columns with
      | none => false
      | some columns => !columns.isEmpty && columns.all fun column => declared.contains column

/-! ### Comments, strings and parentheses -/

def isLetter (char : Char) : Bool := char.isAlpha || char = '_'

/-- `\w`. -/
def isWord (char : Char) : Bool := char.isAlphanum || char = '_'

/-- `_LINE_COMMENT.sub(" ", text)`. -/
def dropLineComments (inside : Bool) : List Char → List Char
  | [] => []
  | '-' :: '-' :: rest =>
      if inside then dropLineComments true rest else ' ' :: dropLineComments true rest
  | char :: rest =>
      if inside then
        if char = '\n' then char :: dropLineComments false rest else dropLineComments true rest
      else char :: dropLineComments false rest

/-- What follows the first `*/`. -/
def closeBlock : List Char → Option (List Char)
  | [] => none
  | '*' :: '/' :: rest => some rest
  | _ :: rest => closeBlock rest

/-- What follows the quote that ends a string: a doubled quote is one of its characters,
where a later quote still ends it. -/
def closeString : List Char → Option (List Char)
  | [] => none
  | '\'' :: '\'' :: rest => some ((closeString rest).getD ('\'' :: rest))
  | '\'' :: rest => some rest
  | _ :: rest => closeString rest

/-- What follows a pair of parentheses with none inside. -/
def closeParens : List Char → Option (List Char)
  | [] => none
  | ')' :: rest => some rest
  | '(' :: _ => none
  | _ :: rest => closeParens rest

/-- Replace what `found` recognises at a position by `instead`, from left to right. A
text of `fuel` characters has no more positions than that. -/
def substitute (found : List Char → Option (List Char)) (instead : List Char) :
    Nat → List Char → List Char
  | 0, text => text
  | _ + 1, [] => []
  | fuel + 1, char :: rest =>
      match found (char :: rest) with
      | some after => instead ++ substitute found instead fuel after
      | none => char :: substitute found instead fuel rest

def blockComment : List Char → Option (List Char)
  | '/' :: '*' :: rest => closeBlock rest
  | _ => none

def stringLiteral : List Char → Option (List Char)
  | '\'' :: rest => closeString rest
  | _ => none

def parentheses : List Char → Option (List Char)
  | '(' :: rest => closeParens rest
  | _ => none

/-- The loop of `_peel`. Each pass that changes the text shortens it. -/
def peelLoop : Nat → List Char → List Char
  | 0, text => text
  | fuel + 1, text =>
      let peeled := substitute parentheses [] text.length text
      if peeled = text then text else peelLoop fuel peeled

/-- `_peel`. -/
def peel (text : List Char) : List Char := peelLoop text.length text

/-! ### Words -/

/-- A word of the statement, in any case. -/
def keyword (word : String) (text : List Char) : Option (List Char) :=
  if (text.take word.length).map Char.toLower = word.toList then some (text.drop word.length)
  else none

/-- `\b` after a word. -/
def wordEnds (text : List Char) : Bool := !(text.head?.any isWord)

/-- `\s+`. -/
def spaces (text : List Char) : Option (List Char) :=
  if text.head?.any isSpace then some (text.dropWhile isSpace) else none

/-- `\w+`. -/
def word (text : List Char) : Option (List Char) :=
  if text.head?.any isWord then some (text.dropWhile isWord) else none

/-- The first of these words that stands alone, and what follows it. `after` is the
character before the text. -/
def searchWords (words : List String) (after : Option Char) :
    List Char → Option (List Char × List Char)
  | [] => none
  | char :: rest =>
      let here := words.any fun name => (keyword name (char :: rest)).any wordEnds
      if here && !(after.any isWord) then some ([], char :: rest)
      else (searchWords words (some char) rest).map fun found => (char :: found.1, found.2)

def skipQuote (quotes : String) (text : List Char) : List Char :=
  if text.head?.any fun char => quotes.toList.contains char then text.drop 1 else text

/-- A name, which may be quoted, and what follows it. -/
def name (text : List Char) : Option (String × List Char) :=
  let opened := skipQuote "\"`[" text
  if opened.head?.any isLetter then
    some (lower (String.ofList (opened.takeWhile isWord)),
      skipQuote "\"`]" (opened.dropWhile isWord))
  else none

/-- `\s+OR\s+\w+`, where the statement has it and what follows accepts it. -/
def optionalOr {Found : Type} (text : List Char) (go : List Char → Option Found) : Option Found :=
  ((spaces text).bind fun text => (keyword "or" text).bind fun text =>
    (spaces text).bind fun text => (word text).bind go).or (go text)

/-! ### The statement -/

/-- What follows SET, which may have an alias before it. -/
def updateSet (rest : List Char) : Option (List Char) :=
  let setting (text : List Char) := (keyword "set" text).bind spaces
  let aliased (text : List Char) :=
    if (keyword "set" text).any wordEnds then none
    else (word text).bind fun text => (spaces text).bind setting
  (spaces rest).bind fun text =>
    (((keyword "as" text).bind fun text => (spaces text).bind aliased).or (aliased text)).or
      (setting text)

/-- The column of one assignment. -/
def assigned (text : List Char) : Option String :=
  (name (text.dropWhile isSpace)).bind fun found =>
    if (found.2.dropWhile isSpace).head? = some '=' then some found.1 else none

/-- `_update_columns`. -/
def updateColumns (rest : List Char) : Option (List String) :=
  (updateSet rest).bind fun text =>
    let assignments := peel text
    let kept := ((searchWords ["where", "returning", "from"] none assignments).map
      Prod.fst).getD assignments
    let columns := (kept.splitOn ',').filterMap assigned
    if columns = [] then none else some columns

/-- `_WRITE` on an INSERT or a REPLACE, and what follows it. -/
def inserting (text : List Char) : Option (List Char) :=
  let into (text : List Char) := (spaces text).bind (keyword "into")
  ((keyword "insert" text).bind fun text => optionalOr text into).or
    ((keyword "replace" text).bind into)

def deleting (text : List Char) : Option (List Char) :=
  (keyword "delete" text).bind fun text => (spaces text).bind (keyword "from")

def tableAndRest (text : List Char) : Option (String × List Char) := (spaces text).bind name

/-- `_WRITE.match`, and the write it stands for. -/
def matchWrite (text : List Char) : Option Write :=
  let text := text.dropWhile isSpace
  let added := ((inserting text).bind tableAndRest).map fun found => Write.mk found.1 (some [])
  let updated := ((keyword "update" text).bind fun text => optionalOr text tableAndRest).map
    fun found => Write.mk found.1 (updateColumns found.2)
  let deleted := ((deleting text).bind tableAndRest).map fun found => Write.mk found.1 (some [])
  (added.or updated).or deleted

/-- `_CTE.match`. -/
def startsWith (text : List Char) : Bool :=
  (keyword "with" (text.dropWhile isSpace)).any wordEnds

def writtenTableOf (sql : List Char) : Option Write :=
  let commented := dropLineComments false sql
  let plain := substitute blockComment [' '] commented.length commented
  let text := substitute stringLiteral ['\'', '\''] plain.length plain
  if startsWith text then
    -- The write follows the peeled common table expressions.
    (searchWords ["insert", "replace", "update", "delete"] none (peel text)).bind
      fun found => matchWrite found.2
  else matchWrite text

/-- `written_table`. -/
def writtenTable (sql : String) : Option Write := writtenTableOf sql.toList

/-- `written_tables_of_script`. -/
def writtenTablesOfScript (script : String) : List Write :=
  (script.toList.splitOn ';').filterMap writtenTableOf

example : writtenTable "UPDATE OR IGNORE agents AS a -- beat\n SET last_seen = max(a.b, ?), Status='x, y'" =
    some ⟨"agents", some ["last_seen", "status"]⟩ := by
  decide

example : writtenTable "WITH due AS (SELECT id FROM runs) DELETE FROM [dispatch_runs] WHERE id = 1" =
    some ⟨"dispatch_runs", some []⟩ := by
  decide

end AifyComms.WrittenTables
