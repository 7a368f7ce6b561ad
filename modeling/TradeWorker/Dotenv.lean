import TradeWorker.Chars
import TradeWorker.Json
import TradeWorker.Lines

/-!
# The `.env` initializer

The script reads a dotenv text into entries, asks for a value for every key, and writes
the entries back with the values chosen. What it writes is read by the same parser the
next time it runs. A value may stand in quotes, which are part of it, and a comment may
follow it.
-/

namespace TradeWorker.Dotenv

open Chars (isSpace)

/-! ## Reading -/

/-- A comment or blank line, or an assignment with the comment that follows it. -/
inductive Entry where
  | raw (text : List Char)
  | kv (key value comment : List Char)
  deriving DecidableEq, Repr

def isQuote (c : Char) : Bool := c = '\'' || c = '"'

/-- `s.strip()`. -/
def strip (s : List Char) : List Char := Chars.strip isSpace s

/-- `\s+#`, at the start of a text. -/
def startsComment : List Char → Bool
  | [] => false
  | c :: rest => isSpace c && (rest.dropWhile isSpace).head? = some '#'

/-- `re.search(r"\s+#", raw)`: the text before the first match, and from it on. -/
def searchComment : List Char → Option (List Char × List Char)
  | [] => none
  | c :: rest =>
      if startsComment (c :: rest) then some ([], c :: rest)
      else (searchComment rest).map fun found => (c :: found.1, found.2)

def commentAfter (rest : List Char) : List Char :=
  if '#' ∈ rest then strip (rest.dropWhile (· ≠ '#')) else []

/-- The last step of `split_value_comment`, where no quotes decide. -/
def splitAtComment (raw : List Char) : List Char × List Char :=
  match searchComment raw with
  | some (value, comment) => (strip value, strip comment)
  | none => (raw, [])

/-- `split_value_comment`, of a stripped text. -/
def splitStripped : List Char → List Char × List Char
  | [] => splitAtComment []
  | c :: rest =>
      -- an empty value, and a comment only
      if c = '#' then ([], c :: rest)
      else if isQuote c ∧ c ∈ rest then
        (c :: rest.takeWhile (· ≠ c) ++ [c], commentAfter ((rest.dropWhile (· ≠ c)).drop 1))
      else splitAtComment (c :: rest)

def splitValueComment (raw : List Char) : List Char × List Char := splitStripped (strip raw)

def isKeyChar (c : Char) : Bool := c.isAlphanum || c = '_'

/-- `KEY_RE`: the key, and what follows the `=`. -/
def matchKey (line : List Char) : Option (List Char × List Char) :=
  match line.takeWhile isKeyChar, line.dropWhile isKeyChar with
  | first :: key, '=' :: value =>
      if first.isDigit then none else some (first :: key, value)
  | _, _ => none

/-- One line of `parse_env`. -/
def parseLine (line : List Char) : Entry :=
  match matchKey line with
  | some (key, raw) => .kv key (splitValueComment raw).1 (splitValueComment raw).2
  | none => .raw line

/-- The entries of `parse_env`. -/
def parseEnv (text : List Char) : List Entry := (Lines.splitlines text).map parseLine

def Entry.kv? : Entry → Option (List Char × List Char × List Char)
  | .raw _ => none
  | .kv key value comment => some (key, value, comment)

def assignments (entries : List Entry) : List (List Char × List Char × List Char) :=
  entries.filterMap Entry.kv?

def keysOf (entries : List Entry) : List (List Char) := (assignments entries).map (·.1)

/-- The `key -> value` map of `parse_env`: the last assignment wins. -/
def valuesOf (entries : List Entry) : Dict (List Char) (List Char) :=
  .ofPairs ((assignments entries).map fun a => (a.1, a.2.1))

/-! ## Asking -/

/-- A value as it is chosen: stripped, and on one line. -/
structure Answer where
  text : List Char
  tidy : Chars.Tidy isSpace text
  single : Lines.Single text

theorem single_strip {s : List Char} (h : Lines.Single s) : Lines.Single (strip s) := by
  obtain ⟨before, after, hs, -⟩ := Chars.strip_append isSpace s
  refine h.of_subset fun c hc => ?_
  rw [hs]
  exact List.mem_append_right _ (List.mem_append_left _ hc)

/-- `prompt`: a blank line keeps the default. -/
def prompt (default : Answer) (line : List Char) (single : Lines.Single line) : Answer :=
  if strip line = [] then default
  else { text := strip line, tidy := Chars.tidy_strip line, single := single_strip single }

/-! ## Writing -/

def quotedKeys : List (List Char) :=
  ["BROKER_API_KEY", "NATS_TOKEN", "NATS_SUBJECTS", "CRYPTO_API_KEY", "CRYPTO_API_SECRET",
    "CRYPTO_ACCOUNT_ID", "TELEGRAM_BOT_TOKEN", "TELEGRAM_WORKER_LOG_CHAT_IDS",
    "TELEGRAM_PRIVATE_BROADCAST_CHAT_IDS", "TELEGRAM_LOG_BOT_TOKEN", "TELEGRAM_LOG_CHAT_ID",
    "CRYPTO_LEVERAGE_INIT_SYMBOLS"].map String.toList

def alreadyQuoted (value : List Char) : Bool :=
  match value.head? with
  | some c => isQuote c && value.getLast? = some c
  | none => false

/-- A value as `format_kv` writes it. -/
def quotedValue (key value : List Char) : List Char :=
  if !alreadyQuoted value && quotedKeys.contains key then '"' :: (value ++ ['"']) else value

def withComment (value comment : List Char) : List Char :=
  if comment = [] then value else value ++ (' ' :: ' ' :: comment)

def formatKv (key value comment : List Char) : List Char :=
  key ++ '=' :: withComment (quotedValue key value) comment

def sectionRule : List Char := "# ".toList ++ List.replicate 65 '─'

/-- The lines between the entries and those added. -/
def addedHeader : List Entry :=
  [.raw [], .raw sectionRule,
    .raw "# Added from .env.example (new keys not in your previous .env)".toList,
    .raw sectionRule]

/-- One line of `render`. -/
def renderEntry (result : List Char → Option (List Char)) : Entry → List Char
  | .raw text => text
  | .kv key value comment => formatKv key ((result key).getD value) comment

/-- What `render` writes, entry by entry. -/
def layout (baseEntries exampleOnly : List Entry) : List Entry :=
  baseEntries ++ if exampleOnly = [] then [] else addedHeader ++ exampleOnly

def render (baseEntries : List Entry) (result : List Char → Option (List Char))
    (exampleOnly : List Entry) : List Char :=
  Lines.unlines ((layout baseEntries exampleOnly).map (renderEntry result))

/-! ## The plan -/

/-- What `build_plan` returns. -/
structure Plan where
  baseEntries : List Entry
  exampleOnly : List Entry
  orderedKeys : List (List Char)
  defaultFor : List Char → List Char

/-- `build_plan`, of the texts of `.env.example` and, if there is one, `.env`. -/
def buildPlan (exampleText : List Char) (env : Option (List Char)) : Plan :=
  let exampleEntries := parseEnv exampleText
  let baseEntries := (env.map parseEnv).getD exampleEntries
  let baseValues := (env.map fun text => valuesOf (parseEnv text)).getD .empty
  let exampleOnly := exampleEntries.filter fun e =>
    e.kv?.any fun a => !(keysOf baseEntries).contains a.1
  { baseEntries
    exampleOnly
    orderedKeys := keysOf baseEntries ++ keysOf exampleOnly
    defaultFor := fun key =>
      (baseValues.get? key).getD (((valuesOf exampleEntries).get? key).getD []) }

end TradeWorker.Dotenv
