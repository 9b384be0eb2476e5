import Mathlib.Data.List.Induction
import Mathlib.Logic.Function.Basic

/-!
# Resolved dependencies

Declared overrides and the module graph are merged into one pin for each module.  A module
whose overrides are all skipped by the parser is pinned to the version of the graph.  Files
are read with regular expressions, for which a call ends at its first closing parenthesis.
-/

namespace ScoreIntegration.KnownGood

open List Option

inductive OverrideKind where
  | gitOverride | singleVersionOverride | archiveOverride | localPathOverride
  | multipleVersionOverride
  deriving DecidableEq

def OverrideKind.keyword : OverrideKind → String
  | .gitOverride => "git_override("
  | .singleVersionOverride => "single_version_override("
  | .archiveOverride => "archive_override("
  | .localPathOverride => "local_path_override("
  | .multipleVersionOverride => "multiple_version_override("

def OverrideKind.all : List OverrideKind :=
  [.gitOverride, .singleVersionOverride, .archiveOverride, .localPathOverride,
    .multipleVersionOverride]

/-! ## Texts -/

def isSpace (char : Char) : Bool := char ∈ [' ', '\t', '\n', '\r', '\x0b', '\x0c']

/-- The text after a quotation mark, up to the next one. -/
def quoted (text : List Char) : Option String :=
  let value := text.takeWhile (· ≠ '\x22')
  if value = [] ∨ value.length = text.length then none else some (String.ofList value)

/-- A match of `_FIELD_RE` at the beginning of the text. -/
def fieldAt (name : String) (text : List Char) : Option String := do
  let rest ← name.toList.isPrefixOf? text
  match rest.dropWhile isSpace with
  | '=' :: rest =>
    match rest.dropWhile isSpace with
    | '\x22' :: rest => quoted rest
    | _ => none
  | _ => none

/-- `_field`: the first match, and empty without any. -/
def fieldOf (name : String) : List Char → String
  | [] => ""
  | char :: text => (fieldAt name (char :: text)).getD (fieldOf name text)

structure OverrideCall where
  kind : OverrideKind
  body : List Char

namespace OverrideCall

variable (call : OverrideCall)

def moduleName : String := fieldOf "module_name" call.body

def remote : String := fieldOf "remote" call.body

def commit : String := fieldOf "commit" call.body

def version : String := fieldOf "version" call.body

end OverrideCall

/-- The block of one of the kinds at the beginning of the text, and what follows it. -/
def blockAt (kinds : List OverrideKind) (text : List Char) : Option (OverrideCall × List Char) :=
  kinds.findSome? fun kind => do
    let rest ← kind.keyword.toList.isPrefixOf? text
    let body := rest.takeWhile (· ≠ ')')
    if body.length = rest.length then none else some (⟨kind, body⟩, rest.drop (body.length + 1))

/-- `finditer` of the blocks of some kinds; every step leaves at least one character behind. -/
def blocksFrom (kinds : List OverrideKind) : Nat → List Char → List OverrideCall
  | fuel + 1, char :: text =>
    match blockAt kinds (char :: text) with
    | some (call, rest) => call :: blocksFrom kinds fuel rest
    | none => blocksFrom kinds fuel text
  | _, _ => []

def blocks (kinds : List OverrideKind) (text : List Char) : List OverrideCall :=
  blocksFrom kinds text.length text

def dropCommentLines (text : List Char) : List Char :=
  ['\n'].intercalate ((text.splitOn '\n').filter fun line =>
    (line.dropWhile isSpace).head? ≠ some '#')

/-- A file of well-formed calls: no keyword of an override stands in the block of another one. -/
structure OverrideFile where
  text : List Char
  wellFormed : ∀ kind, blocks [kind] (dropCommentLines text) =
    (blocks OverrideKind.all (dropCommentLines text)).filter (·.kind = kind)

def OverrideFile.calls (file : OverrideFile) : List OverrideCall :=
  blocks OverrideKind.all (dropCommentLines file.text)

/-! ## Modules -/

structure Module where
  name : String
  hash : String
  repo : String
  version : Option String

inductive Provenance where
  | asserted | incidental

inductive UncarriedReason where
  | mutableRef (ref : String) | noCommit | noRemote | noVersion | multipleVersions
  | notExpressible (kind : OverrideKind)
  /-- The module has no override and version 0.0.0 in the graph. -/
  | unversioned

namespace OverrideCall

variable (call : OverrideCall)

def gitModule : Option Module :=
  if call.kind = .gitOverride ∧ call.moduleName ≠ "" ∧ call.commit ≠ "" ∧ call.remote ≠ "" then
    some ⟨call.moduleName, call.commit, call.remote, none⟩
  else none

def versionModule : Option Module :=
  if call.kind = .singleVersionOverride ∧ call.moduleName ≠ "" ∧ call.version ≠ "" then
    some ⟨call.moduleName, "", "", some call.version⟩
  else none

def pin : Option Module := call.gitModule.or call.versionModule

end OverrideCall

open OverrideCall

def parseOverrideFile (file : OverrideFile) : List Module :=
  (blocks [.gitOverride] (dropCommentLines file.text)).filterMap gitModule ++
    (blocks [.singleVersionOverride] (dropCommentLines file.text)).filterMap versionModule

structure ResolvedDependencies where
  resolved : String → Option (Module × Provenance)
  uncarried : String → Option UncarriedReason

variable (files : List OverrideFile) (graph : ModNode) (name : String)

/-- Of the assignments to one key of a dictionary the last one stays. -/
def carried : Option Module :=
  ((files.flatMap parseOverrideFile).filter fun module => module.name = name).getLast?

/-- The module is pinned as the override says, or reported and not pinned. -/
def ResolvedDependencies.Keeps (dependencies : ResolvedDependencies) (call : OverrideCall) : Prop :=
  (∃ module, call.pin = some module ∧ dependencies.resolved name = some (module, .asserted)) ∨
    dependencies.resolved name = none ∧ (dependencies.uncarried name).isSome

variable {files graph name} {file : OverrideFile} {call : OverrideCall}

/-- A parenthesis in a comment hides the commit and the remote. -/
example : (blocks OverrideKind.all
    "git_override(module_name = \"m\", # (a)\ncommit = \"c\", remote = \"r\")".toList).map pin =
      [none] :=
  rfl

end ScoreIntegration.KnownGood
