import CorpusQuery.Artifact
import CorpusQuery.Json.Problem

/-!
# Errors

Everything that can be refused, one constructor a cause. The wording is in one place
(`Error.message`); an error that comes from the query itself, and not from files or texts, is a
validation error (`Error.isValidation`).
-/

namespace CorpusQuery

/-- An edit, which a simplified phrase or sentence refuses. -/
inductive Edit where
  | addElement
  | addWord
  | addGroup
  | mergePhrase
  | setOccurrence
  | setOptional
  | withOccurrence
  | appendSentence
  | addFirstOption
  deriving DecidableEq

def Edit.text : Edit → String
  | addElement => "BasicSentenceCondition::add_part"
  | addWord => "BasicSentenceCondition::add_word_part"
  | addGroup => "BasicSentenceCondition::add_group_part"
  | mergePhrase => "BasicSentenceCondition::merge_basic_sentence"
  | setOccurrence => "SentenceCondition::set_occurrence"
  | setOptional => "SentenceCondition::set_optional"
  | withOccurrence => "SentenceCondition::with_occurrence"
  | appendSentence => "SentenceCondition::add_to_end_of_latest_sequence"
  | addFirstOption => "SentenceCondition::add_as_first_option"

/-- What holds nothing that could be lowered. -/
inductive Vacancy where
  /-- A phrase without elements. -/
  | phrase
  /-- An alternative without sentences. -/
  | sequence
  /-- A composite without alternatives. -/
  | composite
  deriving DecidableEq

def Vacancy.text : Vacancy → String
  | phrase => "BasicSentenceCondition"
  | sequence => "SentenceCondition (empty sequence)"
  | composite => "SentenceCondition"

inductive Access where
  | reading
  | writing
  deriving DecidableEq

/-- Why the file system does not open a path. -/
inductive Refusal where
  | missing
  | notADirectory
  | isADirectory
  | nameTooLong
  | nulInName
  deriving DecidableEq

def Refusal.text : Refusal → String
  | missing => "No such file or directory (os error 2)"
  | notADirectory => "Not a directory (os error 20)"
  | isADirectory => "Is a directory (os error 21)"
  | nameTooLong => "File name too long (os error 36)"
  | nulInName => "file name contained an unexpected NUL byte"

/-- Where a JSON text comes from. -/
inductive Source where
  | string
  | file (name : String)
  deriving DecidableEq

inductive Error where
  /-- No count lies in the range, or only zero does. -/
  | illegalOccurrence (least most : UInt64)
  /-- The range of positions ends before it starts. -/
  | illegalPosition (first last : UInt64)
  | undefinedVariable (name : String)
  | variableReused (name : String)
  | nothingToLower (place : Vacancy)
  | alreadySimplified (edit : Edit)
  | badPattern (pattern : String)
  | inaccessible (access : Access) (path : String) (why : Refusal)
  /-- No plan, or where `settings` holds no settings, can be read from the source. -/
  | unreadable (source : Source) (settings : Bool) (problem : Json.Problem)
  | unknownComparison (symbol : String)
  | unknownArtifact (name : String)
  /-- The writer took no more. -/
  | unwritable (artifact : Artifact) (reason : String)
  deriving DecidableEq

namespace Error

/-- The class of the error, as messages name it. -/
def label : Error → String
  | illegalOccurrence .. => "IllegalOccurrence"
  | illegalPosition .. => "IllegalPosition"
  | undefinedVariable .. => "UndefinedVariable"
  | variableReused .. => "VariableReused"
  | nothingToLower .. => "NoCondition"
  | alreadySimplified .. => "AlreadySimplified"
  | badPattern .. => "RegexError"
  | inaccessible .. => "IOError"
  | unreadable .. => "JsonError"
  | unknownComparison .. | unknownArtifact .. | unwritable .. => "SerializationError"

/-- The cause in words; an asterisk stands for the reason that a pattern or a text is refused. -/
def detail : Error → String
  | illegalOccurrence lo hi => s!"Illegal number \x7b{lo},{hi}\x7d (Occurrence::new)"
  | illegalPosition first last =>
    s!"Illegal position range {first}-{last} (SpanQuery::position)"
  | undefinedVariable name => s!"Variable ${name} is not defined (Variables::expand)"
  | variableReused name =>
    s!"Variable ${name} can only be used once per query (Variables::expand)"
  | nothingToLower place => s!"no condition ({place.text})"
  | alreadySimplified edit =>
    s!"condition was already simplified and can not be modified ({edit.text})"
  | badPattern pattern => s!"Invalid regular expression /{pattern}/: * (SpanQuery::regexp)"
  | inaccessible access path why =>
    let act := match access with
      | .reading => "reading"
      | .writing => "writing"
    s!"Opening file for {act} failed for {path}: {why.text}"
  | unreadable source settings _ =>
    let what := if settings then "config" else "plan"
    match source with
    | .string => s!"Parsing JSON failed for (string): * (Reading {what} from string)"
    | .file name => s!"Parsing JSON failed for {name}: * (Reading {what} from file)"
  | unknownComparison s => s!"Expected comparison operator (=, <, <=, >, >=), got {s}"
  | unknownArtifact s => s!"Expected a valid type, got {s}"
  | unwritable artifact reason => s!"Writing {artifact.label} to file: {reason}"

def message (e : Error) : String :=
  "[CqlError] " ++ e.label ++ ": " ++ e.detail

/-- Whether the query is at fault, and not a file or a text. -/
def isValidation : Error → Bool
  | illegalOccurrence .. | illegalPosition .. | undefinedVariable .. | variableReused ..
  | nothingToLower .. | alreadySimplified .. | badPattern .. => true
  | inaccessible .. | unreadable .. | unknownComparison .. | unknownArtifact ..
  | unwritable .. => false

end Error

end CorpusQuery
