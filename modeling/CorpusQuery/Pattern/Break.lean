import CorpusQuery.Pattern.Binary
import CorpusQuery.Pattern.Script

/-!
# Classes for breaks

The classes of characters that tell where a text breaks into what a reader takes for one character
(a cluster), into words and into sentences. They follow from the general categories, the scripts and
the binary properties by the rules of Unicode 16, and only what these rules list is listed here.
-/

namespace CorpusQuery.Pattern.Break

open Category (members)

/-! ## Classes of more than one kind -/

def carriageReturn : Charset := .ofText "D"

def lineFeed : Charset := .ofText "A"

/-- The sign that makes one cluster of what stands around it. -/
def joiner : Charset := .ofText "200D"

/-- The marks and signs that add to the character before them. -/
def extending : Charset :=
  Binary.graphemeExtend.union (members ["mc"])

/-- Digits, and the signs that stand before them. -/
def digits : Charset :=
  (members ["nd"]).union (.ofText "600-605 66B 6DD 890-891 8E2 19DA 110BD 110CD")

/-! ## Breaks between clusters -/

namespace Cluster

/-- What has no shape of its own and adds to nothing. -/
def control : Charset :=
  (((members ["cc", "cf", "zl", "zp"]).union
    ((members ["cn"]).inter Binary.defaultIgnorable)).diff (.ofText "A D 200C-200D")).diff
      (Binary.prependedMark.union Binary.graphemeExtend)

def extend : Charset :=
  Binary.graphemeExtend.union Binary.emojiModifier

/-- What belongs to the cluster after it. -/
def prepend : Charset :=
  Binary.prependedMark.union (.ofLines [
    "D4E 111C2-111C3 113D1 1193F 11941 11A84-11A89 11D46 11F02"])

/-- The marks that take space of their own; those of some scripts break clusters all the same. -/
def spacingMark : Charset :=
  (((members ["mc"]).diff extend).diff (.ofLines [
    "102B-102C 1038 1062-1064 1067-106D 1083 1087-108C 108F 109A-109C 1A61 1A63-1A64 AA7B AA7D",
    "11720-11721"])).union (.ofText "E33 EB3")

/-- The consonants that a Korean syllable starts with. -/
def leading : Charset := .ofText "1100-115F A960-A97C"

/-- The vowels of Korean syllables. -/
def vowel : Charset := .ofText "1160-11A7 D7B0-D7C6 16D63 16D67-16D6A"

/-- The consonants that a Korean syllable ends with. -/
def trailing : Charset := .ofText "11A8-11FF D7CB-D7FB"

/-- The Korean syllables that end in their vowel. Every 28th is one: those in between start the same
and end with one of 27 consonants. -/
def openSyllable : Charset :=
  .ofRanges ((List.range 399).map fun k => (0xAC00 + 28 * k, 0xAC00 + 28 * k))

/-- The other Korean syllables. -/
def closedSyllable : Charset :=
  (Charset.ofText "AC00-D7A3").diff openSyllable

/-- The class with a name. -/
def ofName? : String → Option Charset
  | "cn" | "control" => some control
  | "cr" => some carriageReturn
  | "ex" | "extend" => some extend
  | "l" => some leading
  | "lf" => some lineFeed
  | "lv" => some openSyllable
  | "lvt" => some closedSyllable
  | "pp" | "prepend" => some prepend
  | "ri" | "regionalindicator" => some Binary.regionalIndicator
  | "sm" | "spacingmark" => some spacingMark
  | "t" => some trailing
  | "v" => some vowel
  | "zwj" => some joiner
  | _ => none

end Cluster

/-! ## Breaks between words -/

namespace Word

/-- The ends of lines besides the two most common ones. -/
def newline : Charset := .ofText "B-C 85 2028-2029"

def extend : Charset :=
  (extending.union Binary.emojiModifier).diff joiner

def format : Charset :=
  ((members ["cf"]).diff (Binary.prependedMark.union Binary.graphemeExtend)).diff
    (.ofText "200B-200D")

def katakana : Charset :=
  (Script.members "kana").union (.ofText "3031-3035 309B-309C 30A0 30FC FF70")

def hebrewLetter : Charset :=
  (Script.members "hebr").inter (members ["lo"])

/-- The scripts whose words are not told apart by blanks. -/
def unspaced : Charset :=
  ["ahom", "hira", "khmr", "lana", "laoo", "mymr", "tale", "talu", "tavt", "thai"].foldl
    (fun s label => s.union (Script.members label)) .empty

/-- The letters of words, but those that have a class of their own. -/
def letter : Charset :=
  (Binary.alphabetic.union (.ofLines [
    "B8 2C2-2C5 2D2-2D7 2DE-2DF 2E5-2EB 2ED 2EF-2FF 55A-55C 55E 58A 5F3 70F A708-A716 A720-A721",
    "A789-A78A AB5B"])).diff
      (((Binary.ideographic.union katakana).union (unspaced.union extend)).union hebrewLetter)

/-- The signs that do not break a word between letters. -/
def midLetter : Charset := .ofText "3A B7 387 55F 5F4 2027 FE13 FE55 FF1A"

/-- The signs that do not break a number. -/
def midNumber : Charset := .ofLines [
  "2C 3B 37E 589 60C-60D 66C 7F8 2044 FE50 FE54 FF0C FF1B"]

/-- The signs that break neither. -/
def midBoth : Charset := .ofText "2E 2018-2019 2024 FE52 FF07 FF0E"

/-- The signs that connect letters and numbers alike. -/
def connector : Charset :=
  (members ["pc"]).union (.ofText "202F")

/-- The blanks at which a line may be broken. -/
def blank : Charset :=
  (members ["zs"]).diff (.ofText "A0 2007 202F")

def singleQuote : Charset := .ofText "27"

def doubleQuote : Charset := .ofText "22"

/-- The class with a name. -/
def ofName? : String → Option Charset
  | "cr" => some carriageReturn
  | "dq" | "doublequote" => some doubleQuote
  | "ex" | "extendnumlet" => some connector
  | "extend" => some extend
  | "fo" | "format" => some format
  | "hl" | "hebrewletter" => some hebrewLetter
  | "ka" | "katakana" => some katakana
  | "le" | "aletter" => some letter
  | "lf" => some lineFeed
  | "mb" | "midnumlet" => some midBoth
  | "ml" | "midletter" => some midLetter
  | "mn" | "midnum" => some midNumber
  | "nl" | "newline" => some newline
  | "nu" | "numeric" => some digits
  | "ri" | "regionalindicator" => some Binary.regionalIndicator
  | "sq" | "singlequote" => some singleQuote
  | "wsegspace" => some blank
  | "zwj" => some joiner
  | _ => none

end Word

/-! ## Breaks between sentences -/

namespace Sentence

def extend : Charset :=
  extending.union joiner

def separator : Charset := .ofText "85 2028-2029"

def format : Charset :=
  ((members ["cf"]).diff Binary.graphemeExtend).diff
    ((Charset.ofText "200C-200D").union (Binary.prependedMark.diff (.ofText "70F")))

def blank : Charset :=
  ((Binary.whiteSpace.diff separator).diff carriageReturn).diff lineFeed

/-- Small letters. The small letters of Georgian count among the others. -/
def lower : Charset :=
  (Binary.lowercase.diff Binary.graphemeExtend).diff (.ofText "10D0-10FA 10FD-10FF")

/-- Capital letters, but those of Georgian. -/
def upper : Charset :=
  ((members ["lt"]).union Binary.uppercase).diff (.ofText "1C90-1CBA 1CBD-1CBF")

def numeric : Charset :=
  digits.union (.ofText "66C")

/-- The letters that have no case here. -/
def otherLetter : Charset :=
  (Binary.alphabetic.union (.ofText "5F3")).diff ((lower.union upper).union extend)

/-- The signs like a full stop, which can also end an abbreviation. -/
def ambiguousEnd : Charset := .ofText "2E 2024 FE52 FF0E"

/-- The signs that can only end a sentence. -/
def clearEnd : Charset :=
  Binary.sentenceTerminal.diff ambiguousEnd

/-- Brackets and quotation marks. -/
def close : Charset :=
  (members ["pe", "pf", "pi", "ps"]).union (.ofLines [
    "22 27 275B-2760 2E00-2E01 2E06-2E08 2E0B 1F676-1F678"])

/-- The signs after which the sentence goes on. -/
def continuing : Charset := .ofLines [
  "2C-2D 3A-3B 37E 55D 60C-60D 7F8 1802 1808 2013-2014 3001 FE10-FE11 FE13-FE14 FE31-FE32",
  "FE50-FE51 FE54-FE55 FE58 FE63 FF0C-FF0D FF1A-FF1B FF64"]

/-- The class with a name. -/
def ofName? : String → Option Charset
  | "at" | "aterm" => some ambiguousEnd
  | "cl" | "close" => some close
  | "cr" => some carriageReturn
  | "ex" | "extend" => some extend
  | "fo" | "format" => some format
  | "le" | "oletter" => some otherLetter
  | "lf" => some lineFeed
  | "lo" | "lower" => some lower
  | "nu" | "numeric" => some numeric
  | "sc" | "scontinue" => some continuing
  | "se" | "sep" => some separator
  | "sp" => some blank
  | "st" | "sterm" => some clearEnd
  | "up" | "upper" => some upper
  | _ => none

end Sentence

end CorpusQuery.Pattern.Break
