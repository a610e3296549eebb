import CorpusQuery.Pattern.Age
import CorpusQuery.Pattern.Break

/-!
# Properties of characters

The sets of characters that a pattern may ask for by a Unicode property: by the name of a binary
property, of a general category or of a script alone, or by a property with one of its values. Names
are compared in lower case without blanks, hyphens and underscores, and without a leading `is`.
-/

namespace CorpusQuery.Pattern

namespace Property

/-- A name as it is compared. The leading `is` stays where only the name of one other property would
be left. -/
def normalize (cs : List Char) : String :=
  let fold (cs : List Char) : List Char :=
    (cs.filter fun c => c.toNat < 128 && c != ' ' && c != '_' && c != '-').map Char.toLower
  match cs with
  | i :: s :: rest =>
    if i.toLower = 'i' ∧ s.toLower = 's' then
      if fold rest = ['c'] then "isc" else String.ofList (fold rest)
    else
      String.ofList (fold cs)
  | cs => String.ofList (fold cs)

/-- The set of characters that a name stands for by itself. -/
def ofName? (name : List Char) : Option Charset :=
  let n := normalize name
  Binary.ofName? n <|> Category.ofName? n <|> (Script.label? n).map Script.members

/-- The set of characters for which a property has a value. -/
def ofValue? (name value : List Char) : Option Charset :=
  let v := normalize value
  match normalize name with
  | "gc" | "generalcategory" | "category" => Category.ofName? v
  | "sc" | "script" => (Script.label? v).map Script.members
  | "scx" | "scriptextensions" => (Script.label? v).map Script.extended
  | "age" => Age.ofName? v
  | "gcb" | "graphemeclusterbreak" => Break.Cluster.ofName? v
  | "wb" | "wordbreak" => Break.Word.ofName? v
  | "sb" | "sentencebreak" => Break.Sentence.ofName? v
  | _ => none

/-- The text before the first place where `sign` stands, and the text after it. -/
def splitAt? (sign : List Char) : List Char → Option (List Char × List Char)
  | [] => none
  | c :: cs =>
    if sign.isPrefixOf (c :: cs) then some ([], (c :: cs).drop sign.length)
    else (splitAt? sign cs).map fun (before, after) => (c :: before, after)

/-- The set that is asked for in the braces: by a name, or by a property and a value with `!=`, `:`
or `=` between them, of which the first in this order that occurs counts. -/
def ofQuery? (cs : List Char) : Option Charset :=
  match splitAt? ['!', '='] cs <|> splitAt? [':'] cs <|> splitAt? ['='] cs with
  | some (name, value) => ofValue? name value
  | none => ofName? cs

end Property

end CorpusQuery.Pattern
