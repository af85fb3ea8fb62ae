import LineComment.Config.Basic
import LineComment.Json.Basic

namespace LineComment.Config

inductive Invalid
  | notObject
  | notStrings (field : Field)
  | notCount (field : Field)
  deriving DecidableEq

def Invalid.message : Invalid → String
  | .notObject => "Config must be a JSON object"
  | .notStrings field => "Invalid field: " ++ field.name ++ " (must be an array of strings)"
  | .notCount field => "Invalid field: " ++ field.name ++ " (must be a non-negative integer)"

def readField {α : Type} (members : List (Wide × Json)) (field : Field)
    (read : Json → Option α) (invalid : Field → Invalid) : Except Invalid (Option α) :=
  match Json.member? field.name members with
  | none => .ok none
  | some value =>
    match read value with
    | some found => .ok (some found)
    | none => .error (invalid field)

def Layer.ofJson : Json → Except Invalid Layer
  | .object members => do
    let extensions ← readField members .extensions Json.strings? .notStrings
    let exclude ← readField members .exclude Json.strings? .notStrings
    let markers ← readField members .markers Json.strings? .notStrings
    let trivialPhrases ← readField members .trivialPhrases Json.strings? .notStrings
    let shortCommentLength ← readField members .shortCommentLength Json.count? .notCount
    let headerLines ← readField members .headerLines Json.count? .notCount
    return {
      extensions := extensions.map (·.map dotted)
      exclude, markers, trivialPhrases, shortCommentLength, headerLines }
  | _ => .error .notObject

end LineComment.Config
